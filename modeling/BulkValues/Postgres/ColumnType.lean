/-
# Types of columns and parameters

The types that have a binary form of their own here.  Every other type is known by its name
only and travels as text.
-/

namespace BulkValues.Postgres

/-- The type of a column or of a parameter. -/
inductive ColumnType where
  | bool
  | int2
  | int4
  | int8
  | float4
  | float8
  | numeric
  /-- The types of text, under the name of each. -/
  | text (name : String)
  | bytea
  | uuid
  | json
  | jsonb
  | date
  | time
  | timestamp
  | timestamptz
  /-- Arrays of a type whose items have a form of their own. -/
  | arrayOf (item : ColumnType)
  | other (name : String)
deriving DecidableEq, Repr

namespace ColumnType

/-- The scalar type of a name. -/
def ofScalarName? : String → Option ColumnType
  | "bool" => some bool
  | "int2" => some int2
  | "int4" => some int4
  | "int8" => some int8
  | "float4" => some float4
  | "float8" => some float8
  | "numeric" => some numeric
  | "text" => some (text "text")
  | "varchar" => some (text "varchar")
  | "bpchar" => some (text "bpchar")
  | "name" => some (text "name")
  | "bytea" => some bytea
  | "uuid" => some uuid
  | "json" => some json
  | "jsonb" => some jsonb
  | "date" => some date
  | "time" => some time
  | "timestamp" => some timestamp
  | "timestamptz" => some timestamptz
  | _ => none

/-- Whether arrays of a type have a form of their own. -/
def hasArrays : ColumnType → Bool
  | bool | int2 | int4 | int8 | float8 | text _ => true
  | _ => false

/-- The type of a name; the name of an array type is that of its items after an underscore. -/
def ofName (name : String) : ColumnType :=
  match ofScalarName? name with
  | some t => t
  | none =>
    match name.toList with
    | '_' :: item =>
      match ofScalarName? (String.ofList item) with
      | some t => if t.hasArrays then arrayOf t else other name
      | none => other name
    | _ => other name

/-- The name of a type. -/
def name : ColumnType → String
  | bool => "bool"
  | int2 => "int2"
  | int4 => "int4"
  | int8 => "int8"
  | float4 => "float4"
  | float8 => "float8"
  | numeric => "numeric"
  | text name => name
  | bytea => "bytea"
  | uuid => "uuid"
  | json => "json"
  | jsonb => "jsonb"
  | date => "date"
  | time => "time"
  | timestamp => "timestamp"
  | timestamptz => "timestamptz"
  | arrayOf item => "_" ++ item.name
  | other name => name

end ColumnType

end BulkValues.Postgres
