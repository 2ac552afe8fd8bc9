/-
# Statements on one table

The statements of this model: the definition of the one table it knows, rows put in and taken
out, the table read by its key or counted, and a list of rows read as if it were a table.
Reading stops at the first lexeme that does not belong, and the refusal points at it.
-/
import BulkValues.Sqlite.Constant
import BulkValues.Sqlite.Engine

namespace BulkValues.Sqlite

/-- One value of a row in a statement. -/
inductive Term where
  /-- A literal. -/
  | constant (value : Stored)
  /-- The parameter with a number, from zero. -/
  | parameter (index : Nat)
  /-- A name, which no row of values can refer to. -/
  | name (text : String) (offset : Nat)
deriving DecidableEq, Repr

/-- A statement. -/
inductive Statement where
  /-- Define a table; `offset` is the byte of its name. -/
  | create (table : String) (offset : Nat)
  /-- Put rows into a table, and return them if asked to. -/
  | insert (table : String) (columns : Option (List String)) (rows : List (List Term))
      (returning : Bool)
  /-- Take out the rows whose key is not below a bound. -/
  | delete (table : String) (bound : Term)
  /-- All rows by their key. -/
  | all (table : String)
  /-- The number of rows, under a name. -/
  | count (table name : String)
  /-- The rows of a list under the names of columns. -/
  | list (table : String) (columns : List String) (rows : List (List Term))
deriving DecidableEq, Repr

namespace Statement

/-- A reader of a part of a statement takes lexemes from the front of a list. It fails with the
lexemes at whose start something else was expected. -/
abbrev Reader (α : Type) := StateT (List Lexeme) (Except (List Lexeme)) α

/-- Take one lexeme for which `f` has a value. -/
def take {α : Type} (f : Lexeme → Option α) : Reader α
  | [] => .error []
  | l :: rest =>
    match f l with
    | some a => .ok (a, rest)
    | none => .error (l :: rest)

/-- Whether the next lexeme passes a test. -/
def next (p : Lexeme → Bool) : Reader Bool := fun ls => .ok (ls.head?.any p, ls)

/-- A keyword. -/
def keyword (word : String) : Reader Unit :=
  take fun l => if l.isKeyword word then some () else none

/-- A piece of punctuation. -/
def symbol (text : String) : Reader Unit :=
  take fun l => if l.isSymbol text then some () else none

/-- A name. -/
def name : Reader String :=
  take fun l => if l.kind = .word then some (String.ofList l.text) else none

/-- Items with commas between them, at most `fuel` of them. -/
def itemsWithin {α : Type} (item : Reader α) : Nat → Reader (List α)
  | 0 => fun ls => .error ls
  | fuel + 1 => do
    let first ← item
    if ← next (·.isSymbol ",") then
      symbol ","
      let rest ← itemsWithin item fuel
      pure (first :: rest)
    else pure [first]

/-- Items with commas between them; there are not more than lexemes. -/
def items {α : Type} (item : Reader α) : Reader (List α) :=
  fun ls => itemsWithin item ls.length ls

/-- What stands in brackets. -/
def bracketed {α : Type} (inner : Reader α) : Reader α := do
  symbol "("
  let a ← inner
  symbol ")"
  pure a

/-- One value: a literal, a parameter or a name. -/
def unsignedTerm (negative : Bool) : Reader Term :=
  take fun l =>
    match Stored.ofLexeme? negative l with
    | some value => some (.constant value)
    | none =>
      match l.kind with
      | .word => some (.name (String.ofList l.text) l.offset)
      | .parameter => some (.parameter (Number.digitsValue (l.text.drop 1) - 1))
      | _ => none

/-- One value, which may have a sign. -/
def term : Reader Term := do
  if ← next (·.isSymbol "-") then
    symbol "-"
    unsignedTerm true
  else if ← next (·.isSymbol "+") then
    symbol "+"
    unsignedTerm false
  else unsignedTerm false

/-- The rows after the keyword of a list of values. -/
def rows : Reader (List (List Term)) := do
  keyword "VALUES"
  items (bracketed (items term))

/-- The columns of the table. -/
def columns : List String := ["id", "name", "meta"]

/-- The definitions of the columns of the table. -/
def definitions : Reader Unit := do
  keyword "ID"; keyword "INTEGER"; keyword "PRIMARY"; keyword "KEY"; symbol ","
  keyword "NAME"; keyword "TEXT"; keyword "NOT"; keyword "NULL"; keyword "UNIQUE"; symbol ","
  keyword "META"

/-- The definition of a table. -/
def readCreate : Reader Statement := do
  keyword "CREATE"
  keyword "TABLE"
  let (table, offset) ← take fun l =>
    if l.kind = .word then some (String.ofList l.text, l.offset) else none
  bracketed definitions
  pure (.create table offset)

/-- Rows put into a table. -/
def readInsert : Reader Statement := do
  keyword "INSERT"
  keyword "INTO"
  let table ← name
  let columns ←
    if ← next (·.isSymbol "(") then some <$> bracketed (items name) else pure none
  let rows ← rows
  if ← next (·.isKeyword "RETURNING") then
    keyword "RETURNING"
    keyword "ID"; symbol ","; keyword "NAME"; symbol ","; keyword "META"
    pure (.insert table columns rows true)
  else pure (.insert table columns rows false)

/-- Rows taken out of a table. -/
def readDelete : Reader Statement := do
  keyword "DELETE"
  keyword "FROM"
  let table ← name
  keyword "WHERE"
  keyword "ID"
  symbol ">="
  .delete table <$> term

/-- A table read by its key, or counted. -/
def readSelect : Reader Statement := do
  keyword "SELECT"
  if ← next (·.isKeyword "COUNT") then
    keyword "COUNT"
    bracketed (symbol "*")
    keyword "AS"
    let column ← name
    keyword "FROM"
    return .count (← name) column
  else
    if ← next (·.isSymbol "*") then symbol "*"
    else keyword "ID"; symbol ","; keyword "NAME"; symbol ","; keyword "META"
    keyword "FROM"
    let table ← name
    if ← next (·.isKeyword "ORDER") then
      keyword "ORDER"
      keyword "BY"
      keyword "ID"
    pure (.all table)

/-- A list of rows read as a table, all its columns in order. -/
def readList : Reader Statement := do
  keyword "WITH"
  let table ← name
  let columns ← bracketed (items name)
  keyword "AS"
  let rows ← bracketed rows
  keyword "SELECT"
  columns.zipIdx.forM fun (column, i) => do
    if i ≠ 0 then symbol ","
    keyword (column.map Char.toUpper)
  keyword "FROM"
  keyword (table.map Char.toUpper)
  pure (.list table columns rows)

/-- A statement by its first keyword. -/
def reader : Reader Statement := do
  if ← next (·.isKeyword "CREATE") then readCreate
  else if ← next (·.isKeyword "INSERT") then readInsert
  else if ← next (·.isKeyword "DELETE") then readDelete
  else if ← next (·.isKeyword "WITH") then readList
  else readSelect

/-- The refusal of a statement that cannot be read on from some of its lexemes. -/
def refusalAt (sql : String) : List Lexeme → Refusal
  | [] => .plain "incomplete input"
  | l :: _ =>
    let quoted := "\"" ++ String.ofList l.text ++ "\""
    if l.kind = .broken then .located ("unrecognized token: " ++ quoted) sql l.offset
    else .located ("near " ++ quoted ++ ": syntax error") sql l.offset

/-- A statement from its text. -/
def read (sql : String) : Except Refusal Statement :=
  match reader (Lexeme.read sql) with
  | .ok (s, []) => .ok s
  | .ok (_, rest) => .error (refusalAt sql rest)
  | .error rest => .error (refusalAt sql rest)

end Statement

end BulkValues.Sqlite
