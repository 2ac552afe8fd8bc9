/-
# SQL literals

A value is embedded in a statement as a literal.  A dialect decides its text: standard SQL
for what all databases share, and two dialects with the forms of their databases for
booleans, special floats, bytes, JSON and arrays.  Decimals are embedded without quotes, so
their text must be a plain number.
-/
import BulkValues.Error
import BulkValues.Json.Printer
import BulkValues.Text.Word
import BulkValues.Value.Json

namespace BulkValues

open BulkValues.Number BulkValues.Text

/-- The ways to write literals. -/
inductive Dialect where
  /-- Standard SQL. -/
  | ansi
  /-- PostgreSQL with standard-conforming strings. -/
  | postgres
  /-- SQLite. -/
  | sqlite
deriving DecidableEq, Repr

namespace Literal

/-- Inside a quoted string a quote is written twice. -/
def doubleQuotes : List Char → List Char
  | [] => []
  | c :: r => if c = '\'' then '\'' :: '\'' :: doubleQuotes r else c :: doubleQuotes r

/-- A string in single quotes. -/
def quoted (s : String) : String := String.ofList ('\'' :: (doubleQuotes s.toList ++ ['\'']))

/-! ## Decimals -/

/-- The text after an optional sign. -/
def dropSign : List Char → List Char
  | '+' :: r => r
  | '-' :: r => r
  | cs => cs

/-- Whether a text is a run of at least one digit. -/
def isDigits (cs : List Char) : Bool := !cs.isEmpty && cs.all isDigit

/-- Whether a text is empty or an exponent: a mark, an optional sign and digits. -/
def isExponent : List Char → Bool
  | [] => true
  | e :: r => (e == 'e' || e == 'E') && isDigits (dropSign r)

/-- Whether a text is a plain number: an optional sign; digits with an optional point and
digits after it, or a point and digits; an optional exponent. Digits of every script count. -/
def isNumber (cs : List Char) : Bool :=
  let cs := dropSign cs
  let rest := cs.dropWhile isDigit
  if (cs.takeWhile isDigit).isEmpty then
    match rest with
    | '.' :: r => !(r.takeWhile isDigit).isEmpty && isExponent (r.dropWhile isDigit)
    | _ => false
  else
    match rest with
    | '.' :: r => isExponent (r.dropWhile isDigit)
    | r => isExponent r

/-- The literal of a decimal: its text, if that is a plain number. -/
def decimal (text : String) : Except Error String :=
  if isNumber text.toList then .ok text else .error (.notNumeric text)

/-! ## Floats -/

/-- A float with a point, so that it reads back as a float. -/
def float (x : Binary64) : String :=
  let text := x.display
  if text.toList.any fun c => c == '.' || c == 'e' || c == 'E' then text else text ++ ".0"

/-- A finite float in standard SQL. -/
def finiteFloat (x : Binary64) : Except Error String :=
  if x.isFinite then .ok (float x) else .error (.nonFiniteFloat x.display)

/-- A float in PostgreSQL, where the special values are quoted and given their type. -/
def postgresFloat (x : Binary64) (type : String) : String :=
  if x.isNaN then "'NaN'::" ++ type
  else if x.isInfinite then
    "'" ++ (if x.isNegative then "-" else "") ++ "Infinity'::" ++ type
  else float x

/-- A float in SQLite, which reads numbers out of range as infinite. -/
def sqliteFloat (x : Binary64) : Except Error String :=
  if x.isNaN then .error .nanLiteral
  else if x.isInfinite then .ok (if x.isNegative then "-9e999" else "9e999")
  else .ok (float x)

/-! ## Dialects -/

/-- A literal of standard SQL. -/
def ansi : Value → Except Error String
  | .null => .ok "NULL"
  | .bool b => .ok (if b then "TRUE" else "FALSE")
  | .int16 n => .ok (toString n.toInt)
  | .int32 n => .ok (toString n.toInt)
  | .int64 n => .ok (toString n.toInt)
  | .float32 x => finiteFloat x.widen
  | .float64 x => finiteFloat x
  | .decimal text => decimal text
  | .string s => .ok (quoted s)
  | .bytes bs => .ok ("X'" ++ hexText bs ++ "'")
  | .uuid u => .ok (quoted u.text)
  | .date d => .ok (quoted d.text)
  | .time t => .ok (quoted t.text)
  | .dateTime t => .ok (quoted t.text)
  | .instant t => .ok (quoted (Value.instantText t))
  | .json doc => .ok (quoted doc.text)
  | .array _ => .error .arrayLiteral
  | .map _ => .error .nestedMapping

/-- The special decimals of PostgreSQL, and plain numbers. -/
def postgresDecimal (text : String) : Except Error String :=
  if text = "NaN" ∨ text = "Infinity" ∨ text = "-Infinity" then
    .ok ("'" ++ text ++ "'::numeric")
  else if text = "+Infinity" then .ok "'Infinity'::numeric"
  else decimal text

mutual

/-- A literal of PostgreSQL. -/
def postgres : Value → Except Error String
  | .float32 x => .ok (postgresFloat x.widen "float4")
  | .float64 x => .ok (postgresFloat x "float8")
  | .decimal text => postgresDecimal text
  | .bytes bs => .ok ("'\\x" ++ hexText bs ++ "'::bytea")
  | .json doc => .ok (quoted doc.text ++ "::jsonb")
  | .array [] => .ok "'\x7b\x7d'"
  | .array (item :: rest) => do
    let items ← postgresItems (item :: rest)
    pure ("ARRAY[" ++ ", ".intercalate items ++ "]")
  | v => ansi v

/-- The literals of the items of an array. -/
def postgresItems : List Value → Except Error (List String)
  | [] => .ok []
  | item :: rest => do
    let text ← postgres item
    let texts ← postgresItems rest
    pure (text :: texts)

end

/-- The infinite decimals of SQLite, and plain numbers. -/
def sqliteDecimal (text : String) : Except Error String :=
  if text = "Infinity" ∨ text = "+Infinity" then .ok "9e999"
  else if text = "-Infinity" then .ok "-9e999"
  else decimal text

/-- A literal of SQLite, which keeps booleans as numbers and documents and arrays as text. -/
def sqlite : Value → Except Error String
  | .bool b => .ok (if b then "1" else "0")
  | .float32 x => sqliteFloat x.widen
  | .float64 x => sqliteFloat x
  | .decimal text => sqliteDecimal text
  | .array items => .ok (quoted (Value.toJson (.array items)).text)
  | v => ansi v

end Literal

/-- The literal of a value in a dialect. -/
def Dialect.literal : Dialect → Value → Except Error String
  | .ansi => Literal.ansi
  | .postgres => Literal.postgres
  | .sqlite => Literal.sqlite

end BulkValues
