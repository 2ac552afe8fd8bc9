/-
# Writing JSON

Documents are written without blanks.  In a string the quote, the backslash and the control
characters are escaped, by their short forms where there is one; every other character
stands for itself.
-/
import BulkValues.Json.Basic
import BulkValues.Number.Style
import BulkValues.Text.Hex

namespace BulkValues

open BulkValues.Number BulkValues.Text

namespace Json

/-- How one character is written inside a string. -/
def escapeChar (c : Char) : List Char :=
  if c = '"' then ['\\', '"']
  else if c = '\\' then ['\\', '\\']
  else if c = '\n' then ['\\', 'n']
  else if c = '\r' then ['\\', 'r']
  else if c = '\t' then ['\\', 't']
  else if c = '\x08' then ['\\', 'b']
  else if c = '\x0c' then ['\\', 'f']
  else if c.toNat < 0x20 then
    ['\\', 'u', '0', '0', hexDigit (c.toNat / 16), hexDigit (c.toNat % 16)]
  else [c]

/-- A string in quotes. -/
def quoteChars (s : String) : List Char := '"' :: (s.toList.flatMap escapeChar ++ ['"'])

/-- A string in quotes. -/
def quote (s : String) : String := String.ofList (quoteChars s)

/-- A finite 64-bit float as a JSON number. -/
def floatText (x : Binary64) : String := Style.json64.render x.isNegative x.magnitude

/-- A number. -/
def numberText : JsonNumber → String
  | .natural n => toString n
  | .negative n => toString n
  | .float x => if x.isFinite then floatText x else "null"

mutual

/-- The text of a document. -/
def text : Json → String
  | null => "null"
  | bool b => if b then "true" else "false"
  | number n => numberText n
  | string s => quote s
  | array items => "[" ++ itemsText items ++ "]"
  | object fields => "\x7b" ++ fieldsText fields ++ "\x7d"

/-- Items with commas between them. -/
def itemsText : List Json → String
  | [] => ""
  | [item] => text item
  | item :: rest => text item ++ "," ++ itemsText rest

/-- Fields with commas between them. -/
def fieldsText : List (String × Json) → String
  | [] => ""
  | [(name, value)] => quote name ++ ":" ++ text value
  | (name, value) :: rest => quote name ++ ":" ++ text value ++ "," ++ fieldsText rest

end

end Json

end BulkValues
