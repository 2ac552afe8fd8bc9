/-
# Reading JSON

A reader takes the characters before it and returns a document with the characters left, or
nothing.  Containers may be nested to a fixed depth, which is also what the recursion is on.
Whole numbers keep all their digits as long as they fit 64 bits; every other number becomes a
float by multiplying or dividing the first digits that fit 64 bits by a power of ten, which is
near the number but not always nearest to it.  A float too large for 64 bits is refused.
-/
import BulkValues.Json.Basic
import BulkValues.Number.Reader
import BulkValues.Text.Hex

namespace BulkValues

open BulkValues.Number BulkValues.Text

-- The power is the core library's, also where another one is in scope.
attribute [local instance (high)] instPowNat

namespace Json

/-- The characters that may stand between the parts of a document. -/
def isSpace (c : Char) : Bool := c == ' ' || c == '\n' || c == '\t' || c == '\r'

/-- The text after leading spaces. -/
def skipSpaces (cs : List Char) : List Char := cs.dropWhile isSpace

/-! ## Numbers -/

/-- The largest whole number that is kept exactly. -/
def maxWhole : Nat := 2 ^ (64 : Nat) - 1

/-- The digits taken into the significand, one by one for as long as it fits 64 bits, and the
digits left over. -/
def takeSignificand (n : Nat) : List Char → Nat × List Char
  | [] => (n, [])
  | d :: ds =>
    let m := 10 * n + digitValue d
    if m ≤ maxWhole then takeSignificand m ds else (n, d :: ds)

/-- The power of ten as a float. -/
def powerOfTen (k : Nat) : Float := Float.ofScientific 1 false k

/-- `f` times `10 ^ exp`, dividing in steps for exponents below -308; nothing on overflow. -/
def scaleFloat (exp : Int) (f : Float) : Option Float :=
  if 0 ≤ exp then
    if exp ≤ 308 then
      let r := f * powerOfTen exp.toNat
      if r.isInf then none else some r
    else if f == 0.0 then some f else none
  else if -308 ≤ exp then some (f / powerOfTen exp.natAbs)
  else if f == 0.0 then some f
  else if exp < -1000 then some 0.0
  else scaleFloat (exp + 308) (f / powerOfTen 308)
termination_by exp.natAbs
decreasing_by omega

/-- The float `±significand * 10 ^ exp`. -/
def assembleFloat (negative : Bool) (significand : Nat) (exp : Int) : Option JsonNumber :=
  (scaleFloat exp (Float.ofScientific significand false 0)).map fun f =>
    let x := Binary64.ofFloat f
    .float (if negative then x.neg else x)

/-- The exponent part, if one follows: its value and the characters left. -/
def readExponent (cs : List Char) : Option (Option Int × List Char) :=
  match cs with
  | e :: r =>
    if e == 'e' || e == 'E' then
      let (negative, r) := match r with
        | '-' :: r => (true, r)
        | '+' :: r => (false, r)
        | r => (false, r)
      let ds := r.takeWhile isAsciiDigit
      if ds.isEmpty then none
      else
        let n : Int := digitsValue ds
        some (some (if negative then -n else n), r.dropWhile isAsciiDigit)
    else some (none, cs)
  | [] => some (none, [])

/-- The exponent that a float is assembled with: what the exponent part says, moved by the
places taken; an exponent part too large to hold decides alone. -/
def totalExponent (places : Int) (e : Option Int) : Int :=
  match e with
  | none => places
  | some e => if e.natAbs < 2 ^ (31 : Nat) then places + e else e

/-- A number after its sign. -/
def readUnsigned (negative : Bool) (cs : List Char) : Option (JsonNumber × List Char) := do
  let whole := cs.takeWhile isAsciiDigit
  let rest := cs.dropWhile isAsciiDigit
  if whole.isEmpty || (whole.head? == some '0' && 1 < whole.length) then none
  else
    let (significand, spare) := takeSignificand 0 whole
    let point := rest.head? == some '.'
    let places := if point then rest.tail.takeWhile isAsciiDigit else []
    let rest := if point then rest.tail.dropWhile isAsciiDigit else rest
    if point && places.isEmpty then none
    else
      let (e, rest) ← readExponent rest
      if !point && e.isNone && spare.isEmpty then
        if !negative then some (.natural significand, rest)
        else if significand = 0 then some (.float Binary64.zero.neg, rest)
        else if significand ≤ 2 ^ (63 : Nat) then some (.negative (-(significand : Int)), rest)
        else (assembleFloat true significand 0).map fun n => (n, rest)
      else
        let (full, unread) := takeSignificand significand places
        let taken : Int := places.length - unread.length
        let number ← assembleFloat negative full (totalExponent (spare.length - taken) e)
        pure (number, rest)

/-- A number. -/
def readNumber (cs : List Char) : Option (JsonNumber × List Char) :=
  match cs with
  | '-' :: r => readUnsigned true r
  | _ => readUnsigned false cs

/-! ## Strings -/

/-- Four hexadecimal digits. -/
def readUnit : List Char → Option (Nat × List Char)
  | a :: b :: c :: d :: r => do
    let a ← hexValue? a
    let b ← hexValue? b
    let c ← hexValue? c
    let d ← hexValue? d
    pure (((a * 16 + b) * 16 + c) * 16 + d, r)
  | _ => none

/-- The character of an escape after `\u`: one unit, or two that form a pair. -/
def readUnicodeEscape (cs : List Char) : Option (Char × List Char) := do
  let (u, rest) ← readUnit cs
  if 0xDC00 ≤ u && u ≤ 0xDFFF then none
  else if 0xD800 ≤ u && u ≤ 0xDBFF then
    match rest with
    | '\\' :: 'u' :: rest =>
      let (v, rest) ← readUnit rest
      if 0xDC00 ≤ v && v ≤ 0xDFFF then
        some (Char.ofNat (0x10000 + (u - 0xD800) * 0x400 + (v - 0xDC00)), rest)
      else none
    | _ => none
  else some (Char.ofNat u, rest)

/-- The character that a letter stands for after a backslash. -/
def unescape? : Char → Option Char
  | '"' => some '"'
  | '\\' => some '\\'
  | '/' => some '/'
  | 'b' => some '\x08'
  | 'f' => some '\x0c'
  | 'n' => some '\n'
  | 'r' => some '\r'
  | 't' => some '\t'
  | _ => none

/-- The characters of a string up to its closing quote, within `fuel` steps. -/
def readStringChars : Nat → List Char → Option (List Char × List Char)
  | 0, _ => none
  | fuel + 1, cs =>
    match cs with
    | '"' :: r => some ([], r)
    | '\\' :: 'u' :: r => do
      let (c, r) ← readUnicodeEscape r
      let (s, r) ← readStringChars fuel r
      pure (c :: s, r)
    | '\\' :: e :: r => do
      let c ← unescape? e
      let (s, r) ← readStringChars fuel r
      pure (c :: s, r)
    | c :: r =>
      if c.toNat < 0x20 || c == '\\' then none
      else do
        let (s, r) ← readStringChars fuel r
        pure (c :: s, r)
    | [] => none

/-- A string after its opening quote. -/
def readString (cs : List Char) : Option (String × List Char) :=
  (readStringChars (cs.length + 1) cs).map fun p => (String.ofList p.1, p.2)

/-! ## Documents -/

/-- Items of a list after its first bracket or a comma, each read by `item`. -/
def readItems {α : Type} (item : List Char → Option (α × List Char)) (close : Char) :
    Nat → List Char → Option (List α × List Char)
  | 0, _ => none
  | fuel + 1, cs => do
    let (x, cs) ← item cs
    match skipSpaces cs with
    | ',' :: cs => do
      let (xs, cs) ← readItems item close fuel cs
      pure (x :: xs, cs)
    | c :: cs => if c = close then some ([x], cs) else none
    | [] => none

/-- A list after its first bracket, which may be empty. -/
def readList {α : Type} (item : List Char → Option (α × List Char)) (close : Char)
    (cs : List Char) : Option (List α × List Char) :=
  match skipSpaces cs with
  | c :: r => if c = close then some ([], r) else readItems item close (cs.length + 1) cs
  | [] => none

/-- A name, a colon and a value. -/
def readField (value : List Char → Option (Json × List Char)) (cs : List Char) :
    Option ((String × Json) × List Char) :=
  match skipSpaces cs with
  | '"' :: cs => do
    let (name, cs) ← readString cs
    match skipSpaces cs with
    | ':' :: cs => do
      let (v, cs) ← value cs
      pure ((name, v), cs)
    | _ => none
  | _ => none

/-- The text after a word that it must start with. -/
def readWord (word cs : List Char) : Option (List Char) :=
  if word.isPrefixOf cs then some (cs.drop word.length) else none

/-- A value with at most `depth` containers inside one another; the fields of objects are
left as they are written. -/
def readValue : Nat → List Char → Option (Json × List Char)
  | depth, cs =>
    match skipSpaces cs with
    | '"' :: r => (readString r).map fun p => (string p.1, p.2)
    | '[' :: r =>
      match depth with
      | 0 => none
      | depth + 1 => (readList (readValue depth) ']' r).map fun p => (array p.1, p.2)
    | '{' :: r =>
      match depth with
      | 0 => none
      | depth + 1 =>
        (readList (readField (readValue depth)) '}' r).map fun p => (object p.1, p.2)
    | 't' :: r => (readWord ['r', 'u', 'e'] r).map fun r => (bool true, r)
    | 'f' :: r => (readWord ['a', 'l', 's', 'e'] r).map fun r => (bool false, r)
    | 'n' :: r => (readWord ['u', 'l', 'l'] r).map fun r => (null, r)
    | r => (readNumber r).map fun p => (number p.1, p.2)

/-- The number of containers that may be nested. -/
def maxDepth : Nat := 127

/-- A document with its fields as they are written, and nothing after it. -/
def readVerbatim? (s : String) : Option Json := do
  let (doc, rest) ← readValue maxDepth s.toList
  if (skipSpaces rest).isEmpty then some doc else none

/-- A document. -/
def read? (s : String) : Option Json := (readVerbatim? s).map normalize

end Json

end BulkValues
