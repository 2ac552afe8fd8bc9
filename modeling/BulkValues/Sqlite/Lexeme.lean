/-
# The words of a SQL statement

A statement is cut into lexemes from left to right, each as long as it can be.  Blanks between
them are dropped.  A lexeme keeps its text and the byte at which it starts, so that a refusal
can point at it; a piece that starts like a lexeme but is none is kept as a broken one, since
it is only refused when the reading of the statement arrives at it.
-/
import BulkValues.Text.Hex
import BulkValues.Text.Word

namespace BulkValues.Sqlite

open BulkValues.Text

-- The zero of a sum is the core library's, also where another one is in scope.
attribute [local instance (high)] Zero.ofOfNat0

/-- What a lexeme is. -/
inductive LexemeKind where
  /-- White space. -/
  | blank
  /-- A keyword or a name. -/
  | word
  /-- Digits alone. -/
  | integer
  /-- Digits with a point or an exponent. -/
  | real
  /-- A quoted string. -/
  | text
  /-- Quoted hexadecimal digits. -/
  | blob
  /-- A question mark and a number. -/
  | parameter
  /-- Punctuation. -/
  | symbol
  /-- No lexeme at all. -/
  | broken
deriving DecidableEq, Repr

/-- One lexeme of a statement. -/
structure Lexeme where
  /-- What it is. -/
  kind : LexemeKind
  /-- Its text. -/
  text : List Char
  /-- The byte at which it starts. -/
  offset : Nat
deriving DecidableEq, Repr

namespace Lexeme

/-- The characters that separate lexemes. -/
def isBlank (c : Char) : Bool := c == ' ' || c == '\t' || c == '\n' || c == '\x0c' || c == '\r'

/-- The characters that a name starts with: letters, the low line and all beyond ASCII. -/
def isNameStart (c : Char) : Bool := c.isAlpha || c == '_' || c.toNat ≥ 0x80

/-- The characters that a name goes on with. -/
def isNameChar (c : Char) : Bool := isNameStart c || isAsciiDigit c || c == '$'

/-- How far a quoted string reaches whose opening quote is read; a quote written twice is
inside. `none` if it does not end. -/
def closeQuote : List Char → Option Nat
  | [] => none
  | '\'' :: '\'' :: r => (closeQuote r).map (· + 2)
  | c :: r => if c = '\'' then some 1 else (closeQuote r).map (· + 1)

/-- The length of an exponent at the start of a text: a mark, an optional sign and digits. -/
def exponentLength : List Char → Nat
  | e :: r =>
    if e == 'e' || e == 'E' then
      match r with
      | '+' :: ds | '-' :: ds =>
        let n := (ds.takeWhile isAsciiDigit).length
        if n = 0 then 0 else n + 2
      | ds =>
        let n := (ds.takeWhile isAsciiDigit).length
        if n = 0 then 0 else n + 1
    else 0
  | [] => 0

/-- The kind and length of a number, which may start with its point. Letters that stick to it
break it. -/
def munchNumber (cs : List Char) : LexemeKind × Nat :=
  let whole := (cs.takeWhile isAsciiDigit).length
  let afterWhole := cs.drop whole
  let places := match afterWhole with
    | '.' :: r => (r.takeWhile isAsciiDigit).length + 1
    | _ => 0
  let exponent := exponentLength (afterWhole.drop places)
  let length := whole + places + exponent
  let stuck := ((cs.drop length).takeWhile isNameChar).length
  if stuck ≠ 0 then (.broken, length + stuck)
  else (if places = 0 ∧ exponent = 0 then .integer else .real, length)

/-- The kind and length of a byte string after its mark and opening quote: an even number of
hexadecimal digits. -/
def munchBlob (cs : List Char) : LexemeKind × Nat :=
  let digits := (cs.takeWhile fun c => (hexValue? c).isSome).length
  match cs.drop digits with
  | '\'' :: _ => (if digits % 2 = 0 then .blob else .broken, digits + 1)
  | r =>
    let skipped := digits + (r.takeWhile (· ≠ '\'')).length
    (.broken, if skipped < cs.length then skipped + 1 else skipped)

/-- The kind of the lexeme that starts with a character, and how many characters it has after
that one. -/
def munch (c : Char) (rest : List Char) : LexemeKind × Nat :=
  if isBlank c then (.blank, (rest.takeWhile isBlank).length)
  else if isAsciiDigit c || (c == '.' && rest.head?.any isAsciiDigit) then
    let (kind, length) := munchNumber (c :: rest)
    (kind, length - 1)
  else if c == '\'' then
    match closeQuote rest with
    | some n => (.text, n)
    | none => (.broken, rest.length)
  else if (c == 'x' || c == 'X') && rest.head? == some '\'' then
    let (kind, length) := munchBlob (rest.drop 1)
    (kind, length + 1)
  else if isNameStart c then (.word, (rest.takeWhile isNameChar).length)
  else if c == '?' then
    let digits := (rest.takeWhile isAsciiDigit).length
    (if digits = 0 then .broken else .parameter, digits)
  else if c == '>' && rest.head? == some '=' then (.symbol, 1)
  else if c == ':' then (.broken, 0)
  else (.symbol, 0)

/-- The number of bytes of a text. -/
def byteCount (cs : List Char) : Nat := (cs.map Char.utf8Size).sum

/-- The lexemes of a text that starts at byte `offset`. -/
def readFrom (offset : Nat) : List Char → List Lexeme
  | [] => []
  | c :: rest =>
    let (kind, length) := munch c rest
    let text := c :: rest.take length
    let others := readFrom (offset + byteCount text) (rest.drop length)
    if kind = .blank then others else ⟨kind, text, offset⟩ :: others
termination_by cs => cs.length
decreasing_by simp only [List.length_drop, List.length_cons]; omega

/-- The lexemes of a statement, which ends at its first null character. -/
def read (sql : String) : List Lexeme := readFrom 0 (sql.toList.takeWhile (· ≠ '\x00'))

/-- Whether a lexeme is a given keyword, in any letter case. -/
def isKeyword (l : Lexeme) (word : String) : Bool :=
  l.kind == .word && l.text.map Char.toUpper == word.toList

/-- Whether a lexeme is a given piece of punctuation. -/
def isSymbol (l : Lexeme) (symbol : String) : Bool :=
  l.kind == .symbol && l.text == symbol.toList

/-- The text inside quotes, where a quote is written twice. -/
def halveQuotes : List Char → List Char
  | '\'' :: '\'' :: r => '\'' :: halveQuotes r
  | c :: r => c :: halveQuotes r
  | [] => []

end Lexeme

end BulkValues.Sqlite
