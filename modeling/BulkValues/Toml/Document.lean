/-
# Reading TOML

Values with arrays and inline tables inside one another to a fixed depth; keys of dotted parts;
and the lines of a document: a header opens a table, and the lines after it assign to that
table.
-/
import BulkValues.Toml.Scalar

namespace BulkValues.Toml

open BulkValues.Text

/-! ## Blanks, comments, line ends -/

/-- The text after blanks, line ends and comments; `comment` says that it starts inside one. -/
def skipTrivia (comment : Bool) : List Char → List Char
  | '\r' :: '\n' :: r => skipTrivia false r
  | c :: r =>
    if c = '\n' then skipTrivia false r
    else if comment then if isPrintable c then skipTrivia true r else c :: r
    else if isSpace c then skipTrivia false r
    else if c = '#' then skipTrivia true r
    else c :: r
  | [] => []

/-- The text after the rest of a line: blanks, perhaps a comment, and the line end or the end of
the document. -/
def readLineEnd (cs : List Char) : Option (List Char) :=
  let rest := match skipSpaces cs with
    | '#' :: r => r.dropWhile isPrintable
    | r => r
  match rest with
  | [] => some []
  | '\n' :: r => some r
  | '\r' :: '\n' :: r => some r
  | _ => none

/-! ## Keys -/

/-- Whether a character may stand in a bare key. -/
def isBareKey (c : Char) : Bool := isNameStart c || isAsciiDigit c || c == '-'

/-- One part of a key. -/
def readKeyPart (cs : List Char) : Option (String × List Char) :=
  match cs with
  | '"' :: r => (readBasic r).map fun p => (String.ofList p.1, p.2)
  | '\'' :: r => (readLiteral r).map fun p => (String.ofList p.1, p.2)
  | _ =>
    let bare := cs.takeWhile isBareKey
    if bare.isEmpty then none else some (String.ofList bare, cs.dropWhile isBareKey)

/-- The number of containers, and of parts of a key, stays below this. -/
def limit : Nat := 80

/-- The parts of a key, blanks around each, within `fuel` parts. -/
def readKeyParts : Nat → List Char → Option (List String × List Char)
  | 0, _ => none
  | fuel + 1, cs => do
    let (part, rest) ← readKeyPart (skipSpaces cs)
    match skipSpaces rest with
    | '.' :: r => do
      let (parts, r) ← readKeyParts fuel r
      pure (part :: parts, r)
    | r => pure ([part], r)

/-- A key: the parts before its last one, and its last part. -/
def readKey (cs : List Char) : Option ((List String × String) × List Char) := do
  let (parts, rest) ← readKeyParts (limit - 1) cs
  let last ← parts.getLast?
  pure ((parts.dropLast, last), rest)

/-! ## Values -/

/-- The items of an array after its bracket or a comma, within `fuel` items. -/
def readItems (value : List Char → Option (Toml × List Char)) :
    Nat → List Char → Option (List Toml × List Char)
  | 0, _ => none
  | fuel + 1, cs =>
    match skipTrivia false cs with
    | ']' :: r => some ([], r)
    | r => do
      let (v, r) ← value r
      match skipTrivia false r with
      | ',' :: r => do
        let (vs, r) ← readItems value fuel r
        pure (v :: vs, r)
      | ']' :: r => pure ([v], r)
      | _ => none

/-- The assignments of an inline table after its brace or a comma, within `fuel` of them. -/
def readAssignments (value : List Char → Option (Toml × List Char)) :
    Nat → Entries → List Char → Option (Entries × List Char)
  | 0, _, _ => none
  | fuel + 1, entries, cs => do
    let ((path, name), r) ← readKey cs
    let r ← readMark '=' r
    let (v, r) ← value (skipSpaces r)
    let entries ← assign path name v entries
    match skipSpaces r with
    | ',' :: r => readAssignments value fuel entries r
    | '}' :: r => pure (entries, r)
    | _ => none

/-- A value with fewer than `depth` containers inside one another. -/
def readValue : Nat → List Char → Option (Toml × List Char)
  | depth, cs =>
    match cs with
    | '[' :: r =>
      match depth with
      | 0 => none
      | depth + 1 =>
        (readItems (readValue depth) (r.length + 1) r).map fun p => (array p.1, p.2)
    | '{' :: r =>
      match depth with
      | 0 => none
      | depth + 1 =>
        match skipSpaces r with
        | '}' :: r => some (table [], r)
        | _ =>
          (readAssignments (readValue depth) (r.length + 1) [] r).map fun p =>
            (table (entriesToToml p.1), p.2)
    | 't' :: 'r' :: 'u' :: 'e' :: r => some (boolean true, r)
    | 'f' :: 'a' :: 'l' :: 's' :: 'e' :: r => some (boolean false, r)
    | '"' :: _ => (readString cs).map fun p => (string (String.ofList p.1), p.2)
    | '\'' :: _ => (readString cs).map fun p => (string (String.ofList p.1), p.2)
    | _ => readPlain cs

/-! ## Documents -/

/-- A document that is being read. -/
structure Draft where
  /-- All that was read. -/
  root : Entries
  /-- The path of the table that lines assign to. -/
  header : List String

/-- An assignment on a line of its own. -/
def Draft.assign (d : Draft) (path : List String) (name : String) (v : Toml) : Option Draft := do
  let root ← modify false (fun _ entries => Toml.assign path name v entries) d.header false d.root
  pure { d with root }

/-- A header after its bracket. -/
def Draft.readHeader (d : Draft) (cs : List Char) : Option (Draft × List Char) :=
  match cs with
  | '[' :: r => do
    let ((path, name), r) ← readKey r
    let r ← readMark ']' r
    let r ← readMark ']' r
    let r ← readLineEnd r
    let root ← openRow path name d.root
    pure (⟨root, path ++ [name]⟩, r)
  | _ => do
    let ((path, name), r) ← readKey cs
    let r ← readMark ']' r
    let r ← readLineEnd r
    let root ← openTable path name d.root
    pure (⟨root, path ++ [name]⟩, r)

/-- A line with an assignment. -/
def Draft.readAssignment (d : Draft) (cs : List Char) : Option (Draft × List Char) := do
  let ((path, name), r) ← readKey cs
  let r ← readMark '=' r
  let (v, r) ← readValue (limit - 1) (skipSpaces r)
  let r ← readLineEnd r
  let d ← d.assign path name v
  pure (d, r)

/-- The lines of a document, within `fuel` of them. -/
def Draft.readLines : Nat → Draft → List Char → Option Draft
  | 0, _, _ => none
  | fuel + 1, d, cs =>
    match skipSpaces cs with
    | [] => some d
    | '[' :: r => do
      let (d, r) ← d.readHeader r
      readLines fuel d r
    | c :: r =>
      if c == '#' || c == '\n' || c == '\r' then do
        let r ← readLineEnd (c :: r)
        readLines fuel d r
      else do
        let (d, r) ← d.readAssignment (c :: r)
        readLines fuel d r

/-- The text without a byte order mark. -/
def skipMark : List Char → List Char
  | '\ufeff' :: r => r
  | cs => cs

/-- The table of a document. -/
def read? (text : String) : Option (List (String × Toml)) :=
  let cs := skipMark text.toList
  (Draft.readLines (cs.length + 1) ⟨[], []⟩ cs).map fun d => entriesToToml d.root

end BulkValues.Toml
