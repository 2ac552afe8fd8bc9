/-
# Templates

A template says how one record becomes one parenthesised tuple.  It is a list of slots, each
with an optional cast, and the slots are bound either by field name or by position.  Three
kinds of marker stand for a slot; they are tried in order, and the first kind that occurs in
the text decides what the template is: names in braces, names behind a percent sign, and the
bare percent sign.  Text between the markers is ignored, and runs of closing parentheses count
as one.
-/
import BulkValues.Error
import BulkValues.Template.Cast

namespace BulkValues

open BulkValues.Text

/-- A slot that is bound by field name. -/
structure NamedSlot where
  /-- The name of the field. -/
  name : String
  /-- The cast of the slot's value. -/
  cast : Option Cast
deriving DecidableEq

/-- A template. -/
inductive Template where
  /-- The slots are filled by field name. -/
  | named (slots : List NamedSlot)
  /-- The slots are filled by position; each has its cast. -/
  | positional (casts : List (Option Cast))
deriving DecidableEq

/-! ## Markers -/

/-- The kinds of marker. -/
inductive Marker where
  /-- A word in braces. -/
  | brace
  /-- A percent sign, a word in parentheses, and the letter s. -/
  | percentNamed
  /-- A percent sign and the letter s. -/
  | percent
deriving DecidableEq, Repr

/-- A word of at least one character, and the text after it. -/
def readWord (cs : List Char) : Option (List Char × List Char) :=
  let word := cs.takeWhile isWord
  if word.isEmpty then none else some (word, cs.dropWhile isWord)

/-- A marker at the start of a text: the name it carries, and the text after it. -/
def Marker.read (m : Marker) (cs : List Char) : Option (List Char × List Char) :=
  match m, cs with
  | .brace, '{' :: r =>
    match readWord r with
    | some (word, '}' :: rest) => some (word, rest)
    | _ => none
  | .percentNamed, '%' :: '(' :: r =>
    match readWord r with
    | some (word, ')' :: 's' :: rest) => some (word, rest)
    | _ => none
  | .percent, '%' :: 's' :: rest => some ([], rest)
  | _, _ => none

theorem length_of_readWord {cs word rest : List Char} (h : readWord cs = some (word, rest)) :
    rest.length ≤ cs.length := by
  simp only [readWord] at h
  split at h
  · cases h
  · cases h
    exact (List.dropWhile_suffix isWord).length_le

theorem Marker.length_of_read {m : Marker} {cs name rest : List Char}
    (h : m.read cs = some (name, rest)) : rest.length < cs.length := by
  unfold Marker.read at h
  split at h
  · split at h
    · rename_i hw
      cases h
      have := length_of_readWord hw
      simp only [List.length_cons] at *
      omega
    · cases h
  · split at h
    · rename_i hw
      cases h
      have := length_of_readWord hw
      simp only [List.length_cons] at *
      omega
    · cases h
  · cases h
    simp only [List.length_cons]
    omega
  · cases h

/-- All markers of a kind from left to right: the name and the cast of each. -/
def Marker.findAll (m : Marker) (cs : List Char) : List (List Char × Option Cast) :=
  match _h : m.read cs with
  | some (name, rest) =>
    let cast := Cast.read rest
    (name, cast.1) :: m.findAll cast.2
  | none =>
    match cs with
    | [] => []
    | _ :: r => m.findAll r
termination_by cs.length
decreasing_by
  · exact Nat.lt_of_le_of_lt (Cast.length_read_le rest) (Marker.length_of_read _h)
  · simp only [List.length_cons]
    omega

/-! ## Closing parentheses -/

/-- The text after further closing parentheses with blanks before them. -/
def skipClosing (cs : List Char) : List Char :=
  match _h : skipBlanks cs with
  | ')' :: r => skipClosing r
  | _ => cs
termination_by cs.length
decreasing_by
  have := length_skipBlanks_le cs
  rw [_h] at this
  simp only [List.length_cons] at this
  omega

theorem length_skipClosing_le (cs : List Char) : (skipClosing cs).length ≤ cs.length := by
  fun_induction skipClosing cs with
  | case1 cs r h ih =>
    have := length_skipBlanks_le cs
    rw [h] at this
    simp only [List.length_cons] at this
    omega
  | case2 => exact Nat.le_refl _

/-- The text with every run of closing parentheses, blanks between them, made one. -/
def collapseClosing (cs : List Char) : List Char :=
  match cs with
  | [] => []
  | c :: r => if c = ')' then ')' :: collapseClosing (skipClosing r) else c :: collapseClosing r
termination_by cs.length
decreasing_by
  · exact Nat.lt_succ_of_le (length_skipClosing_le r)
  · simp only [List.length_cons]
    omega

/-! ## Templates -/

namespace Template

/-- The named slots of markers. -/
def namedSlots (markers : List (List Char × Option Cast)) : List NamedSlot :=
  markers.map fun m => ⟨String.ofList m.1, m.2⟩

/-- The template of a text. -/
def ofChars (cs : List Char) : Template :=
  let text := collapseClosing cs
  match Marker.brace.findAll text with
  | m :: ms => named (namedSlots (m :: ms))
  | [] =>
    match Marker.percentNamed.findAll text with
    | m :: ms => named (namedSlots (m :: ms))
    | [] => positional ((Marker.percent.findAll text).map (·.2))

/-- The template of a text, which must not be blank. A template without slots is a template,
but not a valid one. -/
def parse (pattern : String) : Except Error Template :=
  if allBlank pattern then .error .blankTemplate else .ok (ofChars pattern.toList)

/-- The number of slots. -/
def size : Template → Nat
  | named slots => slots.length
  | positional casts => casts.length

/-- Whether there is a slot. -/
def isValid (t : Template) : Bool := t.size != 0

/-- Whether slots are bound by name. -/
def isNamed : Template → Bool
  | named _ => true
  | positional _ => false

/-- The rows a template expects, in the words of an error. -/
def mode : Template → String
  | named _ => "named"
  | positional _ => "positional"

/-- The template itself, if it has a slot. -/
def ensureValid (t : Template) : Except Error Template :=
  if t.isValid then .ok t else .error .noPlaceholder

/-- A valid template from its text. -/
def parseValid (pattern : String) : Except Error Template := do
  let t ← parse pattern
  t.ensureValid

/-- The names and casts of the slots; a slot bound by position has no name. -/
def slots : Template → List (Option String × Option Cast)
  | named slots => slots.map fun s => (some s.name, s.cast)
  | positional casts => casts.map fun c => (none, c)

/-- One slot of the canonical form: the name in braces, and the cast. -/
def slotText (slot : Option String × Option Cast) : String :=
  "\x7b" ++ slot.1.getD "" ++ "\x7d" ++ Cast.suffixOf slot.2

/-- The canonical form of a valid template: its slots in parentheses. -/
def canonical? (t : Template) : Option String :=
  if t.isValid then some ("(" ++ ", ".intercalate (t.slots.map slotText) ++ ")") else none

/-- A template as it is shown in errors. -/
def display (t : Template) : String := t.canonical?.getD "<invalid template>"

end Template

end BulkValues
