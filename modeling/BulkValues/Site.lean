/-
# The place for the list of tuples

A query has exactly one place where the tuples go: the keyword of a value list in any letter
case, not inside a longer word, with a bare placeholder in parentheses after it.  The site is
the text before that place, up to the end of the keyword, and the text after it.

Letters are compared by case folding, under which the long s is an s.  A keyword written with
it takes more room than six bytes, and its end then falls inside that character.
-/
import BulkValues.Error
import BulkValues.Text.Blank
import BulkValues.Text.Word

namespace BulkValues

open BulkValues.Text

/-- Where the tuples of a statement go. -/
structure Site where
  /-- The text up to the end of the keyword. -/
  head : List Char
  /-- The text after the closing parenthesis. -/
  tail : List Char
deriving DecidableEq, Repr

namespace Site

/-- The long s. -/
def longS : Char := '\u017f'

/-- Whether a character folds to the small ASCII letter `letter`. -/
def foldsTo (letter c : Char) : Bool := c.toLower == letter || (letter == 's' && c == longS)

/-- A word in any letter case at the start of a text: the characters it is written with, and
the text after it. -/
def readFolded : List Char → List Char → Option (List Char × List Char)
  | [], cs => some ([], cs)
  | _ :: _, [] => none
  | l :: ls, c :: cs =>
    if foldsTo l c then (readFolded ls cs).map fun p => (c :: p.1, p.2) else none

/-- The keyword of a value list. -/
def keyword : List Char := ['v', 'a', 'l', 'u', 'e', 's']

/-- The placeholder. -/
def placeholder : List Char := ['%', 's']

/-- The parenthesised placeholder at the start of a text: the text after it. -/
def readGap (cs : List Char) : Option (List Char) :=
  match skipBlanks cs with
  | '(' :: r =>
    match readFolded placeholder (skipBlanks r) with
    | some (_, r) =>
      match skipBlanks r with
      | ')' :: rest => some rest
      | _ => none
    | none => none
  | _ => none

/-- The keyword and the parenthesised placeholder at the start of a text: the keyword as it is
written, and the text after the closing parenthesis. -/
def read (cs : List Char) : Option (List Char × List Char) :=
  match readFolded keyword cs with
  | some (word, r) => (readGap r).map fun rest => (word, rest)
  | none => none

theorem length_of_readFolded {ls cs word rest : List Char}
    (h : readFolded ls cs = some (word, rest)) : rest.length + ls.length = cs.length := by
  induction ls generalizing cs word with
  | nil => cases h; simp
  | cons l ls ih =>
    cases cs with
    | nil => cases h
    | cons c cs =>
      simp only [readFolded] at h
      split at h
      · simp only [Option.map_eq_some_iff, Prod.mk.injEq] at h
        obtain ⟨p, hp, -, rfl⟩ := h
        have := ih hp
        simp only [List.length_cons]
        omega
      · cases h

theorem length_of_readGap {cs rest : List Char} (h : readGap cs = some rest) :
    rest.length < cs.length := by
  unfold readGap at h
  split at h
  · rename_i r h1
    split at h
    · rename_i h2
      split at h
      · rename_i h3
        cases h
        have l1 := length_skipBlanks_le cs
        have l2 := length_skipBlanks_le r
        have l3 := length_of_readFolded h2
        rename_i r' _
        have l4 := length_skipBlanks_le r'
        rw [h1] at l1
        rw [h3] at l4
        simp only [List.length_cons] at *
        omega
      · cases h
    · cases h
  · cases h

theorem length_of_read {cs word rest : List Char} (h : read cs = some (word, rest)) :
    rest.length < cs.length := by
  unfold read at h
  split at h
  · rename_i h1
    simp only [Option.map_eq_some_iff, Prod.mk.injEq] at h
    obtain ⟨p, hp, -, rfl⟩ := h
    have := length_of_readFolded h1
    have := length_of_readGap hp
    omega
  · cases h

/-- A place found in a query. -/
structure Place where
  /-- The text before the keyword. -/
  before : List Char
  /-- The keyword as it is written. -/
  word : List Char
  /-- The text after the closing parenthesis. -/
  after : List Char
deriving DecidableEq, Repr

/-- The places in the text `cs` that follows `seen`; `seen` is kept in reverse order. -/
def placesAfter (seen cs : List Char) : List Place :=
  match cs with
  | [] => []
  | c :: r =>
    let inWord := (seen.head?.map isWord).getD false
    match _h : if inWord then none else read (c :: r) with
    | some (word, rest) =>
      let taken := (c :: r).take ((c :: r).length - rest.length)
      ⟨seen.reverse, word, rest⟩ :: placesAfter (taken.reverse ++ seen) rest
    | none => placesAfter (c :: seen) r
termination_by cs.length
decreasing_by
  · split at _h
    · cases _h
    · exact length_of_read _h
  · simp only [List.length_cons]
    omega

/-- All places in a query, from left to right. -/
def places (cs : List Char) : List Place := placesAfter [] cs

/-- The site at a place, unless the keyword ends inside a character. -/
def ofPlace (p : Place) : Except Error Site :=
  if p.word.all fun c => c.toNat < 0x80 then .ok ⟨p.before ++ p.word, p.after⟩
  else .error .tornCharacter

/-- The site of a query, which must have exactly one place. -/
def locate (query : String) : Except Error Site :=
  match places query.toList with
  | [] => .error .noSite
  | [p] => ofPlace p
  | ps => .error (.manySites ps.length)

/-- The statement with a list of tuples in its place. -/
def splice (s : Site) (tuples : String) : String :=
  String.ofList s.head ++ " " ++ tuples ++ String.ofList s.tail

end Site

end BulkValues
