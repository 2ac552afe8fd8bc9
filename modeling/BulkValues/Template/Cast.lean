/-
# Type casts

A placeholder may be followed by a cast: two colons, a type name that may be qualified,
further words, an optional modifier of one or two numbers in parentheses, and pairs of
brackets for arrays.  Reading takes the longest text of this form.  Blanks after the colons do
not belong to the cast.
-/
import BulkValues.Text.Blank
import BulkValues.Text.Word

namespace BulkValues

open BulkValues.Text

/-- A cast, without its colons. -/
structure Cast where
  /-- The type as it is written. -/
  type : List Char
deriving DecidableEq, Repr

namespace Cast

/-- The characters of a type name after its first. -/
def isNamePart (c : Char) : Bool := isWord c || c == '.'

/-- Further words of a type, each with the blanks before it, and the text after them. -/
def readWords (cs : List Char) : List Char × List Char :=
  match _h : skipBlanks cs with
  | [] => ([], cs)
  | c :: r =>
    if cs.length = (c :: r).length || !isNameStart c then ([], cs)
    else
      let word := r.takeWhile isWord
      let more := readWords (r.dropWhile isWord)
      (cs.takeWhile isBlank ++ c :: word ++ more.1, more.2)
termination_by cs.length
decreasing_by
  have h1 := length_skipBlanks_le cs
  have h2 := (List.dropWhile_suffix isWord (l := r)).length_le
  rw [_h] at h1
  simp only [List.length_cons] at h1
  omega

/-- Digits after optional blanks, and the text after them. -/
def readCount (cs : List Char) : Option (List Char × List Char) :=
  let r := skipBlanks cs
  let ds := r.takeWhile isDigit
  if ds.isEmpty then none else some (cs.takeWhile isBlank ++ ds, r.dropWhile isDigit)

/-- The character `c` after optional blanks, and the text after it. -/
def readSign (c : Char) (cs : List Char) : Option (List Char × List Char) :=
  match skipBlanks cs with
  | d :: r => if d = c then some (cs.takeWhile isBlank ++ [c], r) else none
  | [] => none

/-- A comma and a second number, if both follow. -/
def readSecondCount (cs : List Char) : List Char × List Char :=
  let second : Option (List Char × List Char) := do
    let (comma, r) ← readSign ',' cs
    let (count, r) ← readCount r
    pure (comma ++ count, r)
  second.getD ([], cs)

/-- One or two numbers in parentheses, if they follow. -/
def readModifier (cs : List Char) : List Char × List Char :=
  let modifier : Option (List Char × List Char) := do
    let (opening, r) ← readSign '(' cs
    let (count, r) ← readCount r
    let (second, r) := readSecondCount r
    let (closing, r) ← readSign ')' r
    pure (opening ++ count ++ second ++ closing, r)
  modifier.getD ([], cs)

/-- Pairs of brackets. -/
def readBrackets : List Char → List Char × List Char
  | '[' :: ']' :: r =>
    let more := readBrackets r
    ('[' :: ']' :: more.1, more.2)
  | cs => ([], cs)

/-- A type at the start of a text, and the text after it. -/
def readType (cs : List Char) : Option (List Char × List Char) :=
  match cs with
  | [] => none
  | c :: r =>
    if isNameStart c then
      let name := c :: r.takeWhile isNamePart
      let words := readWords (r.dropWhile isNamePart)
      let modifier := readModifier words.2
      let brackets := readBrackets modifier.2
      some (name ++ words.1 ++ modifier.1 ++ brackets.1, brackets.2)
    else none

/-- The cast at the start of a text, if there is one, and the text after it. -/
def read (cs : List Char) : Option Cast × List Char :=
  match cs with
  | ':' :: ':' :: r =>
    match readType (skipBlanks r) with
    | some (type, rest) => (some ⟨type⟩, rest)
    | none => (none, cs)
  | _ => (none, cs)

/-- A cast as it follows a literal. -/
def suffixChars (c : Cast) : List Char := ':' :: ':' :: c.type

/-- A cast as it follows a literal. -/
def suffix (c : Cast) : String := String.ofList c.suffixChars

/-- What follows a literal: a cast or nothing. -/
def suffixOf : Option Cast → String
  | some c => c.suffix
  | none => ""

/-! ## Reading never lengthens the text -/

theorem length_readWords_le (cs : List Char) : (readWords cs).2.length ≤ cs.length := by
  fun_induction readWords cs with
  | case1 => exact Nat.le_refl _
  | case2 => exact Nat.le_refl _
  | case3 cs c r h _ _ _ ih =>
    have h1 := length_skipBlanks_le cs
    have h2 := (List.dropWhile_suffix isWord (l := r)).length_le
    rw [h] at h1
    simp only [List.length_cons] at h1
    exact Nat.le_trans ih (by omega)

theorem length_of_readCount {cs taken rest : List Char} (h : readCount cs = some (taken, rest)) :
    rest.length ≤ cs.length := by
  simp only [readCount] at h
  split at h
  · cases h
  · cases h
    exact Nat.le_trans (List.dropWhile_suffix isDigit).length_le (length_skipBlanks_le cs)

theorem length_of_readSign {c : Char} {cs taken rest : List Char}
    (h : readSign c cs = some (taken, rest)) : rest.length ≤ cs.length := by
  have h1 := length_skipBlanks_le cs
  unfold readSign at h
  split at h
  · rename_i d r hr
    rw [hr] at h1
    split at h
    · cases h
      simp only [List.length_cons] at h1
      omega
    · cases h
  · cases h

theorem length_readSecondCount_le (cs : List Char) :
    (readSecondCount cs).2.length ≤ cs.length := by
  simp only [readSecondCount]
  cases hs : readSign ',' cs with
  | none => simp
  | some p =>
    cases hc : readCount p.2 with
    | none => simp [hc]
    | some q =>
      have h1 := length_of_readSign hs
      have h2 := length_of_readCount hc
      simp only [hc, Option.bind_eq_bind, Option.bind_some, Option.pure_def, Option.getD_some]
      omega

theorem length_readModifier_le (cs : List Char) : (readModifier cs).2.length ≤ cs.length := by
  simp only [readModifier]
  cases ho : readSign '(' cs with
  | none => simp
  | some p =>
    cases hc : readCount p.2 with
    | none => simp [hc]
    | some q =>
      have h1 := length_of_readSign ho
      have h2 := length_of_readCount hc
      have h3 := length_readSecondCount_le q.2
      cases hs : readSign ')' (readSecondCount q.2).2 with
      | none => simp [hc, hs]
      | some s =>
        have h4 := length_of_readSign hs
        simp only [hc, hs, Option.bind_eq_bind, Option.bind_some, Option.pure_def,
          Option.getD_some]
        omega

theorem length_readBrackets_le (cs : List Char) : (readBrackets cs).2.length ≤ cs.length := by
  fun_induction readBrackets cs with
  | case1 r more ih => exact Nat.le_trans ih (by simp only [List.length_cons]; omega)
  | case2 => exact Nat.le_refl _

theorem length_of_readType {cs type rest : List Char} (h : readType cs = some (type, rest)) :
    rest.length < cs.length := by
  unfold readType at h
  split at h
  · cases h
  · rename_i c r
    split at h
    · cases h
      have h1 := (List.dropWhile_suffix isNamePart (l := r)).length_le
      have h2 := length_readWords_le (r.dropWhile isNamePart)
      have h3 := length_readModifier_le (readWords (r.dropWhile isNamePart)).2
      have h4 := length_readBrackets_le (readModifier (readWords (r.dropWhile isNamePart)).2).2
      simp only [List.length_cons]
      omega
    · cases h

theorem length_read_le (cs : List Char) : (read cs).2.length ≤ cs.length := by
  unfold read
  split
  · rename_i r
    split
    · rename_i type rest h
      have h1 := length_of_readType h
      have h2 := length_skipBlanks_le r
      simp only [List.length_cons]
      omega
    · exact Nat.le_refl _
  · exact Nat.le_refl _

end Cast

end BulkValues
