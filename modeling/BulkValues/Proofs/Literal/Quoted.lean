/-
# Quoted strings

A string in single quotes, with every quote in it written twice.
-/
import BulkValues.Literal.Basic
import Mathlib.Tactic.Lemma

namespace BulkValues.Literal

/-- A string without quotes is written as it is. -/
lemma doubleQuotes_of_not_mem {s : List Char} (h : '\'' ∉ s) : doubleQuotes s = s := by
  induction s with
  | nil => rfl
  | cons c s ih =>
    rw [List.mem_cons, not_or] at h
    rw [doubleQuotes, if_neg (Ne.symm h.1), ih h.2]

lemma mem_doubleQuotes {c : Char} {s : List Char} : c ∈ doubleQuotes s ↔ c ∈ s := by
  induction s with
  | nil => rfl
  | cons d s ih =>
    rw [doubleQuotes]
    split
    · rename_i hd
      simp [ih, hd]
    · simp [ih]

lemma toList_quoted (s : String) :
    (quoted s).toList = '\'' :: (doubleQuotes s.toList ++ ['\'']) :=
  String.toList_ofList

end BulkValues.Literal
