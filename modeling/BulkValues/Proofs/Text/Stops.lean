/-
# Where reading stops

A greedy reader takes characters of one kind for as long as they come.  It stops at the end of
what it took if what follows does not begin with a character of that kind.
-/
import BulkValues.Text.Blank
import Mathlib.Data.List.TakeWhile
import Mathlib.Tactic.Lemma

namespace BulkValues

open BulkValues.Text

/-- A text that does not begin with a character of a kind. -/
def StopsAt (kind : Char → Bool) (cs : List Char) : Prop := ∀ c ∈ cs.head?, kind c = false

section Stops

variable {kind : Char → Bool} {c : Char} {cs w rest : List Char}

lemma stopsAt_cons (h : kind c = false) (cs : List Char) : StopsAt kind (c :: cs) := by
  intro d hd
  cases hd
  exact h

/-- That no character of a text is of a kind can be evaluated. -/
lemma eq_false_of_any (h : cs.any kind = false) : ∀ c ∈ cs, kind c = false :=
  fun c hc => Bool.eq_false_iff.mpr (List.any_eq_false.mp h c hc)

lemma stopsAt_nil (kind : Char → Bool) : StopsAt kind [] := nofun

lemma stopsAt_dropWhile (kind : Char → Bool) (cs : List Char) :
    StopsAt kind (cs.dropWhile kind) := by
  intro c hc
  have hhead := List.head?_dropWhile_not kind cs
  rw [Option.mem_def.mp hc] at hhead
  exact hhead

lemma StopsAt.append (hw : StopsAt kind w) (h : StopsAt kind cs) : StopsAt kind (w ++ cs) := by
  cases w with
  | nil => exact h
  | cons c w => exact hw

/-- What a text begins with does not depend on how it goes on. -/
lemma StopsAt.of_ne_nil (h : StopsAt kind (w ++ rest)) (hne : w ≠ []) (cs : List Char) :
    StopsAt kind (w ++ cs) := by
  cases w with
  | nil => exact absurd rfl hne
  | cons c w => exact h

lemma takeWhile_append_of_stopsAt (hw : ∀ c ∈ w, kind c = true) (h : StopsAt kind cs) :
    (w ++ cs).takeWhile kind = w := by
  rw [List.takeWhile_append_of_pos hw]
  cases cs with
  | nil => simp
  | cons c cs => rw [List.takeWhile_cons_of_neg (by simp [h c rfl]), List.append_nil]

lemma dropWhile_append_of_stopsAt (hw : ∀ c ∈ w, kind c = true) (h : StopsAt kind cs) :
    (w ++ cs).dropWhile kind = cs := by
  rw [List.dropWhile_append_of_pos hw]
  cases cs with
  | nil => rfl
  | cons c cs => exact List.dropWhile_cons_of_neg (by simp [h c rfl])

end Stops

/-! ## Blanks -/

/-- The code points of the blanks, one by one. -/
def blankPoints : List Nat := blankRanges.flatMap fun r => List.range' r.1 (r.2 + 1 - r.1)

/-- What holds of each of the blanks holds of every blank. -/
lemma of_isBlank {P : Char → Prop} (hP : ∀ n ∈ blankPoints, P (.ofNat n)) {c : Char}
    (h : isBlank c = true) : P c := by
  rw [isBlank, inRanges, List.any_eq_true] at h
  obtain ⟨r, hr, hc⟩ := h
  have hmem : c.toNat ∈ blankPoints := by
    refine List.mem_flatMap.mpr ⟨r, hr, ?_⟩
    simp at hc
    rw [List.mem_range'_1]
    omega
  have hpoint := hP _ hmem
  rwa [Char.ofNat_toNat] at hpoint

section Blanks

variable {cs blanks rest : List Char}

lemma mem_takeWhile_isBlank {c : Char} (h : c ∈ cs.takeWhile isBlank) : isBlank c = true :=
  List.mem_takeWhile_imp h

lemma takeWhile_append_skipBlanks (cs : List Char) : cs.takeWhile isBlank ++ skipBlanks cs = cs :=
  List.takeWhile_append_dropWhile

/-- Blanks and then a text that does not begin with one. -/
lemma skipBlanks_append (hblanks : ∀ c ∈ blanks, isBlank c = true) (h : StopsAt isBlank rest) :
    skipBlanks (blanks ++ rest) = rest ∧ (blanks ++ rest).takeWhile isBlank = blanks :=
  ⟨dropWhile_append_of_stopsAt hblanks h, takeWhile_append_of_stopsAt hblanks h⟩

lemma StopsAt.skipBlanks_eq (h : StopsAt isBlank cs) : skipBlanks cs = cs :=
  dropWhile_append_of_stopsAt (w := []) nofun h

end Blanks

end BulkValues
