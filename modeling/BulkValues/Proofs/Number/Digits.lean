/-
# Digits read back

The decimal digits of a number stand for it, also behind zeros, and the text of an integer is its
digits behind its sign.
-/
import BulkValues.Number.Reader
import BulkValues.Proofs.Text.Stops
import Mathlib.Data.Nat.Notation
import Mathlib.Data.Int.Notation
import Mathlib.Tactic.Lemma

namespace BulkValues.Number

open BulkValues.Text

variable {c : Char} {ds es : List Char} {n : ℕ}

/-- At least one digit and nothing else. -/
def IsDigits (ds : List Char) : Prop := ds ≠ [] ∧ ∀ c ∈ ds, isAsciiDigit c = true

lemma isDigits_zero : IsDigits ['0'] :=
  ⟨List.cons_ne_nil _ _, List.forall_mem_singleton.mpr rfl⟩

lemma IsDigits.append (hds : IsDigits ds) (hes : ∀ c ∈ es, isAsciiDigit c = true) :
    IsDigits (ds ++ es) := by
  refine ⟨List.append_ne_nil_of_left_ne_nil hds.1 es, fun c hc => ?_⟩
  rcases List.mem_append.mp hc with hc | hc
  · exact hds.2 c hc
  · exact hes c hc

lemma IsDigits.readDigits? (h : IsDigits ds) : readDigits? ds = some (digitsValue ds) := by
  have hall : ds.all isAsciiDigit = true := List.all_eq_true.mpr h.2
  rw [Number.readDigits?, hall, if_neg]
  simp [h.1]

lemma isBlank_of_isAsciiDigit (h : isAsciiDigit c = true) : isBlank c = false := by
  rw [Bool.eq_false_iff]
  intro hblank
  have hdigit : isAsciiDigit c = false :=
    of_isBlank (P := fun c => isAsciiDigit c = false) (by decide) hblank
  rw [hdigit] at h
  cases h

lemma IsDigits.stopsAt_isBlank (h : IsDigits ds) (rest : List Char) :
    StopsAt isBlank (ds ++ rest) := by
  obtain ⟨c, r, rfl⟩ := List.exists_cons_of_ne_nil h.1
  exact stopsAt_cons (isBlank_of_isAsciiDigit (h.2 c (List.mem_cons_self ..))) _

lemma isAsciiDigit_of_mem_toDigits (h : c ∈ Nat.toDigits 10 n) : isAsciiDigit c = true :=
  Nat.isDigit_of_mem_toDigits (by decide) (by decide) h

lemma isAsciiDigit_of_mem_replicate {k : ℕ} (h : c ∈ List.replicate k '0') :
    isAsciiDigit c = true := by
  rw [List.eq_of_mem_replicate h]
  rfl

lemma isDigits_toDigits (n : ℕ) : IsDigits (Nat.toDigits 10 n) :=
  ⟨Nat.toDigits_ne_nil, fun _ hc => isAsciiDigit_of_mem_toDigits hc⟩

/-- The digits of a number begin with a digit. -/
lemma exists_toDigits (n : ℕ) :
    ∃ c r, Nat.toDigits 10 n = c :: r ∧ isAsciiDigit c = true := by
  obtain ⟨c, r, hr⟩ := List.exists_cons_of_ne_nil (Nat.toDigits_ne_nil (b := 10) (n := n))
  exact ⟨c, r, hr, isAsciiDigit_of_mem_toDigits (hr ▸ List.mem_cons_self ..)⟩

/-- Only zero begins with a zero. -/
lemma head?_toDigits_ne (h : 0 < n) : (Nat.toDigits 10 n).head? ≠ some '0' := by
  induction n using Nat.strongRecOn with
  | ind n ih =>
    by_cases hlt : n < 10
    · have hall : ∀ n < 10, 0 < n → [Nat.digitChar n].head? ≠ some '0' := by decide
      rw [Nat.toDigits_of_lt_base hlt]
      exact hall n hlt h
    · have hrest := ih (n / 10) (by omega) (by omega)
      obtain ⟨c, r, hr, -⟩ := exists_toDigits (n / 10)
      rw [Nat.toDigits_of_base_le (by decide) (by omega), hr]
      rwa [hr] at hrest

/-- The digits of a number stand for it. -/
lemma digitsValue_toDigits (n : ℕ) : digitsValue (Nat.toDigits 10 n) = n :=
  Nat.ofDigitChars_ten_toDigits

lemma readDigits?_toDigits (n : ℕ) : readDigits? (Nat.toDigits 10 n) = some n := by
  rw [(isDigits_toDigits n).readDigits?, digitsValue_toDigits]

lemma digitsValue_append_singleton (ds : List Char) (c : Char) :
    digitsValue (ds ++ [c]) = 10 * digitsValue ds + digitValue c := by
  rw [digitsValue, List.foldl_append]
  rfl

lemma digitsValue_zero_cons (ds : List Char) : digitsValue ('0' :: ds) = digitsValue ds := rfl

/-- Zeros in front count nothing. -/
lemma digitsValue_replicate (k : ℕ) (ds : List Char) :
    digitsValue (List.replicate k '0' ++ ds) = digitsValue ds := by
  induction k with
  | zero => rfl
  | succ k ih => rw [List.replicate_succ, List.cons_append, digitsValue_zero_cons, ih]

lemma toList_toString_nat (n : ℕ) : (toString n).toList = Nat.toDigits 10 n := Nat.toList_repr

/-- The text of an integer: its digits, behind a minus sign if it is negative. -/
lemma toList_toString_int (z : ℤ) :
    (toString z).toList = (if z < 0 then ['-'] else []) ++ Nat.toDigits 10 z.natAbs := by
  cases z with
  | ofNat n =>
    rw [Int.ofNat_eq_natCast, if_neg (Int.not_lt.mpr (Int.natCast_nonneg n)), List.nil_append]
    exact Nat.toList_repr
  | negSucc n =>
    have hsign : toString (Int.negSucc n) = "-" ++ (n + 1).repr := rfl
    rw [if_pos (Int.negSucc_lt_zero n), hsign, String.toList_append, Nat.toList_repr]
    rfl

/-- The text of an integer begins with its sign or with a digit. -/
lemma exists_toString (z : ℤ) :
    ∃ c r, (toString z).toList = c :: r ∧ (c = '-' ∨ isAsciiDigit c = true) := by
  obtain ⟨c, r, hr, hc⟩ := exists_toDigits z.natAbs
  rw [toList_toString_int]
  by_cases hz : z < 0
  · exact ⟨'-', c :: r, by rw [if_pos hz, hr]; rfl, .inl rfl⟩
  · exact ⟨c, r, by rw [if_neg hz, hr]; rfl, .inr hc⟩

end BulkValues.Number
