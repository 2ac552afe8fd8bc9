/-
# Integers read as floats

The eight bytes of an integer in two's complement, read as the bits of a float, stand for that
integer only if it is zero.  The exponent field of a float as large as its bits must be 1084 or
1085, and then the fraction would have to be a power of two divided by 513 or by 1023.
-/
import BulkValues.Proofs.Number.Exact
import Mathlib.Tactic.IntervalCases
import Mathlib.Tactic.Linarith

namespace BulkValues.Number

/-- Bits that stand for a float of at least one are never those of the float as an integer, nor
those of its opposite. -/
lemma scaled_ne {fraction shift : ℕ} (hfraction : fraction < 2 ^ 52)
    (hbits : (1075 + shift) * 2 ^ 52 + fraction < 2 ^ 63) :
    (2 ^ 52 + fraction) * 2 ^ shift ≠ (1075 + shift) * 2 ^ 52 + fraction ∧
      (2 ^ 52 + fraction) * 2 ^ shift + ((1075 + shift) * 2 ^ 52 + fraction) ≠ 2 ^ 63 := by
  rcases Nat.lt_or_ge shift 11 with hshift | hshift
  · interval_cases shift <;> omega
  · have hscale : 2 ^ 11 ≤ 2 ^ shift := Nat.pow_le_pow_right (by decide) hshift
    have hsize : 2 ^ 52 * 2 ^ 11 ≤ (2 ^ 52 + fraction) * 2 ^ shift :=
      Nat.mul_le_mul (Nat.le_add_right _ _) hscale
    omega

/-- The size of the float whose bits are a natural number is that number only for zero, and never
what two's complement takes it for. -/
lemma value_bits {u : ℕ} (hu : u < 2 ^ 63) :
    ((Magnitude.ofFields 52 (-1074) (u / 2 ^ 52) (u % 2 ^ 52)).value = u → u = 0) ∧
      (Magnitude.ofFields 52 (-1074) (u / 2 ^ 52) (u % 2 ^ 52)).value + u ≠ 2 ^ 63 := by
  have hfraction : u % 2 ^ 52 < 2 ^ 52 := Nat.mod_lt _ (by decide)
  have hfields := Nat.div_add_mod u (2 ^ 52)
  generalize u / 2 ^ 52 = exponent at *
  generalize u % 2 ^ 52 = fraction at *
  rcases Nat.eq_zero_or_pos exponent with rfl | hpos
  · have htiny : (2 : ℚ) ^ (-1074 : ℤ) < 1 := zpow_lt_one_of_neg₀ (by norm_num) (by norm_num)
    have hsame : fraction = u := by omega
    rw [Magnitude.ofFields, if_pos rfl, Magnitude.value, hsame]
    refine ⟨fun heq => ?_, fun heq => ?_⟩
    · by_contra hne
      have hu : (0 : ℚ) < u := by exact_mod_cast Nat.pos_of_ne_zero hne
      exact absurd heq (mul_lt_of_lt_one_right hu htiny).ne
    · have hle : (u : ℚ) * 2 ^ (-1074 : ℤ) ≤ u := mul_le_of_le_one_right (by positivity) htiny.le
      have hsmall : (u : ℚ) < 2 ^ 52 := by
        rw [← hsame]
        exact_mod_cast hfraction
      linarith
  · rcases Nat.lt_or_ge exponent 1075 with hlow | hhigh
    · obtain ⟨-, hlt⟩ := Magnitude.value_lt_of_ofFields
        hpos.ne' hfraction (show (52 : ℕ) + -1074 + (exponent : ℤ) ≤ 52 by omega)
      have hle : (2 ^ 52 : ℚ) ≤ u := by
        have hle : 2 ^ 52 ≤ u := by omega
        exact_mod_cast hle
      have hbound : (u : ℚ) < 1075 * 2 ^ 52 := by
        have hlt : u < 1075 * 2 ^ 52 := by omega
        exact_mod_cast hlt
      refine ⟨fun heq => ?_, fun heq => ?_⟩
      · linarith
      · linarith
    · obtain ⟨shift, rfl⟩ := Nat.exists_eq_add_of_le hhigh
      have hvalue : (Magnitude.ofFields 52 (-1074) (1075 + shift) fraction).value =
          ((2 ^ 52 + fraction) * 2 ^ shift : ℕ) := by
        rw [Magnitude.value_ofFields (by omega)]
        push_cast
        rw [← zpow_natCast]
        congr 2
        ring
      have hbits : (1075 + shift) * 2 ^ 52 + fraction < 2 ^ 63 := by omega
      obtain ⟨hsame, hopposite⟩ := scaled_ne hfraction hbits
      rw [hvalue]
      refine ⟨fun heq => ?_, fun heq => ?_⟩
      · have heq : (2 ^ 52 + fraction) * 2 ^ shift = u := by exact_mod_cast heq
        omega
      · have heq : (2 ^ 52 + fraction) * 2 ^ shift + u = 2 ^ 63 := by exact_mod_cast heq
        omega

/-- The fields of a word without its highest bit, whether or not that bit is set. -/
lemma fields_ofNat {u : ℕ} (hu : u < 2 ^ 63) (negative : Bool) :
    let x : Binary64 := ⟨.ofNat ((if negative then 2 ^ 63 else 0) + u)⟩
    x.isNegative = negative ∧
      x.magnitude = Magnitude.ofFields 52 (-1074) (u / 2 ^ 52) (u % 2 ^ 52) := by
  have hbits : (UInt64.ofNat ((if negative then 2 ^ 63 else 0) + u)).toNat =
      (if negative then 2 ^ 63 else 0) + u := by
    rw [UInt64.toNat_ofNat', Nat.mod_eq_of_lt]
    split <;> omega
  refine ⟨?_, ?_⟩
  · rw [Binary64.isNegative, hbits]
    cases negative with
    | false => exact decide_eq_false (by simp; omega)
    | true => exact decide_eq_true (Nat.le_add_right _ _)
  · rw [Binary64.magnitude, Binary64.exponent, Binary64.fraction, hbits]
    congr 1
    · split <;> omega
    · split <;> omega

/-- The bytes of an integer in two's complement are those of a float of the same number only for
zero. -/
lemma number?_bits {z : ℤ} (hlow : -2 ^ 63 ≤ z) (hhigh : z < 2 ^ 63) :
    (Binary64.mk (.ofNat (z % 2 ^ 64).toNat)).number? = some (z : ℚ) ↔ z = 0 := by
  refine ⟨fun h => ?_, ?_⟩
  · rw [Binary64.number?] at h
    split at h
    · rcases le_or_gt 0 z with hz | hz
      · obtain ⟨u, rfl⟩ := Int.eq_ofNat_of_zero_le hz
        have hu : u < 2 ^ 63 := by omega
        obtain ⟨hnegative, hmagnitude⟩ := fields_ofNat hu false
        have hword : ((u : ℤ) % 2 ^ 64).toNat = (if false = true then 2 ^ 63 else 0) + u := by
          rw [if_neg Bool.false_ne_true]
          omega
        rw [hword, hnegative, hmagnitude, if_neg Bool.false_ne_true, Option.some_inj] at h
        exact_mod_cast (value_bits hu).1 h
      · obtain ⟨u, rfl⟩ : ∃ u : ℕ, z = u - 2 ^ 63 := ⟨(z + 2 ^ 63).toNat, by omega⟩
        have hu : u < 2 ^ 63 := by omega
        obtain ⟨hnegative, hmagnitude⟩ := fields_ofNat hu true
        have hword : (((u : ℤ) - 2 ^ 63) % 2 ^ 64).toNat =
            (if true = true then 2 ^ 63 else 0) + u := by
          rw [if_pos rfl]
          omega
        rw [hword, hnegative, hmagnitude, if_pos rfl, Option.some_inj] at h
        push_cast at h
        exact absurd (by linarith) (value_bits hu).2
    · cases h
  · rintro rfl
    have hsize : (Binary64.zero.magnitude).value = 0 := by
      rw [Magnitude.value]
      exact zero_mul _
    exact congrArg some hsize

end BulkValues.Number
