/-
# Floats that are read are finite

A number in a document that is no whole number is read by scaling its first digits by a power of
ten.  A significand of 64 bits is far below the largest float and division does not bring it near,
so the only way to a float that is not finite is a product that overflows, and that is refused.
-/
import BulkValues.Json.Reader
import BulkValues.Proofs.Number.Rounding

namespace BulkValues.Number

open Float.Model Float.Model.UnpackedFloat

/-! ## Floats -/

/-- A float taken apart. -/
def unpacked (f : Float) : UnpackedFloat := f.toModel.unpack

lemma unpacked_mul (f g : Float) :
    unpacked (f * g) = stored (UnpackedFloat.mul .binary64 (unpacked f) (unpacked g)) := rfl

lemma exponent_ofFloat (f : Float) : (Binary64.ofFloat f).exponent =
    (@unpackExponent .binary64 f.toModel.toBits.toBitVec).toNat := by
  change f.toModel.toBits.toBitVec.toNat / 2 ^ 52 % 2 ^ 11 = _
  rw [unpackExponent, BitVec.toNat_cast, BitVec.extractLsb_toNat, Nat.shiftRight_eq_div_pow]
  rfl

lemma isFinite_ofFloat {f : Float} (h : (unpacked f).isFinite = true) :
    (Binary64.ofFloat f).isFinite = true := by
  rw [Binary64.isFinite, exponent_ofFloat, bne_iff_ne]
  intro hexponent
  have hall : @unpackExponent .binary64 f.toModel.toBits.toBitVec = -1#_ :=
    BitVec.eq_of_toNat_eq hexponent
  rw [unpacked, Float.Model.unpack, UnpackedFloat.unpack] at h
  simp only [hall, if_true] at h
  split at h
  · cases h
  · cases h

lemma isFinite_neg {x : Binary64} (h : x.isFinite = true) : x.neg.isFinite = true := by
  have hexponent : x.neg.exponent = x.exponent := by
    rw [Binary64.exponent, Binary64.exponent, Binary64.neg, UInt64.toNat_xor,
      Nat.xor_div_two_pow, Nat.xor_mod_two_pow]
    exact Nat.xor_zero _
  rw [Binary64.isFinite, hexponent]
  exact h

/-- A whole number of 64 bits is far below the largest float. -/
lemma below_ofScientific {n : ℕ} (h : n < 2 ^ 64) :
    Below 67 (unpacked (Float.ofScientific n false 0)) := by
  have htotal : totalExponent n 0 ≤ 64 := by
    by_cases hn : n = 0
    · subst hn
      decide
    · have hlog := (Nat.log2_lt hn).mpr h
      rw [totalExponent]
      omega
  rw [Float.ofScientific]
  split
  · have hone : Below 1 (unpacked (Float.ofBits 0x3FF0000000000000)) := by decide
    have hofNat : unpacked n.toUInt64.toFloat =
        stored (UnpackedFloat.ofNat .binary64 n.toUInt64.toNat) := rfl
    rw [if_neg Bool.false_ne_true, unpacked_mul]
    refine below_stored (by omega) (by omega) ?_
    refine below_mul (j := 65) (k := 1) (by omega) ?_ hone
    rw [hofNat, UInt64.toNat_ofNat_of_lt' h]
    exact below_stored (by omega) (by omega) (below_ofNat (k := 64) (by omega) htotal)
  · rename_i hlarge
    have hn : 0 < n := by omega
    change Below 67 (stored (UnpackedFloat.ofScientific .binary64 n (0 : ℕ)))
    refine below_stored (by omega) (by omega) ?_
    obtain ⟨m, hlog, heq⟩ := exists_ofScientific hn.ne' (Nat.zero_le 2048)
    rw [Nat.pow_zero, Nat.mul_one] at hlog
    rw [heq]
    refine (below_roundWithAccuracy (k := 64) (by omega) ?_ _ _).mono (by omega)
    rw [totalExponent] at htotal ⊢
    omega

/-! ## Powers of ten -/

lemma log2_pow_ten {k : ℕ} (h : k ≤ 307) : (10 ^ k).log2 ≤ 1019 := by
  have hlt : 10 ^ k < 2 ^ 1020 :=
    (Nat.pow_le_pow_right (by omega) h).trans_lt (by decide +kernel)
  have hlog := (Nat.log2_lt (Nat.pow_pos (by omega)).ne').mpr hlt
  omega

lemma isLarge_powerOfTen {k : ℕ} (h : k ≤ 308) :
    isLarge (unpacked (Json.powerOfTen k)) = true := by
  obtain hsmall | hlarge : k ≤ 22 ∨ 22 < k := by omega
  · have htable : ∀ k ≤ 22, isLarge (unpacked (Json.powerOfTen k)) = true := by decide
    exact htable k hsmall
  · obtain rfl | hk : k = 308 ∨ k ≤ 307 := by omega
    · decide +kernel
    · have hunpacked : unpacked (Json.powerOfTen k) =
          stored (UnpackedFloat.ofScientific .binary64 1 k) := by
        rw [Json.powerOfTen, Float.ofScientific, dif_neg (by omega)]
        rfl
      have hlog := log2_pow_ten hk
      obtain ⟨m, hm, hscaled⟩ := exists_ofScientific (k := k) Nat.one_ne_zero (by omega)
      rw [Nat.one_mul] at hm
      have htotal : totalExponent m (-53) = (10 ^ k).log2 + 1 := by
        rw [totalExponent, hm]
        omega
      obtain ⟨r, e, hr, heq, hr52, hlow, hhigh⟩ :=
        exists_canonical (m := m) (e := -53) (by omega) (by omega) .positive .exact
      rw [hunpacked, hscaled, heq]
      exact isLarge_stored hr hr52 (by omega) (by omega)

/-! ## Scaled significands -/

/-- Scaling by a power of ten gives a finite float, since overflow gives none: the steps in which
a significand is divided do not make it too large. -/
lemma isFinite_scaleFloat {k exp : ℤ} {f g : Float} (hk : 0 ≤ k)
    (hbound : -1000 ≤ exp → k - exp / 308 ≤ 900) (hf : Below k (unpacked f))
    (h : Json.scaleFloat exp f = some g) : (unpacked g).isFinite = true := by
  fun_induction Json.scaleFloat exp f generalizing k with
  | case1 exp f hpos hsmall => cases h
  | case2 exp f hpos hsmall r =>
    rename_i hfits
    obtain rfl := Option.some.inj h
    obtain ⟨j, hj⟩ := exists_mul hf (isLarge_powerOfTen (k := exp.toNat) (by omega))
    exact (isFinite_or_isInf_stored hj).resolve_right hfits
  | case3 exp f hpos hlarge hzero =>
    cases h
    exact isFinite_of_below hf
  | case4 exp f hpos hlarge hzero => cases h
  | case5 exp f hneg hlow =>
    cases h
    have hdiv := below_div hk hf (isLarge_powerOfTen (k := exp.natAbs) (by omega))
    exact isFinite_of_below (below_stored (by omega) (by omega) hdiv)
  | case6 exp f hneg hlow hzero =>
    cases h
    exact isFinite_of_below hf
  | case7 exp f hneg hlow hzero htiny =>
    cases h
    decide
  | case8 exp f hneg hlow hzero htiny ih =>
    have hdiv := below_div hk hf (isLarge_powerOfTen le_rfl)
    exact ih (by omega) (by omega) (below_stored (by omega) (by omega) hdiv) h

/-! ## Numbers -/

/-- A significand fits 64 bits. -/
lemma takeSignificand_lt {m n : ℕ} {ds spare : List Char} (hn : n < 2 ^ 64)
    (h : Json.takeSignificand n ds = (m, spare)) : m < 2 ^ 64 := by
  fun_induction Json.takeSignificand n ds with
  | case1 n =>
    cases h
    exact hn
  | case2 n d ds k hle ih =>
    rw [Json.maxWhole] at hle
    exact ih (by omega) h
  | case3 n d ds k hlarge =>
    cases h
    exact hn

lemma isFinite_of_assembleFloat {negative : Bool} {n : ℕ} {exp : ℤ} {x : JsonNumber}
    (hn : n < 2 ^ 64) (h : Json.assembleFloat negative n exp = some x) :
    ∃ y : Binary64, y.isFinite = true ∧ x = .float y := by
  rw [Json.assembleFloat, Option.map_eq_some_iff] at h
  obtain ⟨f, hf, rfl⟩ := h
  have hfinite := isFinite_ofFloat
    (isFinite_scaleFloat (k := 67) (by omega) (by omega) (below_ofScientific hn) hf)
  cases negative with
  | false => exact ⟨_, hfinite, rfl⟩
  | true => exact ⟨_, isFinite_neg hfinite, rfl⟩

end BulkValues.Number
