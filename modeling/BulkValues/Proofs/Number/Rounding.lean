/-
# Rounding keeps sizes

What rounding, packing, multiplying and dividing do to the size of a 64-bit float, which is the
number of binary places in front of its point.  Rounding adds at most one place, so a product has at
most one place more than its factors together and a quotient by a float of at least one has at most
one more than what is divided.  A float is stored as too large only when its size is.
-/
import BulkValues.Number.Binary
import Mathlib

namespace BulkValues.Number

open Float.Model Float.Model.UnpackedFloat

/-! ## Sizes -/

/-- Zero, or a float whose size is below `2 ^ k`. -/
def Below (k : ℤ) : UnpackedFloat → Prop
  | .zero _ => True
  | .finite _ m e _ => totalExponent m e ≤ k
  | _ => False

instance {k : ℤ} : DecidablePred (Below k)
  | .zero _ => inferInstanceAs (Decidable True)
  | .finite _ m e _ => inferInstanceAs (Decidable (totalExponent m e ≤ k))
  | .infinity _ => inferInstanceAs (Decidable False)
  | .notANumber => inferInstanceAs (Decidable False)

/-- Whether a float is finite and its size is at least one. -/
def isLarge : UnpackedFloat → Bool
  | .finite _ m e _ => 1 ≤ totalExponent m e
  | _ => false

lemma Below.mono {j k : ℤ} {u : UnpackedFloat} (h : Below j u) (hjk : j ≤ k) : Below k u := by
  cases u with
  | infinity s => exact h
  | notANumber => exact h
  | zero s => exact h
  | finite s m e hm => exact le_trans h hjk

/-! ## Rounding -/

lemma mantissa_shiftRight (em : ExtendedMantissa) (n : ℕ) :
    (em >>> n).mantissa = em.mantissa / 2 ^ n := by
  induction n with
  | zero => exact (Nat.div_one _).symm
  | succ n ih =>
    change (em >>> n).mantissa / 2 = _
    rw [ih, Nat.div_div_eq_div_mul, Nat.pow_succ]

lemma roundedMantissa_bounds (em : ExtendedMantissa) :
    em.mantissa ≤ em.roundedMantissa ∧ em.roundedMantissa ≤ em.mantissa + 1 := by
  rcases em with ⟨m, _ | _, _ | _⟩
  · exact ⟨le_rfl, m.le_succ⟩
  · exact ⟨le_rfl, m.le_succ⟩
  · change m ≤ m + m % 2 ∧ m + m % 2 ≤ m + 1
    omega
  · exact ⟨m.le_succ, le_rfl⟩

/-- The places by which a mantissa is shifted to have the bits of the format. -/
def excess (m : ℕ) (e : ℤ) : ℕ := (max (totalExponent m e - 53) (-1074) - e).toNat

lemma mantissa_shiftToTargetExponent (m : ℕ) (e : ℤ) (a : Accuracy) :
    (shiftToTargetExponent .binary64 m e a).1.mantissa = m / 2 ^ excess m e := by
  rw [shiftToTargetExponent, shiftToExponent, mantissa_shiftRight]
  rcases a with _ | _ | _ | _
  · rfl
  · rfl
  · rfl
  · rfl

lemma exponent_shiftToTargetExponent (m : ℕ) (e : ℤ) (a : Accuracy) :
    (shiftToTargetExponent .binary64 m e a).2 = e + excess m e := rfl

/-- Rounding shifts a mantissa to the bits of the format, rounds it, and shifts it once more in
case the rounding has made it longer. -/
lemma exists_roundWithAccuracy (s : Sign) (m : ℕ) (e : ℤ) (a : Accuracy) :
    ∃ r, m / 2 ^ excess m e ≤ r ∧ r ≤ m / 2 ^ excess m e + 1 ∧
      roundWithAccuracy .binary64 s m e a =
        if h : r / 2 ^ excess r (e + excess m e) = 0 then .zero s
        else .finite s (r / 2 ^ excess r (e + excess m e))
          (e + excess m e + excess r (e + excess m e)) (Nat.pos_of_ne_zero h) := by
  have hbounds := roundedMantissa_bounds (shiftToTargetExponent .binary64 m e a).1
  rw [mantissa_shiftToTargetExponent] at hbounds
  refine ⟨_, hbounds.1, hbounds.2, ?_⟩
  simp only [roundWithAccuracy, exponent_shiftToTargetExponent, mantissa_shiftToTargetExponent]

/-- Shifting does not make a number larger. -/
lemma totalExponent_div_le {m n : ℕ} {e : ℤ} (h : m / 2 ^ n ≠ 0) :
    totalExponent (m / 2 ^ n) (e + n) ≤ totalExponent m e := by
  have hm : m ≠ 0 := by
    rintro rfl
    exact h (Nat.zero_div _)
  have hlow : 2 ^ (m / 2 ^ n).log2 * 2 ^ n ≤ m :=
    (Nat.le_div_iff_mul_le (Nat.two_pow_pos n)).mp (Nat.log2_self_le h)
  rw [← Nat.pow_add] at hlow
  have hlog := (Nat.le_log2 hm).mpr hlow
  simp only [totalExponent]
  omega

lemma log2_le_of_le_succ {m n : ℕ} (h : n ≤ m + 1) : n.log2 ≤ m.log2 + 1 := by
  by_cases hn : n = 0
  · simp [hn]
  · have hlt : m < 2 ^ (m.log2 + 1) := Nat.lt_log2_self
    have hpow : 2 ^ (m.log2 + 1 + 1) = 2 * 2 ^ (m.log2 + 1) := by rw [Nat.pow_succ, Nat.mul_comm]
    have hlog : n.log2 < m.log2 + 1 + 1 := (Nat.log2_lt hn).mpr (by omega)
    omega

lemma below_roundWithAccuracy {k : ℤ} {m : ℕ} {e : ℤ} (hk : 0 ≤ k) (h : totalExponent m e ≤ k)
    (s : Sign) (a : Accuracy) : Below (k + 1) (roundWithAccuracy .binary64 s m e a) := by
  obtain ⟨r, -, hr, heq⟩ := exists_roundWithAccuracy s m e a
  -- The rounded mantissa is at most one bit longer.
  have htotal : totalExponent r (e + excess m e) ≤ k + 1 := by
    by_cases hzero : m / 2 ^ excess m e = 0
    · have hlog : r.log2 = 0 := by
        rw [hzero] at hr
        obtain rfl | rfl : r = 0 ∨ r = 1 := by omega
        · rfl
        · rfl
      simp only [totalExponent, hlog, excess] at h ⊢
      omega
    · have hshift := totalExponent_div_le (e := e) hzero
      have hlog := log2_le_of_le_succ hr
      simp only [totalExponent] at h hshift ⊢
      omega
  rw [heq]
  split
  · trivial
  · rename_i hne
    exact (totalExponent_div_le hne).trans htotal

/-- A number with at least the bits of the format keeps its size when it is rounded. -/
lemma exists_canonical {m : ℕ} {e : ℤ} (hm : 52 ≤ m.log2) (hlow : -1021 ≤ totalExponent m e)
    (s : Sign) (a : Accuracy) :
    ∃ (r : ℕ) (e' : ℤ) (hr : 0 < r), roundWithAccuracy .binary64 s m e a = .finite s r e' hr ∧
      r.log2 = 52 ∧ totalExponent m e - 53 ≤ e' ∧ e' ≤ totalExponent m e - 52 := by
  obtain ⟨r, hlo, hhi, heq⟩ := exists_roundWithAccuracy s m e a
  have hexcess : excess m e = m.log2 - 52 := by
    simp only [excess, totalExponent] at hlow ⊢
    omega
  have htotal : e + excess m e = totalExponent m e - 53 := by
    rw [hexcess, totalExponent]
    omega
  rw [htotal] at heq
  -- The mantissa has 53 bits after the first shift, and perhaps one more when it is rounded.
  have hpow : 2 ^ m.log2 = 2 ^ 52 * 2 ^ excess m e := by
    rw [← Nat.pow_add, hexcess]
    congr 1
    omega
  have hlower : 2 ^ 52 ≤ m / 2 ^ excess m e := by
    rw [Nat.le_div_iff_mul_le (Nat.two_pow_pos _), ← hpow]
    refine Nat.log2_self_le ?_
    rintro rfl
    exact absurd hm (by decide)
  have hupper : m / 2 ^ excess m e < 2 ^ 53 := by
    rw [Nat.div_lt_iff_lt_mul (Nat.two_pow_pos _)]
    have hlt := Nat.lt_log2_self (n := m)
    rw [Nat.pow_succ, hpow] at hlt
    omega
  obtain hshort | rfl : r < 2 ^ 53 ∨ r = 2 ^ 53 := by omega
  · have hlog : r.log2 = 52 := (Nat.log2_eq_iff (by omega)).mpr ⟨by omega, hshort⟩
    have hzero : excess r (totalExponent m e - 53) = 0 := by
      simp only [excess, totalExponent, hlog] at hlow ⊢
      omega
    rw [hzero, Nat.pow_zero, Nat.div_one, dif_neg (by omega)] at heq
    refine ⟨r, _, by omega, heq, hlog, ?_, ?_⟩
    · omega
    · omega
  · have hone : excess (2 ^ 53) (totalExponent m e - 53) = 1 := by
      simp only [excess, totalExponent, Nat.log2_two_pow] at hlow ⊢
      omega
    rw [hone, dif_neg (by decide)] at heq
    refine ⟨_, _, _, heq, by decide, ?_, ?_⟩
    · omega
    · omega

/-! ## Packing -/

variable {s : Sign} {exponent : BitVec Format.binary64.exponentBits}
  {mantissa : BitVec Format.binary64.mantissaBitsWithoutImplicit}

/-- The mantissa with its implicit bit. -/
lemma log2_implicit (mantissa : BitVec 52) : (1#1 ++ mantissa).toNat.log2 = 52 := by
  have hlt := mantissa.isLt
  have hvalue : (1#1 ++ mantissa).toNat = 2 ^ 52 + mantissa.toNat := by
    rw [BitVec.toNat_append, ← Nat.shiftLeft_add_eq_or_of_lt hlt]
    rfl
  rw [hvalue]
  exact (Nat.log2_eq_iff (by omega)).mpr ⟨by omega, by omega⟩

/-- A float as it is read back after it has been packed. -/
def stored (u : UnpackedFloat) : UnpackedFloat :=
  UnpackedFloat.unpack .binary64 (UnpackedFloat.pack .binary64 u)

/-- Unless its exponent is the largest, what is packed is zero or finite. -/
lemma unpack_packComponents (hexponent : exponent.toNat < 2047) :
    (exponent.toNat = 0 ∧
      ∃ s', UnpackedFloat.unpack .binary64 (packComponents .binary64 s exponent mantissa) =
        .zero s') ∨
    ∃ s' m e hm, UnpackedFloat.unpack .binary64 (packComponents .binary64 s exponent mantissa) =
        .finite s' m e hm ∧
      (exponent.toNat = 0 ∧ totalExponent m e ≤ -1022 ∨
        m.log2 = 52 ∧ e = exponent.toNat - 1075) := by
  have hfinite : exponent ≠ -1#_ := by
    rintro rfl
    exact absurd hexponent (by decide)
  simp only [UnpackedFloat.unpack, unpackExponent_packComponents, unpackMantissa_packComponents,
    hfinite, if_false]
  by_cases hzero : exponent = 0#_
  · simp only [hzero, if_true]
    by_cases hnone : mantissa = 0#_
    · exact .inl ⟨rfl, _, dif_pos hnone⟩
    · have hne : mantissa.toNat ≠ 0 := fun h => hnone (BitVec.eq_of_toNat_eq h)
      have hlog : mantissa.toNat.log2 < 52 := (Nat.log2_lt hne).mpr mantissa.isLt
      rw [dif_neg hnone]
      refine .inr ⟨_, _, _, Nat.pos_of_ne_zero hne, rfl, .inl ⟨rfl, ?_⟩⟩
      change (mantissa.toNat.log2 : ℤ) + 1 + (0 - 1075 + 1) ≤ -1022
      omega
  · simp only [hzero, if_false]
    have hpos : 0 < (1#1 ++ mantissa).toNat := by
      refine Nat.pos_of_ne_zero fun hnone => ?_
      have hlog := log2_implicit mantissa
      rw [hnone] at hlog
      exact absurd hlog (by decide)
    exact .inr ⟨_, _, _, hpos, rfl, .inr ⟨log2_implicit mantissa, rfl⟩⟩

/-- A float whose exponent fits is packed with its exponent, or with none if it is subnormal. -/
lemma pack_finite {m : ℕ} {e : ℤ} (hm : 0 < m) (he : e ≤ 971) :
    ∃ exponent mantissa, UnpackedFloat.pack .binary64 (.finite s m e hm) =
        packComponents .binary64 s exponent mantissa ∧
      (m.log2 = 52 ∧ exponent.toNat = (e + 1075).toNat ∨ m.log2 ≠ 52 ∧ exponent.toNat = 0) := by
  have hfits : ¬ 2048 ≤ (e + 1023 + 52).toNat + 1 := by omega
  simp only [UnpackedFloat.pack]
  rw [if_neg (by exact hfits)]
  split
  · rename_i hlog
    have hlog : m.log2 = 52 := Nat.succ.inj hlog
    have hexponent : (BitVec.ofNat 11 (e + 1023 + 52).toNat).toNat = (e + 1023 + 52).toNat := by
      rw [BitVec.toNat_ofNat]
      exact Nat.mod_eq_of_lt (by omega)
    refine ⟨BitVec.ofNat 11 (e + 1023 + 52).toNat, _, rfl, .inl ⟨hlog, ?_⟩⟩
    rw [hexponent]
    omega
  · rename_i hlog
    exact ⟨0#_, _, rfl, .inr ⟨fun h => hlog (congrArg (· + 1) h), rfl⟩⟩

lemma stored_zero (s : Sign) : stored (.zero s) = .zero s := unpack_packedZero

/-- Packing a float that is not too large keeps the bound on its size. -/
lemma below_stored {k : ℤ} {u : UnpackedFloat} (hlow : 0 ≤ k) (hhigh : k ≤ 972)
    (h : Below k u) : Below k (stored u) := by
  cases u with
  | infinity s => exact h.elim
  | notANumber => exact h.elim
  | zero s =>
    rw [stored_zero]
    trivial
  | finite s m e hm =>
    have he : e ≤ 971 := by
      simp only [Below, totalExponent] at h
      omega
    obtain ⟨exponent, mantissa, hpack, hexponent⟩ := pack_finite (s := s) hm he
    rw [stored, hpack]
    obtain ⟨-, s', heq⟩ | ⟨s', m', e', hm', heq, hsize⟩ :=
      @unpack_packComponents s exponent mantissa (by omega)
    · rw [heq]
      trivial
    · rw [heq]
      simp only [Below, totalExponent] at h hsize ⊢
      omega

/-- Packing a large float that fits gives a large float. -/
lemma isLarge_stored {m : ℕ} {e : ℤ} (hm : 0 < m) (hlog : m.log2 = 52) (hlow : -52 ≤ e)
    (hhigh : e ≤ 971) : isLarge (stored (.finite s m e hm)) = true := by
  obtain ⟨exponent, mantissa, hpack, hexponent⟩ := pack_finite (s := s) hm hhigh
  have hkept : exponent.toNat = (e + 1075).toNat := by omega
  rw [stored, hpack]
  obtain ⟨hzero, -⟩ | ⟨s', m', e', hm', heq, hzero | ⟨hlog', he'⟩⟩ :=
    @unpack_packComponents s exponent mantissa (by omega)
  · omega
  · omega
  · rw [heq, isLarge, totalExponent, hlog', he', hkept]
    exact decide_eq_true (by omega)

/-- A float that is packed stays finite unless it is too large. -/
lemma isFinite_or_isInf_stored {k : ℤ} {u : UnpackedFloat} (h : Below k u) :
    (stored u).isFinite = true ∨ (stored u).isInf = true := by
  cases u with
  | infinity s => exact h.elim
  | notANumber => exact h.elim
  | zero s =>
    rw [stored_zero]
    exact .inl rfl
  | finite s m e hm =>
    by_cases he : e ≤ 971
    · obtain ⟨exponent, mantissa, hpack, hexponent⟩ := pack_finite (s := s) hm he
      rw [stored, hpack]
      obtain ⟨-, s', heq⟩ | ⟨s', m', e', hm', heq, -⟩ :=
        @unpack_packComponents s exponent mantissa (by omega)
      · exact .inl (by rw [heq]; rfl)
      · exact .inl (by rw [heq]; rfl)
    · have hlarge : 2048 ≤ (e + 1023 + 52).toNat + 1 := by omega
      have hpack : UnpackedFloat.pack .binary64 (.finite s m e hm) =
          packedInfinity .binary64 s := by
        simp only [UnpackedFloat.pack]
        exact if_pos hlarge
      rw [stored, hpack]
      cases s with
      | positive => exact .inr rfl
      | negative => exact .inr rfl

/-! ## Products and quotients -/

lemma isFinite_of_below {k : ℤ} {u : UnpackedFloat} (h : Below k u) : u.isFinite = true := by
  cases u with
  | infinity s => exact h.elim
  | notANumber => exact h.elim
  | zero s => rfl
  | finite s m e hm => rfl

lemma log2_mul_le (m n : ℕ) : (m * n).log2 ≤ m.log2 + n.log2 + 1 := by
  by_cases hzero : m * n = 0
  · simp [hzero]
  · have hlt : m * n < 2 ^ (m.log2 + 1) * 2 ^ (n.log2 + 1) :=
      Nat.mul_lt_mul'' Nat.lt_log2_self Nat.lt_log2_self
    rw [← Nat.pow_add] at hlt
    have hlog := (Nat.log2_lt hzero).mpr hlt
    omega

lemma below_mul {j k : ℤ} {u v : UnpackedFloat} (hjk : 0 ≤ j + k) (hu : Below j u)
    (hv : Below k v) : Below (j + k + 1) (UnpackedFloat.mul .binary64 u v) := by
  cases u with
  | infinity s => exact hu.elim
  | notANumber => exact hu.elim
  | zero s =>
    cases v with
    | infinity t => exact hv.elim
    | notANumber => exact hv.elim
    | zero t => trivial
    | finite t n f hn => trivial
  | finite s m e hm =>
    cases v with
    | infinity t => exact hv.elim
    | notANumber => exact hv.elim
    | zero t => trivial
    | finite t n f hn =>
      refine below_roundWithAccuracy hjk ?_ _ _
      have hlog := log2_mul_le m n
      simp only [Below, totalExponent] at hu hv ⊢
      omega

/-- The product of two finite floats is finite before it is packed. -/
lemma exists_mul {j : ℤ} {u v : UnpackedFloat} (hu : Below j u) (hv : isLarge v = true) :
    ∃ k, Below k (UnpackedFloat.mul .binary64 u v) := by
  cases v with
  | infinity t => cases hv
  | notANumber => cases hv
  | zero t => cases hv
  | finite t n f hn =>
    refine ⟨_, below_mul (j := max j 0) (k := max (totalExponent n f) 0) (by omega) ?_ ?_⟩
    · cases u with
      | finite s m e hm => exact le_max_of_le_left hu
      | infinity s => exact hu
      | notANumber => exact hu
      | zero s => trivial
    · exact le_max_left _ _

lemma log2_div_le {m n k : ℕ} (hn : 0 < n) (hne : m / n ≠ 0) (h : m < 2 ^ (k + 1)) :
    (m / n).log2 + n.log2 ≤ k := by
  have hle : 2 ^ (m / n).log2 * 2 ^ n.log2 ≤ m := by
    calc 2 ^ (m / n).log2 * 2 ^ n.log2 ≤ m / n * n :=
          Nat.mul_le_mul (Nat.log2_self_le hne) (Nat.log2_self_le hn.ne')
      _ ≤ m := Nat.div_mul_le_self m n
  rw [← Nat.pow_add] at hle
  have hlt := (Nat.pow_lt_pow_iff_right Nat.one_lt_two).mp (hle.trans_lt h)
  omega

/-- Dividing by a large float does not make a float larger. -/
lemma below_div {k : ℤ} {u v : UnpackedFloat} (hk : 0 ≤ k) (hu : Below k u)
    (hv : isLarge v = true) : Below (k + 1) (UnpackedFloat.div .binary64 u v) := by
  cases v with
  | infinity t => cases hv
  | notANumber => cases hv
  | zero t => cases hv
  | finite t n f hn =>
    cases u with
    | infinity s => exact hu.elim
    | notANumber => exact hu.elim
    | zero s => trivial
    | finite s m e hm =>
      simp only [Below, isLarge, decide_eq_true_eq] at hu hv
      set target := min (e - f) (max (totalExponent m e - totalExponent n f - 53) (-1074))
        with htarget
      set places := (e - f - target).toNat with hplaces
      have hdiv : UnpackedFloat.div .binary64 (.finite s m e hm) (.finite t n f hn) =
          roundWithAccuracy .binary64 (s / t) ((m <<< places) / n) target
            (accuracyOfFraction ((m <<< places) % n) n) := rfl
      rw [hdiv]
      refine below_roundWithAccuracy hk ?_ _ _
      by_cases hzero : (m <<< places) / n = 0
      · rw [hzero]
        simp only [totalExponent, Nat.log2_zero] at hu hv htarget ⊢
        omega
      · have hbound : m <<< places < 2 ^ (m.log2 + places + 1) := by
          rw [Nat.shiftLeft_eq, Nat.add_right_comm, Nat.pow_add]
          exact Nat.mul_lt_mul_of_pos_right Nat.lt_log2_self (Nat.two_pow_pos places)
        have hlog := log2_div_le hn hzero hbound
        simp only [totalExponent] at hu hv htarget ⊢
        omega

/-! ## Whole numbers -/

lemma log2_shiftLeft {m : ℕ} (n : ℕ) (hm : 0 < m) : (m <<< n).log2 = m.log2 + n := by
  rw [Nat.shiftLeft_eq, Nat.log2_eq_iff (Nat.mul_pos hm (Nat.two_pow_pos n)).ne',
    Nat.add_right_comm, Nat.pow_add, Nat.pow_add]
  exact ⟨Nat.mul_le_mul_right _ (Nat.log2_self_le hm.ne'),
    Nat.mul_lt_mul_of_pos_right Nat.lt_log2_self (Nat.two_pow_pos n)⟩

lemma below_ofNat {k : ℤ} {n : ℕ} (hk : 0 ≤ k) (h : totalExponent n 0 ≤ k) :
    Below (k + 1) (UnpackedFloat.ofNat .binary64 n) := by
  rw [UnpackedFloat.ofNat, UnpackedFloat.ofInt, UnpackedFloat.normalize]
  split
  · rename_i hneg
    exact absurd (Int.compare_eq_lt.mp hneg) (by omega)
  · trivial
  · rename_i hpos
    have hpos : 0 < n := by
      have hpos := Int.compare_eq_gt.mp hpos
      omega
    refine below_roundWithAccuracy hk ?_ _ _
    rw [totalExponent, Int.toNat_natCast, log2_shiftLeft _ hpos]
    rw [totalExponent] at h
    omega

/-- A number that is not scaled far is multiplied by the power of ten, with 53 bits to spare. -/
lemma ofScientific_eq {m k : ℕ} (hm : m ≠ 0) (hk : k ≤ 2048) :
    UnpackedFloat.ofScientific .binary64 m k =
      roundWithAccuracy .binary64 .positive (m <<< 53 * 10 ^ k) (-53) .exact := by
  have hbound : (2 : ℤ) ^ Format.binary64.exponentBits = 2048 := by decide
  rw [UnpackedFloat.ofScientific, dif_neg hm, hbound, if_neg (by omega), if_neg (by omega),
    if_pos (Int.natCast_nonneg k)]
  rfl

lemma exists_ofScientific {m k : ℕ} (hm : m ≠ 0) (hk : k ≤ 2048) :
    ∃ m', m'.log2 = (m * 10 ^ k).log2 + 53 ∧ UnpackedFloat.ofScientific .binary64 m k =
      roundWithAccuracy .binary64 .positive m' (-53) .exact := by
  refine ⟨m <<< 53 * 10 ^ k, ?_, ofScientific_eq hm hk⟩
  have hpos : 0 < m * 10 ^ k := Nat.mul_pos (Nat.pos_of_ne_zero hm) (Nat.pow_pos (by omega))
  rw [← log2_shiftLeft 53 hpos, Nat.shiftLeft_eq, Nat.shiftLeft_eq, Nat.mul_right_comm]

end BulkValues.Number
