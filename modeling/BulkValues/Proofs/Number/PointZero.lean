/-
# A point and a zero

A whole number is read as the same float with `.0` behind it, so that the literal of a float is read
as its display text.  However many zeros stand at the end of the binary digits of a number, it is
rounded in the same way, and ten times the number divided by ten has these digits again.
-/
import BulkValues.Number.Reader
import BulkValues.Proofs.Json.FiniteFloat
import BulkValues.Proofs.Number.Layout
import BulkValues.Proofs.Number.Rounding

namespace BulkValues.Number

open BulkValues.Text Float.Model Float.Model.UnpackedFloat

variable {n m k : ℕ} {e : ℤ} {ds es w : List Char} {negative : Bool} {s t : String}

/-! ## Zeros at the end of a mantissa -/

lemma shiftRight_succ (em : ExtendedMantissa) (k : ℕ) :
    em >>> (k + 1) = em.shiftRightOne >>> k := by
  induction k with
  | zero => rfl
  | succ k ih => exact congrArg ExtendedMantissa.shiftRightOne ih

/-- Zeros that are shifted out leave no trace. -/
lemma ofMantissa_shiftRight (m j k : ℕ) :
    ExtendedMantissa.ofMantissaAndAccuracy (m * 2 ^ j) .exact >>> (k + j) =
      ExtendedMantissa.ofMantissaAndAccuracy m .exact >>> k := by
  induction j with
  | zero => rw [Nat.pow_zero, Nat.mul_one, Nat.add_zero]
  | succ j ih =>
    have hone : (ExtendedMantissa.ofMantissaAndAccuracy (m * 2 ^ (j + 1)) .exact).shiftRightOne =
        ExtendedMantissa.ofMantissaAndAccuracy (m * 2 ^ j) .exact := by
      rw [Nat.pow_succ, ← Nat.mul_assoc]
      simp [ExtendedMantissa.ofMantissaAndAccuracy, ExtendedMantissa.shiftRightOne]
    rw [← Nat.add_assoc, shiftRight_succ, hone, ih]

lemma log2_mul_two_pow (j : ℕ) (hm : 0 < m) : (m * 2 ^ j).log2 = m.log2 + j := by
  rw [← Nat.shiftLeft_eq, log2_shiftLeft j hm]

/-- A number is rounded in the same way with zeros at its end. -/
lemma roundWithAccuracy_mul_two_pow (hm : 0 < m) (he : e ≤ totalExponent m e - 53) (j : ℕ) :
    roundWithAccuracy .binary64 .positive (m * 2 ^ j) (e - j) .exact =
      roundWithAccuracy .binary64 .positive m e .exact := by
  have htotal : totalExponent (m * 2 ^ j) (e - j) = totalExponent m e := by
    rw [totalExponent, totalExponent, log2_mul_two_pow j hm]
    omega
  have hshift : shiftToTargetExponent .binary64 (m * 2 ^ j) (e - j) .exact =
      shiftToTargetExponent .binary64 m e .exact := by
    rw [shiftToTargetExponent, shiftToTargetExponent, htotal, shiftToExponent, shiftToExponent]
    have htarget : totalExponent m e - 53 ≤ Format.binary64.targetExponent (totalExponent m e) :=
      le_max_left _ _
    generalize Format.binary64.targetExponent (totalExponent m e) = target at *
    have hamount : (target - (e - j)).toNat = (target - e).toNat + j := by omega
    rw [hamount, ofMantissa_shiftRight]
    congr 1
    omega
  rw [roundWithAccuracy, roundWithAccuracy, hshift]

/-- A whole number, rounded. -/
def rounded (n : ℕ) : UnpackedFloat :=
  roundWithAccuracy .binary64 .positive (n * 2 ^ 53) (-53 : ℤ) .exact

/-- With enough binary places the number of them does not matter. -/
lemma roundWithAccuracy_eq_rounded (hn : 0 < n) (hk : 52 ≤ n.log2 + k) :
    roundWithAccuracy .binary64 .positive (n * 2 ^ k) (-(k : ℤ)) .exact = rounded n := by
  have hplaces : ∀ k, 0 < n * 2 ^ k := fun k => Nat.mul_pos hn (Nat.two_pow_pos k)
  have hmove : ∀ k j, 52 ≤ n.log2 + k →
      roundWithAccuracy .binary64 .positive (n * 2 ^ (k + j)) (-((k + j : ℕ) : ℤ)) .exact =
        roundWithAccuracy .binary64 .positive (n * 2 ^ k) (-(k : ℤ)) .exact := by
    intro k j hk
    have hsame := roundWithAccuracy_mul_two_pow (e := -(k : ℤ)) (hplaces k)
      (by rw [totalExponent, log2_mul_two_pow k hn]; omega) j
    rw [← hsame, Nat.mul_assoc, ← Nat.pow_add, Nat.cast_add, neg_add, sub_eq_add_neg]
  rcases Nat.le_total k 53 with hle | hle
  · obtain ⟨j, hj⟩ := Nat.exists_eq_add_of_le hle
    rw [rounded, ← hmove k j hk, ← hj]
    rfl
  · obtain ⟨j, rfl⟩ := Nat.exists_eq_add_of_le hle
    exact hmove 53 j (by omega)

/-! ## Exact numbers -/

/-- A mantissa of 53 bits is left alone. -/
lemma roundWithAccuracy_of_log2 (hm : 0 < m) (hlog : m.log2 = 52) (he : -1074 ≤ e) :
    roundWithAccuracy .binary64 .positive m e .exact = .finite .positive m e hm := by
  have htarget : Format.binary64.targetExponent (totalExponent m e) = e := by
    change max (totalExponent m e - 53) (-1074) = e
    rw [totalExponent, hlog]
    omega
  have hshift : ∀ em : ExtendedMantissa, em >>> (0 : ℕ) = em := fun _ => rfl
  simp [roundWithAccuracy, shiftToTargetExponent, shiftToExponent, htarget, hshift,
    ExtendedMantissa.ofMantissaAndAccuracy, ExtendedMantissa.roundedMantissa,
    ExtendedMantissa.accuracy, Accuracy.roundToNearestEven, hm.ne']

lemma log2_lt_of_lt (hn : 0 < n) (h : n < 2 ^ 53) : n.log2 ≤ 52 :=
  Nat.lt_succ_iff.mp ((Nat.log2_lt hn.ne').mpr h)

/-- A number of at most 53 bits is exact. -/
lemma rounded_of_lt (hn : 0 < n) (h : n < 2 ^ 53) :
    rounded n = .finite .positive (n * 2 ^ (52 - n.log2)) (-((52 - n.log2 : ℕ) : ℤ))
      (Nat.mul_pos hn (Nat.two_pow_pos _)) := by
  have hlog := log2_lt_of_lt hn h
  rw [← roundWithAccuracy_eq_rounded (k := 52 - n.log2) hn (by omega)]
  refine roundWithAccuracy_of_log2 _ ?_ (by omega)
  rw [log2_mul_two_pow _ hn]
  omega

lemma unpackSign_packComponents (s : Sign) (exponent : BitVec 11) (mantissa : BitVec 52) :
    unpackSign (packComponents .binary64 s exponent mantissa) = s.toBitVec := by
  change (s.toBitVec ++ exponent ++ mantissa).extractLsb' 63 1 = s.toBitVec
  rw [BitVec.extractLsb'_append_eq_of_le (by decide),
    BitVec.extractLsb'_append_eq_of_le (by decide)]
  cases s with
  | positive => rfl
  | negative => rfl

/-- What is packed without loss is read back. -/
lemma stored_finite (hm : 0 < m) (hlog : m.log2 = 52) (hlow : -1074 ≤ e) (hhigh : e ≤ 971) :
    stored (.finite .positive m e hm) = .finite .positive m e hm := by
  have hmantissa : 2 ^ 52 ≤ m ∧ m < 2 ^ 53 := (Nat.log2_eq_iff hm.ne').mp hlog
  have hfits : ¬2048 ≤ (e + 1023 + 52).toNat + 1 := by omega
  have hexponent : (BitVec.ofNat 11 (e + 1023 + 52).toNat).toNat = (e + 1075).toNat := by
    rw [BitVec.toNat_ofNat]
    omega
  have hlast : BitVec.ofNat 11 (e + 1023 + 52).toNat ≠ -1#_ := by
    intro h
    have heq := congrArg BitVec.toNat h
    rw [hexponent] at heq
    have hall : (-1#11).toNat = 2047 := by decide
    omega
  have hfirst : BitVec.ofNat 11 (e + 1023 + 52).toNat ≠ 0#_ := by
    intro h
    have heq := congrArg BitVec.toNat h
    rw [hexponent] at heq
    have hzero : (0#11).toNat = 0 := by decide
    omega
  have himplicit : (1#1 ++ BitVec.ofNat 52 m).toNat = m := by
    rw [BitVec.toNat_append, ← Nat.shiftLeft_add_eq_or_of_lt (BitVec.isLt _), BitVec.toNat_ofNat]
    change 1 <<< 52 + m % 2 ^ 52 = m
    omega
  have hvalue : ((BitVec.ofNat 11 (e + 1023 + 52).toNat).toNat : ℤ) -
      ((Format.binary64.exponentBias : ℤ) + (52 : ℕ)) = e := by
    rw [hexponent]
    change ((e + 1075).toNat : ℤ) - (1023 + 52) = e
    omega
  have hpack : UnpackedFloat.pack .binary64 (.finite .positive m e hm) =
      packComponents .binary64 .positive (.ofNat 11 (e + 1023 + 52).toNat) (.ofNat 52 m) := by
    simp only [UnpackedFloat.pack]
    rw [if_neg (by exact hfits), if_pos (by rw [hlog]; rfl)]
    rfl
  rw [stored, hpack]
  simp only [UnpackedFloat.unpack, unpackExponent_packComponents, unpackMantissa_packComponents,
    unpackSign_packComponents]
  rw [if_neg hlast, if_neg hfirst]
  simp only [himplicit, hvalue]
  rfl

/-! ## Quotients -/

lemma log2_ten_mul (hn : 0 < n) : n.log2 + 3 ≤ (10 * n).log2 ∧ (10 * n).log2 ≤ n.log2 + 4 := by
  have hlow := Nat.log2_self_le hn.ne'
  have hhigh := Nat.lt_log2_self (n := n)
  have hten : 10 * n ≠ 0 := by omega
  constructor
  · rw [Nat.le_log2 hten, Nat.pow_add]
    omega
  · have hlt : (10 * n).log2 < n.log2 + 5 := by
      rw [Nat.log2_lt hten, Nat.pow_add]
      rw [Nat.pow_succ] at hhigh
      omega
    omega

/-- Ten times a number divided by ten is the number, with as many binary places as it takes. -/
lemma div_ten {a b : ℕ} (hn : 0 < n) (hplaces : b ≤ a ∨ (10 * n).log2 ≤ 56)
    (hten : 0 < 10 * n * 2 ^ a) (hdivisor : 0 < 10 * 2 ^ b) :
    UnpackedFloat.div .binary64 (.finite .positive (10 * n * 2 ^ a) (-(a : ℤ)) hten)
      (.finite .positive (10 * 2 ^ b) (-(b : ℤ)) hdivisor) = rounded n := by
  obtain ⟨hlow, hhigh⟩ := log2_ten_mul hn
  have htarget : Format.binary64.targetExponent
      (totalExponent (10 * n * 2 ^ a) (-(a : ℤ)) - totalExponent (10 * 2 ^ b) (-(b : ℤ))) =
        (10 * n).log2 - 56 := by
    change max (_ - 53) (-1074) = _
    have hlog : Nat.log2 10 = 3 := by decide
    rw [totalExponent, totalExponent, log2_mul_two_pow a (by omega), log2_mul_two_pow b (by omega),
      hlog]
    omega
  obtain ⟨k, hk⟩ : ∃ k : ℕ, min (-(a : ℤ) - -(b : ℤ)) ((10 * n).log2 - 56) = -(k : ℤ) :=
    ⟨(-min (-(a : ℤ) - -(b : ℤ)) ((10 * n).log2 - 56)).toNat, by omega⟩
  obtain ⟨s, hs⟩ : ∃ s : ℕ, (-(a : ℤ) - -(b : ℤ) - -(k : ℤ)).toNat = s ∧ a + s = b + k :=
    ⟨_, rfl, by omega⟩
  have hscaled : (10 * n * 2 ^ a) <<< s = 10 * 2 ^ b * (n * 2 ^ k) := by
    rw [Nat.shiftLeft_eq, Nat.mul_assoc, ← Nat.pow_add, hs.2, Nat.pow_add]
    ring
  rw [UnpackedFloat.div, divCore, htarget, hk, hs.1, hscaled, Nat.mul_mod_right,
    Nat.mul_div_cancel_left _ hdivisor]
  exact roundWithAccuracy_eq_rounded hn (by omega)

/-! ## Floats -/

/-- A float that is packed. -/
def packed (u : UnpackedFloat) : Float := ⟨Float.Model.pack u⟩

lemma ofNat_eq_rounded (hn : 0 < n) : UnpackedFloat.ofNat .binary64 n = rounded n := by
  have hcompare : compare (n : ℤ) 0 = .gt := Int.compare_eq_gt.mpr (by omega)
  have htarget : Format.binary64.targetExponent (totalExponent n 0) = n.log2 - 52 := by
    change max (totalExponent n 0 - 53) (-1074) = _
    rw [totalExponent]
    omega
  obtain ⟨k, hk⟩ : ∃ k : ℕ, (0 - ((n.log2 : ℤ) - 52)).toNat = k := ⟨_, rfl⟩
  rw [UnpackedFloat.ofNat, UnpackedFloat.ofInt, UnpackedFloat.normalize, hcompare]
  dsimp only
  rw [UnpackedFloat.round, Int.toNat_natCast, htarget]
  rw [decreaseExponent, hk, Nat.shiftLeft_eq, zero_sub]
  exact roundWithAccuracy_eq_rounded hn (by omega)

lemma toFloat_toUInt64 (hn : 0 < n) (h : n < 2 ^ 53) : n.toUInt64.toFloat = packed (rounded n) := by
  have hword : n.toUInt64.toNat = n := UInt64.toNat_ofNat_of_lt' (Nat.lt_trans h (by decide))
  have hfloat : n.toUInt64.toFloat =
      packed (UnpackedFloat.ofNat .binary64 n.toUInt64.toNat) := rfl
  rw [hfloat, hword, ofNat_eq_rounded hn]

lemma unpacked_packed_rounded (hn : 0 < n) (h : n < 2 ^ 53) :
    unpacked (packed (rounded n)) = rounded n := by
  change stored (rounded n) = rounded n
  have hlog := log2_lt_of_lt hn h
  rw [rounded_of_lt hn h]
  refine stored_finite _ ?_ (by omega) (by omega)
  rw [log2_mul_two_pow _ hn]
  omega

/-- A whole number as it is read. -/
lemma ofScientific_zero (hn : 0 < n) : Float.ofScientific n false 0 = packed (rounded n) := by
  rw [Float.ofScientific]
  split
  · rename_i h
    have hone : unpacked (Float.ofBits 0x3FF0000000000000) =
        .finite .positive (2 ^ 52) (-52) (by decide) := by rfl
    have hproduct : UnpackedFloat.mul .binary64 (rounded n)
        (unpacked (Float.ofBits 0x3FF0000000000000)) = rounded n := by
      rw [hone, rounded_of_lt hn h.1, UnpackedFloat.mul, Nat.mul_assoc, ← Nat.pow_add]
      rw [← rounded_of_lt hn h.1,
        ← roundWithAccuracy_eq_rounded (k := 52 - n.log2 + 52) hn (by omega)]
      congr 1
      omega
    rw [if_neg Bool.false_ne_true, toFloat_toUInt64 hn h.1]
    change packed (UnpackedFloat.mul .binary64 (unpacked (packed (rounded n)))
      (unpacked (Float.ofBits 0x3FF0000000000000))) = _
    rw [unpacked_packed_rounded hn h.1, hproduct]
  · change packed (UnpackedFloat.ofScientific .binary64 n (0 : ℕ)) = _
    rw [ofScientific_eq hn.ne' (by omega), Nat.shiftLeft_eq, Nat.pow_zero, Nat.mul_one]
    rfl

/-- Ten times a whole number with one place. -/
lemma ofScientific_one (hn : 0 < n) : Float.ofScientific (10 * n) true 1 = packed (rounded n) := by
  have hpos : 0 < 10 * n := by omega
  rw [Float.ofScientific]
  split
  · rename_i h
    have hten : unpacked (Float.ofBits 0x4024000000000000) =
        .finite .positive (10 * 2 ^ 49) (-(49 : ℕ)) (by decide) := by rfl
    have hlog := log2_lt_of_lt hpos h.1
    rw [if_pos rfl, toFloat_toUInt64 hpos h.1]
    change packed (UnpackedFloat.div .binary64 (unpacked (packed (rounded (10 * n))))
      (unpacked (Float.ofBits 0x4024000000000000))) = _
    rw [unpacked_packed_rounded hpos h.1, rounded_of_lt hpos h.1, hten,
      div_ten hn (.inr (by omega))]
  · rename_i h
    have hbound : (2 : ℤ) ^ Format.binary64.exponentBits = 2048 := by decide
    change packed (UnpackedFloat.ofScientific .binary64 (10 * n) (-1)) = _
    rw [UnpackedFloat.ofScientific, dif_neg hpos.ne', hbound, if_neg (by omega), if_neg (by omega),
      if_neg (by omega)]
    have hquotient := div_ten (a := 0) (b := 0) hn (.inl (Nat.le_refl 0)) (by omega) (by decide)
    simp only [Nat.pow_zero, Nat.mul_one] at hquotient
    exact congrArg packed hquotient

/-- A number with `.0` behind it is read as the number. -/
lemma nearest_ten_mul (n : ℕ) : nearest (10 * n) (-1) = nearest n 0 := by
  rcases Nat.eq_zero_or_pos n with rfl | hn
  · rfl
  · have hlength : (Nat.toDigits 10 (10 * n)).length = (Nat.toDigits 10 n).length + 1 := by
      rw [Nat.toDigits_of_base_le (by decide) (by omega), Nat.mul_div_cancel_left n (by decide),
        List.length_append, List.length_singleton]
    have hlead : (-1 : ℤ) + (Nat.toDigits 10 (10 * n)).length = 0 + (Nat.toDigits 10 n).length := by
      omega
    rw [nearest, nearest, hlead, if_neg (by omega), if_neg hn.ne']
    split
    · rfl
    · split
      · rfl
      · exact congrArg Binary64.ofFloat ((ofScientific_one hn).trans (ofScientific_zero hn).symm)

/-! ## Texts -/

lemma readUnsignedFloat?_whole (h : IsDigits ds) :
    readUnsignedFloat? ds = some (nearest (digitsValue ds) 0) := by
  have htake : ds.takeWhile isAsciiDigit = ds := List.takeWhile_eq_self_iff.mpr h.2
  have hdrop : ds.dropWhile isAsciiDigit = [] := List.dropWhile_eq_nil_iff.mpr h.2
  simp [readUnsignedFloat?, htake, hdrop, h.1, readExponent?]

lemma readUnsignedFloat?_pointed (hds : IsDigits ds) (hes : IsDigits es) :
    readUnsignedFloat? (ds ++ '.' :: es) =
      some (nearest (digitsValue (ds ++ es)) (-(es.length : ℤ))) := by
  have htake : (ds ++ '.' :: es).takeWhile isAsciiDigit = ds :=
    takeWhile_append_of_stopsAt hds.2 (stopsAt_cons (by decide) es)
  have hdrop : (ds ++ '.' :: es).dropWhile isAsciiDigit = '.' :: es :=
    dropWhile_append_of_stopsAt hds.2 (stopsAt_cons (by decide) es)
  have hplaces : es.takeWhile isAsciiDigit = es := List.takeWhile_eq_self_iff.mpr hes.2
  have hrest : es.dropWhile isAsciiDigit = [] := List.dropWhile_eq_nil_iff.mpr hes.2
  simp [readUnsignedFloat?, htake, hdrop, hplaces, hrest, hds.1, readExponent?]

lemma readUnsignedFloat?_pointZero (h : IsDigits ds) :
    readUnsignedFloat? (ds ++ ['.', '0']) = readUnsignedFloat? ds := by
  have hzero : digitsValue (ds ++ ['0']) = 10 * digitsValue ds :=
    digitsValue_append_singleton ds '0'
  rw [readUnsignedFloat?_pointed h isDigits_zero, hzero, readUnsignedFloat?_whole h]
  exact congrArg some (nearest_ten_mul (digitsValue ds))

/-- A sign in front of digits changes the sign of what is read. -/
lemma readFloat?_signed (hs : s.toList = signed negative w) (hw : IsPositional w) :
    readFloat? s = (readUnsignedFloat? w).map fun x => if negative then x.neg else x := by
  have hread : (readUnsignedFloat? w).or (readSpecialFloat? w) = readUnsignedFloat? w := by
    cases hw with
    | whole hds => rw [readUnsignedFloat?_whole hds, Option.some_or]
    | pointed hds hes => rw [readUnsignedFloat?_pointed hds hes, Option.some_or]
  cases negative with
  | true =>
    rw [signed, if_pos rfl, List.singleton_append] at hs
    rw [readFloat?, hs]
    exact congrArg (Option.map Binary64.neg) hread
  | false =>
    rw [signed, if_neg Bool.false_ne_true, List.nil_append] at hs
    rw [readFloat?, hs]
    split
    · rcases hw.mem (List.mem_cons_self ..) with hdigit | hpoint
      · exact absurd hdigit (by decide)
      · exact absurd hpoint (by decide)
    · rcases hw.mem (List.mem_cons_self ..) with hdigit | hpoint
      · exact absurd hdigit (by decide)
      · exact absurd hpoint (by decide)
    · exact hread.trans Option.map_id'.symm

/-- The literal of a finite float is read as the display text, which may be without the point. -/
lemma readFloat?_float {x : Binary64} (h : x.isFinite = true) :
    readFloat? (Literal.float x) = readFloat? x.display := by
  obtain ⟨ds, es, hds, hes, hlit, hsame | ⟨rfl, hdisplay⟩⟩ := toList_float h
  · rw [hsame]
  · rw [readFloat?_signed hlit (.pointed hds hes), readFloat?_signed hdisplay (.whole hds),
      readUnsignedFloat?_pointZero hds]

end BulkValues.Number
