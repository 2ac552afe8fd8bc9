/-
# Exact numbers

The number that a text or a finite float stands for, as a rational number.  A text is read by the
grammar of floats, but nothing is rounded: digits with a point among them, and a power of ten.

A number that is a decimal of few digits and also a whole number times a power of two is not
small: each place after the point takes a factor five of the digits.
-/
import BulkValues.Number.Reader
import BulkValues.Proofs.Number.Digits
import Mathlib.Algebra.Order.Field.Power
import Mathlib.Data.List.Induction
import Mathlib.Data.List.TakeWhile
import Mathlib.Data.Rat.Cast.Order
import Mathlib.Tactic.FieldSimp
import Mathlib.Tactic.Lemma
import Mathlib.Tactic.NormNum
import Mathlib.Tactic.Positivity
import Mathlib.Tactic.Ring
import Mathlib.Tactic.Zify

namespace BulkValues.Number

open BulkValues.Text

/-! ## Texts -/

/-- The digits after a point in front, and the text after them. -/
def splitPlaces : List Char → List Char × List Char
  | '.' :: r => (r.takeWhile isAsciiDigit, r.dropWhile isAsciiDigit)
  | cs => ([], cs)

/-- The digits of a text without a sign, and the power of ten that they count. -/
def readScientific? (cs : List Char) : Option (ℕ × ℤ) :=
  let whole := cs.takeWhile isAsciiDigit
  let (places, rest) := splitPlaces (cs.dropWhile isAsciiDigit)
  if whole.isEmpty && places.isEmpty then none
  else (readExponent? rest).map fun e =>
    (digitsValue (whole ++ places), e - places.length)

/-- The number of a text: a sign may stand in front. -/
def readExact? : List Char → Option ℚ
  | '-' :: r => (readScientific? r).map fun d => -(d.1 * 10 ^ d.2)
  | '+' :: r => (readScientific? r).map fun d => d.1 * 10 ^ d.2
  | cs => (readScientific? cs).map fun d => d.1 * 10 ^ d.2

/-- How a text writes digits that count a power of ten.  It begins with a digit, a sign or a
point, and a power above one takes at least two characters. -/
structure Numeral (cs : List Char) (digits : ℕ) (exp : ℤ) : Prop where
  chars : ∀ c ∈ cs, 43 ≤ c.toNat ∧ c.toNat ≤ 101
  front : ∃ c r, cs = c :: r ∧ c.toNat ≤ 57
  digits_lt : digits < 10 ^ cs.length
  spare : 0 < exp → ∃ n, cs.length = n + 2 ∧ digits < 10 ^ n

variable {cs r : List Char} {c : Char} {e exp : ℤ} {digits n : ℕ}

lemma toNat_of_isAsciiDigit (h : isAsciiDigit c = true) :
    48 ≤ c.toNat ∧ c.toNat ≤ 57 := by
  rw [isAsciiDigit, Bool.and_eq_true, decide_eq_true_eq, decide_eq_true_eq] at h
  exact h

lemma digitsValue_lt {ds : List Char} (h : ∀ c ∈ ds, isAsciiDigit c = true) :
    digitsValue ds < 10 ^ ds.length := by
  induction ds using List.reverseRecOn with
  | nil => exact Nat.one_pos
  | append_singleton ds c ih =>
    have hc := toNat_of_isAsciiDigit (h c (by simp))
    have hds := ih fun c hc => h c (List.mem_append_left _ hc)
    have hdigit : digitValue c ≤ 9 := by
      rw [digitValue]
      change c.toNat - 48 ≤ 9
      omega
    rw [digitsValue_append_singleton, List.length_append, List.length_singleton, pow_succ]
    omega

/-- A character of a number is one of those from the plus sign to the small e. -/
lemma chars_of_digits {ds : List Char} (h : ∀ c ∈ ds, isAsciiDigit c = true) :
    ∀ c ∈ ds, 43 ≤ c.toNat ∧ c.toNat ≤ 101 := by
  intro c hc
  have hdigit := toNat_of_isAsciiDigit (h c hc)
  omega

lemma readDigits?_spec (h : readDigits? cs = some n) :
    cs ≠ [] ∧ ∀ c ∈ cs, 43 ≤ c.toNat ∧ c.toNat ≤ 101 := by
  rw [readDigits?] at h
  split at h
  · cases h
  · rename_i hdigits
    rw [Bool.or_eq_true, not_or, Bool.not_eq_true', Bool.not_eq_false, List.isEmpty_iff,
      List.all_eq_true] at hdigits
    exact ⟨hdigits.1, chars_of_digits hdigits.2⟩

/-- An exponent that is not empty has two characters. -/
lemma readExponent?_spec (h : readExponent? cs = some e) :
    (∀ c ∈ cs, 43 ≤ c.toNat ∧ c.toNat ≤ 101) ∧ (0 < e → 2 ≤ cs.length) := by
  rw [readExponent?.eq_def] at h
  split at h
  · cases h
    exact ⟨by simp, fun h => absurd h (lt_irrefl 0)⟩
  · rename_i mark r
    split at h
    · rename_i hmark
      have hmark : 43 ≤ mark.toNat ∧ mark.toNat ≤ 101 := by
        rw [Bool.or_eq_true, beq_iff_eq, beq_iff_eq] at hmark
        rcases hmark with rfl | rfl
        · decide
        · decide
      have hr : r ≠ [] ∧ ∀ c ∈ r, 43 ≤ c.toNat ∧ c.toNat ≤ 101 := by
        split at h
        · obtain ⟨_, h, -⟩ := Option.map_eq_some_iff.mp h
          obtain ⟨_, hdigits, -⟩ := Option.bind_eq_some_iff.mp h
          have hspec := readDigits?_spec hdigits
          exact ⟨List.cons_ne_nil _ _, List.forall_mem_cons.mpr ⟨by decide, hspec.2⟩⟩
        · obtain ⟨_, hdigits, -⟩ := Option.map_eq_some_iff.mp h
          have hspec := readDigits?_spec hdigits
          exact ⟨List.cons_ne_nil _ _, List.forall_mem_cons.mpr ⟨by decide, hspec.2⟩⟩
        · obtain ⟨_, hdigits, -⟩ := Option.map_eq_some_iff.mp h
          exact readDigits?_spec hdigits
      refine ⟨List.forall_mem_cons.mpr ⟨hmark, hr.2⟩, fun _ => ?_⟩
      have hlength := List.length_pos_iff.mpr hr.1
      rw [List.length_cons]
      omega
    · cases h

/-- Digits after a point are digits, and the point and they stand in front. -/
lemma splitPlaces_spec (cs : List Char) :
    (∀ c ∈ (splitPlaces cs).1, isAsciiDigit c = true) ∧
      ((splitPlaces cs = ([], cs)) ∨
        cs = '.' :: ((splitPlaces cs).1 ++ (splitPlaces cs).2)) := by
  rw [splitPlaces.eq_def]
  split
  · rename_i r
    exact ⟨fun c hc => List.mem_takeWhile_imp hc, .inr (by rw [List.takeWhile_append_dropWhile])⟩
  · exact ⟨by simp, .inl rfl⟩

lemma numeral_of_readScientific? {d : ℕ × ℤ} (h : readScientific? cs = some d) :
    Numeral cs d.1 d.2 := by
  obtain ⟨hplaces, hshape⟩ := splitPlaces_spec (cs.dropWhile isAsciiDigit)
  have hcs : cs.takeWhile isAsciiDigit ++ cs.dropWhile isAsciiDigit = cs :=
    List.takeWhile_append_dropWhile
  have hwhole : ∀ c ∈ cs.takeWhile isAsciiDigit, isAsciiDigit c = true :=
    fun c hc => List.mem_takeWhile_imp hc
  rw [readScientific?] at h
  generalize cs.takeWhile isAsciiDigit = whole at *
  generalize cs.dropWhile isAsciiDigit = rest at *
  generalize splitPlaces rest = places at *
  obtain ⟨places, tail⟩ := places
  dsimp only at h hplaces hshape
  split at h
  · cases h
  · rename_i hempty
    obtain ⟨e, he, rfl⟩ := Option.map_eq_some_iff.mp h
    obtain ⟨htail, hlength⟩ := readExponent?_spec he
    have hdigits : digitsValue (whole ++ places) < 10 ^ (whole.length + places.length) := by
      rw [← List.length_append]
      exact digitsValue_lt (List.forall_mem_append.mpr ⟨hwhole, hplaces⟩)
    have hlengths : whole.length + places.length + tail.length ≤ cs.length := by
      rw [← hcs, List.length_append]
      rcases hshape with heq | heq
      · cases heq
        simp
      · rw [heq, List.length_cons, List.length_append]
        omega
    refine ⟨?_, ?_, ?_, ?_⟩
    · rw [← hcs]
      refine List.forall_mem_append.mpr ⟨chars_of_digits hwhole, ?_⟩
      rcases hshape with heq | heq
      · cases heq
        exact htail
      · rw [heq]
        exact List.forall_mem_cons.mpr
          ⟨by decide, List.forall_mem_append.mpr ⟨chars_of_digits hplaces, htail⟩⟩
    · cases whole with
      | nil =>
        rcases hshape with heq | heq
        · cases heq
          exact absurd rfl hempty
        · exact ⟨'.', places ++ tail, by rw [← hcs, heq, List.nil_append], by decide⟩
      | cons c whole =>
        exact ⟨c, whole ++ rest, by rw [← hcs, List.cons_append],
          (toNat_of_isAsciiDigit (hwhole c List.mem_cons_self)).2⟩
    · exact hdigits.trans_le (Nat.pow_le_pow_right (by decide) (by omega))
    · intro hexp
      have htwo := hlength (by omega)
      refine ⟨cs.length - 2, by omega, hdigits.trans_le ?_⟩
      exact Nat.pow_le_pow_right (by decide) (by omega)

lemma Numeral.signed (h : Numeral cs digits exp) (hchar : 43 ≤ c.toNat ∧ c.toNat ≤ 57) :
    Numeral (c :: cs) digits exp where
  chars := List.forall_mem_cons.mpr ⟨by omega, h.chars⟩
  front := ⟨c, cs, rfl, hchar.2⟩
  digits_lt := h.digits_lt.trans_le (Nat.pow_le_pow_right (by decide) (by simp))
  spare hexp := by
    obtain ⟨n, hlength, hdigits⟩ := h.spare hexp
    exact ⟨n + 1, by rw [List.length_cons, hlength],
      hdigits.trans_le (Nat.pow_le_pow_right (by decide) (by omega))⟩

/-- The number of a text is what its digits count, with the sign in front. -/
lemma numeral_of_readExact? {x : ℚ} (h : readExact? cs = some x) :
    ∃ digits exp, Numeral cs digits exp ∧ (x = digits * 10 ^ exp ∨ x = -(digits * 10 ^ exp)) := by
  rw [readExact?.eq_def] at h
  split at h
  · obtain ⟨d, hd, rfl⟩ := Option.map_eq_some_iff.mp h
    exact ⟨d.1, d.2, (numeral_of_readScientific? hd).signed (by decide), .inr rfl⟩
  · obtain ⟨d, hd, rfl⟩ := Option.map_eq_some_iff.mp h
    exact ⟨d.1, d.2, (numeral_of_readScientific? hd).signed (by decide), .inl rfl⟩
  · obtain ⟨d, hd, rfl⟩ := Option.map_eq_some_iff.mp h
    exact ⟨d.1, d.2, numeral_of_readScientific? hd, .inl rfl⟩

/-! ## Floats -/

/-- The number that a size stands for. -/
def Magnitude.value (size : Magnitude) : ℚ := size.m * 2 ^ size.q

/-- The number that a float stands for, if it is finite. -/
def Binary64.number? (x : Binary64) : Option ℚ :=
  if x.isFinite then some (if x.isNegative then -x.magnitude.value else x.magnitude.value)
  else none

/-- The number that a narrow float stands for, if it is finite. -/
def Binary32.number? (x : Binary32) : Option ℚ :=
  if x.isFinite then some (if x.isNegative then -x.magnitude.value else x.magnitude.value)
  else none

lemma Magnitude.value_ofFields {width exponent fraction : ℕ} {least : ℤ} (h : exponent ≠ 0) :
    (Magnitude.ofFields width least exponent fraction).value =
      ((2 ^ width + fraction : ℕ) : ℚ) * 2 ^ (least + (exponent - 1)) := by
  rw [Magnitude.ofFields, if_neg h, Magnitude.value]

/-- A float whose exponent field is not zero lies between two powers of two. -/
lemma Magnitude.value_lt_of_ofFields {width exponent fraction : ℕ} {least bound : ℤ}
    (h : exponent ≠ 0) (hfraction : fraction < 2 ^ width)
    (hbound : width + least + exponent ≤ bound) :
    0 < (Magnitude.ofFields width least exponent fraction).value ∧
      (Magnitude.ofFields width least exponent fraction).value < 2 ^ bound := by
  rw [value_ofFields h]
  refine ⟨by positivity, ?_⟩
  have hsize : ((2 ^ width + fraction : ℕ) : ℚ) < 2 ^ (width + 1 : ℤ) := by
    have hlt : 2 ^ width + fraction < 2 ^ (width + 1) := by
      rw [pow_succ]
      omega
    exact_mod_cast hlt
  calc ((2 ^ width + fraction : ℕ) : ℚ) * 2 ^ (least + (exponent - 1))
      < 2 ^ (width + 1 : ℤ) * 2 ^ (least + (exponent - 1 : ℤ)) :=
        mul_lt_mul_of_pos_right hsize (by positivity)
    _ = 2 ^ (width + least + exponent : ℤ) := by
        rw [← zpow_add₀ (by norm_num)]
        congr 1
        ring
    _ ≤ 2 ^ bound := zpow_le_zpow_right₀ (by norm_num) hbound

/-! ## Decimals among the dyadic numbers -/

/-- A positive number that is a decimal of few digits and a whole number times a power of two is
not small. -/
lemma le_of_dyadic {m width : ℕ} {q : ℤ} (hpos : 0 < (digits : ℚ) * 10 ^ exp)
    (hdigits : digits < 10 ^ width) (h : (digits : ℚ) * 10 ^ exp = m * 2 ^ q) :
    (2 : ℚ) ^ (-(2 * width) : ℤ) ≤ digits * 10 ^ exp := by
  have hsome : 1 ≤ digits := by
    rcases Nat.eq_zero_or_pos digits with rfl | hdigits
    · simp at hpos
    · exact hdigits
  rcases le_or_gt 0 exp with hexp | hexp
  · calc (2 : ℚ) ^ (-(2 * width) : ℤ) ≤ 1 := zpow_le_one_of_nonpos₀ (by norm_num) (by omega)
      _ ≤ digits * 10 ^ exp :=
        one_le_mul_of_one_le_of_one_le (by exact_mod_cast hsome)
          (one_le_zpow₀ (by norm_num) hexp)
  · obtain ⟨k, rfl⟩ : ∃ k : ℕ, exp = -k := ⟨exp.natAbs, by omega⟩
    -- Both powers of two are cleared, so that what is left is about natural numbers.
    have hnat : ∃ a b : ℕ, digits * 2 ^ b = m * 2 ^ a * 10 ^ k := by
      refine ⟨q.toNat, (-q).toNat, ?_⟩
      have hq : (2 : ℚ) ^ q * 2 ^ (-q).toNat = 2 ^ q.toNat := by
        rw [← zpow_natCast, ← zpow_natCast, ← zpow_add₀ (by norm_num)]
        congr 1
        omega
      have hcleared : (digits : ℚ) * 2 ^ (-q).toNat = m * 2 ^ q.toNat * 10 ^ k := by
        rw [zpow_neg, zpow_natCast, ← div_eq_mul_inv, div_eq_iff (by positivity)] at h
        rw [h, ← hq]
        ring
      exact_mod_cast hcleared
    obtain ⟨a, b, hnat⟩ := hnat
    have hdvd : 5 ^ k ∣ digits := by
      refine (Nat.Coprime.pow k b (by decide : Nat.Coprime 5 2)).dvd_of_dvd_mul_right ?_
      rw [hnat, show 10 = 5 * 2 by rfl, mul_pow]
      exact ⟨m * 2 ^ a * 2 ^ k, by ring⟩
    have hfive : 5 ^ k ≤ digits := Nat.le_of_dvd hsome hdvd
    have hk : k < 2 * width := by
      refine (Nat.pow_lt_pow_iff_right (by decide : 1 < 5)).mp ?_
      calc 5 ^ k ≤ digits := hfive
        _ < 10 ^ width := hdigits
        _ ≤ 25 ^ width := Nat.pow_le_pow_left (by decide) width
        _ = 5 ^ (2 * width) := pow_mul 5 2 width |>.symm
    calc (2 : ℚ) ^ (-(2 * width) : ℤ) ≤ 2 ^ (-k : ℤ) :=
          zpow_le_zpow_right₀ (by norm_num) (by omega)
      _ = 5 ^ k * 10 ^ (-k : ℤ) := by
          rw [zpow_neg, zpow_neg, zpow_natCast, zpow_natCast, show (10 : ℚ) = 5 * 2 by norm_num,
            mul_pow]
          field_simp
      _ ≤ digits * 10 ^ (-k : ℤ) := by
          refine mul_le_mul_of_nonneg_right ?_ (by positivity)
          exact_mod_cast hfive

end BulkValues.Number
