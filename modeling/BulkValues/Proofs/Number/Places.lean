/-
# Digits behind the point

A decimal is digits, and a point with more digits behind it if there are any.  It stands for the
number of all its digits with the point left out, divided by a power of ten.  Cutting off the last
digits of a number behind the point moves it towards zero.
-/
import BulkValues.Proofs.Number.Exact
import BulkValues.Proofs.Number.Layout
import Mathlib.Algebra.Order.Floor.Ring
import Mathlib.Data.Rat.Floor

namespace BulkValues.Number

open BulkValues.Text

variable {x : ℚ} {n : ℕ} {c : Char} {cs ds es whole places : List Char} {negative : Bool}

/-! ## Decimals -/

/-- Digits, and a point with more digits behind it if there are any. -/
def pointed (whole places : List Char) : List Char :=
  whole ++ if places = [] then [] else '.' :: places

/-- A decimal with exactly so many digits behind its point, and without a point if there are
none. -/
def HasPlaces (n : ℕ) (cs : List Char) : Prop :=
  ∃ negative whole places, IsDigits whole ∧ (∀ c ∈ places, isAsciiDigit c = true) ∧
    places.length = n ∧ cs = signed negative (pointed whole places)

/-- A number with a sign in front of it. -/
def withSign (negative : Bool) (x : ℚ) : ℚ := if negative then -x else x

/-- Digits alone have nothing behind a point. -/
lemma hasPlaces_digits_iff (h : IsDigits whole) : HasPlaces n whole ↔ n = 0 := by
  constructor
  · rintro ⟨negative, ds, places, -, -, rfl, heq⟩
    have hpoint : '.' ∉ whole := fun hmem => absurd (h.2 _ hmem) (by decide)
    by_contra hne
    have hnil : places ≠ [] := fun hnil => hne (by rw [hnil, List.length_nil])
    refine hpoint ?_
    rw [heq, signed, pointed, if_neg hnil]
    simp
  · rintro rfl
    exact ⟨false, whole, [], h, by simp, rfl, by simp [signed, pointed]⟩

lemma splitPlaces_pointed (hwhole : IsDigits whole)
    (hplaces : ∀ c ∈ places, isAsciiDigit c = true) :
    (pointed whole places).takeWhile isAsciiDigit = whole ∧
      splitPlaces ((pointed whole places).dropWhile isAsciiDigit) = (places, []) := by
  rw [pointed]
  split
  · rename_i hnil
    have hstop := stopsAt_nil isAsciiDigit
    rw [takeWhile_append_of_stopsAt hwhole.2 hstop, dropWhile_append_of_stopsAt hwhole.2 hstop,
      hnil]
    exact ⟨rfl, rfl⟩
  · have hstop : StopsAt isAsciiDigit ('.' :: places) := stopsAt_cons (by decide) _
    have hnil := stopsAt_nil isAsciiDigit
    have htake := takeWhile_append_of_stopsAt hplaces hnil
    have hdrop := dropWhile_append_of_stopsAt hplaces hnil
    rw [List.append_nil] at htake hdrop
    rw [takeWhile_append_of_stopsAt hwhole.2 hstop, dropWhile_append_of_stopsAt hwhole.2 hstop,
      splitPlaces, htake, hdrop]
    exact ⟨rfl, rfl⟩

/-- A decimal is read as all its digits, which count the power of ten of the last one. -/
lemma readScientific?_pointed (hwhole : IsDigits whole)
    (hplaces : ∀ c ∈ places, isAsciiDigit c = true) :
    readScientific? (pointed whole places) =
      some (digitsValue (whole ++ places), -(places.length : ℤ)) := by
  obtain ⟨htake, hsplit⟩ := splitPlaces_pointed hwhole hplaces
  have hempty : (whole.isEmpty && places.isEmpty) = false := by simp [hwhole.1]
  rw [readScientific?, htake, hsplit]
  dsimp only
  rw [hempty, if_neg Bool.false_ne_true, readExponent?, Option.map_some, zero_sub]

/-- What a decimal stands for. -/
lemma readExact?_signed (negative : Bool) (hwhole : IsDigits whole)
    (hplaces : ∀ c ∈ places, isAsciiDigit c = true) :
    readExact? (signed negative (pointed whole places)) =
      some (withSign negative (digitsValue (whole ++ places) / 10 ^ places.length)) := by
  have hread := readScientific?_pointed hwhole hplaces
  cases negative with
  | true =>
    change (readScientific? (pointed whole places)).map _ = _
    rw [hread, Option.map_some, withSign, if_pos rfl, zpow_neg, zpow_natCast, ← div_eq_mul_inv]
  | false =>
    obtain ⟨c, r, rfl⟩ := List.exists_cons_of_ne_nil hwhole.1
    have hdigit : isAsciiDigit c = true := hwhole.2 c (List.mem_cons_self ..)
    have hfront : signed false (pointed (c :: r) places) = pointed (c :: r) places := rfl
    rw [hfront, readExact?, hread, Option.map_some, withSign, if_neg Bool.false_ne_true, zpow_neg,
      zpow_natCast, ← div_eq_mul_inv]
    · rintro s ⟨rfl, -⟩
      cases hdigit
    · rintro s ⟨rfl, -⟩
      cases hdigit

/-! ## Towards zero -/

/-- The next number towards zero with so many decimal places. -/
def towardZero (n : ℕ) (x : ℚ) : ℚ :=
  ((if 0 ≤ x then ⌊x * 10 ^ n⌋ else ⌈x * 10 ^ n⌉ : ℤ) : ℚ) / 10 ^ n

lemma towardZero_zero (n : ℕ) : towardZero n 0 = 0 := by
  simp [towardZero]

lemma towardZero_neg (n : ℕ) (x : ℚ) : towardZero n (-x) = -towardZero n x := by
  rcases lt_trichotomy x 0 with hx | rfl | hx
  · rw [towardZero, towardZero, if_pos (by linarith), if_neg (not_le.mpr hx), neg_mul,
      Int.floor_neg, Int.cast_neg, neg_div]
  · rw [neg_zero, towardZero_zero, neg_zero]
  · rw [towardZero, towardZero, if_neg (by linarith), if_pos hx.le, neg_mul, Int.ceil_neg,
      Int.cast_neg, neg_div]

lemma towardZero_withSign (n : ℕ) (negative : Bool) (x : ℚ) :
    towardZero n (withSign negative x) = withSign negative (towardZero n x) := by
  cases negative with
  | true => exact towardZero_neg n x
  | false => rfl

lemma digitsValue_append (ds es : List Char) :
    digitsValue (ds ++ es) = digitsValue ds * 10 ^ es.length + digitsValue es := by
  induction es using List.reverseRecOn with
  | nil => simp [digitsValue]
  | append_singleton es c ih =>
    rw [← List.append_assoc, digitsValue_append_singleton, digitsValue_append_singleton, ih,
      List.length_append, List.length_singleton, pow_succ]
    ring

/-- The last digits of a number, cut off behind the point, take it towards zero. -/
lemma towardZero_of_digits (hes : ∀ c ∈ es, isAsciiDigit c = true)
    (hx : x * 10 ^ (n + es.length) = digitsValue (ds ++ es)) :
    towardZero n x = digitsValue ds / 10 ^ n := by
  have hpow : (0 : ℚ) < 10 ^ es.length := by positivity
  have hrest : (digitsValue es : ℚ) < 10 ^ es.length := by exact_mod_cast digitsValue_lt hes
  have hsplit : x * 10 ^ n * 10 ^ es.length =
      digitsValue ds * 10 ^ es.length + digitsValue es := by
    rw [mul_assoc, ← pow_add, hx, digitsValue_append]
    push_cast
    rfl
  have hlow : (digitsValue ds : ℚ) ≤ x * 10 ^ n := by
    refine le_of_mul_le_mul_right ?_ hpow
    rw [hsplit]
    exact le_add_of_nonneg_right (Nat.cast_nonneg _)
  have hhigh : x * 10 ^ n < digitsValue ds + 1 := by
    refine lt_of_mul_lt_mul_right ?_ hpow.le
    rw [hsplit, add_mul, one_mul]
    exact add_lt_add_right hrest _
  have hnonneg : 0 ≤ x := by
    refine nonneg_of_mul_nonneg_left ?_ (by positivity : (0 : ℚ) < 10 ^ n)
    exact (Nat.cast_nonneg _).trans hlow
  have hfloor : ⌊x * 10 ^ n⌋ = digitsValue ds :=
    Int.floor_eq_iff.mpr ⟨by exact_mod_cast hlow, by exact_mod_cast hhigh⟩
  rw [towardZero, if_pos hnonneg, hfloor, Int.cast_natCast]

end BulkValues.Number
