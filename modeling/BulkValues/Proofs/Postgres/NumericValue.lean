/-
# The value of exact numbers

Group `i` of a payload counts `10000 ^ (weight - i)`, and the number is the sum of what its groups
count, with its sign.  Its text stands for that number, cut towards zero at the places that the
scale leaves.

The digits before the point and those that are sent behind it are the digits of one list of groups:
zeros stand for groups that are not sent, at its end before the point and at its start behind it.
Zeros count nothing, so that the list has the worth of the groups of the payload.  The text has the
digits of this list up to its last place.
-/
import BulkValues.Proofs.Postgres.NumericScale
import Mathlib.Algebra.BigOperators.Intervals
import Mathlib.Tactic.LinearCombination

namespace BulkValues.Postgres.Numeric

open BulkValues.Number BulkValues.Text

variable {raw : List UInt8} {negative : Bool} {weight : ℤ} {scale g n : ℕ}
  {groups gs hs : List ℕ}

/-! ## What groups are worth -/

/-- The number that groups stand for of which the first counts `10000 ^ weight`. -/
def worth (weight : ℤ) : List ℕ → ℚ
  | [] => 0
  | g :: gs => g * 10000 ^ weight + worth (weight - 1) gs

lemma worth_append (weight : ℤ) (gs hs : List ℕ) :
    worth weight (gs ++ hs) = worth weight gs + worth (weight - gs.length) hs := by
  induction gs generalizing weight with
  | nil => simp [worth]
  | cons g gs ih =>
    have hnext : weight - 1 - gs.length = weight - (g :: gs).length := by
      rw [List.length_cons]
      push_cast
      ring
    rw [List.cons_append, worth, worth, ih, hnext, add_assoc]

lemma worth_zeros (weight : ℤ) (n : ℕ) : worth weight (List.replicate n 0) = 0 := by
  induction n generalizing weight with
  | zero => rfl
  | succ n ih => rw [List.replicate_succ, worth, ih, Nat.cast_zero, zero_mul, zero_add]

lemma worth_map_range (weight : ℤ) (f : ℕ → ℕ) (n : ℕ) :
    worth weight ((List.range n).map f) =
      ∑ i ∈ Finset.range n, (f i : ℚ) * 10000 ^ (weight - i) := by
  induction n with
  | zero => rfl
  | succ n ih =>
    rw [List.range_succ, List.map_append, worth_append, ih, Finset.sum_range_succ, List.length_map,
      List.length_range, List.map_singleton, worth, worth, add_zero]

/-- Digits in groups of four are the number that they stand for, when the last group counts
one. -/
lemma digitsValue_fourDigits (h : g ≤ 9999) : digitsValue (fourDigits g) = g := by
  have hdigit : ∀ d < 10, digitValue (Nat.digitChar d) = d := by decide
  simp only [digitsValue, fourDigits, List.map_cons, List.map_nil, List.foldl_cons, List.foldl_nil]
  rw [hdigit _ (by omega), hdigit _ (by omega), hdigit _ (by omega), hdigit _ (by omega)]
  omega

lemma worth_mul_pow (weight : ℤ) (h : ∀ g ∈ gs, g ≤ 9999) :
    worth weight gs * 10000 ^ gs.length =
      digitsValue (gs.flatMap fourDigits) * 10000 ^ (weight + 1) := by
  induction gs generalizing weight with
  | nil => simp [worth, digitsValue]
  | cons g gs ih =>
    have hg := h g (List.mem_cons_self ..)
    have hgs : ∀ g ∈ gs, g ≤ 9999 := fun g hg => h g (List.mem_cons_of_mem _ hg)
    have hten : (10 : ℚ) ^ (4 * gs.length) = 10000 ^ gs.length := by
      rw [pow_mul]
      norm_num
    have hstep : (10000 : ℚ) ^ (weight + 1) = 10000 * 10000 ^ weight := by
      rw [zpow_add_one₀ (by norm_num), mul_comm]
    have ih := ih (weight - 1) hgs
    rw [sub_add_cancel] at ih
    rw [worth, List.flatMap_cons, digitsValue_append, digitsValue_fourDigits hg,
      length_groupDigits, List.length_cons, pow_succ, hstep]
    push_cast
    rw [hten]
    linear_combination 10000 * ih

/-! ## The digits of a text -/

/-- The groups before the point, with zeros for those that are not sent. -/
def wholePart (weight : ℤ) (groups : List ℕ) : List ℕ :=
  groups.take (wholeGroups weight) ++ List.replicate (wholeGroups weight - groups.length) 0

/-- The groups behind the point, with zeros for those that are skipped. -/
def fractionPart (weight : ℤ) (groups : List ℕ) : List ℕ :=
  List.replicate (-weight - 1).toNat 0 ++ groups.drop (wholeGroups weight)

lemma map_getD_range (gs : List ℕ) (n : ℕ) :
    (List.range n).map (fun i => gs.getD i 0) =
      gs.take n ++ List.replicate (n - gs.length) 0 := by
  refine List.ext_getElem? fun i => ?_
  rw [List.getElem?_map]
  rcases lt_or_ge i n with hi | hi
  · rw [List.getElem?_range hi, Option.map_some]
    rcases lt_or_ge i gs.length with hlt | hge
    · rw [List.getElem?_append_left (by rw [List.length_take]; omega), List.getElem?_take_of_lt hi,
        List.getD_eq_getElem?_getD, List.getElem?_eq_getElem hlt, Option.getD_some]
    · rw [List.getElem?_append_right (by rw [List.length_take]; omega), List.getElem?_replicate,
        if_pos (by rw [List.length_take]; omega), List.getD_eq_getElem?_getD,
        List.getElem?_eq_none hge, Option.getD_none]
  · rw [List.getElem?_eq_none (by rw [List.length_range]; exact hi), Option.map_none,
      List.getElem?_eq_none]
    rw [List.length_append, List.length_take, List.length_replicate]
    omega

lemma length_wholePart (weight : ℤ) (groups : List ℕ) :
    (wholePart weight groups).length = wholeGroups weight := by
  rw [wholePart, List.length_append, List.length_take, List.length_replicate]
  omega

/-- The first group is written without zeros in front, which count nothing. -/
lemma digitsValue_wholeDigits (h : ∀ g ∈ groups, g ≤ 9999) :
    digitsValue (wholeDigits weight groups) =
      digitsValue ((wholePart weight groups).flatMap fourDigits) := by
  rw [wholePart, ← map_getD_range, wholeDigits]
  split
  · rename_i hzero
    rw [hzero]
    rfl
  · rename_i n hn
    have hfirst : groups.headD 0 ≤ 9999 := by
      cases groups with
      | nil => exact Nat.zero_le _
      | cons g gs => exact h g (List.mem_cons_self ..)
    rw [hn, List.range_succ_eq_map, List.map_cons, List.flatMap_cons, digitsValue_append,
      digitsValue_append, digitsValue_toDigits, ← List.headD_eq_getD,
      digitsValue_fourDigits hfirst, List.map_map, List.flatMap_map]
    rfl

/-- The digits that are sent behind the point are those of the groups there. -/
lemma sentFraction_eq (weight : ℤ) (groups : List ℕ) :
    sentFraction weight groups = (fractionPart weight groups).flatMap fourDigits := by
  have hzeros : ∀ n, List.replicate (4 * n) '0' = (List.replicate n 0).flatMap fourDigits := by
    intro n
    induction n with
    | zero => rfl
    | succ n ih =>
      rw [Nat.mul_succ, Nat.add_comm, List.replicate_add, ih]
      rfl
  rw [sentFraction, hzeros, fractionPart, List.flatMap_append]

/-- The groups on both sides of the point are worth what the payload's groups are. -/
lemma worth_parts (weight : ℤ) (groups : List ℕ) :
    worth (wholeGroups weight - 1) (wholePart weight groups ++ fractionPart weight groups) =
      worth weight groups := by
  rw [worth_append, length_wholePart, wholePart, fractionPart, worth_append, worth_append,
    worth_zeros, worth_zeros, List.length_replicate, add_zero, zero_add]
  rcases le_or_gt (-1) weight with hweight | hweight
  -- No group is skipped, and zeros are behind the groups that are sent, if any.
  · have hwhole : (wholeGroups weight : ℤ) - 1 = weight := by
      rw [wholeGroups]
      omega
    rw [hwhole]
    rcases le_or_gt groups.length (wholeGroups weight) with hshort | hlong
    · rw [List.drop_eq_nil_of_le hshort, worth, add_zero, List.take_of_length_le hshort]
    · have hnext : weight - wholeGroups weight - (-weight - 1).toNat =
          weight - (groups.take (wholeGroups weight)).length := by
        rw [List.length_take]
        omega
      conv_rhs => rw [← List.take_append_drop (wholeGroups weight) groups, worth_append]
      rw [hnext]
  -- All groups are behind the point, and those between are skipped.
  · have hwhole : wholeGroups weight = 0 := by
      rw [wholeGroups]
      omega
    have hnext : ((0 : ℕ) : ℤ) - 1 - (0 : ℕ) - (-weight - 1).toNat = weight := by omega
    rw [hwhole, hnext, List.take_zero, List.drop_zero, worth, zero_add]

/-- All digits that are sent, with the point left out. -/
lemma worth_mul_pow_digits (h : ∀ g ∈ groups, g ≤ 9999) :
    worth weight groups * 10 ^ (sentFraction weight groups).length =
      digitsValue (wholeDigits weight groups ++ sentFraction weight groups) := by
  have hpart : ∀ g ∈ wholePart weight groups ++ fractionPart weight groups, g ≤ 9999 := by
    intro g hg
    simp only [wholePart, fractionPart, List.mem_append] at hg
    rcases hg with (hg | hg) | (hg | hg)
    · exact h g (List.mem_of_mem_take hg)
    · rw [List.eq_of_mem_replicate hg]
      omega
    · rw [List.eq_of_mem_replicate hg]
      omega
    · exact h g (List.mem_of_mem_drop hg)
  have hdigits : digitsValue (wholeDigits weight groups ++ sentFraction weight groups) =
      digitsValue ((wholePart weight groups ++ fractionPart weight groups).flatMap fourDigits) := by
    rw [digitsValue_append, digitsValue_wholeDigits h, ← digitsValue_append, sentFraction_eq,
      List.flatMap_append]
  have hworth := worth_mul_pow (wholeGroups weight - 1) hpart
  rw [worth_parts, sub_add_cancel, List.length_append, length_wholePart, pow_add, zpow_natCast,
    ← hdigits] at hworth
  have hpow : (10 : ℚ) ^ (sentFraction weight groups).length =
      10000 ^ (fractionPart weight groups).length := by
    rw [sentFraction_eq, length_groupDigits, pow_mul]
    norm_num
  rw [hpow]
  refine mul_right_cancel₀ (b := (10000 : ℚ) ^ wholeGroups weight) (by positivity) ?_
  rw [← hworth]
  ring

/-- The digits of a text are the first of those that are sent, and of zeros behind them. -/
lemma towardZero_worth (h : ∀ g ∈ groups, g ≤ 9999) :
    towardZero scale (worth weight groups) =
      digitsValue (wholeDigits weight groups ++ fractionDigits weight scale groups) /
        10 ^ scale := by
  have hall := List.take_append_drop scale
    (sentFraction weight groups ++ List.replicate scale '0')
  have hrest : ((sentFraction weight groups ++ List.replicate scale '0').drop scale).length =
      (sentFraction weight groups).length := by
    rw [List.length_drop, List.length_append, List.length_replicate]
    omega
  have hzeros : digitsValue (List.replicate scale '0') = 0 := by
    have hnil := digitsValue_replicate scale []
    rwa [List.append_nil] at hnil
  have hdigits : ∀ c ∈ (sentFraction weight groups ++ List.replicate scale '0').drop scale,
      isAsciiDigit c = true := by
    intro c hc
    rcases List.mem_append.mp (List.mem_of_mem_drop hc) with hc | hc
    · exact isAsciiDigit_of_mem_sentFraction hc
    · exact isAsciiDigit_of_mem_replicate hc
  refine towardZero_of_digits hdigits ?_
  rw [hrest, fractionDigits, List.append_assoc, hall, ← List.append_assoc, digitsValue_append,
    hzeros, List.length_replicate, add_zero, Nat.add_comm, pow_add, ← mul_assoc,
    worth_mul_pow_digits h]
  push_cast
  rfl

/-- The number that a payload of a finite number stands for. -/
def Payload.value (raw : List UInt8) : ℚ :=
  (if Payload.sign raw = 0x4000 then -1 else 1) *
    ∑ i ∈ Finset.range (Payload.count raw).toNat,
      (Payload.group raw i : ℚ) * 10000 ^ (Payload.weight raw - i)

lemma Payload.value_eq (raw : List UInt8) :
    Payload.value raw = withSign (Payload.sign raw = 0x4000)
      (worth (Payload.weight raw) (Payload.groups raw)) := by
  rw [Payload.value, Payload.groups, worth_map_range, withSign]
  by_cases hsign : Payload.sign raw = 0x4000
  · simp [hsign]
  · simp [hsign]

lemma readExact?_finiteText (h : ∀ g ∈ groups, g ≤ 9999) :
    readExact? (finiteText negative weight scale groups) =
      some (towardZero scale (withSign negative (worth weight groups))) := by
  rw [towardZero_withSign]
  by_cases hnil : groups = []
  · have hplaces : ∀ c ∈ ([] : List Char), isAsciiDigit c = true := nofun
    have hzero := readExact?_signed false isDigits_zero hplaces
    rw [finiteText, if_pos hnil, hnil, worth, towardZero_zero]
    refine hzero.trans ?_
    cases negative <;> simp [withSign, digitsValue, digitValue]
  · rw [finiteText_of_ne_nil hnil, towardZero_worth h,
      readExact?_signed negative (isDigits_wholeDigits weight groups)
        (fun _ => isAsciiDigit_of_mem_fractionDigits), length_fractionDigits]

/-- **A payload is read exactly.**  Every payload of a finite number whose weight is not the least
is read as a text, and the text stands for the sum of what the groups count, with the sign of the
payload, cut towards zero at the decimal places of the scale. -/
theorem readText_exact (h : Payload.IsFinite raw) (hweight : leastWeight < Payload.weight raw) :
    ∃ text, readText raw = .ok text ∧
      readExact? text.toList =
        some (towardZero (Payload.scale raw).toNat (Payload.value raw)) := by
  refine ⟨_, h.readText_eq hweight, ?_⟩
  rw [String.toList_ofList, readExact?_finiteText h.groups_le, Payload.value_eq]

/-- A negative number below one ten thousandth, with a group that is skipped and digits that are
cut, and bytes behind its groups. -/
theorem readText_exact_skipped :
    let raw : List UInt8 := [0, 2, 0xff, 0xfe, 0x40, 0, 0, 7, 0x04, 0xd2, 0x16, 0x2e, 0xff]
    Payload.IsFinite raw ∧ leastWeight < Payload.weight raw ∧
      readText raw = .ok "-0.0000123" ∧
      ∃ text, readText raw = .ok text ∧
        readExact? text.toList =
          some (towardZero (Payload.scale raw).toNat (Payload.value raw)) := by
  intro raw
  have hfinite : Payload.IsFinite raw := by decide +kernel
  have hweight : leastWeight < Payload.weight raw := by decide +kernel
  exact ⟨hfinite, hweight, by decide +kernel, readText_exact hfinite hweight⟩

end BulkValues.Postgres.Numeric
