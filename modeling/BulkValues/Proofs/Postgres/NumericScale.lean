/-
# The scale of exact numbers

The text of a finite number has the digits before its point, and behind it exactly as many as its
scale says.  One number is written otherwise: zero without any group, which is how a server sends
zero of every scale, has neither a point nor digits behind it.
-/
import BulkValues.Proofs.Number.Places
import BulkValues.Proofs.Postgres.FinitePayload

namespace BulkValues.Postgres.Numeric

open BulkValues.Number BulkValues.Text

variable {c : Char} {raw : List UInt8} {negative : Bool} {weight : ℤ} {scale g : ℕ}
  {groups gs : List ℕ}

/-! ## Digits -/

lemma isAsciiDigit_of_mem_fourDigits (h : c ∈ fourDigits g) : isAsciiDigit c = true := by
  obtain ⟨d, hd, rfl⟩ := List.mem_map.mp h
  have hall : ∀ d < 10, isAsciiDigit (Nat.digitChar d) = true := by decide
  refine hall d ?_
  simp only [List.mem_cons, List.not_mem_nil, or_false] at hd
  omega

lemma isAsciiDigit_of_mem_groupDigits (h : c ∈ gs.flatMap fourDigits) : isAsciiDigit c = true := by
  obtain ⟨g, -, hc⟩ := List.mem_flatMap.mp h
  exact isAsciiDigit_of_mem_fourDigits hc

lemma length_groupDigits (gs : List ℕ) : (gs.flatMap fourDigits).length = 4 * gs.length := by
  induction gs with
  | nil => rfl
  | cons g gs ih =>
    rw [List.flatMap_cons, List.length_append, ih, List.length_cons, fourDigits, List.length_map]
    simp only [List.length_cons, List.length_nil]
    omega

lemma isDigits_wholeDigits (weight : ℤ) (groups : List ℕ) :
    IsDigits (wholeDigits weight groups) := by
  rw [wholeDigits]
  split
  · exact isDigits_zero
  · rename_i n _
    refine (isDigits_toDigits _).append fun c hc => ?_
    obtain ⟨i, -, hc⟩ := List.mem_flatMap.mp hc
    exact isAsciiDigit_of_mem_fourDigits hc

lemma isAsciiDigit_of_mem_sentFraction (h : c ∈ sentFraction weight groups) :
    isAsciiDigit c = true := by
  rcases List.mem_append.mp h with h | h
  · exact isAsciiDigit_of_mem_replicate h
  · exact isAsciiDigit_of_mem_groupDigits h

lemma isAsciiDigit_of_mem_fractionDigits (h : c ∈ fractionDigits weight scale groups) :
    isAsciiDigit c = true := by
  rcases List.mem_append.mp (List.mem_of_mem_take h) with h | h
  · exact isAsciiDigit_of_mem_sentFraction h
  · exact isAsciiDigit_of_mem_replicate h

/-- The digits that are sent are cut to the scale, or zeros make up for what is missing. -/
lemma length_fractionDigits (weight : ℤ) (scale : ℕ) (groups : List ℕ) :
    (fractionDigits weight scale groups).length = scale := by
  rw [fractionDigits, List.length_take_of_le]
  rw [List.length_append, List.length_replicate]
  exact Nat.le_add_left ..

/-! ## The text -/

lemma finiteText_of_ne_nil (h : groups ≠ []) :
    finiteText negative weight scale groups =
      signed negative (pointed (wholeDigits weight groups)
        (fractionDigits weight scale groups)) := by
  have hnil : fractionDigits weight scale groups = [] ↔ scale = 0 := by
    rw [← List.length_eq_zero_iff, length_fractionDigits]
  rw [finiteText, if_neg h, signed, pointed, List.append_assoc]
  simp only [hnil]

lemma hasPlaces_finiteText (h : groups ≠ []) :
    HasPlaces scale (finiteText negative weight scale groups) :=
  ⟨negative, _, _, isDigits_wholeDigits weight groups,
    fun _ => isAsciiDigit_of_mem_fractionDigits, length_fractionDigits weight scale groups,
    finiteText_of_ne_nil h⟩

/-- **Which numbers keep their scale.**  A payload of a finite number is read as a text, and that
text has exactly as many digits behind its point as the scale says, and no point for none, unless
the payload has no groups: it is then read as a zero without a point, whatever its scale. -/
theorem hasPlaces_readText_iff (h : Payload.IsFinite raw)
    (hweight : leastWeight < Payload.weight raw) :
    ∃ text, readText raw = .ok text ∧
      (HasPlaces (Payload.scale raw).toNat text.toList ↔
        Payload.count raw ≠ 0 ∨ Payload.scale raw = 0) ∧
      (Payload.count raw = 0 → text = "0") := by
  have hscale := h.scale_nonneg
  refine ⟨_, h.readText_eq hweight, ?_⟩
  rw [String.toList_ofList]
  by_cases hcount : Payload.count raw = 0
  · have hnil := (Payload.groups_eq_nil_iff h.count_nonneg).mpr hcount
    rw [finiteText, if_pos hnil, hasPlaces_digits_iff isDigits_zero]
    refine ⟨?_, fun _ => rfl⟩
    omega
  · have hne : Payload.groups raw ≠ [] :=
      fun hnil => hcount ((Payload.groups_eq_nil_iff h.count_nonneg).mp hnil)
    exact ⟨iff_of_true (hasPlaces_finiteText hne) (.inl hcount), fun hzero => absurd hzero hcount⟩

/-- A number whose digits are cut, and which has groups behind the last of its digits. -/
theorem hasPlaces_readText_iff_cut :
    let raw : List UInt8 := [0, 3, 0, 1, 0x40, 0, 0, 3, 0, 12, 0, 0, 0x0d, 0x48]
    Payload.IsFinite raw ∧ leastWeight < Payload.weight raw ∧
      ∃ text, readText raw = .ok text ∧
        (HasPlaces (Payload.scale raw).toNat text.toList ↔
          Payload.count raw ≠ 0 ∨ Payload.scale raw = 0) ∧
        (Payload.count raw = 0 → text = "0") := by
  intro raw
  have hfinite : Payload.IsFinite raw := by decide +kernel
  have hweight : leastWeight < Payload.weight raw := by decide +kernel
  exact ⟨hfinite, hweight, hasPlaces_readText_iff hfinite hweight⟩

/-- Zero of two places is read without them if it is sent without groups, and with them if a group
of zeros is sent. -/
theorem scale_of_zero_lost :
    let raw : List UInt8 := [0, 0, 0, 0, 0, 0, 0, 2]
    Payload.IsFinite raw ∧ leastWeight < Payload.weight raw ∧ Payload.scale raw = 2 ∧
      readText raw = .ok "0" ∧ ¬ HasPlaces 2 "0".toList ∧
      readText [0, 1, 0, 0, 0, 0, 0, 2, 0, 0] = .ok "0.00" := by
  intro raw
  refine ⟨by decide +kernel, by decide +kernel, by decide +kernel, by decide +kernel, ?_,
    by decide +kernel⟩
  rw [show "0".toList = ['0'] by decide, hasPlaces_digits_iff isDigits_zero]
  decide

end BulkValues.Postgres.Numeric
