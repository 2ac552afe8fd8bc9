/-
# Exact numbers sent back

The text that an exact number is read as can be written into a statement again.  The text of a
finite number is a plain number, so that it is its own literal; the special numbers are quoted and
given their type.
-/
import BulkValues.Proofs.Literal.Numeral
import BulkValues.Proofs.Postgres.NumericScale
import BulkValues.Proofs.Postgres.Payload

namespace BulkValues.Postgres.Numeric

open BulkValues.Literal BulkValues.Number BulkValues.Text

variable {cs : List Char} {raw : List UInt8} {number : Numeric} {d : String} {n : ℕ}

/-- A decimal with a number of places is a plain number. -/
lemma isNumeral_of_hasPlaces (h : HasPlaces n cs) : IsNumeral isAsciiDigit cs := by
  obtain ⟨negative, whole, places, hwhole, hplaces, -, rfl⟩ := h
  refine ⟨if negative then ['-'] else [], pointed whole places, [], ?_, ?_, .none, ?_⟩
  · cases negative with
    | true => exact .inr (.inr rfl)
    | false => exact .inl rfl
  · rw [pointed]
    split
    · rw [List.append_nil]
      exact .whole hwhole
    · exact .pointed hwhole hplaces
  · rw [signed, List.append_nil]

/-- The text of a finite number is a plain number, also where its scale is lost. -/
lemma isNumeral_finiteText (negative : Bool) (weight : ℤ) (scale : ℕ) (groups : List ℕ) :
    IsNumeral isAsciiDigit (finiteText negative weight scale groups) := by
  by_cases hnil : groups = []
  · rw [finiteText, if_pos hnil]
    exact isNumeral_of_hasPlaces ((hasPlaces_digits_iff isDigits_zero).mpr rfl)
  · exact isNumeral_of_hasPlaces (hasPlaces_finiteText hnil)

/-- The special numbers. -/
def specialNumbers : List Numeric := [nan, infinity, negativeInfinity]

/-- A payload that can be read is that of a finite number or of a special one. -/
lemma finite_or_special (h : read raw = .ok number) :
    (Payload.IsFinite raw ∧
        ∃ negative weight scale groups, number = .finite negative weight scale groups) ∨
      ¬ Payload.IsFinite raw ∧ number ∈ specialNumbers := by
  by_cases hfinite : Payload.IsFinite raw
  · left
    rw [hfinite.read_eq] at h
    exact ⟨hfinite, _, _, _, _, ofGroups_eq_ok h⟩
  · right
    refine ⟨hfinite, ?_⟩
    rw [Payload.read_eq] at h
    split at h
    · cases h
    rename_i hheader
    split at h
    · cases h
    rename_i hsizes
    split at h
    · cases h
    rename_i hcomplete
    split at h
    · cases h
      simp [specialNumbers]
    split at h
    · cases h
      simp [specialNumbers]
    split at h
    · cases h
      simp [specialNumbers]
    split at h
    -- What is left has the sign of a finite number, and its groups were found to be in order.
    · rename_i hsign
      refine absurd ⟨by omega, by omega, by omega, hsign, by omega, ?_⟩ hfinite
      intro i hi
      have hsmall : ∀ g ∈ Payload.groups raw, g ≤ 9999 := by
        rw [ofGroups] at h
        split at h
        · cases h
        · rename_i hsmall
          simpa using hsmall
      exact hsmall _ (List.mem_map_of_mem (List.mem_range.mpr hi))
    · cases h

/-- A text that can be read is that of the number of its payload. -/
lemma exists_number (h : readText raw = .ok d) :
    ∃ number, read raw = .ok number ∧ d = number.text := by
  rw [readText] at h
  cases hread : read raw with
  | error e =>
    rw [hread] at h
    cases h
  | ok number =>
    rw [hread] at h
    exact ⟨number, rfl, (Except.ok.inj h).symm⟩

/-- **What is fetched can be sent back.**  Every text that a payload is read as has a literal in the
dialect of the server.  For a finite number it is the text unchanged, and that is a plain number in
ASCII; for a special one it is the text in quotes with its type. -/
theorem literal_readText (h : readText raw = .ok d) :
    ∃ lit, Dialect.postgres.literal (.decimal d) = .ok lit ∧
      (Payload.IsFinite raw → lit = d ∧ IsNumeral isAsciiDigit lit.toList) ∧
      (¬ Payload.IsFinite raw → d ∈ specialNumbers.map text ∧ lit = "'" ++ d ++ "'::numeric") := by
  obtain ⟨number, hread, rfl⟩ := exists_number h
  rcases finite_or_special hread with ⟨hfinite, negative, weight, scale, groups, rfl⟩ |
    ⟨hfinite, hspecial⟩
  · have hnumeral :
        IsNumeral isAsciiDigit (text (.finite negative weight scale groups)).toList := by
      rw [text, String.toList_ofList]
      exact isNumeral_finiteText negative weight scale groups
    exact ⟨_, literal_of_isNumeral .postgres (isNumeral_isAsciiDigit_iff.mp hnumeral).1,
      fun _ => ⟨rfl, hnumeral⟩, absurd hfinite⟩
  · refine ⟨"'" ++ number.text ++ "'::numeric", ?_, fun h => absurd h hfinite,
      fun _ => ⟨List.mem_map_of_mem hspecial, rfl⟩⟩
    simp only [specialNumbers, List.mem_cons, List.not_mem_nil, or_false] at hspecial
    rcases hspecial with rfl | rfl | rfl <;> rfl

/-- A negative number below one, whose first group is skipped, and bytes behind the groups. -/
theorem literal_readText_small :
    let raw : List UInt8 := [0, 1, 0xff, 0xfe, 0x40, 0, 0, 7, 0x04, 0xd2, 0xff]
    readText raw = .ok "-0.0000123" ∧
      ∃ lit, Dialect.postgres.literal (.decimal "-0.0000123") = .ok lit ∧
        (Payload.IsFinite raw → lit = "-0.0000123" ∧ IsNumeral isAsciiDigit lit.toList) ∧
        (¬ Payload.IsFinite raw →
          "-0.0000123" ∈ specialNumbers.map text ∧ lit = "'" ++ "-0.0000123" ++ "'::numeric") := by
  intro raw
  have hread : readText raw = .ok "-0.0000123" := by decide +kernel
  exact ⟨hread, literal_readText hread⟩

end BulkValues.Postgres.Numeric
