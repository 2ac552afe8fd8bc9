/-
# Payloads of finite numbers

The fields of a payload stand at fixed places: four of two bytes in the header, and the groups
behind it, two bytes each.  A payload is that of a finite number if its sizes are not negative, its
sign is one of two, and the groups that it announces are there and have four digits at most.  Bytes
behind them are not looked at.  What such a payload is read as is the text of its fields, but for
the least weight.
-/
import BulkValues.Proofs.Postgres.CellForm

namespace BulkValues.Postgres.Numeric

open BulkValues.Number

/-- Groups of four digits at most are refused for the least weight alone. -/
lemma ofGroups_eq_weightOutOfRange_iff {negative : Bool} {weight : ℤ} {scale : ℕ}
    {groups : List ℕ} :
    ofGroups negative weight scale groups = .error .weightOutOfRange ↔
      (∀ g ∈ groups, g ≤ 9999) ∧ groups ≠ [] ∧ weight = leastWeight := by
  have hany : groups.any (9999 < ·) = true ↔ ¬ ∀ g ∈ groups, g ≤ 9999 := by simp
  rw [ofGroups]
  split
  · rename_i hlarge
    refine ⟨fun h => ?_, fun h => absurd h.1 (hany.mp hlarge)⟩
    cases h
  · rename_i hsmall
    have hall := not_not.mp (mt hany.mpr hsmall)
    split
    · rename_i hleast
      exact ⟨fun _ => ⟨hall, hleast⟩, fun _ => rfl⟩
    · rename_i hleast
      refine ⟨fun h => ?_, fun h => absurd h.2 hleast⟩
      cases h

namespace Payload

/-! ## Fields -/

/-- How many groups a payload announces. -/
def count (raw : List UInt8) : ℤ := BigEndian.decodeInt (field 0 raw)

/-- The power of ten thousand that the first group counts. -/
def weight (raw : List UInt8) : ℤ := BigEndian.decodeInt (field 2 raw)

/-- The sign as it is sent. -/
def sign (raw : List UInt8) : ℕ := BigEndian.decode (field 4 raw)

/-- How many digits are shown after the point. -/
def scale (raw : List UInt8) : ℤ := BigEndian.decodeInt (field 6 raw)

/-- A group of decimal digits. -/
def group (raw : List UInt8) (i : ℕ) : ℕ := BigEndian.decode (field (8 + 2 * i) raw)

/-- The groups that are announced. -/
def groups (raw : List UInt8) : List ℕ := (List.range (count raw).toNat).map (group raw)

/-- A payload of a finite number. -/
structure IsFinite (raw : List UInt8) : Prop where
  header : 8 ≤ raw.length
  count_nonneg : 0 ≤ count raw
  scale_nonneg : 0 ≤ scale raw
  sign_eq : sign raw = 0x0000 ∨ sign raw = 0x4000
  complete : 8 + 2 * (count raw).toNat ≤ raw.length
  group_le : ∀ i < (count raw).toNat, group raw i ≤ 9999

variable {raw rest : List UInt8} {n : ℕ}

instance : Decidable (IsFinite raw) :=
  decidable_of_iff (8 ≤ raw.length ∧ 0 ≤ count raw ∧ 0 ≤ scale raw ∧
      (sign raw = 0x0000 ∨ sign raw = 0x4000) ∧ 8 + 2 * (count raw).toNat ≤ raw.length ∧
      ∀ i < (count raw).toNat, group raw i ≤ 9999)
    ⟨fun ⟨h₁, h₂, h₃, h₄, h₅, h₆⟩ => ⟨h₁, h₂, h₃, h₄, h₅, h₆⟩,
      fun ⟨h₁, h₂, h₃, h₄, h₅, h₆⟩ => ⟨h₁, h₂, h₃, h₄, h₅, h₆⟩⟩

/-! ## Reading -/

/-- Bytes taken in twos are the fields at the even places. -/
lemma pairs_eq (h : 2 * n ≤ rest.length) :
    pairs n rest = (List.range n).map fun i => BigEndian.decode (field (2 * i) rest) := by
  induction n generalizing rest with
  | zero => rfl
  | succ n ih =>
    match rest, h with
    | a :: b :: rest, h =>
      have hrest : 2 * n ≤ rest.length := by
        rw [List.length_cons, List.length_cons] at h
        omega
      rw [pairs, ih hrest, List.range_succ_eq_map, List.map_cons, List.map_map]
      rfl

lemma pairs_drop_eq (h : 8 + 2 * (count raw).toNat ≤ raw.length) :
    pairs (count raw).toNat (raw.drop 8) = groups raw := by
  rw [pairs_eq (by rw [List.length_drop]; omega), groups]
  refine List.map_congr_left fun i _ => ?_
  rw [group, field, field, List.drop_drop]

lemma IsFinite.groups_le (h : IsFinite raw) : ∀ g ∈ groups raw, g ≤ 9999 := by
  intro g hg
  obtain ⟨i, hi, rfl⟩ := List.mem_map.mp hg
  exact h.group_le i (List.mem_range.mp hi)

lemma groups_eq_nil_iff (h : 0 ≤ count raw) : groups raw = [] ↔ count raw = 0 := by
  rw [groups, List.map_eq_nil_iff, List.range_eq_nil]
  omega

/-- A payload is read by its fields. -/
lemma read_eq (raw : List UInt8) :
    read raw =
      if raw.length < 8 then .error .tooShort
      else if count raw < 0 ∨ scale raw < 0 then .error .negativeSize
      else if raw.length < 8 + 2 * (count raw).toNat then .error .truncated
      else if sign raw = 0xC000 then .ok .nan
      else if sign raw = 0xD000 then .ok .infinity
      else if sign raw = 0xF000 then .ok .negativeInfinity
      else if sign raw = 0x0000 ∨ sign raw = 0x4000 then
        ofGroups (sign raw = 0x4000) (weight raw) (scale raw).toNat (groups raw)
      else .error (.unknownSign (sign raw)) := by
  by_cases hheader : raw.length < 8
  · rw [if_pos hheader]
    match raw, hheader with
    | [], _ | [_], _ | [_, _], _ | [_, _, _], _ | [_, _, _, _], _ | [_, _, _, _, _], _
    | [_, _, _, _, _, _], _ | [_, _, _, _, _, _, _], _ => rfl
    | _ :: _ :: _ :: _ :: _ :: _ :: _ :: _ :: _, hheader =>
      simp only [List.length_cons] at hheader
      omega
  rw [if_neg hheader]
  have hpairs : 8 + 2 * (count raw).toNat ≤ raw.length → _ := pairs_drop_eq
  match raw, Nat.le_of_not_lt hheader with
  | c₁ :: c₀ :: w₁ :: w₀ :: s₁ :: s₀ :: d₁ :: d₀ :: rest, _ =>
    have hlength : rest.length < 2 * (BigEndian.decodeInt [c₁, c₀]).toNat ↔
        rest.length + 8 < 8 + 2 * (BigEndian.decodeInt [c₁, c₀]).toNat := by omega
    rw [read.eq_1]
    refine if_congr Iff.rfl rfl ?_
    by_cases hfew : rest.length < 2 * (BigEndian.decodeInt [c₁, c₀]).toNat
    · rw [if_pos hfew]
      exact (if_pos (hlength.mp hfew)).symm
    · rw [if_neg hfew, ← hpairs (Nat.le_of_not_lt fun h => hfew (hlength.mpr h))]
      exact (if_neg fun h => hfew (hlength.mpr h)).symm

/-- A payload of a finite number is read as one, unless its weight is the least. -/
lemma IsFinite.read_eq (h : IsFinite raw) :
    read raw = ofGroups (sign raw = 0x4000) (weight raw) (scale raw).toNat (groups raw) := by
  obtain ⟨hheader, hcount, hscale, hsign, hcomplete, -⟩ := h
  rw [Payload.read_eq, if_neg (by omega), if_neg (by omega), if_neg (by omega), if_neg (by omega),
    if_neg (by omega), if_neg (by omega), if_pos hsign]

/-- The weight alone is to blame exactly for a finite number that has groups and the least
weight. -/
lemma read_eq_weightOutOfRange_iff (raw : List UInt8) :
    read raw = .error .weightOutOfRange ↔
      IsFinite raw ∧ count raw ≠ 0 ∧ weight raw = leastWeight := by
  constructor
  · intro h
    rw [Payload.read_eq] at h
    split at h
    · cases h
    rename_i hheader
    split at h
    · cases h
    rename_i hsizes
    split at h
    · cases h
    rename_i hcomplete
    split at h
    · cases h
    split at h
    · cases h
    split at h
    · cases h
    split at h
    · rename_i hsign
      obtain ⟨hsmall, hne, hweight⟩ := ofGroups_eq_weightOutOfRange_iff.mp h
      refine ⟨⟨by omega, by omega, by omega, hsign, by omega, fun i hi => ?_⟩, ?_, hweight⟩
      · exact hsmall _ (List.mem_map_of_mem (List.mem_range.mpr hi))
      · rwa [ne_eq, ← groups_eq_nil_iff (by omega)]
    · cases h
  · rintro ⟨hfinite, hcount, hweight⟩
    rw [hfinite.read_eq, ofGroups_eq_weightOutOfRange_iff, ne_eq,
      groups_eq_nil_iff hfinite.count_nonneg]
    exact ⟨hfinite.groups_le, hcount, hweight⟩

/-- A payload of a finite number has the text of its fields, if its weight is not the least. -/
lemma IsFinite.readText_eq (h : IsFinite raw) (hweight : leastWeight < weight raw) :
    readText raw = .ok (String.ofList (finiteText (sign raw = 0x4000) (weight raw)
      (scale raw).toNat (groups raw))) := by
  have hsmall : ¬ (groups raw).any (9999 < ·) = true := by
    rw [List.any_eq_true]
    rintro ⟨g, hg, hlarge⟩
    have := h.groups_le g hg
    have := of_decide_eq_true hlarge
    omega
  rw [readText, h.read_eq, ofGroups, if_neg hsmall, if_neg (fun hleast => hweight.ne' hleast.2)]
  rfl

end Payload

end BulkValues.Postgres.Numeric
