/-
# Payloads of exact numbers

A payload that is a number has a header of eight bytes: how many groups there are, the weight, the
sign, and the scale.  The two sizes are not negative, the groups that are announced are there, and
the sign is one of five.
-/
import BulkValues.Postgres.Numeric
import Mathlib.Data.Int.Notation
import Mathlib.Data.Nat.Notation
import Mathlib.Tactic.Lemma

namespace BulkValues.Postgres.Numeric

open BulkValues.Number

/-- What the sign of a payload and its groups make of it. -/
inductive Reading (sign : ℕ) (weight : ℤ) (scale : ℕ) (groups : List ℕ) : Numeric → Prop
  | nan : sign = 0xC000 → Reading sign weight scale groups .nan
  | infinity : sign = 0xD000 → Reading sign weight scale groups .infinity
  | negativeInfinity : sign = 0xF000 → Reading sign weight scale groups .negativeInfinity
  | finite : sign = 0x0000 ∨ sign = 0x4000 →
    Reading sign weight scale groups (.finite (sign = 0x4000) weight scale groups)

variable {bytes : List UInt8} {number : Numeric}

lemma ofGroups_eq_ok {negative : Bool} {weight : ℤ} {scale : ℕ} {groups : List ℕ}
    (h : ofGroups negative weight scale groups = .ok number) :
    number = .finite negative weight scale groups := by
  rw [ofGroups] at h
  split at h
  · cases h
  split at h
  · cases h
  · cases h
    rfl

/-- A payload that is a number has a whole header and all its groups. -/
lemma exists_of_read (h : read bytes = .ok number) :
    ∃ c₁ c₀ w₁ w₀ s₁ s₀ d₁ d₀ rest, bytes = c₁ :: c₀ :: w₁ :: w₀ :: s₁ :: s₀ :: d₁ :: d₀ :: rest ∧
      2 * (BigEndian.decodeInt [c₁, c₀]).toNat ≤ rest.length ∧
      Reading (BigEndian.decode [s₁, s₀]) (BigEndian.decodeInt [w₁, w₀])
        (BigEndian.decodeInt [d₁, d₀]).toNat
        (pairs (BigEndian.decodeInt [c₁, c₀]).toNat rest) number := by
  rw [read.eq_def] at h
  split at h
  · rename_i c₁ c₀ w₁ w₀ s₁ s₀ d₁ d₀ rest
    refine ⟨c₁, c₀, w₁, w₀, s₁, s₀, d₁, d₀, rest, rfl, ?_⟩
    dsimp only at h
    split at h
    · cases h
    split at h
    · cases h
    rename_i hgroups
    refine ⟨Nat.le_of_not_lt hgroups, ?_⟩
    split at h
    · rename_i hsign
      cases h
      exact .nan hsign
    split at h
    · rename_i hsign
      cases h
      exact .infinity hsign
    split at h
    · rename_i hsign
      cases h
      exact .negativeInfinity hsign
    split at h
    · rename_i hsign
      rw [ofGroups_eq_ok h]
      exact .finite hsign
    · cases h
  · cases h

end BulkValues.Postgres.Numeric
