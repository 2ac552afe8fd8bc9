/-
# Documents survive as values

A proper document is given back by the value it becomes.  Its whole numbers take two ways, as
integers of 64 bits and, where these end, as the text of a decimal that is read again; the fields
of an object come back in their order, since they are sorted already.
-/
import BulkValues.Proofs.Json.Proper
import BulkValues.Proofs.Number.Digits
import BulkValues.Value.Json

namespace BulkValues

open BulkValues.Number

/-! ## Numbers -/

/-- The text of a number is read as that number. -/
lemma readNat?_toString {n bound : ℕ} (h : n < bound) :
    readNat? bound (toString n).toList = some n := by
  rw [toList_toString_nat, readNat?.eq_def]
  split
  -- No text of a number begins with a sign.
  · rename_i r hplus
    exact absurd (isAsciiDigit_of_mem_toDigits (hplus ▸ List.mem_cons_self ..)) (by decide)
  · dsimp only
    rw [readDigits?_toDigits]
    exact Option.filter_some_pos (decide_eq_true h)

namespace Value

variable {n : JsonNumber}

/-- An integer is the number that it is read from. -/
lemma toJson_int64 {i : ℤ} (hlow : -2 ^ 63 ≤ i) (hhigh : i < 2 ^ 63) :
    (int64 (Int64.ofInt i)).toJson = .ofInt i := by
  rw [toJson, Int64.toInt_ofInt_of_le hlow hhigh]

/-- A number survives on each of its ways. -/
lemma toJson_ofJsonNumber (h : n.isProper = true) : (ofJsonNumber n).toJson = .number n := by
  cases n with
  | natural n =>
    rw [JsonNumber.isProper, decide_eq_true_eq] at h
    rw [ofJsonNumber]
    split
    · rw [toJson_int64 (by omega) (by omega), Json.ofInt, JsonNumber.ofInt,
        if_pos (Int.natCast_nonneg n), Int.toNat_natCast]
    · rw [toJson, decimalToJson, readNat?_toString h]
  | negative i =>
    rw [JsonNumber.isProper, Bool.and_eq_true, decide_eq_true_eq, decide_eq_true_eq] at h
    rw [ofJsonNumber, toJson_int64 h.1 (by omega), Json.ofInt, JsonNumber.ofInt,
      if_neg (Int.not_le.mpr h.2)]
  | float x =>
    rw [JsonNumber.isProper] at h
    rw [ofJsonNumber, toJson, Json.ofFloat, if_pos h]

mutual

/-- A proper document survives. -/
theorem toJson_ofJson : ∀ doc : Json, doc.isProper = true → (ofJson doc).toJson = doc
  | .null, _ => rfl
  | .bool _, _ => rfl
  | .number _, h => toJson_ofJsonNumber h
  | .string _, _ => rfl
  | .array items, h => by
    rw [ofJson, toJson, toJsonItems_ofJsonItems items h]
  | .object fields, h => by
    rw [Json.isProper, Json.all, Bool.and_eq_true, Json.isAscending_iff] at h
    rw [ofJson, toJson, toJsonFields_ofJsonFields fields h.2, Json.sortFields_of_pairwise h.1]

/-- Items survive one by one. -/
theorem toJsonItems_ofJsonItems : ∀ items : List Json,
    Json.allItems JsonNumber.isProper Json.isAscending items = true →
      toJsonItems (ofJsonItems items) = items
  | [], _ => rfl
  | item :: rest, h => by
    rw [Json.allItems, Bool.and_eq_true] at h
    rw [ofJsonItems, toJsonItems, toJson_ofJson item h.1, toJsonItems_ofJsonItems rest h.2]

/-- Fields survive one by one. -/
theorem toJsonFields_ofJsonFields : ∀ fields : List (String × Json),
    Json.allFields JsonNumber.isProper Json.isAscending fields = true →
      toJsonFields (ofJsonFields fields) = fields
  | [], _ => rfl
  | (name, value) :: rest, h => by
    rw [Json.allFields, Bool.and_eq_true] at h
    rw [ofJsonFields, toJsonFields, toJson_ofJson value h.1, toJsonFields_ofJsonFields rest h.2]

end

end Value

end BulkValues
