/-
# Equality with itself

Equality of documents and of values compares floats as numbers, and one that is no number differs
from itself.  A document equals itself when all its numbers do.  Converting a value to a document
cannot spoil this: a float that documents cannot hold becomes null.
-/
import BulkValues.Proofs.Json.Proper
import BulkValues.Value.Json

namespace BulkValues

open BulkValues.Number

/-- Whether a number equals itself. Only a float can fail to. -/
def JsonNumber.isSteady (n : JsonNumber) : Bool := n.same n

/-- Whether all numbers of a document equal themselves. -/
def Json.isSteady (doc : Json) : Bool := doc.all JsonNumber.isSteady fun _ => true

lemma Binary64.same_self_of_isFinite {x : Binary64} (h : x.isFinite = true) :
    x.same x = true := by
  have hnan : x.isNaN = false := by
    rw [Binary64.isFinite, bne_iff_ne] at h
    rw [Binary64.isNaN, beq_eq_false_iff_ne.mpr h, Bool.false_and]
  simp [Binary64.same, hnan]

namespace Json

mutual

/-- A document equals itself when its numbers do. -/
lemma same_self : ∀ doc : Json, doc.same doc = doc.isSteady
  | .null => rfl
  | .bool _ => beq_self_eq_true _
  | .number _ => rfl
  | .string _ => beq_self_eq_true _
  | .array items => sameItems_self items
  | .object fields => sameFields_self fields

lemma sameItems_self : ∀ items : List Json,
    sameItems items items = allItems JsonNumber.isSteady (fun _ => true) items
  | [] => rfl
  | item :: rest => by
    rw [sameItems, allItems, same_self item, sameItems_self rest]
    rfl

lemma sameFields_self : ∀ fields : List (String × Json),
    sameFields fields fields = allFields JsonNumber.isSteady (fun _ => true) fields
  | [] => rfl
  | (_, value) :: rest => by
    rw [sameFields, allFields, same_self value, sameFields_self rest, beq_self_eq_true,
      Bool.true_and]
    rfl

end

lemma isSteady_ofInt (n : ℤ) : (ofInt n).isSteady = true := by
  unfold ofInt JsonNumber.ofInt
  split <;> exact beq_self_eq_true _

/-- What is no number in a document becomes null. -/
lemma isSteady_ofFloat (x : Binary64) : (ofFloat x).isSteady = true := by
  unfold ofFloat
  split
  · exact Binary64.same_self_of_isFinite ‹_›
  · rfl

end Json

namespace Value

mutual

/-- The document of a value equals itself when the value does. -/
lemma isSteady_toJson : ∀ v : Value, v.same v = true → v.toJson.isSteady = true
  | .null, _ => rfl
  | .bool _, _ => rfl
  | .int16 n, _ => Json.isSteady_ofInt n.toInt
  | .int32 n, _ => Json.isSteady_ofInt n.toInt
  | .int64 n, _ => Json.isSteady_ofInt n.toInt
  | .float32 x, _ => Json.isSteady_ofFloat x.widen
  | .float64 x, _ => Json.isSteady_ofFloat x
  | .decimal text, _ => by
    rw [toJson, decimalToJson]
    split
    · exact beq_self_eq_true _
    · rfl
  | .string _, _ => rfl
  | .bytes bs, _ => by
    refine Json.allItems_iff.mpr fun item hitem => ?_
    obtain ⟨b, -, rfl⟩ := List.mem_map.mp hitem
    exact beq_self_eq_true _
  | .uuid _, _ => rfl
  | .date _, _ => rfl
  | .time _, _ => rfl
  | .dateTime _, _ => rfl
  | .instant _, _ => rfl
  | .json doc, h => (Json.same_self doc).symm.trans h
  | .array items, h => Json.allItems_iff.mpr (isSteady_toJsonItems items h)
  | .map fields, h => Json.allFields_iff.mpr fun f hf =>
    isSteady_toJsonFields fields h f (Json.mem_sortFields hf)

lemma isSteady_toJsonItems : ∀ items : List Value, sameItems items items = true →
    ∀ item ∈ toJsonItems items, item.isSteady = true
  | [], _ => nofun
  | v :: rest, h => by
    rw [sameItems, Bool.and_eq_true] at h
    exact List.forall_mem_cons.mpr ⟨isSteady_toJson v h.1, isSteady_toJsonItems rest h.2⟩

lemma isSteady_toJsonFields : ∀ fields : List (String × Value), sameFields fields fields = true →
    ∀ f ∈ toJsonFields fields, f.2.isSteady = true
  | [], _ => nofun
  | (_, v) :: rest, h => by
    rw [sameFields, Bool.and_eq_true, Bool.and_eq_true] at h
    exact List.forall_mem_cons.mpr ⟨isSteady_toJson v h.1.2, isSteady_toJsonFields rest h.2⟩

end

end Value

end BulkValues
