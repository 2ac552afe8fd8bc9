/-
# The bytes of a text

In UTF-8 a character below 128 is one byte, its own number.
-/
import Mathlib.Data.Nat.Notation
import Mathlib.Tactic.Lemma

namespace BulkValues.Text

/-- The bytes from a place on follow those that were collected. -/
lemma toList_loop (bytes : ByteArray) (i : ℕ) (collected : List UInt8) :
    ByteArray.toList.loop bytes i collected = collected.reverse ++ bytes.data.toList.drop i := by
  fun_induction ByteArray.toList.loop bytes i collected with
  | case1 i collected hlt ih =>
    have hi : i < bytes.data.toList.length := hlt
    have hget : bytes.get! i = bytes.data.toList[i] := getElem!_pos bytes.data i hlt
    rw [ih, List.reverse_cons, List.append_assoc, List.singleton_append, hget,
      List.getElem_cons_drop hi]
  | case2 i collected hge =>
    rw [List.drop_eq_nil_of_le (Nat.le_of_not_lt hge), List.append_nil]

lemma toList_eq (bytes : ByteArray) : bytes.toList = bytes.data.toList := by
  rw [ByteArray.toList, toList_loop, List.reverse_nil, List.nil_append, List.drop_zero]

lemma toList_toByteArray (bytes : List UInt8) : bytes.toByteArray.toList = bytes := by
  rw [toList_eq]
  simp

lemma toUTF8_toList (s : String) : s.toUTF8.toList = s.toList.flatMap String.utf8EncodeChar := by
  rw [String.toUTF8_eq_toByteArray, ← String.utf8Encode_toList, List.utf8Encode, toList_toByteArray]

lemma toUTF8_toList_append (s t : String) :
    (s ++ t).toUTF8.toList = s.toUTF8.toList ++ t.toUTF8.toList := by
  rw [toUTF8_toList, toUTF8_toList, toUTF8_toList, String.toList_append, List.flatMap_append]

lemma length_toUTF8_toList (s : String) : s.toUTF8.toList.length = s.utf8ByteSize := by
  rw [String.toUTF8_eq_toByteArray, toList_eq, ← String.size_toByteArray]
  rfl

/-- A text of characters below 128 has a byte for each. -/
lemma toUTF8_toList_of_ascii {s : String} (h : ∀ c ∈ s.toList, c.toNat < 128) :
    s.toUTF8.toList = s.toList.map fun c => UInt8.ofNat c.toNat := by
  have hchar : ∀ c ∈ s.toList, String.utf8EncodeChar c = [UInt8.ofNat c.toNat] := by
    intro c hc
    rw [String.utf8EncodeChar]
    exact if_pos (Nat.le_of_lt_succ (h c hc))
  rw [toUTF8_toList, List.map_eq_flatMap, List.flatMap_def, List.flatMap_def,
    List.map_congr_left hchar]

/-- The bytes of a text are read as that text, and no others are. -/
lemma fromUTF8?_eq_some {bytes : List UInt8} {s : String} :
    String.fromUTF8? ⟨bytes.toArray⟩ = some s ↔ bytes = s.toUTF8.toList := by
  have hbytes : (⟨bytes.toArray⟩ : ByteArray) = s.toByteArray ↔ bytes = s.toUTF8.toList := by
    rw [String.toUTF8_eq_toByteArray, toList_eq]
    constructor
    · intro h
      rw [← h]
    · intro h
      rw [h]
  rw [← hbytes, String.fromUTF8?]
  split
  · rw [Option.some_inj, ← String.toByteArray_inj]
    rfl
  · rename_i hinvalid
    refine iff_of_false (by simp) ?_
    intro h
    exact hinvalid (h ▸ s.isValidUTF8)

end BulkValues.Text
