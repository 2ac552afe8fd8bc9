/-
# Documents that are read are proper

Numbers are proper as they are read, and an item of a list is read by the reader of one item, so
that a document is proper but for the order of its fields at every depth.  Sorting it makes it
proper.
-/
import BulkValues.Proofs.Json.FiniteFloat
import BulkValues.Proofs.Json.Proper

namespace BulkValues.Json

open BulkValues.Number

variable {cs rest : List Char} {n : JsonNumber}

lemma isProper_of_assembleFloat {negative : Bool} {m : ℕ} {exp : ℤ} (hm : m < 2 ^ 64)
    (h : assembleFloat negative m exp = some n) : n.isProper = true := by
  obtain ⟨y, hy, rfl⟩ := isFinite_of_assembleFloat hm h
  exact hy

lemma isProper_of_readUnsigned {negative : Bool} (h : readUnsigned negative cs = some (n, rest)) :
    n.isProper = true := by
  rw [readUnsigned] at h
  split at h
  · cases h
  · split at h
    rename_i significand spare hsignificand
    have hlt := takeSignificand_lt (by decide) hsignificand
    extract_lets point places left at h
    split at h
    · cases h
    · obtain ⟨⟨e, r⟩, -, h⟩ := Option.bind_eq_some_iff.mp h
      dsimp only at h
      split at h
      · split at h
        · cases h
          exact decide_eq_true hlt
        · split at h
          · cases h
            decide
          · split at h
            · cases h
              rename_i hne hle
              simp only [JsonNumber.isProper, Bool.and_eq_true, decide_eq_true_eq]
              omega
            · obtain ⟨x, hx, h⟩ := Option.map_eq_some_iff.mp h
              cases h
              exact isProper_of_assembleFloat hlt hx
      · obtain ⟨x, hx, h⟩ := Option.bind_eq_some_iff.mp h
        cases h
        exact isProper_of_assembleFloat (takeSignificand_lt hlt rfl) hx

lemma isProper_of_readNumber (h : readNumber cs = some (n, rest)) : n.isProper = true := by
  rw [readNumber.eq_def] at h
  split at h
  · exact isProper_of_readUnsigned h
  · exact isProper_of_readUnsigned h

/-! ## Lists -/

section Lists

variable {α : Type} {item : List Char → Option (α × List Char)} {close : Char} {P : α → Prop}
  {xs : List α}

/-- What holds of every item that is read holds of all items of a list. -/
lemma forall_of_readItems (hitem : ∀ cs x rest, item cs = some (x, rest) → P x) {fuel : ℕ}
    (h : readItems item close fuel cs = some (xs, rest)) : ∀ x ∈ xs, P x := by
  induction fuel generalizing cs xs with
  | zero => cases h
  | succ fuel ih =>
    obtain ⟨⟨x, r⟩, hx, h⟩ := Option.bind_eq_some_iff.mp h
    dsimp only at h
    split at h
    · obtain ⟨⟨ys, r'⟩, hys, h⟩ := Option.bind_eq_some_iff.mp h
      cases h
      exact List.forall_mem_cons.mpr ⟨hitem _ _ _ hx, ih hys⟩
    · split at h
      · cases h
        exact List.forall_mem_singleton.mpr (hitem _ _ _ hx)
      · cases h
    · cases h

lemma forall_of_readList (hitem : ∀ cs x rest, item cs = some (x, rest) → P x)
    (h : readList item close cs = some (xs, rest)) : ∀ x ∈ xs, P x := by
  rw [readList] at h
  split at h
  · split at h
    · cases h
      exact fun x hx => absurd hx List.not_mem_nil
    · exact forall_of_readItems hitem h
  · cases h

end Lists

/-! ## Documents -/

lemma exists_of_readField {value : List Char → Option (Json × List Char)} {f : String × Json}
    (h : readField value cs = some (f, rest)) : ∃ r, value r = some (f.2, rest) := by
  rw [readField] at h
  split at h
  · obtain ⟨⟨name, r⟩, -, h⟩ := Option.bind_eq_some_iff.mp h
    dsimp only at h
    split at h
    · obtain ⟨⟨v, r'⟩, hv, h⟩ := Option.bind_eq_some_iff.mp h
      cases h
      exact ⟨_, hv⟩
    · cases h
  · cases h

/-- A document that is made of what was read has proper numbers if each of this kind has. -/
lemma all_of_map {β : Type} {piece : Option β} {make : β → Json × List Char} {doc : Json}
    (h : piece.map make = some (doc, rest))
    (hmake : ∀ b, piece = some b → (make b).1.all JsonNumber.isProper (fun _ => true) = true) :
    doc.all JsonNumber.isProper (fun _ => true) = true := by
  obtain ⟨b, hb, heq⟩ := Option.map_eq_some_iff.mp h
  have hdoc := hmake b hb
  rwa [heq] at hdoc

/-- The numbers of a document that is read are proper. -/
lemma all_of_readValue {depth : ℕ} {doc : Json} (h : readValue depth cs = some (doc, rest)) :
    doc.all JsonNumber.isProper (fun _ => true) = true := by
  induction depth using Nat.strongRecOn generalizing cs doc rest with
  | ind depth ih =>
    rw [readValue] at h
    split at h
    · exact all_of_map h fun _ _ => rfl
    · cases depth with
      | zero => cases h
      | succ depth =>
        refine all_of_map h fun _ hitems => allItems_iff.mpr ?_
        exact forall_of_readList (fun cs x rest hx => ih depth depth.lt_succ_self hx) hitems
    · cases depth with
      | zero => cases h
      | succ depth =>
        refine all_of_map h fun _ hfields => allFields_iff.mpr ?_
        refine forall_of_readList (fun cs f rest hf => ?_) hfields
        obtain ⟨r, hr⟩ := exists_of_readField hf
        exact ih depth depth.lt_succ_self hr
    · exact all_of_map h fun _ _ => rfl
    · exact all_of_map h fun _ _ => rfl
    · exact all_of_map h fun _ _ => rfl
    · exact all_of_map h fun _ hn => isProper_of_readNumber hn

lemma all_of_readVerbatim? {text : String} {doc : Json} (h : readVerbatim? text = some doc) :
    doc.all JsonNumber.isProper (fun _ => true) = true := by
  obtain ⟨⟨doc, rest⟩, hdoc, hrest⟩ := Option.bind_eq_some_iff.mp h
  dsimp only at hrest
  split at hrest
  · cases hrest
    exact all_of_readValue hdoc
  · cases hrest

/-- A document that is read is proper. -/
theorem isProper_of_read? {text : String} {doc : Json} (h : read? text = some doc) :
    doc.isProper = true := by
  obtain ⟨verbatim, hverbatim, rfl⟩ := Option.map_eq_some_iff.mp h
  exact all_normalize _ (all_of_readVerbatim? hverbatim)

end BulkValues.Json
