/-
# Lists read back

The items of a list, each followed by a comma or by the closing bracket, are read one by one.
-/
import BulkValues.Json.Reader
import Mathlib.Data.List.Forall2
import Mathlib.Data.Nat.Notation
import Mathlib.Tactic.Lemma

namespace BulkValues.Json

variable {α : Type} {item : List Char → Option (α × List Char)} {close c : Char}
  {cs gap next rest w : List Char} {texts : List (List Char)} {x : α} {xs : List α} {fuel : ℕ}

/-- A text after an item of a list: it goes on with a comma or with the closing bracket. -/
def Closes (close : Char) (next : List Char) : Prop := ∃ c r, next = c :: r ∧ (c = ',' ∨ c = close)

lemma closes_comma (close : Char) (rest : List Char) : Closes close (',' :: rest) :=
  ⟨',', rest, rfl, .inl rfl⟩

lemma closes_close (close : Char) (rest : List Char) : Closes close (close :: rest) :=
  ⟨close, rest, rfl, .inr rfl⟩

/-- A text is that of an item: it is read as the item wherever the list goes on or ends. -/
def Reads (item : List Char → Option (α × List Char)) (close : Char) (w : List Char) (x : α) :
    Prop :=
  ∀ next, Closes close next → item (w ++ next) = some (x, next)

lemma skipSpaces_cons (h : isSpace c = false) : skipSpaces (c :: cs) = c :: cs :=
  List.dropWhile_cons_of_neg (by simp [h])

/-- What an item may have before it, a list of items may have as well. -/
lemma readItems_gap (hgap : ∀ cs, item (gap ++ cs) = item cs) (cs : List Char) :
    readItems item close fuel (gap ++ cs) = readItems item close fuel cs := by
  cases fuel with
  | zero => rfl
  | succ fuel => rw [readItems, readItems, hgap]

/-- Items with commas between them are read as they are. -/
lemma readItems_intercalate (hspace : isSpace close = false) (hcomma : close ≠ ',')
    (hgap : ∀ cs, item (gap ++ cs) = item cs)
    (h : List.Forall₂ (Reads item close) (w :: texts) xs) (hfuel : (w :: texts).length ≤ fuel)
    (rest : List Char) :
    readItems item close fuel ((',' :: gap).intercalate (w :: texts) ++ close :: rest) =
      some (xs, rest) := by
  induction texts generalizing w xs fuel with
  | nil =>
    obtain ⟨fuel, rfl⟩ := Nat.exists_eq_succ_of_ne_zero (Nat.ne_zero_of_lt hfuel)
    cases h with
    | cons hx hnil =>
      cases hnil
      rw [List.intercalate_singleton, readItems, hx _ (closes_close close rest)]
      simp only [Option.bind_eq_bind, Option.bind_some, skipSpaces_cons hspace, if_true]
  | cons v texts ih =>
    obtain ⟨fuel, rfl⟩ := Nat.exists_eq_succ_of_ne_zero (Nat.ne_zero_of_lt hfuel)
    cases h with
    | @cons _ x _ xs hx hxs =>
      have hrest := ih hxs (Nat.le_of_succ_le_succ hfuel)
      rw [List.intercalate_cons_cons, List.append_assoc, List.append_assoc, List.cons_append,
        readItems, hx _ (closes_comma close _)]
      simp only [Option.bind_eq_bind, Option.bind_some, skipSpaces_cons (c := ',') (by decide),
        readItems_gap hgap, hrest]
      rfl

lemma length_le_intercalate (sep : List Char) (hsep : sep ≠ []) (w : List Char)
    (texts : List (List Char)) :
    (w :: texts).length ≤ (sep.intercalate (w :: texts)).length + 1 := by
  have hpos := List.length_pos_iff.mpr hsep
  induction texts generalizing w with
  | nil => simp
  | cons v texts ih =>
    have hrest := ih v
    rw [List.intercalate_cons_cons]
    simp only [List.length_cons, List.length_append] at hrest ⊢
    omega

/-- A list with at least one item is read whole, whatever comes after its bracket. -/
lemma readList_intercalate (hspace : isSpace close = false) (hcomma : close ≠ ',')
    (hgap : ∀ cs, item (gap ++ cs) = item cs) (hc : isSpace c = false) (hclose : c ≠ close)
    (h : List.Forall₂ (Reads item close) ((c :: w) :: texts) xs) (rest : List Char) :
    readList item close ((',' :: gap).intercalate ((c :: w) :: texts) ++ close :: rest) =
      some (xs, rest) := by
  obtain ⟨r, hr⟩ : ∃ r, (',' :: gap).intercalate ((c :: w) :: texts) ++ close :: rest = c :: r := by
    cases texts with
    | nil => exact ⟨_, rfl⟩
    | cons v texts => exact ⟨_, by rw [List.intercalate_cons_cons]; rfl⟩
  have hlength := length_le_intercalate (',' :: gap) (List.cons_ne_nil _ _) (c :: w) texts
  have hfuel : ((c :: w) :: texts).length ≤ (c :: r).length + 1 := by
    rw [← hr, List.length_append]
    omega
  have hread := readItems_intercalate hspace hcomma hgap h hfuel rest
  rw [hr] at hread ⊢
  rw [readList, skipSpaces_cons hc]
  dsimp only
  rw [if_neg hclose, hread]

end BulkValues.Json
