/-
# Pages as slices

The rows of a batch are cut into pages of one size.  Page number `k` is the slice of the rows
from `k * size` up to `(k + 1) * size` or the end of the rows, whichever comes first; the pages
in order are the rows, and there are as many as the number of rows divided by the size, rounded
up.  A row of a page therefore stands in the whole input at the position that the number of the
page and its place in the page give.
-/
import BulkValues.Batch.Execute
import Mathlib.Algebra.Order.Floor.Div

namespace BulkValues.Batch

variable {α : Type} {size k : ℕ} {rows page : List α}

@[simp] lemma pages_nil (size : ℕ) : pages size ([] : List α) = [] := by
  rw [pages, dif_pos (Or.inl rfl)]

lemma pages_of_ne_nil (hsize : 0 < size) (hrows : rows ≠ []) :
    pages size rows = rows.take size :: pages size (rows.drop size) := by
  rw [pages, dif_neg]
  rintro (h | h)
  · exact hrows h
  · omega

/-- The induction along the pages of a list: a list without rows, and a first page before the
pages of the rest. -/
lemma pages_induction {motive : List α → Prop} (hsize : 0 < size) (nil : motive [])
    (cons : ∀ rows, rows ≠ [] → motive (rows.drop size) → motive rows) (rows : List α) :
    motive rows := by
  induction hn : rows.length using Nat.strong_induction_on generalizing rows with
  | _ n ih =>
    by_cases hrows : rows = []
    · rw [hrows]
      exact nil
    · have hpos := List.length_pos_iff.mpr hrows
      refine cons rows hrows (ih _ ?_ _ rfl)
      rw [List.length_drop]
      omega

/-- The pages in order are the rows. -/
lemma flatten_pages (hsize : 0 < size) (rows : List α) : (pages size rows).flatten = rows := by
  induction rows using pages_induction hsize with
  | nil => simp
  | cons rows hrows ih =>
    rw [pages_of_ne_nil hsize hrows, List.flatten_cons, ih, List.take_append_drop]

/-- There are as many pages as the number of rows divided by the size, rounded up. -/
lemma length_pages (hsize : 0 < size) (rows : List α) :
    (pages size rows).length = rows.length ⌈/⌉ size := by
  induction rows using pages_induction hsize with
  | nil => simp
  | cons rows hrows ih =>
    have hpos := List.length_pos_iff.mpr hrows
    rw [pages_of_ne_nil hsize hrows, List.length_cons, ih, List.length_drop]
    simp only [Nat.ceilDiv_eq_add_pred_div]
    -- A first page that is not followed by another one may be short.
    by_cases hle : rows.length ≤ size
    · have h1 : (rows.length - size + size - 1) / size = 0 := Nat.div_eq_of_lt (by omega)
      have h2 : (rows.length + size - 1) / size = 1 :=
        Nat.div_eq_of_lt_le (by omega) (by omega)
      omega
    · have h : rows.length + size - 1 = rows.length - size + size - 1 + size := by omega
      rw [h, Nat.add_div_right _ hsize]

/-- Page number `k`, where there are rows for it, is a slice of the rows. -/
lemma getElem?_pages (hsize : 0 < size) (rows : List α) (k : ℕ) :
    (pages size rows)[k]? = if k * size < rows.length then some (rows.extract (k * size)
      (min ((k + 1) * size) rows.length)) else none := by
  induction rows using pages_induction hsize generalizing k with
  | nil => simp
  | cons rows hrows ih =>
    have hpos := List.length_pos_iff.mpr hrows
    rw [pages_of_ne_nil hsize hrows]
    cases k with
    | zero => simp [hpos, List.take_eq_take_iff]
    | succ k =>
      have hk : (k + 1) * size = size + k * size := by rw [Nat.succ_mul, Nat.add_comm]
      have hk' : (k + 1 + 1) * size = size + (k + 1) * size := by
        rw [Nat.succ_mul, Nat.add_comm]
      rw [List.getElem?_cons_succ, ih, List.length_drop, hk']
      by_cases hlt : (k + 1) * size < rows.length
      · rw [if_pos hlt, if_pos (by omega)]
        simp only [List.extract_eq_take_drop, List.drop_drop, Option.some.injEq]
        congr 1
        · omega
        · rw [hk]
      · rw [if_neg hlt, if_neg (by omega)]

/-- A page that exists begins inside the rows and is a slice of them. -/
lemma eq_extract_of_getElem?_pages (hsize : 0 < size)
    (h : (pages size rows)[k]? = some page) :
    k * size < rows.length ∧
      page = rows.extract (k * size) (min ((k + 1) * size) rows.length) := by
  rw [getElem?_pages hsize] at h
  split at h
  · rename_i hlt
    exact ⟨hlt, (Option.some.inj h).symm⟩
  · cases h

/-- The row at place `i` of page number `k` is the row at position `k * size + i`. -/
lemma position_of_getElem?_pages (hsize : 0 < size) (h : (pages size rows)[k]? = some page)
    {i : ℕ} (hi : i < page.length) :
    k * size + i < rows.length ∧ rows[k * size + i]? = page[i]? := by
  obtain ⟨-, rfl⟩ := eq_extract_of_getElem?_pages hsize h
  simp only [List.extract_eq_take_drop, List.length_take, List.length_drop] at hi
  refine ⟨by omega, ?_⟩
  rw [List.extract_eq_take_drop, List.getElem?_take_of_lt (by omega), List.getElem?_drop]

/-- No page is empty. -/
lemma ne_nil_of_mem_pages (hsize : 0 < size) (h : page ∈ pages size rows) : page ≠ [] := by
  obtain ⟨k, hk⟩ := List.getElem?_of_mem h
  obtain ⟨hlt, rfl⟩ := eq_extract_of_getElem?_pages hsize hk
  have hk' : (k + 1) * size = k * size + size := Nat.succ_mul ..
  rw [← List.length_pos_iff, List.extract_eq_take_drop, List.length_take, List.length_drop]
  omega

/-- A page is a slice of the rows. -/
lemma infix_of_mem_pages (hsize : 0 < size) (h : page ∈ pages size rows) : page <:+: rows := by
  have hinfix := List.infix_of_mem_flatten h
  rwa [flatten_pages hsize] at hinfix

end BulkValues.Batch
