/-
# The text of floats

A float is laid out as digits, with a point between two of them or without, and in documents also
with an exponent behind them.  The display text has no exponent, and in a literal every finite float
has its point.
-/
import BulkValues.Literal.Basic
import BulkValues.Proofs.Number.Digits
import Mathlib.Data.List.TakeWhile

namespace BulkValues.Number

open BulkValues.Text

variable {c : Char} {ds : List Char} {n : ℕ} {pointZero : Bool}

/-! ## Zeros at the end -/

lemma stripZeros_subset (ds : List Char) : (stripZeros ds).1 ⊆ ds := by
  intro c hc
  rw [stripZeros, List.mem_reverse] at hc
  exact List.mem_reverse.mp ((List.dropWhile_suffix _).subset hc)

/-- Digits that are not all zeros do not vanish. -/
lemma stripZeros_ne_nil (h : digitsValue ds ≠ 0) : (stripZeros ds).1 ≠ [] := by
  intro hnil
  rw [stripZeros, List.reverse_eq_nil_iff, List.dropWhile_eq_nil_iff] at hnil
  have hzeros : ds = List.replicate ds.length '0' :=
    List.eq_replicate_of_mem fun c hc => by simpa using hnil c (List.mem_reverse.mpr hc)
  have hvalue := digitsValue_replicate ds.length []
  rw [List.append_nil, ← hzeros] at hvalue
  exact h hvalue

lemma isDigits_stripZeros (h : n ≠ 0) : IsDigits (stripZeros (digitsOf n)).1 := by
  refine ⟨stripZeros_ne_nil ?_, fun c hc => ?_⟩
  · rwa [digitsOf, digitsValue_toDigits]
  · exact isAsciiDigit_of_mem_toDigits (stripZeros_subset _ hc)

/-! ## Layout -/

/-- Digits, with a point between two of them or without. -/
inductive IsPositional : List Char → Prop
  | whole {ds : List Char} (h : IsDigits ds) : IsPositional ds
  | pointed {ds es : List Char} (hds : IsDigits ds) (hes : IsDigits es) :
      IsPositional (ds ++ '.' :: es)

lemma IsPositional.mem {w : List Char} (h : IsPositional w) (hc : c ∈ w) :
    isAsciiDigit c = true ∨ c = '.' := by
  cases h with
  | whole h => exact .inl (h.2 c hc)
  | pointed hds hes =>
    rcases List.mem_append.mp hc with hc | hc
    · exact .inl (hds.2 c hc)
    · rcases List.mem_cons.mp hc with rfl | hc
      · exact .inr rfl
      · exact .inl (hes.2 c hc)

lemma isPositional_layoutPositional (hds : IsDigits ds) (exp : ℤ) :
    IsPositional (layoutPositional pointZero ds exp) := by
  rw [layoutPositional]
  split
  · have hwhole : IsDigits (ds ++ List.replicate exp.toNat '0') :=
      hds.append fun c hc => isAsciiDigit_of_mem_replicate hc
    cases pointZero with
    | false =>
      rw [if_neg Bool.false_ne_true, List.append_nil]
      exact .whole hwhole
    | true => exact .pointed hwhole isDigits_zero
  · rename_i hexp
    dsimp only
    split
    -- The point stands between two digits.
    · rename_i hlt
      refine .pointed ⟨?_, fun c hc => hds.2 c (List.mem_of_mem_take hc)⟩
        ⟨?_, fun c hc => hds.2 c (List.mem_of_mem_drop hc)⟩
      · rw [Ne, List.take_eq_nil_iff]
        rintro (h | h)
        · omega
        · exact hds.1 h
      · rw [Ne, List.drop_eq_nil_iff]
        omega
    -- The point stands before all digits, and a zero before it.
    · refine .pointed isDigits_zero
        ⟨List.append_ne_nil_of_right_ne_nil _ hds.1, fun c hc => ?_⟩
      rcases List.mem_append.mp hc with hc | hc
      · exact isAsciiDigit_of_mem_replicate hc
      · exact hds.2 c hc

lemma isPositional_zero (exp : ℤ) : IsPositional (layoutPositional pointZero ['0'] exp) :=
  isPositional_layoutPositional isDigits_zero exp

/-- The display text of a decimal has no exponent. -/
lemma isPositional_layout_plain (d : Decimal) : IsPositional (Style.plain.layout d) := by
  rw [Style.layout]
  split
  · exact isPositional_zero 0
  · rename_i hne
    exact isPositional_layoutPositional (isDigits_stripZeros hne) _

/-- The characters that a number can have beside its digits. -/
def numberMarks : List Char := ['.', 'e', '+', '-']

lemma mem_layoutScientific {lead : ℤ} (hds : ∀ c ∈ ds, isAsciiDigit c = true)
    (h : c ∈ layoutScientific ds lead) : isAsciiDigit c = true ∨ c ∈ numberMarks := by
  simp only [layoutScientific.eq_def, List.mem_append, List.mem_cons] at h
  rcases h with h | rfl | rfl | h
  · split at h
    · cases h
    · exact .inl (hds c h)
    · rw [List.mem_cons, List.mem_cons] at h
      rcases h with rfl | rfl | h
      · exact .inl (hds _ (List.mem_cons_self ..))
      · exact .inr (by decide)
      · exact .inl (hds c (List.mem_cons_of_mem _ h))
  · exact .inr (by decide)
  · split
    · exact .inr (by decide)
    · exact .inr (by decide)
  · exact .inl (isAsciiDigit_of_mem_toDigits h)

lemma IsPositional.mem_marks {w : List Char} (h : IsPositional w) (hc : c ∈ w) :
    isAsciiDigit c = true ∨ c ∈ numberMarks := by
  rcases h.mem hc with hdigit | rfl
  · exact .inl hdigit
  · exact .inr (by decide)

/-- In every style a decimal has only digits and the marks of a number. -/
lemma mem_layout {style : Style} {d : Decimal} (h : c ∈ style.layout d) :
    isAsciiDigit c = true ∨ c ∈ numberMarks := by
  rw [Style.layout] at h
  split at h
  · exact (isPositional_zero 0).mem_marks h
  · rename_i hne
    have hds := isDigits_stripZeros hne
    have hlayout : ∀ (positional : Bool) (exp lead : ℤ),
        c ∈ (if positional then
          layoutPositional style.pointZero (stripZeros (digitsOf d.digits)).1 exp
          else layoutScientific (stripZeros (digitsOf d.digits)).1 lead) →
        isAsciiDigit c = true ∨ c ∈ numberMarks := by
      intro positional exp lead hc
      cases positional with
      | true => exact (isPositional_layoutPositional hds exp).mem_marks hc
      | false => exact mem_layoutScientific hds.2 hc
    exact hlayout _ _ _ h

/-! ## Signed text -/

/-- The sign of a number in front of its text. -/
def signed (negative : Bool) (w : List Char) : List Char := (if negative then ['-'] else []) ++ w

lemma mem_signed {negative : Bool} {w : List Char}
    (hw : c ∈ w → isAsciiDigit c = true ∨ c ∈ numberMarks) (h : c ∈ signed negative w) :
    isAsciiDigit c = true ∨ c ∈ numberMarks := by
  rcases List.mem_append.mp h with h | h
  · split at h
    · rw [List.mem_singleton.mp h]
      exact .inr (by decide)
    · cases h
  · exact hw h

lemma toList_render (style : Style) (negative : Bool) (x : Magnitude) :
    (style.render negative x).toList = signed negative (style.layout (x.shortest style.tie)) :=
  String.toList_ofList

lemma isFinite_of_not {x : Binary64} (hnan : ¬x.isNaN = true) (hinfinite : ¬x.isInfinite = true) :
    x.isFinite = true := by
  rw [Binary64.isNaN, Bool.and_eq_true, bne_iff_ne, beq_iff_eq] at hnan
  rw [Binary64.isInfinite, Bool.and_eq_true, beq_iff_eq, beq_iff_eq] at hinfinite
  rw [Binary64.isFinite, bne_iff_ne]
  intro hexponent
  refine hnan ⟨hexponent, fun hfraction => ?_⟩
  exact hinfinite ⟨hexponent, hfraction⟩

lemma not_special_of_isFinite {x : Binary64} (h : x.isFinite = true) :
    x.isNaN = false ∧ x.isInfinite = false := by
  rw [Binary64.isFinite, bne_iff_ne] at h
  simp [Binary64.isNaN, Binary64.isInfinite, h]

lemma toList_display {x : Binary64} (h : x.isFinite = true) :
    ∃ w, IsPositional w ∧ x.display.toList = signed x.isNegative w := by
  refine ⟨Style.plain.layout (x.magnitude.shortest Style.plain.tie),
    isPositional_layout_plain _, ?_⟩
  rw [Binary64.display, (not_special_of_isFinite h).1, if_neg Bool.false_ne_true, if_pos h]
  exact toList_render ..

/-- A finite float in a literal has digits, a point and digits behind the sign: either its display
text has them, or it ends before the point. -/
lemma toList_float {x : Binary64} (h : x.isFinite = true) :
    ∃ ds es, IsDigits ds ∧ IsDigits es ∧
      (Literal.float x).toList = signed x.isNegative (ds ++ '.' :: es) ∧
      (Literal.float x = x.display ∨
        es = ['0'] ∧ x.display.toList = signed x.isNegative ds) := by
  obtain ⟨w, hw, htext⟩ := toList_display h
  rw [Literal.float, htext]
  cases hw with
  | pointed hds hes =>
    rename_i ds es
    have hpoint : ((signed x.isNegative (ds ++ '.' :: es)).any
        fun c => c == '.' || c == 'e' || c == 'E') = true := by
      simp [signed]
    rw [hpoint, if_pos rfl]
    exact ⟨ds, es, hds, hes, htext, .inl rfl⟩
  | whole hds =>
    have hnone : ((signed x.isNegative w).any
        fun c => c == '.' || c == 'e' || c == 'E') = false := by
      have hdigits : (w.any fun c => c == '.' || c == 'e' || c == 'E') = false := by
        rw [List.any_eq_false]
        intro c hc hmark
        have hdigit := hds.2 c hc
        simp only [Bool.or_eq_true, beq_iff_eq] at hmark
        rcases hmark with (rfl | rfl) | rfl <;> exact absurd hdigit (by decide)
      cases hneg : x.isNegative <;> simp [signed, hdigits]
    rw [hnone, if_neg Bool.false_ne_true, String.toList_append, htext]
    exact ⟨w, ['0'], hds, isDigits_zero, by simp [signed], .inr ⟨rfl, rfl⟩⟩

end BulkValues.Number
