/-
# Texts without a null character

Some databases end a text at its first null character.  No text that stands for a value of another
type than a string has one: numbers, dates and identifiers are digits and marks, and in a document
control characters are escaped.
-/
import BulkValues.Json.Printer
import BulkValues.Proofs.Calendar.Reading
import BulkValues.Proofs.Number.Layout
import BulkValues.Proofs.Text.Hex
import BulkValues.Value.Json

namespace BulkValues

open BulkValues.Calendar BulkValues.Number BulkValues.Text

/-- A text without a null character. -/
def NullFree (s : String) : Prop := '\x00' ∉ s.toList

instance (s : String) : Decidable (NullFree s) := inferInstanceAs (Decidable (_ ∉ _))

variable {s t : String}

lemma NullFree.append (hs : NullFree s) (ht : NullFree t) : NullFree (s ++ t) := by
  rw [NullFree, String.toList_append, List.mem_append]
  rintro (h | h)
  · exact hs h
  · exact ht h

/-- A text of characters of a kind that the null character is not of. -/
lemma nullFree_of_kind (kind : Char → Prop) (hkind : ¬kind '\x00') (h : ∀ c ∈ s.toList, kind c) :
    NullFree s := fun hnull => hkind (h _ hnull)

lemma nullFree_of_digits (h : ∀ c ∈ s.toList, isAsciiDigit c = true) : NullFree s :=
  nullFree_of_kind (isAsciiDigit · = true) (by decide) h

lemma nullFree_nat (n : ℕ) : NullFree (toString n) := by
  refine nullFree_of_digits fun c hc => ?_
  rw [toList_toString_nat] at hc
  exact isAsciiDigit_of_mem_toDigits hc

lemma nullFree_int (z : ℤ) : NullFree (toString z) := by
  refine nullFree_of_kind (fun c => isAsciiDigit c = true ∨ c = '-') (by decide)
    fun c hc => ?_
  rw [toList_toString_int] at hc
  rcases List.mem_append.mp hc with hc | hc
  · split at hc
    · exact .inr (List.mem_singleton.mp hc)
    · cases hc
  · exact .inl (isAsciiDigit_of_mem_toDigits hc)

lemma nullFree_hexText (bs : List UInt8) : NullFree (hexText bs) := by
  refine nullFree_of_kind (fun c => (hexValue? c).isSome = true) (by decide) fun c hc => ?_
  rw [toList_hexText] at hc
  exact isSome_hexValue?_of_mem hc

lemma Uuid.nullFree_text (u : Uuid) : NullFree u.text := by
  have hhyphen : NullFree "-" := by decide
  exact (((((((((nullFree_hexText _).append hhyphen).append (nullFree_hexText _)).append
    hhyphen).append (nullFree_hexText _)).append hhyphen).append (nullFree_hexText _)).append
    hhyphen).append (nullFree_hexText _))

/-! ## Dates and times -/

namespace Calendar

lemma nullFree_padded (width n : ℕ) : NullFree (padded width n) :=
  nullFree_of_digits (isDigits_padded width n).2

lemma nullFree_yearText (year : ℤ) : NullFree (yearText year) := by
  rw [yearText]
  split
  · exact nullFree_padded 4 _
  · refine NullFree.append ?_ (nullFree_padded 4 _)
    split
    · decide
    · decide

lemma Date.nullFree_text (d : Date) : NullFree d.text := by
  have hhyphen : NullFree "-" := by decide
  exact ((((nullFree_yearText _).append hhyphen).append (nullFree_padded 2 _)).append
    hhyphen).append (nullFree_padded 2 _)

lemma nullFree_fractionText (nanos : ℕ) : NullFree (fractionText nanos) := by
  have hpoint : NullFree "." := by decide
  rw [fractionText]
  split
  · decide
  · split
    · exact hpoint.append (nullFree_padded 3 _)
    · split
      · exact hpoint.append (nullFree_padded 6 _)
      · exact hpoint.append (nullFree_padded 9 _)

lemma TimeOfDay.nullFree_text (t : TimeOfDay) : NullFree t.text := by
  have hcolon : NullFree ":" := by decide
  exact (((((nullFree_padded 2 _).append hcolon).append (nullFree_padded 2 _)).append
    hcolon).append (nullFree_padded 2 _)).append (nullFree_fractionText _)

lemma DateTime.nullFree_text (t : DateTime) : NullFree t.text :=
  (t.date.nullFree_text.append (by decide)).append t.time.nullFree_text

end Calendar

lemma Value.nullFree_instantText (t : DateTime) : NullFree (instantText t) :=
  ((t.date.nullFree_text.append (by decide)).append t.time.nullFree_text).append (by decide)

/-! ## Documents -/

namespace Json

/-- A control character is escaped by its digits. -/
lemma null_not_mem_escapeChar (c : Char) : '\x00' ∉ escapeChar c := by
  have hdigit : ∀ n < 16, hexDigit n ≠ '\x00' := by decide
  rw [escapeChar]
  split_ifs with h₁ h₂ h₃ h₄ h₅ h₆ h₇ h₈
  · decide
  · decide
  · decide
  · decide
  · decide
  · decide
  · decide
  · have hhigh := hdigit (c.toNat / 16) (by omega)
    have hlow := hdigit (c.toNat % 16) (by omega)
    simp [hhigh.symm, hlow.symm]
  · rw [List.mem_singleton]
    rintro rfl
    exact h₈ (by decide)

lemma nullFree_quote (s : String) : NullFree (quote s) := by
  rw [NullFree, quote, String.toList_ofList, quoteChars]
  simp [null_not_mem_escapeChar]

lemma nullFree_numberText (n : JsonNumber) : NullFree (numberText n) := by
  cases n with
  | natural n => exact nullFree_nat n
  | negative n => exact nullFree_int n
  | float x =>
    rw [numberText]
    split
    · refine nullFree_of_kind (fun c => isAsciiDigit c = true ∨ c ∈ numberMarks)
        (by decide) fun c hc => ?_
      rw [floatText, toList_render] at hc
      exact mem_signed mem_layout hc
    · decide

mutual

lemma nullFree_text : ∀ doc : Json, NullFree doc.text
  | .null => by decide
  | .bool b => by cases b <;> decide
  | .number n => nullFree_numberText n
  | .string s => nullFree_quote s
  | .array items =>
    (NullFree.append (s := "[") (by decide) (nullFree_itemsText items)).append (by decide)
  | .object fields =>
    (NullFree.append (s := "\x7b") (by decide) (nullFree_fieldsText fields)).append (by decide)

lemma nullFree_itemsText : ∀ items : List Json, NullFree (itemsText items)
  | [] => by decide
  | [item] => nullFree_text item
  | item :: next :: rest =>
    ((nullFree_text item).append (by decide)).append (nullFree_itemsText (next :: rest))

lemma nullFree_fieldsText : ∀ fields : List (String × Json), NullFree (fieldsText fields)
  | [] => by decide
  | [(name, value)] => ((nullFree_quote name).append (by decide)).append (nullFree_text value)
  | (name, value) :: next :: rest =>
    ((((nullFree_quote name).append (by decide)).append (nullFree_text value)).append
      (by decide)).append (nullFree_fieldsText (next :: rest))

end

end Json

end BulkValues
