/-
# Hexadecimal text reads back

Every byte is two digits, each of which stands for its half.
-/
import BulkValues.Text.Hex
import Mathlib.Data.Nat.Notation
import Mathlib.Tactic.Lemma

namespace BulkValues.Text

variable {c : Char} {bs : List UInt8} {n : ℕ}

lemma hexValue?_hexDigit (h : n < 16) : hexValue? (hexDigit n) = some n := by
  have hall : ∀ n < 16, hexValue? (hexDigit n) = some n := by decide
  exact hall n h

/-- The halves of a byte are digits. -/
lemma halves_lt (b : UInt8) : b.toNat / 16 < 16 ∧ b.toNat % 16 < 16 := by
  have hb := b.toNat_lt
  omega

lemma hexChars_cons (b : UInt8) (bs : List UInt8) :
    hexChars (b :: bs) =
      hexDigit (b.toNat / 16) :: hexDigit (b.toNat % 16) :: hexChars bs := rfl

/-- The digits of bytes stand for these bytes. -/
lemma readHex?_hexChars (bs : List UInt8) : readHex? (hexChars bs) = some bs := by
  induction bs with
  | nil => rfl
  | cons b bs ih =>
    obtain ⟨hhigh, hlow⟩ := halves_lt b
    have hbyte : 16 * (b.toNat / 16) + b.toNat % 16 = b.toNat := Nat.div_add_mod ..
    rw [hexChars_cons, readHex?, hexValue?_hexDigit hhigh, hexValue?_hexDigit hlow, ih]
    simp only [Option.bind_eq_bind, Option.bind_some, hbyte, UInt8.ofNat_toNat]
    rfl

lemma length_hexChars (bs : List UInt8) : (hexChars bs).length = 2 * bs.length := by
  induction bs with
  | nil => rfl
  | cons b bs ih =>
    rw [hexChars_cons, List.length_cons, List.length_cons, List.length_cons, ih]
    omega

lemma isSome_hexValue?_of_mem (h : c ∈ hexChars bs) : (hexValue? c).isSome = true := by
  simp only [hexChars, List.mem_flatMap, List.mem_cons, List.not_mem_nil, or_false] at h
  obtain ⟨b, -, rfl | rfl⟩ := h
  · rw [hexValue?_hexDigit (halves_lt b).1]
    rfl
  · rw [hexValue?_hexDigit (halves_lt b).2]
    rfl

lemma quote_not_mem_hexChars (bs : List UInt8) : '\'' ∉ hexChars bs := by
  intro h
  exact absurd (isSome_hexValue?_of_mem h) (by decide)

lemma toList_hexText (bs : List UInt8) : (hexText bs).toList = hexChars bs :=
  String.toList_ofList

lemma hexChars_append (bs cs : List UInt8) :
    hexChars (bs ++ cs) = hexChars bs ++ hexChars cs := List.flatMap_append

end BulkValues.Text
