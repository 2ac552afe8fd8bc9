/-
# Bytes of numbers read back

Bytes, the highest first, stand for a number in the positional system of base 256.  Writing keeps
the lowest bytes of a number, so that reading gives back what is left of it modulo a power of
256; of an integer in two's complement it gives back the integer if it lies in the range of its
width.
-/
import BulkValues.Number.BigEndian
import Mathlib.Data.List.Induction
import Mathlib.Tactic.Lemma
import Mathlib.Tactic.Ring

namespace BulkValues.Number.BigEndian

variable {width n : ℕ} {z : ℤ} {b : UInt8} {bytes rest : List UInt8}

@[simp] lemma decode_nil : decode [] = 0 := rfl

lemma decode_append_singleton (bytes : List UInt8) (b : UInt8) :
    decode (bytes ++ [b]) = 256 * decode bytes + b.toNat := by
  rw [decode, List.foldl_append]
  rfl

lemma decode_append (bytes rest : List UInt8) :
    decode (bytes ++ rest) = decode bytes * 256 ^ rest.length + decode rest := by
  induction rest using List.reverseRecOn with
  | nil => simp
  | append_singleton rest b ih =>
    rw [← List.append_assoc, decode_append_singleton, decode_append_singleton, ih,
      List.length_append, List.length_singleton]
    ring

/-- The first byte counts most. -/
lemma decode_cons (b : UInt8) (bytes : List UInt8) :
    decode (b :: bytes) = b.toNat * 256 ^ bytes.length + decode bytes := by
  have hfirst : decode [b] = b.toNat := by
    rw [decode, List.foldl_cons, List.foldl_nil, Nat.mul_zero, Nat.zero_add]
  rw [← List.singleton_append, decode_append, hfirst]

lemma decode_lt (bytes : List UInt8) : decode bytes < 256 ^ bytes.length := by
  induction bytes with
  | nil => exact Nat.one_pos
  | cons b bytes ih =>
    have hb : b.toNat + 1 ≤ 256 := b.toNat_lt
    calc decode (b :: bytes)
        = b.toNat * 256 ^ bytes.length + decode bytes := decode_cons b bytes
      _ < (b.toNat + 1) * 256 ^ bytes.length := by rw [Nat.add_one_mul]; omega
      _ ≤ 256 * 256 ^ bytes.length := Nat.mul_le_mul_right _ hb
      _ = 256 ^ (b :: bytes).length := by rw [List.length_cons, pow_succ']

/-- Reading gives back the lowest bytes. -/
lemma decode_encode (width n : ℕ) : decode (encode width n) = n % 256 ^ width := by
  induction width with
  | zero => rw [encode, decode_nil, pow_zero, Nat.mod_one]
  | succ width ih =>
    rw [encode, decode_cons, ih, length_encode, UInt8.toNat_ofNat', pow_succ 256 width,
      Nat.mod_mul (x := n), Nat.add_comm, Nat.mul_comm]

/-- Reading gives back an integer in the range of the width. -/
lemma decodeInt_encodeInt (hlow : -(256 ^ width : ℕ) ≤ 2 * z) (hhigh : 2 * z < (256 ^ width : ℕ)) :
    decodeInt (encodeInt width z) = z := by
  have hpos : 0 < 256 ^ width := Nat.pow_pos (by decide)
  have hcast : ((256 : ℤ) ^ width) = (256 ^ width : ℕ) := by push_cast; rfl
  have hdecode : decode (encodeInt width z) = (z % (256 ^ width : ℕ)).toNat := by
    rw [encodeInt, decode_encode, hcast, Nat.mod_eq_of_lt]
    omega
  rw [decodeInt, hdecode, length_encodeInt]
  generalize 256 ^ width = bound at *
  rcases le_or_gt 0 z with hz | hz
  · have hmod : z % bound = z := Int.emod_eq_of_lt hz (by omega)
    rw [hmod, if_pos (by omega)]
    omega
  · have hmod : z % bound = z + bound := by
      rw [← Int.add_emod_right, Int.emod_eq_of_lt (by omega) (by omega)]
    rw [hmod, if_neg (by omega)]
    omega

lemma decodeInt?_encodeInt (hlow : -(256 ^ width : ℕ) ≤ 2 * z)
    (hhigh : 2 * z < (256 ^ width : ℕ)) : decodeInt? width (encodeInt width z) = some z := by
  rw [decodeInt?, if_pos (length_encodeInt width z), decodeInt_encodeInt hlow hhigh]

/-- Only the lowest bytes of a number are written. -/
lemma encode_add_mul (width k n : ℕ) : encode width (n + 256 ^ width * k) = encode width n := by
  induction width generalizing k with
  | zero => rfl
  | succ width ih =>
    have hsplit : n + 256 ^ (width + 1) * k = n + 256 ^ width * (256 * k) := by ring
    have hfirst : UInt8.ofNat (n / 256 ^ width + 256 * k) = .ofNat (n / 256 ^ width) :=
      UInt8.toNat_inj.mp (by simp)
    rw [encode, encode, hsplit, ih, Nat.add_mul_div_left _ _ (Nat.pow_pos (by decide)), hfirst]

/-- Writing gives back the bytes that were read. -/
lemma encode_decode (bytes : List UInt8) : encode bytes.length (decode bytes) = bytes := by
  induction bytes with
  | nil => rfl
  | cons b bytes ih =>
    have hfirst : (decode bytes + 256 ^ bytes.length * b.toNat) / 256 ^ bytes.length = b.toNat := by
      rw [Nat.add_mul_div_left _ _ (Nat.pow_pos (by decide)), Nat.div_eq_of_lt (decode_lt bytes),
        Nat.zero_add]
    have hcons : decode (b :: bytes) = decode bytes + 256 ^ bytes.length * b.toNat := by
      rw [decode_cons]
      ring
    rw [hcons, List.length_cons, encode.eq_2, hfirst, encode_add_mul, ih, UInt8.ofNat_toNat]

lemma encodeInt_decodeInt (bytes : List UInt8) :
    encodeInt bytes.length (decodeInt bytes) = bytes := by
  have hlt := decode_lt bytes
  have hcast : ((256 : ℤ) ^ bytes.length) = (256 ^ bytes.length : ℕ) := by push_cast; rfl
  have hmod : (decodeInt bytes % (256 ^ bytes.length : ℕ)).toNat = decode bytes := by
    rw [decodeInt]
    generalize 256 ^ bytes.length = bound at *
    split
    · rw [Int.emod_eq_of_lt (by omega) (by omega)]
      rfl
    · rw [Int.sub_emod, Int.emod_self, Int.sub_zero, Int.emod_emod_of_dvd _ (dvd_refl _),
        Int.emod_eq_of_lt (by omega) (by omega)]
      rfl
  rw [encodeInt, hcast, hmod, encode_decode]

lemma decodeInt_range (bytes : List UInt8) :
    -(256 ^ bytes.length : ℕ) ≤ 2 * decodeInt bytes ∧
      2 * decodeInt bytes < (256 ^ bytes.length : ℕ) := by
  have hlt := decode_lt bytes
  rw [decodeInt]
  generalize 256 ^ bytes.length = bound at *
  split
  · omega
  · omega

/-! ## Numbers in front of other bytes -/

lemma takeInt?_append (h : bytes.length = width) (rest : List UInt8) :
    takeInt? width (bytes ++ rest) = some (decodeInt bytes, rest) := by
  rw [takeInt?, if_pos (by simp [h]), List.take_left' h, List.drop_left' h]

lemma takeInt?_encodeInt (hlow : -(256 ^ width : ℕ) ≤ 2 * z) (hhigh : 2 * z < (256 ^ width : ℕ))
    (rest : List UInt8) : takeInt? width (encodeInt width z ++ rest) = some (z, rest) := by
  rw [takeInt?_append (length_encodeInt width z), decodeInt_encodeInt hlow hhigh]

/-- What is taken stands in front, and it is in the range of its width. -/
lemma takeInt?_eq_some (h : takeInt? width bytes = some (z, rest)) :
    bytes = encodeInt width z ++ rest ∧
      -(256 ^ width : ℕ) ≤ 2 * z ∧ 2 * z < (256 ^ width : ℕ) := by
  rw [takeInt?] at h
  split at h
  · rename_i hwidth
    cases h
    have hlength : (bytes.take width).length = width := List.length_take_of_le hwidth
    have hrange := decodeInt_range (bytes.take width)
    have hback := encodeInt_decodeInt (bytes.take width)
    rw [hlength] at hrange hback
    rw [hback, List.take_append_drop]
    exact ⟨rfl, hrange⟩
  · cases h

end BulkValues.Number.BigEndian
