/-
# Runs in numbers of fixed width

A run may end in three ways: with a result, with a report, or by breaking off in the middle.  It
breaks off where a result does not fit its width, where a byte or a piece of the bytes is not there,
and where a text would be longer than a text can be or would be cut inside a character.

Each step is what it is without widths as long as its numbers and texts are small.  Addresses have
at least 32 bits here, so that lengths below a million are.
-/
import BulkValues.Proofs.Number.Digits
import BulkValues.Proofs.Number.Exact
import BulkValues.Proofs.Text.Utf8

namespace BulkValues.Number.Checked

open BulkValues.Text

/-! ## Steps -/

/-- Why a run breaks off. -/
inductive Fault where
  /-- A byte or a piece of the bytes is not there. -/
  | outOfBounds
  /-- A result does not fit its width. -/
  | overflow
  /-- A text would be longer than a text can be. -/
  | tooLong
  /-- A text would be cut inside a character. -/
  | tornCharacter
deriving DecidableEq, Repr

/-- How a run ends without a result. -/
inductive Stop (ε : Type) where
  /-- With a report to the caller. -/
  | report (e : ε)
  /-- It breaks off. -/
  | fault (f : Fault)
deriving DecidableEq, Repr

/-- A run, or a step of one. -/
abbrev Run (ε α : Type) := Except (Stop ε) α

variable {ε α : Type} {bits width n : ℕ}

/-- A step that breaks off in a bad case. -/
def guarded (bad : Bool) (f : Fault) (a : α) : Run ε α :=
  if bad then .error (.fault f) else .ok a

def add (x y : BitVec width) : Run ε (BitVec width) :=
  guarded (x.uaddOverflow y) .overflow (x + y)

def mul (x y : BitVec width) : Run ε (BitVec width) :=
  guarded (x.umulOverflow y) .overflow (x * y)

def sub (x y : BitVec width) : Run ε (BitVec width) :=
  guarded (x.usubOverflow y) .overflow (x - y)

/-- The opposite of a signed number. -/
def neg (x : BitVec width) : Run ε (BitVec width) :=
  guarded x.negOverflow .overflow (-x)

/-- The difference of signed numbers. -/
def subSigned (x y : BitVec width) : Run ε (BitVec width) :=
  guarded (x.ssubOverflow y) .overflow (x - y)

def byteAt (bytes : List UInt8) (i : ℕ) : Run ε UInt8 :=
  match bytes[i]? with
  | some b => .ok b
  | none => .error (.fault .outOfBounds)

/-- The bytes from a place up to another. -/
def slice (bytes : List UInt8) (start stop : ℕ) : Run ε (List UInt8) :=
  guarded (stop < start || bytes.length < stop) .outOfBounds
    ((bytes.drop start).take (stop - start))

/-- The most bytes that a text can have. -/
def largest (bits : ℕ) : ℕ := 2 ^ (bits - 1) - 1

/-- The bytes of a text. -/
def size (text : List Char) : ℕ := (String.ofList text).utf8ByteSize

/-- Text behind other text. -/
def push (bits : ℕ) (text more : List Char) : Run ε (List Char) :=
  guarded (largest bits < size text + size more) .tooLong (text ++ more)

/-- A text several times. -/
def repeated (text : List Char) (n : BitVec bits) : Run ε (List Char) := do
  let total ← mul (.ofNat bits (size text)) n
  guarded (largest bits < total.toNat) .tooLong (List.replicate n.toNat text).flatten

/-- The first bytes of a text. -/
def cut : ℕ → List Char → Run ε (List Char)
  | 0, _ => pure []
  | _ + 1, [] => pure []
  | n + 1, c :: cs =>
    if c.utf8Size ≤ n + 1 then do
      let rest ← cut (n + 1 - c.utf8Size) cs
      pure (c :: rest)
    else .error (.fault .tornCharacter)

/-! ## Steps that fit -/

variable {x y : BitVec width}

lemma guarded_eq {bad : Bool} {f : Fault} {a : α} (h : bad = false) :
    (guarded bad f a : Run ε α) = .ok a := by
  rw [guarded, h, if_neg Bool.false_ne_true]

lemma exists_add (h : x.toNat + y.toNat < 2 ^ width) :
    ∃ z, (add x y : Run ε _) = .ok z ∧ z.toNat = x.toNat + y.toNat :=
  ⟨x + y, guarded_eq (decide_eq_false (not_le.mpr h)), BitVec.toNat_add_of_lt h⟩

lemma exists_mul (h : x.toNat * y.toNat < 2 ^ width) :
    ∃ z, (mul x y : Run ε _) = .ok z ∧ z.toNat = x.toNat * y.toNat :=
  ⟨x * y, guarded_eq (decide_eq_false (not_le.mpr h)), BitVec.toNat_mul_of_lt h⟩

lemma exists_sub (h : y.toNat ≤ x.toNat) :
    ∃ z, (sub x y : Run ε _) = .ok z ∧ z.toNat = x.toNat - y.toNat :=
  ⟨x - y, guarded_eq (decide_eq_false (not_lt.mpr h)), BitVec.toNat_sub_of_le h⟩

lemma exists_neg (h : x.toInt ≠ -2 ^ (width - 1)) :
    ∃ z, (neg x : Run ε _) = .ok z ∧ z.toInt = -x.toInt := by
  have hfits : x.negOverflow = false := beq_eq_false_iff_ne.mpr h
  exact ⟨-x, guarded_eq hfits, BitVec.toInt_neg_of_not_negOverflow (by simp [hfits])⟩

/-- The least number has no opposite. -/
lemma neg_least (h : x.toInt = -2 ^ (width - 1)) :
    (neg x : Run ε _) = .error (.fault .overflow) := by
  have hover : x.negOverflow = true := beq_iff_eq.mpr h
  rw [neg, guarded, hover, if_pos rfl]

lemma exists_subSigned (hlow : -2 ^ (width - 1) ≤ x.toInt - y.toInt)
    (hhigh : x.toInt - y.toInt < 2 ^ (width - 1)) :
    ∃ z, (subSigned x y : Run ε _) = .ok z ∧ z.toInt = x.toInt - y.toInt := by
  have hfits : x.ssubOverflow y = false := by
    rw [BitVec.ssubOverflow, Bool.or_eq_false_iff]
    exact ⟨decide_eq_false (not_le.mpr hhigh), decide_eq_false (not_lt.mpr hlow)⟩
  exact ⟨x - y, guarded_eq hfits, BitVec.toInt_sub_of_not_ssubOverflow (by simp [hfits])⟩

lemma lt_two_pow (hbits : 32 ≤ bits) (h : n < 2 ^ 32) : n < 2 ^ bits :=
  h.trans_le (Nat.pow_le_pow_right (by decide) hbits)

lemma toNat_ofNat (hbits : 32 ≤ bits) (h : n < 2 ^ 32) : (BitVec.ofNat bits n).toNat = n := by
  rw [BitVec.toNat_ofNat, Nat.mod_eq_of_lt (lt_two_pow hbits h)]

/-- A number that is not negative is the same number in more bits. -/
lemma toNat_signExtend (hbits : width ≤ bits) (h : 0 ≤ x.toInt) :
    (x.signExtend bits).toNat = x.toInt.toNat := by
  have hsame : (x.signExtend bits).toInt = x.toInt := BitVec.toInt_signExtend_of_le hbits
  have hlt := (x.signExtend bits).isLt
  have hcond := BitVec.toInt_eq_toNat_cond (x.signExtend bits)
  split at hcond
  · omega
  · omega

/-! ## Texts that fit -/

variable {text more digits : List Char}

/-- Every character of a text is a byte. -/
def IsAscii (text : List Char) : Prop := ∀ c ∈ text, c.toNat < 128

lemma isAscii_of_digits (h : ∀ c ∈ digits, isAsciiDigit c = true) : IsAscii digits := by
  intro c hc
  have hdigit := toNat_of_isAsciiDigit (h c hc)
  omega

lemma isAscii_zeros (n : ℕ) : IsAscii (List.replicate n '0') :=
  isAscii_of_digits fun _ => isAsciiDigit_of_mem_replicate

lemma IsAscii.append (ht : IsAscii text) (hm : IsAscii more) : IsAscii (text ++ more) :=
  List.forall_mem_append.mpr ⟨ht, hm⟩

lemma IsAscii.size_eq (h : IsAscii text) : size text = text.length := by
  rw [size, ← length_toUTF8_toList, toUTF8_toList_of_ascii (by rwa [String.toList_ofList]),
    List.length_map, String.toList_ofList]

/-- Texts of a million bytes are not too long. -/
lemma lt_largest (hbits : 32 ≤ bits) (h : n < 2 ^ 20) : n < largest bits := by
  have hpow : 2 ^ 31 ≤ 2 ^ (bits - 1) := Nat.pow_le_pow_right (by decide) (by omega)
  rw [largest]
  omega

lemma push_eq (hbits : 32 ≤ bits) (ht : IsAscii text) (hm : IsAscii more)
    (h : text.length + more.length < 2 ^ 20) :
    (push bits text more : Run ε _) = .ok (text ++ more) := by
  have hlt := lt_largest hbits h
  refine guarded_eq (decide_eq_false (not_lt.mpr ?_))
  rw [ht.size_eq, hm.size_eq]
  exact hlt.le

/-- A loop that puts one text after the other behind what there is. -/
lemma foldlM_push {β : Type} (hbits : 32 ≤ bits) {f : β → List Char} (hf : ∀ b, IsAscii (f b))
    (bs : List β) (ht : IsAscii text) (h : text.length + (bs.flatMap f).length < 2 ^ 20) :
    bs.foldlM (fun text b => push bits text (f b)) text =
      (.ok (text ++ bs.flatMap f) : Run ε _) := by
  induction bs generalizing text with
  | nil => simp [pure, Except.pure]
  | cons b bs ih =>
    rw [List.flatMap_cons, List.length_append] at h
    rw [List.foldlM_cons, push_eq hbits ht (hf b) (by omega)]
    refine (ih (ht.append (hf b)) (by rw [List.length_append]; omega)).trans ?_
    rw [List.flatMap_cons, List.append_assoc]

lemma repeated_eq (hbits : 32 ≤ bits) {times : BitVec bits} (ht : IsAscii text)
    (h : text.length * times.toNat < 2 ^ 20) (hlength : text.length < 2 ^ 20) :
    (repeated text times : Run ε _) = .ok (List.replicate times.toNat text).flatten := by
  have hsize : (BitVec.ofNat bits (size text)).toNat = text.length := by
    rw [ht.size_eq, toNat_ofNat hbits (by omega)]
  obtain ⟨total, htotal, hvalue⟩ := exists_mul (x := BitVec.ofNat bits (size text)) (y := times)
    (by rw [hsize]; exact lt_two_pow hbits (by omega))
  rw [hsize] at hvalue
  have hlt := lt_largest hbits h
  rw [repeated, htotal]
  refine guarded_eq (decide_eq_false ?_)
  omega

/-- Zeros several times are zeros. -/
lemma repeated_zeros (hbits : 32 ≤ bits) {times : BitVec bits} (hn : n < 2 ^ 20)
    (h : n * times.toNat < 2 ^ 20) :
    (repeated (List.replicate n '0') times : Run ε _) =
      .ok (List.replicate (n * times.toNat) '0') := by
  rw [repeated_eq hbits (isAscii_zeros n) (by rwa [List.length_replicate])
    (by rwa [List.length_replicate]), List.flatten_replicate_replicate, Nat.mul_comm]

lemma cut_eq (ht : IsAscii text) (n : ℕ) : (cut n text : Run ε _) = .ok (text.take n) := by
  induction text generalizing n with
  | nil => cases n <;> rfl
  | cons c text ih =>
    cases n with
    | zero => rfl
    | succ n =>
      have hsize : c.utf8Size = 1 := by
        have hc := ht c (List.mem_cons_self ..)
        have hone : size [c] = 1 := IsAscii.size_eq (by simpa [IsAscii] using hc)
        rw [size] at hone
        simpa using hone
      rw [cut, hsize, if_pos (by omega), Nat.add_sub_cancel,
        ih (fun d hd => ht d (List.mem_cons_of_mem _ hd))]
      rfl

end BulkValues.Number.Checked
