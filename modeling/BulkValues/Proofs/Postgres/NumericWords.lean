/-
# Exact numbers read in words

The reading of `Numeric.readText` step by step, in numbers of fixed width: the fields of a header
have sixteen bits, and lengths and places have the bits of an address.

Only one step ever breaks off: the least weight has no opposite of sixteen bits.  It is taken for
groups that are all behind the point, after everything else in the header has been found in order.
-/
import BulkValues.Proofs.Except
import BulkValues.Proofs.Number.Checked
import BulkValues.Proofs.Postgres.NumericScale

namespace BulkValues.Postgres.Numeric.Words

open BulkValues.Number BulkValues.Number.Checked

/-! ## The run -/

/-- A run that may report what is wrong with a payload. -/
abbrev Reading (α : Type) := Run NumericError α

/-- Two bytes as a word. -/
def word (bytes : List UInt8) (i : ℕ) : Reading (BitVec 16) := do
  let high ← byteAt bytes i
  let low ← byteAt bytes (i + 1)
  pure (.ofNat 16 (BigEndian.decode [high, low]))

/-- The place behind the groups. -/
def groupsEnd (bits : ℕ) (count : BitVec 16) : Reading (BitVec bits) := do
  let length ← mul (count.signExtend bits) (.ofNat bits 2)
  add (.ofNat bits 8) length

/-- Bytes in twos, without a byte that is left over. -/
def twos : List UInt8 → List (List UInt8)
  | a :: b :: rest => [a, b] :: twos rest
  | _ => []

def readGroups (bits : ℕ) (raw : List UInt8) (count : BitVec 16) : Reading (List ℕ) := do
  let stop ← groupsEnd bits count
  let bytes ← slice raw 8 stop.toNat
  (twos bytes).mapM fun pair => do
    let group ← word pair 0
    pure group.toNat

/-- How many groups stand before the point. -/
def wholeCount (bits : ℕ) (weight : BitVec 16) : Reading (BitVec bits) :=
  if 0 ≤ weight.toInt then add (weight.signExtend bits) (.ofNat bits 1)
  else pure (.ofNat bits 0)

/-- The digits of a group before the point. -/
def wholeGroup (groups : List ℕ) (i : ℕ) : List Char :=
  if i = 0 then Nat.toDigits 10 (groups.getD i 0) else fourDigits (groups.getD i 0)

/-- The zero before the point where no group is. -/
def writeZero {bits : ℕ} (count : BitVec bits) : Reading (List Char) :=
  if count.toNat = 0 then push bits [] ['0'] else pure []

def writeWhole {bits : ℕ} (count : BitVec bits) (groups : List ℕ) : Reading (List Char) := do
  let start ← writeZero count
  (List.range count.toNat).foldlM (fun text i => push bits text (wholeGroup groups i)) start

/-- Zeros for the groups that are skipped. -/
def writeSkipped (bits : ℕ) (weight : BitVec 16) : Reading (List Char) :=
  if weight.toInt < -1 then do
    let opposite ← neg weight
    let skipped ← subSigned opposite 1#16
    let zeros ← repeated ['0', '0', '0', '0'] (skipped.signExtend bits)
    push bits [] zeros
  else pure []

/-- Digits brought to the scale. -/
def scaled {bits : ℕ} (scale : BitVec bits) (digits : List Char) : Reading (List Char) :=
  if size digits < scale.toNat then do
    let missing ← sub scale (.ofNat bits (size digits))
    let zeros ← repeated ['0'] missing
    push bits digits zeros
  else cut scale.toNat digits

def writeFraction {bits : ℕ} (weight scale : BitVec 16) (count : BitVec bits) (groups : List ℕ) :
    Reading (List Char) := do
  let start ← writeSkipped bits weight
  let digits ← (groups.drop (min count.toNat groups.length)).foldlM
    (fun text g => push bits text (fourDigits g)) start
  scaled (scale.signExtend bits) digits

def writeSign (bits : ℕ) (negative : Bool) : Reading (List Char) :=
  if negative then push bits [] ['-'] else pure []

/-- The point and the digits behind it, if there are any. -/
def writePlaces (bits : ℕ) (text fraction : List Char) : Reading (List Char) :=
  if fraction = [] then pure text
  else do
    let text ← push bits text ['.']
    push bits text fraction

def writeFinite (bits : ℕ) (negative : Bool) (weight scale : BitVec 16) (groups : List ℕ) :
    Reading (List Char) := do
  let count ← wholeCount bits weight
  let whole ← writeWhole count groups
  let fraction ← writeFraction weight scale count groups
  let start ← writeSign bits negative
  let text ← push bits start whole
  writePlaces bits text fraction

/-- The text of groups, if each has four digits at most. -/
def writeGroups (bits : ℕ) (negative : Bool) (weight scale : BitVec 16) (groups : List ℕ) :
    Reading (List Char) :=
  if groups.any (9999 < ·) then .error (.report .groupOutOfRange)
  else if groups = [] then pure ['0']
  else writeFinite bits negative weight scale groups

/-- The text of a number by its sign. -/
def readSigned (bits : ℕ) (raw : List UInt8) (count weight sign scale : BitVec 16) :
    Reading (List Char) :=
  if sign = 0xC000#16 then pure "NaN".toList
  else if sign = 0xD000#16 then pure "Infinity".toList
  else if sign = 0xF000#16 then pure "-Infinity".toList
  else if sign = 0x0000#16 ∨ sign = 0x4000#16 then do
    let groups ← readGroups bits raw count
    writeGroups bits (sign = 0x4000#16) weight scale groups
  else .error (.report (.unknownSign sign.toNat))

/-- The text of a payload's number. -/
def readText (bits : ℕ) (raw : List UInt8) : Reading (List Char) :=
  if raw.length < 8 then .error (.report .tooShort)
  else do
    let count ← word raw 0
    let weight ← word raw 2
    let sign ← word raw 4
    let scale ← word raw 6
    if count.toInt < 0 ∨ scale.toInt < 0 then .error (.report .negativeSize)
    else do
      let stop ← groupsEnd bits count
      if raw.length < stop.toNat then .error (.report .truncated)
      else readSigned bits raw count weight sign scale

/-- How a run ends that reads what `Numeric.readText` reads. -/
def outcome : Except NumericError String → Reading (List Char)
  | .ok text => .ok text.toList
  | .error .weightOutOfRange => .error (.fault .overflow)
  | .error e => .error (.report e)

/-! ## Reading words -/

variable {bits i : ℕ} {bytes raw : List UInt8} {groups : List ℕ} {weight scale count : BitVec 16}

/-- A word of the bytes is the field at its place, as a natural number and as an integer. -/
lemma exists_word (bytes : List UInt8) (i : ℕ) (h : i + 2 ≤ bytes.length) :
    ∃ w, word bytes i = .ok w ∧ w.toNat = BigEndian.decode (field i bytes) ∧
      w.toInt = BigEndian.decodeInt (field i bytes) := by
  have hfirst : i < bytes.length := by omega
  have hsecond : i + 1 < bytes.length := by omega
  have hfield : field i bytes = [bytes[i], bytes[i + 1]] := by
    rw [field, List.drop_eq_getElem_cons hfirst, List.drop_eq_getElem_cons hsecond]
    rfl
  have hread : word bytes i = .ok (.ofNat 16 (BigEndian.decode (field i bytes))) := by
    rw [word, byteAt, byteAt, List.getElem?_eq_getElem hfirst, List.getElem?_eq_getElem hsecond,
      hfield]
    rfl
  have hlength : (field i bytes).length = 2 := by rw [hfield]; rfl
  have hvalue : (BitVec.ofNat 16 (BigEndian.decode (field i bytes))).toNat =
      BigEndian.decode (field i bytes) := by
    have hlt := BigEndian.decode_lt (field i bytes)
    rw [hlength] at hlt
    rw [BitVec.toNat_ofNat]
    exact Nat.mod_eq_of_lt hlt
  refine ⟨_, hread, hvalue, ?_⟩
  rw [BitVec.toInt_eq_toNat_cond, hvalue, BigEndian.decodeInt, hlength]

/-- A field that is not negative is the same number in the bits of an address. -/
lemma toNat_field (hbits : 32 ≤ bits) (h : 0 ≤ count.toInt) :
    (count.signExtend bits).toNat = count.toInt.toNat :=
  toNat_signExtend (by omega) h

lemma exists_groupsEnd (hbits : 32 ≤ bits) (h : 0 ≤ count.toInt) :
    ∃ stop, groupsEnd bits count = .ok stop ∧ stop.toNat = 8 + 2 * count.toInt.toNat := by
  have hcount := toNat_field hbits h
  have hlt := BitVec.toInt_lt (x := count)
  have htwo : (BitVec.ofNat bits 2).toNat = 2 := toNat_ofNat hbits (by decide)
  have height : (BitVec.ofNat bits 8).toNat = 8 := toNat_ofNat hbits (by decide)
  obtain ⟨length, hlength, hvalue⟩ := exists_mul (x := count.signExtend bits) (y := .ofNat bits 2)
    (by rw [hcount, htwo]; exact lt_two_pow hbits (by omega))
  obtain ⟨stop, hstop, hend⟩ := exists_add (x := .ofNat bits 8) (y := length)
    (by rw [height, hvalue, hcount, htwo]; exact lt_two_pow hbits (by omega))
  refine ⟨stop, ?_, ?_⟩
  · rw [groupsEnd, bind_of_eq_ok hlength, hstop]
  · rw [hend, height, hvalue, hcount, htwo, Nat.mul_comm]

/-- The words of bytes taken in twos. -/
lemma mapM_twos (bytes : List UInt8) (n : ℕ) :
    (twos (bytes.take (2 * n))).mapM (fun pair => do
      let group ← word pair 0
      pure group.toNat) = (.ok (pairs n bytes) : Reading (List ℕ)) := by
  induction n generalizing bytes with
  | zero => rfl
  | succ n ih =>
    match bytes with
    | [] => rfl
    | [b] => rfl
    | a :: b :: bytes =>
      obtain ⟨group, hgroup, hvalue, -⟩ := exists_word [a, b] 0 (by simp)
      rw [Nat.mul_succ, List.take_succ_cons, List.take_succ_cons, twos, List.mapM_cons, ih, hgroup]
      exact congrArg (fun g => Except.ok (g :: pairs n bytes)) hvalue

lemma readGroups_eq (hbits : 32 ≤ bits) (h : 0 ≤ count.toInt)
    (hlength : 8 + 2 * count.toInt.toNat ≤ raw.length) :
    readGroups bits raw count = .ok (pairs count.toInt.toNat (raw.drop 8)) := by
  obtain ⟨stop, hstop, hend⟩ := exists_groupsEnd hbits h
  have hslice : slice raw 8 stop.toNat =
        (.ok ((raw.drop 8).take (2 * count.toInt.toNat)) : Reading _) := by
    rw [hend, slice, Nat.add_sub_cancel_left]
    refine guarded_eq ?_
    rw [Bool.or_eq_false_iff]
    exact ⟨decide_eq_false (by omega), decide_eq_false (by omega)⟩
  rw [readGroups, bind_of_eq_ok hstop, bind_of_eq_ok hslice, mapM_twos]

/-! ## Writing -/

/-- Groups as they come from a payload. -/
structure Fit (groups : List ℕ) : Prop where
  few : groups.length < 2 ^ 15
  small : ∀ g ∈ groups, g ≤ 9999

lemma isAscii_wholeGroup (groups : List ℕ) (i : ℕ) : IsAscii (wholeGroup groups i) := by
  refine isAscii_of_digits fun c hc => ?_
  rw [wholeGroup] at hc
  split at hc
  · exact isAsciiDigit_of_mem_toDigits hc
  · exact isAsciiDigit_of_mem_fourDigits hc

/-- The number of groups before the point fits. -/
lemma exists_wholeCount (hbits : 32 ≤ bits) (weight : BitVec 16) :
    ∃ count, wholeCount bits weight = .ok count ∧ count.toNat = wholeGroups weight.toInt := by
  have hlt := BitVec.toInt_lt (x := weight)
  rw [wholeCount, wholeGroups]
  split
  · rename_i hweight
    have hwide := toNat_field hbits hweight
    have hone : (BitVec.ofNat bits 1).toNat = 1 := toNat_ofNat hbits (by decide)
    obtain ⟨count, hcount, hvalue⟩ := exists_add (x := weight.signExtend bits) (y := .ofNat bits 1)
      (by rw [hwide, hone]; exact lt_two_pow hbits (by omega))
    exact ⟨count, hcount, by omega⟩
  · exact ⟨.ofNat bits 0, rfl, by rw [BitVec.toNat_ofNat, Nat.zero_mod]; omega⟩

lemma wholeGroups_le (weight : BitVec 16) : wholeGroups weight.toInt ≤ 2 ^ 15 := by
  have hlt := BitVec.toInt_lt (x := weight)
  rw [wholeGroups]
  omega

lemma length_wholeDigits_lt (h : Fit groups) (weight : BitVec 16) :
    (wholeDigits weight.toInt groups).length < 2 ^ 18 := by
  have hle := wholeGroups_le weight
  have hfirst : (Nat.toDigits 10 (groups.headD 0)).length ≤ 4 := by
    rw [Nat.length_toDigits_le_iff (by decide) (by decide)]
    cases groups with
    | nil => exact Nat.pow_pos (by decide)
    | cons g gs => exact Nat.lt_of_le_of_lt (h.small g (List.mem_cons_self ..)) (by decide)
  rw [wholeDigits]
  split
  · simp
  · rename_i n hn
    rw [List.length_append, ← List.flatMap_map (fun i => groups.getD (i + 1) 0) fourDigits,
      length_groupDigits, List.length_map, List.length_range]
    omega

/-- The digits that the loop over the groups before the point writes. -/
lemma flatMap_wholeGroup (weight : ℤ) (groups : List ℕ) :
    (if wholeGroups weight = 0 then ['0'] else []) ++
        (List.range (wholeGroups weight)).flatMap (wholeGroup groups) =
      wholeDigits weight groups := by
  rw [wholeDigits]
  cases wholeGroups weight with
  | zero => rfl
  | succ n =>
    rw [if_neg (Nat.succ_ne_zero n), List.nil_append, List.range_succ_eq_map, List.flatMap_cons,
      List.flatMap_map, wholeGroup, if_pos rfl, List.headD_eq_getD]
    rfl

lemma writeWhole_eq (hbits : 32 ≤ bits) (h : Fit groups) {count : BitVec bits}
    (hcount : count.toNat = wholeGroups weight.toInt) :
    writeWhole count groups = .ok (wholeDigits weight.toInt groups) := by
  have hstart : writeZero count = .ok (if wholeGroups weight.toInt = 0 then ['0'] else []) := by
    rw [writeZero, hcount]
    split
    · exact push_eq hbits nofun (isAscii_of_digits isDigits_zero.2) (by simp)
    · rfl
  have hdigits := flatMap_wholeGroup weight.toInt groups
  have hlength := length_wholeDigits_lt h weight
  rw [← hdigits, List.length_append] at hlength
  rw [writeWhole, bind_of_eq_ok hstart, hcount, ← hdigits]
  refine foldlM_push hbits (isAscii_wholeGroup groups) _ ?_ (by omega)
  split
  · exact isAscii_of_digits isDigits_zero.2
  · exact nofun

/-- The least weight breaks the run off. -/
lemma writeSkipped_least (bits : ℕ) (h : weight.toInt = leastWeight) :
    writeSkipped bits weight = .error (.fault .overflow) := by
  rw [writeSkipped, if_pos (by rw [h]; decide), neg_least h]
  rfl

lemma writeSkipped_eq (hbits : 32 ≤ bits) (h : weight.toInt ≠ leastWeight) :
    writeSkipped bits weight = .ok (List.replicate (4 * (-weight.toInt - 1).toNat) '0') := by
  have hle := BitVec.le_toInt (x := weight)
  rw [writeSkipped]
  split
  · rename_i hweight
    have hone : (1#16).toInt = 1 := rfl
    have hleast : leastWeight = -2 ^ (16 - 1) := rfl
    obtain ⟨opposite, hneg, hopposite⟩ := exists_neg (x := weight) h
    obtain ⟨skipped, hsub, hskipped⟩ := exists_subSigned (x := opposite) (y := 1#16)
      (by omega) (by omega)
    have hpos : 0 ≤ skipped.toInt := by omega
    have hwide := toNat_field hbits hpos
    have htimes : (skipped.signExtend bits).toNat = (-weight.toInt - 1).toNat := by
      rw [hwide, hskipped, hopposite, hone]
    have hzeros : (repeated ['0', '0', '0', '0'] (skipped.signExtend bits) : Reading _) =
        .ok (List.replicate (4 * (-weight.toInt - 1).toNat) '0') := by
      rw [← htimes]
      exact repeated_zeros (n := 4) hbits (by decide) (by rw [htimes]; omega)
    rw [bind_of_eq_ok hneg, bind_of_eq_ok hsub, bind_of_eq_ok hzeros]
    exact push_eq hbits nofun (isAscii_zeros _)
      (by rw [List.length_replicate, List.length_nil]; omega)
  · have hnone : (-weight.toInt - 1).toNat = 0 := by omega
    rw [hnone]
    rfl

lemma scaled_eq (hbits : 32 ≤ bits) {scale : BitVec bits} (hscale : scale.toNat < 2 ^ 15)
    (hdigits : IsAscii digits) (hlength : digits.length < 2 ^ 19) :
    scaled scale digits =
      .ok ((digits ++ List.replicate scale.toNat '0').take scale.toNat) := by
  rw [scaled, hdigits.size_eq]
  split
  · rename_i hshort
    have hsize : (BitVec.ofNat bits digits.length).toNat = digits.length :=
      toNat_ofNat hbits (by omega)
    obtain ⟨missing, hsub, hmissing⟩ := exists_sub (x := scale) (y := .ofNat bits digits.length)
      (by rw [hsize]; exact hshort.le)
    rw [hsize] at hmissing
    have hzeros : (repeated ['0'] missing : Reading _) =
        .ok (List.replicate (scale.toNat - digits.length) '0') := by
      rw [← hmissing, ← Nat.one_mul missing.toNat]
      exact repeated_zeros (n := 1) hbits (by decide) (by omega)
    rw [bind_of_eq_ok hsub, bind_of_eq_ok hzeros, List.take_append,
      List.take_of_length_le hshort.le, List.take_replicate, min_eq_left (Nat.sub_le ..)]
    exact push_eq hbits hdigits (isAscii_zeros _) (by rw [List.length_replicate]; omega)
  · rename_i hlong
    rw [List.take_append_of_le_length (Nat.le_of_not_lt hlong)]
    exact cut_eq hdigits _

lemma length_sentFraction_lt (h : Fit groups) (weight : BitVec 16) :
    (sentFraction weight.toInt groups).length < 2 ^ 19 := by
  have hle := BitVec.le_toInt (x := weight)
  have hfew := h.few
  rw [sentFraction, List.length_append, List.length_replicate, length_groupDigits,
    List.length_drop]
  omega

lemma writeFraction_eq (hbits : 32 ≤ bits) (h : Fit groups) (hscale : 0 ≤ scale.toInt)
    (hweight : weight.toInt ≠ leastWeight) {count : BitVec bits}
    (hcount : count.toNat = wholeGroups weight.toInt) :
    writeFraction weight scale count groups =
      .ok (fractionDigits weight.toInt scale.toInt.toNat groups) := by
  have hlength := length_sentFraction_lt h weight
  have hlt := BitVec.toInt_lt (x := scale)
  have hwide := toNat_field hbits hscale
  have hgroup : ∀ g, IsAscii (fourDigits g) :=
    fun g => isAscii_of_digits fun _ => isAsciiDigit_of_mem_fourDigits
  have hsent : (groups.drop (wholeGroups weight.toInt)).foldlM
      (fun text g => push bits text (fourDigits g))
      (List.replicate (4 * (-weight.toInt - 1).toNat) '0') =
        (.ok (sentFraction weight.toInt groups) : Reading _) := by
    refine foldlM_push hbits hgroup _ (isAscii_zeros _) ?_
    rw [sentFraction, List.length_append] at hlength
    omega
  rw [writeFraction, bind_of_eq_ok (writeSkipped_eq hbits hweight), hcount,
    ← List.drop_eq_drop_min, bind_of_eq_ok hsent]
  refine (scaled_eq hbits (by rw [hwide]; omega)
    (isAscii_of_digits fun _ => isAsciiDigit_of_mem_sentFraction) hlength).trans ?_
  rw [hwide, fractionDigits]

/-- The sign, the digits before the point, the point and the digits behind it, one after the
other. -/
lemma writeSign_bind (hbits : 32 ≤ bits) (negative : Bool) {whole fraction : List Char}
    (hwhole : IsAscii whole) (hfraction : IsAscii fraction) (hlong : whole.length < 2 ^ 18)
    (hshort : fraction.length < 2 ^ 15) :
    (do
      let start ← writeSign bits negative
      let text ← push bits start whole
      writePlaces bits text fraction) = .ok (signed negative (pointed whole fraction)) := by
  have hminus : IsAscii (if negative then ['-'] else []) := by
    cases negative with
    | true => exact List.forall_mem_singleton.mpr (by decide)
    | false => exact nofun
  have hlength : (if negative then ['-'] else []).length ≤ 1 := by
    cases negative <;> simp
  have hsign : writeSign bits negative = .ok (if negative then ['-'] else []) := by
    cases negative with
    | true => exact push_eq hbits nofun hminus (by simp)
    | false => rfl
  rw [bind_of_eq_ok hsign, bind_of_eq_ok (push_eq hbits hminus hwhole (by omega)), writePlaces,
    signed, pointed]
  split
  · rw [List.append_nil]
    rfl
  · have hpoint : IsAscii ['.'] := List.forall_mem_singleton.mpr (by decide)
    rw [bind_of_eq_ok (push_eq hbits (hminus.append hwhole) hpoint
      (by rw [List.length_append, List.length_singleton]; omega))]
    refine (push_eq hbits ((hminus.append hwhole).append hpoint) hfraction ?_).trans ?_
    · rw [List.length_append, List.length_append, List.length_singleton]
      omega
    · rw [List.append_assoc, List.append_assoc, List.singleton_append]

lemma writeFinite_eq (hbits : 32 ≤ bits) (h : Fit groups) (hne : groups ≠ [])
    (hscale : 0 ≤ scale.toInt) (negative : Bool) :
    writeFinite bits negative weight scale groups =
      if weight.toInt = leastWeight then .error (.fault .overflow)
      else .ok (finiteText negative weight.toInt scale.toInt.toNat groups) := by
  obtain ⟨count, hcount, hvalue⟩ := exists_wholeCount hbits weight
  have hlt := BitVec.toInt_lt (x := scale)
  rw [writeFinite, bind_of_eq_ok hcount, bind_of_eq_ok (writeWhole_eq hbits h hvalue)]
  by_cases hleast : weight.toInt = leastWeight
  · rw [if_pos hleast, writeFraction, writeSkipped_least bits hleast]
    rfl
  · rw [if_neg hleast, bind_of_eq_ok (writeFraction_eq hbits h hscale hleast hvalue),
      finiteText_of_ne_nil hne]
    exact writeSign_bind hbits negative (isAscii_of_digits (isDigits_wholeDigits _ _).2)
      (isAscii_of_digits fun _ => isAsciiDigit_of_mem_fractionDigits)
      (length_wholeDigits_lt h weight) (by rw [length_fractionDigits]; omega)

lemma writeGroups_eq (hbits : 32 ≤ bits) (hfew : groups.length < 2 ^ 15)
    (hscale : 0 ≤ scale.toInt) (negative : Bool) :
    writeGroups bits negative weight scale groups =
      outcome ((ofGroups negative weight.toInt scale.toInt.toNat groups).map Numeric.text) := by
  rw [writeGroups, ofGroups]
  by_cases hlarge : groups.any (9999 < ·) = true
  · rw [if_pos hlarge, if_pos hlarge]
    rfl
  rw [if_neg hlarge, if_neg hlarge]
  by_cases hnil : groups = []
  · rw [if_pos hnil, if_neg (fun hleast => hleast.1 hnil), hnil]
    exact congrArg Except.ok String.toList_ofList.symm
  have hfit : Fit groups := by
    refine ⟨hfew, fun g hg => ?_⟩
    by_contra hg'
    exact hlarge (List.any_eq_true.mpr ⟨g, hg, decide_eq_true (by omega)⟩)
  rw [if_neg hnil, writeFinite_eq hbits hfit hnil hscale]
  by_cases hleast : weight.toInt = leastWeight
  · rw [if_pos hleast, if_pos ⟨hnil, hleast⟩]
    rfl
  · rw [if_neg hleast, if_neg (fun h => hleast h.2)]
    exact congrArg Except.ok String.toList_ofList.symm

/-! ## The whole reading -/

/-- The words of a header are the fields of a payload. -/
structure IsHeader (raw : List UInt8) (count weight sign scale : BitVec 16) : Prop where
  count_eq : count.toInt = Payload.count raw
  weight_eq : weight.toInt = Payload.weight raw
  sign_eq : sign.toNat = Payload.sign raw
  scale_eq : scale.toInt = Payload.scale raw

/-- A word is a number if it is read as that number. -/
lemma IsHeader.sign_eq_iff {sign : BitVec 16} (h : IsHeader raw count weight sign scale)
    (hn : n < 2 ^ 16) : sign = BitVec.ofNat 16 n ↔ Payload.sign raw = n := by
  rw [← h.sign_eq, ← BitVec.toNat_inj, BitVec.toNat_ofNat, Nat.mod_eq_of_lt hn]

lemma readFinite_eq (hbits : 32 ≤ bits) {sign : BitVec 16}
    (h : IsHeader raw count weight sign scale) (hcount : 0 ≤ Payload.count raw)
    (hscale : 0 ≤ Payload.scale raw) (hcomplete : 8 + 2 * (Payload.count raw).toNat ≤ raw.length)
    (negative : Bool) :
    (do
      let groups ← readGroups bits raw count
      writeGroups bits negative weight scale groups) =
      outcome ((ofGroups negative (Payload.weight raw) (Payload.scale raw).toNat
        (Payload.groups raw)).map Numeric.text) := by
  obtain ⟨hcount', hweight', -, hscale'⟩ := h
  have hlt := BitVec.toInt_lt (x := count)
  have hfew : (Payload.groups raw).length < 2 ^ 15 := by
    rw [Payload.groups, List.length_map, List.length_range]
    omega
  have hgroups : readGroups bits raw count = .ok (Payload.groups raw) := by
    rw [readGroups_eq hbits (by omega) (by omega), hcount', Payload.pairs_drop_eq hcomplete]
  rw [bind_of_eq_ok hgroups, writeGroups_eq hbits hfew (by omega), hweight', hscale']

lemma readSigned_eq (hbits : 32 ≤ bits) {sign : BitVec 16}
    (h : IsHeader raw count weight sign scale) (hcount : 0 ≤ Payload.count raw)
    (hscale : 0 ≤ Payload.scale raw)
    (hcomplete : 8 + 2 * (Payload.count raw).toNat ≤ raw.length) :
    readSigned bits raw count weight sign scale = outcome (Numeric.readText raw) := by
  have hheader : ¬ raw.length < 8 := by omega
  have hsizes : ¬ (Payload.count raw < 0 ∨ Payload.scale raw < 0) := by omega
  rw [readSigned, Numeric.readText, Payload.read_eq, if_neg hheader, if_neg hsizes,
    if_neg (Nat.not_lt.mpr hcomplete)]
  simp only [h.sign_eq_iff (n := 0xC000) (by decide), h.sign_eq_iff (n := 0xD000) (by decide),
    h.sign_eq_iff (n := 0xF000) (by decide), h.sign_eq_iff (n := 0x0000) (by decide),
    h.sign_eq_iff (n := 0x4000) (by decide)]
  split
  · rfl
  split
  · rfl
  split
  · rfl
  split
  · exact readFinite_eq hbits h hcount hscale hcomplete _
  · rw [h.sign_eq]
    rfl

/-- Read in words, a payload gives what it gives when it is read in numbers. -/
lemma readText_eq (hbits : 32 ≤ bits) (raw : List UInt8) :
    readText bits raw = outcome (Numeric.readText raw) := by
  rw [readText]
  by_cases hheader : raw.length < 8
  · rw [if_pos hheader, Numeric.readText, Payload.read_eq, if_pos hheader]
    rfl
  obtain ⟨count, hcount, -, hcount'⟩ := exists_word raw 0 (by omega)
  obtain ⟨weight, hweight, -, hweight'⟩ := exists_word raw 2 (by omega)
  obtain ⟨sign, hsign, hsign', -⟩ := exists_word raw 4 (by omega)
  obtain ⟨scale, hscale, -, hscale'⟩ := exists_word raw 6 (by omega)
  have hfields : IsHeader raw count weight sign scale := ⟨hcount', hweight', hsign', hscale'⟩
  rw [if_neg hheader, bind_of_eq_ok hcount, bind_of_eq_ok hweight, bind_of_eq_ok hsign,
    bind_of_eq_ok hscale, hfields.count_eq, hfields.scale_eq]
  by_cases hsizes : Payload.count raw < 0 ∨ Payload.scale raw < 0
  · rw [if_pos hsizes, Numeric.readText, Payload.read_eq, if_neg hheader, if_pos hsizes]
    rfl
  have hcount : 0 ≤ count.toInt := by
    rw [hfields.count_eq]
    omega
  obtain ⟨stop, hstop, hend⟩ := exists_groupsEnd hbits hcount
  rw [hfields.count_eq] at hend
  rw [if_neg hsizes, bind_of_eq_ok hstop, hend]
  by_cases hfew : raw.length < 8 + 2 * (Payload.count raw).toNat
  · rw [if_pos hfew, Numeric.readText, Payload.read_eq, if_neg hheader, if_neg hsizes,
      if_pos hfew]
    rfl
  · rw [if_neg hfew]
    exact readSigned_eq hbits hfields (by omega) (by omega) (by omega)

/-! ## Where it breaks off -/

lemma outcome_eq_fault_iff (r : Except NumericError String) (f : Fault) :
    outcome r = .error (.fault f) ↔ f = .overflow ∧ r = .error .weightOutOfRange := by
  constructor
  · intro h
    cases r with
    | ok text => exact absurd h nofun
    | error e =>
      cases e with
      | weightOutOfRange =>
        cases h
        exact ⟨rfl, rfl⟩
      | _ => cases h
  · rintro ⟨rfl, rfl⟩
    rfl

/-- **Where reading breaks off.**  Whatever bytes a payload has, and for addresses of 32 bits or
more, the run that reads it in words ends as `Numeric.readText` says: with the text, or with a
report.  It breaks off for the payloads of finite numbers with groups and the least weight, and for
no others; then a result does not fit its width. -/
theorem readText_fault_iff (hbits : 32 ≤ bits) (raw : List UInt8) :
    readText bits raw = outcome (Numeric.readText raw) ∧
      ∀ f, readText bits raw = .error (.fault f) ↔
        f = .overflow ∧ Payload.IsFinite raw ∧ Payload.count raw ≠ 0 ∧
          Payload.weight raw = leastWeight := by
  have hread : Numeric.readText raw = .error .weightOutOfRange ↔
      read raw = .error .weightOutOfRange := by
    rw [Numeric.readText]
    cases read raw with
    | ok number => simp [Except.map]
    | error e => simp [Except.map]
  refine ⟨readText_eq hbits raw, fun f => ?_⟩
  rw [readText_eq hbits, outcome_eq_fault_iff, hread, Payload.read_eq_weightOutOfRange_iff]

/-- The number one, sent with the least weight, breaks the run off at 64 bits. -/
theorem readText_fault_least :
    32 ≤ 64 ∧ readText 64 [0, 1, 0x80, 0, 0, 0, 0, 0, 0, 1] = .error (.fault .overflow) :=
  ⟨by decide, ((readText_fault_iff (by decide) [0, 1, 0x80, 0, 0, 0, 0, 0, 0, 1]).2 .overflow).mpr
    (by decide)⟩

/-- There are bytes for which there is neither a text nor a report. -/
theorem readText_not_total :
    ¬ ∀ raw, (∃ text, readText 64 raw = .ok text) ∨ ∃ e, readText 64 raw = .error (.report e) := by
  intro h
  have hfault : readText 64 [0, 1, 0x80, 0, 0, 0, 0, 0, 0, 1] = .error (.fault .overflow) := by
    decide +kernel
  obtain ⟨text, htext⟩ | ⟨e, he⟩ := h [0, 1, 0x80, 0, 0, 0, 0, 0, 0, 1]
  · rw [hfault] at htext
    cases htext
  · rw [hfault] at he
    cases he

end BulkValues.Postgres.Numeric.Words
