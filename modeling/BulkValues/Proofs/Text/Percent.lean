/-
# Percent escapes

A byte may be written as a percent sign and two hexadecimal digits.  Reading puts the byte in place
of each escape, leaves every other character as it is, and takes all bytes together as UTF-8.

What is read is never longer than what is written, in bytes, and it is shorter if there is an
escape.  So a text is read as itself exactly if it has no percent sign, and what comes before some
character of a text is never read as the whole.
-/
import BulkValues.Proofs.Text.Hex
import BulkValues.Proofs.Text.Utf8
import Mathlib.Data.List.TakeWhile

namespace BulkValues.Text

/-- The bytes of characters. -/
def bytesOf (cs : List Char) : List UInt8 := cs.flatMap String.utf8EncodeChar

/-- The bytes that a text with escapes stands for. -/
def unescape? : List Char → Option (List UInt8)
  | [] => some []
  | c :: rest =>
    if c = '%' then
      match rest with
      | high :: low :: rest =>
        (readHex? [high, low]).bind fun byte => (unescape? rest).map (byte ++ ·)
      | _ => none
    else (unescape? rest).map (String.utf8EncodeChar c ++ ·)

/-- The text that a text with escapes stands for. -/
def readEscaped? (cs : List Char) : Option String :=
  (unescape? cs).bind fun bytes => String.fromUTF8? ⟨bytes.toArray⟩

/-- Some characters of a text escaped, each byte by itself. -/
def escape (special : List Char) (cs : List Char) : List Char :=
  cs.flatMap fun c =>
    if c ∈ special then (String.utf8EncodeChar c).flatMap fun b => '%' :: hexChars [b] else [c]

variable {c : Char} {cs w rest special : List Char} {bytes : List UInt8} {s : String}
  {kind : Char → Bool}

/-! ## The number of bytes -/

lemma bytesOf_toList (s : String) : bytesOf s.toList = s.toUTF8.toList := (toUTF8_toList s).symm

/-- The number of bytes of characters. -/
def byteCount (cs : List Char) : ℕ := (bytesOf cs).length

@[simp] lemma byteCount_nil : byteCount [] = 0 := rfl

@[simp] lemma byteCount_cons (c : Char) (cs : List Char) :
    byteCount (c :: cs) = (String.utf8EncodeChar c).length + byteCount cs := List.length_append

@[simp] lemma byteCount_append (cs w : List Char) :
    byteCount (cs ++ w) = byteCount cs + byteCount w := by
  rw [byteCount, bytesOf, List.flatMap_append, List.length_append]
  rfl

lemma length_utf8EncodeChar_pos (c : Char) : 0 < (String.utf8EncodeChar c).length := by
  rw [String.length_utf8EncodeChar]
  exact c.utf8Size_pos

lemma byteCount_takeWhile_le (kind : Char → Bool) (cs : List Char) :
    byteCount (cs.takeWhile kind) ≤ byteCount cs := by
  have hsplit := congrArg byteCount (cs.takeWhile_append_dropWhile (p := kind))
  rw [byteCount_append] at hsplit
  omega

/-- If all of a text is there in bytes, nothing was cut off in front of some character. -/
lemma forall_of_byteCount_le (h : byteCount w ≤ byteCount ((w ++ rest).takeWhile kind)) :
    ∀ c ∈ w, kind c = true := by
  induction w with
  | nil => exact nofun
  | cons c w ih =>
    cases hc : kind c with
    | true =>
      rw [List.cons_append, List.takeWhile_cons_of_pos hc, byteCount_cons, byteCount_cons] at h
      exact List.forall_mem_cons.mpr ⟨hc, ih (by omega)⟩
    | false =>
      have hpos := length_utf8EncodeChar_pos c
      rw [List.cons_append, List.takeWhile_cons_of_neg (by simp [hc]), byteCount_cons,
        byteCount_nil] at h
      omega

/-! ## Reading -/

lemma unescape?_cons_of_ne (h : c ≠ '%') (rest : List Char) :
    unescape? (c :: rest) = (unescape? rest).map (String.utf8EncodeChar c ++ ·) := by
  rw [unescape?.eq_def]
  exact if_neg h

/-- Without a percent sign every character stands for itself. -/
lemma unescape?_of_not_mem (h : '%' ∉ cs) : unescape? cs = some (bytesOf cs) := by
  induction cs with
  | nil => rfl
  | cons c cs ih =>
    obtain ⟨hc, hcs⟩ := List.ne_and_not_mem_of_not_mem_cons h
    rw [unescape?_cons_of_ne hc.symm, ih hcs, Option.map_some]
    rfl

/-- The two digits of an escape stand for one byte. -/
lemma length_of_readHex? {high low : Char} (h : readHex? [high, low] = some bytes) :
    bytes.length = 1 := by
  simp only [readHex?, Option.bind_eq_bind, Option.bind_eq_some_iff, Option.pure_def] at h
  grind

/-- What is read has no more bytes than what is written, and less if there is an escape. -/
lemma length_of_unescape? (h : unescape? cs = some bytes) :
    bytes.length ≤ byteCount cs ∧ ('%' ∈ cs → bytes.length < byteCount cs) := by
  fun_induction unescape? cs generalizing bytes with
  | case1 =>
    cases h
    exact ⟨le_rfl, nofun⟩
  | case2 high low rest ih =>
    obtain ⟨byte, hbyte, hrest⟩ := Option.bind_eq_some_iff.mp h
    obtain ⟨bytes', hbytes', rfl⟩ := Option.map_eq_some_iff.mp hrest
    have hone := length_of_readHex? hbyte
    have hle := (ih hbytes').1
    have hhigh := length_utf8EncodeChar_pos high
    have hlow := length_utf8EncodeChar_pos low
    simp only [byteCount_cons, List.length_append]
    omega
  | case3 => cases h
  | case4 c rest hc ih =>
    obtain ⟨bytes', hbytes', rfl⟩ := Option.map_eq_some_iff.mp h
    obtain ⟨hle, hlt⟩ := ih hbytes'
    rw [byteCount_cons, List.length_append, List.mem_cons]
    refine ⟨by omega, fun hmem => ?_⟩
    have := hlt (hmem.resolve_left (Ne.symm hc))
    omega

lemma readEscaped?_eq_some_iff :
    readEscaped? cs = some s ↔ unescape? cs = some (bytesOf s.toList) := by
  rw [readEscaped?, Option.bind_eq_some_iff]
  simp only [fromUTF8?_eq_some, ← bytesOf_toList]
  exact ⟨fun ⟨_, h, heq⟩ => heq ▸ h, fun h => ⟨_, h, rfl⟩⟩

/-- What is read has no more bytes than what is written. -/
lemma byteCount_le_of_readEscaped? (h : readEscaped? cs = some s) :
    byteCount s.toList ≤ byteCount cs :=
  (length_of_unescape? (readEscaped?_eq_some_iff.mp h)).1

/-- A text is read as itself exactly if it has no percent sign. -/
lemma readEscaped?_toList_iff : readEscaped? s.toList = some s ↔ '%' ∉ s.toList := by
  rw [readEscaped?_eq_some_iff]
  refine ⟨fun h hmem => ?_, unescape?_of_not_mem⟩
  exact absurd ((length_of_unescape? h).2 hmem) (lt_irrefl _)

/-- A part of a text is read as the text exactly if it is all of it and nothing is escaped. -/
lemma readEscaped?_takeWhile_iff :
    readEscaped? (s.toList.takeWhile kind) = some s ↔
      (∀ c ∈ s.toList, kind c = true) ∧ '%' ∉ s.toList := by
  have hall : readEscaped? (s.toList.takeWhile kind) = some s → ∀ c ∈ s.toList, kind c = true := by
    intro h
    have hle : byteCount s.toList ≤ byteCount ((s.toList ++ []).takeWhile kind) := by
      rw [List.append_nil]
      exact byteCount_le_of_readEscaped? h
    exact forall_of_byteCount_le hle
  constructor
  · intro h
    refine ⟨hall h, ?_⟩
    rwa [List.takeWhile_eq_self_iff.mpr (hall h), readEscaped?_toList_iff] at h
  · rintro ⟨h, hpercent⟩
    rwa [List.takeWhile_eq_self_iff.mpr h, readEscaped?_toList_iff]

/-! ## Escaping -/

lemma unescape?_escaped (bytes : List UInt8) (rest : List Char) :
    unescape? ((bytes.flatMap fun b => '%' :: hexChars [b]) ++ rest) =
      (unescape? rest).map (bytes ++ ·) := by
  induction bytes with
  | nil => simp
  | cons b bytes ih =>
    have hdigits : hexChars [b] = [hexDigit (b.toNat / 16), hexDigit (b.toNat % 16)] := rfl
    have hread := readHex?_hexChars [b]
    rw [hdigits] at hread
    rw [List.flatMap_cons, List.append_assoc, hdigits, List.cons_append, List.cons_append,
      List.cons_append, List.nil_append, unescape?, if_pos rfl, hread, Option.bind_some, ih,
      Option.map_map]
    rfl

/-- What is escaped is read, if percent signs are escaped too. -/
lemma readEscaped?_escape (h : '%' ∈ special) (s : String) :
    readEscaped? (escape special s.toList) = some s := by
  rw [readEscaped?_eq_some_iff]
  induction s.toList with
  | nil => rfl
  | cons c cs ih =>
    rw [escape, List.flatMap_cons, ← escape]
    split
    · rw [unescape?_escaped, ih, Option.map_some]
      rfl
    · rename_i hplain
      have hne : c ≠ '%' := fun heq => hplain (heq ▸ h)
      rw [List.singleton_append, unescape?_cons_of_ne hne, ih, Option.map_some]
      rfl

/-- After escaping, a special character is not there, unless it is used to write escapes. -/
lemma not_mem_escape (hc : c ∈ special) (hne : c ≠ '%') (hdigit : hexValue? c = none)
    (cs : List Char) : c ∉ escape special cs := by
  intro hmem
  obtain ⟨d, -, hd⟩ := List.mem_flatMap.mp hmem
  split at hd
  · obtain ⟨b, -, hb⟩ := List.mem_flatMap.mp hd
    have hsome := isSome_hexValue?_of_mem ((List.mem_cons.mp hb).resolve_left hne)
    rw [hdigit] at hsome
    cases hsome
  · rename_i hplain
    exact hplain (List.mem_singleton.mp hd ▸ hc)

end BulkValues.Text
