/-
# Printed documents are read back

The text of a document without floats is read as that document, with its fields in their order,
whatever follows it that does not go on with a number.  A document may be nested as deep as the
reader goes.
-/
import BulkValues.Json.Printer
import BulkValues.Proofs.Json.Items
import BulkValues.Proofs.Json.Proper
import BulkValues.Proofs.Number.Digits
import BulkValues.Proofs.Text.Hex
import BulkValues.Proofs.Text.Stops

namespace BulkValues

open BulkValues.Number BulkValues.Text

/-- Whether a number of a document is whole and in the range of whole numbers. -/
def JsonNumber.isWhole : JsonNumber → Bool
  | natural n => n < 2 ^ 64
  | negative n => -2 ^ 63 ≤ n && n < 0
  | float _ => false

namespace Json

variable {c : Char} {cs ds next rest : List Char} {depth fuel n : ℕ}

/-! ## Strings -/

/-- The four digits of a control character are read as the character. -/
lemma readUnicodeEscape_control (h : c.toNat < 0x20) (rest : List Char) :
    readUnicodeEscape ('0' :: '0' :: hexDigit (c.toNat / 16) :: hexDigit (c.toNat % 16) :: rest) =
      some (c, rest) := by
  have hzero : hexValue? '0' = some 0 := by decide
  have hhigh := hexValue?_hexDigit (n := c.toNat / 16) (by omega)
  have hlow := hexValue?_hexDigit (n := c.toNat % 16) (by omega)
  have hunit : (0 * 16 + 0) * 16 + c.toNat / 16 = c.toNat / 16 := by omega
  have hvalue : c.toNat / 16 * 16 + c.toNat % 16 = c.toNat := Nat.div_add_mod' ..
  have hplain : ¬(0xDC00 ≤ c.toNat ∧ c.toNat ≤ 0xDFFF) ∧
      ¬(0xD800 ≤ c.toNat ∧ c.toNat ≤ 0xDBFF) := by omega
  simp only [readUnicodeEscape, readUnit, hzero, hhigh, hlow, Option.bind_eq_bind,
    Option.bind_some, hunit, hvalue, Option.pure_def, Bool.and_eq_true, decide_eq_true_eq]
  rw [if_neg hplain.1, if_neg hplain.2, Char.ofNat_toNat]

/-- A letter after a backslash is read as the character it stands for. -/
lemma readStringChars_escape {e : Char} (he : unescape? e = some c) (hu : e ≠ 'u') (fuel : ℕ)
    (rest : List Char) :
    readStringChars (fuel + 1) ('\\' :: e :: rest) =
      (readStringChars fuel rest).map fun p => (c :: p.1, p.2) := by
  rw [readStringChars.eq_4 fuel e rest hu, he]
  cases readStringChars fuel rest with
  | none => rfl
  | some p => rfl

/-- A character is read back from the way it is written. -/
lemma readStringChars_escapeChar (fuel : ℕ) (c : Char) (rest : List Char) :
    readStringChars (fuel + 1) (escapeChar c ++ rest) =
      (readStringChars fuel rest).map fun p => (c :: p.1, p.2) := by
  rw [escapeChar]
  split_ifs with h₁ h₂ h₃ h₄ h₅ h₆ h₇ h₈
  · exact readStringChars_escape (by rw [h₁]; rfl) (by decide) fuel rest
  · exact readStringChars_escape (by rw [h₂]; rfl) (by decide) fuel rest
  · exact readStringChars_escape (by rw [h₃]; rfl) (by decide) fuel rest
  · exact readStringChars_escape (by rw [h₄]; rfl) (by decide) fuel rest
  · exact readStringChars_escape (by rw [h₅]; rfl) (by decide) fuel rest
  · exact readStringChars_escape (by rw [h₆]; rfl) (by decide) fuel rest
  · exact readStringChars_escape (by rw [h₇]; rfl) (by decide) fuel rest
  · simp only [List.cons_append, List.nil_append, readStringChars, readUnicodeEscape_control h₈,
      Option.bind_eq_bind, Option.bind_some]
    cases readStringChars fuel rest with
    | none => rfl
    | some p => rfl
  · rw [List.singleton_append, readStringChars.eq_5, if_neg]
    · cases readStringChars fuel rest with
      | none => rfl
      | some p => rfl
    · simp [h₂, h₈]
    · exact h₁
    · exact fun _ hc _ => absurd hc h₂
    · exact fun _ _ hc _ => absurd hc h₂

lemma readStringChars_flatMap (hfuel : cs.length < fuel) (next : List Char) :
    readStringChars fuel (cs.flatMap escapeChar ++ '"' :: next) = some (cs, next) := by
  induction cs generalizing fuel with
  | nil =>
    obtain ⟨fuel, rfl⟩ := Nat.exists_eq_succ_of_ne_zero (Nat.ne_zero_of_lt hfuel)
    rfl
  | cons c cs ih =>
    obtain ⟨fuel, rfl⟩ := Nat.exists_eq_succ_of_ne_zero (Nat.ne_zero_of_lt hfuel)
    rw [List.flatMap_cons, List.append_assoc, readStringChars_escapeChar,
      ih (Nat.lt_of_succ_lt_succ hfuel)]
    rfl

lemma length_le_flatMap_escapeChar (cs : List Char) :
    cs.length ≤ (cs.flatMap escapeChar).length := by
  have hpos : ∀ c, 0 < (escapeChar c).length := by
    intro c
    rw [escapeChar]
    split_ifs <;> exact Nat.succ_pos _
  induction cs with
  | nil => exact Nat.le_refl 0
  | cons c cs ih =>
    have hc := hpos c
    rw [List.flatMap_cons, List.length_cons, List.length_append]
    omega

/-- A string ends at its closing quote. -/
lemma readString_quote (s : String) (next : List Char) :
    readString (s.toList.flatMap escapeChar ++ '"' :: next) = some (s, next) := by
  have hlength := length_le_flatMap_escapeChar s.toList
  have hfuel : s.toList.length < (s.toList.flatMap escapeChar ++ '"' :: next).length + 1 := by
    rw [List.length_append]
    omega
  rw [readString, readStringChars_flatMap hfuel, Option.map_some, String.ofList_toList]

lemma toList_quote (s : String) :
    (quote s).toList = '"' :: (s.toList.flatMap escapeChar ++ ['"']) := String.toList_ofList

/-! ## Numbers -/

/-- The characters that a number may go on with. -/
def isNumberChar (c : Char) : Bool := isAsciiDigit c || ['.', 'e', 'E'].contains c

/-- A text in front of which a number ends. -/
abbrev Ends (next : List Char) : Prop := StopsAt isNumberChar next

lemma Ends.digits (h : Ends next) : StopsAt isAsciiDigit next := by
  intro c hc
  have hchar := h c hc
  rw [isNumberChar, Bool.or_eq_false_iff] at hchar
  exact hchar.1

lemma ends_of_closes {close : Char} (hclose : isNumberChar close = false)
    (h : Closes close next) : Ends next := by
  obtain ⟨c, r, rfl, rfl | rfl⟩ := h
  · exact stopsAt_cons (by decide) r
  · exact stopsAt_cons hclose r

/-- Digits only make a number larger. -/
lemma le_foldl_digitValue (n : ℕ) (ds : List Char) :
    n ≤ ds.foldl (fun n c => 10 * n + digitValue c) n := by
  induction ds generalizing n with
  | nil => exact Nat.le_refl n
  | cons d ds ih =>
    have hle := ih (10 * n + digitValue d)
    rw [List.foldl_cons]
    omega

/-- Digits are all taken if their number fits. -/
lemma takeSignificand_eq (h : ds.foldl (fun n c => 10 * n + digitValue c) n ≤ maxWhole) :
    takeSignificand n ds = (ds.foldl (fun n c => 10 * n + digitValue c) n, []) := by
  induction ds generalizing n with
  | nil => rfl
  | cons d ds ih =>
    rw [List.foldl_cons] at h ⊢
    have hle := le_foldl_digitValue (10 * n + digitValue d) ds
    rw [takeSignificand, if_pos (by omega), ih h]

lemma takeSignificand_toDigits (h : n ≤ maxWhole) :
    takeSignificand 0 (Nat.toDigits 10 n) = (n, []) := by
  have hvalue := digitsValue_toDigits n
  rw [digitsValue] at hvalue
  rw [takeSignificand_eq (by rwa [hvalue]), hvalue]

lemma readExponent_of_ends (h : Ends next) : readExponent next = some (none, next) := by
  cases next with
  | nil => rfl
  | cons c r =>
    have hc := h c rfl
    simp only [isNumberChar, Bool.or_eq_false_iff, List.contains_eq_mem, decide_eq_false_iff_not,
      List.mem_cons, List.not_mem_nil, or_false, not_or] at hc
    simp [readExponent, hc]

/-- The digits of a number are read as that number, under the sign before them. -/
lemma readUnsigned_toDigits (hnext : Ends next) (negative : Bool) (hn : n ≤ maxWhole) :
    readUnsigned negative (Nat.toDigits 10 n ++ next) =
      if !negative then some (.natural n, next)
      else if n = 0 then some (.float Binary64.zero.neg, next)
      else if n ≤ 2 ^ 63 then some (.negative (-(n : ℤ)), next)
      else (assembleFloat true n 0).map fun x => (x, next) := by
  have htake := takeWhile_append_of_stopsAt (isDigits_toDigits n).2 hnext.digits
  have hdrop := dropWhile_append_of_stopsAt (isDigits_toDigits n).2 hnext.digits
  have hhead : ((Nat.toDigits 10 n).isEmpty || ((Nat.toDigits 10 n).head? == some '0' &&
      1 < (Nat.toDigits 10 n).length)) = false := by
    have hne : (Nat.toDigits 10 n).isEmpty = false := by simp [Nat.toDigits_ne_nil]
    by_cases hzero : n = 0
    · subst hzero
      decide
    · have hfirst := head?_toDigits_ne (Nat.pos_of_ne_zero hzero)
      simp [hne, hfirst]
  have hpoint : (next.head? == some '.') = false := by
    rw [beq_eq_false_iff_ne]
    intro hdot
    exact absurd (hnext '.' hdot) (by decide)
  simp only [readUnsigned, htake, hdrop, hhead, takeSignificand_toDigits hn, hpoint,
    readExponent_of_ends hnext, Bool.false_eq_true, if_false, Bool.false_and, Option.bind_eq_bind,
    Option.bind_some]
  rfl

/-- A whole number is read from its text. -/
lemma readNumber_numberText {x : JsonNumber} (hx : x.isWhole = true) (hnext : Ends next) :
    readNumber ((numberText x).toList ++ next) = some (x, next) := by
  cases x with
  | natural n =>
    rw [JsonNumber.isWhole, decide_eq_true_eq] at hx
    have hread := readUnsigned_toDigits hnext false (n := n) (by rw [maxWhole]; omega)
    rw [numberText, toList_toString_nat, readNumber.eq_2, hread]
    · rfl
    · intro r hr
      obtain ⟨c, ds, hds, hc⟩ := exists_toDigits n
      rw [hds] at hr
      cases hr
      exact absurd hc (by decide)
  | negative i =>
    rw [JsonNumber.isWhole, Bool.and_eq_true, decide_eq_true_eq, decide_eq_true_eq] at hx
    have hread := readUnsigned_toDigits hnext true (n := i.natAbs) (by rw [maxWhole]; omega)
    have hvalue : -(i.natAbs : ℤ) = i := by omega
    rw [numberText, toList_toString_int, if_pos hx.2, List.append_assoc, List.singleton_append,
      readNumber, hread, hvalue, if_neg (by decide), if_neg (by omega), if_pos (by omega)]
  | float x => cases hx

/-! ## Nesting -/

mutual

/-- How many containers of a document are inside one another. -/
def nesting : Json → ℕ
  | array items => itemsNesting items + 1
  | object fields => fieldsNesting fields + 1
  | _ => 0

/-- The deepest nesting among items. -/
def itemsNesting : List Json → ℕ
  | [] => 0
  | item :: rest => max (nesting item) (itemsNesting rest)

/-- The deepest nesting among the values of fields. -/
def fieldsNesting : List (String × Json) → ℕ
  | [] => 0
  | (_, value) :: rest => max (nesting value) (fieldsNesting rest)

end

/-! ## Documents -/

/-- A number begins with its sign or with a digit. -/
lemma exists_numberText {x : JsonNumber} (hx : x.isWhole = true) :
    ∃ c r, (numberText x).toList = c :: r ∧ (c = '-' ∨ isAsciiDigit c = true) := by
  cases x with
  | natural n =>
    obtain ⟨c, r, hr, hc⟩ := exists_toDigits n
    exact ⟨c, r, (toList_toString_nat n).trans hr, .inr hc⟩
  | negative i => exact exists_toString i
  | float x => cases hx

lemma ne_of_front {d : Char} (hc : c = '-' ∨ isAsciiDigit c = true) (hd : isAsciiDigit d = false)
    (hne : d ≠ '-') : c ≠ d := by
  rintro rfl
  rcases hc with hc | hc
  · exact hne hc
  · rw [hd] at hc
    cases hc

lemma isSpace_of_front (hc : c = '-' ∨ isAsciiDigit c = true) : isSpace c = false := by
  have hother : ∀ d, isAsciiDigit d = false → d ≠ '-' → c ≠ d := fun _ => ne_of_front hc
  simp [isSpace, hother ' ' (by decide) (by decide), hother '\n' (by decide) (by decide),
    hother '\t' (by decide) (by decide), hother '\r' (by decide) (by decide)]

lemma readValue_number (hc : c = '-' ∨ isAsciiDigit c = true) (depth : ℕ) (r : List Char) :
    readValue depth (c :: r) = (readNumber (c :: r)).map fun p => (number p.1, p.2) := by
  have hother : ∀ d r', isAsciiDigit d = false → d ≠ '-' → c :: r ≠ d :: r' :=
    fun d r' hd hne h => ne_of_front hc hd hne (List.cons.inj h).1
  rw [readValue.eq_def]
  dsimp only
  rw [skipSpaces_cons (isSpace_of_front hc)]
  split
  · exact absurd ‹_› (hother _ _ (by decide) (by decide))
  · exact absurd ‹_› (hother _ _ (by decide) (by decide))
  · exact absurd ‹_› (hother _ _ (by decide) (by decide))
  · exact absurd ‹_› (hother _ _ (by decide) (by decide))
  · exact absurd ‹_› (hother _ _ (by decide) (by decide))
  · exact absurd ‹_› (hother _ _ (by decide) (by decide))
  · rfl

lemma toList_itemsText (items : List Json) :
    (itemsText items).toList = [','].intercalate (items.map fun item => item.text.toList) := by
  induction items with
  | nil => rfl
  | cons item rest ih =>
    cases rest with
    | nil => simp [itemsText]
    | cons next rest =>
      rw [itemsText, String.toList_append, String.toList_append, ih]
      · simp [List.intercalate_cons_cons]
      · exact List.cons_ne_nil _ _

/-- The text of one field. -/
def fieldChars (f : String × Json) : List Char := (quote f.1).toList ++ ':' :: f.2.text.toList

lemma toList_fieldsText (fields : List (String × Json)) :
    (fieldsText fields).toList = [','].intercalate (fields.map fieldChars) := by
  induction fields with
  | nil => rfl
  | cons f rest ih =>
    obtain ⟨name, value⟩ := f
    cases rest with
    | nil => simp [fieldsText, fieldChars]
    | cons next rest =>
      rw [fieldsText, String.toList_append, ih]
      · simp [List.intercalate_cons_cons, fieldChars]
      · exact List.cons_ne_nil _ _

/-- A text is that of a document: it is read as the document wherever a number would end. -/
def IsText (depth : ℕ) (w : List Char) (doc : Json) : Prop :=
  ∀ next, Ends next → readValue depth (w ++ next) = some (doc, next)

lemma IsText.reads {w : List Char} {doc : Json} {close : Char} (h : IsText depth w doc)
    (hclose : isNumberChar close = false) : Reads (readValue depth) close w doc :=
  fun next hnext => h next (ends_of_closes hclose hnext)

lemma readField_fieldChars {name : String} {value : Json}
    (h : IsText depth value.text.toList value) :
    Reads (readField (readValue depth)) '\x7d' (fieldChars (name, value)) (name, value) := by
  intro next hnext
  have hvalue := h next (ends_of_closes (by decide) hnext)
  rw [fieldChars, toList_quote]
  simp only [List.cons_append, List.append_assoc, List.nil_append, readField,
    skipSpaces_cons (c := '"') (by decide), readString_quote, Option.bind_eq_bind,
    Option.bind_some, skipSpaces_cons (c := ':') (by decide), hvalue]
  rfl

lemma toList_array (items : List Json) :
    (array items).text.toList =
      '[' :: ([','].intercalate (items.map fun item => item.text.toList) ++ [']']) := by
  rw [text, String.toList_append, String.toList_append, toList_itemsText]
  rfl

lemma toList_object (fields : List (String × Json)) :
    (object fields).text.toList =
      '\x7b' :: ([','].intercalate (fields.map fieldChars) ++ ['\x7d']) := by
  rw [text, String.toList_append, String.toList_append, toList_fieldsText]
  rfl

section Documents

variable {q : List String → Bool}

/-- A document begins with a character that neither is skipped nor closes a list. -/
lemma exists_text {doc : Json} (h : doc.all JsonNumber.isWhole q = true) :
    ∃ c r, doc.text.toList = c :: r ∧ isSpace c = false ∧ c ≠ ']' := by
  cases doc with
  | null => exact ⟨_, _, rfl, by decide, by decide⟩
  | bool b =>
    cases b with
    | true => exact ⟨_, _, rfl, by decide, by decide⟩
    | false => exact ⟨_, _, rfl, by decide, by decide⟩
  | number n =>
    obtain ⟨c, r, hr, hc⟩ := exists_numberText h
    exact ⟨c, r, hr, isSpace_of_front hc, ne_of_front hc (by decide) (by decide)⟩
  | string s => exact ⟨_, _, toList_quote s, by decide, by decide⟩
  | array items => exact ⟨_, _, toList_array items, by decide, by decide⟩
  | object fields => exact ⟨_, _, toList_object fields, by decide, by decide⟩

/-- Items that are read one by one are read as an array. -/
lemma isText_array {items : List Json} (hall : allItems JsonNumber.isWhole q items = true)
    (h : List.Forall₂ (Reads (readValue depth) ']') (items.map fun item => item.text.toList)
      items) : IsText (depth + 1) (array items).text.toList (array items) := by
  intro next _
  have hlist : readList (readValue depth) ']'
      ([','].intercalate (items.map fun item => item.text.toList) ++ ']' :: next) =
        some (items, next) := by
    cases items with
    | nil => rfl
    | cons item rest =>
      rw [allItems, Bool.and_eq_true] at hall
      obtain ⟨c, r, hr, hspace, hclose⟩ := exists_text hall.1
      rw [List.map_cons, hr] at h ⊢
      exact readList_intercalate (by decide) (by decide) (fun _ => rfl) hspace hclose h next
  rw [toList_array, List.cons_append, List.append_assoc, List.singleton_append, readValue,
    skipSpaces_cons (by decide)]
  exact congrArg (Option.map fun p => (array p.1, p.2)) hlist

/-- Fields that are read one by one are read as an object. -/
lemma isText_object {fields : List (String × Json)}
    (h : List.Forall₂ (Reads (readField (readValue depth)) '\x7d') (fields.map fieldChars) fields) :
    IsText (depth + 1) (object fields).text.toList (object fields) := by
  intro next _
  have hlist : readList (readField (readValue depth)) '\x7d'
      ([','].intercalate (fields.map fieldChars) ++ '\x7d' :: next) = some (fields, next) := by
    cases fields with
    | nil => rfl
    | cons f rest =>
      have hr : fieldChars f = '"' :: (f.1.toList.flatMap escapeChar ++ '"' :: ':' ::
          f.2.text.toList) := by
        rw [fieldChars, toList_quote]
        simp
      rw [List.map_cons, hr] at h ⊢
      exact readList_intercalate (by decide) (by decide) (fun _ => rfl) (by decide) (by decide) h
        next
  rw [toList_object, List.cons_append, List.append_assoc, List.singleton_append, readValue,
    skipSpaces_cons (by decide)]
  exact congrArg (Option.map fun p => (object p.1, p.2)) hlist

mutual

/-- A document is read from its text. -/
lemma isText_text : ∀ (doc : Json) (depth : ℕ),
    doc.all JsonNumber.isWhole q = true → doc.nesting ≤ depth → IsText depth doc.text.toList doc
  | .null, depth, _, _ => by
    intro next _
    rw [readValue.eq_def]
    rfl
  | .bool b, depth, _, _ => by
    intro next _
    rw [readValue.eq_def]
    cases b with
    | true => rfl
    | false => rfl
  | .number n, depth, h, _ => by
    intro next hnext
    obtain ⟨c, r, hr, hc⟩ := exists_numberText h
    have hread := readNumber_numberText h hnext
    rw [text]
    rw [hr, List.cons_append] at hread ⊢
    rw [readValue_number hc, hread]
    rfl
  | .string s, depth, _, _ => by
    intro next _
    rw [text, toList_quote, List.cons_append, List.append_assoc, readValue.eq_def]
    dsimp only
    rw [skipSpaces_cons (by decide)]
    exact congrArg (Option.map fun p => (string p.1, p.2)) (readString_quote s next)
  | .array items, depth, h, hdepth => by
    rw [nesting] at hdepth
    obtain ⟨depth, rfl⟩ : ∃ n, depth = n + 1 := ⟨depth - 1, by omega⟩
    exact isText_array h (reads_items items depth h (Nat.le_of_succ_le_succ hdepth))
  | .object fields, depth, h, hdepth => by
    rw [all, Bool.and_eq_true] at h
    rw [nesting] at hdepth
    obtain ⟨depth, rfl⟩ : ∃ n, depth = n + 1 := ⟨depth - 1, by omega⟩
    exact isText_object (reads_fields fields depth h.2 (Nat.le_of_succ_le_succ hdepth))

lemma reads_items : ∀ (items : List Json) (depth : ℕ),
    allItems JsonNumber.isWhole q items = true → itemsNesting items ≤ depth →
      List.Forall₂ (Reads (readValue depth) ']') (items.map fun item => item.text.toList) items
  | [], _, _, _ => .nil
  | item :: rest, depth, h, hdepth => by
    rw [allItems, Bool.and_eq_true] at h
    rw [itemsNesting, Nat.max_le] at hdepth
    exact .cons ((isText_text item depth h.1 hdepth.1).reads (by decide))
      (reads_items rest depth h.2 hdepth.2)

lemma reads_fields : ∀ (fields : List (String × Json)) (depth : ℕ),
    allFields JsonNumber.isWhole q fields = true → fieldsNesting fields ≤ depth →
      List.Forall₂ (Reads (readField (readValue depth)) '\x7d') (fields.map fieldChars) fields
  | [], _, _, _ => .nil
  | (name, value) :: rest, depth, h, hdepth => by
    rw [allFields, Bool.and_eq_true] at h
    rw [fieldsNesting, Nat.max_le] at hdepth
    exact .cons (readField_fieldChars (isText_text value depth h.1 hdepth.1))
      (reads_fields rest depth h.2 hdepth.2)

end

/-- A document that is not nested too deep is read whole. -/
lemma readVerbatim?_text {doc : Json} (h : doc.all JsonNumber.isWhole q = true)
    (hdepth : doc.nesting ≤ maxDepth) : readVerbatim? doc.text = some doc := by
  have hread := isText_text doc maxDepth h hdepth [] (stopsAt_nil _)
  rw [List.append_nil] at hread
  rw [readVerbatim?, hread]
  rfl

end Documents

end Json

end BulkValues
