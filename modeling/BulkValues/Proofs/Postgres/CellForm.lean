/-
# Which cells are lost

The bytes of a cell are in the binary form of its column's type or they are not, and the server
sends null cells apart from both.  What is read of bytes in their form is never null; but bytes that
are not in their form are read as null too, without an error.  Among these are values that a server
really holds: an array with a null item, and the moments beyond the calendar.

The forms are said here without the readers: by lengths and ranges, by the texts and documents that
bytes come from, and for arrays by how their items are written.
-/
import BulkValues.Postgres.Cell
import BulkValues.Proofs.Calendar.DayNumber
import BulkValues.Proofs.Number.BigEndian
import BulkValues.Proofs.Text.Utf8

namespace BulkValues.Postgres

open BulkValues.Number BulkValues.Calendar BulkValues.Text

/-! ## Exact numbers -/

namespace Numeric

/-- The two bytes at a place in the header. -/
def field (place : ℕ) (raw : List UInt8) : List UInt8 := (raw.drop place).take 2

/-- The bytes have a whole header with a sign that exists and sizes that are not negative, as many
groups as it announces, and no group of more than four digits if the groups count. -/
structure InForm (raw : List UInt8) : Prop where
  header : 8 ≤ raw.length
  count : 0 ≤ BigEndian.decodeInt (field 0 raw)
  scale : 0 ≤ BigEndian.decodeInt (field 6 raw)
  groups : 8 + 2 * (BigEndian.decodeInt (field 0 raw)).toNat ≤ raw.length
  sign : BigEndian.decode (field 4 raw) ∈ [0xC000, 0xD000, 0xF000] ∨
    BigEndian.decode (field 4 raw) ∈ [0x0000, 0x4000] ∧
      ∀ g ∈ pairs (BigEndian.decodeInt (field 0 raw)).toNat (raw.drop 8), g ≤ 9999

variable {raw : List UInt8}

/-- Groups are a number, but for the least weight. -/
lemma ofGroups_cases {negative : Bool} {weight : ℤ} {scale : ℕ} {groups : List ℕ} :
    (∀ g ∈ groups, g ≤ 9999) ↔
      (∃ number, ofGroups negative weight scale groups = .ok number) ∨
        ofGroups negative weight scale groups = .error .weightOutOfRange := by
  have hany : groups.any (9999 < ·) = true ↔ ¬ ∀ g ∈ groups, g ≤ 9999 := by
    simp
  rw [ofGroups]
  split
  · rename_i hlarge
    simp [hany.mp hlarge]
  · rename_i hsmall
    have hgroups : ∀ g ∈ groups, g ≤ 9999 := by
      by_contra hno
      exact hsmall (hany.mpr hno)
    refine iff_of_true hgroups ?_
    split
    · exact .inr rfl
    · exact .inl ⟨_, rfl⟩

/-- Bytes in their form are a number, or one whose weight breaks the run off. -/
lemma inForm_iff : InForm raw ↔
    (∃ number, read raw = .ok number) ∨ read raw = .error .weightOutOfRange := by
  rw [read.eq_def]
  split
  · rename_i c₁ c₀ w₁ w₀ s₁ s₀ d₁ d₀ rest
    have hform : InForm (c₁ :: c₀ :: w₁ :: w₀ :: s₁ :: s₀ :: d₁ :: d₀ :: rest) ↔
        0 ≤ BigEndian.decodeInt [c₁, c₀] ∧ 0 ≤ BigEndian.decodeInt [d₁, d₀] ∧
          2 * (BigEndian.decodeInt [c₁, c₀]).toNat ≤ rest.length ∧
          (BigEndian.decode [s₁, s₀] ∈ [0xC000, 0xD000, 0xF000] ∨
            BigEndian.decode [s₁, s₀] ∈ [0x0000, 0x4000] ∧
              ∀ g ∈ pairs (BigEndian.decodeInt [c₁, c₀]).toNat rest, g ≤ 9999) := by
      constructor
      · rintro ⟨-, hcount, hscale, hgroups, hsign⟩
        refine ⟨hcount, hscale, ?_, hsign⟩
        have hlength : 8 + 2 * (BigEndian.decodeInt [c₁, c₀]).toNat ≤ rest.length + 8 := hgroups
        omega
      · rintro ⟨hcount, hscale, hgroups, hsign⟩
        refine ⟨Nat.le_add_left .., hcount, hscale, ?_, hsign⟩
        change 8 + 2 * (BigEndian.decodeInt [c₁, c₀]).toNat ≤ rest.length + 8
        omega
    rw [hform]
    dsimp only
    split
    · rename_i hsize
      simp only [reduceCtorEq, exists_false, Except.error.injEq, or_self, iff_false]
      omega
    split
    · rename_i hfew
      simp only [reduceCtorEq, exists_false, Except.error.injEq, or_self, iff_false]
      omega
    rename_i hsize hfew
    have hcount : 0 ≤ BigEndian.decodeInt [c₁, c₀] := by omega
    have hscale : 0 ≤ BigEndian.decodeInt [d₁, d₀] := by omega
    simp only [hcount, hscale, Nat.le_of_not_lt hfew, true_and, List.mem_cons, List.not_mem_nil,
      or_false]
    split
    · rename_i hsign
      simp [hsign]
    split
    · rename_i hsign
      simp [hsign]
    split
    · rename_i hsign
      simp [hsign]
    rename_i hnan hinfinity hnegative
    simp only [hnan, hinfinity, hnegative, or_self, false_or]
    split
    · rename_i hsign
      simp only [hsign, true_and]
      exact ofGroups_cases
    · rename_i hsign
      simp [hsign]
  · rename_i hshort
    simp only [reduceCtorEq, exists_false, Except.error.injEq, or_self, iff_false]
    rintro ⟨hheader, -⟩
    match raw, hshort with
    | [], _ | [_], _ | [_, _], _ | [_, _, _], _ | [_, _, _, _], _ | [_, _, _, _, _], _
    | [_, _, _, _, _, _], _ | [_, _, _, _, _, _, _], _ => simp at hheader
    | c₁ :: c₀ :: w₁ :: w₀ :: s₁ :: s₀ :: d₁ :: d₀ :: rest, hshort =>
      exact hshort c₁ c₀ w₁ w₀ s₁ s₀ d₁ d₀ rest rfl

end Numeric

namespace Cell

/-! ## The forms of scalars -/

/-- The bytes are those of a text. -/
def IsText (raw : List UInt8) : Prop := ∃ s : String, raw = s.toUTF8.toList

/-- The bytes are those of a document. -/
def IsDocument (raw : List UInt8) : Prop :=
  ∃ (s : String) (doc : Json), raw = s.toUTF8.toList ∧ Json.read? s = some doc

/-- The bytes of a scalar are in the form of its type. -/
def InScalarForm (raw : List UInt8) : ColumnType → Prop
  | .bool => raw.length = 1
  | .int2 => raw.length = 2
  | .int4 | .float4 => raw.length = 4
  | .int8 | .float8 | .time => raw.length = 8
  | .numeric => Numeric.InForm raw
  | .bytea => True
  | .uuid => raw.length = 16
  | .json => IsDocument raw
  | .jsonb => ∃ rest, raw = 1 :: rest ∧ IsDocument rest
  | .date => raw.length = 4 ∧ IsDayNumber (epochDay + BigEndian.decodeInt raw)
  | .timestamp | .timestamptz =>
    raw.length = 8 ∧ IsDayNumber (epochDay + BigEndian.decodeInt raw / 86400000000)
  | .text _ | .other _ | .arrayOf _ => IsText raw

variable {raw : List UInt8} {item type : ColumnType} {v : Value}

lemma text?_eq_some {s : String} : text? raw = some s ↔ raw = s.toUTF8.toList :=
  fromUTF8?_eq_some

lemma isSome_text?_iff : (text? raw).isSome = true ↔ IsText raw := by
  simp only [Option.isSome_iff_exists, text?_eq_some, IsText]

lemma isSome_json?_iff : (json? raw).isSome = true ↔ IsDocument raw := by
  simp only [json?, Option.isSome_iff_exists, Option.bind_eq_bind, Option.bind_eq_some_iff,
    text?_eq_some, Option.pure_def, Option.some_inj]
  constructor
  · rintro ⟨v, s, hraw, doc, hdoc, hv⟩
    exact ⟨s, doc, hraw, hdoc⟩
  · rintro ⟨s, doc, hraw, hdoc⟩
    exact ⟨_, s, hraw, doc, hdoc, rfl⟩

lemma isSome_decodeInt?_iff {width : ℕ} :
    (BigEndian.decodeInt? width raw).isSome = true ↔ raw.length = width := by
  rw [BigEndian.decodeInt?]
  split
  · rename_i h
    simp [h]
  · rename_i h
    simp [h]

lemma isSome_date?_iff : (date? raw).isSome = true ↔
    raw.length = 4 ∧ IsDayNumber (epochDay + BigEndian.decodeInt raw) := by
  rw [date?, BigEndian.decodeInt?]
  split
  · rename_i h
    simp [h, isSome_ofDayNumber?_iff]
  · rename_i h
    simp [h]

lemma isSome_time?_iff : (time? raw).isSome = true ↔ raw.length = 8 := by
  rw [time?, BigEndian.decodeInt?]
  split
  · rename_i h
    have hmicros : (BigEndian.decodeInt raw % 86400000000).toNat < 86400000000 := by omega
    simpa [h] using isSome_ofSeconds? hmicros
  · rename_i h
    simp [h]

lemma isSome_moment?_iff : (moment? raw).isSome = true ↔
    raw.length = 8 ∧ IsDayNumber (epochDay + BigEndian.decodeInt raw / 86400000000) := by
  rw [moment?, BigEndian.decodeInt?]
  split
  · rename_i h
    have hmicros : (BigEndian.decodeInt raw % 86400000000).toNat < 86400000000 := by omega
    obtain ⟨time, htime⟩ := Option.isSome_iff_exists.mp (isSome_ofSeconds? hmicros)
    rw [← isSome_ofDayNumber?_iff]
    simp only [DateTime.ofMicros?, h, htime, Option.bind_eq_bind, Option.bind_some, true_and]
    cases Date.ofDayNumber? (epochDay + BigEndian.decodeInt raw / 86400000000) with
    | none => rfl
    | some date => rfl
  · rename_i h
    simp [h]

lemma breaksOff_eq_false_of_ne (h : type ≠ .numeric) : breaksOff type raw = false := by
  simp [breaksOff, h]

lemma isSome_numeric_iff : ((Numeric.readText raw).toOption.map Value.decimal).isSome = true ↔
    Numeric.InForm raw ∧ breaksOff .numeric raw = false := by
  rw [Numeric.inForm_iff, Numeric.readText, breaksOff]
  cases Numeric.read raw with
  | ok number => simp [Except.map, Except.toOption]
  | error e => cases e <;> simp [Except.map, Except.toOption]

/-- A scalar is read exactly if it is in its form and does not break the run off. -/
lemma isSome_scalar?_iff (raw : List UInt8) (type : ColumnType) :
    (scalar? raw type).isSome = true ↔ InScalarForm raw type ∧ breaksOff type raw = false := by
  cases type with
  | numeric => exact isSome_numeric_iff
  | bool =>
    have hbool : (scalar? raw .bool).isSome = true ↔ raw.length = 1 := by
      rw [scalar?.eq_def, List.length_eq_one_iff]
      dsimp only
      split
      · simp
      · rename_i hne
        simpa using hne
    simpa [breaksOff_eq_false_of_ne, InScalarForm] using hbool
  | jsonb =>
    have hjsonb : (scalar? raw .jsonb).isSome = true ↔
        ∃ rest, raw = 1 :: rest ∧ IsDocument rest := by
      rw [scalar?.eq_def]
      dsimp only
      split
      · simp [isSome_json?_iff]
      · rename_i hne
        simpa using fun rest h => (hne rest h).elim
    simpa [breaksOff_eq_false_of_ne, InScalarForm] using hjsonb
  | float4 => simp [breaksOff_eq_false_of_ne, InScalarForm, scalar?]
  | float8 => simp [breaksOff_eq_false_of_ne, InScalarForm, scalar?]
  | bytea => simp [breaksOff_eq_false_of_ne, InScalarForm, scalar?]
  | uuid => simp [breaksOff_eq_false_of_ne, InScalarForm, scalar?, Uuid.ofBytes?]
  | int2 | int4 | int8 =>
    simp [breaksOff_eq_false_of_ne, InScalarForm, scalar?, isSome_decodeInt?_iff]
  | json => simp [breaksOff_eq_false_of_ne, InScalarForm, scalar?, isSome_json?_iff]
  | date => simp [breaksOff_eq_false_of_ne, InScalarForm, scalar?, isSome_date?_iff]
  | time => simp [breaksOff_eq_false_of_ne, InScalarForm, scalar?, isSome_time?_iff]
  | timestamp | timestamptz =>
    simp [breaksOff_eq_false_of_ne, InScalarForm, scalar?, isSome_moment?_iff]
  | text | other | arrayOf =>
    simp [breaksOff_eq_false_of_ne, InScalarForm, scalar?, isSome_text?_iff]

lemma json?_ne_null : json? raw ≠ some .null := by
  intro h
  simp only [json?, Option.bind_eq_bind, Option.bind_eq_some_iff, Option.pure_def, Option.some_inj,
    reduceCtorEq, and_false, exists_false] at h

/-- What is read of a scalar is not null. -/
lemma scalar?_ne_null : scalar? raw type ≠ some .null := by
  rw [scalar?.eq_def]
  cases type with
  | bool =>
    dsimp only
    split
    · simp
    · simp
  | jsonb =>
    dsimp only
    split
    · exact json?_ne_null
    · simp
  | json => exact json?_ne_null
  | _ => simp

/-! ## Arrays -/

/-- An item as it is written, with its length in front; a null has the length -1. -/
def itemBytes : Option (List UInt8) → List UInt8
  | none => BigEndian.encodeInt 4 (-1)
  | some raw => BigEndian.encodeInt 4 raw.length ++ raw

/-- An array as it is written: the number of its dimensions, whether it has nulls, the type of its
items, the length and the first index of each dimension, and the items. -/
def arrayBytes (hasNulls itemType : ℤ) (dimensions : List (ℕ × ℤ))
    (items : List (Option (List UInt8))) : List UInt8 :=
  BigEndian.encodeInt 4 dimensions.length ++
    (BigEndian.encodeInt 4 hasNulls ++ (BigEndian.encodeInt 4 itemType ++
      (dimensions.flatMap (fun d => BigEndian.encodeInt 4 d.1 ++ BigEndian.encodeInt 4 d.2) ++
        items.flatMap itemBytes)))

/-- The bytes are those of an array without dimensions, or with one and no null among its items,
each in the form of a type. -/
inductive IsArray (item : ColumnType) : List UInt8 → Prop
  | empty (hasNulls itemType : ℤ) : IsArray item (arrayBytes hasNulls itemType [] [])
  | vector (hasNulls itemType first : ℤ) (items : List (List UInt8)) : items.length < 2 ^ 31 →
    (∀ b ∈ items, b.length < 2 ^ 31 ∧ InScalarForm b item) →
      IsArray item (arrayBytes hasNulls itemType [(items.length, first)] (items.map some))

/-- The bytes of a cell are in the form of its type. -/
def InForm : ColumnType → List UInt8 → Prop
  | .arrayOf item, raw => IsArray item raw
  | type, raw => InScalarForm raw type

variable {n : ℕ} {rest : List UInt8}

lemma takeInt?_length (h : n < 2 ^ 31) (rest : List UInt8) :
    BigEndian.takeInt? 4 (BigEndian.encodeInt 4 n ++ rest) = some ((n : ℤ), rest) :=
  BigEndian.takeInt?_encodeInt (by omega) (by omega) rest

lemma items?_null (n : ℕ) (rest : List UInt8) :
    items? item (n + 1) (itemBytes none ++ rest) = none := by
  rw [items?, itemBytes, BigEndian.takeInt?_encodeInt (by decide) (by decide)]
  rfl

lemma items?_item (h : raw.length < 2 ^ 31) (n : ℕ) (rest : List UInt8) :
    items? item (n + 1) (itemBytes (some raw) ++ rest) =
      (scalar? raw item).bind fun v => (items? item n rest).map (v :: ·) := by
  rw [items?, itemBytes, List.append_assoc, takeInt?_length h]
  have hfits : ¬((raw.length : ℤ) < 0 ∨ (raw ++ rest).length < raw.length) := by
    simp
  simp only [Option.bind_eq_bind, Option.bind_some, Int.toNat_natCast, if_neg hfits,
    List.take_left, List.drop_left, Option.pure_def, Option.map_eq_bind, Function.comp_def]

/-- The items that are read were written, none of them as a null. -/
lemma exists_items_of_isSome (h : (items? item n raw).isSome = true) :
    ∃ items : List (List UInt8), items.length = n ∧ raw = (items.map some).flatMap itemBytes ∧
      ∀ b ∈ items, b.length < 2 ^ 31 ∧ (scalar? b item).isSome = true := by
  induction n generalizing raw with
  | zero =>
    rw [items?] at h
    split at h
    · rename_i hend
      exact ⟨[], rfl, List.isEmpty_iff.mp hend, by simp⟩
    · cases h
  | succ n ih =>
    obtain ⟨vs, hvs⟩ := Option.isSome_iff_exists.mp h
    rw [items?, Option.bind_eq_bind, Option.bind_eq_some_iff] at hvs
    obtain ⟨⟨length, rest⟩, htake, hvs⟩ := hvs
    obtain ⟨hraw, hlow, hhigh⟩ := BigEndian.takeInt?_eq_some htake
    dsimp only at hvs
    split at hvs
    · cases hvs
    rename_i hfits
    obtain ⟨hlength, hrest⟩ := not_or.mp hfits
    simp only [Option.bind_eq_bind, Option.bind_eq_some_iff] at hvs
    obtain ⟨v, hv, vs', hvs', -⟩ := hvs
    obtain ⟨items, hcount, hitems, hread⟩ := ih (Option.isSome_of_eq_some hvs')
    have htaken : (rest.take length.toNat).length = length.toNat :=
      List.length_take_of_le (Nat.le_of_not_lt hrest)
    have hcast : ((rest.take length.toNat).length : ℤ) = length := by omega
    refine ⟨rest.take length.toNat :: items, congrArg (· + 1) hcount, ?_, ?_⟩
    · rw [List.map_cons, List.flatMap_cons, ← hitems, itemBytes, hcast, List.append_assoc,
        List.take_append_drop, hraw]
    · rw [List.forall_mem_cons]
      exact ⟨⟨by omega, Option.isSome_of_eq_some hv⟩, hread⟩

/-- Items that are written without a null are read if each is. -/
lemma isSome_items?_flatMap {items : List (List UInt8)}
    (h : ∀ b ∈ items, b.length < 2 ^ 31 ∧ (scalar? b item).isSome = true) :
    (items? item items.length ((items.map some).flatMap itemBytes)).isSome = true := by
  induction items with
  | nil => rfl
  | cons b items ih =>
    obtain ⟨⟨hlength, hb⟩, hitems⟩ := List.forall_mem_cons.mp h
    obtain ⟨v, hv⟩ := Option.isSome_iff_exists.mp hb
    rw [List.map_cons, List.flatMap_cons, List.length_cons, items?_item hlength, hv,
      Option.bind_some, Option.isSome_map]
    exact ih hitems

/-- A null among the items spoils all of them. -/
lemma items?_eq_none_of_null {items : List (Option (List UInt8))} (hnull : none ∈ items)
    (h : ∀ b, some b ∈ items → b.length < 2 ^ 31) :
    items? item items.length (items.flatMap itemBytes) = none := by
  induction items with
  | nil => cases hnull
  | cons i items ih =>
    cases i with
    | none => exact items?_null ..
    | some b =>
      have hrest : none ∈ items := by simpa using hnull
      rw [List.flatMap_cons, List.length_cons, items?_item (h b List.mem_cons_self),
        ih hrest fun b hb => h b (List.mem_cons_of_mem _ hb)]
      exact Option.bind_fun_none _

lemma takeInt?_header (z : ℤ) (rest : List UInt8) :
    BigEndian.takeInt? 4 (BigEndian.encodeInt 4 z ++ rest) =
      some (BigEndian.decodeInt (BigEndian.encodeInt 4 z), rest) :=
  BigEndian.takeInt?_append (BigEndian.length_encodeInt 4 z) rest

lemma array?_empty (hasNulls itemType : ℤ) :
    array? item (arrayBytes hasNulls itemType [] []) = some (.array []) := by
  rw [array?, arrayBytes, List.length_nil, takeInt?_length (by decide)]
  simp only [Option.bind_eq_bind, Option.bind_some, takeInt?_header, Nat.cast_zero, if_true]
  rfl

lemma array?_vector {items : List (Option (List UInt8))} (h : items.length < 2 ^ 31)
    (hasNulls itemType first : ℤ) :
    array? item (arrayBytes hasNulls itemType [(items.length, first)] items) =
      (items? item items.length (items.flatMap itemBytes)).map .array := by
  rw [array?, arrayBytes, List.length_singleton, takeInt?_length (by decide)]
  simp only [Option.bind_eq_bind, Option.bind_some, takeInt?_header, List.flatMap_singleton,
    List.append_assoc, takeInt?_length h]
  have hlength : ¬(items.length : ℤ) < 0 := by omega
  rw [if_neg (by decide), if_pos (by decide), if_neg hlength, Int.toNat_natCast,
    Option.map_eq_bind]
  rfl

lemma breaksOff_item (h : item.hasArrays = true) : breaksOff item raw = false := by
  refine breaksOff_eq_false_of_ne ?_
  rintro rfl
  cases h

/-- An array that is read was written, without nulls. -/
lemma isArray_of_isSome (h : (array? item raw).isSome = true) : IsArray item raw := by
  obtain ⟨v, hv⟩ := Option.isSome_iff_exists.mp h
  simp only [array?, Option.bind_eq_bind, Option.bind_eq_some_iff, Prod.exists] at hv
  obtain ⟨dimensions, rest, hdimensions, hasNulls, rest', hnulls, itemType, rest'', htype, hv⟩ := hv
  obtain ⟨rfl, -, -⟩ := BigEndian.takeInt?_eq_some hdimensions
  obtain ⟨rfl, -, -⟩ := BigEndian.takeInt?_eq_some hnulls
  obtain ⟨rfl, -, -⟩ := BigEndian.takeInt?_eq_some htype
  split at hv
  · rename_i hzero
    subst hzero
    obtain ⟨vs, hvs, -⟩ := Option.bind_eq_some_iff.mp hv
    obtain ⟨items, hcount, rfl, -⟩ := exists_items_of_isSome (Option.isSome_of_eq_some hvs)
    obtain rfl := List.eq_nil_of_length_eq_zero hcount
    exact .empty hasNulls itemType
  split at hv
  · rename_i hone
    subst hone
    simp only [Option.bind_eq_some_iff, Prod.exists] at hv
    obtain ⟨length, rest, hlength, first, rest', hfirst, hv⟩ := hv
    obtain ⟨rfl, hlow, hhigh⟩ := BigEndian.takeInt?_eq_some hlength
    obtain ⟨rfl, -, -⟩ := BigEndian.takeInt?_eq_some hfirst
    split at hv
    · cases hv
    rename_i hcountable
    obtain ⟨vs, hvs, -⟩ := Option.bind_eq_some_iff.mp hv
    obtain ⟨items, hcount, rfl, hitems⟩ := exists_items_of_isSome (Option.isSome_of_eq_some hvs)
    have hcast : length = (items.length : ℤ) := by omega
    subst hcast
    have hform : IsArray item _ := .vector hasNulls itemType first items (by omega) fun b hb =>
      ⟨(hitems b hb).1, ((isSome_scalar?_iff b item).mp (hitems b hb).2).1⟩
    rw [arrayBytes, List.length_singleton, List.flatMap_singleton, List.append_assoc] at hform
    exact hform
  · cases hv

/-- An array is read exactly if it is in its form. -/
lemma isSome_array?_iff (h : item.hasArrays = true) (raw : List UInt8) :
    (array? item raw).isSome = true ↔ IsArray item raw := by
  refine ⟨isArray_of_isSome, ?_⟩
  rintro (⟨hasNulls, itemType⟩ | ⟨hasNulls, itemType, first, items, hcount, hitems⟩)
  · rw [array?_empty]
    rfl
  · have hcount' : (items.map some).length < 2 ^ 31 := by rwa [List.length_map]
    have hvector : array? item _ = _ := array?_vector hcount' hasNulls itemType first
    rw [List.length_map] at hvector
    rw [hvector, Option.isSome_map]
    refine isSome_items?_flatMap fun b hb => ⟨(hitems b hb).1, ?_⟩
    exact (isSome_scalar?_iff b item).mpr ⟨(hitems b hb).2, breaksOff_item h⟩

/-! ## Values of cells -/

lemma ofScalarName?_ne_arrayOf (name : String) :
    ColumnType.ofScalarName? name ≠ some (.arrayOf item) := by
  rw [ColumnType.ofScalarName?.eq_def]
  split <;> simp

/-- The type of a name is an array only of items whose arrays have a form of their own. -/
lemma hasArrays_of_ofName {name : String} (h : ColumnType.ofName name = .arrayOf item) :
    item.hasArrays = true := by
  rw [ColumnType.ofName] at h
  split at h
  · rename_i type hscalar
    exact (ofScalarName?_ne_arrayOf name (h ▸ hscalar)).elim
  split at h
  · split at h
    · split at h
      · rename_i harrays
        cases h
        exact harrays
      · cases h
    · cases h
  · cases h

lemma array?_ne_null : array? item raw ≠ some .null := by
  intro h
  simp only [array?, Option.bind_eq_bind, Option.bind_eq_some_iff, Prod.exists] at h
  obtain ⟨dimensions, rest, -, hasNulls, rest', -, itemType, rest'', -, h⟩ := h
  split at h
  · simp [Option.bind_eq_some_iff] at h
  split at h
  · simp only [Option.bind_eq_some_iff, Prod.exists] at h
    obtain ⟨length, rest, -, first, rest', -, h⟩ := h
    split at h
    · cases h
    · simp [Option.bind_eq_some_iff] at h
  · cases h

/-- What is read of a cell is not null. -/
lemma decode?_ne_null : decode? type raw ≠ some .null := by
  rw [decode?.eq_def]
  split
  · exact array?_ne_null
  · exact scalar?_ne_null

/-- A cell is read exactly if it is in its form and does not break the run off. -/
lemma isSome_decode?_iff (name : String) (raw : List UInt8) :
    (decode? (.ofName name) raw).isSome = true ↔
      InForm (.ofName name) raw ∧ breaksOff (.ofName name) raw = false := by
  by_cases harray : ∃ item, ColumnType.ofName name = .arrayOf item
  · obtain ⟨item, htype⟩ := harray
    rw [htype, breaksOff_eq_false_of_ne (by simp), eq_self, and_true]
    exact isSome_array?_iff (hasArrays_of_ofName htype) raw
  · have hscalar : ∀ item, ColumnType.ofName name = .arrayOf item → False :=
      fun item h => harray ⟨item, h⟩
    rw [decode?.eq_2 _ _ hscalar, InForm.eq_2 _ _ hscalar]
    exact isSome_scalar?_iff raw _

/-- A number that breaks the run off is in its form. -/
lemma inForm_of_breaksOff (h : breaksOff type raw = true) : InForm type raw := by
  rw [breaksOff, Bool.and_eq_true, beq_iff_eq] at h
  obtain ⟨rfl, hread⟩ := h
  refine Numeric.inForm_iff.mpr (.inr ?_)
  split at hread
  · assumption
  · cases hread

/-- A cell counts as null exactly if the server sent none, or one that is not in the form of its
column's type. -/
theorem value_eq_null_iff (name : String) (cell : Option (List UInt8)) :
    value (.ofName name) cell = some .null ↔
      ∀ raw, cell = some raw → ¬InForm (.ofName name) raw := by
  rw [value]
  cases cell with
  | none => simp
  | some raw =>
    have hread := isSome_decode?_iff name raw
    have hnull : decode? (.ofName name) raw ≠ some .null := decode?_ne_null
    rw [Option.any_some, Option.bind_some]
    constructor
    · intro h raw' hraw hform
      obtain rfl := Option.some_inj.mp hraw
      split at h
      · cases h
      rename_i hbreaks
      obtain ⟨v, hv⟩ := Option.isSome_iff_exists.mp (hread.mpr ⟨hform, by simpa using hbreaks⟩)
      rw [hv, Option.getD_some] at h
      exact hnull (hv.trans h)
    · intro hno
      have hform : ¬InForm (.ofName name) raw := hno raw rfl
      have hbreaks : ¬breaksOff (.ofName name) raw = true := fun h => hform (inForm_of_breaksOff h)
      have hnone : decode? (.ofName name) raw = none :=
        Option.not_isSome_iff_eq_none.mp fun h => hform (hread.mp h).1
      rw [if_neg hbreaks, hnone, Option.getD_none]

/-- A null among the items loses a whole array, with the items that are values. -/
theorem value_eq_null_of_null_item {items : List (Option (List UInt8))}
    (hcount : items.length < 2 ^ 31) (hitems : ∀ b, some b ∈ items → b.length < 2 ^ 31)
    (hnull : none ∈ items) (hasNulls itemType first : ℤ) :
    value (.arrayOf item)
      (some (arrayBytes hasNulls itemType [(items.length, first)] items)) = some .null := by
  have hread : decode? (.arrayOf item)
      (arrayBytes hasNulls itemType [(items.length, first)] items) = none := by
    rw [decode?, array?_vector hcount, items?_eq_none_of_null hnull hitems, Option.map_none]
  rw [value, Option.any_some, breaksOff_eq_false_of_ne (by simp), Option.bind_some, hread]
  rfl

/-- An array of three integers with a null in the middle is sent whole and read as null; so are a
moment that never comes and a number without its digits. -/
theorem cells_lost :
    value (.ofName "_int4") (some (arrayBytes 1 23 [(3, 1)]
      [some [0, 0, 0, 1], none, some [0, 0, 0, 3]])) = some .null ∧
    value (.ofName "timestamptz") (some (BigEndian.encodeInt 8 (2 ^ 63 - 1))) = some .null ∧
    value (.ofName "numeric") (some [0, 1, 0, 0, 0, 0, 0, 0]) = some .null :=
  ⟨rfl, rfl, rfl⟩

end Cell

end BulkValues.Postgres
