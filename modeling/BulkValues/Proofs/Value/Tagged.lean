/-
# Stored forms come back

The stored form of a value is the text of a document, in which the type of every value stands beside
its content.  Reading takes that text back to the document and the document back to the value, with
its fields in their order and its dates and times in whatever year.
-/
import BulkValues.Proofs.Calendar.Reading
import BulkValues.Proofs.Fields
import BulkValues.Proofs.Json.Printed
import BulkValues.Value.Tagged

namespace BulkValues

open BulkValues.Calendar BulkValues.Number BulkValues.Text

/-! ## Identifiers -/

namespace Uuid

lemma ungroup?_groups {a b c d e : List Char} (ha : a.length = 8) (hb : b.length = 4)
    (hc : c.length = 4) (hd : d.length = 4) (he : e.length = 12) :
    ungroup? (a ++ '-' :: (b ++ '-' :: (c ++ '-' :: (d ++ '-' :: e)))) =
      some (a ++ b ++ c ++ d ++ e) := by
  simp [ungroup?, ha, hb, hc, hd, he, List.drop_append, List.getElem?_append,
    List.drop_of_length_le]

/-- The five groups of an identifier are its bytes. -/
lemma read?_text (u : Uuid) : read? u.text = some u := by
  have hlength : ∀ start len, start + len ≤ 16 →
      (hexChars ((u.bytes.drop start).take len)).length = 2 * len := by
    intro start len hle
    rw [length_hexChars, List.length_take, List.length_drop, u.length_eq]
    omega
  have htext : u.text.toList = hexChars ((u.bytes.drop 0).take 4) ++ '-' ::
      (hexChars ((u.bytes.drop 4).take 2) ++ '-' :: (hexChars ((u.bytes.drop 6).take 2) ++ '-' ::
        (hexChars ((u.bytes.drop 8).take 2) ++ '-' :: hexChars ((u.bytes.drop 10).take 6)))) := by
    simp [text, toList_hexText]
  have hbytes : (u.bytes.drop 0).take 4 ++ (u.bytes.drop 4).take 2 ++ (u.bytes.drop 6).take 2 ++
      (u.bytes.drop 8).take 2 ++ (u.bytes.drop 10).take 6 = u.bytes := by
    rw [List.drop_zero, ← List.take_add, ← List.take_add, ← List.take_add, ← List.take_add]
    exact List.take_of_length_le (Nat.le_of_eq u.length_eq)
  have hgroups := ungroup?_groups (hlength 0 4 (by decide)) (hlength 4 2 (by decide))
    (hlength 6 2 (by decide)) (hlength 8 2 (by decide)) (hlength 10 6 (by decide))
  rw [← htext, ← hexChars_append, ← hexChars_append, ← hexChars_append, ← hexChars_append,
    hbytes] at hgroups
  have hsize : u.text.toList.length = 36 := by
    rw [htext]
    simp only [List.length_append, List.length_cons, hlength 0 4 (by decide),
      hlength 4 2 (by decide), hlength 6 2 (by decide), hlength 8 2 (by decide),
      hlength 10 6 (by decide)]
  rw [read?, hsize, if_neg (by decide), if_pos rfl, hgroups, Option.bind_some, readHex?_hexChars,
    Option.bind_some]
  exact dif_pos u.length_eq

end Uuid

/-! ## Documents -/

namespace Json

variable {p : JsonNumber → Bool} {q : List String → Bool}

mutual

/-- Fewer demands on the names of objects. -/
lemma all_of_all : ∀ doc : Json, doc.all p q = true → doc.all p (fun _ => true) = true
  | .null, _ => rfl
  | .bool _, _ => rfl
  | .number _, h => h
  | .string _, _ => rfl
  | .array items, h => allItems_of_allItems items h
  | .object fields, h => by
    rw [all, Bool.and_eq_true] at h
    exact allFields_of_allFields fields h.2

lemma allItems_of_allItems : ∀ items : List Json, allItems p q items = true →
    allItems p (fun _ => true) items = true
  | [], _ => rfl
  | item :: rest, h => by
    rw [allItems, Bool.and_eq_true] at h ⊢
    exact ⟨all_of_all item h.1, allItems_of_allItems rest h.2⟩

lemma allFields_of_allFields : ∀ fields : List (String × Json), allFields p q fields = true →
    allFields p (fun _ => true) fields = true
  | [], _ => rfl
  | (name, value) :: rest, h => by
    rw [allFields, Bool.and_eq_true] at h ⊢
    exact ⟨all_of_all value h.1, allFields_of_allFields rest h.2⟩

end

mutual

/-- A document whose fields are sorted is normal. -/
lemma normalize_of_all : ∀ doc : Json, doc.all p isAscending = true → doc.normalize = doc
  | .null, _ => rfl
  | .bool _, _ => rfl
  | .number _, _ => rfl
  | .string _, _ => rfl
  | .array items, h => by
    rw [normalize, normalizeItems_of_all items h]
  | .object fields, h => by
    rw [all, Bool.and_eq_true] at h
    rw [normalize, normalizeFields_of_all fields h.2,
      sortFields_of_pairwise (isAscending_iff.mp h.1)]

lemma normalizeItems_of_all : ∀ items : List Json, allItems p isAscending items = true →
    normalizeItems items = items
  | [], _ => rfl
  | item :: rest, h => by
    rw [allItems, Bool.and_eq_true] at h
    rw [normalizeItems, normalize_of_all item h.1, normalizeItems_of_all rest h.2]

lemma normalizeFields_of_all : ∀ fields : List (String × Json),
    allFields p isAscending fields = true → normalizeFields fields = fields
  | [], _ => rfl
  | (name, value) :: rest, h => by
    rw [allFields, Bool.and_eq_true] at h
    rw [normalizeFields, normalize_of_all value h.1, normalizeFields_of_all rest h.2]

end

lemma numberText_ofInt (z : ℤ) : numberText (.ofInt z) = toString z := by
  rw [JsonNumber.ofInt]
  split
  · rename_i hz
    obtain ⟨n, rfl⟩ := Int.eq_ofNat_of_zero_le hz
    rfl
  · rfl

lemma isWhole_ofInt {z : ℤ} (hlow : -2 ^ 63 ≤ z) (hhigh : z < 2 ^ 63) :
    (JsonNumber.ofInt z).isWhole = true := by
  rw [JsonNumber.ofInt]
  split
  · rw [JsonNumber.isWhole, decide_eq_true_eq]
    omega
  · rw [JsonNumber.isWhole, Bool.and_eq_true, decide_eq_true_eq, decide_eq_true_eq]
    omega

end Json

namespace Value

/-! ## Stored forms as documents -/

mutual

/-- Whether the stored form of a value says all of it: there are no floats in it, its documents are
proper and without floats as well, and its mappings have no name twice. -/
def isExact : Value → Bool
  | float32 _ => false
  | float64 _ => false
  | json doc => doc.all JsonNumber.isWhole Json.isAscending
  | array items => areExact items
  | map fields => (fieldNames fields).Nodup && fieldsExact fields
  | _ => true

/-- `isExact` for every item. -/
def areExact : List Value → Bool
  | [] => true
  | item :: rest => isExact item && areExact rest

/-- `isExact` for the value of every field. -/
def fieldsExact : List (String × Value) → Bool
  | [] => true
  | (_, item) :: rest => isExact item && fieldsExact rest

end

/-- The document of a content behind the name of its type. -/
def tagDocument (name : String) (content : Json) : Json := .object [(name, content)]

mutual

/-- The document that the stored form of a value is the text of. Floats are left out. -/
def document : Value → Json
  | null => .string "Null"
  | bool b => tagDocument "Bool" (.bool b)
  | int16 n => tagDocument "Int16" (.ofInt n.toInt)
  | int32 n => tagDocument "Int32" (.ofInt n.toInt)
  | int64 n => tagDocument "Int64" (.ofInt n.toInt)
  | float32 _ => .null
  | float64 _ => .null
  | decimal text => tagDocument "Decimal" (.string text)
  | string s => tagDocument "String" (.string s)
  | bytes bs => tagDocument "Bytes" (.array (bs.map fun b => .number (.natural b.toNat)))
  | uuid u => tagDocument "Uuid" (.string u.text)
  | date d => tagDocument "Date" (.string d.text)
  | time t => tagDocument "Time" (.string t.text)
  | dateTime t => tagDocument "DateTime" (.string t.isoText)
  | instant t => tagDocument "DateTimeUtc" (.string (t.isoText ++ "Z"))
  | json doc => tagDocument "Json" doc
  | array items => tagDocument "Array" (.array (documents items))
  | map fields => tagDocument "Map" (.object (fieldDocuments fields))

/-- The documents of values. -/
def documents : List Value → List Json
  | [] => []
  | item :: rest => document item :: documents rest

/-- The documents of fields, under their names. -/
def fieldDocuments : List (String × Value) → List (String × Json)
  | [] => []
  | (name, item) :: rest => (name, document item) :: fieldDocuments rest

end

lemma text_tagDocument (name : String) (content : Json) :
    (tagDocument name content).text = tag name content.text := by
  simp [tagDocument, tag, Json.text, Json.fieldsText, String.append_assoc]

lemma text_bytes (bs : List UInt8) :
    (Json.array (bs.map fun b => .number (.natural b.toNat))).text = bytesText bs := by
  rw [← String.toList_inj, Json.toList_array, bytesText]
  simp only [String.toList_append, String.toList_intercalate, List.map_map]
  rfl

mutual

/-- A stored form is the text of its document. -/
lemma text_document : ∀ v : Value, v.isExact = true → v.document.text = v.tagged
  | null, _ => rfl
  | bool b, _ => by
    rw [document, text_tagDocument, tagged, Json.text]
  | int16 n, _ => by
    rw [document, text_tagDocument, tagged, Json.ofInt, Json.text, Json.numberText_ofInt]
  | int32 n, _ => by
    rw [document, text_tagDocument, tagged, Json.ofInt, Json.text, Json.numberText_ofInt]
  | int64 n, _ => by
    rw [document, text_tagDocument, tagged, Json.ofInt, Json.text, Json.numberText_ofInt]
  | decimal text, _ => by
    rw [document, text_tagDocument, tagged, Json.text]
  | string s, _ => by
    rw [document, text_tagDocument, tagged, Json.text]
  | bytes bs, _ => by
    rw [document, text_tagDocument, tagged, text_bytes]
  | uuid u, _ => by
    rw [document, text_tagDocument, tagged, Json.text]
  | date d, _ => by
    rw [document, text_tagDocument, tagged, Json.text]
  | time t, _ => by
    rw [document, text_tagDocument, tagged, Json.text]
  | dateTime t, _ => by
    rw [document, text_tagDocument, tagged, Json.text]
  | instant t, _ => by
    rw [document, text_tagDocument, tagged, Json.text]
  | json doc, _ => by
    rw [document, text_tagDocument, tagged]
  | array items, h => by
    rw [document, text_tagDocument, tagged, Json.text, itemsText_documents items h]
  | map fields, h => by
    rw [isExact, Bool.and_eq_true] at h
    rw [document, text_tagDocument, tagged, Json.text, fieldsText_fieldDocuments fields h.2]

lemma itemsText_documents : ∀ items : List Value, areExact items = true →
    Json.itemsText (documents items) = taggedItems items
  | [], _ => rfl
  | [item], h => by
    rw [areExact, Bool.and_eq_true] at h
    rw [documents, documents, Json.itemsText, taggedItems, text_document item h.1]
  | item :: next :: rest, h => by
    rw [areExact, Bool.and_eq_true] at h
    have hrest := itemsText_documents (next :: rest) h.2
    have hne : documents (next :: rest) ≠ [] := List.cons_ne_nil _ _
    rw [documents, Json.itemsText.eq_3 _ _ hne, text_document item h.1, hrest]
    rfl

lemma fieldsText_fieldDocuments : ∀ fields : List (String × Value), fieldsExact fields = true →
    Json.fieldsText (fieldDocuments fields) = taggedFields fields
  | [], _ => rfl
  | [(name, item)], h => by
    rw [fieldsExact, Bool.and_eq_true] at h
    rw [fieldDocuments, fieldDocuments, Json.fieldsText, taggedFields, text_document item h.1]
  | (name, item) :: next :: rest, h => by
    rw [fieldsExact, Bool.and_eq_true] at h
    have hrest := fieldsText_fieldDocuments (next :: rest) h.2
    have hne : fieldDocuments (next :: rest) ≠ [] := List.cons_ne_nil _ _
    rw [fieldDocuments, Json.fieldsText.eq_3 _ _ _ hne, text_document item h.1, hrest]
    rfl

end

lemma all_tagDocument {name : String} {content : Json}
    (h : content.all JsonNumber.isWhole (fun _ => true) = true) :
    (tagDocument name content).all JsonNumber.isWhole (fun _ => true) = true := by
  rw [tagDocument, Json.all, Json.allFields, Json.allFields, h]
  rfl

mutual

/-- The numbers of a stored form are whole. -/
lemma all_document : ∀ v : Value, v.isExact = true →
    v.document.all JsonNumber.isWhole (fun _ => true) = true
  | null, _ => rfl
  | bool _, _ => rfl
  | int16 n, _ => by
    have hlow := n.le_toInt
    have hhigh := n.toInt_lt
    exact all_tagDocument (Json.isWhole_ofInt (by omega) (by omega))
  | int32 n, _ => by
    have hlow := n.le_toInt
    have hhigh := n.toInt_lt
    exact all_tagDocument (Json.isWhole_ofInt (by omega) (by omega))
  | int64 n, _ => all_tagDocument (Json.isWhole_ofInt n.le_toInt n.toInt_lt)
  | decimal _, _ => rfl
  | string _, _ => rfl
  | bytes bs, _ => by
    refine all_tagDocument (Json.allItems_iff.mpr fun item hitem => ?_)
    obtain ⟨b, -, rfl⟩ := List.mem_map.mp hitem
    have hb := b.toNat_lt
    rw [Json.all, JsonNumber.isWhole, decide_eq_true_eq]
    omega
  | uuid _, _ => rfl
  | date _, _ => rfl
  | time _, _ => rfl
  | dateTime _, _ => rfl
  | instant _, _ => rfl
  | json doc, h => all_tagDocument (Json.all_of_all doc h)
  | array items, h => all_tagDocument (allItems_documents items h)
  | map fields, h => by
    rw [isExact, Bool.and_eq_true] at h
    exact all_tagDocument (allFields_fieldDocuments fields h.2)

lemma allItems_documents : ∀ items : List Value, areExact items = true →
    Json.allItems JsonNumber.isWhole (fun _ => true) (documents items) = true
  | [], _ => rfl
  | item :: rest, h => by
    rw [areExact, Bool.and_eq_true] at h
    rw [documents, Json.allItems, Bool.and_eq_true]
    exact ⟨all_document item h.1, allItems_documents rest h.2⟩

lemma allFields_fieldDocuments : ∀ fields : List (String × Value), fieldsExact fields = true →
    Json.allFields JsonNumber.isWhole (fun _ => true) (fieldDocuments fields) = true
  | [], _ => rfl
  | (name, item) :: rest, h => by
    rw [fieldsExact, Bool.and_eq_true] at h
    rw [fieldDocuments, Json.allFields, Bool.and_eq_true]
    exact ⟨all_document item h.1, allFields_fieldDocuments rest h.2⟩

end

/-! ## Reading -/

lemma untag_tagDocument {name : String} (harray : name ≠ "Array") (hmap : name ≠ "Map")
    (content : Json) : untag (tagDocument name content) = untagScalar name content :=
  untag.eq_4 name content (fun _ h _ => harray h) (fun _ h _ => hmap h)

/-- An integer of a type is within its bounds. -/
lemma untagInt_ofInt {bound : ℕ} {z : ℤ} (hlow : -bound ≤ z) (hhigh : z < bound) :
    untagInt bound (.ofInt z) = some z := by
  rw [Json.ofInt, JsonNumber.ofInt]
  split
  · rename_i hz
    obtain ⟨n, rfl⟩ := Int.eq_ofNat_of_zero_le hz
    rw [untagInt, Int.toNat_natCast, if_pos (by omega)]
  · rw [untagInt, if_pos (by omega)]

lemma untagBytes_map (bs : List UInt8) :
    untagBytes (bs.map fun b => .number (.natural b.toNat)) = some bs := by
  induction bs with
  | nil => rfl
  | cons b bs ih =>
    rw [List.map_cons, untagBytes, if_pos b.toNat_lt, ih, UInt8.ofNat_toNat]
    rfl

mutual

/-- A value is read from its document. -/
lemma untag_document : ∀ v : Value, v.isExact = true → untag v.document = some v
  | null, _ => rfl
  | bool b, _ => by
    rw [document, untag_tagDocument (by decide) (by decide)]
    rfl
  | int16 n, _ => by
    rw [document, untag_tagDocument (by decide) (by decide)]
    simp only [untagScalar]
    rw [untagInt_ofInt n.le_toInt n.toInt_lt, Option.map_some, Int16.ofInt_toInt]
  | int32 n, _ => by
    rw [document, untag_tagDocument (by decide) (by decide)]
    simp only [untagScalar]
    rw [untagInt_ofInt n.le_toInt n.toInt_lt, Option.map_some, Int32.ofInt_toInt]
  | int64 n, _ => by
    rw [document, untag_tagDocument (by decide) (by decide)]
    simp only [untagScalar]
    rw [untagInt_ofInt n.le_toInt n.toInt_lt, Option.map_some, Int64.ofInt_toInt]
  | decimal text, _ => by
    rw [document, untag_tagDocument (by decide) (by decide)]
    rfl
  | string s, _ => by
    rw [document, untag_tagDocument (by decide) (by decide)]
    rfl
  | bytes bs, _ => by
    rw [document, untag_tagDocument (by decide) (by decide)]
    simp only [untagScalar]
    rw [untagBytes_map, Option.map_some]
  | uuid u, _ => by
    rw [document, untag_tagDocument (by decide) (by decide)]
    simp only [untagScalar, untagString, Option.bind_some]
    rw [u.read?_text, Option.map_some]
  | date d, _ => by
    rw [document, untag_tagDocument (by decide) (by decide)]
    simp only [untagScalar, untagString, Option.bind_some]
    rw [d.read?_text, Option.map_some]
  | time t, _ => by
    rw [document, untag_tagDocument (by decide) (by decide)]
    simp only [untagScalar, untagString, Option.bind_some]
    rw [t.read?_text, Option.map_some]
  | dateTime t, _ => by
    rw [document, untag_tagDocument (by decide) (by decide)]
    simp only [untagScalar, untagString, Option.bind_some]
    rw [t.read?_isoText, Option.map_some]
  | instant t, _ => by
    rw [document, untag_tagDocument (by decide) (by decide)]
    simp only [untagScalar, untagString, Option.bind_some]
    rw [t.readInstant?_isoText, Option.map_some]
  | json doc, h => by
    rw [document, untag_tagDocument (by decide) (by decide)]
    simp only [untagScalar]
    rw [Json.normalize_of_all doc h]
  | array items, h => by
    rw [document, tagDocument, untag, untagItems_documents items h, Option.map_some]
  | map fields, h => by
    rw [isExact, Bool.and_eq_true, decide_eq_true_eq] at h
    rw [document, tagDocument, untag, untagFields_fieldDocuments fields h.2, Option.map_some,
      orderByArrival_of_nodup h.1]

lemma untagItems_documents : ∀ items : List Value, areExact items = true →
    untagItems (documents items) = some items
  | [], _ => rfl
  | item :: rest, h => by
    rw [areExact, Bool.and_eq_true] at h
    rw [documents, untagItems, untag_document item h.1, untagItems_documents rest h.2]
    rfl

lemma untagFields_fieldDocuments : ∀ fields : List (String × Value), fieldsExact fields = true →
    untagFields (fieldDocuments fields) = some fields
  | [], _ => rfl
  | (name, item) :: rest, h => by
    rw [fieldsExact, Bool.and_eq_true] at h
    rw [fieldDocuments, untagFields, untag_document item h.1,
      untagFields_fieldDocuments rest h.2]
    rfl

end

/-- **Stored forms come back.**  A value without floats, neither as values in it nor in the numbers
of its documents, is read from the text of its stored form, if that nests no more containers than
the reader goes into. -/
theorem readTagged?_tagged {v : Value} (h : v.isExact = true)
    (hnesting : v.document.nesting ≤ 127) : readTagged? v.tagged = some v := by
  rw [readTagged?, ← text_document v h, Json.readVerbatim?_text (all_document v h) hnesting,
    Option.bind_some, untag_document v h]

/-- A mapping whose names do not ascend, a day before the common era, a leap second in a year of
five digits and a document. -/
theorem readTagged?_tagged_mapping :
    let day : Date := ⟨-44, 3, 15, by decide⟩
    let moment : DateTime := ⟨⟨10000, 12, 31, by decide⟩, ⟨86399, 1500000000, by decide⟩⟩
    let doc : Json := .object [("n", .number (.negative (-1))), ("s", .string "\x00\"")]
    let v : Value :=
      .map [("b", .array [.date day, .instant moment, .null]), ("a", .json doc), ("", .bytes [255])]
    (v.isExact = true ∧ v.document.nesting ≤ 127) ∧ readTagged? v.tagged = some v := by
  intro day moment doc v
  have hexact : v.isExact = true := by decide +kernel
  have hnesting : v.document.nesting ≤ 127 := by decide
  exact ⟨⟨hexact, hnesting⟩, readTagged?_tagged hexact hnesting⟩

end Value

end BulkValues
