/-
# Rows keep their items

The items of a document of rows become one record each, in their order: the values of an array
by position, those of an object under its names.  Converted back, the fields of a record are the
item it came from.  The first item that is neither ends the reading, and its position is told.
-/
import BulkValues.Proofs.Fields
import BulkValues.Proofs.Json.Reading
import BulkValues.Proofs.Json.RoundTrip
import BulkValues.Record.Document

namespace BulkValues

/-- Whether a document is an array or an object. -/
def Json.isContainer : Json → Bool
  | .array _ => true
  | .object _ => true
  | _ => false

namespace Record

/-- Whether a record is the one of an item: positional for an array and named for an object, with
fields that convert back to the item. -/
def IsOf : Json → Record → Prop
  | .array items, .positional values => Value.toJsonItems values = items
  | .object fields, .named fs => Value.toJsonFields fs.entries = fields
  | _, _ => False

variable {item : Json} {items before after : List Json} {number : ℕ}

lemma fieldNames_ofJsonFields (fields : List (String × Json)) :
    fieldNames (Value.ofJsonFields fields) = fieldNames fields := by
  induction fields with
  | nil => rfl
  | cons f rest ih => exact congrArg (f.1 :: ·) ih

/-- An array or object becomes its record. -/
lemma exists_ofJson (hproper : item.isProper = true) (h : item.isContainer = true) :
    ∃ r, ofJson item = .ok r ∧ IsOf item r := by
  cases item with
  | array items => exact ⟨_, rfl, Value.toJsonItems_ofJsonItems items hproper⟩
  | object fields =>
    rw [Json.isProper, Json.all, Bool.and_eq_true, Json.isAscending_iff] at hproper
    have hnodup : (fieldNames (Value.ofJsonFields fields)).Nodup := by
      rw [fieldNames_ofJsonFields]
      exact hproper.1.imp fun hlt => hlt.ne
    refine ⟨_, rfl, ?_⟩
    rw [IsOf, Fields.entries_ofList hnodup]
    exact Value.toJsonFields_ofJsonFields fields hproper.2
  | null => cases h
  | bool b => cases h
  | number n => cases h
  | string s => cases h

/-- Anything else becomes none. -/
lemma ofJson_of_isContainer_eq_false (h : item.isContainer = false) :
    ofJson item = .error (.notARecord item.text) := by
  cases item with
  | array items => cases h
  | object fields => cases h
  | null => rfl
  | bool b => rfl
  | number n => rfl
  | string s => rfl

/-- Arrays and objects become one record each. -/
lemma exists_ofItems (hproper : ∀ item ∈ items, item.isProper = true)
    (h : ∀ item ∈ items, item.isContainer = true) :
    ∃ records, ofItems number items = .ok records ∧ List.Forall₂ IsOf items records := by
  induction items generalizing number with
  | nil => exact ⟨[], rfl, .nil⟩
  | cons item rest ih =>
    rw [List.forall_mem_cons] at hproper h
    obtain ⟨r, hr, hof⟩ := exists_ofJson hproper.1 h.1
    have hrest : ∃ records, ofItems (number + 1) rest = .ok records ∧
        List.Forall₂ IsOf rest records := ih hproper.2 h.2
    obtain ⟨records, hrecords, hall⟩ := hrest
    refine ⟨r :: records, ?_, .cons hof hall⟩
    rw [ofItems, hr]
    dsimp only
    rw [hrecords]
    rfl

/-- The first item that is no record ends the reading. -/
lemma ofItems_append (hproper : ∀ first ∈ before, first.isProper = true)
    (hbefore : ∀ first ∈ before, first.isContainer = true) (h : item.isContainer = false) :
    ofItems number (before ++ item :: after) =
      .error (.badRow (number + before.length) (.notARecord item.text)) := by
  induction before generalizing number with
  | nil =>
    rw [List.nil_append, ofItems, ofJson_of_isContainer_eq_false h]
    rfl
  | cons first rest ih =>
    rw [List.forall_mem_cons] at hproper hbefore
    obtain ⟨r, hr, -⟩ := exists_ofJson hproper.1 hbefore.1
    rw [List.cons_append, ofItems, hr]
    dsimp only
    rw [ih hproper.2 hbefore.2, List.length_cons, Nat.add_right_comm, Nat.add_assoc]
    rfl

/-- A proper document survives as a value, and a value of one as a document.  The text of an array
of arrays and objects gives one record for each item, which is that item; of any other array it
gives the position of the first item that is no record, and of anything else no position. -/
theorem readAll_roundTrip :
    (∀ doc : Json, doc.isProper = true → (Value.ofJson doc).toJson = doc) ∧
    (∀ v : Value, (∃ doc : Json, doc.isProper = true ∧ Value.ofJson doc = v) →
      Value.ofJson v.toJson = v) ∧
    ∀ (text : String) (doc : Json), Json.read? text = some doc →
      doc.isProper = true ∧
      (∀ items, doc = .array items → (∀ item ∈ items, item.isContainer = true) →
        ∃ records, readAll text = .ok records ∧ List.Forall₂ IsOf items records) ∧
      (∀ before item after, doc = .array (before ++ item :: after) →
        (∀ first ∈ before, first.isContainer = true) → item.isContainer = false →
          readAll text = .error (.badRow (before.length + 1) (.notARecord item.text))) ∧
      ((∀ items, doc ≠ .array items) → readAll text = .error .notAnArray) := by
  refine ⟨Value.toJson_ofJson, ?_, fun text doc hread => ?_⟩
  · rintro v ⟨doc, hdoc, rfl⟩
    rw [Value.toJson_ofJson doc hdoc]
  · have hproper := Json.isProper_of_read? hread
    have hrows : readAll text = ofDocument doc := by rw [readAll, hread]
    refine ⟨hproper, ?_, ?_, fun h => ?_⟩
    · rintro items rfl h
      rw [hrows]
      exact exists_ofItems (Json.allItems_iff.mp hproper) h
    · rintro before item after rfl hbefore h
      have hitems : ∀ first ∈ before, first.isProper = true := fun first hm =>
        Json.allItems_iff.mp hproper first (List.mem_append_left _ hm)
      rw [hrows, ofDocument, ofItems_append hitems hbefore h, Nat.add_comm]
    · rw [hrows, ofDocument]
      exact h

/-- Rows with the largest whole number, a negative zero and an object in an object. -/
def mixedRows : List Json :=
  [.array [.number (.natural (2 ^ 64 - 1)), .number (.float Number.Binary64.zero.neg)],
    .object [("a", .object [("b", .number (.negative (-1)))])]]

theorem readAll_roundTrip_mixed :
    (Value.ofJson (.array mixedRows)).toJson = .array mixedRows ∧
    Value.ofJson (Value.ofJson (.array mixedRows)).toJson = Value.ofJson (.array mixedRows) ∧
    (∃ records, readAll "[[18446744073709551615,-0],\x7b\"a\":\x7b\"b\":-1\x7d\x7d]" =
      .ok records ∧ List.Forall₂ IsOf mixedRows records) ∧
    readAll "[[],1,2]" = .error (.badRow 2 (.notARecord "1")) ∧
    readAll "\x7b\x7d" = .error .notAnArray := by
  obtain ⟨hdocument, hvalue, hrows⟩ := readAll_roundTrip
  have hproper : (Json.array mixedRows).isProper = true := by decide
  refine ⟨hdocument _ hproper, hvalue _ ⟨_, hproper, rfl⟩, ?_, ?_, ?_⟩
  · exact (hrows _ (.array mixedRows) (by cbv)).2.1 _ rfl (by decide)
  · exact (hrows _ (.array [.array [], .number (.natural 1), .number (.natural 2)]) (by cbv)).2.2.1
      [.array []] (.number (.natural 1)) [.number (.natural 2)] rfl (by decide) rfl
  · exact (hrows _ (.object []) (by cbv)).2.2.2 fun items h => Json.noConfusion h

end Record

end BulkValues
