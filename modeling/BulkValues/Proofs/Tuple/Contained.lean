/-
# Nothing gets out of its slot

The text that is put into a site can be taken apart again by a scanner that knows nothing but
strings and brackets.  It falls into one tuple for every record, in order, and a tuple falls into
its slots: whatever the values are, a slot holds the literal of the value that is bound to it and
its cast, and nothing else.
-/
import BulkValues.Proofs.Batch.Checks
import BulkValues.Proofs.Batch.Rendering
import BulkValues.Proofs.Tuple.Casts
import BulkValues.Proofs.Tuple.Literals

namespace BulkValues.Tuples

/-- The value that a record binds to slot number `i`: by position, or by the name of the slot. -/
def bound (t : Template) (r : Record) (i : ℕ) : Option Value :=
  match t, r with
  | .named slots, .named fields => slots[i]?.bind fun slot => fields.get? slot.name
  | .positional _, .positional values => values[i]?
  | _, _ => none

/-- The cast of slot number `i`. -/
def castAt (t : Template) (i : ℕ) : Option Cast := t.slots[i]?.bind fun slot => slot.2

/-- The texts of the slots of a template: each is the literal of the value that is bound to it,
with its cast. -/
structure Slots (t : Template) (lit : Literals) (r : Record) (texts : List String) : Prop where
  length : texts.length = t.size
  slot : ∀ i text, texts[i]? = some text → ∃ v literal, bound t r i = some v ∧
    lit v = .ok literal ∧ text = literal ++ Cast.suffixOf (castAt t i)

/-- A tuple in parentheses, which falls into its slots at its own commas. Slots after the first
have a blank before them. -/
def IsTuple (t : Template) (lit : Literals) (r : Record) (tuple : List Char) : Prop :=
  ∃ inside texts, tuple = '(' :: (inside ++ [')']) ∧
    split inside = some (gapped [' '] (texts.map String.toList)) ∧ Slots t lit r texts

variable {t : Template} {lit : Literals} {row : ℕ} {r : Record} {texts : List String}

/-! ## The texts of the slots -/

lemma renderSlot_eq_ok {cast : Option Cast} {v : Value} {text : String}
    (h : Template.renderSlot lit cast v = .ok text) :
    ∃ literal, lit v = .ok literal ∧ text = literal ++ Cast.suffixOf cast := by
  rw [Template.renderSlot, bind_eq_ok] at h
  obtain ⟨literal, hliteral, h⟩ := h
  exact ⟨literal, hliteral, (Except.ok.inj h).symm⟩

lemma slots_of_renderNamed {shown : String} {fields : Fields Value} {slots : List NamedSlot}
    (h : Template.renderNamed lit shown row fields slots = .ok texts) :
    Slots (.named slots) lit (.named fields) texts := by
  induction slots generalizing texts with
  | nil =>
    cases h
    exact ⟨rfl, nofun⟩
  | cons slot rest ih =>
    rw [Template.renderNamed] at h
    cases hget : fields.get? slot.name with
    | none =>
      rw [hget] at h
      cases h
    | some v =>
      simp only [hget, bind_eq_ok] at h
      obtain ⟨_, hv, text, htext, texts, htexts, h⟩ := h
      cases hv
      cases h
      obtain ⟨hlength, hslots⟩ := ih htexts
      obtain ⟨literal, hliteral, rfl⟩ := renderSlot_eq_ok htext
      refine ⟨congrArg (· + 1) hlength, fun i text htext => ?_⟩
      cases i with
      | zero =>
        cases htext
        exact ⟨v, literal, hget, hliteral, rfl⟩
      | succ i => exact hslots i text htext

lemma slots_of_renderPositional {casts : List (Option Cast)} {values : List Value}
    (hlength : values.length = casts.length)
    (h : Template.renderPositional lit casts values = .ok texts) :
    Slots (.positional casts) lit (.positional values) texts := by
  induction casts generalizing values texts with
  | nil =>
    rw [Template.renderPositional] at h
    · cases h
      exact ⟨rfl, nofun⟩
    · exact nofun
  | cons cast casts ih =>
    obtain ⟨v, values, rfl⟩ := List.exists_cons_of_length_eq_add_one hlength
    rw [Template.renderPositional] at h
    simp only [bind_eq_ok] at h
    obtain ⟨text, htext, texts, htexts, h⟩ := h
    cases h
    obtain ⟨hlength', hslots⟩ := ih (Nat.succ.inj hlength) htexts
    obtain ⟨literal, hliteral, rfl⟩ := renderSlot_eq_ok htext
    refine ⟨congrArg (· + 1) hlength', fun i text htext => ?_⟩
    cases i with
    | zero =>
      cases htext
      exact ⟨v, literal, rfl, hliteral, rfl⟩
    | succ i => exact hslots i text htext

lemma slots_of_renderSlots (h : t.renderSlots lit row r = .ok texts) : Slots t lit r texts := by
  unfold Template.renderSlots at h
  split at h
  · exact slots_of_renderNamed h
  · split at h
    · exact slots_of_renderPositional ‹_› h
    · cases h
  · cases h

/-! ## Tuples -/

variable {d : Dialect} {tuple : String}

/-- The text of a slot is closed: the literal is, and so is the cast. -/
lemma closed_of_mem_slots (hcasts : ∀ slot ∈ t.slots, ClosedCast slot.2)
    (h : Slots t d.literal r texts) : ∀ w ∈ texts.map String.toList, Closed w := by
  intro w hw
  obtain ⟨text, htext, rfl⟩ := List.mem_map.mp hw
  obtain ⟨i, hi⟩ := List.getElem?_of_mem htext
  obtain ⟨v, literal, -, hliteral, rfl⟩ := h.slot i text hi
  have hcast : ClosedCast (castAt t i) := by
    intro c hc
    obtain ⟨slot, hslot, hc⟩ := Option.bind_eq_some_iff.mp hc
    exact hcasts slot (List.mem_of_getElem? hslot) c hc
  rw [String.toList_append]
  exact (closed_literal hliteral).append (closed_suffixOf hcast)

lemma isTuple_of_render (hcasts : ∀ slot ∈ t.slots, ClosedCast slot.2) (hslots : t.size ≠ 0)
    (h : t.render d.literal row r = .ok tuple) :
    IsTuple t d.literal r tuple.toList ∧ Closed tuple.toList := by
  rw [Template.render, bind_eq_ok] at h
  obtain ⟨texts, htexts, h⟩ := h
  have htexts := slots_of_renderSlots htexts
  have hclosed := closed_of_mem_slots hcasts htexts
  have hgap : Closed [' '] := closed_of_plain (by decide)
  have hne : texts.map String.toList ≠ [] := by
    rw [← List.length_pos_iff, List.length_map, htexts.length]
    exact Nat.pos_of_ne_zero hslots
  have htuple : tuple.toList =
      '(' :: ([',', ' '].intercalate (texts.map String.toList) ++ [')']) := by
    rw [← Except.ok.inj h, String.toList_append, String.toList_append,
      String.toList_intercalate]
    rfl
  rw [htuple]
  exact ⟨⟨_, texts, rfl, split_intercalate hgap hclosed hne, htexts⟩,
    (nested_intercalate hgap hclosed).parentheses⟩

/-! ## The whole statement -/

/-- The text between the head and the tail of a statement is a list of tuples, one for every
record, whose slots hold the literals of their values and their casts. -/
theorem slots_contained (d : Dialect) {pattern : String} {t : Template} {site : Site}
    {first : ℕ} {page : List Record} {sql : String}
    (htemplate : Template.parseValid pattern = .ok t) (hpage : page ≠ [])
    (hsql : composePage site t d.literal first page = .ok sql) :
    ∃ inserted tuples, sql.toList = site.head ++ ' ' :: (inserted ++ site.tail) ∧
      split inserted = some tuples ∧
      List.Forall₂ (fun r tuple => IsTuple t d.literal r.adapt tuple) page tuples := by
  obtain ⟨-, rfl, hslots⟩ := Batch.parseValid_eq_ok htemplate
  have hcasts : ∀ slot ∈ (Template.ofChars pattern.toList).slots, ClosedCast slot.2 :=
    fun slot hslot => closedCast_of_mem_slots hslot
  rw [composePage, bind_eq_ok] at hsql
  obtain ⟨tuples, htuples, hsql⟩ := hsql
  have hrender : List.Forall₂ (fun r tuple =>
      IsTuple (Template.ofChars pattern.toList) d.literal r.adapt tuple.toList ∧
        Closed tuple.toList) page tuples :=
    (forall₂_renderPage htuples).imp fun r tuple ⟨row, h⟩ => isTuple_of_render hcasts hslots h
  have hclosed : ∀ w ∈ tuples.map String.toList, Closed w := by
    intro w hw
    obtain ⟨tuple, htuple, rfl⟩ := List.mem_map.mp hw
    obtain ⟨i, hi, rfl⟩ := List.getElem_of_mem htuple
    have hlength := hrender.length_eq
    exact (hrender.get (by omega) hi).2
  have hne : tuples.map String.toList ≠ [] := by
    rw [← List.length_pos_iff, List.length_map, length_renderPage htuples, List.length_pos_iff]
    exact hpage
  -- Tuples are cut at the commas between them only, because each of them is closed.
  have hsplit := split_intercalate closed_nil hclosed hne
  rw [gapped_nil] at hsplit
  refine ⟨_, _, ?_, hsplit, ?_⟩
  · rw [← Except.ok.inj hsql, Site.splice, String.toList_append, String.toList_append,
      String.toList_append, String.toList_intercalate]
    simp
  · rw [List.forall₂_map_right_iff]
    exact hrender.imp fun r tuple h => h.1

/-- A string that tries to end the statement, and an array of arrays, behind casts with commas. -/
theorem slots_contained_hostile :
    let pattern := "(%s::numeric(10, 2), %s)"
    let t : Template := .positional [some ⟨"numeric(10, 2)".toList⟩, none]
    let site : Site := ⟨"INSERT INTO t VALUES".toList, " RETURNING id".toList⟩
    let page : List Record :=
      [.positional [.string "'); DROP TABLE t; --", .array [.int64 (-1), .array [.string "],("]]],
        .positional [.null, .decimal "-1.5e-3"]]
    let sql := "INSERT INTO t VALUES ('''); DROP TABLE t; --'::numeric(10, 2), " ++
      "ARRAY[-1, ARRAY['],(']]),(NULL::numeric(10, 2), -1.5e-3) RETURNING id"
    (Template.parseValid pattern = .ok t ∧ page ≠ [] ∧
      composePage site t (Dialect.literal .postgres) 0 page = .ok sql) ∧
      ∃ inserted tuples, sql.toList = site.head ++ ' ' :: (inserted ++ site.tail) ∧
        split inserted = some tuples ∧
        List.Forall₂ (fun r tuple => IsTuple t (Dialect.literal .postgres) r.adapt tuple) page
          tuples := by
  intro pattern t site page sql
  have htemplate : Template.parseValid pattern = .ok t := by decide +kernel
  have hpage : page ≠ [] := nofun
  have hsql : composePage site t (Dialect.literal .postgres) 0 page = .ok sql := by
    unfold site t page sql
    cbv
  exact ⟨⟨htemplate, hpage, hsql⟩, slots_contained .postgres htemplate hpage hsql⟩

end BulkValues.Tuples
