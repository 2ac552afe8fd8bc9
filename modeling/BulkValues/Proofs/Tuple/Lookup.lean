/-
# Names stand for positions

A named template looks up the value of each slot among the fields of a record.  What comes of it is
what a positional template with the same casts makes of the values that were found: the order of the
fields does not matter, and neither do fields that no slot asks for.

A record can fail to fit a template in three ways.  It is of the other kind, it has another length,
or it lacks a field.  Fields and literals are gone through in the order of the slots, and the first
failure of either kind is the one that is reported.
-/
import BulkValues.Batch.Tuple
import BulkValues.Proofs.Except
import BulkValues.Proofs.Fields
import Mathlib.Data.List.Forall2
import Mathlib.Data.List.Nodup

namespace BulkValues

/-! ## Records that do not fit -/

/-- An error of a composition that says which record it is about. -/
structure Error.NamesRow (row : ℕ) (e : Error) : Prop where
  kind : e.kind = .composition
  detail : ∃ what, e.detail = "row " ++ toString row ++ " " ++ what

lemma Error.namesRow_wrongKind {row : ℕ} {found shown expected : String} :
    (wrongKind row found shown expected).NamesRow row := by
  have hspace : " is " = " " ++ "is " := rfl
  refine ⟨rfl, "is " ++ found ++ " but template " ++ shown ++ " expects " ++ expected ++
    " rows", ?_⟩
  change "row " ++ toString row ++ " is " ++ found ++ " but template " ++ shown ++ " expects " ++
    expected ++ " rows" = _
  simp only [hspace, String.append_assoc]

lemma Error.namesRow_wrongLength {row values slots : ℕ} {shown : String} :
    (wrongLength row values shown slots).NamesRow row := by
  have hspace : " has " = " " ++ "has " := rfl
  refine ⟨rfl, "has " ++ toString values ++ " values but template " ++ shown ++ " has " ++
    toString slots ++ " placeholders", ?_⟩
  change "row " ++ toString row ++ " has " ++ toString values ++ " values but template " ++ shown ++
    " has " ++ toString slots ++ " placeholders" = _
  simp only [hspace, String.append_assoc]

lemma Error.namesRow_missingField {row : ℕ} {name shown : String} :
    (missingField row name shown).NamesRow row := by
  have hspace : " has no field `" = " " ++ "has no field `" := rfl
  refine ⟨rfl, "has no field `" ++ name ++ "` required by template " ++ shown, ?_⟩
  change "row " ++ toString row ++ " has no field `" ++ name ++ "` required by template " ++
    shown = _
  simp only [hspace, String.append_assoc]

namespace Template

/-- The ways in which a record does not fit a template. -/
inductive Misfit (t : Template) (row : ℕ) (r : Record) : Error → Prop
  | kind (h : r.kind ≠ t.mode) : Misfit t row r (.wrongKind row r.kind t.display t.mode)
  | length {casts : List (Option Cast)} {values : List Value} (ht : t = .positional casts)
      (hr : r = .positional values) (h : values.length ≠ casts.length) :
      Misfit t row r (.wrongLength row values.length t.display casts.length)
  | missing {slots : List NamedSlot} {slot : NamedSlot} {fields : Fields Value}
      (ht : t = .named slots) (hr : r = .named fields) (hslot : slot ∈ slots)
      (h : fields.get? slot.name = none) :
      Misfit t row r (.missingField row slot.name t.display)

variable {t : Template} {lit : Literals} {shown : String} {row : ℕ} {r : Record} {e : Error}
  {slots : List NamedSlot} {casts : List (Option Cast)} {values : List Value}
  {fields fields' : Fields Value}

/-! ## Slots one after the other -/

lemma render_eq_error : t.render lit row r = .error e ↔ t.renderSlots lit row r = .error e := by
  rw [render, bind_eq_error, or_iff_left]
  rintro ⟨_, -, h⟩
  cases h

lemma renderSlot_eq_error {cast : Option Cast} {v : Value} :
    renderSlot lit cast v = .error e ↔ lit v = .error e := by
  rw [renderSlot, bind_eq_error, or_iff_left]
  rintro ⟨_, -, h⟩
  cases h

lemma exists_renderSlot_eq_ok {cast : Option Cast} {v : Value} :
    (∃ text, renderSlot lit cast v = .ok text) ↔ ∃ text, lit v = .ok text := by
  cases hlit : lit v with
  | error e => simp [renderSlot, hlit, bind, Except.bind]
  | ok text => simp [renderSlot, hlit, bind, Except.bind, pure, Except.pure]

lemma renderNamed_cons_of_none {slot : NamedSlot} (h : fields.get? slot.name = none) :
    renderNamed lit shown row fields (slot :: slots) =
      .error (.missingField row slot.name shown) := by
  simp only [renderNamed, h]
  rfl

lemma renderNamed_cons_of_some {slot : NamedSlot} {v : Value}
    (h : fields.get? slot.name = some v) :
    renderNamed lit shown row fields (slot :: slots) = (do
      let text ← renderSlot lit slot.cast v
      let texts ← renderNamed lit shown row fields slots
      pure (text :: texts)) := by
  simp only [renderNamed, h]
  rfl

/-! ## Values that are looked up -/

/-- The values that the slots of a named template find among the fields. -/
def LooksUp (fields : Fields Value) (slots : List NamedSlot) (values : List Value) : Prop :=
  List.Forall₂ (fun slot v => fields.get? slot.name = some v) slots values

/-- The values that are looked up are put in the places of the names. -/
lemma renderNamed_of_looksUp (h : LooksUp fields slots values) :
    renderNamed lit shown row fields slots = renderPositional lit (slots.map (·.cast)) values := by
  induction h with
  | nil =>
    rw [renderNamed, List.map_nil, renderPositional]
    exact nofun
  | cons hv _ ih => rw [renderNamed_cons_of_some hv, List.map_cons, renderPositional, ih]

lemma exists_looksUp (h : ∀ slot ∈ slots, slot.name ∈ fieldNames fields.entries) :
    ∃ values, LooksUp fields slots values := by
  induction slots with
  | nil => exact ⟨[], .nil⟩
  | cons slot slots ih =>
    obtain ⟨hslot, hrest⟩ := List.forall_mem_cons.mp h
    obtain ⟨v, hv⟩ := Fields.exists_get?_iff.mpr hslot
    obtain ⟨values, hvalues⟩ := ih hrest
    exact ⟨v :: values, .cons hv hvalues⟩

/-- Only the values that are looked up matter. -/
lemma renderNamed_congr (h : ∀ slot ∈ slots, fields'.get? slot.name = fields.get? slot.name) :
    renderNamed lit shown row fields' slots = renderNamed lit shown row fields slots := by
  induction slots with
  | nil => rfl
  | cons slot slots ih =>
    obtain ⟨hslot, hrest⟩ := List.forall_mem_cons.mp h
    simp only [renderNamed, hslot, ih hrest]

/-! ## The first slot that cannot be filled -/

/-- Why a slot cannot be filled: the record has no such field, or the value has no literal. -/
inductive SlotFails (lit : Literals) (shown : String) (row : ℕ) (fields : Fields Value)
    (slot : NamedSlot) : Error → Prop
  | missing (h : fields.get? slot.name = none) :
      SlotFails lit shown row fields slot (.missingField row slot.name shown)
  | literal {v : Value} {e : Error} (hv : fields.get? slot.name = some v) (he : lit v = .error e) :
      SlotFails lit shown row fields slot e

lemma SlotFails.namesRow {slot : NamedSlot} (hname : slot.name ∉ fieldNames fields.entries)
    (h : SlotFails lit shown row fields slot e) : e.NamesRow row := by
  cases h with
  | missing => exact Error.namesRow_missingField
  | literal hv => exact absurd (Fields.exists_get?_iff.mp ⟨_, hv⟩) hname

/-- A slot has a value, and the value has a literal. -/
def SlotFilled (lit : Literals) (fields : Fields Value) (slot : NamedSlot) : Prop :=
  ∃ v text, fields.get? slot.name = some v ∧ lit v = .ok text

/-- The failure of the first slot that cannot be filled. -/
def FirstSlotFails (lit : Literals) (shown : String) (row : ℕ) (fields : Fields Value)
    (slots : List NamedSlot) (e : Error) : Prop :=
  ∃ before slot after, slots = before ++ slot :: after ∧
    (∀ s ∈ before, SlotFilled lit fields s) ∧ SlotFails lit shown row fields slot e

/-- The first slot fails, or it is filled and a slot behind it is the first that fails. -/
lemma firstSlotFails_cons {slot : NamedSlot} :
    FirstSlotFails lit shown row fields (slot :: slots) e ↔
      SlotFails lit shown row fields slot e ∨
        SlotFilled lit fields slot ∧ FirstSlotFails lit shown row fields slots e := by
  constructor
  · rintro ⟨before, slot', after, heq, hbefore, hfails⟩
    cases before with
    | nil =>
      cases heq
      exact .inl hfails
    | cons s before =>
      cases heq
      obtain ⟨hfilled, hrest⟩ := List.forall_mem_cons.mp hbefore
      exact .inr ⟨hfilled, before, slot', after, rfl, hrest, hfails⟩
  · rintro (hfails | ⟨hfilled, before, slot', after, rfl, hbefore, hfails⟩)
    · exact ⟨[], slot, slots, rfl, nofun, hfails⟩
    · exact ⟨slot :: before, slot', after, rfl, List.forall_mem_cons.mpr ⟨hfilled, hbefore⟩, hfails⟩

lemma slotFilled_or_fails (lit : Literals) (shown : String) (row : ℕ) (fields : Fields Value)
    (slot : NamedSlot) :
    SlotFilled lit fields slot ∨ ∃ e, SlotFails lit shown row fields slot e := by
  cases hv : fields.get? slot.name with
  | none => exact .inr ⟨_, .missing hv⟩
  | some v =>
    cases hlit : lit v with
    | error e => exact .inr ⟨e, .literal hv hlit⟩
    | ok text => exact .inl ⟨v, text, hv, hlit⟩

/-- A name without a field makes some slot the first that fails. -/
lemma exists_firstSlotFails {slot : NamedSlot} (hslot : slot ∈ slots)
    (hname : slot.name ∉ fieldNames fields.entries) :
    ∃ e, FirstSlotFails lit shown row fields slots e := by
  induction slots with
  | nil => cases hslot
  | cons s slots ih =>
    simp only [firstSlotFails_cons]
    -- A slot in front of the missing name may fail before it.
    rcases slotFilled_or_fails lit shown row fields s with hfilled | ⟨e, he⟩
    · rcases List.mem_cons.mp hslot with rfl | hslot
      · obtain ⟨v, text, hv, -⟩ := hfilled
        exact absurd (Fields.exists_get?_iff.mp ⟨v, hv⟩) hname
      · obtain ⟨e, he⟩ := ih hslot
        exact ⟨e, .inr ⟨hfilled, he⟩⟩
    · exact ⟨e, .inl he⟩

lemma renderNamed_eq_error : renderNamed lit shown row fields slots = .error e ↔
    FirstSlotFails lit shown row fields slots e := by
  induction slots with
  | nil =>
    rw [renderNamed]
    constructor
    · exact nofun
    · rintro ⟨before, slot, after, heq, -⟩
      simp at heq
  | cons slot slots ih =>
    rw [firstSlotFails_cons]
    constructor
    · intro h
      cases hv : fields.get? slot.name with
      | none =>
        rw [renderNamed_cons_of_none hv] at h
        cases h
        exact .inl (.missing hv)
      | some v =>
        simp only [renderNamed_cons_of_some hv, bind_eq_error, renderSlot_eq_error] at h
        rcases h with h | ⟨text, htext, h | ⟨_, -, h⟩⟩
        · exact .inl (.literal hv h)
        · obtain ⟨literal, hliteral⟩ := exists_renderSlot_eq_ok.mp ⟨text, htext⟩
          exact .inr ⟨⟨v, literal, hv, hliteral⟩, ih.mp h⟩
        · cases h
    · rintro (hfails | ⟨⟨v, literal, hv, hliteral⟩, hfirst⟩)
      · cases hfails with
        | missing hv => exact renderNamed_cons_of_none hv
        | literal hv he =>
          rw [renderNamed_cons_of_some hv, bind_eq_error, renderSlot_eq_error]
          exact .inl he
      · obtain ⟨text, htext⟩ := exists_renderSlot_eq_ok.mpr ⟨literal, hliteral⟩
        rw [renderNamed_cons_of_some hv, bind_of_eq_ok htext, bind_eq_error]
        exact .inl (ih.mpr hfirst)

/-! ## Positions -/

/-- Positions are filled when no value fails. -/
lemma exists_renderPositional_eq_ok (h : values.length = casts.length) :
    (∃ texts, renderPositional lit casts values = .ok texts) ↔
      ∀ v ∈ values, ∃ text, lit v = .ok text := by
  induction casts generalizing values with
  | nil =>
    obtain rfl := List.length_eq_zero_iff.mp h
    rw [renderPositional]
    · simp
    · exact nofun
  | cons cast casts ih =>
    obtain ⟨v, values, rfl⟩ := List.exists_cons_of_length_eq_add_one h
    have hlength : values.length = casts.length := Nat.succ.inj h
    have hhead : (∃ text, renderSlot lit cast v = .ok text) ↔ ∃ text, lit v = .ok text :=
      exists_renderSlot_eq_ok
    rw [renderPositional, List.forall_mem_cons, ← ih hlength, ← hhead]
    simp only [bind_eq_ok]
    constructor
    · rintro ⟨_, text, htext, texts, htexts, -⟩
      exact ⟨⟨text, htext⟩, texts, htexts⟩
    · rintro ⟨⟨text, htext⟩, texts, htexts⟩
      exact ⟨text :: texts, text, htext, texts, htexts, rfl⟩

/-- What fails in filled positions is a value. -/
lemma exists_of_renderPositional_eq_error
    (h : renderPositional lit casts values = .error e) : ∃ v ∈ values, lit v = .error e := by
  induction casts generalizing values with
  | nil =>
    rw [renderPositional] at h
    · cases h
    · exact nofun
  | cons cast casts ih =>
    cases values with
    | nil =>
      rw [renderPositional] at h
      · cases h
      · exact nofun
    | cons v values =>
      rw [renderPositional, bind_eq_error, renderSlot_eq_error] at h
      rcases h with h | ⟨_, -, h⟩
      · exact ⟨v, List.mem_cons_self, h⟩
      · rcases bind_eq_error.mp h with h | ⟨_, -, h⟩
        · obtain ⟨w, hw, he⟩ := ih h
          exact ⟨w, List.mem_cons_of_mem v hw, he⟩
        · cases h

/-! ## Records and templates -/

lemma render_congr {t' : Template} {lit' : Literals} {row' : ℕ} {r' : Record}
    (h : t.renderSlots lit row r = t'.renderSlots lit' row' r') :
    t.render lit row r = t'.render lit' row' r' := by
  rw [render, render, h]

lemma render_of_kind_ne (h : r.kind ≠ t.mode) :
    t.render lit row r = .error (.wrongKind row r.kind t.display t.mode) := by
  rw [render_eq_error]
  cases t <;> cases r <;> first | rfl | exact absurd rfl h

lemma render_of_length_ne (h : values.length ≠ casts.length) :
    (positional casts).render lit row (.positional values) =
      .error (.wrongLength row values.length (positional casts).display casts.length) := by
  rw [render_eq_error, renderSlots, if_neg h]

lemma exists_render_positional_eq_ok :
    (∃ tuple, (positional casts).render lit row (.positional values) = .ok tuple) ↔
      values.length = casts.length ∧ ∀ v ∈ values, ∃ text, lit v = .ok text := by
  by_cases hlength : values.length = casts.length
  · rw [and_iff_right hlength, ← exists_renderPositional_eq_ok hlength]
    simp only [render, renderSlots, if_pos hlength, bind_eq_ok]
    constructor
    · rintro ⟨_, texts, htexts, -⟩
      exact ⟨texts, htexts⟩
    · rintro ⟨texts, htexts⟩
      exact ⟨_, texts, htexts, rfl⟩
  · rw [render_of_length_ne hlength]
    exact ⟨nofun, fun h => absurd h.1 hlength⟩

lemma render_named_eq_error {slots : List NamedSlot} :
    (named slots).render lit row (.named fields) = .error e ↔
      FirstSlotFails lit (named slots).display row fields slots e := by
  rw [render_eq_error, renderSlots, renderNamed_eq_error]

lemma render_of_looksUp (h : LooksUp fields slots values) :
    (named slots).render lit row (.named fields) =
      (positional (slots.map (·.cast))).render lit row (.positional values) := by
  have hlength : values.length = (slots.map (·.cast)).length := by
    rw [List.length_map, h.length_eq]
  refine render_congr ?_
  rw [renderSlots, renderSlots, if_pos hlength]
  exact renderNamed_of_looksUp h

lemma exists_render_named_eq_error
    (h : ∃ slot ∈ slots, slot.name ∉ fieldNames fields.entries) :
    ∃ e, (named slots).render lit row (.named fields) = .error e := by
  obtain ⟨slot, hslot, hname⟩ := h
  obtain ⟨e, he⟩ := exists_firstSlotFails hslot hname
  exact ⟨e, render_named_eq_error.mpr he⟩

/-- A tuple fails because the record does not fit the template or one of its values fails. -/
lemma misfit_or_literal_of_render_eq_error (h : t.render lit row r = .error e) :
    t.Misfit row r e ∨ ∃ v ∈ r.values, lit v = .error e := by
  by_cases hkind : r.kind = t.mode
  · cases t with
    | named slots =>
      cases r with
      | positional values => exact absurd hkind (show "positional" ≠ "named" by decide)
      | named fields =>
        obtain ⟨before, slot, after, rfl, -, hfails⟩ := render_named_eq_error.mp h
        cases hfails with
        | missing hv => exact .inl (.missing rfl rfl (by simp) hv)
        | @literal v _ hv he =>
          exact .inr ⟨v, List.mem_map_of_mem (f := Prod.snd) (Fields.get?_eq_some_iff.mp hv), he⟩
    | positional casts =>
      cases r with
      | named fields => exact absurd hkind (show "named" ≠ "positional" by decide)
      | positional values =>
        by_cases hlength : values.length = casts.length
        · rw [render_eq_error, renderSlots, if_pos hlength] at h
          exact .inr (exists_of_renderPositional_eq_error h)
        · rw [render_of_length_ne hlength] at h
          cases h
          exact .inl (.length rfl rfl hlength)
  · rw [render_of_kind_ne hkind] at h
    cases h
    exact .inl (.kind hkind)

/-- A named template fills its slots with the values of their names as a positional one with the
same casts does with the list of these values. Otherwise the first slot without a field or a
literal fails. A positional record fits by its length only, and one of the other kind does not. -/
theorem named_is_positional (lit : Literals) (row : ℕ) :
    (∀ slots fields,
      ((∀ slot ∈ slots, slot.name ∈ fieldNames fields.entries) → ∃ values,
        LooksUp fields slots values ∧ (named slots).render lit row (.named fields) =
          (positional (slots.map (·.cast))).render lit row (.positional values)) ∧
      (∀ fields' unused, fields'.entries.Perm (fields.entries ++ unused) →
        (∀ slot ∈ slots, slot.name ∉ fieldNames unused) →
        (named slots).render lit row (.named fields') =
          (named slots).render lit row (.named fields)) ∧
      ((∃ slot ∈ slots, slot.name ∉ fieldNames fields.entries) →
        ∃ e, (named slots).render lit row (.named fields) = .error e) ∧
      (∀ e, (named slots).render lit row (.named fields) = .error e ↔
        FirstSlotFails lit (named slots).display row fields slots e) ∧
      (∀ slot shown e, slot.name ∉ fieldNames fields.entries →
        SlotFails lit shown row fields slot e → e.NamesRow row)) ∧
    (∀ casts values,
      (values.length ≠ casts.length → ∃ e, e.NamesRow row ∧
        (positional casts).render lit row (.positional values) = .error e) ∧
      ((∃ tuple, (positional casts).render lit row (.positional values) = .ok tuple) ↔
        values.length = casts.length ∧ ∀ v ∈ values, ∃ text, lit v = .ok text)) ∧
    (∀ (t : Template) r, r.kind ≠ t.mode →
      ∃ e, e.NamesRow row ∧ t.render lit row r = .error e) := by
  refine ⟨fun slots fields => ⟨fun hall => ?_, fun fields' unused hperm hunused => ?_,
    exists_render_named_eq_error, fun e => render_named_eq_error, fun slot shown e => ?_⟩,
    fun casts values => ⟨fun h => ?_, exists_render_positional_eq_ok⟩, fun t r h => ?_⟩
  · obtain ⟨values, hvalues⟩ := exists_looksUp hall
    exact ⟨values, hvalues, render_of_looksUp hvalues⟩
  · refine render_congr (renderNamed_congr fun slot hslot => ?_)
    exact Fields.get?_of_perm hperm (hunused slot hslot)
  · exact SlotFails.namesRow
  · exact ⟨_, Error.namesRow_wrongLength, render_of_length_ne h⟩
  · exact ⟨_, Error.namesRow_wrongKind, render_of_kind_ne h⟩

/-- A name that is asked for twice, fields in another order with one too many, an array without a
literal before a field that is missing, and records that are too long or of the other kind. -/
theorem named_is_positional_repeated :
    let lit := Dialect.ansi.literal
    let slots : List NamedSlot := [⟨"a", some ⟨"int".toList⟩⟩, ⟨"b", none⟩, ⟨"a", none⟩]
    let fields : Fields Value := .ofList [("a", .int64 1), ("b", .string "x")]
    let fields' : Fields Value := .ofList [("c", .null), ("b", .string "x"), ("a", .int64 1)]
    let failing : Fields Value := .ofList [("a", .array [])]
    ((∀ slot ∈ slots, slot.name ∈ fieldNames fields.entries) ∧ ∃ values,
      LooksUp fields slots values ∧ (named slots).render lit 7 (.named fields) =
        (positional (slots.map (·.cast))).render lit 7 (.positional values)) ∧
    (named slots).render lit 7 (.named fields') = (named slots).render lit 7 (.named fields) ∧
    (named slots).render lit 7 (.named failing) = .error .arrayLiteral ∧
    (∃ e, e.NamesRow 7 ∧
      (positional [none]).render lit 7 (.positional [.null, .null]) = .error e) ∧
    ∃ e, e.NamesRow 7 ∧ (positional [none]).render lit 7 (.named fields) = .error e := by
  intro lit slots fields fields' failing
  obtain ⟨hnamed, hpositional, hkind⟩ := named_is_positional lit 7
  obtain ⟨hlookup, hperm, -⟩ := hnamed slots fields
  have hall : ∀ slot ∈ slots, slot.name ∈ fieldNames fields.entries := by decide
  have hreverse : fields'.entries = (fields.entries ++ [("c", Value.null)]).reverse := rfl
  have hfirst : FirstSlotFails lit (named slots).display 7 failing slots .arrayLiteral :=
    ⟨[], _, _, rfl, nofun, .literal (v := .array []) rfl rfl⟩
  exact ⟨⟨hall, hlookup hall⟩, hperm fields' _ (hreverse ▸ List.reverse_perm _) (by decide),
    ((hnamed slots failing).2.2.2.1 _).mpr hfirst,
    (hpositional [none] [.null, .null]).1 (by decide), hkind (positional [none]) _ (by decide)⟩

end Template

end BulkValues
