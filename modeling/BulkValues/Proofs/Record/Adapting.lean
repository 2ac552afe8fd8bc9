/-
# Adapted records

Adapting replaces the mappings at the top level of a record by their documents and keeps everything
else: the kind of the record, its names, and the place of every value.  A record without mappings is
given back as it is, which is also what building it again would make of it.

An adapted record has no mapping at its top level.  So it is not changed by adapting it again, and
when it has no tuple, the reason is that it does not fit the template or that one of its other
values has no literal.
-/
import BulkValues.Proofs.Json.Steady
import BulkValues.Proofs.Tuple.Lookup

namespace BulkValues

/-! ## Fields with other values -/

namespace Fields

variable {α β : Type}

lemma get?_map (f : α → β) (fs : Fields α) (name : String) :
    (fs.map f).get? name = (fs.get? name).map f := by
  rw [get?, get?, map, List.find?_map, Option.map_map, Option.map_map]
  rfl

lemma values_map (f : α → β) (fs : Fields α) : (fs.map f).values = fs.values.map f := by
  rw [values, values, map, List.map_map, List.map_map]
  rfl

/-- Fields whose values stay as they are stay as they are. -/
lemma map_eq_self {f : α → α} {fs : Fields α} (h : ∀ v ∈ fs.values, f v = v) :
    fs.map f = fs := by
  have hentry : ∀ e ∈ fs.entries, (e.1, f e.2) = e :=
    fun e he => by rw [h e.2 (List.mem_map_of_mem he)]
  have hentries : fs.entries.map (fun e => (e.1, f e.2)) = fs.entries :=
    (List.map_congr_left hentry).trans (List.map_id _)
  cases fs
  rw [map, mk.injEq]
  exact hentries

end Fields

namespace Record

variable {r : Record} {v : Value} {fields : List (String × Value)}

/-- The names of a record, in order. A positional record has none. -/
def names : Record → List String
  | positional _ => []
  | named fs => fieldNames fs.entries

/-! ## Values -/

lemma adaptValue_of_isMap_eq_false (h : v.isMap = false) : adaptValue v = v := by
  cases v with
  | map fields => cases h
  | _ => rfl

lemma adaptValue_of_isMap (h : v.isMap = true) : adaptValue v = .json v.toJson := by
  cases v with
  | map fields => rfl
  | _ => cases h

lemma isMap_adaptValue (v : Value) : (adaptValue v).isMap = false := by
  cases v <;> rfl

lemma same_adaptValue (h : v.same v = true) : (adaptValue v).same (adaptValue v) = true := by
  cases v with
  | map fields => exact (Json.same_self _).trans (Value.isSteady_toJson (.map fields) h)
  | _ => exact h

/-! ## Records -/

lemma isAdapted_iff : r.isAdapted = true ↔ ∀ v ∈ r.values, v.isMap = false := by
  simp [isAdapted]

lemma values_rebuild (r : Record) : r.rebuild.values = r.values.map adaptValue := by
  cases r with
  | positional values => rfl
  | named fs => exact Fields.values_map adaptValue fs

lemma rebuild_of_isAdapted (h : r.isAdapted = true) : r.rebuild = r := by
  have hvalues : ∀ v ∈ r.values, adaptValue v = v :=
    fun v hv => adaptValue_of_isMap_eq_false (isAdapted_iff.mp h v hv)
  cases r with
  | positional values =>
    exact congrArg positional ((List.map_congr_left hvalues).trans (List.map_id values))
  | named fs => exact congrArg named (Fields.map_eq_self hvalues)

/-- Both ways of adapting a record agree. -/
lemma adapt_eq_rebuild (r : Record) : r.adapt = r.rebuild := by
  unfold adapt
  split
  · exact (rebuild_of_isAdapted ‹_›).symm
  · rfl

lemma values_adapt (r : Record) : r.adapt.values = r.values.map adaptValue := by
  rw [adapt_eq_rebuild, values_rebuild]

lemma kind_adapt (r : Record) : r.adapt.kind = r.kind := by
  rw [adapt_eq_rebuild]
  cases r <;> rfl

lemma size_adapt (r : Record) : r.adapt.size = r.size := by
  rw [adapt_eq_rebuild]
  cases r with
  | positional values => exact List.length_map adaptValue
  | named fs => exact List.length_map _

lemma names_adapt (r : Record) : r.adapt.names = r.names := by
  rw [adapt_eq_rebuild]
  cases r with
  | positional values => rfl
  | named fs => exact List.map_map

/-- No mapping is left at the top level. -/
lemma isAdapted_adapt (r : Record) : r.adapt.isAdapted = true := by
  rw [isAdapted_iff, values_adapt]
  intro v hv
  obtain ⟨w, -, rfl⟩ := List.mem_map.mp hv
  exact isMap_adaptValue w

lemma adapt_eq_self_iff : r.adapt = r ↔ r.isAdapted = true := by
  constructor
  · intro h
    rw [← h]
    exact isAdapted_adapt r
  · exact fun h => if_pos h

lemma adapt_adapt (r : Record) : r.adapt.adapt = r.adapt :=
  adapt_eq_self_iff.mpr (isAdapted_adapt r)

/-! ## Equality with itself -/

lemma sameItems_map_adaptValue {values : List Value} (h : Value.sameItems values values = true) :
    Value.sameItems (values.map adaptValue) (values.map adaptValue) = true := by
  induction values with
  | nil => rfl
  | cons v rest ih =>
    rw [Value.sameItems, Bool.and_eq_true] at h
    rw [List.map_cons, Value.sameItems, same_adaptValue h.1, ih h.2]
    rfl

lemma sameFields_map_adaptValue (h : Value.sameFields fields fields = true) :
    Value.sameFields (fields.map fun f => (f.1, adaptValue f.2))
      (fields.map fun f => (f.1, adaptValue f.2)) = true := by
  induction fields with
  | nil => rfl
  | cons f rest ih =>
    rw [Value.sameFields, Bool.and_eq_true, Bool.and_eq_true] at h
    rw [List.map_cons, Value.sameFields, beq_self_eq_true, same_adaptValue h.1.2, ih h.2]
    rfl

lemma same_adapt (h : r.same r = true) : r.adapt.same r.adapt = true := by
  rw [adapt_eq_rebuild]
  cases r with
  | positional values => exact sameItems_map_adaptValue h
  | named fs => exact sameFields_map_adaptValue h

/-! ## Tuples -/

variable {t : Template} {row : ℕ} {e : Error}

/-- What does not fit a template has not been made unfit by adapting it. -/
lemma misfit_of_adapt (h : t.Misfit row r.adapt e) : t.Misfit row r e := by
  rw [adapt_eq_rebuild] at h
  cases h with
  | kind hkind =>
    have hsame : r.rebuild.kind = r.kind := by
      rw [← adapt_eq_rebuild, kind_adapt]
    rw [hsame] at hkind ⊢
    exact .kind hkind
  | length ht hr hlength =>
    cases r with
    | positional values =>
      cases hr
      rw [List.length_map] at hlength ⊢
      exact .length ht rfl hlength
    | named fs => cases hr
  | missing ht hr hslot hname =>
    cases r with
    | positional values => cases hr
    | named fs =>
      cases hr
      -- A field with another value is still there.
      rw [Fields.get?_map, Option.map_eq_none_iff] at hname
      exact .missing ht rfl hslot hname

/-- The literal of a document is its text in quotes, for one dialect with a type behind it. -/
lemma literal_json (d : Dialect) (doc : Json) : d.literal (.json doc) =
    .ok (Literal.quoted doc.text ++ if d = .postgres then "::jsonb" else "") := by
  cases d with
  | ansi => exact congrArg Except.ok (String.append_empty).symm
  | postgres => rfl
  | sqlite => exact congrArg Except.ok (String.append_empty).symm

/-- A value of an adapted record without a literal is no document of a mapping. -/
lemma exists_of_literal_eq_error {d : Dialect} (hv : v ∈ r.adapt.values)
    (h : d.literal v = .error e) : v ∈ r.values ∧ v.isMap = false := by
  rw [values_adapt] at hv
  obtain ⟨w, hw, rfl⟩ := List.mem_map.mp hv
  cases hmap : w.isMap with
  | false =>
    rw [adaptValue_of_isMap_eq_false hmap]
    exact ⟨hw, hmap⟩
  | true =>
    rw [adaptValue_of_isMap hmap, literal_json] at h
    cases h

/-- Why an adapted record has no tuple. -/
lemma render_adapt_eq_error {d : Dialect} (h : t.render d.literal row r.adapt = .error e) :
    t.Misfit row r e ∨ ∃ v ∈ r.values, v.isMap = false ∧ d.literal v = .error e := by
  rcases Template.misfit_or_literal_of_render_eq_error h with h | ⟨v, hv, h⟩
  · exact .inl (misfit_of_adapt h)
  · obtain ⟨hmem, hmap⟩ := exists_of_literal_eq_error hv h
    exact .inr ⟨v, hmem, hmap, h⟩

/-- Adapting gives every mapping at the top level its document and keeps everything else. So a
record without mappings is kept as a whole, an adapted one is not changed again, and no tuple fails
because of a mapping at the top level. -/
theorem mappings_adapted (r : Record) :
    (r.adapt.kind = r.kind ∧ r.adapt.size = r.size ∧ r.adapt.names = r.names) ∧
    (∀ (i : ℕ) (v : Value), r.values[i]? = some v →
      (v.isMap = false → r.adapt.values[i]? = some v) ∧
      (v.isMap = true → r.adapt.values[i]? = some (.json v.toJson))) ∧
    (∀ v ∈ r.adapt.values, v.isMap = false) ∧
    (r.adapt = r ↔ ∀ v ∈ r.values, v.isMap = false) ∧
    ((r.isAdapted = true ↔ ∀ v ∈ r.values, v.isMap = false) ∧ r.adapt = r.rebuild) ∧
    (r.adapt.adapt = r.adapt ∧ (r.same r = true → r.adapt.adapt.same r.adapt = true)) ∧
    (∀ (d : Dialect) (t : Template) row e, t.render d.literal row r.adapt = .error e →
      t.Misfit row r e ∨ ∃ v ∈ r.values, v.isMap = false ∧ d.literal v = .error e) ∧
    (∀ (d : Dialect) (i : ℕ) (v : Value), r.values[i]? = some v → v.isMap = true →
      ∃ w, r.adapt.values[i]? = some w ∧ d.literal w =
        .ok (Literal.quoted v.toJson.text ++ if d = .postgres then "::jsonb" else "")) := by
  have hplace : ∀ (i : ℕ) v, r.values[i]? = some v → r.adapt.values[i]? = some (adaptValue v) := by
    intro i v hv
    rw [values_adapt, List.getElem?_map, hv, Option.map_some]
  refine ⟨⟨kind_adapt r, size_adapt r, names_adapt r⟩,
    fun i v hv => ⟨fun hmap => ?_, fun hmap => ?_⟩,
    isAdapted_iff.mp (isAdapted_adapt r), adapt_eq_self_iff.trans isAdapted_iff,
    ⟨isAdapted_iff, adapt_eq_rebuild r⟩, ⟨adapt_adapt r, fun h => ?_⟩,
    fun d t row e => render_adapt_eq_error, fun d i v hv hmap => ?_⟩
  · rw [hplace i v hv, adaptValue_of_isMap_eq_false hmap]
  · rw [hplace i v hv, adaptValue_of_isMap hmap]
  · rw [adapt_adapt]
    exact same_adapt h
  · rw [hplace i v hv, adaptValue_of_isMap hmap]
    exact ⟨_, rfl, literal_json d v.toJson⟩

/-- A mapping with a mapping inside, beside an array that standard SQL has no literal for. -/
theorem mappings_adapted_nested :
    let v : Value := .map [("b", .map [("k", .string "it's")]), ("a", .int16 (-1))]
    let r : Record := .positional [v, .array []]
    let t : Template := .positional [none, none]
    (r.adapt.values[0]? = some (.json v.toJson) ∧ r.adapt ≠ r ∧ r.adapt.adapt.same r.adapt = true) ∧
    (∃ w, r.adapt.values[0]? = some w ∧ Dialect.literal .postgres w =
      .ok "'\x7b\"a\":-1,\"b\":\x7b\"k\":\"it''s\"\x7d\x7d'::jsonb") ∧
    t.render (Dialect.literal .ansi) 0 r.adapt = .error .arrayLiteral ∧
    (t.Misfit 0 r .arrayLiteral ∨
      ∃ w ∈ r.values, w.isMap = false ∧ Dialect.literal .ansi w = .error .arrayLiteral) := by
  intro v r t
  obtain ⟨-, hplace, -, hself, -, ⟨-, hsame⟩, hrender, hliteral⟩ := mappings_adapted r
  have hfails : t.render (Dialect.literal .ansi) 0 r.adapt = .error .arrayLiteral := rfl
  refine ⟨⟨(hplace 0 v rfl).2 rfl, fun h => ?_, hsame (by decide)⟩, ?_, hfails,
    hrender .ansi t 0 _ hfails⟩
  · exact absurd (hself.mp h v List.mem_cons_self) (by decide)
  · obtain ⟨w, hw, hw'⟩ := hliteral .postgres 0 v rfl rfl
    refine ⟨w, hw, hw'.trans ?_⟩
    decide +kernel

end Record

end BulkValues
