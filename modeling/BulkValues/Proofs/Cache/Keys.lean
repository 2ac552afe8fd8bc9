/-
# What keys stand for

Two lists of overrides have the same effect on every section exactly if they give every name the
same last text, and this is what the key of an object keeps of them.  So the section that an object
is built from does not depend on which of the lists was given, and callers that are handed the same
object have asked for the same settings.
-/
import BulkValues.Proofs.Cache.Answers
import BulkValues.Proofs.Params

namespace BulkValues

variable {kind kind' : SectionKind} {pairs pairs' : List (String × String)}

/-! ## Overrides -/

lemma Params.ofList_eq_iff :
    Params.ofList pairs = Params.ofList pairs' ↔
      ∀ name, lastText? pairs name = lastText? pairs' name := by
  refine ⟨fun h name => ?_, fun h => Params.ext_get? fun name => ?_⟩
  · rw [← Params.get?_ofList, h, Params.get?_ofList]
  · rw [Params.get?_ofList, Params.get?_ofList, h]

/-- Overrides have the same effect on every section if they have the same last texts. -/
lemma Section.withOverrides_eq_iff :
    (∀ s : Section, s.withOverrides pairs = s.withOverrides pairs') ↔
      ∀ name, lastText? pairs name = lastText? pairs' name := by
  refine ⟨fun h => Params.ofList_eq_iff.mp (congrArg Section.params (h .empty)), fun h s => ?_⟩
  have heffect : s.params.insertAll pairs = s.params.insertAll pairs' := by
    rw [← s.params.insertAll_entries_ofList, Params.ofList_eq_iff.mpr h,
      s.params.insertAll_entries_ofList]
  exact congrArg Section.mk heffect

namespace Cache

lemma Key.ofOverrides_eq_iff :
    Key.ofOverrides kind pairs = Key.ofOverrides kind' pairs' ↔
      kind = kind' ∧ ∀ name, lastText? pairs name = lastText? pairs' name := by
  rw [Key.ofOverrides, Key.ofOverrides, Key.mk.injEq, Params.ofList_eq_iff]

/-- The overrides of a key have the effect of those that it was made of. -/
lemma Key.effectiveSection_ofOverrides (kind : SectionKind) (pairs : List (String × String))
    (node : Node) : (Key.ofOverrides kind pairs).effectiveSection node =
      (node.sectionOf kind).withOverrides pairs :=
  congrArg Section.mk ((node.sectionOf kind).params.insertAll_entries_ofList pairs)

/-! ## Callers of one object -/

/-- One of the calls asks for the object of a key and is handed an object. -/
def Hands (c : Cache) (events : List Event) (key : Key) (o : Object) : Prop :=
  ∃ before id rest c₀, events = before ++ .callGet id key :: rest ∧ c.after before = some c₀ ∧
    c₀.handedTo? id (.callGet id key :: rest) = some o

variable {node : Node} {registry : Registry} {events : List Event} {c : Cache} {key key' : Key}
  {o : Object}

/-- What was handed out lies in a slot of the key that was asked for. -/
lemma exists_slot_of_hands (hafter : ({ node, registry } : Cache).after events = some c)
    (h : ({ node, registry } : Cache).Hands events key o) :
    ∃ n, (c.slot n).key = key ∧ (c.slot n).value = some o := by
  obtain ⟨before, id, rest, c₀, rfl, hbefore, hhanded⟩ := h
  rw [after_append hbefore] at hafter
  have htracked := tracked_after (tracked_empty node registry) hbefore
  rw [List.nil_append] at htracked
  obtain ⟨-, hstocked⟩ :=
    later_after (stocked_empty node registry) (tracked_empty node registry) hbefore
  obtain ⟨c₁, -, hlater, -, n, hkey, hvalue, -⟩ :=
    meets_of_callGet hstocked htracked hafter hhanded
  exact ⟨n, (hlater.key n (lt_of_value hvalue)).trans hkey, hlater.keeps n o hvalue⟩

lemma key_eq_of_hands (hafter : ({ node, registry } : Cache).after events = some c)
    (h : ({ node, registry } : Cache).Hands events key o)
    (h' : ({ node, registry } : Cache).Hands events key' o) : key = key' := by
  obtain ⟨n, rfl, hvalue⟩ := exists_slot_of_hands hafter h
  obtain ⟨n', rfl, hvalue'⟩ := exists_slot_of_hands hafter h'
  obtain ⟨-, hstocked⟩ :=
    later_after (stocked_empty node registry) (tracked_empty node registry) hafter
  rw [hstocked.single n n' o hvalue hvalue']

/-- Two keys are equal exactly if they are of the same section and the lists they were made of give
every name the same last text, that is, have the same effect on every section.  The section that a
key is built from is that of the node with the list put over it in its order.  And two calls that
are handed the same object, at any time in any history of a new cache, asked for the same section
with overrides of the same effect. -/
theorem key_eq_iff_same_settings :
    (∀ kind kind' pairs pairs', Key.ofOverrides kind pairs = Key.ofOverrides kind' pairs' ↔
      kind = kind' ∧ ∀ name, lastText? pairs name = lastText? pairs' name) ∧
    (∀ pairs pairs', (∀ name, lastText? pairs name = lastText? pairs' name) ↔
      ∀ s : Section, s.withOverrides pairs = s.withOverrides pairs') ∧
    (∀ (node : Node) kind pairs, (Key.ofOverrides kind pairs).effectiveSection node =
      (node.sectionOf kind).withOverrides pairs) ∧
    ∀ node registry events c, ({ node, registry } : Cache).after events = some c →
      ∀ kind kind' pairs pairs' o,
        ({ node, registry } : Cache).Hands events (.ofOverrides kind pairs) o →
        ({ node, registry } : Cache).Hands events (.ofOverrides kind' pairs') o →
          kind = kind' ∧ ∀ s : Section, s.withOverrides pairs = s.withOverrides pairs' := by
  refine ⟨fun _ _ _ _ => Key.ofOverrides_eq_iff, fun _ _ => Section.withOverrides_eq_iff.symm,
    fun node kind pairs => Key.effectiveSection_ofOverrides kind pairs node, ?_⟩
  intro node registry events c hafter kind kind' pairs pairs' o h h'
  obtain ⟨hkind, htexts⟩ := Key.ofOverrides_eq_iff.mp (key_eq_of_hands hafter h h')
  exact ⟨hkind, Section.withOverrides_eq_iff.mpr htexts⟩

/-- Two callers with different lists share a pool. -/
theorem key_eq_iff_same_settings_shared :
    let cache : Cache := { node := ⟨"local", none, .empty, .empty⟩, registry := .builtIn }
    let pairs := [("min_size", "0"), ("name", "a")]
    let pairs' := [("name", "b"), ("name", "a"), ("min_size", "0")]
    let events : List Event := [.callGet 0 (.ofOverrides .connectionPool pairs),
      .callGet 1 (.ofOverrides .connectionPool pairs')]
    cache.Hands events (.ofOverrides .connectionPool pairs) (.pool 0) ∧
      cache.Hands events (.ofOverrides .connectionPool pairs') (.pool 0) ∧
      ∀ s : Section, s.withOverrides pairs = s.withOverrides pairs' := by
  intro cache pairs pairs' events
  have hfirst : cache.handedTo? 0 events = some (.pool 0) := by decide +kernel
  have hrun : (cache.after [.callGet 0 (.ofOverrides .connectionPool pairs)]).map (fun c₀ =>
      (c₀.handedTo? 1 [.callGet 1 (.ofOverrides .connectionPool pairs')],
        (cache.after events).isSome)) = some (some (.pool 0), true) := by
    decide +kernel
  obtain ⟨c₀, hbefore, hc₀⟩ := Option.map_eq_some_iff.mp hrun
  obtain ⟨hsecond, hsome⟩ := Prod.mk.inj hc₀
  obtain ⟨c, hafter⟩ := Option.isSome_iff_exists.mp hsome
  have hhands : cache.Hands events (.ofOverrides .connectionPool pairs) (.pool 0) :=
    ⟨[], 0, _, cache, rfl, rfl, hfirst⟩
  have hhands' : cache.Hands events (.ofOverrides .connectionPool pairs') (.pool 0) :=
    ⟨[_], 1, [], c₀, rfl, hbefore, hsecond⟩
  exact ⟨hhands, hhands',
    (key_eq_iff_same_settings.2.2.2 _ _ _ c hafter _ _ _ _ _ hhands hhands').2⟩

end Cache

end BulkValues
