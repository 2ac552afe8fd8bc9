/-
# Closing a cache

Closing a cache takes every slot from the index and closes what is in them.  A slot that a call is
filling then is empty, and it is filled afterwards where the cache does not see it any more: what
the call hands out stays open.  The same happens when the key of such a slot is evicted.

So every object that was ever handed out is closed, or in the index, or about to be closed, or in a
slot that was lost in this way; and a cache that is closed while nobody asks it for objects closes
all that it has ever handed out.
-/
import BulkValues.Proofs.Cache.Steps

namespace BulkValues.Cache

/-- No call waits for an object or fills a slot. -/
def IsIdle (c : Cache) : Prop := ∀ call ∈ c.calls, call.2.place? = none

variable {c c' : Cache} {lost : List ℕ} {o : Object} {e : Event} {events : List Event}
  {next : Cache × Result}

/-! ## What was handed out -/

/-- Objects stay in their slots, and what is handed out lies in one. -/
lemma handed_step (h : Tracked lost [] c) (hadmits : c.admits e = true)
    (hstep : c.step e = some next) :
    (∀ n o, (c.slot n).value = some o → (next.1.slot n).value = some o) ∧
      ∀ o, handedOut? next.2 = some o → ∃ n, (next.1.slot n).value = some o := by
  have hstays : ∀ n o, (c.slot n).value = some o → (next.1.slot n).value = some o := by
    intro n o hvalue
    rcases heviction : e.isEviction with _ | _
    · exact ((outcome_step h hadmits heviction hstep).grows.value n o hvalue).1
    · obtain ⟨-, ⟨index, hgrows⟩, -⟩ := exists_evicted h hadmits heviction hstep
      exact (hgrows.value n o hvalue).1
  refine ⟨hstays, fun o ho => ?_⟩
  rw [handedOut?.eq_def] at ho
  split at ho
  · rename_i id o' hanswer
    cases ho
    exact (isSound_step h hadmits hstep id o hanswer).2
  · cases ho

/-- What was handed out lies in a slot, and what lay in a slot still does. -/
lemma value_of_handed (h : Tracked lost [] c) (hafter : c.after events = some c') :
    (∀ n o, (c.slot n).value = some o → (c'.slot n).value = some o) ∧
      ∀ o ∈ c.handed events, ∃ n, (c'.slot n).value = some o := by
  induction events generalizing c lost with
  | nil =>
    cases hafter
    exact ⟨fun _ _ hvalue => hvalue, fun o ho => by cases ho⟩
  | cons e events ih =>
    obtain ⟨next, hadmits, hstep, hrest⟩ := after_cons hafter
    obtain ⟨hstays, hhanded⟩ := handed_step h hadmits hstep
    obtain ⟨hstays', hhanded'⟩ := ih (tracked_step h hadmits hstep) hrest
    refine ⟨fun n o hvalue => hstays' n o (hstays n o hvalue), fun o ho => ?_⟩
    rw [handed_cons hstep, List.mem_append, Option.mem_toList] at ho
    rcases ho with ho | ho
    · obtain ⟨n, hvalue⟩ := hhanded o ho
      exact ⟨n, hstays' n o hvalue⟩
    · exact hhanded' o ho

/-! ## Closing while nobody asks -/

/-- An idle cache loses no slots by being closed. -/
lemma loses_of_isIdle (h : c.IsIdle) (id : ℕ) : c.loses (.callCloseAll id) = [] := by
  rw [loses, List.map_eq_nil_iff, List.filter_eq_nil_iff]
  intro entry _ hawaited
  rw [isAwaited, Bool.and_eq_true, List.any_eq_true] at hawaited
  obtain ⟨-, call, hcall, hplace⟩ := hawaited
  rw [h call hcall] at hplace
  cases hplace

lemma IsIdle.place?_eq_none (h : c.IsIdle) {id : ℕ} {stage : Stage}
    (hcall : c.stage? id = some stage) : stage.place? = none :=
  h _ (mem_calls_of_stage? hcall)

lemma IsIdle.closeAll (h : c.IsIdle) (id : ℕ) (objects : List Object) (answer : Answer) :
    (c.closeAll id objects answer).1.IsIdle ∧ (c.closeAll id objects answer).1.index = c.index := by
  rw [Cache.closeAll.eq_def]
  split
  · exact ⟨fun call hcall => h call (mem_leave.mp hcall).1, rfl⟩
  · refine ⟨fun call hcall => ?_, rfl⟩
    rcases List.mem_append.mp hcall with hcall | hcall
    · exact h call (mem_leave.mp hcall).1
    · obtain rfl := List.mem_singleton.mp hcall
      rfl

lemma IsIdle.closeObject (h : c.IsIdle) (o : Object) :
    (c.closeObject o).IsIdle ∧ (c.closeObject o).index = c.index := by
  obtain ⟨pools, connections, hclose, -⟩ := exists_closeObject c o
  rw [hclose]
  exact ⟨h, rfl⟩

/-- An idle cache stays so while no call starts, and its index stays as it is. -/
lemma isIdle_step (h : c.IsIdle) (hstart : e.isStart = false) (hstep : c.step e = some next) :
    next.1.IsIdle ∧ next.1.index = c.index := by
  cases e with
  | callGet id key => cases hstart
  | callEvict id key => cases hstart
  | callCloseAll id => cases hstart
  | resume id =>
    simp only [step] at hstep
    split at hstep
    · rename_i hcall
      cases h.place?_eq_none hcall
    · cases hstep
  | created id failure =>
    obtain ⟨stage, hcall, hnext⟩ := Option.bind_eq_some_iff.mp hstep
    have hplace := h.place?_eq_none hcall
    cases stage with
    | closing rest answer => cases hnext
    | waiting key n => cases hplace
    | opening key n config m => cases hplace
    | connecting key n config => cases hplace
  | closedNext id =>
    simp only [step] at hstep
    split at hstep
    · rename_i o rest answer hcall
      cases hstep
      obtain ⟨hidle, hindex⟩ := h.closeObject o
      obtain ⟨hidle', hindex'⟩ := hidle.closeAll id rest answer
      exact ⟨hidle', hindex'.trans hindex⟩
    · cases hstep
  | close o =>
    cases hstep
    exact h.closeObject o

/-- A cache that is idle and loses nothing goes on to do so while no call starts. -/
lemma tracked_after_idle (h : Tracked [] [] c) (hidle : c.IsIdle)
    (hevents : ∀ e ∈ events, e.isStart = false) (hafter : c.after events = some c') :
    Tracked [] [] c' ∧ c'.index = c.index := by
  induction events generalizing c with
  | nil =>
    cases hafter
    exact ⟨h, rfl⟩
  | cons e events ih =>
    obtain ⟨next, hadmits, hstep, hrest⟩ := after_cons hafter
    obtain ⟨hstart, hevents⟩ := List.forall_mem_cons.mp hevents
    obtain ⟨hidle', hindex⟩ := isIdle_step hidle hstart hstep
    have heviction : e.isEviction = false := by
      cases e with
      | callEvict id key => cases hstart
      | callCloseAll id => cases hstart
      | _ => rfl
    have houtcome := outcome_step h hadmits heviction hstep
    obtain ⟨htracked, hindex'⟩ := ih houtcome.tracked hidle' hevents hrest
    exact ⟨htracked, hindex'.trans hindex⟩

/-- After every history of a new cache, an object that was handed out is closed, in the index, about
to be closed by a call under way, or in a slot that was taken from the index while a call was at it.
If that never happened and a cache is closed while no call asks for objects, then it is empty once
that call and all others have ended, and everything that was ever handed out is closed. -/
theorem closed_unless_lost (node : Node) (registry : Registry) :
    (∀ events c, ({ node, registry } : Cache).after events = some c →
      ∀ o ∈ ({ node, registry } : Cache).handed events,
        c.isClosed o = true ∨ (∃ key n, (key, n) ∈ c.index ∧ (c.slot n).value = some o) ∨
          (∃ id stage, c.stage? id = some stage ∧ o ∈ stage.doomed) ∨
          ∃ n ∈ ({ node, registry } : Cache).lost events, (c.slot n).value = some o) ∧
    ∀ before c₀, ({ node, registry } : Cache).after before = some c₀ →
      ({ node, registry } : Cache).lost before = [] → c₀.IsIdle →
        ∀ id rest c, c₀.after (.callCloseAll id :: rest) = some c →
          (∀ e ∈ rest, e.isStart = false) → c.calls = [] → c.size = 0 ∧
            ∀ o ∈ ({ node, registry } : Cache).handed (before ++ .callCloseAll id :: rest),
              c.isClosed o = true := by
  have hnew := tracked_empty node registry
  refine ⟨fun events c hafter o ho => ?_, ?_⟩
  · obtain ⟨n, hvalue⟩ := (value_of_handed hnew hafter).2 o ho
    have htracked := tracked_after hnew hafter
    rw [List.nil_append] at htracked
    rcases htracked.kept n o hvalue with hclosed | hentry | ⟨id, stage, hcall, hdoomed⟩ | ho | hlost
    · exact .inl hclosed
    · exact .inr (.inl ⟨_, n, hentry, hvalue⟩)
    · exact .inr (.inr (.inl ⟨id, stage, hcall, hdoomed⟩))
    · cases ho
    · exact .inr (.inr (.inr ⟨n, hlost, hvalue⟩))
  · intro before c₀ hbefore hlost hidle id rest c hafter hrest hcalls
    have htracked₀ := tracked_after hnew hbefore
    rw [hlost, List.append_nil] at htracked₀
    obtain ⟨next, hadmits, hstep, hrest'⟩ := after_cons hafter
    have htracked₁ := tracked_step htracked₀ hadmits hstep
    rw [loses_of_isIdle hidle, List.append_nil] at htracked₁
    have hclosing : next.1.IsIdle ∧ next.1.index = [] := by
      cases hstep
      exact IsIdle.closeAll (c := { c₀ with index := [] }) hidle id c₀.objects .allClosed
    obtain ⟨htracked, hindex⟩ := tracked_after_idle htracked₁ hclosing.1 hrest hrest'
    rw [hclosing.2] at hindex
    refine ⟨by rw [size, hindex]; rfl, fun o ho => ?_⟩
    have hwhole := (after_append hbefore _).trans hafter
    obtain ⟨n, hvalue⟩ := (value_of_handed hnew hwhole).2 o ho
    rcases htracked.kept n o hvalue with hclosed | hentry | ⟨id', stage, hcall, -⟩ | ho | hn
    · exact hclosed
    · rw [hindex] at hentry
      cases hentry
    · rw [stage?, hcalls] at hcall
      cases hcall
    · cases ho
    · cases hn

/-- A connection and a pool were handed out, and nobody asks for objects when the cache is closed:
both are open before and closed afterwards. -/
theorem closed_unless_lost_at_rest :
    let cache : Cache := { node := ⟨"local", none, .empty, .empty⟩, registry := .builtIn }
    let before : List Event := [.callGet 0 (.ofOverrides .connection []), .created 0 none,
      .callGet 1 (.ofOverrides .connectionPool [("min_size", "1")]), .created 1 none]
    let closing : List Event := [.callCloseAll 2, .closedNext 2, .closedNext 2]
    cache.lost before = [] ∧ cache.handed (before ++ closing) = [.connection 0, .pool 0] ∧
    ∃ c₀ c, cache.after before = some c₀ ∧ c₀.isClosed (.connection 0) = false ∧
      c₀.isClosed (.pool 0) = false ∧ c₀.after closing = some c ∧ c.size = 0 ∧
      c.isClosed (.connection 0) = true ∧ c.isClosed (.pool 0) = true := by
  intro cache before closing
  have hlost : cache.lost before = [] := by decide +kernel
  have hhanded : cache.handed (before ++ closing) = [.connection 0, .pool 0] := by decide +kernel
  have hrun : (cache.after before).map (fun c₀ =>
      (c₀.calls.isEmpty, c₀.isClosed (.connection 0), c₀.isClosed (.pool 0),
        (c₀.after closing).map fun c => c.calls.isEmpty)) =
      some (true, false, false, some true) := by
    decide +kernel
  obtain ⟨c₀, hbefore, hc₀⟩ := Option.map_eq_some_iff.mp hrun
  simp only [Prod.mk.injEq, List.isEmpty_iff] at hc₀
  obtain ⟨hcalls₀, hconnection, hpool, hclosing⟩ := hc₀
  obtain ⟨c, hafter, hcalls⟩ := Option.map_eq_some_iff.mp hclosing
  have hidle : c₀.IsIdle := by
    intro call hcall
    rw [hcalls₀] at hcall
    cases hcall
  have hstart : ∀ e ∈ [Event.closedNext 2, .closedNext 2], e.isStart = false := by decide
  obtain ⟨hsize, hclosed⟩ := (closed_unless_lost cache.node cache.registry).2 before c₀ hbefore
    hlost hidle 2 [.closedNext 2, .closedNext 2] c hafter hstart (List.isEmpty_iff.mp hcalls)
  rw [hhanded] at hclosed
  exact ⟨hlost, hhanded, c₀, c, hbefore, hconnection, hpool, hafter, hsize,
    hclosed _ List.mem_cons_self, hclosed _ (List.mem_cons_of_mem _ List.mem_cons_self)⟩

/-- A cache is closed while a call opens a connection, which is handed out and stays open. -/
theorem building_outlives_closing :
    let cache : Cache := { node := ⟨"local", none, .empty, .empty⟩, registry := .builtIn }
    let events : List Event :=
      [.callGet 0 (.ofOverrides .connection []), .callCloseAll 1, .created 0 none]
    cache.handed events = [.connection 0] ∧
    ∃ c, cache.after events = some c ∧ c.calls.isEmpty = true ∧ c.size = 0 ∧
      c.isClosed (.connection 0) = false := by
  intro cache events
  have hhanded : cache.handed events = [.connection 0] := by decide +kernel
  have hrun : (cache.after events).map (fun c =>
      (c.calls.isEmpty, c.size, c.isClosed (.connection 0))) = some (true, 0, false) := by
    decide +kernel
  obtain ⟨c, hafter, hc⟩ := Option.map_eq_some_iff.mp hrun
  simp only [Prod.mk.injEq] at hc
  exact ⟨hhanded, c, hafter, hc⟩

end BulkValues.Cache
