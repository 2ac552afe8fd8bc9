/-
# One open connection for each key

As long as nothing is evicted, the connections that a cache opens for a key are closed one after
another: a slot leaves the index only when its connection is closed, and every connection that is
open lies in the slot that its key has in the index.  Callers that all see the same closed
connection cannot drop the one that replaced it, since each removes only the slot it has seen.
-/
import BulkValues.Proofs.Cache.Steps

namespace BulkValues.Cache

/-- The connection of a number is in a slot of a key. -/
def IsOpenedFor (c : Cache) (key : Key) (m : ℕ) : Prop :=
  ∃ n, (c.slot n).key = key ∧ (c.slot n).value = some (.connection m)

variable {c c' : Cache} {key : Key} {m : ℕ} {e : Event} {events : List Event}
  {next : Cache × Result}

lemma IsOpenedFor.grows (h : c.IsOpenedFor key m) (hgrows : Grows c c') : c'.IsOpenedFor key m := by
  obtain ⟨n, rfl, hvalue⟩ := h
  obtain ⟨hvalue', hkey⟩ := hgrows.value n _ hvalue
  exact ⟨n, hkey, hvalue'⟩

/-- A connection that is opened for a call comes into a slot of its key. -/
lemma isOpenedFor_of_opens {lost : List ℕ} (h : Tracked lost [] c) (hm : (key, m) ∈ c.opens e)
    (hstep : c.step e = some next) : next.1.IsOpenedFor key m := by
  rw [opens.eq_def] at hm
  split at hm
  · rename_i id
    split at hm
    · rename_i key' n config hcall
      obtain ⟨rfl, rfl⟩ := Prod.mk.inj (List.mem_singleton.mp hm)
      rw [step, hcall, Option.bind_some] at hstep
      obtain ⟨hempty, hbuilder⟩ := h.filling id _ key n hcall rfl rfl
      obtain ⟨-, hvalue, hkey⟩ :=
        (h.ready hcall rfl rfl hempty hbuilder).connect config (Option.some_inj.mp hstep)
      exact ⟨n, hkey, hvalue⟩
    · cases hm
  · cases hm

/-- Without evictions nothing is lost, no call closes objects, and what is opened for a key stays in
a slot of it. -/
lemma calm_after (h : Tracked [] [] c) (hcalm : c.IsCalm)
    (hevents : ∀ e ∈ events, e.isEviction = false) (hafter : c.after events = some c') :
    Tracked [] [] c' ∧ c'.IsCalm ∧ Grows c c' ∧
      ∀ key m, (key, m) ∈ c.openings events → c'.IsOpenedFor key m := by
  induction events generalizing c with
  | nil =>
    cases hafter
    exact ⟨h, hcalm, .refl _, fun key m hm => by cases hm⟩
  | cons e events ih =>
    obtain ⟨next, hadmits, hstep, hrest⟩ := after_cons hafter
    obtain ⟨he, hevents⟩ := List.forall_mem_cons.mp hevents
    have houtcome := outcome_step h hadmits he hstep
    obtain ⟨htracked, hcalm', hgrows, hopened⟩ :=
      ih houtcome.tracked (houtcome.calm hcalm) hevents hrest
    refine ⟨htracked, hcalm', houtcome.grows.trans hgrows, fun key m hm => ?_⟩
    rw [openings_cons hstep, List.mem_append] at hm
    rcases hm with hm | hm
    · exact (isOpenedFor_of_opens h hm hstep).grows hgrows
    · exact hopened key m hm

/-- An open connection lies in the slot that its key has in the index. -/
lemma mem_index_of_isOpenedFor (h : Tracked [] [] c) (hcalm : c.IsCalm)
    (hm : c.IsOpenedFor key m) (hopen : c.isConnectionClosed m = false) :
    ∃ n, (key, n) ∈ c.index ∧ (c.slot n).value = some (.connection m) := by
  obtain ⟨n, rfl, hvalue⟩ := hm
  rcases h.kept n _ hvalue with hclosed | hentry | ⟨id, stage, hcall, ho⟩ | ho | hlost
  · exact absurd hclosed (by rw [isClosed, hopen]; simp)
  · exact ⟨n, hentry, hvalue⟩
  · rw [hcalm id stage hcall] at ho
    cases ho
  · cases ho
  · cases hlost

/-- As long as nothing is evicted: two connections that calls for one key have opened are never both
open; a slot leaves the index only with a connection that is closed; and a connection that is handed
out is open when it is. -/
theorem one_open_connection {node : Node} {registry : Registry} {events : List Event} {c : Cache}
    (hevents : ∀ e ∈ events, e.isEviction = false)
    (hafter : ({ node, registry } : Cache).after events = some c) :
    (∀ key m m', (key, m) ∈ ({ node, registry } : Cache).openings events →
      (key, m') ∈ ({ node, registry } : Cache).openings events →
        c.isConnectionClosed m = false → c.isConnectionClosed m' = false → m = m') ∧
    ∀ e next, e.isEviction = false → c.admits e = true → c.step e = some next →
      (∀ key n, (key, n) ∈ c.index → (key, n) ∉ next.1.index →
        ∃ m, (next.1.slot n).value = some (.connection m) ∧ next.1.isConnectionClosed m = true) ∧
      ∀ id m, next.2 = some (id, .object (.connection m)) →
        next.1.isConnectionClosed m = false := by
  have hcalm₀ : ({ node, registry } : Cache).IsCalm := fun id stage hcall => by cases hcall
  obtain ⟨htracked, hcalm, -, hopened⟩ :=
    calm_after (tracked_empty node registry) hcalm₀ hevents hafter
  refine ⟨fun key m m' hm hm' hopen hopen' => ?_, fun e next he hadmits hstep => ?_⟩
  · obtain ⟨n, hentry, hvalue⟩ := mem_index_of_isOpenedFor htracked hcalm (hopened key m hm) hopen
    obtain ⟨n', hentry', hvalue'⟩ :=
      mem_index_of_isOpenedFor htracked hcalm (hopened key m' hm') hopen'
    obtain rfl := htracked.index_unique hentry hentry'
    exact Object.connection.inj (Option.some_inj.mp (hvalue.symm.trans hvalue'))
  · have houtcome := outcome_step htracked hadmits he hstep
    refine ⟨fun key n hentry hgone => ?_, fun id m hanswer => (houtcome.answer id _ hanswer).1⟩
    rcases houtcome.grows.index key n hentry with hstays | ⟨o, hvalue, hspent⟩
    · exact absurd hstays hgone
    · cases o with
      | connection m => exact ⟨m, hvalue, hspent⟩
      | pool m => cases hspent

/-- Three callers share a connection, which is closed before two of them have it: the first to go on
replaces it, and the other waits for the new one instead of dropping it. -/
theorem one_open_connection_replaced :
    let cache : Cache := { node := ⟨"local", none, .empty, .empty⟩, registry := .builtIn }
    let key : Key := .ofOverrides .connection []
    let events : List Event := [.callGet 0 key, .callGet 1 key, .callGet 2 key, .created 0 none,
      .close (.connection 0), .resume 1, .resume 2, .created 1 none, .resume 2]
    (∀ e ∈ events, e.isEviction = false) ∧
    cache.openings events = [(key, 0), (key, 1)] ∧
    ∃ c, cache.after events = some c ∧ c.isConnectionClosed 1 = false ∧
      ∀ m, (key, m) ∈ cache.openings events → c.isConnectionClosed m = false → m = 1 := by
  intro cache key events
  have hevents : ∀ e ∈ events, e.isEviction = false := by decide
  have hopenings : cache.openings events = [(key, 0), (key, 1)] := eq_of_beq (by decide +kernel)
  have hrun : (cache.after events).map (fun c => c.isConnectionClosed 1) = some false := by
    decide +kernel
  obtain ⟨c, hafter, hopen⟩ := Option.map_eq_some_iff.mp hrun
  have hlast : (key, 1) ∈ cache.openings events := by
    rw [hopenings]
    exact List.mem_cons_of_mem _ List.mem_cons_self
  refine ⟨hevents, hopenings, c, hafter, hopen, fun m hm hopen' => ?_⟩
  exact (one_open_connection hevents hafter).1 key m 1 hm hlast hopen' hopen

end BulkValues.Cache
