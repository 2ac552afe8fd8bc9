/-
# Histories of a pool

A history is a list of events that happen in a pool one after another.  Each event must be
possible where it happens, and a call starts under a number that no call under way and no lent
connection has.  What holds of a new pool and is kept by every event holds after every history.

What an event does is said once, with what the pool must be like for it: proofs about every event
take these apart and not `Pool.step`.
-/
import BulkValues.Pool.Step
import Mathlib.Data.Nat.Notation
import Mathlib.Tactic.Lemma

namespace BulkValues.Pool

/-- Whether nothing goes under a number: no call under way and no lent connection. -/
def isUnused (p : Pool) (id : ℕ) : Bool := (p.task? id).isNone && (p.lent.lookup id).isNone

/-- Whether an event may come next: a call starts under a number of its own. -/
def admits (p : Pool) : Event → Bool
  | .callOpen id | .callGet id | .callCloseIdle id | .callClose id => p.isUnused id
  | _ => true

/-- A pool after events, if all of them can happen. -/
def after (p : Pool) : List Event → Option Pool
  | [] => some p
  | e :: es => if p.admits e then (p.step e).bind fun next => next.1.after es else none

lemma task?_of_isUnused {p : Pool} {id : ℕ} (h : p.isUnused id = true) : p.task? id = none := by
  simp only [isUnused, Bool.and_eq_true, Option.isNone_iff_eq_none] at h
  exact h.1

variable {p q : Pool} {e : Event} {es : List Event} {next : Pool × Result}

lemma after_cons_of_step (hadmits : p.admits e = true) (hstep : p.step e = some next)
    (es : List Event) : p.after (e :: es) = next.1.after es := by
  rw [after, if_pos hadmits, hstep]
  rfl

/-- A history begins with an event that can happen. -/
lemma after_cons (h : p.after (e :: es) = some q) :
    ∃ next, p.admits e = true ∧ p.step e = some next ∧ next.1.after es = some q := by
  rw [after] at h
  split at h
  · rename_i hadmits
    obtain ⟨next, hstep, hafter⟩ := Option.bind_eq_some_iff.mp h
    exact ⟨next, hadmits, hstep, hafter⟩
  · cases h

/-- A history may go on where another has ended. -/
lemma after_append (h : p.after es = some q) (rest : List Event) :
    p.after (es ++ rest) = q.after rest := by
  induction es generalizing p with
  | nil =>
    cases h
    rfl
  | cons e es ih =>
    obtain ⟨next, hadmits, hstep, hafter⟩ := after_cons h
    rw [List.cons_append, after_cons_of_step hadmits hstep, ih hafter]

/-! ## What an event does -/

/-- An event can happen in a pool, and this comes of it. -/
inductive Effect (p : Pool) : Event → Pool × Result → Prop where
  | openStarted (id : ℕ) : Effect p (.callOpen id) (p.startOpen id)
  | getStarted (id : ℕ) : Effect p (.callGet id) (p.startGet id)
  | closeIdleStarted (id : ℕ) : Effect p (.callCloseIdle id) (p.startCloseIdle id)
  | closeStarted (id : ℕ) : Effect p (.callClose id) (p.startClose id)
  /-- A request begins to look for a connection. -/
  | searched {id deadline : ℕ} (ht : p.task? id = some (.get deadline .granted))
      (hopen : p.isClosed = false) : Effect p (.proceed id) (p.search id, none)
  /-- A request that waited for a permit finds the pool closed. -/
  | refused {id deadline : ℕ} {phase : Phase} (ht : p.task? id = some (.get deadline phase))
      (hphase : phase = .granted ∨ phase = .queued) (hclosed : p.isClosed = true) :
      Effect p (.proceed id) (p.quit id phase, some (id, .failed .closedWhileQueued))
  | approved {id deadline : ℕ} {e : Entry}
      (ht : p.task? id = some (.get deadline (.validating e))) :
      Effect p (.validated id true) (p.lend id { e with lastUsed := p.now })
  | disapproved {id deadline : ℕ} {e : Entry}
      (ht : p.task? id = some (.get deadline (.validating e))) :
      Effect p (.validated id false)
        ({ p with discarded := p.discarded + 1 }.setPhase id (.discarding e), none)
  | discarded {id deadline : ℕ} {e : Entry}
      (ht : p.task? id = some (.get deadline (.discarding e))) :
      Effect p (.discarded id)
        ({ p with closedConnections := p.closedConnections ++ [e.connection] }.search id, none)
  | notCreated {id deadline : ℕ} (ht : p.task? id = some (.get deadline .creating))
      (failure : Error) :
      Effect p (.created id (some failure)) (p.quit id .creating, some (id, .failed failure))
  | created {id deadline : ℕ} (ht : p.task? id = some (.get deadline .creating)) :
      Effect p (.created id none) (lend { p with created := p.created + 1 } id p.fresh)
  /-- Opening up front ends with the first failure. -/
  | notOpened {id missing : ℕ} (ht : p.task? id = some (.open (missing + 1))) (failure : Error) :
      Effect p (.created id (some failure)) (p.removeTask id, some (id, .failed failure))
  | openedLast {id : ℕ} (ht : p.task? id = some (.open 1)) :
      Effect p (.created id none)
        ({ p with created := p.created + 1, idle := p.idle ++ [p.fresh] }.removeTask id,
          some (id, .opened))
  | openedNext {id missing : ℕ} (ht : p.task? id = some (.open (missing + 1)))
      (hmissing : missing ≠ 0) :
      Effect p (.created id none)
        ({ p with created := p.created + 1, idle := p.idle ++ [p.fresh] }.setTask id
          (.open missing), none)
  | closedLast {id : ℕ} {e : Entry} (ht : p.task? id = some (.close [e])) :
      Effect p (.closedNext id)
        ({ p with closedConnections := p.closedConnections ++ [e.connection] }.removeTask id,
          some (id, .closed))
  | closedNext {id : ℕ} {e : Entry} {rest : List Entry}
      (ht : p.task? id = some (.close (e :: rest))) (hrest : rest ≠ []) :
      Effect p (.closedNext id)
        ({ p with closedConnections := p.closedConnections ++ [e.connection] }.setTask id
          (.close rest), none)
  | expired {id deadline : ℕ} {phase : Phase} (ht : p.task? id = some (.get deadline phase))
      (hdeadline : deadline ≤ p.now) :
      Effect p (.expire id) ({ p.quit id phase with timedOut := p.timedOut + 1 },
        some (id, .failed (.timedOut (durationText p.config.acquireTimeout))))
  | requestAbandoned {id deadline : ℕ} {phase : Phase}
      (ht : p.task? id = some (.get deadline phase)) :
      Effect p (.abandon id) (p.quit id phase, none)
  | callAbandoned {id : ℕ} {t : Task} (ht : p.task? id = some t)
      (hget : ∀ deadline phase, t ≠ .get deadline phase) :
      Effect p (.abandon id) (p.removeTask id, none)
  | givenBack {id : ℕ} {e : Entry} (hlent : p.lent.lookup id = some e) :
      Effect p (.giveBack id) (p.takeBack id e, none)
  | connectionClosed (connection : ℕ) : Effect p (.closeConnection connection)
      ({ p with closedConnections := p.closedConnections ++ [connection] }, none)
  | passed (ms : ℕ) : Effect p (.pass ms) ({ p with now := p.now + ms }, none)

lemma effect_of_finishCreation {id : ℕ} {failure : Option Error} {t : Task}
    (ht : p.task? id = some t) (h : p.finishCreation id failure t = some next) :
    Effect p (.created id failure) next := by
  rw [finishCreation.eq_def] at h
  split at h
  · split at h
    · cases h
      exact .notCreated ht _
    · cases h
      exact .created ht
  · split at h
    · cases h
      exact .notOpened ht _
    · split at h
      · rename_i hmissing
        cases h
        subst hmissing
        exact .openedLast ht
      · rename_i hmissing
        cases h
        exact .openedNext ht hmissing
  · cases h

/-- Nothing else happens in a pool. -/
lemma effect_of_step (h : p.step e = some next) : Effect p e next := by
  cases e with
  | callOpen id =>
    cases h
    exact .openStarted id
  | callGet id =>
    cases h
    exact .getStarted id
  | callCloseIdle id =>
    cases h
    exact .closeIdleStarted id
  | callClose id =>
    cases h
    exact .closeStarted id
  | proceed id =>
    simp only [step] at h
    split at h
    · rename_i ht
      split at h
      · rename_i hclosed
        cases h
        exact .refused ht (.inl rfl) hclosed
      · rename_i hopen
        cases h
        exact .searched ht (eq_false_of_ne_true hopen)
    · rename_i ht
      split at h
      · rename_i hclosed
        cases h
        exact .refused ht (.inr rfl) hclosed
      · cases h
    · cases h
  | validated id good =>
    simp only [step] at h
    split at h
    · rename_i ht
      cases good with
      | true =>
        cases h
        exact .approved ht
      | false =>
        cases h
        exact .disapproved ht
    · cases h
  | discarded id =>
    simp only [step] at h
    split at h
    · rename_i ht
      cases h
      exact .discarded ht
    · cases h
  | created id failure =>
    obtain ⟨t, ht, hnext⟩ := Option.bind_eq_some_iff.mp h
    exact effect_of_finishCreation ht hnext
  | closedNext id =>
    simp only [step] at h
    split at h
    · rename_i ht
      split at h
      · rename_i hrest
        cases h
        subst hrest
        exact .closedLast ht
      · rename_i hrest
        cases h
        exact .closedNext ht hrest
    · cases h
  | expire id =>
    simp only [step] at h
    split at h
    · rename_i ht
      split at h
      · rename_i hdeadline
        cases h
        exact .expired ht hdeadline
      · cases h
    · cases h
  | abandon id =>
    simp only [step] at h
    split at h
    · rename_i ht
      cases h
      exact .requestAbandoned ht
    · rename_i hget ht
      cases h
      exact .callAbandoned ht hget
    · cases h
  | giveBack id =>
    obtain ⟨e, hlent, hnext⟩ := Option.map_eq_some_iff.mp h
    cases hnext
    exact .givenBack hlent
  | closeConnection connection =>
    cases h
    exact .connectionClosed connection
  | pass ms =>
    cases h
    exact .passed ms

end BulkValues.Pool
