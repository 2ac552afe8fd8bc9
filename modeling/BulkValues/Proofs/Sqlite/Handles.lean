/-
# Handles and their transactions

A connection is inside a transaction exactly while one handle is alive, and there is never more
than one.  Between the moment a handle is given out and the moment it is given up, every statement
that is run changes what is stored, and nothing else does; what was stored at the first of these
moments is kept beside it.  A commit that is accepted leaves the former, and every other way of
giving the handle up goes back to the latter: a rollback, a handle that is simply dropped, and a
commit that is refused, whose handle rolls back when it is given up.
-/
import BulkValues.Proofs.Sqlite.Journal

namespace BulkValues.Sqlite

namespace Event

/-- Whether an event gives a handle up. -/
def endsHandle (handle : ℕ) : Event → Bool
  | .commit h | .rollback h | .drop h => h == handle
  | _ => false

/-- The statement that an event with its answer has run, and the handle it was run through if it
was not run directly. -/
def ran? : Event → Answer → Option (Option ℕ × Ran)
  | .direct _ sql parameters, .ran _ => some (none, ⟨sql, parameters⟩)
  | .inside handle _ sql parameters, .ran _ => some (some handle, ⟨sql, parameters⟩)
  | .batch sql, .done => some (none, ⟨sql, []⟩)
  | _, _ => none

end Event

namespace Session

variable {τ : Type}

/-- The statements that were run by events with their answers, in order. -/
def ranIn (events : List Event) (answers : List Answer) : List (Option ℕ × Ran) :=
  (events.zip answers).flatMap fun x => (x.1.ran? x.2).toList

/-- The transaction of a handle is open. It began with what was stored `before`. -/
structure Holds (before : τ) (handle : ℕ) (s : Session τ) : Prop where
  saved : s.saved = some before
  alive : s.alive = [handle]

/-- No transaction is open, and there is no handle. -/
structure Free (s : Session τ) : Prop where
  saved : s.saved = none
  alive : s.alive = []

variable {e : Engine τ} {before : τ} {handle : ℕ} {s s' : Session τ} {answer : Answer}

/-- Between two events a connection is in one of these two states. -/
lemma free_or_holds (initial : τ) (faults : List (Option Refusal)) (events : List Event) :
    let s := (({ Session.opened initial with faults } : Session τ).run e events).2
    Free s ∨ ∃ before handle, Holds before handle s := by
  intro s
  have hfaithful :=
    Recorded.faithful_after (Recorded.faithful_opened (e := e) initial faults) events
  have hsession : ((Recorded.opened initial faults).after e events).session = s :=
    Recorded.session_after events
  cases hfaithful with
  | outside pending saved alive kept => exact .inl ⟨hsession ▸ saved, hsession ▸ alive⟩
  | inside rs before handle pending saved alive kept open_ =>
    exact .inr ⟨before, handle, hsession ▸ saved, hsession ▸ alive⟩

/-- A transaction begins outside of any other, and nothing that is stored changes. -/
lemma holds_start (hstate : Free s ∨ ∃ before handle, Holds before handle s)
    (h : s.step e .start = (.started handle, s')) :
    Holds s.stored handle s' ∧ s'.stored = s.stored := by
  rw [step, ifOpen] at h
  split at h
  · cases h
  · rw [start, beginCommand] at h
    rcases hinterruption : s.interruption with ⟨_ | refusal, s₁⟩
    · obtain ⟨hframe, hstored, -⟩ := interruption_spec hinterruption
      rcases hstate with hfree | ⟨before, other, hholds⟩
      · simp only [hinterruption, hframe.saved.trans hfree.saved] at h
        cases h
        exact ⟨⟨congrArg some hstored, congrArg _ (hframe.alive.trans hfree.alive)⟩, hstored⟩
      · simp only [hinterruption, hframe.saved.trans hholds.saved] at h
        cases h
    · simp only [hinterruption] at h
      cases h

/-! ## While a transaction is open -/

/-- Beginning once more is refused and has no effect. -/
lemma start_of_holds (h : Holds before handle s) (hstart : s.start = (answer, s')) :
    Holds before handle s' ∧ (∃ reason, answer = .failed reason) ∧ s'.stored = s.stored := by
  rw [start, beginCommand] at hstart
  rcases hinterruption : s.interruption with ⟨_ | refusal, s₁⟩
  · obtain ⟨hframe, hstored, -⟩ := interruption_spec hinterruption
    have hsaved : s₁.saved = some before := hframe.saved.trans h.saved
    simp only [hinterruption, hsaved] at hstart
    cases hstart
    exact ⟨⟨hsaved, hframe.alive.trans h.alive⟩, ⟨_, rfl⟩, hstored⟩
  · obtain ⟨hframe, hstored, -⟩ := interruption_spec hinterruption
    simp only [hinterruption] at hstart
    cases hstart
    exact ⟨⟨hframe.saved.trans h.saved, hframe.alive.trans h.alive⟩, ⟨_, rfl⟩, hstored⟩

/-- A statement that was run could be run again, and one that is refused changes nothing. -/
lemma answerOf_of_holds {fetch : Bool} {sql : String} {parameters : List Value}
    (h : Holds before handle s)
    (hran : answerOf (s.statement e fetch sql parameters) = (answer, s')) :
    Holds before handle s' ∧
      ((∃ result, answer = .ran result) ∧ e.rerun s.stored ⟨sql, parameters⟩ = some s'.stored ∨
        (∃ reason, answer = .failed reason) ∧ s'.stored = s.stored) := by
  rcases hstatement : s.statement e fetch sql parameters with ⟨reason | result, s₁⟩
  · obtain ⟨hsaved, halive, hstored⟩ := Recorded.statement_reruns hstatement
    rw [hstatement] at hran
    cases hran
    exact ⟨⟨hsaved.trans h.saved, halive.trans h.alive⟩, .inr ⟨⟨_, rfl⟩, hstored⟩⟩
  · obtain ⟨hsaved, halive, hrerun⟩ := Recorded.statement_reruns hstatement
    rw [hstatement] at hran
    cases hran
    exact ⟨⟨hsaved.trans h.saved, halive.trans h.alive⟩, .inl ⟨⟨_, rfl⟩, hrerun⟩⟩

/-- What an event does to the open transaction of a handle that it does not give up: what is
stored changes by the statement that is run, if one is, which is run directly or through that
handle. -/
lemma holds_step {event : Event} (h : Holds before handle s)
    (hevent : event.endsHandle handle = false) (hstep : s.step e event = (answer, s')) :
    Holds before handle s' ∧
      e.replay s.stored ((event.ran? answer).toList.map Prod.snd) = some s'.stored ∧
      ∀ entry ∈ (event.ran? answer).toList, entry.1 = none ∨ entry.1 = some handle := by
  -- An event that runs nothing changes nothing.
  have hquiet : Holds before handle s' → s'.stored = s.stored → event.ran? answer = none →
      Holds before handle s' ∧
        e.replay s.stored ((event.ran? answer).toList.map Prod.snd) = some s'.stored ∧
        ∀ entry ∈ (event.ran? answer).toList, entry.1 = none ∨ entry.1 = some handle := by
    intro hholds hstored hran
    rw [hran, hstored]
    exact ⟨hholds, rfl, by simp⟩
  -- An event that runs a statement changes what is stored as the statement does.
  have hloud : ∀ via statement, Holds before handle s' →
      e.rerun s.stored statement = some s'.stored → event.ran? answer = some (via, statement) →
      via = none ∨ via = some handle →
      Holds before handle s' ∧
        e.replay s.stored ((event.ran? answer).toList.map Prod.snd) = some s'.stored ∧
        ∀ entry ∈ (event.ran? answer).toList, entry.1 = none ∨ entry.1 = some handle := by
    intro via statement hholds hrerun hran hvia
    have hnothing : e.replay s.stored [] = some s.stored := rfl
    rw [hran]
    exact ⟨hholds, Engine.replay_snoc hnothing hrerun, by simpa using hvia⟩
  cases event with
  | start =>
    rw [step, ifOpen] at hstep
    split at hstep
    · cases hstep
      exact hquiet h rfl rfl
    · obtain ⟨hholds, ⟨reason, rfl⟩, hstored⟩ := start_of_holds h hstep
      exact hquiet hholds hstored rfl
  | direct fetch sql parameters =>
    rw [step, ifOpen] at hstep
    split at hstep
    · cases hstep
      exact hquiet h rfl rfl
    · obtain ⟨hholds, ⟨⟨result, rfl⟩, hrerun⟩ | ⟨⟨reason, rfl⟩, hstored⟩⟩ :=
        answerOf_of_holds h hstep
      · exact hloud _ _ hholds hrerun rfl (.inl rfl)
      · exact hquiet hholds hstored rfl
  | inside other fetch sql parameters =>
    rw [step, through] at hstep
    split at hstep
    · rename_i halive
      rw [h.alive, List.mem_singleton] at halive
      obtain ⟨hholds, ⟨⟨result, rfl⟩, hrerun⟩ | ⟨⟨reason, rfl⟩, hstored⟩⟩ :=
        answerOf_of_holds h hstep
      · exact hloud _ _ hholds hrerun rfl (.inr (congrArg some halive))
      · exact hquiet hholds hstored rfl
    · cases hstep
      exact hquiet h rfl rfl
  | batch sql =>
    rw [step, ifOpen] at hstep
    split at hstep
    · cases hstep
      exact hquiet h rfl rfl
    · obtain ⟨hsaved, halive, ⟨rfl, hrerun⟩ | ⟨⟨reason, rfl⟩, hstored⟩⟩ :=
        Recorded.batch_reruns hstep
      · exact hloud _ _ ⟨hsaved.trans h.saved, halive.trans h.alive⟩ hrerun rfl (.inl rfl)
      · exact hquiet ⟨hsaved.trans h.saved, halive.trans h.alive⟩ hstored rfl
  | commit other | rollback other | drop other =>
    have hother : other ∉ s.alive := by
      rw [h.alive, List.mem_singleton]
      simpa [Event.endsHandle] using hevent
    rw [step, through, if_neg hother] at hstep
    cases hstep
    exact hquiet h rfl rfl
  | close =>
    cases hstep
    exact hquiet ⟨h.saved, h.alive⟩ rfl rfl

/-- A handle stays alive until it is given up, and what is stored comes of the statements that
were run in the meantime. -/
lemma holds_run {during : List Event} (h : Holds before handle s)
    (hduring : ∀ event ∈ during, event.endsHandle handle = false) :
    Holds before handle (s.run e during).2 ∧
      e.replay s.stored ((ranIn during (s.run e during).1).map Prod.snd) =
        some (s.run e during).2.stored ∧
      ∀ entry ∈ ranIn during (s.run e during).1, entry.1 = none ∨ entry.1 = some handle := by
  induction during generalizing s with
  | nil => exact ⟨h, rfl, by simp [ranIn]⟩
  | cons event during ih =>
    rcases hstep : s.step e event with ⟨answer, s₁⟩
    obtain ⟨hholds₁, hreplay₁, hby₁⟩ :=
      holds_step h (hduring event List.mem_cons_self) hstep
    obtain ⟨hholds, hreplay, hby⟩ :=
      ih hholds₁ fun event hmem => hduring event (List.mem_cons_of_mem _ hmem)
    have hran : ranIn (event :: during) (answer :: (s₁.run e during).1) =
        (event.ran? answer).toList ++ ranIn during (s₁.run e during).1 := rfl
    simp only [run, hstep, hran]
    refine ⟨hholds, ?_, fun entry hentry => ?_⟩
    · rw [List.map_append, Engine.replay_append hreplay₁, hreplay]
    · rcases List.mem_append.mp hentry with hentry | hentry
      · exact hby₁ entry hentry
      · exact hby entry hentry

/-! ## The end of a transaction -/

/-- A commit keeps what is stored if it is accepted, and goes back if it is refused. -/
lemma commit_of_holds (h : Holds before handle s)
    (hstep : s.step e (.commit handle) = (answer, s')) :
    Free s' ∧ (answer = .done ∧ s'.stored = s.stored ∨
      (∃ reason, answer = .failed reason) ∧ s'.stored = before) := by
  have halive : handle ∈ s.alive := by simp [h.alive]
  have hforget : (s.forget handle).alive = [] := by simp [forget, h.alive]
  rw [step, through, if_pos halive, commit, commitCommand] at hstep
  simp only [Flags.unfinished, Bool.false_eq_true, if_false] at hstep
  rcases hinterruption : (s.forget handle).interruption with ⟨_ | refusal, s₁⟩
  · obtain ⟨hframe, hstored, -⟩ := interruption_spec hinterruption
    have hsaved : s₁.saved = some before := hframe.saved.trans h.saved
    simp only [hinterruption, hsaved, giveUp, Bool.true_or, if_true] at hstep
    cases hstep
    exact ⟨⟨rfl, hframe.alive.trans hforget⟩, .inl ⟨rfl, hstored⟩⟩
  · obtain ⟨hframe, -, -⟩ := interruption_spec hinterruption
    have hsaved : s₁.saved = some before := hframe.saved.trans h.saved
    simp only [hinterruption, giveUp, rollbackCommand, hsaved] at hstep
    cases hstep
    exact ⟨⟨rfl, hframe.alive.trans hforget⟩, .inr ⟨⟨_, rfl⟩, rfl⟩⟩

/-- A rollback goes back, as a handle does that is dropped. -/
lemma undo_of_holds {event : Event} (h : Holds before handle s)
    (hevent : event = .rollback handle ∨ event = .drop handle)
    (hstep : s.step e event = (answer, s')) :
    Free s' ∧ answer = .done ∧ s'.stored = before := by
  have halive : handle ∈ s.alive := by simp [h.alive]
  have hforget : s.alive.erase handle = [] := by simp [h.alive]
  rcases hevent with rfl | rfl
  · simp only [step, through, halive, if_true, rollback, Flags.unfinished, Bool.false_eq_true,
      if_false, rollbackCommand, forget, h.saved, answerTo, giveUp] at hstep
    cases hstep
    exact ⟨⟨rfl, hforget⟩, rfl, rfl⟩
  · simp only [step, through, halive, if_true, Flags.unfinished, Bool.false_eq_true, if_false,
      rollbackCommand, forget, h.saved, giveUp, Bool.or_self] at hstep
    cases hstep
    exact ⟨⟨rfl, hforget⟩, rfl, rfl⟩

/-- In every session, whatever is interrupted, a connection is inside a transaction exactly while
one handle is alive.  From the moment a handle is given out until it is given up it is the one that
is alive, and whoever runs a statement runs it through this handle or directly.  When it is given
up there is no handle and no transaction any more.  A commit that is accepted leaves what comes of
all the statements that were run in the meantime, on what was stored when the handle was given out;
otherwise that itself is what is left, and only a commit can be refused. -/
theorem transaction_contained (e : Engine τ) (initial : τ) (faults : List (Option Refusal))
    (events : List Event) :
    let s := (({ Session.opened initial with faults } : Session τ).run e events).2
    (s.inTransaction = true ↔ ∃ handle, s.alive = [handle]) ∧
    (s.inTransaction = false ↔ s.alive = []) ∧
    ∀ handle during, (s.step e .start).1 = .started handle →
      (∀ event ∈ during, event.endsHandle handle = false) →
      let t := (s.step e .start).2.run e during
      let ran := ranIn during t.1
      t.2.alive = [handle] ∧
      (∀ entry ∈ ran, entry.1 = none ∨ entry.1 = some handle) ∧
      ∀ event, event.endsHandle handle = true →
        let ended := t.2.step e event
        ended.2.alive = [] ∧ ended.2.inTransaction = false ∧
        (event = .commit handle → ended.1 = .done →
          e.replay s.stored (ran.map Prod.snd) = some ended.2.stored) ∧
        (¬ (event = .commit handle ∧ ended.1 = .done) → ended.2.stored = s.stored) ∧
        (ended.1 = .done ∨ event = .commit handle ∧ ∃ reason, ended.1 = .failed reason) := by
  intro s
  have hstate : Free s ∨ ∃ before handle, Holds before handle s :=
    free_or_holds initial faults events
  refine ⟨?_, ?_, fun handle during hstarted hduring => ?_⟩
  · rcases hstate with hfree | ⟨before, handle, hholds⟩
    · simp [inTransaction, hfree.saved, hfree.alive]
    · simp [inTransaction, hholds.saved, hholds.alive]
  · rcases hstate with hfree | ⟨before, handle, hholds⟩
    · simp [inTransaction, hfree.saved, hfree.alive]
    · simp [inTransaction, hholds.saved, hholds.alive]
  intro t ran
  obtain ⟨hbegun, hstored⟩ := holds_start hstate (Prod.ext hstarted rfl)
  obtain ⟨hholds, hreplay, hvia⟩ := holds_run (e := e) hbegun hduring
  refine ⟨hholds.alive, hvia, fun event hevent => ?_⟩
  rcases hended : t.2.step e event with ⟨answer, t'⟩
  have hfinal : event = .commit handle ∨ event = .rollback handle ∨ event = .drop handle := by
    cases event with
    | commit other | rollback other | drop other => simpa [Event.endsHandle] using hevent
    | _ => cases hevent
  rcases hfinal with rfl | hundo
  · obtain ⟨hfree, ⟨rfl, hkept⟩ | ⟨⟨reason, rfl⟩, hback⟩⟩ := commit_of_holds hholds hended
    · refine ⟨hfree.alive, by simp [inTransaction, hfree.saved], fun _ _ => ?_,
        fun hno => absurd ⟨rfl, rfl⟩ hno, .inl rfl⟩
      rw [hkept, ← hstored]
      exact hreplay
    · refine ⟨hfree.alive, by simp [inTransaction, hfree.saved], fun _ hdone => ?_,
        fun _ => hback, .inr ⟨rfl, reason, rfl⟩⟩
      cases hdone
  · obtain ⟨hfree, rfl, hback⟩ := undo_of_holds hholds hundo hended
    refine ⟨hfree.alive, by simp [inTransaction, hfree.saved], fun hcommit => ?_,
      fun _ => hback, .inl rfl⟩
    rcases hundo with rfl | rfl
    · cases hcommit
    · cases hcommit

/-- A row is put in through a handle and the commit is refused for want of space: the table is
empty again and no handle is left. -/
theorem transaction_contained_full_disk :
    let faults := [none, none, some (.coded "database or disk is full" "DiskFull" 13)]
    let s := (({ Session.opened (some []) with faults } : Session Catalog).run Catalog.engine []).2
    let during : List Event := [.inside 0 false "INSERT INTO items VALUES (1, 'a', NULL)" []]
    let t := (s.step Catalog.engine .start).2.run Catalog.engine during
    let ended := t.2.step Catalog.engine (.commit 0)
    ((s.step Catalog.engine .start).1 = .started 0 ∧
      ∀ event ∈ during, event.endsHandle 0 = false) ∧
      t.2.stored = some [⟨1, .text "a", .null⟩] ∧ t.2.alive = [0] ∧
      ended.2.alive = [] ∧ ended.2.stored = s.stored ∧ s.stored = some [] := by
  have hduring : ∀ event ∈ [Event.inside 0 false "INSERT INTO items VALUES (1, 'a', NULL)" []],
      event.endsHandle 0 = false := by simp [Event.endsHandle]
  obtain ⟨halive, -, hended⟩ := (transaction_contained Catalog.engine (some [])
    [none, none, some (.coded "database or disk is full" "DiskFull" 13)] []).2.2 0 _ rfl hduring
  obtain ⟨hgone, -, -, hback, -⟩ := hended (.commit 0) rfl
  have hrefused : ∀ t : Session Catalog, t.alive = [0] →
      t.faults = [some (.coded "database or disk is full" "DiskFull" 13)] →
      (t.step Catalog.engine (.commit 0)).1 ≠ .done := by
    intro t halive hfaults
    simp [step, through, halive, commit, Flags.unfinished, commitCommand, interruption, forget,
      hfaults]
  refine ⟨⟨rfl, hduring⟩, by cbv, halive, hgone, hback ?_, rfl⟩
  rintro ⟨-, hdone⟩
  exact hrefused _ halive (by cbv) hdone

end Session

end BulkValues.Sqlite
