/-
# Only fresh connections are lent

A request that is served while no other call goes on gets a new connection, or the one that has
been idle longest among those that pass its checks: it is not too old, has not been idle for too
long, and the verdict on it was good.  Those in front of it failed; each was closed and counted
once and is gone for good.

How old a connection is and how long it has been idle is told by a record of the history, which is
kept beside the pool: the entries of the pool agree with it after every event.
-/
import BulkValues.Proofs.Pool.Attempt
import BulkValues.Proofs.Pool.Lineage

namespace BulkValues.Pool

/-- When each connection was opened, and since when it has not been used. -/
structure Times where
  openedAt : ℕ → ℕ
  idleSince : ℕ → ℕ

namespace Times

/-- The record goes on with an event that happens in a pool. -/
def record (t : Times) (p : Pool) : Event → Times
  | .created _ none =>
    ⟨Function.update t.openedAt p.created p.now, Function.update t.idleSince p.created p.now⟩
  | .giveBack id =>
    match p.lent.lookup id with
    | some e => { t with idleSince := Function.update t.idleSince e.connection p.now }
    | none => t
  | _ => t

/-- The record goes on with a history. -/
def along (t : Times) (p : Pool) : List Event → Times
  | [] => t
  | event :: events =>
    match p.step event with
    | some next => (t.record p event).along next.1 events
    | none => t

/-- Whether a connection is older at a time than connections may be. -/
def IsTooOld (t : Times) (c : Config) (time n : ℕ) : Prop :=
  ∃ limit, c.maxLifetime = some limit ∧ limit < time - t.openedAt n

/-- Whether a connection may be lent at a time: it is not too old and has not been idle for too
long. -/
def IsFresh (t : Times) (c : Config) (time n : ℕ) : Prop :=
  ¬ t.IsTooOld c time n ∧ time - t.idleSince n ≤ c.idleTimeout

end Times

/-- The record of a history that begins in a pool. -/
def times (p : Pool) (events : List Event) : Times :=
  Times.along ⟨fun _ => 0, fun _ => 0⟩ p events

/-- A pool agrees with a record: every entry says when its connection was opened, every idle one
since when it has been idle, and the one that has been idle longest is in front. -/
structure Timed (t : Times) (p : Pool) : Prop where
  opened : ∀ b ∈ p.births, b.2 = t.openedAt b.1
  idle : ∀ e ∈ p.idle, e.lastUsed = t.idleSince e.connection
  sorted : p.idle.Pairwise fun e e' => e.lastUsed ≤ e'.lastUsed
  past : ∀ e ∈ p.idle, e.lastUsed ≤ p.now

/-- Idle connections that a request took failed one of its checks; they were closed and counted,
and are gone for good. -/
structure Dismissed (c : Config) (t : Times) (p : Pool) (id : ℕ) (log : Log) (q : Pool)
    (gone : List Entry) : Prop where
  failed : ∀ e ∈ gone, (.validating e, .validated id false) ∈ log ∨
    ∃ time, p.now ≤ time ∧ time ≤ q.now ∧ ¬ t.IsFresh c time e.connection
  closed : q.closedConnections = p.closedConnections ++ gone.map Entry.connection
  counted : q.discarded = p.discarded + gone.length
  gone : ∀ e ∈ gone, q.IsGone e.connection

/-- How a request is served that has dismissed the idle connections in front: with a connection that
was opened for it, when no idle one was left, or with the next idle one, which was fresh and on
which the verdict was good. -/
inductive Served (c : Config) (t : Times) (p : Pool) (id : ℕ) (log : Log) (q : Pool)
    (gone : List Entry) : ℕ → Prop where
  | opened (hidle : p.idle = gone) (hrest : q.idle = [])
      (hlog : (.creating, .created id none) ∈ log) (hcreated : q.created = p.created + 1)
      (hlent : q.lent = p.lent ++ [(id, ⟨p.created, q.now, q.now⟩)]) :
      Served c t p id log q gone p.created
  | reused {e : Entry} {time : ℕ} (hidle : p.idle = gone ++ e :: q.idle) (hbegun : p.now ≤ time)
      (htime : time ≤ q.now) (hfresh : t.IsFresh c time e.connection)
      (hlog : (.validating e, .validated id true) ∈ log)
      (hlent : q.lent = p.lent ++ [(id, { e with lastUsed := q.now })]) :
      Served c t p id log q gone e.connection

variable {c : Config} {loose id n now : ℕ} {p q : Pool} {e : Entry} {t : Times} {event : Event}
  {next : Pool × Result} {events : List Event} {log : Log}

/-! ## The record -/

lemma lt_created (haccounts : Accounts c loose p) {b : ℕ × ℕ} (hb : b ∈ p.births) :
    b.1 < p.created := by
  by_contra hnew
  have hnone := haccounts.placed.opened b.1 (Nat.not_lt.mp hnew)
  exact absurd (places_pos_iff.mpr ⟨b.2, hb⟩) (by omega)

/-- An idle connection is not lent. -/
lemma ne_of_lent (haccounts : Accounts c loose p) (he : e ∈ p.idle) {e' : Entry}
    (hlent : p.lent.lookup id = some e') : e.connection ≠ e'.connection := by
  intro heq
  have honce := haccounts.placed.once e.connection
  have hidle : 0 < p.idle.countP (·.connection = e.connection) :=
    List.countP_pos_iff.mpr ⟨e, he, decide_eq_true rfl⟩
  have hloan : 0 < p.lent.countP (·.2.connection = e.connection) := by
    obtain ⟨before, after, hsplit, -⟩ := List.lookup_eq_some_iff.mp hlent
    exact List.countP_pos_iff.mpr ⟨(id, e'), hsplit ▸ by simp, decide_eq_true heq.symm⟩
  rw [places_eq] at honce
  omega

namespace Times

/-- The record of a connection that has been opened stays. -/
lemma openedAt_record (hn : n < p.created) : (t.record p event).openedAt n = t.openedAt n := by
  rw [record.eq_def]
  split
  · exact Function.update_of_ne (Nat.ne_of_lt hn) _ _
  · split <;> rfl
  · rfl

lemma idleSince_record (haccounts : Accounts c loose p) (he : e ∈ p.idle) :
    (t.record p event).idleSince e.connection = t.idleSince e.connection := by
  rw [record.eq_def]
  split
  · have hlt := lt_created haccounts (mem_births (mem_owned_of_mem_idle he))
    exact Function.update_of_ne (Nat.ne_of_lt hlt) _ _
  · split
    · rename_i hlent
      exact Function.update_of_ne (ne_of_lent haccounts he hlent) _ _
    · rfl
  · rfl

end Times

/-- Who joins the idle connections has been idle since now. -/
lemma Joins.spec {joined : List Entry} (h : p.Joins event joined) :
    ∀ e ∈ joined,
      e.lastUsed = p.now ∧ (t.record p event).idleSince e.connection = p.now := by
  intro e he
  cases h with
  | nobody => cases he
  | opened id =>
    rw [List.mem_singleton.mp he, Times.record]
    exact ⟨rfl, Function.update_self p.created p.now t.idleSince⟩
  | back hlent =>
    rename_i id e
    rw [List.mem_singleton.mp he, Times.record, hlent]
    exact ⟨rfl, Function.update_self e.connection p.now t.idleSince⟩

/-- Every event keeps a pool and its record in agreement. -/
lemma timed_step (h : Timed t p) (haccounts : Accounts c loose p)
    (hstep : p.step event = some next) : Timed (t.record p event) next.1 := by
  have hpassage := passage_of_step hstep
  obtain ⟨kept, joined, hidle, hsublist, hjoins⟩ := hpassage.idle
  have hjoined := hjoins.spec (t := t)
  constructor
  case opened =>
    intro b hb
    rcases List.mem_append.mp (hpassage.births hb) with hb | hb
    · obtain ⟨rfl, id, rfl⟩ := eq_of_mem_born hb
      exact (Function.update_self p.created p.now t.openedAt).symm
    · rw [Times.openedAt_record (lt_created haccounts hb)]
      exact h.opened b hb
  case idle =>
    intro e he
    rw [hidle] at he
    rcases List.mem_append.mp he with he | he
    · rw [Times.idleSince_record haccounts (hsublist.subset he)]
      exact h.idle e (hsublist.subset he)
    · exact (hjoined e he).1.trans (hjoined e he).2.symm
  case sorted =>
    -- Who joins has been idle since now, and everybody else since before.
    rw [hidle, List.pairwise_append]
    refine ⟨h.sorted.sublist hsublist, ?_, fun e he e' he' => ?_⟩
    · exact List.pairwise_of_forall_mem_list fun e he e' he' =>
        ((hjoined e he).1.trans (hjoined e' he').1.symm).le
    · rw [(hjoined e' he').1]
      exact h.past e (hsublist.subset he)
  case past =>
    intro e he
    rw [hidle] at he
    rcases List.mem_append.mp he with he | he
    · exact (h.past e (hsublist.subset he)).trans hpassage.later
    · rw [(hjoined e he).1]
      exact hpassage.later

lemma timed_after (h : Timed t p) (haccounts : Accounts c 0 p)
    (hafter : p.after events = some q) : Timed (t.along p events) q := by
  induction events generalizing t p with
  | nil =>
    cases hafter
    exact h
  | cons event events ih =>
    obtain ⟨next, hadmits, hstep, hrest⟩ := after_cons hafter
    rw [Times.along, hstep]
    exact ih (timed_step h haccounts hstep) (accounts_step haccounts hadmits hstep) hrest

/-- A new pool agrees with every record. -/
lemma timed_new (t : Times) (c : Config) (now : ℕ) : Timed t (.new c now) :=
  ⟨nofun, nofun, List.Pairwise.nil, nofun⟩

section Agreement

variable (h : Timed t p) (hconfig : p.config = c)
include h hconfig

lemma isExpired_iff (he : e ∈ p.owned) (time : ℕ) :
    ({ p with now := time } : Pool).isExpired e = true ↔ t.IsTooOld c time e.connection := by
  have hopened : e.createdAt = t.openedAt e.connection := h.opened _ (mem_births he)
  rw [isExpired, Times.IsTooOld, hconfig, ← hopened]
  cases c.maxLifetime with
  | none => simp
  | some limit => simp

lemma isWornAt_iff (he : e ∈ p.idle) (time : ℕ) :
    p.isWornAt time e = true ↔ ¬ t.IsFresh c time e.connection := by
  rw [isWornAt, Bool.or_eq_true, isExpired_iff h hconfig (mem_owned_of_mem_idle he), isStale,
    decide_eq_true_iff, hconfig, h.idle e he, Times.IsFresh, not_and_or, not_not, Nat.not_le]

end Agreement

/-! ## What a request does -/

/-- A request that looks for a connection goes on, whatever it is told. -/
lemma exists_step {deadline : ℕ} {phase : Phase} (ht : p.task? id = some (.get deadline phase))
    (hseeking : phase.isSeeking = true) :
    (∃ event, phase.awaits id event = true) ∧
      ∀ event, phase.awaits id event = true → ∃ next, p.step event = some next := by
  constructor
  · cases phase with
    | queued => cases hseeking
    | granted => cases hseeking
    | validating e => exact ⟨.validated id true, decide_eq_true rfl⟩
    | discarding e => exact ⟨.discarded id, decide_eq_true rfl⟩
    | creating => exact ⟨.created id none, decide_eq_true rfl⟩
  · intro event hevent
    rcases awaits_cases hevent with ⟨rfl | rfl, rfl⟩ | ⟨e, good, rfl, rfl⟩ | ⟨e, rfl, rfl⟩ |
      ⟨rfl, failure, rfl⟩
    · cases hseeking
    · cases hseeking
    · rw [step, ht]
      cases good <;> exact ⟨_, rfl⟩
    · rw [step, ht]
      exact ⟨_, rfl⟩
    · rw [step, ht]
      cases failure <;> exact ⟨_, rfl⟩

section Alone

variable (haccounts : Accounts c 0 p) (htimed : Timed t p)
include haccounts htimed

lemma Underway.dismissed {phase : Phase} {gone rest : List Entry} {u : Phase × Event}
    (h : Underway p id log phase now gone rest) (hnow : q.now = now)
    (hclosed : q.closedConnections = p.closedConnections ++ gone.map Entry.connection)
    (hdiscarded : q.discarded = p.discarded + gone.length)
    (hgone : ∀ e ∈ gone, q.IsGone e.connection) :
    Dismissed c t p id (log ++ [u]) q gone := by
  refine ⟨fun e he => ?_, hclosed, hdiscarded, hgone⟩
  have hmem : e ∈ p.idle := h.idle ▸ List.mem_append_left _ (List.mem_append_left _ he)
  rcases h.failed_append u e he with ⟨time, hbegun, htime, hworn⟩ | hbad
  · exact .inr ⟨time, hbegun, hnow ▸ htime,
      (isWornAt_iff htimed haccounts.config hmem time).mp hworn⟩
  · exact .inl hbad

lemma Ending.served (h : Ending p id log q (.lent n)) :
    ∃ gone, Dismissed c t p id log q gone ∧ Served c t p id log q gone n := by
  cases h with
  | reused h =>
    rename_i log now e gone rest
    have hidle : p.idle = gone ++ e :: rest := by
      rw [h.idle, List.append_assoc]
      rfl
    obtain ⟨time, hbegun, htime, hfit⟩ : ∃ time, p.now ≤ time ∧ time ≤ now ∧
      p.isWornAt time e = false := h.known
    have hfresh : t.IsFresh c time e.connection := by
      have hmem : e ∈ p.idle := hidle ▸ List.mem_append_right gone List.mem_cons_self
      by_contra hworn
      rw [(isWornAt_iff htimed haccounts.config hmem time).mpr hworn] at hfit
      cases hfit
    refine ⟨gone, h.dismissed haccounts htimed rfl rfl rfl fun x hx => ?_,
      .reused hidle hbegun htime hfresh (List.mem_append_right log List.mem_cons_self) rfl⟩
    refine isGone_of_taken haccounts hx ?_ le_rfl
    rw [places_eq, places_eq, hidle]
    change rest.countP _ + p.tally _ + (p.lent ++ [(id, { e with lastUsed := now })]).countP _ +
      _ ≤ _
    simp only [List.countP_append, List.countP_cons, List.countP_nil]
    omega
  | opened h =>
    rename_i log now gone
    have hidle : p.idle = gone := by
      rw [h.idle]
      simp [Phase.held?]
    refine ⟨gone, h.dismissed haccounts htimed rfl rfl rfl fun x hx => ?_,
      .opened hidle rfl (List.mem_append_right log List.mem_cons_self) rfl rfl⟩
    have hopened : x.connection < p.created :=
      lt_created haccounts (mem_births (mem_owned_of_mem_idle (hidle ▸ hx)))
    refine isGone_of_taken haccounts hx ?_ (Nat.le_succ _)
    rw [places_eq, places_eq, hidle]
    change 0 + p.tally _ + (p.lent ++ [(id, (⟨p.created, now, now⟩ : Entry))]).countP _ + _ ≤ _
    simp only [List.countP_append, List.countP_cons, List.countP_nil, decide_eq_true_iff,
      if_neg (Nat.ne_of_lt hopened).symm]
    omega

end Alone

/-- A connection that comes back while the pool is closed, it is closed itself or it is too old is
gone for good; otherwise it is the last of the idle ones. -/
lemma giveBack_spec (haccounts : Accounts c 0 p) (hlent : p.lent.lookup id = some e) :
    ∃ q, p.step (.giveBack id) = some (q, none) ∧
      (p.keeps e = false → q.idle = p.idle ∧ q.IsGone e.connection) ∧
      (p.keeps e = true → q.idle = p.idle ++ [{ e with lastUsed := p.now }]) := by
  obtain ⟨discarded, heq⟩ := takeBack_eq p id e
  refine ⟨p.takeBack id e, by rw [step, hlent]; rfl, fun hgone => ?_, fun hkept => ?_⟩
  · rw [heq, if_neg (ne_true_of_eq_false hgone)]
    obtain ⟨-, hplace, hopened⟩ := haccounts.endLoan hlent
    have hcounted : Thins { p with
        active := p.active - 1, lent := p.lent.filter fun l => l.1 ≠ id } { p with
        active := p.active - 1, lent := p.lent.filter fun l => l.1 ≠ id, discarded } :=
      .of_tasks rfl rfl rfl rfl rfl
    exact ⟨idle_releasePermit _, (hcounted.trans (.releasePermit _)).isGone hplace hopened⟩
  · rw [heq, if_pos hkept, idle_releasePermit]

/-- After every history the idle connection in front has been idle longest.  A request that is
served while no other call goes on takes connections from the front until one is good.  Each that
it dismisses failed a check, was closed and counted once and is gone for good.  It gets the next
one, which is neither too old, since it was opened, nor has been idle for too long, since it was
given back or opened, and the verdict on it was good; or a new one, if none is left.  The search
ends: it goes on as a history of the pool for at most so many events, and until it ends it can go
on, whatever it is told.

A connection that is given back when the pool or it itself is closed, or when it is too old, is gone
for good, and another is the last of the idle ones.  The entry of a connection always says when it
was opened. -/
theorem lent_fresh (c : Config) (now : ℕ) (events : List Event) (p : Pool)
    (h : (Pool.new c now).after events = some p) :
    let t := times (Pool.new c now) events
    (p.idle.Pairwise fun e e' => t.idleSince e.connection ≤ t.idleSince e'.connection) ∧
    (∀ id log q n, Attempt p id log (q, some (id, .lent n)) →
      ∃ gone, Dismissed c t p id log q gone ∧ Served c t p id log q gone n) ∧
    (∀ id log next, Attempt p id log next → log.length ≤ 2 * p.idle.length + 1 ∧
      ∃ later, p.after later = some next.1) ∧
    (∀ id log q, 0 < p.free → Attempt p id log (q, none) → ∃ deadline phase,
      q.task? id = some (.get deadline phase) ∧ (∃ event, phase.awaits id event = true) ∧
        ∀ event, phase.awaits id event = true → ∃ next, q.step event = some next) ∧
    (∀ id e, p.lent.lookup id = some e → ∃ q, p.step (.giveBack id) = some (q, none) ∧
      (p.isClosed = true ∨ p.isConnectionClosed e.connection = true ∨
        t.IsTooOld c p.now e.connection → q.idle = p.idle ∧ q.IsGone e.connection) ∧
      (p.isClosed = false → p.isConnectionClosed e.connection = false →
        ¬ t.IsTooOld c p.now e.connection →
          q.idle = p.idle ++ [{ e with lastUsed := p.now }])) ∧
    ∀ e ∈ p.owned, e.createdAt = t.openedAt e.connection ∧
      ∀ later q, p.after later = some q → ∀ e' ∈ q.owned, e'.connection = e.connection →
        e'.createdAt = e.createdAt := by
  intro t
  have haccounts := accounts_after (accounts_new c now) h
  have hlined := lined_after (lined_new c now) (accounts_new c now) h
  have htimed : Timed t p := timed_after (timed_new _ c now) (accounts_new c now) h
  have hstage : ∀ {id log next}, Attempt p id log next → Stage p id log next := fun hattempt =>
    hattempt.stage haccounts hlined
  refine ⟨?_, ?_, fun id log next hattempt =>
    ⟨(hstage hattempt).length_le, hattempt.exists_after⟩, ?_, ?_, ?_⟩
  · refine htimed.sorted.imp_of_mem fun he he' hle => ?_
    rwa [htimed.idle _ he, htimed.idle _ he'] at hle
  · intro id log q n hattempt
    cases hstage hattempt with
    | ended hending => exact hending.served haccounts htimed
  · intro id log q hfree hattempt
    have ht := task?_attempted hattempt.isUnused
    cases hstage hattempt with
    | underway hunderway =>
      exact ⟨_, _, ht _ _ _ _, exists_step (ht _ _ _ _) (hunderway.isSeeking hfree)⟩
  · intro id e hlent
    have hage := isExpired_iff htimed haccounts.config (mem_owned_of_lookup hlent) p.now
    obtain ⟨q, hstep, hgone, hkept⟩ := giveBack_spec haccounts hlent
    refine ⟨q, hstep, fun hdrop => hgone ?_, fun hopen hfit hyoung => hkept ?_⟩
    · rw [← hage] at hdrop
      rw [keeps]
      rcases hdrop with hclosed | hclosed | hexpired
      · simp [hclosed]
      · simp [hclosed]
      · simp [hexpired]
    · rw [← hage, Bool.not_eq_true] at hyoung
      simp [keeps, hopen, hfit, hyoung]
  · intro e he
    have hopened : e.createdAt = t.openedAt e.connection := htimed.opened _ (mem_births he)
    refine ⟨hopened, fun later q hafter e' he' heq => ?_⟩
    -- The connection was there before, so it is not one that was opened meanwhile.
    have hbefore : e'.connection < p.created := heq ▸ lt_created haccounts (mem_births he)
    rcases births_after hafter _ (mem_births he') with hmem | hnew
    · rw [hopened, ← heq]
      exact htimed.opened _ hmem
    · exact absurd hbefore (Nat.not_lt.mpr hnew)

/-- Of two connections that were opened together one has been lent and given back.  The other has
been idle for too long by then, so the first is lent again. -/
theorem lent_fresh_again :
    let c : Config := { minSize := 2, maxSize := 2, idleTimeout := 4 }
    let events : List Event := [.callOpen 0, .created 0 none, .created 0 none, .callGet 1,
      .validated 1 true, .pass 3, .giveBack 1, .pass 2]
    let t := times (Pool.new c 0) events
    let log : Log := [(.discarding ⟨1, 0, 0⟩, .discarded 2),
      (.validating ⟨0, 0, 3⟩, .validated 2 true)]
    let p : Pool := { Pool.new c 5 with idle := [⟨1, 0, 0⟩, ⟨0, 0, 3⟩], created := 2 }
    let q : Pool := { p with
      idle := [], free := 1, active := 1, lent := [(2, ⟨0, 0, 5⟩)], closedConnections := [1]
      discarded := 1 }
    (Pool.new c 0).after events = some p ∧ Attempt p 2 log (q, some (2, .lent 0)) ∧
      (t.openedAt 0, t.idleSince 0, t.idleSince 1) = (0, 3, 0) ∧
      ∃ gone, Dismissed c t p 2 log q gone ∧ Served c t p 2 log q gone 0 := by
  intro c events t log p q
  have hafter : (Pool.new c 0).after events = some p := rfl
  have hbegun : Attempt p 2 [] (p.startGet 2) := .begun rfl
  have hlooked : Attempt p 2 [(.discarding ⟨1, 0, 0⟩, .discarded 2)] _ :=
    hbegun.wentOn rfl (.inl rfl) rfl
  have hattempt : Attempt p 2 log (q, some (2, .lent 0)) := hlooked.wentOn rfl (.inl rfl) rfl
  obtain ⟨-, hserved, -⟩ := lent_fresh c 0 events p hafter
  exact ⟨hafter, hattempt, rfl, hserved 2 log q 0 hattempt⟩

end BulkValues.Pool
