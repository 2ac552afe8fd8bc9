/-
# How many connections a pool has

Requests keep the idle and the lent connections within the size of a pool: a request opens a
connection only with a permit and when none is idle.  Opening connections up front needs no
permit, and how many are missing is decided when it begins, so that a pool gets larger where it
overlaps with requests or with another opening.  Such an overlap adds at most what is still
missing then.

The bound counts, beside the idle and the lent connections, those that requests are about to get
and those that are still to be opened.
-/
import BulkValues.Proofs.Pool.Lending
import Mathlib.Algebra.Order.BigOperators.Group.List
import Mathlib.Algebra.Order.Group.Nat

namespace BulkValues.Pool

/-- The most connections that an event may add by an overlap: all that are missing when opening
begins while something is under way, and all that are still missing when a request begins. -/
def overlapOf (p : Pool) : Event → ℕ
  | .callOpen _ =>
    if p.tally Task.requests = 0 ∧ p.tally Task.missing = 0 then 0
    else p.config.minSize - (p.idle.length + p.active)
  | .callGet _ => p.tally Task.missing
  | _ => 0

/-- The most connections that a history may add by overlaps. -/
def overlap (p : Pool) : List Event → ℕ
  | [] => 0
  | e :: es => p.overlapOf e + ((p.step e).map fun next => next.1.overlap es).getD 0

/-- The connections that are idle, lent, or about to be got by a request. -/
def load (p : Pool) : ℕ := p.idle.length + p.tally Task.seekers + p.lent.length

/-- The size of a pool bounds its connections, apart from what overlaps may add.  Unless no
request is under way, these make up for all connections that are still to be opened.  A pool that
keeps no connections opens none up front. -/
structure Room (c : Config) (extra : ℕ) (p : Pool) : Prop where
  bound : p.load + p.tally Task.missing ≤ max c.minSize c.maxSize + extra
  covered : p.tally Task.missing ≤ extra ∨ p.tally Task.requests = 0
  unasked : c.minSize = 0 → p.tally Task.missing = 0

variable {c : Config} {loose extra id : ℕ} {p q : Pool} {t : Task} {e : Entry} {deadline : ℕ}
  {phase : Phase} {f : Task → ℕ}

lemma tally_seekers_le_permits (p : Pool) : p.tally Task.seekers ≤ p.tally Task.permits := by
  refine tally_le_tally (fun t => ?_) p
  cases t with
  | get deadline phase =>
    by_cases hseeking : phase.isSeeking = true
    · rw [Task.seekers_get hseeking, Task.permits_get (Phase.hasPermit_of_isSeeking hseeking)]
    · rw [Task.seekers, if_neg hseeking]
      exact Nat.zero_le _
  | «open» missing => exact le_rfl
  | close rest => exact le_rfl

lemma tally_seekers_le_requests (p : Pool) : p.tally Task.seekers ≤ p.tally Task.requests := by
  refine tally_le_tally (fun t => ?_) p
  cases t with
  | get deadline phase =>
    rw [Task.seekers]
    split
    · exact le_rfl
    · exact Nat.zero_le _
  | «open» missing => exact le_rfl
  | close rest => exact le_rfl

/-! ## Permits that come back -/

@[simp] lemma idle_releasePermit (p : Pool) : p.releasePermit.idle = p.idle := by
  rw [releasePermit]
  split <;> rfl

@[simp] lemma lent_releasePermit (p : Pool) : p.releasePermit.lent = p.lent := by
  rw [releasePermit]
  split <;> rfl

@[simp] lemma idle_quit (p : Pool) (id : ℕ) (phase : Phase) : (p.quit id phase).idle = p.idle := by
  rw [quit]
  split
  · rw [idle_releasePermit]
    rfl
  · rfl

@[simp] lemma lent_quit (p : Pool) (id : ℕ) (phase : Phase) : (p.quit id phase).lent = p.lent := by
  rw [quit]
  split
  · rw [lent_releasePermit]
    rfl
  · rfl

/-- What does not tell a request with a fresh permit from a queued one does not change when a
permit comes back. -/
lemma Accounts.tally_releasePermit (h : Accounts c loose p)
    (hf : ∀ deadline, f (.get deadline .granted) = f (.get deadline .queued)) :
    p.releasePermit.tally f = p.tally f := by
  rw [Pool.releasePermit]
  split
  · rfl
  · rename_i id rest hqueue
    obtain ⟨deadline, ht⟩ := h.queued id (hqueue ▸ List.mem_cons_self)
    have htally := tally_setTask (p := { p with queue := rest }) h.calls ht f
      (.get deadline .granted)
    rw [setPhase_eq_setTask (p := { p with queue := rest }) h.calls ht]
    rw [hf] at htally
    exact Nat.add_right_cancel htally

lemma Accounts.tally_quit (h : Accounts c loose p) (ht : p.task? id = some (.get deadline phase))
    (hf : ∀ deadline, f (.get deadline .granted) = f (.get deadline .queued)) :
    (p.quit id phase).tally f + f (.get deadline phase) = p.tally f := by
  have htally := tally_removeTask h.calls ht f
  rw [Pool.quit]
  split
  · rename_i hpermit
    have hremoved := h.removeTask ht (h.not_mem_queue_of_hasPermit ht hpermit)
    exact (congrArg (· + _) (hremoved.tally_releasePermit hf)).trans htally
  · exact htally

/-- What a request that looks for a connection changes. -/
lemma search_effect (hcalls : p.calls.Nodup) (ht : p.task? id = some (.get deadline phase)) :
    ∃ phase', phase'.isSeeking = true ∧ (p.search id).idle = p.idle.tail ∧
      (p.search id).lent = p.lent ∧ ∀ f : Task → ℕ,
        (p.search id).tally f + f (.get deadline phase) = p.tally f + f (.get deadline phase') := by
  obtain ⟨phase', discarded, hseeking, -, heq⟩ := search_spec hcalls ht
  rw [heq]
  exact ⟨phase', hseeking, rfl, rfl, fun f =>
    tally_setTask (p := { p with idle := p.idle.tail, discarded }) hcalls ht f _⟩

/-! ## What calls do -/

namespace Room

lemma of_le (h : Room c extra p) {extra' : ℕ} (hextra : extra ≤ extra')
    (hload : q.load + q.tally Task.missing ≤ p.load + p.tally Task.missing)
    (hmissing : q.tally Task.missing ≤ p.tally Task.missing)
    (hrequests : q.tally Task.requests ≤ p.tally Task.requests) : Room c extra' q where
  bound := by
    have hbound := h.bound
    omega
  covered := by
    rcases h.covered with hcovered | hnone
    · left
      omega
    · right
      omega
  unasked hmin := Nat.eq_zero_of_le_zero (hmissing.trans_eq (h.unasked hmin))

lemma quit (h : Room c extra p) (haccounts : Accounts c loose p)
    (ht : p.task? id = some (.get deadline phase)) : Room c extra (p.quit id phase) := by
  have hseekers : (p.quit id phase).tally Task.seekers + _ = _ :=
    haccounts.tally_quit ht fun _ => rfl
  have hmissing : (p.quit id phase).tally Task.missing + _ = _ :=
    haccounts.tally_quit ht fun _ => rfl
  have hrequests : (p.quit id phase).tally Task.requests + _ = _ :=
    haccounts.tally_quit ht fun _ => rfl
  refine h.of_le le_rfl ?_ (by omega) (by omega)
  rw [load, load, idle_quit, lent_quit]
  omega

/-- A request opens a connection only when none is idle, and then the permits bound the
connections. -/
lemma search (h : Room c extra p) (haccounts : Accounts c 0 p)
    (ht : p.task? id = some (.get deadline phase)) (hpermit : phase.hasPermit = true) :
    Room c extra (p.search id) := by
  have hrequest : 1 ≤ p.tally Task.requests := le_tally haccounts.calls ht Task.requests
  have hcovered : p.tally Task.missing ≤ extra := by
    have hor := h.covered
    omega
  have hbound := h.bound
  obtain ⟨phase', hseeking, hidle, hlent, htally⟩ := search_effect haccounts.calls ht
  have hmissing : (p.search id).tally Task.missing = p.tally Task.missing := htally Task.missing
  have hseekers := htally Task.seekers
  rw [Task.seekers_get hseeking] at hseekers
  refine ⟨?_, .inl (hmissing.trans_le hcovered), fun hmin => hmissing.trans (h.unasked hmin)⟩
  rw [load] at hbound ⊢
  rw [hidle, hlent, hmissing]
  cases hfront : p.idle with
  | nil =>
    have hle := tally_seekers_le_permits (p.search id)
    have hpermits := (haccounts.search ht hpermit).permits
    rw [hlent] at hpermits
    rw [List.tail_nil, List.length_nil]
    omega
  | cons e rest =>
    rw [hfront, List.length_cons] at hbound
    rw [List.tail_cons]
    omega

lemma lend (h : Room c extra p) (haccounts : Accounts c loose p)
    (ht : p.task? id = some (.get deadline phase)) (hseeking : phase.isSeeking = true) :
    Room c extra (p.lend id e).1 := by
  have htally : ∀ f : Task → ℕ, (p.lend id e).1.tally f + f (.get deadline phase) = p.tally f :=
    tally_removeTask haccounts.calls ht
  have hseekers := htally Task.seekers
  rw [Task.seekers_get hseeking] at hseekers
  have hmissing := htally Task.missing
  have hrequests := htally Task.requests
  refine h.of_le le_rfl ?_ (by omega) (by omega)
  change p.idle.length + _ + (p.lent ++ [(id, e)]).length + _ ≤ p.idle.length + _ + _ + _
  rw [List.length_append, List.length_singleton]
  omega

lemma takeBack (h : Room c extra p) (haccounts : Accounts c loose p)
    (hlent : p.lent.lookup id = some e) : Room c extra (p.takeBack id e) := by
  obtain ⟨q, hq, heq, htasks, -, -, -, hlength, hidle⟩ := haccounts.takeBack_spec hlent
  have htally : ∀ f : Task → ℕ,
      (∀ deadline, f (.get deadline .granted) = f (.get deadline .queued)) →
        q.releasePermit.tally f = p.tally f := by
    intro f hf
    rw [hq.tally_releasePermit hf, tally, htasks]
    rfl
  rw [heq]
  refine h.of_le le_rfl ?_ (htally Task.missing fun _ => rfl).le
    (htally Task.requests fun _ => rfl).le
  rw [load, load, idle_releasePermit, lent_releasePermit, htally Task.seekers fun _ => rfl,
    htally Task.missing fun _ => rfl]
  omega

/-- A request that begins is under way, so that what is still missing has to be made up for. -/
lemma begin (h : Room c extra p) (hload : q.load = p.load)
    (hmissing : q.tally Task.missing = p.tally Task.missing) :
    Room c (extra + p.tally Task.missing) q where
  bound := by
    have hbound := h.bound
    omega
  covered := .inl (by omega)
  unasked hmin := hmissing.trans (h.unasked hmin)

lemma startGet (h : Room c extra p) (haccounts : Accounts c 0 p) (hid : p.isUnused id = true) :
    Room c (extra + p.tally Task.missing) (p.startGet id).1 := by
  have hnone := task?_of_isUnused hid
  rw [Pool.startGet]
  split
  · exact h.of_le (Nat.le_add_right _ _) le_rfl le_rfl le_rfl
  · split
    · split
      · exact h.of_le (Nat.le_add_right _ _) le_rfl le_rfl le_rfl
      · refine h.begin ?_ (tally_addTask Task.missing _ id _)
        rw [load, tally_addTask]
        rfl
    · rename_i free hfree
      have hadded := haccounts.addTask (.get (p.now + p.config.acquireTimeout) .granted) hid
        (fun n => le_rfl) hfree.symm
      refine search (h.begin ?_ (tally_addTask Task.missing _ id _)) hadded
        (task?_addTask_self hnone _) rfl
      rw [load, tally_addTask]
      rfl

lemma startOpen (h : Room c extra p) (haccounts : Accounts c 0 p) :
    Room c (extra + p.overlapOf (.callOpen id)) (p.startOpen id).1 := by
  rw [Pool.startOpen]
  split
  · exact h.of_le (Nat.le_add_right _ _) le_rfl le_rfl le_rfl
  · split
    · exact h.of_le (Nat.le_add_right _ _) le_rfl le_rfl le_rfl
    · rename_i missing hmissing
      have hbound := h.bound
      have hcovered := h.covered
      have hload : (p.addTask id (.open (missing + 1))).load = p.load := by
        rw [load, load, tally_addTask]
        rfl
      have hstill : (p.addTask id (.open (missing + 1))).tally Task.missing =
          p.tally Task.missing + (missing + 1) := tally_addTask Task.missing p id _
      have hrequests : (p.addTask id (.open (missing + 1))).tally Task.requests =
          p.tally Task.requests := tally_addTask Task.requests p id _
      have hasked : c.minSize ≠ 0 := by
        rw [haccounts.config] at hmissing
        omega
      rw [overlapOf, hmissing]
      split
      -- Nothing is under way: what is there and what is missing are as many as there should be.
      · rename_i halone
        obtain ⟨hnone, hzero⟩ := halone
        have hle := tally_seekers_le_requests p
        have hactive := haccounts.active
        rw [haccounts.config] at hmissing
        refine ⟨?_, .inr (hrequests.trans hnone), (absurd · hasked)⟩
        rw [hload, hstill, load]
        omega
      · refine ⟨?_, hcovered.imp (fun hle => hstill.trans_le (by omega)) hrequests.trans,
          (absurd · hasked)⟩
        rw [hload, hstill]
        omega

lemma startCloseIdle (h : Room c extra p) : Room c extra (p.startCloseIdle id).1 := by
  rw [Pool.startCloseIdle]
  split
  · exact h
  · refine h.of_le le_rfl ?_ (tally_addTask _ _ _ _).le (tally_addTask _ _ _ _).le
    rw [load, load, tally_addTask, tally_addTask]
    change 0 + p.tally _ + p.lent.length + p.tally _ ≤ _
    omega

/-- A call goes on and counts as before. -/
lemma setTask (h : Room c extra p) (haccounts : Accounts c loose p) (t' : Task)
    (ht : p.task? id = some t) (hseekers : t'.seekers = t.seekers)
    (hmissing : t'.missing = t.missing) (hrequests : t'.requests = t.requests) :
    Room c extra (p.setTask id t') := by
  have htally : ∀ f : Task → ℕ, f t' = f t → (p.setTask id t').tally f = p.tally f := by
    intro f hf
    have hset := tally_setTask haccounts.calls ht f t'
    rw [hf] at hset
    exact Nat.add_right_cancel hset
  refine h.of_le le_rfl ?_ (htally _ hmissing).le (htally _ hrequests).le
  rw [load, load, htally _ hseekers, htally _ hmissing]
  exact le_rfl

lemma removeTask (h : Room c extra p) (haccounts : Accounts c loose p)
    (ht : p.task? id = some t) : Room c extra (p.removeTask id) := by
  have htally : ∀ f : Task → ℕ, (p.removeTask id).tally f + f t = p.tally f :=
    tally_removeTask haccounts.calls ht
  have hseekers := htally Task.seekers
  have hmissing := htally Task.missing
  have hrequests := htally Task.requests
  refine h.of_le le_rfl ?_ (by omega) (by omega)
  rw [load, load]
  change p.idle.length + _ + p.lent.length + _ ≤ _
  omega

/-- A connection that was missing is opened and idle. -/
lemma opened (h : Room c extra p) (hidle : q.idle.length = p.idle.length + 1)
    (hlent : q.lent = p.lent) (hseekers : q.tally Task.seekers = p.tally Task.seekers)
    (hmissing : q.tally Task.missing + 1 = p.tally Task.missing)
    (hrequests : q.tally Task.requests = p.tally Task.requests) : Room c extra q := by
  refine h.of_le le_rfl ?_ (Nat.le.intro hmissing) hrequests.le
  rw [load, load, hidle, hlent, hseekers]
  omega

end Room

/-- Every event keeps the connections within bounds, where overlaps may add to them. -/
lemma room_step {event : Event} {next : Pool × Result} (h : Room c extra p)
    (haccounts : Accounts c 0 p) (hadmits : p.admits event = true)
    (hstep : p.step event = some next) : Room c (extra + p.overlapOf event) next.1 := by
  cases effect_of_step hstep with
  | openStarted id => exact h.startOpen haccounts
  | getStarted id => exact h.startGet haccounts hadmits
  | closeIdleStarted id => exact h.startCloseIdle
  | closeStarted id =>
    rw [startClose]
    split
    · exact h
    · have hclosed : Room c extra { p with isClosed := true, queue := [] } :=
        ⟨h.bound, h.covered, h.unasked⟩
      exact hclosed.startCloseIdle
  | searched ht hopen => exact h.search haccounts ht rfl
  | refused ht hphase hclosed => exact h.quit haccounts ht
  | approved ht => exact h.lend haccounts ht rfl
  | disapproved ht =>
    rename_i deadline e
    rw [setPhase_eq_setTask (p := { p with discarded := p.discarded + 1 }) haccounts.calls ht]
    have hset := h.setTask haccounts (.get deadline (.discarding e)) ht rfl rfl rfl
    exact ⟨hset.bound, hset.covered, hset.unasked⟩
  | discarded ht =>
    rename_i e
    have hframe := haccounts.frame p.now p.isClosed (p.closedConnections ++ [e.connection])
      p.discarded p.timedOut p.rejected
    exact Room.search ⟨h.bound, h.covered, h.unasked⟩ hframe ht rfl
  | notCreated ht failure => exact h.quit haccounts ht
  | created ht =>
    have hcreated : Room c extra { p with created := p.created + 1 } :=
      ⟨h.bound, h.covered, h.unasked⟩
    exact hcreated.lend (e := p.fresh) haccounts.create.1 ht rfl
  | notOpened ht failure => exact h.removeTask haccounts ht
  | openedLast ht =>
    have hremoved := tally_removeTask haccounts.calls ht
    exact h.opened List.length_append rfl (hremoved Task.seekers) (hremoved Task.missing)
      (hremoved Task.requests)
  | openedNext ht hmore =>
    rename_i id missing
    have hset := fun f : Task → ℕ => tally_setTask haccounts.calls ht f (.open missing)
    have hmissing : (p.setTask id (.open missing)).tally Task.missing + (missing + 1) =
        p.tally Task.missing + missing := hset Task.missing
    refine h.opened List.length_append rfl (hset Task.seekers) ?_ (hset Task.requests)
    change (p.setTask id (.open missing)).tally Task.missing + 1 = _
    omega
  | closedLast ht =>
    have hremoved := h.removeTask haccounts ht
    exact ⟨hremoved.bound, hremoved.covered, hremoved.unasked⟩
  | closedNext ht hrest =>
    rename_i rest
    have hset := h.setTask haccounts (.close rest) ht rfl rfl rfl
    exact ⟨hset.bound, hset.covered, hset.unasked⟩
  | expired ht hdeadline =>
    have hquit := h.quit haccounts ht
    exact ⟨hquit.bound, hquit.covered, hquit.unasked⟩
  | requestAbandoned ht => exact h.quit haccounts ht
  | callAbandoned ht hget => exact h.removeTask haccounts ht
  | givenBack hlent => exact h.takeBack haccounts hlent
  | connectionClosed connection => exact ⟨h.bound, h.covered, h.unasked⟩
  | passed ms => exact ⟨h.bound, h.covered, h.unasked⟩

lemma room_new (c : Config) (now : ℕ) : Room c 0 (.new c now) where
  bound := Nat.zero_le _
  covered := .inl le_rfl
  unasked _ := rfl

/-- After a history the connections are within bounds, where every overlap may add to them. -/
lemma room_after {events : List Event} (h : Room c extra p) (haccounts : Accounts c 0 p)
    (hafter : p.after events = some q) : Room c (extra + p.overlap events) q := by
  induction events generalizing p extra with
  | nil =>
    cases hafter
    exact h
  | cons e es ih =>
    obtain ⟨next, hadmits, hstep, hrest⟩ := after_cons hafter
    have hnext := ih (room_step h haccounts hadmits hstep) (accounts_step haccounts hadmits hstep)
      hrest
    rw [overlap, hstep, ← Nat.add_assoc]
    exact hnext

/-- A pool that keeps no connections has no overlaps. -/
lemma overlap_eq_zero {events : List Event} (hmin : c.minSize = 0) (h : Room c extra p)
    (haccounts : Accounts c 0 p) (hafter : p.after events = some q) : p.overlap events = 0 := by
  induction events generalizing p extra with
  | nil => rfl
  | cons e es ih =>
    obtain ⟨next, hadmits, hstep, hrest⟩ := after_cons hafter
    have hnext := ih (room_step h haccounts hadmits hstep) (accounts_step haccounts hadmits hstep)
      hrest
    have hfirst : p.overlapOf e = 0 := by
      cases e with
      | callOpen id =>
        rw [overlapOf, haccounts.config, hmin, Nat.zero_sub, ite_self]
      | callGet id => exact h.unasked hmin
      | _ => rfl
    rw [overlap, hstep, hfirst, Nat.zero_add]
    exact hnext

/-! ## Openings at a time -/

/-- Openings that begin together all open what was missing before the first. -/
lemma after_callOpen {ids : List ℕ} (hids : ids.Nodup) (hunused : ∀ id ∈ ids, p.isUnused id = true)
    (hclosed : p.isClosed = false) (hmissing : p.idle.length + p.active < p.config.minSize) :
    ∃ q, p.after (ids.map .callOpen) = some q ∧
      (∀ id ∈ ids, ∃ missing, q.task? id = some (.open (missing + 1))) ∧
      ∀ id t, p.task? id = some t → q.task? id = some t := by
  induction ids generalizing p with
  | nil => exact ⟨p, rfl, by simp, fun _ _ ht => ht⟩
  | cons id ids ih =>
    obtain ⟨hfresh, hids⟩ := List.nodup_cons.mp hids
    obtain ⟨hid, hrest⟩ := List.forall_mem_cons.mp hunused
    obtain ⟨missing, hequal⟩ := Nat.exists_eq_add_of_lt hmissing
    have hstart : p.startOpen id = (p.addTask id (.open (missing + 1)), none) := by
      have hsub : p.config.minSize - (p.idle.length + p.active) = missing + 1 := by omega
      rw [startOpen, hclosed, hsub]
      rfl
    have hnone := task?_of_isUnused hid
    have hstill : ∀ other ∈ ids, (p.addTask id (.open (missing + 1))).isUnused other = true := by
      intro other hother
      have hne : (other == id) = false := beq_false_of_ne fun heq => hfresh (heq ▸ hother)
      have hunused := hrest other hother
      rw [isUnused, task?] at hunused ⊢
      rw [addTask, List.lookup_append, List.lookup_cons, hne]
      simpa using hunused
    obtain ⟨q, hafter, hopen, hkept⟩ := ih hids hstill hclosed hmissing
    refine ⟨q, ?_, ?_, fun other t ht => hkept other t (task?_addTask ht)⟩
    · rw [List.map_cons, after_cons_of_step (e := .callOpen id) hid (congrArg some hstart)]
      exact hafter
    · refine List.forall_mem_cons.mpr ⟨⟨missing, ?_⟩, hopen⟩
      exact hkept id _ (task?_addTask_self hnone _)

/-- Every opening under way adds an idle connection, however many there are. -/
lemma after_created {ids : List ℕ} (haccounts : Accounts c 0 p) (hids : ids.Nodup)
    (hopen : ∀ id ∈ ids, ∃ missing, p.task? id = some (.open (missing + 1))) :
    ∃ q, p.after (ids.map (.created · none)) = some q ∧
      q.idle.length = p.idle.length + ids.length := by
  induction ids generalizing p with
  | nil => exact ⟨p, rfl, rfl⟩
  | cons id ids ih =>
    obtain ⟨hfresh, hids⟩ := List.nodup_cons.mp hids
    obtain ⟨⟨missing, ht⟩, hrest⟩ := List.forall_mem_cons.mp hopen
    obtain ⟨next, hstep, hidle, hkept⟩ : ∃ next, p.step (.created id none) = some next ∧
        next.1.idle.length = p.idle.length + 1 ∧
        ∀ other, other ≠ id → next.1.task? other = p.task? other := by
      rw [step, ht, Option.bind_some, finishCreation]
      split
      · exact ⟨_, rfl, by simp [removeTask], fun other hne =>
          task?_removeTask_of_ne haccounts.calls ht hne⟩
      · exact ⟨_, rfl, by simp [Pool.setTask], fun other hne =>
          task?_setTask_of_ne haccounts.calls ht _ hne⟩
    have hstill : ∀ other ∈ ids, ∃ missing, next.1.task? other = some (.open (missing + 1)) := by
      intro other hother
      rw [hkept other fun heq => hfresh (heq ▸ hother)]
      exact hrest other hother
    obtain ⟨q, hafter, hlength⟩ := ih (accounts_step haccounts rfl hstep) hids hstill
    refine ⟨q, ?_, ?_⟩
    · rw [List.map_cons, after_cons_of_step rfl hstep]
      exact hafter
    · rw [List.length_cons]
      omega

/-- A new pool that keeps connections can get more of them than its size. -/
lemma exists_oversized (hmin : c.minSize ≠ 0) (now n : ℕ) :
    ∃ events p, (Pool.new c now).after events = some p ∧ n ≤ p.stats.total := by
  obtain ⟨opening, hopening, hopen, -⟩ := after_callOpen (p := .new c now)
    (List.nodup_range (n := n)) (fun _ _ => rfl) rfl (Nat.pos_of_ne_zero hmin)
  obtain ⟨p, hcreated, hidle⟩ := after_created
    (accounts_after (accounts_new c now) hopening) (List.nodup_range (n := n)) hopen
  refine ⟨_, p, (after_append hopening _).trans hcreated, ?_⟩
  rw [List.length_range] at hidle
  change n ≤ p.idle.length + p.active
  omega

/-- The size of a pool bounds its idle and its lent connections in every state exactly if the pool
keeps no connections.  In any pool, the larger of its two sizes bounds them together with what
overlaps may add: openings up front that begin while a call is under way, and requests that begin
while connections are opened up front. -/
theorem total_le_size_iff (c : Config) :
    ((∀ now events p, (Pool.new c now).after events = some p → p.stats.total ≤ c.maxSize) ↔
      c.minSize = 0) ∧
    ∀ now events p, (Pool.new c now).after events = some p →
      p.stats.total ≤ max c.minSize c.maxSize + (Pool.new c now).overlap events := by
  have hbound : ∀ now events p, (Pool.new c now).after events = some p →
      p.stats.total ≤ max c.minSize c.maxSize + (Pool.new c now).overlap events := by
    intro now events p hafter
    have hroom := (room_after (room_new c now) (accounts_new c now) hafter).bound
    have hactive := (accounts_after (accounts_new c now) hafter).active
    rw [load, Nat.zero_add] at hroom
    change p.idle.length + p.active ≤ _
    omega
  refine ⟨⟨fun hsize => ?_, fun hmin now events p hafter => ?_⟩, hbound⟩
  · by_contra hmin
    obtain ⟨events, p, hafter, htotal⟩ := exists_oversized hmin 0 (c.maxSize + 1)
    exact absurd (hsize 0 events p hafter) (Nat.not_le_of_lt htotal)
  · have hnone := overlap_eq_zero hmin (room_new c now) (accounts_new c now) hafter
    have htotal := hbound now events p hafter
    rwa [hmin, hnone, Nat.zero_max] at htotal

/-- Two openings at a time, and two connections in a pool for one. -/
theorem two_openings_exceed_size :
    ∃ p, (Pool.new { minSize := 1, maxSize := 1 } 0).after
        [.callOpen 0, .callOpen 1, .created 0 none, .created 1 none] = some p ∧
      p.stats.maxSize = 1 ∧ p.stats.total = 2 := ⟨_, rfl, rfl, rfl⟩

end BulkValues.Pool
