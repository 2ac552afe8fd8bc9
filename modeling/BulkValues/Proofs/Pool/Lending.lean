/-
# Exclusive lending

However the calls of a pool interleave, its accounts are right: a connection is in one place at
most, what the pool counts as lent and as under way is what is lent and under way, and every
permit is free, held by one request, or lent with a connection.

Each event is a few elementary changes of a pool: a call comes, goes or changes, a permit comes
back, a connection is lent, comes back or is opened.  The accounts are kept by each of them, with
permits that are between two hands counted apart, and so by every event and every history.
-/
import BulkValues.Proofs.Pool.History
import BulkValues.Proofs.Pool.Tally
import Mathlib.Data.Nat.Basic

namespace BulkValues.Pool

/-- In how many places a connection is: how often it lies idle, is held by a call under way, or
is lent. -/
def places (p : Pool) (connection : ℕ) : ℕ := p.owned.countP (·.connection = connection)

/-- A connection is in one place at most, and it has been opened. -/
structure Placed (p : Pool) : Prop where
  once : ∀ n, p.places n ≤ 1
  opened : ∀ n, p.created ≤ n → p.places n = 0

/-- The accounts of a pool, while some permits have come back and nobody was handed them yet. -/
structure Accounts (c : Config) (loose : ℕ) (p : Pool) : Prop where
  config : p.config = c
  calls : p.calls.Nodup
  loans : (p.lent.map Prod.fst).Nodup
  apart : ∀ id ∈ p.calls, id ∉ p.lent.map Prod.fst
  queue : p.queue.Nodup
  queued : ∀ id ∈ p.queue, ∃ deadline, p.task? id = some (.get deadline .queued)
  placed : Placed p
  active : p.active = p.lent.length
  waiting : p.waiting = p.tally Task.requests
  permits : p.free + p.tally Task.permits + p.lent.length + loose = c.maxSize

variable {c : Config} {loose id : ℕ} {p q : Pool} {t : Task} {e : Entry} {deadline : ℕ}
  {phase : Phase}

/-! ## Places -/

lemma places_eq (p : Pool) (n : ℕ) :
    p.places n = p.idle.countP (·.connection = n) + p.tally (Task.holds n) +
      p.lent.countP (·.2.connection = n) := by
  rw [places, owned, List.countP_append, List.countP_append, List.countP_flatMap,
    List.countP_map]
  rfl

namespace Placed

/-- Connections that are given up leave the others where they are. -/
lemma of_le (h : Placed p) (hle : ∀ n, q.places n ≤ p.places n) (hcreated : p.created ≤ q.created) :
    Placed q where
  once n := (hle n).trans (h.once n)
  opened n hn := by
    have hp := h.opened n (hcreated.trans hn)
    have hq := hle n
    omega

/-- A connection that was nowhere is put somewhere. -/
lemma insert (h : Placed p) {k : ℕ} (hplace : p.places k = 0) (hopened : k < p.created)
    (hplaces : ∀ n, q.places n = p.places n + if k = n then 1 else 0)
    (hcreated : q.created = p.created) : Placed q where
  once n := by
    have hn := h.once n
    rw [hplaces]
    split
    · rename_i heq
      rw [← heq, hplace]
    · exact hn
  opened n hn := by
    have hzero := h.opened n (hcreated ▸ hn)
    rw [hplaces, hzero, if_neg (by omega)]

end Placed

/-! ## Elementary changes -/

lemma not_mem_of_isUnused (h : p.isUnused id = true) :
    id ∉ p.calls ∧ id ∉ p.lent.map Prod.fst := by
  simp only [isUnused, task?, Bool.and_eq_true, Option.isNone_iff_eq_none,
    List.lookup_eq_none_iff, bne_iff_ne, ne_eq] at h
  constructor
  · intro hmem
    obtain ⟨u, hu, heq⟩ := List.mem_map.mp hmem
    exact h.1 u hu heq.symm
  · intro hmem
    obtain ⟨u, hu, heq⟩ := List.mem_map.mp hmem
    exact h.2 u hu heq.symm

namespace Accounts

lemma not_mem_queue (h : Accounts c loose p) (ht : p.task? id = some t)
    (hphase : ∀ deadline, t ≠ .get deadline .queued) : id ∉ p.queue := by
  intro hid
  obtain ⟨deadline, hqueued⟩ := h.queued id hid
  rw [ht] at hqueued
  exact hphase deadline (Option.some.inj hqueued)

/-- A call goes on. It may have taken connections out of the idle ones, and it may let go of
connections and of its permit. -/
lemma setTask (h : Accounts c loose p) (t' : Task) (ht : p.task? id = some t) (hid : id ∉ p.queue)
    (hrequests : t'.requests = t.requests) {loose' : ℕ}
    (hpermits : t'.permits + loose' = t.permits + loose) {idle : List Entry}
    (hplaces : ∀ n, idle.countP (·.connection = n) + t'.holds n ≤
      p.idle.countP (·.connection = n) + t.holds n) :
    Accounts c loose' ({ p with idle }.setTask id t') := by
  have htally : ∀ f : Task → ℕ,
      ({ p with idle }.setTask id t').tally f + f t = p.tally f + f t' := fun f =>
    tally_setTask (p := { p with idle }) h.calls ht f t'
  constructor
  case config => exact h.config
  case calls => rw [calls_setTask]; exact h.calls
  case loans => exact h.loans
  case apart => rw [calls_setTask]; exact h.apart
  case queue => exact h.queue
  case queued =>
    intro other hother
    have hne : other ≠ id := fun heq => hid (heq ▸ hother)
    rw [task?_setTask_of_ne (p := { p with idle }) h.calls ht t' hne]
    exact h.queued other hother
  case placed =>
    refine h.placed.of_le (fun n => ?_) le_rfl
    have hholds := htally (Task.holds n)
    have hn := hplaces n
    rw [places_eq, places_eq]
    change idle.countP _ + _ + p.lent.countP _ ≤ _
    omega
  case active => exact h.active
  case waiting =>
    have hcounted := htally Task.requests
    have hwaiting := h.waiting
    change p.waiting = _
    omega
  case permits =>
    have hcounted := htally Task.permits
    have hfree := h.permits
    change p.free + _ + p.lent.length + _ = _
    omega

/-- A call comes to an end. Its permit comes back and its connections are given up. -/
lemma removeTask (h : Accounts c loose p) (ht : p.task? id = some t) (hid : id ∉ p.queue) :
    Accounts c (loose + t.permits)
      { p.removeTask id with waiting := p.waiting - t.requests } := by
  have htally : ∀ f : Task → ℕ, (p.removeTask id).tally f + f t = p.tally f :=
    tally_removeTask h.calls ht
  constructor
  case config => exact h.config
  case calls =>
    change (p.removeTask id).calls.Nodup
    rw [calls_removeTask]
    exact h.calls.filter _
  case loans => exact h.loans
  case apart =>
    change ∀ other ∈ (p.removeTask id).calls, other ∉ p.lent.map Prod.fst
    rw [calls_removeTask]
    exact fun other hother => h.apart other (List.mem_of_mem_filter hother)
  case queue => exact h.queue
  case queued =>
    intro other hother
    have hne : other ≠ id := fun heq => hid (heq ▸ hother)
    obtain ⟨deadline, hqueued⟩ := h.queued other hother
    exact ⟨deadline, (task?_removeTask_of_ne h.calls ht hne).trans hqueued⟩
  case placed =>
    refine h.placed.of_le (fun n => ?_) le_rfl
    have hholds := htally (Task.holds n)
    rw [places_eq, places_eq]
    change p.idle.countP _ + (p.removeTask id).tally _ + p.lent.countP _ ≤ _
    omega
  case active => exact h.active
  case waiting =>
    have hcounted := htally Task.requests
    have hwaiting := h.waiting
    change p.waiting - t.requests = (p.removeTask id).tally _
    omega
  case permits =>
    have hcounted := htally Task.permits
    have hfree := h.permits
    change p.free + (p.removeTask id).tally _ + p.lent.length + _ = _
    omega

/-- A call comes. It may have taken idle connections and a free permit. -/
lemma addTask (h : Accounts c loose p) (t : Task) (hid : p.isUnused id = true) {idle : List Entry}
    (hplaces : ∀ n, idle.countP (·.connection = n) + t.holds n ≤
      p.idle.countP (·.connection = n)) {free : ℕ} (hfree : free + t.permits = p.free) :
    Accounts c loose
      ({ p with idle, free, waiting := p.waiting + t.requests }.addTask id t) := by
  obtain ⟨hcall, hloan⟩ := not_mem_of_isUnused hid
  have htally : ∀ f : Task → ℕ,
      ({ p with idle, free, waiting := p.waiting + t.requests }.addTask id t).tally f =
        p.tally f + f t := fun f => tally_addTask f _ id t
  have hcalls : ({ p with idle, free, waiting := p.waiting + t.requests }.addTask id t).calls =
      p.calls ++ [id] := calls_addTask _ id t
  constructor
  case config => exact h.config
  case calls =>
    rw [hcalls, ← List.concat_eq_append, List.nodup_concat]
    exact ⟨hcall, h.calls⟩
  case loans => exact h.loans
  case apart =>
    rw [hcalls]
    intro other hother
    rcases List.mem_append.mp hother with hother | hother
    · exact h.apart other hother
    · rw [List.mem_singleton.mp hother]
      exact hloan
  case queue => exact h.queue
  case queued =>
    intro other hother
    obtain ⟨deadline, hqueued⟩ := h.queued other hother
    exact ⟨deadline, task?_addTask (p := { p with idle, free, waiting := _ }) hqueued⟩
  case placed =>
    refine h.placed.of_le (fun n => ?_) le_rfl
    have hholds := htally (Task.holds n)
    have hn := hplaces n
    rw [places_eq, places_eq]
    change idle.countP _ + _ + p.lent.countP _ ≤ _
    omega
  case active => exact h.active
  case waiting =>
    have hcounted := htally Task.requests
    have hwaiting := h.waiting
    change p.waiting + t.requests = _
    omega
  case permits =>
    have hcounted := htally Task.permits
    have hpermits := h.permits
    change free + _ + p.lent.length + _ = _
    omega

/-- A request that has no permit joins the queue. -/
lemma enqueue (h : Accounts c loose p) (ht : p.task? id = some (.get deadline .queued))
    (hid : id ∉ p.queue) : Accounts c loose { p with queue := p.queue ++ [id] } where
  config := h.config
  calls := h.calls
  loans := h.loans
  apart := h.apart
  queue := by
    rw [← List.concat_eq_append, List.nodup_concat]
    exact ⟨hid, h.queue⟩
  queued := by
    intro other hother
    rcases List.mem_append.mp hother with hother | hother
    · exact h.queued other hother
    · rw [List.mem_singleton.mp hother]
      exact ⟨deadline, ht⟩
  placed := ⟨h.placed.once, h.placed.opened⟩
  active := h.active
  waiting := h.waiting
  permits := h.permits

/-- Requests leave the queue. -/
lemma unqueue (h : Accounts c loose p) {queue : List ℕ} (hsublist : queue.Sublist p.queue) :
    Accounts c loose { p with queue } where
  config := h.config
  calls := h.calls
  loans := h.loans
  apart := h.apart
  queue := h.queue.sublist hsublist
  queued other hother := h.queued other (hsublist.subset hother)
  placed := ⟨h.placed.once, h.placed.opened⟩
  active := h.active
  waiting := h.waiting
  permits := h.permits

/-- A permit that came back is handed to the first in the queue, or it is free. -/
lemma releasePermit (h : Accounts c (loose + 1) p) : Accounts c loose p.releasePermit := by
  rw [Pool.releasePermit]
  split
  · have hfree := h.permits
    exact ⟨h.config, h.calls, h.loans, h.apart, h.queue, h.queued,
      ⟨h.placed.once, h.placed.opened⟩, h.active, h.waiting, by
        change p.free + 1 + p.tally _ + p.lent.length + loose = _
        omega⟩
  · rename_i id rest hqueue
    obtain ⟨deadline, ht⟩ := h.queued id (hqueue ▸ List.mem_cons_self)
    have hnodup := h.queue
    rw [hqueue, List.nodup_cons] at hnodup
    have hrest : Accounts c (loose + 1) { p with queue := rest } :=
      h.unqueue (hqueue ▸ List.sublist_cons_self id rest)
    have hpermits : (Task.get deadline .granted).permits + loose =
        (Task.get deadline .queued).permits + (loose + 1) := by
      rw [Task.permits_get rfl, Task.permits_queued]
      omega
    rw [setPhase_eq_setTask (p := { p with queue := rest }) h.calls ht]
    exact hrest.setTask (.get deadline .granted) ht hnodup.1 rfl hpermits fun n => le_rfl

/-- A connection that was nowhere is lent, and a permit goes with it. -/
lemma loan (h : Accounts c (loose + 1) p) (hid : id ∉ p.calls) (hloan : id ∉ p.lent.map Prod.fst)
    (hplace : p.places e.connection = 0) (hopened : e.connection < p.created) :
    Accounts c loose { p with active := p.active + 1, lent := p.lent ++ [(id, e)] } := by
  constructor
  case config => exact h.config
  case calls => exact h.calls
  case loans =>
    rw [← List.concat_eq_append, List.map_concat, List.nodup_concat]
    exact ⟨hloan, h.loans⟩
  case apart =>
    intro other hother
    rw [List.map_append, List.mem_append, not_or]
    refine ⟨h.apart other hother, fun hmem => ?_⟩
    rw [List.mem_singleton.mp hmem] at hother
    exact hid hother
  case queue => exact h.queue
  case queued => exact h.queued
  case placed =>
    refine h.placed.insert hplace hopened (fun n => ?_) rfl
    rw [places_eq, places_eq, List.countP_append, List.countP_singleton]
    simp only [decide_eq_true_eq]
    exact (Nat.add_assoc _ _ _).symm
  case active =>
    have hactive := h.active
    simp only [List.length_append, List.length_singleton]
    omega
  case waiting => exact h.waiting
  case permits =>
    have hpermits := h.permits
    simp only [List.length_append, List.length_singleton]
    change p.free + p.tally _ + _ + _ = _
    omega

/-- A connection that was nowhere is put among the idle ones. -/
lemma pushIdle (h : Accounts c loose p) (hplace : p.places e.connection = 0)
    (hopened : e.connection < p.created) :
    Accounts c loose { p with idle := p.idle ++ [e] } where
  config := h.config
  calls := h.calls
  loans := h.loans
  apart := h.apart
  queue := h.queue
  queued := h.queued
  placed := by
    refine h.placed.insert hplace hopened (fun n => ?_) rfl
    rw [places_eq, places_eq, List.countP_append, List.countP_singleton]
    simp only [decide_eq_true_eq]
    change _ + _ + p.tally _ + p.lent.countP _ = _
    omega
  active := h.active
  waiting := h.waiting
  permits := h.permits

/-- A connection is opened; it is nowhere yet. -/
lemma create (h : Accounts c loose p) :
    Accounts c loose { p with created := p.created + 1 } ∧
      ({ p with created := p.created + 1 } : Pool).places p.created = 0 :=
  ⟨⟨h.config, h.calls, h.loans, h.apart, h.queue, h.queued,
      h.placed.of_le (fun _ => le_rfl) (Nat.le_succ _), h.active, h.waiting, h.permits⟩,
    h.placed.opened _ le_rfl⟩

/-- A connection that is opened up front is idle. -/
lemma pushFresh (h : Accounts c loose p) :
    Accounts c loose { p with created := p.created + 1, idle := p.idle ++ [p.fresh] } := by
  obtain ⟨hcreated, hplace⟩ := h.create
  exact hcreated.pushIdle (e := p.fresh) hplace (Nat.lt_succ_self _)

lemma length_endLoan (hloans : (p.lent.map Prod.fst).Nodup) (hlent : p.lent.lookup id = some e) :
    (p.lent.filter fun l => l.1 ≠ id).length + 1 = p.lent.length := by
  obtain ⟨before, after, hsplit, hbefore, hafter⟩ := exists_split hloans hlent
  rw [hsplit, filter_split hbefore hafter, List.length_append, List.length_append,
    List.length_cons]
  rfl

/-- A borrower gives its connection and its permit out of its hands. -/
lemma endLoan (h : Accounts c loose p) (hlent : p.lent.lookup id = some e) :
    let q := { p with active := p.active - 1, lent := p.lent.filter fun l => l.1 ≠ id }
    Accounts c (loose + 1) q ∧ q.places e.connection = 0 ∧ e.connection < q.created := by
  intro q
  obtain ⟨before, after, hsplit, hbefore, hafter⟩ := exists_split h.loans hlent
  have hq : q.lent = before ++ after := by
    change p.lent.filter _ = _
    rw [hsplit]
    exact filter_split hbefore hafter
  have hsublist : q.lent.Sublist p.lent := List.filter_sublist
  have hlength : q.lent.length + 1 = p.lent.length := length_endLoan h.loans hlent
  have hplaces : ∀ n, q.places n + (if e.connection = n then 1 else 0) = p.places n := by
    intro n
    rw [places_eq, places_eq, hq, hsplit, List.countP_append, List.countP_append,
      List.countP_cons]
    simp only [decide_eq_true_eq]
    change p.idle.countP _ + p.tally _ + _ + _ = _
    omega
  have hplace := hplaces e.connection
  rw [if_pos rfl] at hplace
  have honce := h.placed.once e.connection
  refine ⟨?_, by omega, ?_⟩
  · constructor
    case config => exact h.config
    case calls => exact h.calls
    case loans => exact h.loans.sublist (hsublist.map _)
    case apart => exact fun other hother hmem => h.apart other hother ((hsublist.map _).subset hmem)
    case queue => exact h.queue
    case queued => exact h.queued
    case placed =>
      exact h.placed.of_le (fun n => by have := hplaces n; omega) le_rfl
    case active =>
      have hactive := h.active
      change p.active - 1 = _
      omega
    case waiting => exact h.waiting
    case permits =>
      have hpermits := h.permits
      change p.free + p.tally _ + _ + _ = _
      omega
  · by_contra hnew
    have hnone := h.placed.opened e.connection (Nat.not_lt.mp hnew)
    omega

/-- The accounts are not about the time, what is closed and how often something happened. -/
lemma frame (h : Accounts c loose p) (now : ℕ) (isClosed : Bool) (closedConnections : List ℕ)
    (discarded timedOut rejected : ℕ) :
    Accounts c loose
      { p with now, isClosed, closedConnections, discarded, timedOut, rejected } :=
  ⟨h.config, h.calls, h.loans, h.apart, h.queue, h.queued, ⟨h.placed.once, h.placed.opened⟩,
    h.active, h.waiting, h.permits⟩

/-! ## What calls do -/

/-- A request with a permit is not queued. -/
lemma not_mem_queue_of_hasPermit (h : Accounts c loose p)
    (ht : p.task? id = some (.get deadline phase)) (hpermit : phase.hasPermit = true) :
    id ∉ p.queue := by
  refine h.not_mem_queue ht fun deadline' heq => ?_
  cases heq
  cases hpermit

lemma search (h : Accounts c loose p) (ht : p.task? id = some (.get deadline phase))
    (hpermit : phase.hasPermit = true) : Accounts c loose (p.search id) := by
  obtain ⟨phase', discarded, hseeking, hheld, heq⟩ := search_spec h.calls ht
  have hq := h.frame p.now p.isClosed p.closedConnections discarded p.timedOut p.rejected
  have hpermits : (Task.get deadline phase').permits + loose =
      (Task.get deadline phase).permits + loose := by
    rw [Task.permits_get (Phase.hasPermit_of_isSeeking hseeking), Task.permits_get hpermit]
  rw [heq]
  refine hq.setTask (.get deadline phase') ht (h.not_mem_queue_of_hasPermit ht hpermit) rfl hpermits
    fun n => ?_
  -- The connection in front is the one that the request holds now.
  rw [Task.holds, Task.held, hheld]
  change _ ≤ p.idle.countP _ + _
  cases p.idle with
  | nil => exact Nat.zero_le _
  | cons e rest =>
    rw [List.tail_cons, List.head?_cons, Option.toList_some, List.countP_singleton,
      List.countP_cons]
    exact Nat.le_add_right _ _

lemma quit (h : Accounts c loose p) (ht : p.task? id = some (.get deadline phase)) :
    Accounts c loose (p.quit id phase) := by
  rw [Pool.quit]
  -- Who has a permit is not queued and gives it on; who has none leaves the queue first.
  split
  · rename_i hpermit
    have hremoved := h.removeTask ht (h.not_mem_queue_of_hasPermit ht hpermit)
    rw [Task.permits_get hpermit] at hremoved
    exact hremoved.releasePermit
  · rename_i hpermit
    have hleft : Accounts c loose { p with queue := p.queue.filter (· ≠ id) } :=
      h.unqueue List.filter_sublist
    have hid : id ∉ p.queue.filter (· ≠ id) := by simp
    have hpermits : (Task.get deadline phase).permits = 0 := if_neg hpermit
    have hremoved := hleft.removeTask ht hid
    rw [hpermits] at hremoved
    exact hremoved

/-- A connection that a call holds is nowhere else, and it has been opened. -/
lemma held (h : Accounts c loose p) (ht : p.task? id = some t) (he : e ∈ t.held) :
    p.places e.connection ≤ t.holds e.connection ∧ e.connection < p.created := by
  have honce := h.placed.once e.connection
  have hholds : 0 < t.holds e.connection := List.countP_pos_iff.mpr ⟨e, he, decide_eq_true rfl⟩
  refine ⟨honce.trans hholds, ?_⟩
  by_contra hnew
  have hnone := h.placed.opened e.connection (Nat.not_lt.mp hnew)
  have htally := le_tally h.calls ht (Task.holds e.connection)
  rw [places_eq] at hnone
  omega

/-- A request gets a connection that it holds, or one that was nowhere. -/
lemma lend (h : Accounts c loose p) (ht : p.task? id = some (.get deadline phase))
    (hpermit : phase.hasPermit = true)
    (hplace : p.places e.connection ≤ (Task.get deadline phase).holds e.connection)
    (hopened : e.connection < p.created) : Accounts c loose (p.lend id e).1 := by
  have hremoved := h.removeTask ht (h.not_mem_queue_of_hasPermit ht hpermit)
  rw [Task.permits_get hpermit] at hremoved
  refine hremoved.loan ?_ (h.apart id (mem_calls ht)) ?_ hopened
  · change id ∉ (p.removeTask id).calls
    rw [calls_removeTask]
    simp
  · have hholds := tally_removeTask h.calls ht (Task.holds e.connection)
    rw [places_eq] at hplace ⊢
    change p.idle.countP _ + (p.removeTask id).tally _ + p.lent.countP _ = 0
    omega

/-- A connection that comes back is idle again or given up, before its permit is handed on. -/
lemma takeBack_spec (h : Accounts c loose p) (hlent : p.lent.lookup id = some e) :
    ∃ q, Accounts c (loose + 1) q ∧ p.takeBack id e = q.releasePermit ∧ q.tasks = p.tasks ∧
      q.queue = p.queue ∧ q.free = p.free ∧ q.isClosed = p.isClosed ∧
      q.lent.length + 1 = p.lent.length ∧ q.idle.length ≤ p.idle.length + 1 := by
  obtain ⟨hended, hplace, hopened⟩ := h.endLoan hlent
  have hlength := length_endLoan h.loans hlent
  rw [Pool.takeBack]
  split
  · exact ⟨_, hended, rfl, rfl, rfl, rfl, rfl, hlength, Nat.le_succ _⟩
  · split
    · exact ⟨_, hended.frame p.now p.isClosed p.closedConnections (p.discarded + 1) p.timedOut
        p.rejected, rfl, rfl, rfl, rfl, rfl, hlength, Nat.le_succ _⟩
    · exact ⟨_, hended.pushIdle (e := { e with lastUsed := p.now }) hplace hopened, rfl, rfl, rfl,
        rfl, rfl, hlength, List.length_append.le⟩

lemma takeBack (h : Accounts c loose p) (hlent : p.lent.lookup id = some e) :
    Accounts c loose (p.takeBack id e) := by
  obtain ⟨q, hq, heq, -⟩ := h.takeBack_spec hlent
  rw [heq]
  exact hq.releasePermit

lemma startGet (h : Accounts c loose p) (hid : p.isUnused id = true) :
    Accounts c loose (p.startGet id).1 := by
  have hnone := task?_of_isUnused hid
  rw [Pool.startGet]
  split
  · exact h
  · split
    · rename_i hfree
      split
      · exact h.frame p.now p.isClosed p.closedConnections p.discarded p.timedOut (p.rejected + 1)
      · have hadded := h.addTask (.get (p.now + p.config.acquireTimeout) .queued) hid
          (fun n => le_rfl) (Nat.add_zero p.free)
        refine hadded.enqueue (task?_addTask_self hnone _) fun hqueued => ?_
        obtain ⟨deadline, ht⟩ := h.queued id hqueued
        rw [hnone] at ht
        cases ht
    · rename_i free hfree
      have hadded := h.addTask (.get (p.now + p.config.acquireTimeout) .granted) hid
        (fun n => le_rfl) hfree.symm
      exact hadded.search (task?_addTask_self hnone _) rfl

lemma startOpen (h : Accounts c loose p) (hid : p.isUnused id = true) :
    Accounts c loose (p.startOpen id).1 := by
  rw [Pool.startOpen]
  split
  · exact h
  · split
    · exact h
    · exact h.addTask (.open _) hid (fun n => le_rfl) (Nat.add_zero p.free)

lemma startCloseIdle (h : Accounts c loose p) (hid : p.isUnused id = true) :
    Accounts c loose (p.startCloseIdle id).1 := by
  rw [Pool.startCloseIdle]
  split
  · exact h
  · rename_i hidle
    refine h.addTask (.close _) hid (fun n => ?_) (Nat.add_zero p.free)
    rw [List.countP_nil, Nat.zero_add]
    exact le_rfl

lemma startClose (h : Accounts c loose p) (hid : p.isUnused id = true) :
    Accounts c loose (p.startClose id).1 := by
  rw [Pool.startClose]
  split
  · exact h
  · have hleft := (h.unqueue (List.nil_sublist p.queue)).frame p.now true p.closedConnections
      p.discarded p.timedOut p.rejected
    exact hleft.startCloseIdle hid

end Accounts

/-- Every event keeps the accounts. -/
lemma accounts_step {event : Event} {next : Pool × Result} (h : Accounts c 0 p)
    (hadmits : p.admits event = true) (hstep : p.step event = some next) :
    Accounts c 0 next.1 := by
  cases effect_of_step hstep with
  | openStarted id => exact h.startOpen hadmits
  | getStarted id => exact h.startGet hadmits
  | closeIdleStarted id => exact h.startCloseIdle hadmits
  | closeStarted id => exact h.startClose hadmits
  | searched ht hopen => exact h.search ht rfl
  | refused ht hphase hclosed => exact h.quit ht
  | approved ht =>
    rename_i e
    obtain ⟨hplace, hopened⟩ := h.held ht (List.mem_singleton_self e)
    exact h.lend (e := { e with lastUsed := p.now }) ht rfl hplace hopened
  | disapproved ht =>
    have hq := h.frame p.now p.isClosed p.closedConnections (p.discarded + 1) p.timedOut
      p.rejected
    rw [setPhase_eq_setTask (p := { p with discarded := p.discarded + 1 }) h.calls ht]
    exact hq.setTask (.get _ (.discarding _)) ht (h.not_mem_queue_of_hasPermit ht rfl) rfl rfl
      fun n => le_rfl
  | discarded ht =>
    exact (h.frame p.now p.isClosed _ p.discarded p.timedOut p.rejected).search ht rfl
  | notCreated ht failure => exact h.quit ht
  | created ht =>
    obtain ⟨hcreated, hplace⟩ := h.create
    exact hcreated.lend (e := p.fresh) ht rfl (hplace.trans_le (Nat.zero_le _))
      (Nat.lt_succ_self _)
  | notOpened ht failure => exact h.removeTask ht (h.not_mem_queue ht nofun)
  | openedLast ht => exact h.pushFresh.removeTask ht (h.not_mem_queue ht nofun)
  | openedNext ht hmissing =>
    rename_i missing
    exact h.pushFresh.setTask (.open missing) ht (h.not_mem_queue ht nofun) rfl rfl
      fun n => le_rfl
  | closedLast ht =>
    rename_i e
    have hq := h.frame p.now p.isClosed (p.closedConnections ++ [e.connection]) p.discarded
      p.timedOut p.rejected
    exact hq.removeTask ht (h.not_mem_queue ht nofun)
  | closedNext ht hrest =>
    rename_i e rest
    have hq := h.frame p.now p.isClosed (p.closedConnections ++ [e.connection]) p.discarded
      p.timedOut p.rejected
    exact hq.setTask (.close rest) ht (h.not_mem_queue ht nofun) rfl rfl fun n =>
      Nat.add_le_add_left (List.sublist_cons_self e rest).countP_le _
  | expired ht hdeadline => exact (h.quit ht).frame _ _ _ _ _ _
  | requestAbandoned ht => exact h.quit ht
  | callAbandoned ht hget =>
    rename_i id t
    have hremoved := h.removeTask ht (h.not_mem_queue ht fun deadline => hget deadline .queued)
    -- Only requests have permits and are counted.
    cases t with
    | get deadline phase => exact absurd rfl (hget deadline phase)
    | «open» missing => exact hremoved
    | close rest => exact hremoved
  | givenBack hlent => exact h.takeBack hlent
  | connectionClosed connection => exact h.frame _ _ _ _ _ _
  | passed ms => exact h.frame _ _ _ _ _ _

/-- The accounts of a new pool. -/
lemma accounts_new (c : Config) (now : ℕ) : Accounts c 0 (.new c now) :=
  ⟨rfl, List.nodup_nil, List.nodup_nil, nofun, List.nodup_nil, nofun,
    ⟨fun _ => Nat.zero_le _, fun _ _ => rfl⟩, rfl, rfl, rfl⟩

/-- The accounts are right after every history. -/
lemma accounts_after {events : List Event} (h : Accounts c 0 p) (hafter : p.after events = some q) :
    Accounts c 0 q := by
  induction events generalizing p with
  | nil =>
    cases hafter
    exact h
  | cons event events ih =>
    obtain ⟨next, hadmits, hstep, hafter⟩ := after_cons hafter
    exact ih (accounts_step h hadmits hstep) hafter

/-- After every history a connection is in one place at most, where no two calls and no two
borrowers have one number; the pool counts exactly the connections that are lent, at most as many
as may be, and exactly the requests under way; and every permit is free, held by a request, or
lent with a connection.  Whoever takes one off a count finds one there: a borrower that gives its
connection back, and a request that ends. -/
theorem exclusive_lending (c : Config) (now : ℕ) (events : List Event) (p : Pool)
    (h : (Pool.new c now).after events = some p) :
    (∀ connection, p.places connection ≤ 1) ∧ p.calls.Nodup ∧ (p.lent.map Prod.fst).Nodup ∧
      p.active = p.lent.length ∧ p.active ≤ c.maxSize ∧
      p.free + p.tally Task.permits + p.lent.length = c.maxSize ∧
      p.waiting = p.tally Task.requests ∧
      (∀ id e, p.lent.lookup id = some e → 0 < p.active) ∧
      ∀ id deadline phase, p.task? id = some (.get deadline phase) → 0 < p.waiting := by
  have haccounts : Accounts c 0 p := accounts_after (accounts_new c now) h
  have hpermits : p.free + p.tally Task.permits + p.lent.length = c.maxSize := haccounts.permits
  have hactive := haccounts.active
  refine ⟨haccounts.placed.once, haccounts.calls, haccounts.loans, hactive, by omega, hpermits,
    haccounts.waiting, ?_, ?_⟩
  · intro id e hlent
    obtain ⟨before, after, hsplit, -⟩ := List.lookup_eq_some_iff.mp hlent
    rw [hactive, hsplit, List.length_append, List.length_cons]
    omega
  · intro id deadline phase ht
    have hcounted : 1 ≤ p.tally Task.requests := le_tally haccounts.calls ht Task.requests
    have hwaiting := haccounts.waiting
    omega

/-- Of two connections one is lent and one is looked at, while a request is queued. -/
theorem exclusive_lending_queued :
    let c : Config := { minSize := 1, maxSize := 2 }
    let events : List Event := [.callGet 0, .created 0 none, .callGet 1, .created 1 none,
      .callGet 2, .callGet 3, .giveBack 0, .proceed 2]
    ∃ p, (Pool.new c 0).after events = some p ∧ p.queue = [3] ∧
      p.task? 2 = some (.get 30000 (.validating ⟨0, 0, 0⟩)) ∧ p.lent.map Prod.fst = [1] ∧
      p.active = 1 ∧ p.waiting = p.tally Task.requests ∧ p.waiting = 2 ∧
      (∀ connection, p.places connection ≤ 1) ∧
      p.free + p.tally Task.permits + p.lent.length = 2 := by
  intro c events
  obtain ⟨p, hp⟩ : ∃ p, (Pool.new c 0).after events = some p :=
    Option.isSome_iff_exists.mp (by decide +kernel)
  have hseen : ((Pool.new c 0).after events).map
      (fun p => (p.queue, p.task? 2, p.lent.map Prod.fst, p.active, p.waiting)) =
        some ([3], some (.get 30000 (.validating ⟨0, 0, 0⟩)), [1], 1, 2) := by decide +kernel
  rw [hp, Option.map_some, Option.some.injEq] at hseen
  simp only [Prod.mk.injEq] at hseen
  obtain ⟨hqueue, htask, hlent, hactive, hwaiting⟩ := hseen
  obtain ⟨hplaces, -, -, -, -, hpermits, hrequests, -⟩ := exclusive_lending c 0 events p hp
  exact ⟨p, hp, hqueue, htask, hlent, hactive, hrequests, hwaiting, hplaces, hpermits⟩

end BulkValues.Pool
