/-
# How a request begins

A request that finds a free permit takes it and looks at the idle connection in front, all without
interruption; one that finds none joins the queue or is refused.  A connection that comes back is
put among the idle ones or given up before its permit is handed on.
-/
import BulkValues.Proofs.Pool.Lending

namespace BulkValues.Pool

/-- How many connections a request has just counted as thrown away when it comes into this
phase. -/
def Phase.discards : Phase → ℕ
  | discarding _ => 1
  | _ => 0

/-- The phase of a request that looks at the idle connection in front. -/
def nextPhase (p : Pool) : Phase :=
  match p.idle with
  | [] => .creating
  | e :: _ => if p.isExpired e || p.isStale e then .discarding e else .validating e

/-- Whether a connection that comes back is lent again. -/
def keeps (p : Pool) (e : Entry) : Bool :=
  !p.isClosed && !p.isConnectionClosed e.connection && !p.isExpired e

variable {free id : ℕ} {p : Pool} {deadline : ℕ} {phase : Phase} {e : Entry}

lemma isSeeking_nextPhase (p : Pool) : p.nextPhase.isSeeking = true := by
  rw [nextPhase]
  split
  · rfl
  · split <;> rfl

/-- The idle connection in front is the one that the request looks at. -/
lemma held?_nextPhase (p : Pool) : p.nextPhase.held? = p.idle.head? := by
  rw [nextPhase]
  split
  · rename_i hidle
    rw [hidle]
    rfl
  · rename_i hidle
    rw [hidle]
    split <;> rfl

lemma search_eq (p : Pool) (id : ℕ) : p.search id =
    { p with idle := p.idle.tail, discarded := p.discarded + p.nextPhase.discards }.setPhase id
      p.nextPhase := by
  cases hidle : p.idle with
  | nil =>
    have hnext : p.nextPhase = .creating := by rw [nextPhase, hidle]
    rw [search, hidle, hnext]
    exact congrArg (fun idle => ({ p with idle } : Pool).setPhase id .creating) hidle
  | cons e rest =>
    have hnext : p.nextPhase =
        if p.isExpired e || p.isStale e then .discarding e else .validating e := by
      rw [nextPhase, hidle]
    rw [search, hidle, hnext]
    by_cases hold : (p.isExpired e || p.isStale e) = true
    · simp only [if_pos hold]
      rfl
    · simp only [if_neg hold]
      rfl

lemma ne_of_isUnused (hid : p.isUnused id = true) {u : ℕ × Task} (hu : u ∈ p.tasks) : u.1 ≠ id :=
  fun heq => (not_mem_of_isUnused hid).1 (List.mem_map.mpr ⟨u, hu, heq⟩)

lemma setPhase_addTask (hid : p.isUnused id = true) (phase' : Phase) :
    (p.addTask id (.get deadline phase)).setPhase id phase' =
      p.addTask id (.get deadline phase') := by
  refine congrArg (fun tasks => { p with tasks }) ?_
  rw [addTask, List.map_append, List.map_singleton]
  simp only [if_true]
  rw [List.map_congr_left (g := fun u => u) fun u hu => ?_, List.map_id']
  obtain ⟨n, t⟩ := u
  cases t with
  | get deadline old => simp only [if_neg (ne_of_isUnused hid hu)]
  | «open» missing => rfl
  | close rest => rfl

lemma removeTask_addTask (hid : p.isUnused id = true) (t : Task) :
    (p.addTask id t).removeTask id = p := by
  refine congrArg (fun tasks => { p with tasks }) ?_
  have hkept : p.tasks.filter (fun u => u.1 ≠ id) = p.tasks :=
    List.filter_eq_self.mpr fun u hu => decide_eq_true (ne_of_isUnused hid hu)
  rw [addTask, List.filter_append, hkept, List.filter_cons_of_neg (by simp), List.filter_nil,
    List.append_nil]

/-- A request that finds a free permit looks for a connection at once. -/
lemma startGet_of_free (hid : p.isUnused id = true) (hopen : p.isClosed = false)
    (hfree : p.free = free + 1) :
    p.startGet id = ({ p with
        free, waiting := p.waiting + 1, idle := p.idle.tail
        discarded := p.discarded + p.nextPhase.discards }.addTask id
          (.get (p.now + p.config.acquireTimeout) p.nextPhase), none) := by
  rw [startGet, if_neg (ne_true_of_eq_false hopen), hfree]
  change (search _ id, none) = _
  rw [search_eq]
  exact congrArg (·, none) (setPhase_addTask
    (p := { p with free, waiting := p.waiting + 1, idle := p.idle.tail, discarded := _ }) hid _)

/-- As many requests as may wait are under way. -/
lemma any_waitingLimit_iff {c : Config} {n : ℕ} :
    c.waitingLimit.any (· ≤ n) = true ↔ 0 < c.maxWaiting ∧ c.maxWaiting ≤ n := by
  rw [Config.waitingLimit]
  split
  · rename_i hnone
    simp [hnone]
  · rename_i hlimit
    simp [Nat.pos_of_ne_zero hlimit]

/-- A request that finds no free permit waits, or it is refused because as many as may wait are
under way. -/
lemma startGet_of_no_permit (hopen : p.isClosed = false) (hfree : p.free = 0) (id : ℕ) :
    p.startGet id =
      if p.config.waitingLimit.any (· ≤ p.waiting) then
        ({ p with rejected := p.rejected + 1 },
          some (id, .failed (.queueFull p.config.name p.waiting)))
      else
        ({ p with waiting := p.waiting + 1, queue := p.queue ++ [id] }.addTask id
          (.get (p.now + p.config.acquireTimeout) .queued), none) := by
  rw [startGet, if_neg (ne_true_of_eq_false hopen), hfree]

/-- A request whose connection has been opened gets it. -/
lemma step_created (ht : p.task? id = some (.get deadline .creating)) :
    p.step (.created id none) = some (lend { p with created := p.created + 1 } id p.fresh) := by
  rw [step, ht]
  rfl

/-- A connection that comes back is the last of the idle ones, or it is given up. -/
lemma takeBack_eq (p : Pool) (id : ℕ) (e : Entry) : ∃ discarded, p.takeBack id e =
    { p with
      active := p.active - 1
      lent := p.lent.filter fun l => l.1 ≠ id
      idle := if p.keeps e then p.idle ++ [{ e with lastUsed := p.now }] else p.idle
      discarded }.releasePermit := by
  by_cases hclosed : (p.isClosed || p.isConnectionClosed e.connection) = true
  · have hgone : p.keeps e = false := by
      rw [keeps, ← Bool.not_or, hclosed]
      rfl
    refine ⟨p.discarded, ?_⟩
    rw [takeBack, if_pos hclosed, hgone]
    rfl
  · rw [Bool.not_eq_true] at hclosed
    have hkept : p.keeps e = !p.isExpired e := by
      rw [keeps, ← Bool.not_or, hclosed]
      rfl
    cases hexpired : p.isExpired e with
    | true =>
      refine ⟨p.discarded + 1, ?_⟩
      rw [takeBack, hclosed, hkept, hexpired]
      rfl
    | false =>
      refine ⟨p.discarded, ?_⟩
      rw [takeBack, hclosed, hkept, hexpired]
      rfl

end BulkValues.Pool
