/-
# Adding up over the calls of a pool

What counts about the calls under way is added up over them: how many requests there are, how
many have a permit, how many look for a connection, how often a connection is held.  An event
puts a call in, takes one out, or puts another in its place, and a sum over the calls changes by
what the call counts.  This holds because no two calls have one number.
-/
import BulkValues.Pool.Step
import Mathlib

namespace BulkValues.Pool

/-! ## What a call counts -/

/-- Whether a request in this phase looks for a connection, or has one. -/
def Phase.isSeeking : Phase → Bool
  | queued | granted => false
  | _ => true

lemma Phase.hasPermit_of_isSeeking {phase : Phase} (h : phase.isSeeking = true) :
    phase.hasPermit = true := by
  cases phase with
  | queued => cases h
  | granted => rfl
  | validating e => rfl
  | discarding e => rfl
  | creating => rfl

namespace Task

/-- A request counts once. -/
def requests : Task → ℕ
  | get .. => 1
  | _ => 0

/-- A request that has a permit counts once. -/
def permits : Task → ℕ
  | get _ phase => if phase.hasPermit then 1 else 0
  | _ => 0

/-- A request that looks for a connection counts once. -/
def seekers : Task → ℕ
  | get _ phase => if phase.isSeeking then 1 else 0
  | _ => 0

/-- The connections that are still to be opened up front. -/
def missing : Task → ℕ
  | «open» n => n
  | _ => 0

/-- How often a call holds a connection. -/
def holds (connection : ℕ) (t : Task) : ℕ := t.held.countP (·.connection = connection)

lemma permits_get {deadline : ℕ} {phase : Phase} (h : phase.hasPermit = true) :
    (get deadline phase).permits = 1 := if_pos h

lemma permits_queued (deadline : ℕ) : (get deadline .queued).permits = 0 := rfl

lemma seekers_get {deadline : ℕ} {phase : Phase} (h : phase.isSeeking = true) :
    (get deadline phase).seekers = 1 := if_pos h

end Task

/-- What the calls under way count together. -/
def tally (f : Task → ℕ) (p : Pool) : ℕ := (p.tasks.map fun u => f u.2).sum

/-- The numbers of the calls under way. -/
def calls (p : Pool) : List ℕ := p.tasks.map Prod.fst

variable {α : Type} {p : Pool} {id other : ℕ} {t : Task} {deadline : ℕ} {phase : Phase}

/-! ## One entry among the others -/

section Entries

variable {l before after : List (ℕ × α)} {a : α}

/-- What is found under a number stands between entries of other numbers. -/
lemma exists_split (hnumbers : (l.map Prod.fst).Nodup) (h : l.lookup id = some a) :
    ∃ before after, l = before ++ (id, a) :: after ∧
      (∀ u ∈ before, u.1 ≠ id) ∧ ∀ u ∈ after, u.1 ≠ id := by
  obtain ⟨before, after, rfl, -⟩ := List.lookup_eq_some_iff.mp h
  rw [List.map_append, List.map_cons, List.nodup_middle, List.nodup_cons, ← List.map_append,
    List.mem_map] at hnumbers
  obtain ⟨hfresh, -⟩ := hnumbers
  refine ⟨before, after, rfl, ?_, ?_⟩
  · intro u hu heq
    exact hfresh ⟨u, List.mem_append_left _ hu, heq⟩
  · intro u hu heq
    exact hfresh ⟨u, List.mem_append_right _ hu, heq⟩

lemma filter_split (hbefore : ∀ u ∈ before, u.1 ≠ id) (hafter : ∀ u ∈ after, u.1 ≠ id) :
    (before ++ (id, a) :: after).filter (fun u => u.1 ≠ id) = before ++ after := by
  have hkeep : ∀ l : List (ℕ × α), (∀ u ∈ l, u.1 ≠ id) → l.filter (fun u => u.1 ≠ id) = l :=
    fun l hl => List.filter_eq_self.mpr fun u hu => decide_eq_true (hl u hu)
  rw [List.filter_append, List.filter_cons_of_neg (by simp), hkeep before hbefore,
    hkeep after hafter]

/-- Entries of other numbers can be found whether or not the entry is there. -/
lemma lookup_split_of_ne (hne : other ≠ id) :
    (before ++ (id, a) :: after).lookup other = (before ++ after).lookup other := by
  have hother : (other == id) = false := beq_false_of_ne hne
  simp only [List.lookup_append, List.lookup_cons, hother]

end Entries

/-! ## One call among the others -/

lemma map_replace {l : List (ℕ × Task)} (h : ∀ u ∈ l, u.1 ≠ id) (v : ℕ × Task) :
    (l.map fun u => if u.1 = id then v else u) = l := by
  rw [List.map_congr_left (g := fun u => u) fun u hu => if_neg (h u hu), List.map_id']

lemma tasks_setTask {before after : List (ℕ × Task)} (htasks : p.tasks = before ++ (id, t) :: after)
    (hbefore : ∀ u ∈ before, u.1 ≠ id) (hafter : ∀ u ∈ after, u.1 ≠ id) (t' : Task) :
    (p.setTask id t').tasks = before ++ (id, t') :: after := by
  rw [setTask, htasks, List.map_append, List.map_cons, map_replace hbefore, map_replace hafter,
    if_pos rfl]

lemma tasks_removeTask {before after : List (ℕ × Task)}
    (htasks : p.tasks = before ++ (id, t) :: after)
    (hbefore : ∀ u ∈ before, u.1 ≠ id) (hafter : ∀ u ∈ after, u.1 ≠ id) :
    (p.removeTask id).tasks = before ++ after := by
  rw [removeTask, htasks]
  exact filter_split hbefore hafter

/-- Changing the phase of a request puts the request in the other phase in its place. -/
lemma setPhase_eq_setTask (hcalls : p.calls.Nodup)
    (ht : p.task? id = some (.get deadline phase)) (phase' : Phase) :
    p.setPhase id phase' = p.setTask id (.get deadline phase') := by
  obtain ⟨before, after, htasks, hbefore, hafter⟩ := exists_split hcalls ht
  have hsame : ∀ u ∈ p.tasks, u.1 = id → u = (id, .get deadline phase) := by
    intro u hu hid
    rw [htasks, List.mem_append, List.mem_cons] at hu
    rcases hu with hu | rfl | hu
    · exact absurd hid (hbefore u hu)
    · rfl
    · exact absurd hid (hafter u hu)
  rw [setTask, setPhase]
  congr 1
  refine List.map_congr_left fun u hu => ?_
  by_cases hid : u.1 = id
  · rw [hsame u hu hid]
    simp only [if_true]
  · obtain ⟨n, t⟩ := u
    cases t with
    | get deadline old => simp only [if_neg hid]
    | «open» missing => simp only [if_neg hid]
    | close rest => simp only [if_neg hid]

/-- A request that looks for a connection takes the idle one in front, if there is one, and is
looking or has found it. -/
lemma search_spec (hcalls : p.calls.Nodup) (ht : p.task? id = some (.get deadline phase)) :
    ∃ phase' discarded, phase'.isSeeking = true ∧ phase'.held?.toList = p.idle.head?.toList ∧
      p.search id =
        { p with idle := p.idle.tail, discarded }.setTask id (.get deadline phase') := by
  rw [search]
  split
  · rename_i hidle
    refine ⟨.creating, p.discarded, rfl, by rw [hidle]; rfl, ?_⟩
    rw [setPhase_eq_setTask hcalls ht]
    congr 1
    rw [hidle]
    exact congrArg (fun idle => { p with idle }) hidle
  · rename_i e rest hidle
    split
    · refine ⟨.discarding e, p.discarded + 1, rfl, by rw [hidle]; rfl, ?_⟩
      rw [setPhase_eq_setTask (p := { p with idle := rest, discarded := _ }) hcalls ht, hidle]
      rfl
    · refine ⟨.validating e, p.discarded, rfl, by rw [hidle]; rfl, ?_⟩
      rw [setPhase_eq_setTask (p := { p with idle := rest }) hcalls ht, hidle]
      rfl

/-! ## Sums -/

section Sums

variable (hcalls : p.calls.Nodup) (ht : p.task? id = some t) (f : Task → ℕ)
include hcalls ht

lemma tally_setTask (t' : Task) : (p.setTask id t').tally f + f t = p.tally f + f t' := by
  obtain ⟨before, after, htasks, hbefore, hafter⟩ := exists_split hcalls ht
  rw [tally, tally, tasks_setTask htasks hbefore hafter, htasks]
  simp only [List.map_append, List.map_cons, List.sum_append, List.sum_cons]
  omega

lemma tally_removeTask : (p.removeTask id).tally f + f t = p.tally f := by
  obtain ⟨before, after, htasks, hbefore, hafter⟩ := exists_split hcalls ht
  rw [tally, tally, tasks_removeTask htasks hbefore hafter, htasks]
  simp only [List.map_append, List.map_cons, List.sum_append, List.sum_cons]
  omega

/-- A call that is under way is counted. -/
lemma le_tally : f t ≤ p.tally f := by
  have h := tally_removeTask hcalls ht f
  omega

end Sums

/-- Who counts less of every call counts less together. -/
lemma tally_le_tally {f g : Task → ℕ} (h : ∀ t, f t ≤ g t) (p : Pool) : p.tally f ≤ p.tally g :=
  List.sum_le_sum fun u _ => h u.2

lemma tally_addTask (f : Task → ℕ) (p : Pool) (id : ℕ) (t : Task) :
    (p.addTask id t).tally f = p.tally f + f t := by
  simp [tally, addTask]

/-! ## Numbers of calls -/

@[simp] lemma calls_setTask (p : Pool) (id : ℕ) (t : Task) :
    (p.setTask id t).calls = p.calls := by
  rw [calls, calls, setTask, List.map_map]
  refine List.map_congr_left fun u _ => ?_
  by_cases h : u.1 = id
  · simp [h]
  · simp [h]

@[simp] lemma calls_addTask (p : Pool) (id : ℕ) (t : Task) :
    (p.addTask id t).calls = p.calls ++ [id] := by
  simp [calls, addTask]

lemma calls_removeTask (p : Pool) (id : ℕ) :
    (p.removeTask id).calls = p.calls.filter (· ≠ id) := by
  rw [calls, calls, removeTask, List.filter_map]
  rfl

lemma task?_setTask_of_ne (hcalls : p.calls.Nodup) (ht : p.task? id = some t) (t' : Task)
    (hne : other ≠ id) : (p.setTask id t').task? other = p.task? other := by
  obtain ⟨before, after, htasks, hbefore, hafter⟩ := exists_split hcalls ht
  rw [task?, task?, tasks_setTask htasks hbefore hafter, htasks, lookup_split_of_ne hne,
    lookup_split_of_ne hne]

lemma task?_removeTask_of_ne (hcalls : p.calls.Nodup) (ht : p.task? id = some t)
    (hne : other ≠ id) : (p.removeTask id).task? other = p.task? other := by
  obtain ⟨before, after, htasks, hbefore, hafter⟩ := exists_split hcalls ht
  rw [task?, task?, tasks_removeTask htasks hbefore hafter, htasks, lookup_split_of_ne hne]

/-- A call that is added does not hide an older one. -/
lemma task?_addTask {t' : Task} (h : p.task? other = some t) :
    (p.addTask id t').task? other = some t := by
  rw [task?, addTask, List.lookup_append, ← task?, h]
  rfl

lemma task?_addTask_self (h : p.task? id = none) (t : Task) :
    (p.addTask id t).task? id = some t := by
  rw [task?, addTask, List.lookup_append, ← task?, h, Option.none_or, List.lookup_cons,
    beq_self_eq_true]

lemma mem_calls (h : p.task? id = some t) : id ∈ p.calls := by
  obtain ⟨before, after, htasks, -⟩ := List.lookup_eq_some_iff.mp h
  simp [calls, htasks]

end BulkValues.Pool
