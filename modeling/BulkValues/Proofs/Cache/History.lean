/-
# Histories of a cache

A history is a list of events that happen in a cache one after another.  Each event must be possible
where it happens, and a call starts under a number that no call under way has.

Slots are never thrown away: a slot that has left the index is still the one that some call waits
for or fills.  What is built in it then is in no place from which the cache could close it.
-/
import BulkValues.Cache.Step
import Mathlib.Data.Nat.Notation
import Mathlib.Tactic.ByContra
import Mathlib.Tactic.Lemma

namespace BulkValues.Cache

/-! ## Keys -/

instance : LawfulBEq Key where
  rfl {key} := by
    change (key.kind == key.kind && key.overrides.entries == key.overrides.entries) = true
    simp
  eq_of_beq {key key'} h := by
    obtain ⟨kind, ⟨entries, sorted⟩⟩ := key
    obtain ⟨kind', ⟨entries', sorted'⟩⟩ := key'
    change (kind == kind' && entries == entries') = true at h
    rw [Bool.and_eq_true, beq_iff_eq, beq_iff_eq] at h
    obtain ⟨rfl, rfl⟩ := h
    rfl

/-! ## Calls and slots -/

/-- The key and the slot of a call that waits for an object or fills a slot. -/
def Stage.place? : Stage → Option (Key × ℕ)
  | .waiting key n | .opening key n .. | .connecting key n _ => some (key, n)
  | .closing .. => none

/-- Whether a call fills a slot. -/
def Stage.isFilling : Stage → Bool
  | .opening .. | .connecting .. => true
  | .waiting .. | .closing .. => false

/-- The objects that a call will close. -/
def Stage.doomed : Stage → List Object
  | .closing rest _ => rest
  | _ => []

/-- Whether calls wait for the object of a slot that is empty, or fill it. -/
def isAwaited (c : Cache) (n : ℕ) : Bool :=
  (c.slot n).value.isNone && c.calls.any fun call => call.2.place?.any fun place => place.2 == n

/-- A cache without a call. -/
def leave (c : Cache) (id : ℕ) : Cache := { c with calls := c.calls.filter fun e => e.1 ≠ id }

variable {c c' : Cache} {id n n' : ℕ} {stage : Stage} {s : Slot}

lemma mem_leave {call : ℕ × Stage} : call ∈ (c.leave id).calls ↔ call ∈ c.calls ∧ call.1 ≠ id := by
  simp [leave]

lemma mem_calls_of_stage? (h : c.stage? id = some stage) : (id, stage) ∈ c.calls := by
  obtain ⟨before, after, hcalls, -⟩ := List.lookup_eq_some_iff.mp h
  rw [hcalls]
  simp

lemma stage?_leave_self (c : Cache) (id : ℕ) : (c.leave id).stage? id = none := by
  refine List.lookup_eq_none_iff.mpr fun call hcall => ?_
  have hne : call.1 ≠ id := by simpa using (List.mem_filter.mp hcall).2
  simpa using hne.symm

lemma stage?_leave_of_ne {other : ℕ} (h : other ≠ id) :
    (c.leave id).stage? other = c.stage? other := by
  rw [stage?, stage?, leave]
  dsimp only
  induction c.calls with
  | nil => rfl
  | cons call calls ih =>
    obtain ⟨id', stage⟩ := call
    by_cases hid : id' = id
    · have hother : (other == id') = false := beq_false_of_ne (hid ▸ h)
      rw [List.filter_cons_of_neg (by simpa using hid), ih, List.lookup_cons, hother]
    · rw [List.filter_cons_of_pos (by simpa using hid), List.lookup_cons, List.lookup_cons, ih]

lemma setStage_eq (c : Cache) (id : ℕ) (stage : Stage) :
    c.setStage id stage = { c.leave id with calls := (c.leave id).calls ++ [(id, stage)] } := rfl

lemma stage?_setStage_self (c : Cache) (id : ℕ) (stage : Stage) :
    (c.setStage id stage).stage? id = some stage := by
  have hnone : (c.leave id).calls.lookup id = none := stage?_leave_self c id
  rw [stage?, setStage_eq, List.lookup_append, hnone, Option.none_or, List.lookup_cons,
    beq_self_eq_true]

lemma stage?_setStage_of_ne {other : ℕ} (h : other ≠ id) :
    (c.setStage id stage).stage? other = c.stage? other := by
  have hother : (other == id) = false := beq_false_of_ne h
  have hleave : (c.leave id).calls.lookup other = c.stage? other := stage?_leave_of_ne h
  rw [stage?, setStage_eq, List.lookup_append, hleave, List.lookup_cons, hother, List.lookup_nil,
    Option.or_none]

lemma stage?_leave_eq_some {other : ℕ} :
    (c.leave id).stage? other = some stage ↔ other ≠ id ∧ c.stage? other = some stage := by
  by_cases h : other = id
  · subst h
    simp [stage?_leave_self]
  · simp [stage?_leave_of_ne h, h]

lemma stage?_setStage_eq_some {other : ℕ} {stage' : Stage} :
    (c.setStage id stage).stage? other = some stage' ↔
      other = id ∧ stage = stage' ∨ other ≠ id ∧ c.stage? other = some stage' := by
  by_cases h : other = id
  · subst h
    simp [stage?_setStage_self]
  · simp [stage?_setStage_of_ne h, h]

lemma length_setSlot (c : Cache) (n : ℕ) (s : Slot) :
    (c.setSlot n s).slots.length = c.slots.length := List.length_set

lemma slot_setSlot (h : n < c.slots.length) : (c.setSlot n s).slot n = s := by
  simp [slot, setSlot, h]

lemma slot_setSlot_of_ne (h : n' ≠ n) : (c.setSlot n s).slot n' = c.slot n' := by
  simp [slot, setSlot, h.symm]

lemma mem_of_slotOf?_eq_some {key : Key} (h : c.slotOf? key = some n) : (key, n) ∈ c.index := by
  obtain ⟨⟨key', n'⟩, hfind, rfl⟩ := Option.map_eq_some_iff.mp h
  have hbeq := List.find?_some hfind
  have hkey : key' = key := eq_of_beq hbeq
  subst hkey
  exact List.mem_of_find?_eq_some hfind

lemma notMem_of_slotOf?_eq_none {key : Key} (h : c.slotOf? key = none) (n : ℕ) :
    (key, n) ∉ c.index := by
  intro hmem
  have hne := List.find?_eq_none.mp (Option.map_eq_none_iff.mp h) (key, n) hmem
  exact hne (beq_self_eq_true key)

lemma lt_of_value {o : Object} (h : (c.slot n).value = some o) : n < c.slots.length := by
  by_contra hn
  rw [slot, List.getD_eq_getElem?_getD, List.getElem?_eq_none (Nat.le_of_not_lt hn)] at h
  cases h

lemma length_slots_addSlot (c : Cache) (key : Key) :
    (c.addSlot key).slots.length = c.slots.length + 1 := by
  rw [addSlot, List.length_append, List.length_singleton]

lemma slot_addSlot_of_lt (h : n < c.slots.length) (key : Key) :
    (c.addSlot key).slot n = c.slot n := by
  simp [slot, addSlot, List.getElem?_append_left h]

lemma slot_addSlot_self (c : Cache) (key : Key) :
    (c.addSlot key).slot c.slots.length = { key } := by
  simp [slot, addSlot]

/-- Nothing is in a slot that is new. -/
lemma lt_of_value_addSlot {key : Key} {o : Object}
    (h : ((c.addSlot key).slot n).value = some o) :
    n < c.slots.length ∧ (c.slot n).value = some o := by
  rcases Nat.lt_trichotomy n c.slots.length with hlt | rfl | hgt
  · rw [slot_addSlot_of_lt hlt] at h
    exact ⟨hlt, h⟩
  · rw [slot_addSlot_self] at h
    cases h
  · have hnone : (c.addSlot key).slots[n]? = none := by
      refine List.getElem?_eq_none ?_
      rw [length_slots_addSlot]
      omega
    rw [slot, List.getD_eq_getElem?_getD, hnone] at h
    cases h

lemma value_of_isAwaited (h : c.isAwaited n = true) : (c.slot n).value = none := by
  rw [isAwaited, Bool.and_eq_true, Option.isNone_iff_eq_none] at h
  exact h.1

lemma isAwaited_of_place? {key : Key} (hcall : c.stage? id = some stage)
    (hplace : stage.place? = some (key, n)) (hvalue : (c.slot n).value = none) :
    c.isAwaited n = true := by
  rw [isAwaited, hvalue, Option.isNone_none, Bool.true_and, List.any_eq_true]
  exact ⟨(id, stage), mem_calls_of_stage? hcall, by simp [hplace]⟩

lemma isAwaited_leave (h : (c.leave id).isAwaited n = true) : c.isAwaited n = true := by
  rw [isAwaited, Bool.and_eq_true, List.any_eq_true] at h ⊢
  obtain ⟨hvalue, call, hcall, hplace⟩ := h
  exact ⟨hvalue, call, (mem_leave.mp hcall).1, hplace⟩

/-! ## Closing -/

variable {o o' : Object}

/-- The objects of a cache are those in the slots of its index. -/
lemma mem_objects {key : Key} (hentry : (key, n) ∈ c.index) (hvalue : (c.slot n).value = some o) :
    o ∈ c.objects := by
  have hmem : o ∈ c.index.filterMap fun e => (c.slot e.2).value :=
    List.mem_filterMap.mpr ⟨(key, n), hentry, hvalue⟩
  rw [objects, List.mem_append, List.mem_filter, List.mem_filter]
  cases o with
  | pool m => exact .inl ⟨hmem, rfl⟩
  | connection m => exact .inr ⟨hmem, rfl⟩

lemma isClosed_of_isSpent (h : c.isSpent o = true) : c.isClosed o = true := by
  cases o with
  | connection n => exact h
  | pool n => cases h

lemma isClosed_addPool {m : Member} (h : c.isClosed o = true) :
    { c with pools := c.pools ++ [m] }.isClosed o = true := by
  cases o with
  | connection n => exact h
  | pool n =>
    rw [isClosed] at h ⊢
    have hlt : n < c.pools.length := by
      by_contra hn
      rw [List.getElem?_eq_none (Nat.le_of_not_lt hn)] at h
      cases h
    rwa [List.getElem?_append_left hlt]

/-- Closing an object leaves the slots, the index and the calls. -/
lemma exists_closeObject (c : Cache) (o : Object) : ∃ pools connections,
    c.closeObject o = { c with pools, closedConnections := c.closedConnections ++ connections } ∧
      pools.length = c.pools.length ∧ ∀ n : ℕ, (c.pools[n]?).any (fun m => m.pool.isClosed) = true →
        (pools[n]?).any (fun m => m.pool.isClosed) = true := by
  cases o with
  | connection n => exact ⟨c.pools, [n], rfl, rfl, fun _ => id⟩
  | pool n =>
    have hnothing : c =
        { c with pools := c.pools, closedConnections := c.closedConnections ++ [] } := by
      rw [List.append_nil]
    rw [closeObject]
    split
    · exact ⟨c.pools, [], hnothing, rfl, fun _ => id⟩
    · rename_i m hm
      dsimp only
      split
      · exact ⟨c.pools, [], hnothing, rfl, fun _ => id⟩
      · rename_i hopen
        refine ⟨_, _, rfl, List.length_set, fun n' hclosed => ?_⟩
        by_cases hn : n = n'
        · subst hn
          rw [hm, Option.any_some] at hclosed
          exact absurd hclosed hopen
        · rwa [List.getElem?_set_ne hn]

/-- What is closed stays so. -/
lemma isClosed_closeObject (o : Object) (h : c.isClosed o' = true) :
    (c.closeObject o).isClosed o' = true := by
  obtain ⟨pools, connections, hclose, -, hpools⟩ := exists_closeObject c o
  rw [hclose]
  cases o' with
  | connection n =>
    have hmem : n ∈ c.closedConnections := List.contains_iff_mem.mp h
    exact List.contains_iff_mem.mpr (List.mem_append_left _ hmem)
  | pool n => exact hpools n h

lemma isClosed_shutDown (p : Pool) : p.shutDown.isClosed = true := by
  rw [Pool.shutDown]
  split
  · assumption
  · rfl

/-- An object that is there is closed by being closed. -/
lemma isClosed_closeObject_self (h : ∀ m, o = .pool m → m < c.pools.length) :
    (c.closeObject o).isClosed o = true := by
  cases o with
  | connection n => exact List.contains_iff_mem.mpr (List.mem_append_right _ List.mem_cons_self)
  | pool n =>
    have hlt := h n rfl
    rw [isClosed, closeObject]
    split
    · rename_i hnone
      exact absurd hlt (by simpa using hnone)
    · rename_i m hm
      dsimp only
      split
      · rename_i hclosed
        rw [hm]
        exact hclosed
      · rw [List.getElem?_set_self hlt]
        exact isClosed_shutDown m.pool

/-! ## Histories -/

/-- Whether an event may come next: a call starts under a number of its own. -/
def admits (c : Cache) : Event → Bool
  | .callGet id _ | .callEvict id _ | .callCloseAll id => (c.stage? id).isNone
  | _ => true

/-- A cache after events, if all of them can happen. -/
def after (c : Cache) : List Event → Option Cache
  | [] => some c
  | e :: es => if c.admits e then (c.step e).bind fun next => next.1.after es else none

/-- The object that a call hands out when it ends. -/
def handedOut? : Result → Option Object
  | some (_, .object o) => some o
  | _ => none

/-- The objects that calls hand out during events. -/
def handed (c : Cache) : List Event → List Object
  | [] => []
  | e :: es =>
    ((c.step e).map fun next => (handedOut? next.2).toList ++ next.1.handed es).getD []

/-- The connection that an event opens for a call, with the key of the call. -/
def opens (c : Cache) : Event → List (Key × ℕ)
  | .created id none =>
    match c.stage? id with
    | some (.connecting key _ _) => [(key, c.opened.length)]
    | _ => []
  | _ => []

/-- The connections that events open for calls, with the keys of the calls. -/
def openings (c : Cache) : List Event → List (Key × ℕ)
  | [] => []
  | e :: es => c.opens e ++ ((c.step e).map fun next => next.1.openings es).getD []

/-- The slots that an event takes from the index while calls are at them. -/
def loses (c : Cache) : Event → List ℕ
  | .callEvict _ key => (c.index.filter fun e => e.1 == key && c.isAwaited e.2).map Prod.snd
  | .callCloseAll _ => (c.index.filter fun e => c.isAwaited e.2).map Prod.snd
  | _ => []

/-- The slots that events take from the index while calls are at them. -/
def lost (c : Cache) : List Event → List ℕ
  | [] => []
  | e :: es => c.loses e ++ ((c.step e).map fun next => next.1.lost es).getD []

/-- Whether an event starts a call. -/
def Event.isStart : Event → Bool
  | .callGet .. | .callEvict .. | .callCloseAll _ => true
  | _ => false

/-- Whether an event takes objects from the cache. -/
def Event.isEviction : Event → Bool
  | .callEvict .. | .callCloseAll _ => true
  | _ => false

variable {e : Event} {es : List Event} {next : Cache × Result}

lemma after_cons_of_step (hadmits : c.admits e = true) (hstep : c.step e = some next)
    (es : List Event) : c.after (e :: es) = next.1.after es := by
  rw [after, if_pos hadmits, hstep]
  rfl

/-- A history begins with an event that can happen. -/
lemma after_cons (h : c.after (e :: es) = some c') :
    ∃ next, c.admits e = true ∧ c.step e = some next ∧ next.1.after es = some c' := by
  rw [after] at h
  split at h
  · rename_i hadmits
    obtain ⟨next, hstep, hafter⟩ := Option.bind_eq_some_iff.mp h
    exact ⟨next, hadmits, hstep, hafter⟩
  · cases h

/-- A history may go on where another has ended. -/
lemma after_append (h : c.after es = some c') (rest : List Event) :
    c.after (es ++ rest) = c'.after rest := by
  induction es generalizing c with
  | nil =>
    cases h
    rfl
  | cons e es ih =>
    obtain ⟨next, hadmits, hstep, hafter⟩ := after_cons h
    rw [List.cons_append, after_cons_of_step hadmits hstep, ih hafter]

lemma openings_cons (hstep : c.step e = some next) (es : List Event) :
    c.openings (e :: es) = c.opens e ++ next.1.openings es := by
  rw [openings, hstep]
  rfl

lemma handed_cons (hstep : c.step e = some next) (es : List Event) :
    c.handed (e :: es) = (handedOut? next.2).toList ++ next.1.handed es := by
  rw [handed, hstep]
  rfl

lemma lost_cons (hstep : c.step e = some next) (es : List Event) :
    c.lost (e :: es) = c.loses e ++ next.1.lost es := by
  rw [lost, hstep]
  rfl

lemma loses_of_isEviction (h : e.isEviction = false) : c.loses e = [] := by
  cases e with
  | callEvict id key => cases h
  | callCloseAll id => cases h
  | _ => rfl

end BulkValues.Cache
