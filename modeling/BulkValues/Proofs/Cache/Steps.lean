/-
# Steps of a cache

What a call does in one step is followed through the functions that it is made of: it fills a slot
or gives it up, goes to the slot of its key, or has the object of a slot that it waited for.  Each
leaves a cache that is in order; none takes from the index what is not to be replaced, and none
hands out what is.  Only evictions do more, and the slots that they lose are said by `loses`.
-/
import BulkValues.Proofs.Cache.Tracking

namespace BulkValues.Cache

variable {c c' : Cache} {lost : List ℕ} {doomed : List Object} {id n : ℕ} {key : Key}
  {stage : Stage} {o : Object} {s : Slot} {next : Cache × Result}

/-! ## Filling a slot -/

/-- A call that is left out may fill a slot of a key. -/
structure Ready (lost : List ℕ) (c : Cache) (id : ℕ) (key : Key) (n : ℕ) : Prop where
  tracked : Tracked lost [] (c.leave id)
  placed : Placed lost c key n
  empty : (c.slot n).value = none
  unfilled : Unfilled (c.leave id) n

/-- A cache comes after another: objects stay in their slots and closed ones stay closed, and a slot
leaves the index only if its object must be replaced. -/
structure Grows (c c' : Cache) : Prop where
  value : ∀ n o, (c.slot n).value = some o →
    (c'.slot n).value = some o ∧ (c'.slot n).key = (c.slot n).key
  spent : ∀ o, c.isSpent o = true → c'.isSpent o = true
  index : ∀ key n, (key, n) ∈ c.index →
    (key, n) ∈ c'.index ∨ ∃ o, (c'.slot n).value = some o ∧ c'.isSpent o = true

/-- No call closes objects. -/
def IsCalm (c : Cache) : Prop := ∀ id stage, c.stage? id = some stage → stage.doomed = []

/-- An answer hands out only what lies in a slot and need not be replaced. -/
def IsSound (next : Cache × Result) : Prop := ∀ id o, next.2 = some (id, .object o) →
  next.1.isSpent o = false ∧ ∃ n, (next.1.slot n).value = some o

/-- What a step leaves behind that takes nothing from the cache. -/
structure Outcome (lost : List ℕ) (c : Cache) (next : Cache × Result) : Prop where
  tracked : Tracked lost [] next.1
  grows : Grows c next.1
  answer : IsSound next
  calm : c.IsCalm → next.1.IsCalm

namespace Grows

lemma refl (c : Cache) : Grows c c := ⟨fun _ _ h => ⟨h, rfl⟩, fun _ h => h, fun _ _ => .inl⟩

lemma leave (h : Grows c c') (id : ℕ) : Grows c (c'.leave id) := ⟨h.value, h.spent, h.index⟩

lemma setStage (h : Grows c c') (id : ℕ) (stage : Stage) : Grows c (c'.setStage id stage) :=
  ⟨h.value, h.spent, h.index⟩

lemma trans {c'' : Cache} (h : Grows c c') (h' : Grows c' c'') : Grows c c'' where
  value n o hvalue := by
    obtain ⟨hvalue', hkey⟩ := h.value n o hvalue
    obtain ⟨hvalue'', hkey'⟩ := h'.value n o hvalue'
    exact ⟨hvalue'', hkey'.trans hkey⟩
  spent o ho := h'.spent o (h.spent o ho)
  index key n hentry := by
    rcases h.index key n hentry with hentry | ⟨o, hvalue, ho⟩
    · exact h'.index key n hentry
    · exact .inr ⟨o, (h'.value n o hvalue).1, h'.spent o ho⟩

lemma setSlot (hn : n < c.slots.length) (hs : Follows c n s) : Grows c (c.setSlot n s) where
  value n' _ hvalue := ⟨hs.value_slot hn n' hvalue, hs.key_slot hn n'⟩
  spent _ h := h
  index _ _ := .inl

lemma dropSpent {index : List (Key × ℕ)} (hspent : ∀ key n, (key, n) ∈ c.index →
    (key, n) ∉ index → ∃ o, (c.slot n).value = some o ∧ c.isSpent o = true) :
    Grows c { c with index } where
  value _ _ h := ⟨h, rfl⟩
  spent _ h := h
  index key n hentry := by
    by_cases hstays : (key, n) ∈ index
    · exact .inl hstays
    · exact .inr (hspent key n hentry hstays)

lemma addSlot (c : Cache) (key : Key) : Grows c (c.addSlot key) where
  value n o hvalue := by
    rw [slot_addSlot_of_lt (lt_of_value hvalue)]
    exact ⟨hvalue, rfl⟩
  spent _ h := h
  index _ _ hentry := .inl (List.mem_append_left _ hentry)

end Grows

namespace IsCalm

lemma leave (h : c.IsCalm) (id : ℕ) : (c.leave id).IsCalm :=
  fun id' stage hcall => h id' stage (stage?_leave_eq_some.mp hcall).2

lemma setStage (h : c.IsCalm) (id : ℕ) (hdoomed : stage.doomed = []) :
    (c.setStage id stage).IsCalm := by
  intro id' stage' hcall
  rcases stage?_setStage_eq_some.mp hcall with ⟨-, rfl⟩ | ⟨-, hother⟩
  · exact hdoomed
  · exact h id' stage' hother

lemma of_calls (h : c.IsCalm) (hcalls : c'.calls = c.calls) : c'.IsCalm := by
  intro id stage hcall
  rw [stage?, hcalls] at hcall
  exact h id stage hcall

end IsCalm

lemma Outcome.of_grows (h : Outcome lost c' next) (hgrows : Grows c c')
    (hcalls : c'.calls = c.calls) : Outcome lost c next :=
  ⟨h.tracked, hgrows.trans h.grows, h.answer, fun hcalm => h.calm (hcalm.of_calls hcalls)⟩

namespace Ready

/-- The slot gets another builder or other waiting calls. -/
lemma setSlot (h : Ready lost c id key n) (hs : Follows c n s) (hempty : s.value = none) :
    Ready lost (c.setSlot n s) id key n where
  tracked := by
    refine Tracked.setSlot h.tracked (n := n) ⟨h.placed.lt, h.placed.key_eq, h.placed.empty⟩
      ⟨hs.key, hs.value⟩ (fun m hm => ?_) (.inr h.unfilled)
    rw [hempty] at hm
    cases hm
  placed := h.placed.setSlot h.placed.lt hs
  empty := by rw [slot_setSlot h.placed.lt, hempty]
  unfilled := h.unfilled

/-- The call gives the slot up. -/
lemma giveUp (h : Ready lost c id key n) (e : Error) : Outcome lost c (c.giveUp id n e) := by
  have hs : Follows c n { c.slot n with
      builder := (c.slot n).waiters.head?, waiters := (c.slot n).waiters.tail } :=
    ⟨rfl, fun _ h => h⟩
  refine ⟨(h.setSlot hs h.empty).tracked, (Grows.setSlot h.placed.lt hs).leave id,
    fun id' o hanswer => ?_, fun hcalm => hcalm.leave id⟩
  cases hanswer

/-- The call goes on to fill the slot. -/
lemma setStage (h : Ready lost c id key n) (hbuilder : (c.slot n).builder = some id)
    (hplace : stage.place? = some (key, n)) (hdoomed : stage.doomed = []) :
    Outcome lost c (c.setStage id stage, none) := by
  refine ⟨?_, (Grows.refl c).setStage id stage, fun id' o hanswer => ?_,
    fun hcalm => hcalm.setStage id hdoomed⟩
  · refine Tracked.setStage (hdoomed ▸ h.tracked) (fun key' n' hplace' => ?_)
      (fun _ key' n' hplace' => ?_) fun rest o hstage => ?_
    · rw [hplace] at hplace'
      cases hplace'
      exact h.placed
    · rw [hplace] at hplace'
      cases hplace'
      exact ⟨h.empty, hbuilder⟩
    · rw [hstage] at hplace
      cases hplace
  · cases hanswer

/-- The object of the slot is built. -/
lemma store (h : Ready lost c id key n) (o : Object)
    (hnumbered : ∀ m, o = .pool m → m < c.pools.length) :
    Tracked lost [] ((c.store n o).leave id) ∧ Grows c (c.store n o) ∧
      ((c.store n o).slot n).value = some o ∧ ((c.store n o).slot n).key = key := by
  have hs : Follows c n { c.slot n with value := some o, builder := none } := by
    refine ⟨rfl, fun o' hvalue => ?_⟩
    rw [h.empty] at hvalue
    cases hvalue
  refine ⟨?_, .setSlot h.placed.lt hs, ?_, ?_⟩
  · refine Tracked.setSlot h.tracked (n := n) ⟨h.placed.lt, h.placed.key_eq, h.placed.empty⟩
      ⟨hs.key, hs.value⟩ (fun m hm => hnumbered m ?_) (.inr h.unfilled)
    exact Option.some_inj.mp hm
  · rw [Cache.store, slot_setSlot h.placed.lt]
  · rw [Cache.store, slot_setSlot h.placed.lt]
    exact h.placed.key_eq

/-- A connection is opened for the slot. -/
lemma openNext (h : Ready lost c id key n) (config : ConnectionConfig) :
    Ready lost { c with opened := c.opened ++ [config] } id key n :=
  ⟨h.tracked.frame rfl rfl rfl (Nat.le_refl _) fun _ ho => ho,
    ⟨h.placed.lt, h.placed.key_eq, h.placed.empty⟩, h.empty, h.unfilled⟩

/-- The pool of the slot is built. -/
lemma fillPool (h : Ready lost c id key n) (m : Member) : Outcome lost c (c.fillPool id n m) := by
  have hready : Ready lost { c with pools := c.pools ++ [m] } id key n := by
    refine ⟨?_, ⟨h.placed.lt, h.placed.key_eq, h.placed.empty⟩, h.empty, h.unfilled⟩
    refine h.tracked.frame rfl rfl rfl ?_ fun o ho => isClosed_addPool ho
    change c.pools.length ≤ (c.pools ++ [m]).length
    rw [List.length_append]
    omega
  obtain ⟨htracked, hgrows, hvalue, -⟩ := hready.store (.pool c.pools.length) fun m' hm' => by
    obtain rfl := Object.pool.inj hm'
    rw [List.length_append, List.length_singleton]
    omega
  refine ⟨htracked, ⟨hgrows.value, hgrows.spent, hgrows.index⟩, fun id' o hanswer => ?_,
    fun hcalm => hcalm.leave id⟩
  cases hanswer
  exact ⟨rfl, n, hvalue⟩

/-- The call starts to fill the slot. -/
lemma build (h : Ready lost c id key n) : Outcome lost c (c.build id n key) := by
  have hs : Follows c n { c.slot n with builder := some id } := ⟨rfl, fun _ h => h⟩
  have hready := h.setSlot hs h.empty
  have hbuilder : ((c.setSlot n { c.slot n with builder := some id }).slot n).builder =
      some id := by
    rw [slot_setSlot h.placed.lt]
  refine Outcome.of_grows ?_ (Grows.setSlot h.placed.lt hs) rfl
  rw [Cache.build]
  generalize c.setSlot n { c.slot n with builder := some id } = c₁ at *
  split
  · split
    · exact hready.giveUp _
    · split
      · exact hready.setStage hbuilder rfl rfl
      · exact hready.fillPool _
  · split
    · exact hready.giveUp _
    · exact hready.setStage hbuilder rfl rfl

end Ready

/-! ## Going to the slot of a key -/

/-- The call makes a new slot for its key and fills it. -/
lemma outcome_buildNew (h : Tracked lost [] (c.leave id))
    (hspent : ∀ n, (key, n) ∈ c.index → ∃ o, (c.slot n).value = some o ∧ c.isSpent o = true) :
    Outcome lost c (c.buildNew id key) := by
  have hgone : ∀ key' n, (key', n) ∈ c.index →
      (key', n) ∉ c.index.filter (fun e => !(e.1 == key)) →
        ∃ o, (c.slot n).value = some o ∧ c.isSpent o = true := by
    intro key' n hentry hdropped
    have hkey : key' = key := by
      by_contra hne
      exact hdropped (List.mem_filter.mpr ⟨hentry, by simpa using hne⟩)
    exact hspent n (hkey ▸ hentry)
  have hfresh : ∀ n, (key, n) ∉ c.index.filter fun e => !(e.1 == key) := fun n hentry => by
    simpa using (List.mem_filter.mp hentry).2
  have htracked := (h.dropSpent List.filter_sublist hgone).addSlot hfresh
  have hgrows := (Grows.dropSpent hgone).trans (.addSlot _ key)
  have hself := slot_addSlot_self { c with index := c.index.filter fun e => !(e.1 == key) } key
  refine Outcome.of_grows (Ready.build ⟨htracked, ⟨?_, ?_, fun _ => .inl ?_⟩, ?_, ?_⟩) hgrows rfl
  · rw [length_slots_addSlot]
    exact Nat.lt_succ_self _
  · exact congrArg Slot.key hself
  · exact List.mem_append_right _ List.mem_cons_self
  · exact congrArg Slot.value hself
  · intro id' stage key' hcall _ hplace
    exact Nat.lt_irrefl _ (h.placed id' stage key' _ hcall hplace).lt

lemma Tracked.index_unique (h : Tracked lost doomed c) {n' : ℕ} (hn : (key, n) ∈ c.index)
    (hn' : (key, n') ∈ c.index) : n = n' := by
  have hinj := List.inj_on_of_nodup_map h.unique hn hn' rfl
  exact congrArg Prod.snd hinj

lemma Tracked.slotOf?_eq_some (h : Tracked lost doomed c) (hn : (key, n) ∈ c.index) :
    c.slotOf? key = some n := by
  cases hslot : c.slotOf? key with
  | none => exact absurd hn (notMem_of_slotOf?_eq_none hslot n)
  | some n' => rw [h.index_unique hn (mem_of_slotOf?_eq_some hslot)]

/-- The call ends with the object of a slot, which need not be replaced. -/
lemma outcome_finish (h : Tracked lost [] (c.leave id)) (hvalue : (c.slot n).value = some o)
    (hopen : ¬c.isSpent o = true) : Outcome lost c (c.finish id (.object o)) := by
  refine ⟨h, (Grows.refl c).leave id, fun id' o' hanswer => ?_, fun hcalm => hcalm.leave id⟩
  cases hanswer
  exact ⟨eq_false_of_ne_true hopen, n, hvalue⟩

/-- The call goes to the slot of its key. -/
lemma outcome_approach (h : Tracked lost [] (c.leave id)) (key : Key) :
    Outcome lost c (c.approach id key) := by
  rw [approach]
  split
  · rename_i hnone
    exact outcome_buildNew h fun n hentry => absurd hentry (notMem_of_slotOf?_eq_none hnone n)
  rename_i n hsome
  have hentry := mem_of_slotOf?_eq_some hsome
  obtain ⟨hlt, hkey⟩ : n < c.slots.length ∧ (c.slot n).key = key := h.made key n hentry
  have hplaced : Placed lost c key n := ⟨hlt, hkey, fun _ => .inl hentry⟩
  have hplaced' : Placed lost (c.leave id) key n := ⟨hlt, hkey, fun _ => .inl hentry⟩
  split
  · rename_i o hvalue
    split
    · rename_i hspent
      refine outcome_buildNew h fun n' hentry' => ?_
      obtain rfl := h.index_unique hentry hentry'
      exact ⟨o, hvalue, hspent⟩
    · rename_i hopen
      exact outcome_finish h hvalue hopen
  · rename_i hvalue hbuilder
    refine Ready.build ⟨h, hplaced, hvalue, fun id' stage key' hcall hfills hplace => ?_⟩
    have hbuilder' : (c.slot n).builder = some id' :=
      (h.filling id' stage key' n hcall hfills hplace).2
    rw [hbuilder] at hbuilder'
    cases hbuilder'
  -- The call joins those that wait for the slot.
  · rename_i hvalue hbuilder
    have hs : Follows c n { c.slot n with waiters := (c.slot n).waiters ++ [id] } :=
      ⟨rfl, fun _ h => h⟩
    have htracked := h.setSlot hplaced' ⟨hs.key, hs.value⟩ (h.numbered n) (.inl ⟨rfl, rfl⟩)
    refine ⟨htracked.setStage (fun key' n' hplace => ?_) (fun hfills => ?_) fun rest o hstage => ?_,
      (Grows.setSlot hlt hs).setStage id _, fun id' o hanswer => ?_,
      fun hcalm => hcalm.setStage id rfl⟩
    · cases hplace
      exact hplaced.setSlot hlt hs
    · cases hfills
    · cases hstage
    · cases hanswer

/-- The call has the object of a slot. -/
lemma outcome_take (h : Tracked lost [] (c.leave id)) (hvalue : (c.slot n).value = some o)
    (key : Key) : Outcome lost c (c.take id n key o) := by
  rw [take]
  split
  · rename_i hspent
    have hgone : ∀ key' n', (key', n') ∈ c.index →
        (key', n') ∉ c.index.filter (fun e => !(e.1 == key && e.2 == n)) →
          ∃ o, (c.slot n').value = some o ∧ c.isSpent o = true := by
      intro key' n' hentry hdropped
      have hn : n' = n := by
        by_contra hne
        exact hdropped (List.mem_filter.mpr ⟨hentry, by simp [hne]⟩)
      subst hn
      exact ⟨o, hvalue, hspent⟩
    exact (outcome_approach (h.dropSpent List.filter_sublist hgone) key).of_grows (.dropSpent hgone)
      rfl
  · rename_i hopen
    exact outcome_finish h hvalue hopen

/-! ## Going on -/

lemma Tracked.leave_get (h : Tracked lost [] c) (hcall : c.stage? id = some stage)
    (hdoomed : stage.doomed = []) : Tracked lost [] (c.leave id) := by
  refine h.leave id (List.Subset.refl _) fun stage' hcall' => ?_
  obtain rfl := Option.some_inj.mp (hcall.symm.trans hcall')
  rw [hdoomed]
  exact List.Subset.refl _

lemma Tracked.leave_new (h : Tracked lost [] c) (hnew : (c.stage? id).isNone = true) :
    Tracked lost [] (c.leave id) := by
  refine h.leave id (List.Subset.refl _) fun stage hcall => ?_
  rw [hcall] at hnew
  cases hnew

/-- A call that is the builder of an empty slot may fill it. -/
lemma Tracked.ready (h : Tracked lost [] c) (hcall : c.stage? id = some stage)
    (hplace : stage.place? = some (key, n)) (hdoomed : stage.doomed = [])
    (hempty : (c.slot n).value = none) (hbuilder : (c.slot n).builder = some id) :
    Ready lost c id key n := by
  refine ⟨h.leave_get hcall hdoomed, h.placed id stage key n hcall hplace, hempty,
    fun id' stage' key' hcall' hfills hplace' => ?_⟩
  obtain ⟨hne, hcall'⟩ := stage?_leave_eq_some.mp hcall'
  have hbuilder' := (h.filling id' stage' key' n hcall' hfills hplace').2
  exact hne (Option.some_inj.mp (hbuilder'.symm.trans hbuilder))

/-- A call that waited for a slot goes on. -/
lemma outcome_continueAt (h : Tracked lost [] c) (hcall : c.stage? id = some (.waiting key n))
    (hnext : c.continueAt id n key = some next) : Outcome lost c next := by
  rw [continueAt] at hnext
  split at hnext
  · rename_i o hvalue
    cases hnext
    exact outcome_take (h.leave_get hcall rfl) hvalue key
  · rename_i hvalue
    split at hnext
    · rename_i hbuilder
      cases hnext
      exact (h.ready hcall rfl rfl hvalue hbuilder).build
    · cases hnext

lemma Grows.of_eq (hslots : c'.slots = c.slots) (hindex : c'.index = c.index)
    (hclosed : c.closedConnections ⊆ c'.closedConnections) : Grows c c' where
  value n o hvalue := by
    rw [slot, hslots]
    exact ⟨hvalue, rfl⟩
  spent o ho := by
    cases o with
    | connection n => exact List.contains_iff_mem.mpr (hclosed (List.contains_iff_mem.mp ho))
    | pool n => cases ho
  index key n hentry := .inl (hindex ▸ hentry)

/-- The connection of a slot is opened and comes into it. -/
lemma Ready.connect (h : Ready lost c id key n) (config : ConnectionConfig) {next : Cache × Result}
    (hnext : (Cache.store { c with opened := c.opened ++ [config] } n
      (.connection c.opened.length)).take id n key (.connection c.opened.length) = next) :
    Outcome lost c next ∧ (next.1.slot n).value = some (.connection c.opened.length) ∧
      (next.1.slot n).key = key := by
  subst hnext
  obtain ⟨htracked, hgrows, hvalue, hkey⟩ := (h.openNext config).store
    (.connection c.opened.length) fun m hm => by cases hm
  have houtcome := outcome_take htracked hvalue key
  obtain ⟨hvalue', hkey'⟩ := houtcome.grows.value n _ hvalue
  exact ⟨houtcome.of_grows ⟨hgrows.value, hgrows.spent, hgrows.index⟩ rfl, hvalue',
    hkey'.trans hkey⟩

/-- The opening of a connection has ended. -/
lemma outcome_finishOpening (h : Tracked lost [] c) (hcall : c.stage? id = some stage)
    {failure : Option Error} (hnext : c.finishOpening id failure stage = some next) :
    Outcome lost c next := by
  rw [finishOpening.eq_def] at hnext
  split at hnext
  · rename_i key n config
    obtain ⟨hempty, hbuilder⟩ := h.filling id _ key n hcall rfl rfl
    have hready := h.ready hcall rfl rfl hempty hbuilder
    split at hnext
    · cases hnext
      exact hready.giveUp _
    · cases hnext
      exact (hready.connect config rfl).1
  · rename_i key n config m
    obtain ⟨hempty, hbuilder⟩ := h.filling id _ key n hcall rfl rfl
    have hready := h.ready hcall rfl rfl hempty hbuilder
    split at hnext
    · cases hnext
    · cases hnext
      exact hready.giveUp _
    · have hopened := hready.openNext config
      have hgrows : Grows c { c with opened := c.opened ++ [config] } :=
        .of_eq rfl rfl (List.Subset.refl _)
      dsimp only at hnext
      split at hnext
      · cases hnext
        exact (hopened.fillPool _).of_grows hgrows rfl
      · cases hnext
        exact (hopened.setStage hbuilder rfl rfl).of_grows hgrows rfl
  · cases hnext

/-! ## Closing -/

lemma grows_closeObject (c : Cache) (o : Object) : Grows c (c.closeObject o) := by
  obtain ⟨pools, connections, hclose, -⟩ := exists_closeObject c o
  rw [hclose]
  exact .of_eq rfl rfl (List.subset_append_left _ _)

lemma closeObject_leave (c : Cache) (id : ℕ) (o : Object) :
    (c.leave id).closeObject o = (c.closeObject o).leave id := by
  cases o with
  | connection n => rfl
  | pool n =>
    cases hm : c.pools[n]? with
    | none => simp [closeObject, leave, hm]
    | some m =>
      by_cases hclosed : m.pool.isClosed = true
      · simp [closeObject, leave, hm, hclosed]
      · simp [closeObject, leave, hm, hclosed]

/-- A call closes what is left for it to close. -/
lemma closeAll_spec {objects : List Object} {answer : Answer}
    (h : Tracked lost objects (c.leave id)) (hanswer : ∀ o, answer ≠ .object o) :
    Tracked lost [] (c.closeAll id objects answer).1 ∧ Grows c (c.closeAll id objects answer).1 ∧
      IsSound (c.closeAll id objects answer) := by
  rw [closeAll.eq_def]
  split
  · refine ⟨h, (Grows.refl c).leave id, fun id' o hsaid => ?_⟩
    cases hsaid
    exact absurd rfl (hanswer o)
  · refine ⟨Tracked.setStage h (fun key n hplace => ?_) (fun hfills => ?_) fun rest o hstage => ?_,
      (Grows.refl c).setStage id _, fun id' o hsaid => ?_⟩
    · cases hplace
    · cases hfills
    · cases hstage
      exact hanswer o rfl
    · cases hsaid

/-! ## Steps -/

/-- What a step does that takes nothing from the cache. -/
lemma outcome_step {e : Event} (h : Tracked lost [] c) (hadmits : c.admits e = true)
    (heviction : e.isEviction = false) (hstep : c.step e = some next) : Outcome lost c next := by
  cases e with
  | callGet id key =>
    cases hstep
    exact outcome_approach (h.leave_new hadmits) key
  | callEvict id key => cases heviction
  | callCloseAll id => cases heviction
  | resume id =>
    simp only [step] at hstep
    split at hstep
    · rename_i hcall
      exact outcome_continueAt h hcall hstep
    · cases hstep
  | created id failure =>
    obtain ⟨stage, hcall, hnext⟩ := Option.bind_eq_some_iff.mp hstep
    exact outcome_finishOpening h hcall hnext
  | closedNext id =>
    simp only [step] at hstep
    split at hstep
    · rename_i o rest answer hcall
      cases hstep
      have hleave : Tracked lost (o :: rest) (c.leave id) := by
        refine h.leave id (List.nil_subset _) fun stage hcall' => ?_
        obtain rfl := Option.some_inj.mp (hcall.symm.trans hcall')
        exact List.Subset.refl _
      have hclosed := hleave.closeObject
      rw [closeObject_leave] at hclosed
      have hsaid : ∀ o', answer ≠ .object o' := fun o' heq => h.said id _ o' (heq ▸ hcall)
      obtain ⟨htracked, hgrows, hanswer⟩ := closeAll_spec hclosed hsaid
      refine ⟨htracked, (grows_closeObject c o).trans hgrows, hanswer, fun hcalm => ?_⟩
      cases hcalm id _ hcall
    · cases hstep
  | close o =>
    cases hstep
    obtain ⟨pools, connections, hclose, -⟩ := exists_closeObject c o
    refine ⟨h.closeNow o, grows_closeObject c o, fun id o' hanswer => ?_, fun hcalm => ?_⟩
    · cases hanswer
    · exact hcalm.of_calls (by rw [hclose])

/-- What a step does that takes objects from the cache. -/
lemma exists_evicted {e : Event} (h : Tracked lost [] c) (hadmits : c.admits e = true)
    (heviction : e.isEviction = true) (hstep : c.step e = some next) :
    Tracked (lost ++ c.loses e) [] next.1 ∧ (∃ index, Grows { c with index } next.1) ∧
      IsSound next := by
  cases e with
  | callEvict id key =>
    cases hstep
    have hkey : ∀ key' n, (key', n) ∈ c.index →
        (key', n) ∉ c.index.filter (fun e => !(e.1 == key)) → key' = key := by
      intro key' n hentry hgone
      by_contra hne
      exact hgone (List.mem_filter.mpr ⟨hentry, by simpa using hne⟩)
    refine (closeAll_spec ?_ fun o heq => by cases heq).imp_right fun h => ⟨⟨_, h.1⟩, h.2⟩
    refine (h.leave_new hadmits).reindex List.filter_sublist (List.subset_append_left _ _)
      (List.nil_subset _) (fun key' n o hentry hgone hvalue => .inr ?_)
      fun key' n hentry hgone hawaited => List.mem_append_right _ ?_
    · obtain rfl := hkey key' n hentry hgone
      have hvalue' : (c.slot n).value = some o := hvalue
      rw [h.slotOf?_eq_some hentry, Option.bind_some, hvalue']
      exact List.mem_singleton_self o
    · obtain rfl := hkey key' n hentry hgone
      exact List.mem_map.mpr ⟨(key', n),
        List.mem_filter.mpr ⟨hentry, by simp [isAwaited_leave hawaited]⟩, rfl⟩
  | callCloseAll id =>
    cases hstep
    refine (closeAll_spec ?_ fun o heq => by cases heq).imp_right fun h => ⟨⟨_, h.1⟩, h.2⟩
    refine (h.leave_new hadmits).reindex (List.nil_sublist _) (List.subset_append_left _ _)
      (List.nil_subset _) (fun key n o hentry _ hvalue => .inr (mem_objects hentry hvalue))
      fun key n hentry _ hawaited => List.mem_append_right _ ?_
    exact List.mem_map.mpr ⟨(key, n), List.mem_filter.mpr ⟨hentry, isAwaited_leave hawaited⟩, rfl⟩
  | _ => cases heviction

/-- No step hands out what must be replaced. -/
lemma isSound_step {e : Event} (h : Tracked lost [] c) (hadmits : c.admits e = true)
    (hstep : c.step e = some next) : IsSound next := by
  rcases heviction : e.isEviction with _ | _
  · exact (outcome_step h hadmits heviction hstep).answer
  · exact (exists_evicted h hadmits heviction hstep).2.2

/-- Every step leaves the cache in order, but for the slots that it loses. -/
lemma tracked_step {e : Event} (h : Tracked lost [] c) (hadmits : c.admits e = true)
    (hstep : c.step e = some next) : Tracked (lost ++ c.loses e) [] next.1 := by
  rcases heviction : e.isEviction with _ | _
  · rw [loses_of_isEviction heviction, List.append_nil]
    exact (outcome_step h hadmits heviction hstep).tracked
  · exact (exists_evicted h hadmits heviction hstep).1

lemma tracked_empty (node : Node) (registry : Registry) :
    Tracked [] [] ({ node, registry } : Cache) := by
  refine ⟨List.nodup_nil, ?_, ?_, ?_, ?_, ?_, ?_⟩
  · simp
  · simp [stage?]
  · simp [stage?]
  · simp [stage?]
  · simp [slot]
  · simp [slot]

lemma tracked_after {events : List Event} (h : Tracked lost [] c)
    (hafter : c.after events = some c') : Tracked (lost ++ c.lost events) [] c' := by
  induction events generalizing c lost with
  | nil =>
    cases hafter
    rwa [Cache.lost, List.append_nil]
  | cons e events ih =>
    obtain ⟨next, hadmits, hstep, hrest⟩ := after_cons hafter
    have htracked := ih (tracked_step h hadmits hstep) hrest
    rwa [lost_cons hstep, ← List.append_assoc]

end BulkValues.Cache
