/-
# Where the objects of a cache are

An object that a cache has built lies in the slot of its key in the index, or it is closed, or a
call under way is about to close it.  Only objects that were built in slots that had left the index
by then are nowhere; the slots that left it while calls were at them are counted as lost.

A step is taken apart into changes of a slot, of the index and of a call.  The call that an event is
about is left out while its step is under way: what it was doing says nothing any more about the
slots, and what it does next is said when it is put back.
-/
import BulkValues.Proofs.Cache.History
import Mathlib.Data.List.Nodup

namespace BulkValues.Cache

/-- A slot of a key, which is the one in the index, or lost, as long as it is empty. -/
structure Placed (lost : List ℕ) (c : Cache) (key : Key) (n : ℕ) : Prop where
  lt : n < c.slots.length
  key_eq : (c.slot n).key = key
  empty : (c.slot n).value = none → (key, n) ∈ c.index ∨ n ∈ lost

/-- Where an object is that lies in a slot. -/
inductive Kept (lost : List ℕ) (doomed : List Object) (c : Cache) (n : ℕ) (o : Object) : Prop where
  | closed (h : c.isClosed o = true)
  | indexed (h : ((c.slot n).key, n) ∈ c.index)
  /-- A call under way will close it. -/
  | leaving (id : ℕ) (stage : Stage) (hcall : c.stage? id = some stage) (h : o ∈ stage.doomed)
  /-- The event that is under way will close it. -/
  | doomed (h : o ∈ doomed)
  | lost (h : n ∈ lost)

/-- The objects of a cache are closed, in the index, about to be closed, or in lost slots; and the
calls agree with the slots they are at.  Some objects are about to be closed by the event that is
under way. -/
structure Tracked (lost : List ℕ) (doomed : List Object) (c : Cache) : Prop where
  /-- Every key has one slot in the index. -/
  unique : (c.index.map Prod.fst).Nodup
  made : ∀ key n, (key, n) ∈ c.index → n < c.slots.length ∧ (c.slot n).key = key
  placed : ∀ id stage key n, c.stage? id = some stage → stage.place? = some (key, n) →
    Placed lost c key n
  /-- A slot is filled by one call at a time. -/
  filling : ∀ id stage key n, c.stage? id = some stage → stage.isFilling = true →
    stage.place? = some (key, n) → (c.slot n).value = none ∧ (c.slot n).builder = some id
  /-- A call that closes objects does not hand one out. -/
  said : ∀ id rest o, c.stage? id ≠ some (.closing rest (.object o))
  numbered : ∀ n m, (c.slot n).value = some (.pool m) → m < c.pools.length
  kept : ∀ n o, (c.slot n).value = some o → Kept lost doomed c n o

/-- No call fills a slot. -/
def Unfilled (c : Cache) (n : ℕ) : Prop :=
  ∀ id stage key, c.stage? id = some stage → stage.isFilling = true → stage.place? ≠ some (key, n)

variable {c c' : Cache} {lost lost' : List ℕ} {doomed doomed' : List Object} {id n : ℕ} {key : Key}
  {stage : Stage} {o : Object} {s : Slot}

/-- An object is where it was if what is closed, in the index or to be closed by calls stays so. -/
lemma Kept.mono (h : Kept lost doomed c n o) (hclosed : c.isClosed o = true → c'.isClosed o = true)
    (hindex : ((c.slot n).key, n) ∈ c.index → ((c'.slot n).key, n) ∈ c'.index)
    (hcalls : ∀ id stage, c.stage? id = some stage → c'.stage? id = some stage) :
    Kept lost doomed c' n o := by
  cases h with
  | closed h => exact .closed (hclosed h)
  | indexed h => exact .indexed (hindex h)
  | leaving id stage hcall h => exact .leaving id stage (hcalls id stage hcall) h
  | doomed h => exact .doomed h
  | lost h => exact .lost h

/-- A slot may come after another: it has the same key, and an object that is in it stays. -/
structure Follows (c : Cache) (n : ℕ) (s : Slot) : Prop where
  key : s.key = (c.slot n).key
  value : ∀ o, (c.slot n).value = some o → s.value = some o

lemma Follows.key_slot (h : Follows c n s) (hn : n < c.slots.length) (n' : ℕ) :
    ((c.setSlot n s).slot n').key = (c.slot n').key := by
  by_cases hn' : n' = n
  · subst hn'
    rw [slot_setSlot hn, h.key]
  · rw [slot_setSlot_of_ne hn']

lemma Follows.value_slot (h : Follows c n s) (hn : n < c.slots.length) (n' : ℕ)
    (hvalue : (c.slot n').value = some o) : ((c.setSlot n s).slot n').value = some o := by
  by_cases hn' : n' = n
  · subst hn'
    rw [slot_setSlot hn, h.value o hvalue]
  · rwa [slot_setSlot_of_ne hn']

lemma Placed.setSlot {key' : Key} {n' : ℕ} (h : Placed lost c key' n') (hn : n < c.slots.length)
    (hs : Follows c n s) : Placed lost (c.setSlot n s) key' n' where
  lt := by rw [length_setSlot]; exact h.lt
  key_eq := (hs.key_slot hn n').trans h.key_eq
  empty hempty := by
    cases hold : (c.slot n').value with
    | none => exact h.empty hold
    | some o =>
      rw [hs.value_slot hn n' hold] at hempty
      cases hempty

namespace Tracked

/-! ## Changes -/

/-- A call is left out. -/
lemma leave (h : Tracked lost doomed c) (id : ℕ) (hdoomed : doomed ⊆ doomed')
    (hstage : ∀ stage, c.stage? id = some stage → stage.doomed ⊆ doomed') :
    Tracked lost doomed' (c.leave id) where
  unique := h.unique
  made := h.made
  placed id' stage key n hcall hplace := by
    obtain ⟨-, hcall⟩ := stage?_leave_eq_some.mp hcall
    obtain ⟨hlt, hkey, hempty⟩ := h.placed id' stage key n hcall hplace
    exact ⟨hlt, hkey, hempty⟩
  filling id' stage key n hcall hfills hplace := by
    obtain ⟨-, hcall⟩ := stage?_leave_eq_some.mp hcall
    exact h.filling id' stage key n hcall hfills hplace
  said id' rest o hcall := h.said id' rest o (stage?_leave_eq_some.mp hcall).2
  numbered := h.numbered
  kept n o hvalue := by
    rcases h.kept n o hvalue with hclosed | hindex | ⟨id', stage, hcall, ho⟩ | ho | hlost
    · exact .closed hclosed
    · exact .indexed hindex
    · by_cases hid : id' = id
      · subst hid
        exact .doomed (hstage stage hcall ho)
      · exact .leaving id' stage (stage?_leave_eq_some.mpr ⟨hid, hcall⟩) ho
    · exact .doomed (hdoomed ho)
    · exact .lost hlost

/-- A call that was left out is put at a stage. -/
lemma setStage (h : Tracked lost stage.doomed (c.leave id))
    (hplaced : ∀ key n, stage.place? = some (key, n) → Placed lost c key n)
    (hfilling : stage.isFilling = true → ∀ key n, stage.place? = some (key, n) →
      (c.slot n).value = none ∧ (c.slot n).builder = some id)
    (hsaid : ∀ rest o, stage ≠ .closing rest (.object o)) :
    Tracked lost [] (c.setStage id stage) where
  unique := h.unique
  made := h.made
  placed id' stage' key n hcall hplace := by
    rcases stage?_setStage_eq_some.mp hcall with ⟨-, rfl⟩ | hother
    · obtain ⟨hlt, hkey, hempty⟩ := hplaced key n hplace
      exact ⟨hlt, hkey, hempty⟩
    · obtain ⟨hlt, hkey, hempty⟩ :=
        h.placed id' stage' key n (stage?_leave_eq_some.mpr hother) hplace
      exact ⟨hlt, hkey, hempty⟩
  filling id' stage' key n hcall hfills hplace := by
    rcases stage?_setStage_eq_some.mp hcall with ⟨rfl, rfl⟩ | hother
    · exact hfilling hfills key n hplace
    · exact h.filling id' stage' key n (stage?_leave_eq_some.mpr hother) hfills hplace
  said id' rest o hcall := by
    rcases stage?_setStage_eq_some.mp hcall with ⟨-, hstage⟩ | hother
    · exact hsaid rest o hstage
    · exact h.said id' rest o (stage?_leave_eq_some.mpr hother)
  numbered := h.numbered
  kept n o hvalue := by
    rcases h.kept n o hvalue with hclosed | hindex | ⟨id', stage', hcall, ho⟩ | ho | hlost
    · exact .closed hclosed
    · exact .indexed hindex
    · exact .leaving id' stage'
        (stage?_setStage_eq_some.mpr (.inr (stage?_leave_eq_some.mp hcall))) ho
    · exact .leaving id stage (stage?_setStage_self c id stage) ho
    · exact .lost hlost

/-- A slot changes: an object that is in it stays, and its builder changes only if no call fills
it. -/
lemma setSlot (h : Tracked lost doomed c) (hplaced : Placed lost c key n) (hs : Follows c n s)
    (hnumbered : ∀ m, s.value = some (.pool m) → m < c.pools.length)
    (hfilling : s.value = (c.slot n).value ∧ s.builder = (c.slot n).builder ∨ Unfilled c n) :
    Tracked lost doomed (c.setSlot n s) where
  unique := h.unique
  made key' n' hindex := by
    obtain ⟨hlt, hkey⟩ := h.made key' n' hindex
    exact ⟨by rwa [length_setSlot], by rwa [hs.key_slot hplaced.lt]⟩
  placed id' stage key' n' hcall hplace :=
    (h.placed id' stage key' n' hcall hplace).setSlot hplaced.lt hs
  filling id' stage key' n' hcall hfills hplace := by
    obtain ⟨hempty, hbuilder⟩ := h.filling id' stage key' n' hcall hfills hplace
    by_cases hn : n' = n
    · subst hn
      rw [slot_setSlot hplaced.lt]
      rcases hfilling with ⟨hvalue, hsame⟩ | hunfilled
      · exact ⟨hvalue.trans hempty, hsame.trans hbuilder⟩
      · exact absurd hplace (hunfilled id' stage key' hcall hfills)
    · rw [slot_setSlot_of_ne hn]
      exact ⟨hempty, hbuilder⟩
  said := h.said
  numbered n' m hvalue := by
    by_cases hn : n' = n
    · subst hn
      rw [slot_setSlot hplaced.lt] at hvalue
      exact hnumbered m hvalue
    · rw [slot_setSlot_of_ne hn] at hvalue
      exact h.numbered n' m hvalue
  kept n' o hvalue := by
    have hkept : Kept lost doomed c n' o := by
      by_cases hn : n' = n
      · subst hn
        rw [slot_setSlot hplaced.lt] at hvalue
        cases hold : (c.slot n').value with
        | none =>
          rcases hplaced.empty hold with hindex | hlost
          · exact .indexed (hplaced.key_eq ▸ hindex)
          · exact .lost hlost
        | some o' =>
          have heq : some o' = some o := (hs.value o' hold).symm.trans hvalue
          exact h.kept n' o (hold.trans heq)
      · rw [slot_setSlot_of_ne hn] at hvalue
        exact h.kept n' o hvalue
    refine hkept.mono (fun h => h) (fun hentry => ?_) fun id' stage hcall => hcall
    rwa [hs.key_slot hplaced.lt]

/-- Slots leave the index: what is in them is closed or about to be, and no call is at them while
they are empty, or they are lost. -/
lemma reindex (h : Tracked lost doomed c) {index : List (Key × ℕ)} (hindex : index.Sublist c.index)
    (hlost : lost ⊆ lost') (hdoomed : doomed ⊆ doomed')
    (hfull : ∀ key n o, (key, n) ∈ c.index → (key, n) ∉ index → (c.slot n).value = some o →
      c.isClosed o = true ∨ o ∈ doomed')
    (hempty : ∀ key n, (key, n) ∈ c.index → (key, n) ∉ index → c.isAwaited n = true → n ∈ lost') :
    Tracked lost' doomed' { c with index } where
  unique := h.unique.sublist (hindex.map Prod.fst)
  made key n hentry := h.made key n (hindex.subset hentry)
  placed id stage key n hcall hplace := by
    obtain ⟨hlt, hkey, hplaced⟩ := h.placed id stage key n hcall hplace
    refine ⟨hlt, hkey, fun hvalue => ?_⟩
    rcases hplaced hvalue with hentry | hn
    · by_cases hstays : (key, n) ∈ index
      · exact .inl hstays
      · exact .inr (hempty key n hentry hstays (isAwaited_of_place? hcall hplace hvalue))
    · exact .inr (hlost hn)
  filling := h.filling
  said := h.said
  numbered := h.numbered
  kept n o hvalue := by
    rcases h.kept n o hvalue with hclosed | hentry | ⟨id, stage, hcall, ho⟩ | ho | hn
    · exact .closed hclosed
    · by_cases hstays : ((c.slot n).key, n) ∈ index
      · exact .indexed hstays
      · rcases hfull _ n o hentry hstays hvalue with hclosed | ho
        · exact .closed hclosed
        · exact .doomed ho
    · exact .leaving id stage hcall ho
    · exact .doomed (hdoomed ho)
    · exact .lost (hlost hn)

/-- Slots leave the index whose objects must be replaced. -/
lemma dropSpent (h : Tracked lost doomed c) {index : List (Key × ℕ)}
    (hindex : index.Sublist c.index) (hspent : ∀ key n, (key, n) ∈ c.index → (key, n) ∉ index →
      ∃ o, (c.slot n).value = some o ∧ c.isSpent o = true) :
    Tracked lost doomed { c with index } := by
  refine h.reindex hindex (List.Subset.refl _) (List.Subset.refl _) ?_ ?_
  · intro key n o hentry hgone hvalue
    obtain ⟨o', hvalue', ho'⟩ := hspent key n hentry hgone
    obtain rfl := Option.some_inj.mp (hvalue.symm.trans hvalue')
    exact .inl (isClosed_of_isSpent ho')
  · intro key n hentry hgone hawaited
    obtain ⟨o, hvalue, -⟩ := hspent key n hentry hgone
    rw [value_of_isAwaited hawaited] at hvalue
    cases hvalue

/-- A key without a slot gets one. -/
lemma addSlot (h : Tracked lost doomed c) (hkey : ∀ n, (key, n) ∉ c.index) :
    Tracked lost doomed (c.addSlot key) where
  unique := by
    rw [Cache.addSlot, List.map_append, List.map_singleton, List.nodup_append]
    refine ⟨h.unique, List.nodup_singleton _, ?_⟩
    rintro key' hkey' _ hsingle rfl
    obtain rfl := List.mem_singleton.mp hsingle
    obtain ⟨⟨key, n⟩, hentry, rfl⟩ := List.mem_map.mp hkey'
    exact hkey n hentry
  made key' n hentry := by
    rw [length_slots_addSlot]
    rcases List.mem_append.mp hentry with hentry | hentry
    · obtain ⟨hlt, hmade⟩ := h.made key' n hentry
      rw [slot_addSlot_of_lt hlt]
      exact ⟨by omega, hmade⟩
    · obtain ⟨rfl, rfl⟩ := Prod.mk.inj (List.mem_singleton.mp hentry)
      rw [slot_addSlot_self]
      exact ⟨by omega, rfl⟩
  placed id stage key' n hcall hplace := by
    obtain ⟨hlt, hkey', hempty⟩ := h.placed id stage key' n hcall hplace
    refine ⟨?_, ?_, ?_⟩
    · rw [length_slots_addSlot]
      omega
    · rwa [slot_addSlot_of_lt hlt]
    · intro hvalue
      rw [slot_addSlot_of_lt hlt] at hvalue
      rcases hempty hvalue with hentry | hn
      · exact .inl (List.mem_append_left _ hentry)
      · exact .inr hn
  filling id stage key' n hcall hfills hplace := by
    have hlt := (h.placed id stage key' n hcall hplace).lt
    rw [slot_addSlot_of_lt hlt]
    exact h.filling id stage key' n hcall hfills hplace
  said := h.said
  numbered n m hvalue := by
    obtain ⟨hlt, hold⟩ := lt_of_value_addSlot hvalue
    exact h.numbered n m hold
  kept n o hvalue := by
    obtain ⟨hlt, hold⟩ := lt_of_value_addSlot hvalue
    refine (h.kept n o hold).mono (fun h => h) (fun hentry => ?_) fun id stage hcall => hcall
    rw [slot_addSlot_of_lt hlt]
    exact List.mem_append_left _ hentry

/-- More connections and pools are there, and more objects are closed. -/
lemma frame (h : Tracked lost doomed c) (hslots : c'.slots = c.slots) (hindex : c'.index = c.index)
    (hcalls : c'.calls = c.calls) (hpools : c.pools.length ≤ c'.pools.length)
    (hclosed : ∀ o, c.isClosed o = true → c'.isClosed o = true) : Tracked lost doomed c' := by
  have hslot : ∀ n, c'.slot n = c.slot n := fun n => by rw [slot, slot, hslots]
  have hstage : ∀ id, c'.stage? id = c.stage? id := fun id => by rw [stage?, stage?, hcalls]
  refine ⟨by rw [hindex]; exact h.unique, ?_, ?_, ?_, ?_, ?_, ?_⟩
  · intro key n hentry
    rw [hslot, hslots]
    exact h.made key n (hindex ▸ hentry)
  · intro id stage key n hcall hplace
    obtain ⟨hlt, hkey, hempty⟩ := h.placed id stage key n (hstage id ▸ hcall) hplace
    exact ⟨hslots ▸ hlt, by rw [hslot, hkey], by rw [hslot, hindex]; exact hempty⟩
  · intro id stage key n hcall hfills hplace
    rw [hslot]
    exact h.filling id stage key n (hstage id ▸ hcall) hfills hplace
  · intro id rest o
    rw [hstage]
    exact h.said id rest o
  · intro n m hvalue
    have hlt := h.numbered n m (hslot n ▸ hvalue)
    omega
  · intro n o hvalue
    have hkept := h.kept n o (hslot n ▸ hvalue)
    refine hkept.mono (hclosed o) (fun hentry => ?_) fun id stage hcall => ?_
    · rwa [hslot, hindex]
    · rwa [hstage]

/-- Any object may be closed. -/
lemma closeNow (h : Tracked lost doomed c) (o : Object) :
    Tracked lost doomed (c.closeObject o) := by
  obtain ⟨pools, connections, hclose, hpools, -⟩ := exists_closeObject c o
  exact h.frame (by rw [hclose]) (by rw [hclose]) (by rw [hclose])
    (by rw [hclose]; exact Nat.le_of_eq hpools.symm) fun _ => isClosed_closeObject o

/-- An object that is about to be closed is closed. -/
lemma closeObject (h : Tracked lost (o :: doomed) c) : Tracked lost doomed (c.closeObject o) := by
  have hframe := h.closeNow o
  refine { hframe with kept := ?_ }
  intro n o' hvalue
  rcases hframe.kept n o' hvalue with hclosed | hentry | ⟨id, stage, hcall, ho⟩ | ho | hn
  · exact .closed hclosed
  · exact .indexed hentry
  · exact .leaving id stage hcall ho
  · rcases List.mem_cons.mp ho with rfl | ho
    · obtain ⟨pools, connections, hclose, hpools, -⟩ := exists_closeObject c o'
      refine .closed (isClosed_closeObject_self fun m hm => ?_)
      subst hm
      have hlt := hframe.numbered n m hvalue
      rwa [hclose, hpools] at hlt
    · exact .doomed ho
  · exact .lost hn

end Tracked

end BulkValues.Cache
