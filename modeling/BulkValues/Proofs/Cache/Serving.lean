/-
# What calls are handed

What comes into a slot is built for it then: it is of the kind that the key of the slot asks for,
and it lies in no other slot.  A call hands out what lies in a slot of its key.  A call for a pool
stays with the slot that it found when it began, and so it hands out what lay in that slot already,
or what was built since.  This is followed through the functions that a call is made of.
-/
import BulkValues.Proofs.Cache.Steps
import BulkValues.Proofs.Pool.Closing

namespace BulkValues.Cache

/-! ## What is built -/

/-- The section that an object is built from. -/
def Object.kind : Object → SectionKind
  | .pool _ => .connectionPool
  | .connection _ => .connection

/-- An object was built. -/
def HasMade (c : Cache) : Object → Prop
  | .pool m => m < c.pools.length
  | .connection m => m < c.opened.length

/-- What a call builds is what its key asks for, and it is not closed before it is built. -/
def Stage.Fits : Stage → Prop
  | .opening key _ _ m => key.kind = .connectionPool ∧ m.pool.isClosed = false
  | .connecting key _ _ => key.kind = .connection
  | .waiting .. | .closing .. => True

/-- A cache comes after another: what has come into a slot since is new, of the kind that the key
of the slot asks for, and in no other slot. -/
structure Later (c c' : Cache) : Prop where
  made : ∀ o, c.HasMade o → c'.HasMade o
  closed : ∀ o, c.isClosed o = true → c'.isClosed o = true
  slots : c.slots.length ≤ c'.slots.length
  key : ∀ n < c.slots.length, (c'.slot n).key = (c.slot n).key
  keeps : ∀ n o, (c.slot n).value = some o → (c'.slot n).value = some o
  value : ∀ n o, (c'.slot n).value = some o → (c.slot n).value = some o ∨
    ¬c.HasMade o ∧ c'.HasMade o ∧ o.kind = (c'.slot n).key.kind
  single : ∀ n n' o, (c'.slot n).value = some o → (c'.slot n').value = some o →
    n = n' ∨ (c.slot n).value = some o ∧ (c.slot n').value = some o

/-- The objects in the slots of a cache were built for them, and calls build what they should. -/
structure Stocked (c : Cache) : Prop where
  made : ∀ n o, (c.slot n).value = some o → c.HasMade o
  kind : ∀ n o, (c.slot n).value = some o → o.kind = (c.slot n).key.kind
  single : ∀ n n' o, (c.slot n).value = some o → (c.slot n').value = some o → n = n'
  fits : ∀ id stage, c.stage? id = some stage → stage.Fits

variable {c c' c₁ : Cache} {lost : List ℕ} {id n n₀ : ℕ} {key : Key} {stage : Stage} {o : Object}
  {s : Slot} {next : Cache × Result} {e : Event}

/-- A pool that is added is open, and nothing else changes. -/
lemma isClosed_pool_addPool {m : Member} (hopen : m.pool.isClosed = false) (n : ℕ) :
    { c with pools := c.pools ++ [m] }.isClosed (.pool n) = c.isClosed (.pool n) := by
  rw [isClosed, isClosed, List.getElem?_append]
  split
  · rfl
  · rename_i hle
    rw [List.getElem?_eq_none (Nat.le_of_not_lt hle)]
    cases n - c.pools.length with
    | zero => simp [hopen]
    | succ i => simp

lemma slot_store (hn : n < c.slots.length) (o : Object) :
    (c.store n o).slot n = { c.slot n with value := some o, builder := none } := slot_setSlot hn

namespace Later

lemma refl (c : Cache) : Later c c where
  made _ h := h
  closed _ h := h
  slots := le_rfl
  key _ _ := rfl
  keeps _ _ h := h
  value _ _ h := .inl h
  single _ _ _ h h' := .inr ⟨h, h'⟩

lemma trans {c'' : Cache} (h : Later c c') (h' : Later c' c'') : Later c c'' where
  made o ho := h'.made o (h.made o ho)
  closed o ho := h'.closed o (h.closed o ho)
  slots := h.slots.trans h'.slots
  key n hn := (h'.key n (hn.trans_le h.slots)).trans (h.key n hn)
  keeps n o hvalue := h'.keeps n o (h.keeps n o hvalue)
  value n o hvalue := by
    rcases h'.value n o hvalue with hvalue | ⟨hnew, hmade, hkind⟩
    · refine (h.value n o hvalue).imp_right fun ⟨hnew, hmade, hkind⟩ => ⟨hnew, h'.made o hmade, ?_⟩
      rwa [h'.key n (lt_of_value hvalue)]
    · exact .inr ⟨fun hmade => hnew (h.made o hmade), hmade, hkind⟩
  single n n' o hvalue hvalue' := by
    rcases h'.single n n' o hvalue hvalue' with heq | ⟨hvalue, hvalue'⟩
    · exact .inl heq
    · exact h.single n n' o hvalue hvalue'

/-- The slots are the same. -/
lemma of_slots (hslots : c'.slots = c.slots) (hmade : ∀ o, c.HasMade o → c'.HasMade o)
    (hclosed : ∀ o, c.isClosed o = true → c'.isClosed o = true) : Later c c' := by
  have hslot : ∀ n, c'.slot n = c.slot n := fun n => by rw [slot, slot, hslots]
  refine ⟨hmade, hclosed, hslots ▸ le_rfl, fun n _ => by rw [hslot], fun n o h => by rwa [hslot],
    fun n o h => .inl (by rwa [hslot] at h), fun n n' o h h' => .inr ?_⟩
  rw [hslot] at h h'
  exact ⟨h, h'⟩

/-- A slot has other calls at it. -/
lemma setSlot (hn : n < c.slots.length) (hkey : s.key = (c.slot n).key)
    (hvalue : s.value = (c.slot n).value) : Later c (c.setSlot n s) := by
  have hslot : ∀ n', ((c.setSlot n s).slot n').key = (c.slot n').key ∧
      ((c.setSlot n s).slot n').value = (c.slot n').value := by
    intro n'
    by_cases hn' : n' = n
    · subst hn'
      rw [slot_setSlot hn]
      exact ⟨hkey, hvalue⟩
    · rw [slot_setSlot_of_ne hn']
      exact ⟨rfl, rfl⟩
  refine ⟨fun o h => by cases o <;> exact h, fun o h => by cases o <;> exact h, ?_,
    fun n' _ => (hslot n').1, fun n' o h => (hslot n').2.trans h,
    fun n' o h => .inl ((hslot n').2.symm.trans h),
    fun n' n'' o h h' => .inr ⟨(hslot n').2.symm.trans h, (hslot n'').2.symm.trans h'⟩⟩
  rw [length_setSlot]

lemma addSlot (c : Cache) (key : Key) : Later c (c.addSlot key) where
  made o h := by cases o <;> exact h
  closed o h := by cases o <;> exact h
  slots := by rw [length_slots_addSlot]; exact Nat.le_succ _
  key n hn := by rw [slot_addSlot_of_lt hn]
  keeps n o h := by rwa [slot_addSlot_of_lt (lt_of_value h)]
  value n o h := .inl (lt_of_value_addSlot h).2
  single n n' o h h' := .inr ⟨(lt_of_value_addSlot h).2, (lt_of_value_addSlot h').2⟩

/-- A new object comes into an empty slot. -/
lemma store (h : Stocked c) (hn : n < c.slots.length) (hempty : (c.slot n).value = none)
    (hslots : c₁.slots = c.slots) (hmade : ∀ o, c.HasMade o → c₁.HasMade o)
    (hclosed : ∀ o, c.isClosed o = true → c₁.isClosed o = true) (hnew : ¬c.HasMade o)
    (ho : c₁.HasMade o) (hkind : o.kind = (c.slot n).key.kind) : Later c (c₁.store n o) := by
  have hslot : ∀ n, c₁.slot n = c.slot n := fun n => by rw [slot, slot, hslots]
  have hself : (c₁.store n o).slot n = { c.slot n with value := some o, builder := none } := by
    rw [slot_store (by rwa [hslots]), hslot]
  have hother : ∀ n', n' ≠ n → (c₁.store n o).slot n' = c.slot n' := fun n' hn' => by
    rw [Cache.store, slot_setSlot_of_ne hn', hslot]
  have hvalue : ∀ n' o', ((c₁.store n o).slot n').value = some o' →
      n' = n ∧ o' = o ∨ n' ≠ n ∧ (c.slot n').value = some o' := by
    intro n' o' hvalue
    by_cases hn' : n' = n
    · subst hn'
      rw [hself] at hvalue
      exact .inl ⟨rfl, (Option.some_inj.mp hvalue).symm⟩
    · rw [hother n' hn'] at hvalue
      exact .inr ⟨hn', hvalue⟩
  refine ⟨fun o' h => ?_, fun o' h => ?_, ?_, fun n' _ => ?_, fun n' o' h => ?_, fun n' o' h' => ?_,
    fun n' n'' o' h' h'' => ?_⟩
  · have := hmade o' h
    cases o' <;> exact this
  · have := hclosed o' h
    cases o' <;> exact this
  · rw [Cache.store, length_setSlot, hslots]
  · by_cases hn' : n' = n
    · rw [hn', hself]
    · rw [hother n' hn']
  · by_cases hn' : n' = n
    · rw [hn', hempty] at h
      cases h
    · rwa [hother n' hn']
  · rcases hvalue n' o' h' with ⟨rfl, rfl⟩ | ⟨-, h'⟩
    · refine .inr ⟨hnew, by cases o' <;> exact ho, ?_⟩
      rw [hself, hkind]
    · exact .inl h'
  -- No other slot has the new object.
  · rcases hvalue n' o' h' with ⟨rfl, rfl⟩ | ⟨-, hold'⟩
    · rcases hvalue n'' o' h'' with ⟨rfl, -⟩ | ⟨-, hold''⟩
      · exact .inl rfl
      · exact absurd (h.made n'' o' hold'') hnew
    · rcases hvalue n'' o' h'' with ⟨rfl, rfl⟩ | ⟨-, hold''⟩
      · exact absurd (h.made n' o' hold') hnew
      · exact .inr ⟨hold', hold''⟩

end Later

lemma Stocked.kind_of_later (h : Stocked c) (hlater : Later c c')
    (hvalue : (c'.slot n).value = some o) : o.kind = (c'.slot n).key.kind := by
  rcases hlater.value n o hvalue with hvalue | ⟨-, -, hkind⟩
  · rw [hlater.key n (lt_of_value hvalue)]
    exact h.kind n o hvalue
  · exact hkind

lemma Stocked.later (h : Stocked c) (hlater : Later c c')
    (hfits : ∀ id stage, c'.stage? id = some stage → stage.Fits) : Stocked c' where
  made n o hvalue := by
    rcases hlater.value n o hvalue with hvalue | ⟨-, hmade, -⟩
    · exact hlater.made o (h.made n o hvalue)
    · exact hmade
  kind _ _ := h.kind_of_later hlater
  single n n' o hvalue hvalue' := by
    rcases hlater.single n n' o hvalue hvalue' with heq | ⟨hvalue, hvalue'⟩
    · exact heq
    · exact h.single n n' o hvalue hvalue'
  fits := hfits

/-- The slots of the index are there and have the keys that they have in it. -/
def IsIndexed (c : Cache) : Prop :=
  ∀ key n, (key, n) ∈ c.index → n < c.slots.length ∧ (c.slot n).key = key

lemma IsIndexed.later (h : IsIndexed c) (hlater : Later c c') (hindex : c'.index ⊆ c.index) :
    IsIndexed c' := by
  intro key n hentry
  obtain ⟨hlt, hkey⟩ := h key n (hindex hentry)
  exact ⟨hlt.trans_le hlater.slots, (hlater.key n hlt).trans hkey⟩

/-! ## Calls for a key -/

/-- A call for a key is at a slot; one for a pool is at a certain slot. -/
def IsAt (c : Cache) (id : ℕ) (key : Key) (n₀ : ℕ) : Prop :=
  ∃ stage n, c.stage? id = some stage ∧ stage.Fits ∧ stage.place? = some (key, n) ∧
    (key.kind = .connectionPool → n = n₀)

/-- An object lies in a slot of a key; a pool lies in a certain slot. -/
def Holds (c : Cache) (key : Key) (n₀ : ℕ) (o : Object) : Prop :=
  ∃ n, (c.slot n).key = key ∧ (c.slot n).value = some o ∧ (key.kind = .connectionPool → n = n₀)

/-- A call for a key is moved on: a call for a pool stays with its slot, and what is handed out lies
in a slot of the key. -/
structure Serves (c : Cache) (id : ℕ) (key : Key) (n₀ : ℕ) (next : Cache × Result) : Prop where
  later : Later c next.1
  /-- Pools stay open or closed, and a new one is open. -/
  pools : ∀ m, next.1.isClosed (.pool m) = c.isClosed (.pool m)
  index : ∀ key' n, (key', n) ∈ next.1.index → (key', n) ∈ c.index ∨ c.slots.length ≤ n
  others : ∀ other, other ≠ id → next.1.stage? other = c.stage? other
  going : next.2 = none → next.1.IsAt id key n₀
  ended : ∀ id' answer, next.2 = some (id', answer) → id' = id ∧ next.1.stage? id = none ∧
    ∀ o, answer = .object o → next.1.Holds key n₀ o

/-- The slot that a call for a pool goes to. -/
def slotFor (c : Cache) (key : Key) : ℕ := (c.slotOf? key).getD c.slots.length

lemma Tracked.slotFor_eq (h : Tracked lost [] c) (hentry : (key, n) ∈ c.index) :
    c.slotFor key = n := by
  rw [slotFor, h.slotOf?_eq_some hentry, Option.getD_some]

/-- A slot that a call for a pool goes to is in the index, unless it is still to be made. -/
lemma mem_index_of_slotFor (hn : n < c.slots.length) (h : n = c.slotFor key) :
    (key, n) ∈ c.index := by
  rw [slotFor] at h
  cases hslot : c.slotOf? key with
  | none =>
    rw [hslot, Option.getD_none] at h
    exact absurd hn (h ▸ Nat.lt_irrefl _)
  | some n' =>
    rw [hslot, Option.getD_some] at h
    exact h ▸ mem_of_slotOf?_eq_some hslot

/-- A slot of a key that is empty. -/
structure Vacant (c : Cache) (key : Key) (n : ℕ) : Prop where
  lt : n < c.slots.length
  empty : (c.slot n).value = none
  key_eq : (c.slot n).key = key

lemma Vacant.setSlot (h : Vacant c key n) (hkey : s.key = (c.slot n).key)
    (hvalue : s.value = (c.slot n).value) : Vacant (c.setSlot n s) key n := by
  refine ⟨?_, ?_, ?_⟩
  · rw [length_setSlot]
    exact h.lt
  · rw [slot_setSlot h.lt, hvalue, h.empty]
  · rw [slot_setSlot h.lt, hkey, h.key_eq]

namespace Later

lemma leave (c : Cache) (id : ℕ) : Later c (c.leave id) :=
  .of_slots rfl (fun o h => by cases o <;> exact h) fun o h => by cases o <;> exact h

lemma setStage (c : Cache) (id : ℕ) (stage : Stage) : Later c (c.setStage id stage) :=
  .of_slots rfl (fun o h => by cases o <;> exact h) fun o h => by cases o <;> exact h

lemma reindex (c : Cache) (index : List (Key × ℕ)) : Later c { c with index } :=
  .of_slots rfl (fun o h => by cases o <;> exact h) fun o h => by cases o <;> exact h

lemma addPool (c : Cache) (m : Member) : Later c { c with pools := c.pools ++ [m] } := by
  refine .of_slots rfl (fun o h => ?_) fun o h => isClosed_addPool h
  cases o with
  | connection m' => exact h
  | pool m' =>
    have hlt : m' < c.pools.length := h
    exact hlt.trans_le (by simp)

lemma openNext (c : Cache) (config : ConnectionConfig) :
    Later c { c with opened := c.opened ++ [config] } := by
  refine .of_slots rfl (fun o h => ?_) fun o h => by cases o <;> exact h
  cases o with
  | pool m => exact h
  | connection m =>
    have hlt : m < c.opened.length := h
    exact hlt.trans_le (by simp)

end Later

/-- Only connections are ever replaced. -/
lemma kind_ne_of_isSpent (h : c.isSpent o = true) : o.kind ≠ .connectionPool := by
  cases o with
  | connection m => exact nofun
  | pool m => cases h

namespace Serves

lemma of_later (h : Serves c' id key n₀ next) (hlater : Later c c')
    (hpools : ∀ m, c'.isClosed (.pool m) = c.isClosed (.pool m))
    (hindex : ∀ key' n, (key', n) ∈ c'.index → (key', n) ∈ c.index ∨ c.slots.length ≤ n)
    (hcalls : c'.calls = c.calls) : Serves c id key n₀ next where
  later := hlater.trans h.later
  pools m := (h.pools m).trans (hpools m)
  index key' n hentry := by
    rcases h.index key' n hentry with hentry | hn
    · exact hindex key' n hentry
    · exact .inr (hlater.slots.trans hn)
  others other hother := by
    rw [h.others other hother, stage?, stage?, hcalls]
  going := h.going
  ended := h.ended

/-- The call ends. -/
lemma finish {answer : Answer} (hanswer : ∀ o, answer = .object o → c.Holds key n₀ o) :
    Serves c id key n₀ (c.finish id answer) where
  later := .leave c id
  pools _ := rfl
  index _ _ := .inl
  others _ hother := stage?_leave_of_ne hother
  going := nofun
  ended id' answer' hsaid := by
    cases hsaid
    exact ⟨rfl, stage?_leave_self c id, hanswer⟩

/-- The call goes on at a slot. -/
lemma setStage (hfits : stage.Fits) (hplace : stage.place? = some (key, n))
    (hn₀ : key.kind = .connectionPool → n = n₀) :
    Serves c id key n₀ (c.setStage id stage, none) where
  later := .setStage c id stage
  pools _ := rfl
  index _ _ := .inl
  others _ hother := stage?_setStage_of_ne hother
  going _ := ⟨stage, n, stage?_setStage_self c id stage, hfits, hplace, hn₀⟩
  ended _ _ := nofun

lemma giveUp (hn : n < c.slots.length) (e : Error) : Serves c id key n₀ (c.giveUp id n e) :=
  (finish fun _ ho => by cases ho).of_later (.setSlot hn rfl rfl) (fun _ => rfl) (fun _ _ => .inl)
    rfl

/-- The pool of the slot is built. -/
lemma fillPool (h : Stocked c) (hvacant : Vacant c key n) (hkind : key.kind = .connectionPool)
    (hn₀ : n = n₀) {m : Member} (hopen : m.pool.isClosed = false) :
    Serves c id key n₀ (c.fillPool id n m) := by
  obtain ⟨hn, hempty, hkey⟩ := hvacant
  have hlater := Later.addPool c m
  have hself := slot_store (c := { c with pools := c.pools ++ [m] }) hn (.pool c.pools.length)
  refine Serves.of_later (finish fun o ho => ⟨n, ?_, ?_, fun _ => hn₀⟩)
    (.store h hn hempty rfl hlater.made hlater.closed (Nat.lt_irrefl _) ?_ ?_)
    (isClosed_pool_addPool hopen) (fun _ _ => .inl) rfl
  · exact (congrArg Slot.key hself).trans hkey
  · cases ho
    exact congrArg Slot.value hself
  · change c.pools.length < (c.pools ++ [m]).length
    simp
  · rw [hkey, hkind]
    rfl

/-- The call starts to fill the slot. -/
lemma build (h : Stocked c) (hvacant : Vacant c key n)
    (hn₀ : key.kind = .connectionPool → n = n₀) : Serves c id key n₀ (c.build id n key) := by
  have hlater : Later c (c.setSlot n { c.slot n with builder := some id }) :=
    .setSlot hvacant.lt rfl rfl
  have hvacant' : Vacant (c.setSlot n { c.slot n with builder := some id }) key n :=
    hvacant.setSlot rfl rfl
  have hstocked := h.later hlater h.fits
  refine Serves.of_later ?_ hlater (fun _ => rfl) (fun _ _ => .inl) rfl
  rw [Cache.build]
  generalize c.setSlot n { c.slot n with builder := some id } = c₁ at *
  split
  · rename_i hkind
    split
    · exact giveUp hvacant'.lt _
    · rename_i config connection _
      have hstart : (Pool.new config 0).step (.callOpen id) =
          some ((Pool.new config 0).startOpen id) := rfl
      have hstarted := Pool.isClosed_step hstart fun _ heq => by cases heq
      split
      · rename_i pool hpool
        rw [hpool] at hstarted
        exact setStage ⟨hkind, hstarted⟩ rfl hn₀
      · rename_i pool answer hpool
        rw [hpool] at hstarted
        exact fillPool hstocked hvacant' hkind (hn₀ hkind) hstarted
  · rename_i hkind
    split
    · exact giveUp hvacant'.lt _
    · exact setStage hkind rfl hn₀

/-- The call makes a new slot for its key and fills it. -/
lemma buildNew (h : Stocked c) (hn₀ : key.kind = .connectionPool → c.slots.length = n₀) :
    Serves c id key n₀ (c.buildNew id key) := by
  have hlater := (Later.reindex c (c.index.filter fun e => !(e.1 == key))).trans (.addSlot _ key)
  refine (build (h.later hlater h.fits) ⟨?_, ?_, ?_⟩ hn₀).of_later hlater (fun _ => rfl)
    (fun key' n hentry => ?_) rfl
  · rw [length_slots_addSlot]
    exact Nat.lt_succ_self _
  · exact congrArg Slot.value (slot_addSlot_self _ key)
  · exact congrArg Slot.key (slot_addSlot_self _ key)
  · rcases List.mem_append.mp hentry with hentry | hentry
    · exact .inl (List.mem_filter.mp hentry).1
    · obtain ⟨-, rfl⟩ := Prod.mk.inj (List.mem_singleton.mp hentry)
      exact .inr le_rfl

/-- The call goes to the slot of its key. -/
lemma approach (h : Stocked c) (hindexed : IsIndexed c)
    (hn₀ : key.kind = .connectionPool → c.slotFor key = n₀) :
    Serves c id key n₀ (c.approach id key) := by
  rw [slotFor] at hn₀
  rw [Cache.approach]
  split
  · rename_i hnone
    rw [hnone] at hn₀
    exact buildNew h hn₀
  rename_i n hsome
  rw [hsome] at hn₀
  obtain ⟨hlt, hkey⟩ := hindexed key n (mem_of_slotOf?_eq_some hsome)
  split
  · rename_i o hvalue
    split
    · rename_i hspent
      refine buildNew h fun hkind => absurd ?_ (kind_ne_of_isSpent hspent)
      rw [h.kind n o hvalue, hkey, hkind]
    · exact finish fun o' ho' => ⟨n, hkey, by cases ho'; exact hvalue, hn₀⟩
  · rename_i hvalue _
    exact build h ⟨hlt, hvalue, hkey⟩ hn₀
  · have hfits : Stage.Fits (.waiting key n) := trivial
    exact (setStage hfits rfl hn₀).of_later (.setSlot hlt rfl rfl) (fun _ => rfl)
      (fun _ _ => .inl) rfl

/-- The call has the object of a slot of its key. -/
lemma take (h : Stocked c) (hindexed : IsIndexed c) (hkey : (c.slot n).key = key)
    (hvalue : (c.slot n).value = some o) (hn₀ : key.kind = .connectionPool → n = n₀) :
    Serves c id key n₀ (c.take id n key o) := by
  rw [Cache.take]
  split
  · rename_i hspent
    have hlater := Later.reindex c (c.index.filter fun e => !(e.1 == key && e.2 == n))
    have hindexed' := hindexed.later hlater List.filter_sublist.subset
    refine (approach (h.later hlater h.fits) hindexed' fun hkind => ?_).of_later hlater
      (fun _ => rfl) (fun _ _ hentry => .inl (List.mem_filter.mp hentry).1) rfl
    exact absurd ((h.kind n o hvalue).trans (hkey ▸ hkind)) (kind_ne_of_isSpent hspent)
  · exact finish fun o' ho' => ⟨n, hkey, by cases ho'; exact hvalue, hn₀⟩

/-- A call that waited for a slot goes on. -/
lemma continueAt (h : Stocked c) (htracked : Tracked lost [] c)
    (hcall : c.stage? id = some (.waiting key n)) (hnext : c.continueAt id n key = some next) :
    Serves c id key n next := by
  obtain ⟨hlt, hkey, -⟩ := htracked.placed id _ key n hcall rfl
  rw [Cache.continueAt] at hnext
  split at hnext
  · rename_i o hvalue
    cases hnext
    exact take h htracked.made hkey hvalue fun _ => rfl
  · rename_i hvalue
    split at hnext
    · cases hnext
      exact build h ⟨hlt, hvalue, hkey⟩ fun _ => rfl
    · cases hnext

/-- The connection of the slot is opened and comes into it. -/
lemma connect (h : Stocked c) (hindexed : IsIndexed c) (hvacant : Vacant c key n)
    (hkind : key.kind = .connection) (config : ConnectionConfig) :
    Serves c id key n ((Cache.store { c with opened := c.opened ++ [config] } n
      (.connection c.opened.length)).take id n key (.connection c.opened.length)) := by
  obtain ⟨hlt, hempty, hkey⟩ := hvacant
  have hopened := Later.openNext c config
  have hlater : Later c (Cache.store { c with opened := c.opened ++ [config] } n
      (.connection c.opened.length)) := by
    refine .store h hlt hempty rfl hopened.made hopened.closed (Nat.lt_irrefl _) ?_ ?_
    · change c.opened.length < (c.opened ++ [config]).length
      simp
    · rw [hkey, hkind]
      rfl
  have hself := slot_store (c := { c with opened := c.opened ++ [config] }) hlt
    (.connection c.opened.length)
  exact (take (h.later hlater h.fits) (hindexed.later hlater (List.Subset.refl _))
    ((hlater.key n hlt).trans hkey) (congrArg Slot.value hself) fun _ => rfl).of_later hlater
      (fun _ => rfl) (fun _ _ => .inl) rfl

/-- The opening of a connection has ended. -/
lemma finishOpening (h : Stocked c) (htracked : Tracked lost [] c)
    (hcall : c.stage? id = some stage) (hplace : stage.place? = some (key, n))
    {failure : Option Error} (hnext : c.finishOpening id failure stage = some next) :
    Serves c id key n next := by
  obtain ⟨hlt, hkey, -⟩ := htracked.placed id _ key n hcall hplace
  have hfits := h.fits id stage hcall
  rw [finishOpening.eq_def] at hnext
  split at hnext
  · rename_i key n config
    cases hplace
    have hempty := (htracked.filling id _ key n hcall rfl rfl).1
    split at hnext
    · cases hnext
      exact giveUp hlt _
    · cases hnext
      exact connect h htracked.made ⟨hlt, hempty, hkey⟩ hfits config
  · rename_i key n config m
    cases hplace
    have hempty := (htracked.filling id _ key n hcall rfl rfl).1
    obtain ⟨hkind, hopen⟩ := hfits
    split at hnext
    · cases hnext
    · cases hnext
      exact giveUp hlt _
    · rename_i pool result hstep
      have hstill : pool.isClosed = false :=
        (Pool.isClosed_step hstep fun _ heq => by cases heq).trans hopen
      have hlater := Later.openNext c config
      dsimp only at hnext
      split at hnext
      · cases hnext
        exact (fillPool (h.later hlater h.fits) ⟨hlt, hempty, hkey⟩ hkind rfl hstill).of_later
          hlater (fun _ => rfl) (fun _ _ => .inl) rfl
      · cases hnext
        have hfits : Stage.Fits
            (.opening key n config ⟨pool, m.connections ++ [c.opened.length]⟩) := ⟨hkind, hstill⟩
        exact (setStage hfits rfl fun _ => rfl).of_later hlater (fun _ => rfl)
          (fun _ _ => .inl) rfl
  · cases hnext

/-- What a call for another kind of object is handed may lie in any slot. -/
lemma of_slot (h : Serves c id key n next) (hn : key.kind = .connectionPool → n = n₀) :
    Serves c id key n₀ next where
  later := h.later
  pools := h.pools
  index := h.index
  others := h.others
  going hnone := by
    obtain ⟨stage, n', hcall, hfits, hplace, hn'⟩ := h.going hnone
    exact ⟨stage, n', hcall, hfits, hplace, fun hkind => (hn' hkind).trans (hn hkind)⟩
  ended id' answer hsaid := by
    obtain ⟨hid, hgone, hholds⟩ := h.ended id' answer hsaid
    refine ⟨hid, hgone, fun o ho => ?_⟩
    obtain ⟨n', hkey, hvalue, hn'⟩ := hholds o ho
    exact ⟨n', hkey, hvalue, fun hkind => (hn' hkind).trans (hn hkind)⟩

/-- A call that goes on is at a slot of its key. -/
lemma place (h : Serves c id key n₀ next) (hcall : next.1.stage? id = some stage) :
    stage.Fits ∧ ∃ n, stage.place? = some (key, n) := by
  cases hresult : next.2 with
  | none =>
    obtain ⟨stage', n, hcall', hfits, hplace, -⟩ := h.going hresult
    obtain rfl := Option.some_inj.mp (hcall.symm.trans hcall')
    exact ⟨hfits, n, hplace⟩
  | some said =>
    rw [(h.ended _ _ hresult).2.1] at hcall
    cases hcall

end Serves

end BulkValues.Cache
