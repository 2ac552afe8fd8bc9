/-
# Pools that are handed out again

What an event does is said once: it moves a call for a key on, or it leaves all of them where they
are.  From this, what a call is handed was not closed when the call began, with one exception: a
call for a pool is handed what lies in the slot of its key, and nobody looks whether a caller has
closed it.  Pools that the cache itself closes have left the index by then, and a connection is
looked at before it is handed out.
-/
import BulkValues.Proofs.Cache.Serving

namespace BulkValues.Cache

variable {c c' : Cache} {lost : List ℕ} {id n n₀ : ℕ} {key : Key} {stage : Stage} {o : Object}
  {next : Cache × Result} {e : Event} {es : List Event} {hands : List ℕ}

/-! ## Other events -/

/-- The pools that an event closes for a caller. -/
def closes (c : Cache) : Event → List ℕ
  | .close (.pool m) => if m < c.pools.length then [m] else []
  | _ => []

/-- No call for a key is moved on: callers close what they hold, and calls close what they have
taken from the index. -/
structure Quiet (c : Cache) (e : Event) (next : Cache × Result) : Prop where
  slots : next.1.slots = c.slots
  made : ∀ o, c.HasMade o → next.1.HasMade o
  closed : ∀ o, c.isClosed o = true → next.1.isClosed o = true
  index : ∀ key n, (key, n) ∈ next.1.index → (key, n) ∈ c.index
  stays : ∀ id stage place, c.stage? id = some stage → stage.place? = some place →
    next.1.stage? id = some stage ∧ ∀ answer, next.2 ≠ some (id, answer)
  calls : ∀ id stage, next.1.stage? id = some stage →
    c.stage? id = some stage ∨ stage.place? = none
  pools : ∀ m, next.1.isClosed (.pool m) = true → c.isClosed (.pool m) = true ∨ m ∈ c.closes e ∨
    ∃ id stage, c.stage? id = some stage ∧ .pool m ∈ stage.doomed
  hands : ∀ m ∈ c.closes e, c.HasMade (.pool m) ∧ next.1.isClosed (.pool m) = true
  doomed : ∀ id stage o, next.1.stage? id = some stage → o ∈ stage.doomed →
    (∃ stage', c.stage? id = some stage' ∧ o ∈ stage'.doomed) ∨
      ∃ key n, (key, n) ∈ c.index ∧ (key, n) ∉ next.1.index ∧ (c.slot n).value = some o

lemma isClosed_pool_closeObject {m : ℕ} (h : (c.closeObject o).isClosed (.pool m) = true) :
    c.isClosed (.pool m) = true ∨ o = .pool m := by
  cases o with
  | connection n => exact .inl h
  | pool n =>
    by_cases hn : n = m
    · exact .inr (congrArg _ hn)
    rw [closeObject] at h
    split at h
    · exact .inl h
    · dsimp only at h
      split at h
      · exact .inl h
      · rw [isClosed, List.getElem?_set_ne hn] at h
        exact .inl h

/-- The objects of a cache are in the slots of its index. -/
lemma exists_of_mem_objects (h : o ∈ c.objects) :
    ∃ key n, (key, n) ∈ c.index ∧ (c.slot n).value = some o := by
  have hmem : o ∈ c.index.filterMap fun e => (c.slot e.2).value := by
    rcases List.mem_append.mp h with h | h
    · exact (List.mem_filter.mp h).1
    · exact (List.mem_filter.mp h).1
  obtain ⟨⟨key, n⟩, hentry, hvalue⟩ := List.mem_filterMap.mp hmem
  exact ⟨key, n, hentry, hvalue⟩

/-- A call that closes objects changes nothing but itself. -/
lemma exists_closeAll (c : Cache) (id : ℕ) (objects : List Object) (answer : Answer) :
    ∃ calls result, c.closeAll id objects answer = ({ c with calls }, result) ∧
      (∀ other, other ≠ id → { c with calls }.stage? other = c.stage? other) ∧
      (∀ stage, { c with calls }.stage? id = some stage → stage = .closing objects answer) ∧
      ∀ id' answer', result = some (id', answer') → id' = id := by
  rw [closeAll.eq_def]
  split
  · refine ⟨_, _, rfl, fun other hother => stage?_leave_of_ne hother, fun stage hcall => ?_,
      fun id' answer' hsaid => ?_⟩
    · cases (stage?_leave_self c id).symm.trans hcall
    · cases hsaid
      rfl
  · refine ⟨_, _, rfl, fun other hother => stage?_setStage_of_ne hother, fun stage hcall => ?_,
      fun id' answer' hsaid => ?_⟩
    · exact (Option.some_inj.mp ((stage?_setStage_self c id _).symm.trans hcall)).symm
    · cases hsaid

namespace Quiet

lemma reindex {index : List (Key × ℕ)} (hindex : index ⊆ c.index) (hcloses : c.closes e = []) :
    Quiet c e ({ c with index }, none) where
  slots := rfl
  made o h := by cases o <;> exact h
  closed o h := by cases o <;> exact h
  index _ _ hentry := hindex hentry
  stays _ _ _ hcall _ := ⟨hcall, fun _ => nofun⟩
  calls _ _ := .inl
  pools _ := .inl
  hands m hm := by
    rw [hcloses] at hm
    cases hm
  doomed _ stage _ hcall ho := .inl ⟨stage, hcall, ho⟩

/-- An object is closed, for a caller or for the call that has taken it from the index. -/
lemma closeObject (hpool : ∀ m, o = .pool m → m < c.pools.length → m ∈ c.closes e ∨
      ∃ id stage, c.stage? id = some stage ∧ .pool m ∈ stage.doomed)
    (hcloses : ∀ m ∈ c.closes e, o = .pool m ∧ m < c.pools.length) :
    Quiet c e (c.closeObject o, none) := by
  obtain ⟨pools, connections, hclose, hpools, -⟩ := exists_closeObject c o
  have hstage : ∀ id, (c.closeObject o).stage? id = c.stage? id := fun id => by rw [hclose]; rfl
  have hlength : (c.closeObject o).pools.length = c.pools.length := by rw [hclose]; exact hpools
  refine ⟨by rw [hclose], fun o' h => ?_, fun o' => isClosed_closeObject o, fun key n hentry => ?_,
    fun id stage place hcall _ => ⟨(hstage id).trans hcall, fun _ => nofun⟩,
    fun id stage hcall => .inl ((hstage id).symm.trans hcall), fun m hm => ?_, fun m hm => ?_,
    fun id stage o' hcall ho => .inl ⟨stage, (hstage id).symm.trans hcall, ho⟩⟩
  · cases o' with
    | pool m => exact h.trans_eq hlength.symm
    | connection m =>
      rw [hclose]
      exact h
  · rwa [hclose] at hentry
  · rcases isClosed_pool_closeObject hm with hm | ho
    · exact .inl hm
    by_cases hlt : m < c.pools.length
    · exact .inr (hpool m ho hlt)
    · have hnone : (c.closeObject o).pools[m]? = none :=
        List.getElem?_eq_none (hlength.trans_le (Nat.le_of_not_lt hlt))
      rw [isClosed, hnone] at hm
      cases hm
  · obtain ⟨rfl, hlt⟩ := hcloses m hm
    have hself : (c.closeObject (.pool m)).isClosed (.pool m) = true := by
      refine isClosed_closeObject_self fun m' hm' => ?_
      cases hm'
      exact hlt
    exact ⟨hlt, hself⟩

/-- A call that is not for a key goes on to close objects. -/
lemma closeAll {objects : List Object} {answer : Answer} (h : Quiet c e (c', none))
    (hcalls : c'.calls = c.calls) (hid : ∀ stage, c.stage? id = some stage → stage.place? = none)
    (hobjects : ∀ o ∈ objects, (∃ stage, c.stage? id = some stage ∧ o ∈ stage.doomed) ∨
      ∃ key n, (key, n) ∈ c.index ∧ (key, n) ∉ c'.index ∧ (c.slot n).value = some o) :
    Quiet c e (c'.closeAll id objects answer) := by
  obtain ⟨calls, result, hnext, hothers, hself, hsaid⟩ := exists_closeAll c' id objects answer
  have hstage : ∀ id, c'.stage? id = c.stage? id := fun id => by rw [stage?, stage?, hcalls]
  rw [hnext]
  refine { h with stays := ?_, calls := ?_, doomed := ?_ }
  · intro id' stage place hcall hplace
    have hother : id' ≠ id := by
      rintro rfl
      rw [hid stage hcall] at hplace
      cases hplace
    exact ⟨(hothers id' hother).trans ((hstage id').trans hcall),
      fun answer' hsaid' => hother (hsaid id' answer' hsaid')⟩
  · intro id' stage hcall
    by_cases hother : id' = id
    · subst hother
      rw [hself stage hcall]
      exact .inr rfl
    · exact .inl ((hstage id').symm.trans ((hothers id' hother).symm.trans hcall))
  · intro id' stage o hcall ho
    by_cases hother : id' = id
    · subst hother
      rw [hself stage hcall] at ho
      exact hobjects o ho
    · exact .inl ⟨stage, (hstage id').symm.trans ((hothers id' hother).symm.trans hcall), ho⟩

end Quiet

/-! ## Steps -/

/-- An event is about a call for a key, which begins or is at a slot. -/
inductive Concerns (c : Cache) (id : ℕ) (key : Key) : Event → ℕ → Prop where
  | begins (hnew : c.stage? id = none) : Concerns c id key (.callGet id key) (c.slotFor key)
  | goesOn {stage : Stage} {n : ℕ} {e : Event} (hcall : c.stage? id = some stage)
      (hplace : stage.place? = some (key, n))
      (he : e = .resume id ∨ ∃ failure, e = .created id failure) : Concerns c id key e n

lemma Concerns.closes_eq (h : c.Concerns id key e n) : c.closes e = [] := by
  cases h with
  | begins => rfl
  | goesOn _ _ he =>
    obtain rfl | ⟨failure, rfl⟩ := he
    · rfl
    · rfl

lemma place?_of_finishOpening {failure : Option Error}
    (hnext : c.finishOpening id failure stage = some next) :
    ∃ key n, stage.place? = some (key, n) := by
  cases stage with
  | opening key n config m => exact ⟨key, n, rfl⟩
  | connecting key n config => exact ⟨key, n, rfl⟩
  | waiting key n => cases hnext
  | closing rest answer => cases hnext

/-- An event moves a call for a key on, or all of them stay where they are. -/
lemma serves_or_quiet (h : Stocked c) (htracked : Tracked lost [] c) (hadmits : c.admits e = true)
    (hstep : c.step e = some next) :
    (∃ id key n, c.Concerns id key e n ∧ Serves c id key n next) ∨ Quiet c e next := by
  have hnew : ∀ {id}, (c.stage? id).isNone = true → ∀ stage, c.stage? id = some stage →
      stage.place? = none := by
    intro id hnone stage hcall
    rw [hcall] at hnone
    cases hnone
  cases e with
  | callGet id key =>
    cases hstep
    exact .inl ⟨id, key, _, .begins (Option.isNone_iff_eq_none.mp hadmits),
      .approach h htracked.made fun _ => rfl⟩
  | callEvict id key =>
    cases hstep
    refine .inr ((Quiet.reindex List.filter_sublist.subset rfl).closeAll rfl (hnew hadmits) ?_)
    intro o ho
    obtain ⟨n, hslot, hvalue⟩ := Option.bind_eq_some_iff.mp (Option.mem_toList.mp ho)
    exact .inr ⟨key, n, mem_of_slotOf?_eq_some hslot,
      fun hentry => by simpa using (List.mem_filter.mp hentry).2, hvalue⟩
  | callCloseAll id =>
    cases hstep
    refine .inr ((Quiet.reindex (List.nil_subset _) rfl).closeAll rfl (hnew hadmits) ?_)
    intro o ho
    obtain ⟨key, n, hentry, hvalue⟩ := exists_of_mem_objects ho
    exact .inr ⟨key, n, hentry, List.not_mem_nil, hvalue⟩
  | resume id =>
    simp only [step] at hstep
    split at hstep
    · rename_i key n hcall
      exact .inl ⟨id, key, n, .goesOn hcall rfl (.inl rfl), .continueAt h htracked hcall hstep⟩
    · cases hstep
  | created id failure =>
    obtain ⟨stage, hcall, hnext⟩ := Option.bind_eq_some_iff.mp hstep
    obtain ⟨key, n, hplace⟩ := place?_of_finishOpening hnext
    exact .inl ⟨id, key, n, .goesOn hcall hplace (.inr ⟨failure, rfl⟩),
      .finishOpening h htracked hcall hplace hnext⟩
  | closedNext id =>
    simp only [step] at hstep
    split at hstep
    · rename_i o rest answer hcall
      cases hstep
      have hdoomed : ∀ o' ∈ o :: rest, ∃ stage, c.stage? id = some stage ∧ o' ∈ stage.doomed :=
        fun o' ho => ⟨_, hcall, ho⟩
      obtain ⟨pools, connections, hclose, -⟩ := exists_closeObject c o
      refine .inr ((Quiet.closeObject (fun m hm _ => .inr ⟨id, ?_⟩) fun m hm => ?_).closeAll
        (by rw [hclose]) (fun stage hcall' => ?_) fun o' ho => ?_)
      · exact hm ▸ hdoomed o List.mem_cons_self
      · cases hm
      · obtain rfl := Option.some_inj.mp (hcall.symm.trans hcall')
        rfl
      · exact .inl (hdoomed o' (List.mem_cons_of_mem o ho))
    · cases hstep
  | close o =>
    cases hstep
    refine .inr (.closeObject (fun m hm hlt => .inl ?_) fun m hm => ?_)
    · subst hm
      simp [closes, hlt]
    · cases o with
      | connection n => cases hm
      | pool n =>
        rw [closes] at hm
        split at hm
        · rename_i hlt
          obtain rfl := List.mem_singleton.mp hm
          exact ⟨rfl, hlt⟩
        · cases hm

lemma Stage.fits_of_place?_eq_none (h : stage.place? = none) : stage.Fits := by
  cases stage with
  | closing rest answer => trivial
  | waiting key n => trivial
  | opening key n config m => cases h
  | connecting key n config => cases h

lemma Quiet.later (h : Quiet c e next) : Later c next.1 := .of_slots h.slots h.made h.closed

/-- Objects stay in slots that were built for them. -/
lemma stocked_step (h : Stocked c) (htracked : Tracked lost [] c) (hadmits : c.admits e = true)
    (hstep : c.step e = some next) : Later c next.1 ∧ Stocked next.1 := by
  rcases serves_or_quiet h htracked hadmits hstep with ⟨id, key, n, -, hserves⟩ | hquiet
  · refine ⟨hserves.later, h.later hserves.later fun other stage hcall => ?_⟩
    by_cases hother : other = id
    · subst hother
      exact (hserves.place hcall).1
    · exact h.fits other stage ((hserves.others other hother).symm.trans hcall)
  · refine ⟨hquiet.later, h.later hquiet.later fun other stage hcall => ?_⟩
    rcases hquiet.calls other stage hcall with hcall | hplace
    · exact h.fits other stage hcall
    · exact Stage.fits_of_place?_eq_none hplace

lemma stocked_empty (node : Node) (registry : Registry) :
    Stocked ({ node, registry } : Cache) where
  made n o hvalue := absurd (lt_of_value hvalue) (Nat.not_lt_zero n)
  kind n o hvalue := absurd (lt_of_value hvalue) (Nat.not_lt_zero n)
  single n n' o hvalue := absurd (lt_of_value hvalue) (Nat.not_lt_zero n)
  fits id stage hcall := by cases hcall

/-! ## Answers -/

/-- The object that the call of a number is handed when it ends. -/
def handedTo? (c : Cache) (id : ℕ) : List Event → Option Object
  | [] => none
  | e :: es => (c.step e).bind fun next =>
    if next.2.any (·.1 == id) then handedOut? next.2 else next.1.handedTo? id es

lemma handedTo?_cons_self {answer : Answer} (hstep : c.step e = some next)
    (hsaid : next.2 = some (id, answer)) :
    c.handedTo? id (e :: es) = handedOut? (some (id, answer)) := by
  rw [handedTo?, hstep, Option.bind_some, hsaid]
  exact if_pos (beq_self_eq_true id)

lemma handedTo?_cons_of_ne (hstep : c.step e = some next)
    (hsaid : ∀ answer, next.2 ≠ some (id, answer)) :
    c.handedTo? id (e :: es) = next.1.handedTo? id es := by
  rw [handedTo?, hstep, Option.bind_some]
  cases hresult : next.2 with
  | none => rfl
  | some said =>
    refine if_neg fun hid => hsaid said.2 ?_
    have hid : said.1 = id := eq_of_beq hid
    rw [hresult, ← hid]

/-- Between two caches there is one where an object lies in a slot of a key and need not be
replaced. -/
def Meets (c c' : Cache) (key : Key) (n₀ : ℕ) (o : Object) : Prop :=
  ∃ c₁, Later c c₁ ∧ Later c₁ c' ∧ c₁.isSpent o = false ∧ c₁.Holds key n₀ o

lemma Meets.of_later {c₁ : Cache} (h : Meets c₁ c' key n₀ o) (hlater : Later c c₁) :
    Meets c c' key n₀ o := by
  obtain ⟨c₂, hbefore, hafter, hopen, hholds⟩ := h
  exact ⟨c₂, hlater.trans hbefore, hafter, hopen, hholds⟩

/-- A call for a key that is at a slot is moved on, or stays where it is. -/
lemma isAt_step (h : Stocked c) (htracked : Tracked lost [] c) (hadmits : c.admits e = true)
    (hstep : c.step e = some next) (hat : c.IsAt id key n₀) :
    Serves c id key n₀ next ∨ next.1.IsAt id key n₀ ∧ ∀ answer, next.2 ≠ some (id, answer) := by
  obtain ⟨stage, n, hcall, hfits, hplace, hn⟩ := hat
  rcases serves_or_quiet h htracked hadmits hstep with ⟨id', key', n', hconcerns, hserves⟩ | hquiet
  · by_cases hid : id = id'
    · subst hid
      cases hconcerns with
      | begins hnew =>
        rw [hcall] at hnew
        cases hnew
      | goesOn hcall' hplace' =>
        obtain rfl := Option.some_inj.mp (hcall.symm.trans hcall')
        obtain ⟨rfl, rfl⟩ := Prod.mk.inj (Option.some_inj.mp (hplace.symm.trans hplace'))
        exact .inl (hserves.of_slot hn)
    · refine .inr ⟨⟨stage, n, (hserves.others id hid).trans hcall, hfits, hplace, hn⟩, ?_⟩
      intro answer hsaid
      exact hid (hserves.ended id answer hsaid).1
  · obtain ⟨hcall', hsilent⟩ := hquiet.stays id stage _ hcall hplace
    exact .inr ⟨⟨stage, n, hcall', hfits, hplace, hn⟩, hsilent⟩

lemma later_after (h : Stocked c) (htracked : Tracked lost [] c) (hafter : c.after es = some c') :
    Later c c' ∧ Stocked c' := by
  induction es generalizing c lost with
  | nil =>
    cases hafter
    exact ⟨.refl _, h⟩
  | cons e es ih =>
    obtain ⟨next, hadmits, hstep, hrest⟩ := after_cons hafter
    obtain ⟨hlater, hstocked⟩ := stocked_step h htracked hadmits hstep
    obtain ⟨hlater', hstocked'⟩ := ih hstocked (tracked_step htracked hadmits hstep) hrest
    exact ⟨hlater.trans hlater', hstocked'⟩

/-- A call that is moved on is handed what lies in a slot of its key, at once or later. -/
lemma Serves.meets (h : Serves c id key n₀ next) (hstep : c.step e = some next)
    (hsound : IsSound next) (hlater : Later next.1 c')
    (hrest : next.1.IsAt id key n₀ → next.1.handedTo? id es = some o →
      Meets next.1 c' key n₀ o)
    (hhanded : c.handedTo? id (e :: es) = some o) : Meets c c' key n₀ o := by
  cases hresult : next.2 with
  | none =>
    rw [handedTo?_cons_of_ne hstep (by simp [hresult])] at hhanded
    exact (hrest (h.going hresult) hhanded).of_later h.later
  | some said =>
    obtain ⟨id', answer⟩ := said
    obtain ⟨rfl, -, hholds⟩ := h.ended id' answer hresult
    rw [handedTo?_cons_self hstep hresult] at hhanded
    cases answer with
    | object o' =>
      obtain rfl := Option.some_inj.mp hhanded
      exact ⟨next.1, h.later, hlater, (hsound id' o' hresult).1, hholds o' rfl⟩
    | _ => cases hhanded

lemma meets_of_isAt (h : Stocked c) (htracked : Tracked lost [] c) (hat : c.IsAt id key n₀)
    (hafter : c.after es = some c') (hhanded : c.handedTo? id es = some o) :
    Meets c c' key n₀ o := by
  induction es generalizing c lost with
  | nil => cases hhanded
  | cons e es ih =>
    obtain ⟨next, hadmits, hstep, hrest⟩ := after_cons hafter
    obtain ⟨hlater, hstocked⟩ := stocked_step h htracked hadmits hstep
    have htracked' := tracked_step htracked hadmits hstep
    rcases isAt_step h htracked hadmits hstep hat with hserves | ⟨hat', hsilent⟩
    · exact hserves.meets hstep (isSound_step htracked hadmits hstep)
        (later_after hstocked htracked' hrest).1 (fun hat' => ih hstocked htracked' hat' hrest)
        hhanded
    · rw [handedTo?_cons_of_ne hstep hsilent] at hhanded
      exact (ih hstocked htracked' hat' hrest hhanded).of_later hlater

/-- What a call is handed lies in a slot of its key; a pool lies in the slot that the call went to
when it began. -/
lemma meets_of_callGet (h : Stocked c) (htracked : Tracked lost [] c)
    (hafter : c.after (.callGet id key :: es) = some c')
    (hhanded : c.handedTo? id (.callGet id key :: es) = some o) :
    Meets c c' key (c.slotFor key) o := by
  obtain ⟨next, hadmits, hstep, hrest⟩ := after_cons hafter
  obtain ⟨-, hstocked⟩ := stocked_step h htracked hadmits hstep
  have htracked' := tracked_step htracked hadmits hstep
  have hserves : Serves c id key (c.slotFor key) next := by
    cases hstep
    exact .approach h htracked.made fun _ => rfl
  exact hserves.meets hstep (isSound_step htracked hadmits hstep)
    (later_after hstocked htracked' hrest).1
    (fun hat hhanded' => meets_of_isAt hstocked htracked' hat hrest hhanded') hhanded

/-! ## Pools that callers close -/

/-- The pools that events close for callers. -/
def closings (c : Cache) : List Event → List ℕ
  | [] => []
  | e :: es => c.closes e ++ ((c.step e).map fun next => next.1.closings es).getD []

lemma closings_cons (hstep : c.step e = some next) (es : List Event) :
    c.closings (e :: es) = c.closes e ++ next.1.closings es := by
  rw [closings, hstep]
  rfl

/-- A pool in the index is closed exactly if a caller has closed it. -/
structure Shelved (hands : List ℕ) (c : Cache) : Prop where
  made : ∀ m ∈ hands, c.HasMade (.pool m)
  shelf : ∀ key n m, (key, n) ∈ c.index → (c.slot n).value = some (.pool m) →
    (c.isClosed (.pool m) = true ↔ m ∈ hands)
  /-- A pool that a call closes has left the index for good. -/
  doomed : ∀ id stage m, c.stage? id = some stage → .pool m ∈ stage.doomed →
    c.HasMade (.pool m) ∧ ∀ key n, (key, n) ∈ c.index → (c.slot n).value ≠ some (.pool m)

lemma Stage.doomed_of_place? (h : stage.place? = some (key, n)) : stage.doomed = [] := by
  cases stage with
  | closing rest answer => cases h
  | _ => rfl

lemma hasMade_of_isClosed {m : ℕ} (h : c.isClosed (.pool m) = true) : c.HasMade (.pool m) := by
  by_contra hnew
  rw [isClosed, List.getElem?_eq_none (Nat.le_of_not_lt hnew)] at h
  cases h

/-- A call for a key puts only new pools into the index, which nobody has closed. -/
lemma Shelved.serves (h : Shelved hands c) (hserves : Serves c id key n₀ next) :
    Shelved hands next.1 := by
  have hkept : ∀ key' n m, (key', n) ∈ next.1.index → (next.1.slot n).value = some (.pool m) →
      (key', n) ∈ c.index ∧ (c.slot n).value = some (.pool m) ∨ ¬c.HasMade (.pool m) := by
    intro key' n m hentry hvalue
    rcases hserves.later.value n _ hvalue with hvalue | ⟨hnew, -⟩
    · rcases hserves.index key' n hentry with hentry | hle
      · exact .inl ⟨hentry, hvalue⟩
      · exact absurd (lt_of_value hvalue) (Nat.not_lt_of_le hle)
    · exact .inr hnew
  refine ⟨fun m hm => hserves.later.made _ (h.made m hm), fun key' n m hentry hvalue => ?_,
    fun id' stage m hcall hm => ?_⟩
  · rw [hserves.pools]
    rcases hkept key' n m hentry hvalue with ⟨hentry, hvalue⟩ | hnew
    · exact h.shelf key' n m hentry hvalue
    · exact iff_of_false (fun hclosed => hnew (hasMade_of_isClosed hclosed))
        fun hm => hnew (h.made m hm)
  · have hold : c.stage? id' = some stage := by
      by_cases hid : id' = id
      · subst hid
        obtain ⟨-, n', hplace⟩ := hserves.place hcall
        rw [Stage.doomed_of_place? hplace] at hm
        cases hm
      · exact (hserves.others id' hid).symm.trans hcall
    obtain ⟨hmade, hgone⟩ := h.doomed id' stage m hold hm
    refine ⟨hserves.later.made _ hmade, fun key' n hentry hvalue => ?_⟩
    rcases hkept key' n m hentry hvalue with ⟨hentry, hvalue⟩ | hnew
    · exact hgone key' n hentry hvalue
    · exact hnew hmade

/-- What calls close has left the index. -/
lemma Shelved.quiet (h : Shelved hands c) (hstocked : Stocked c) (htracked : Tracked lost [] c)
    (hquiet : Quiet c e next) : Shelved (hands ++ c.closes e) next.1 := by
  have hslot : ∀ n, next.1.slot n = c.slot n := fun n => by rw [slot, slot, hquiet.slots]
  refine ⟨fun m hm => ?_, fun key' n m hentry hvalue => ?_, fun id stage m hcall hm => ?_⟩
  · rcases List.mem_append.mp hm with hm | hm
    · exact hquiet.made _ (h.made m hm)
    · exact hquiet.made _ (hquiet.hands m hm).1
  · have hentry' := hquiet.index key' n hentry
    rw [hslot] at hvalue
    have hshelf := h.shelf key' n m hentry' hvalue
    rw [List.mem_append]
    refine ⟨fun hclosed => ?_, ?_⟩
    · rcases hquiet.pools m hclosed with hclosed | hm | ⟨id, stage, hcall, hm⟩
      · exact .inl (hshelf.mp hclosed)
      · exact .inr hm
      · exact absurd hvalue ((h.doomed id stage m hcall hm).2 key' n hentry')
    · rintro (hm | hm)
      · exact hquiet.closed _ (hshelf.mpr hm)
      · exact (hquiet.hands m hm).2
  · rcases hquiet.doomed id stage _ hcall hm with
      ⟨stage', hcall', hm⟩ | ⟨key', n, hin, hout, hvalue⟩
    · obtain ⟨hmade, hgone⟩ := h.doomed id stage' m hcall' hm
      refine ⟨hquiet.made _ hmade, fun key' n hentry => ?_⟩
      rw [hslot]
      exact hgone key' n (hquiet.index key' n hentry)
    -- The object has one slot, which had one key in the index.
    · refine ⟨hquiet.made _ (hstocked.made n _ hvalue), fun key'' n' hentry hvalue' => hout ?_⟩
      rw [hslot] at hvalue'
      obtain rfl := hstocked.single n n' _ hvalue hvalue'
      have hkey := (htracked.made key' n hin).2
      have hkey' := (htracked.made key'' n (hquiet.index key'' n hentry)).2
      rwa [← hkey, hkey']

lemma shelved_step (h : Shelved hands c) (hstocked : Stocked c) (htracked : Tracked lost [] c)
    (hadmits : c.admits e = true) (hstep : c.step e = some next) :
    Shelved (hands ++ c.closes e) next.1 := by
  rcases serves_or_quiet hstocked htracked hadmits hstep with
    ⟨id, key, n, hconcerns, hserves⟩ | hquiet
  · rw [hconcerns.closes_eq, List.append_nil]
    exact h.serves hserves
  · exact h.quiet hstocked htracked hquiet

lemma shelved_after (h : Shelved hands c) (hstocked : Stocked c) (htracked : Tracked lost [] c)
    (hafter : c.after es = some c') : Shelved (hands ++ c.closings es) c' := by
  induction es generalizing c lost hands with
  | nil =>
    cases hafter
    rwa [closings, List.append_nil]
  | cons e es ih =>
    obtain ⟨next, hadmits, hstep, hrest⟩ := after_cons hafter
    have hshelved := ih (shelved_step h hstocked htracked hadmits hstep)
      (stocked_step hstocked htracked hadmits hstep).2 (tracked_step htracked hadmits hstep) hrest
    rwa [closings_cons hstep, ← List.append_assoc]

lemma shelved_empty (node : Node) (registry : Registry) :
    Shelved [] ({ node, registry } : Cache) where
  made m hm := by cases hm
  shelf key n m hentry := by cases hentry
  doomed id stage m hcall := by cases hcall

/-- After every history of a new cache, the object that a call comes to is of the kind that was
asked for.  It was closed before the call began exactly if the slot of the key had a pool that a
caller had closed, which is then what the call is handed; so it was not closed if it is a
connection, and never if callers leave the closing of pools to the cache. -/
theorem handed_closed_iff {node : Node} {registry : Registry} {before rest : List Event}
    {c₀ c : Cache} {id : ℕ} {key : Key} {o : Object}
    (hbefore : ({ node, registry } : Cache).after before = some c₀)
    (hafter : c₀.after (.callGet id key :: rest) = some c)
    (hhanded : c₀.handedTo? id (.callGet id key :: rest) = some o) :
    o.kind = key.kind ∧
    (key.kind = .connection → c₀.isClosed o = false) ∧
    (∀ n m, (key, n) ∈ c₀.index → (c₀.slot n).value = some (.pool m) → o = .pool m) ∧
    (c₀.isClosed o = true ↔ ∃ n m, (key, n) ∈ c₀.index ∧ (c₀.slot n).value = some (.pool m) ∧
      m ∈ ({ node, registry } : Cache).closings before) := by
  have htracked := tracked_after (tracked_empty node registry) hbefore
  obtain ⟨-, hstocked⟩ :=
    later_after (stocked_empty node registry) (tracked_empty node registry) hbefore
  have hshelved := shelved_after (shelved_empty node registry) (stocked_empty node registry)
    (tracked_empty node registry) hbefore
  rw [List.nil_append] at hshelved htracked
  obtain ⟨c₁, hlater, -, hopen, n, hkey, hvalue, hn⟩ :=
    meets_of_callGet hstocked htracked hafter hhanded
  have hkind : o.kind = key.kind := hkey ▸ hstocked.kind_of_later hlater hvalue
  have hconnection : key.kind = .connection → c₀.isClosed o = false := by
    intro hsingle
    cases o with
    | pool m => cases hkind.trans hsingle
    | connection m =>
      refine eq_false_of_ne_true fun hclosed => ?_
      rw [show c₁.isSpent (.connection m) = true from hlater.closed _ hclosed] at hopen
      cases hopen
  have hpool : ∀ n m, (key, n) ∈ c₀.index → (c₀.slot n).value = some (.pool m) → o = .pool m := by
    intro n' m hentry hheld
    have hkind' : key.kind = .connectionPool := by
      rw [← (htracked.made key n' hentry).2]
      exact (hstocked.kind n' _ hheld).symm
    obtain rfl : n = n' := (hn hkind').trans (htracked.slotFor_eq hentry)
    exact Option.some_inj.mp (hvalue.symm.trans (hlater.keeps n _ hheld))
  refine ⟨hkind, hconnection, hpool, fun hclosed => ?_, ?_⟩
  · cases o with
    | connection m =>
      rw [hconnection hkind.symm] at hclosed
      cases hclosed
    | pool m =>
      have hheld : (c₀.slot n).value = some (.pool m) := by
        rcases hlater.value n _ hvalue with hheld | ⟨hnew, -⟩
        · exact hheld
        · exact absurd (hasMade_of_isClosed hclosed) hnew
      have hentry := mem_index_of_slotFor (lt_of_value hheld) (hn hkind.symm)
      exact ⟨n, m, hentry, hheld, (hshelved.shelf key n m hentry hheld).mp hclosed⟩
  · rintro ⟨n', m, hentry, hheld, hm⟩
    rw [hpool n' m hentry hheld]
    exact (hshelved.shelf key n' m hentry hheld).mpr hm

/-- A pool was evicted, which closes it: the next call is handed another pool, which was not. -/
theorem handed_closed_iff_evicted :
    let cache : Cache := { node := ⟨"local", none, .empty, .empty⟩, registry := .builtIn }
    let key : Key := .ofOverrides .connectionPool [("min_size", "1")]
    let before : List Event :=
      [.callGet 0 key, .created 0 none, .callEvict 1 key, .closedNext 1]
    let call : List Event := [.callGet 2 key, .created 2 none]
    ∃ c₀ c, cache.after before = some c₀ ∧ c₀.after call = some c ∧
      c₀.handedTo? 2 call = some (.pool 1) ∧ c₀.isClosed (.pool 0) = true ∧
      c₀.isClosed (.pool 1) = false := by
  intro cache key before call
  have hrun : (cache.after before).map (fun c₀ =>
      (c₀.isClosed (.pool 0), c₀.handedTo? 2 call, (c₀.after call).isSome)) =
        some (true, some (.pool 1), true) := by
    decide +kernel
  have hclosings : cache.closings before = [] := by decide +kernel
  obtain ⟨c₀, hbefore, hc₀⟩ := Option.map_eq_some_iff.mp hrun
  simp only [Prod.mk.injEq] at hc₀
  obtain ⟨hevicted, hhanded, hsome⟩ := hc₀
  obtain ⟨c, hafter⟩ := Option.isSome_iff_exists.mp hsome
  refine ⟨c₀, c, hbefore, hafter, hhanded, hevicted, eq_false_of_ne_true fun hclosed => ?_⟩
  obtain ⟨n, m, -, -, hm⟩ := (handed_closed_iff hbefore hafter hhanded).2.2.2.mp hclosed
  rw [hclosings] at hm
  cases hm

/-- A pool that its caller has closed is handed out again. -/
theorem closed_pool_handed_again :
    let cache : Cache := { node := ⟨"local", none, .empty, .empty⟩, registry := .builtIn }
    let key : Key := .ofOverrides .connectionPool [("min_size", "1")]
    ∃ c₀ c, cache.after [.callGet 0 key, .created 0 none, .close (.pool 0)] = some c₀ ∧
      c₀.isClosed (.pool 0) = true ∧ c₀.after [.callGet 1 key] = some c ∧
      c₀.handedTo? 1 [.callGet 1 key] = some (.pool 0) := by
  intro cache key
  have hrun : (cache.after [.callGet 0 key, .created 0 none, .close (.pool 0)]).map (fun c₀ =>
      (c₀.isClosed (.pool 0), (c₀.after [.callGet 1 key]).isSome,
        c₀.handedTo? 1 [.callGet 1 key])) = some (true, true, some (.pool 0)) := by
    decide +kernel
  obtain ⟨c₀, hbefore, hc₀⟩ := Option.map_eq_some_iff.mp hrun
  simp only [Prod.mk.injEq] at hc₀
  obtain ⟨hclosed, hsome, hhanded⟩ := hc₀
  obtain ⟨c, hafter⟩ := Option.isSome_iff_exists.mp hsome
  exact ⟨c₀, c, hbefore, hclosed, hafter, hhanded⟩

end BulkValues.Cache
