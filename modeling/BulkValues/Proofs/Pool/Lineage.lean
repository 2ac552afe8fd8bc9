/-
# Where connections come from

A connection comes into a pool by being opened.  From then on it may be idle, held or lent, and
its entry is touched, but it keeps its number and the time at which it was opened; once nobody has
it, it does not come back.  Connections join the idle ones at the end only, when they are opened
up front or given back, and leave them without changing their order.
-/
import BulkValues.Proofs.Pool.Search
import BulkValues.Proofs.Pool.Capacity

namespace BulkValues.Pool

/-- A connection and when it was opened. -/
def Entry.birth (e : Entry) : ℕ × ℕ := (e.connection, e.createdAt)

/-- The connections that somebody has, and when each was opened. -/
def births (p : Pool) : List (ℕ × ℕ) := p.owned.map Entry.birth

/-- The connection that an event opens. -/
def born (p : Pool) : Event → List (ℕ × ℕ)
  | .created _ none => [(p.created, p.now)]
  | _ => []

/-- Which connections an event may add to the idle ones. -/
inductive Joins (p : Pool) : Event → List Entry → Prop where
  | nobody (event : Event) : Joins p event []
  | opened (id : ℕ) : Joins p (.created id none) [p.fresh]
  | back {id : ℕ} {e : Entry} (hlent : p.lent.lookup id = some e) :
      Joins p (.giveBack id) [{ e with lastUsed := p.now }]

/-- What an event may do to the connections of a pool. -/
structure Passage (p : Pool) (event : Event) (q : Pool) : Prop where
  later : p.now ≤ q.now
  idle : ∃ kept joined, q.idle = kept ++ joined ∧ kept.Sublist p.idle ∧ p.Joins event joined
  births : q.births ⊆ p.born event ++ p.births
  created : q.created = p.created + (p.born event).length

/-- No connection comes; connections go, or change hands. -/
structure Thins (p q : Pool) : Prop where
  now : q.now = p.now
  created : q.created = p.created
  idle : q.idle.Sublist p.idle
  owned : q.owned ⊆ p.owned

/-- A connection is gone for good: nobody has it, now or later. -/
def IsGone (p : Pool) (connection : ℕ) : Prop :=
  ∀ later q, p.after later = some q → q.places connection = 0

variable {c : Config} {loose id n : ℕ} {p q : Pool} {t : Task} {e : Entry} {deadline : ℕ}
  {phase : Phase} {event : Event} {next : Pool × Result} {events : List Event}

/-! ## Who has a connection -/

lemma mem_owned_iff : e ∈ p.owned ↔
    e ∈ p.idle ∨ (∃ u ∈ p.tasks, e ∈ u.2.held) ∨ ∃ l ∈ p.lent, l.2 = e := by
  rw [owned, List.mem_append, List.mem_append, List.mem_flatMap, List.mem_map, or_assoc]

lemma mem_owned_of_mem_idle (he : e ∈ p.idle) : e ∈ p.owned := mem_owned_iff.mpr (.inl he)

lemma mem_owned_of_mem_held {u : ℕ × Task} (hu : u ∈ p.tasks) (he : e ∈ u.2.held) : e ∈ p.owned :=
  mem_owned_iff.mpr (.inr (.inl ⟨u, hu, he⟩))

lemma mem_owned_of_mem_lent {l : ℕ × Entry} (hl : l ∈ p.lent) : l.2 ∈ p.owned :=
  mem_owned_iff.mpr (.inr (.inr ⟨l, hl, rfl⟩))

lemma mem_owned_of_task? (ht : p.task? id = some t) (he : e ∈ t.held) : e ∈ p.owned := by
  obtain ⟨before, after, htasks, -⟩ := List.lookup_eq_some_iff.mp ht
  exact mem_owned_of_mem_held (u := (id, t)) (htasks ▸ by simp) he

lemma mem_owned_of_lookup (hlent : p.lent.lookup id = some e) : e ∈ p.owned := by
  obtain ⟨before, after, hsplit, -⟩ := List.lookup_eq_some_iff.mp hlent
  exact mem_owned_of_mem_lent (l := (id, e)) (hsplit ▸ by simp)

lemma mem_held_setPhase {u : ℕ × Task} (hu : u ∈ (p.setPhase id phase).tasks)
    (he : e ∈ u.2.held) : e ∈ phase.held?.toList ∨ ∃ v ∈ p.tasks, e ∈ v.2.held := by
  obtain ⟨⟨n, t⟩, hv, rfl⟩ := List.mem_map.mp hu
  cases t with
  | get deadline old =>
    dsimp only [Task.held] at he
    split at he
    · exact .inl he
    · exact .inr ⟨_, hv, he⟩
  | «open» missing => cases he
  | close rest => exact .inr ⟨_, hv, he⟩

/-! ## No connection comes -/

namespace Thins

lemma refl (p : Pool) : Thins p p := ⟨rfl, rfl, List.Sublist.refl _, List.Subset.refl _⟩

lemma trans {r : Pool} (h : Thins p q) (h' : Thins q r) : Thins p r :=
  ⟨h'.now.trans h.now, h'.created.trans h.created, h'.idle.trans h.idle,
    List.Subset.trans h'.owned h.owned⟩

/-- Whoever has a connection had it, or somebody else had it. -/
lemma of_held (hnow : q.now = p.now) (hcreated : q.created = p.created)
    (hidle : q.idle.Sublist p.idle) (hlent : q.lent ⊆ p.lent)
    (hheld : ∀ u ∈ q.tasks, ∀ e ∈ u.2.held, e ∈ p.owned) : Thins p q := by
  refine ⟨hnow, hcreated, hidle, fun e he => ?_⟩
  rcases mem_owned_iff.mp he with he | ⟨u, hu, he⟩ | ⟨l, hl, rfl⟩
  · exact mem_owned_of_mem_idle (hidle.subset he)
  · exact hheld u hu e he
  · exact mem_owned_of_mem_lent (hlent hl)

lemma of_tasks (hnow : q.now = p.now) (hcreated : q.created = p.created)
    (hidle : q.idle = p.idle) (hlent : q.lent = p.lent) (htasks : q.tasks = p.tasks) :
    Thins p q :=
  of_held hnow hcreated (hidle ▸ List.Sublist.refl _) (hlent ▸ List.Subset.refl _)
    fun _ hu _ he => mem_owned_of_mem_held (htasks ▸ hu) he

lemma close (p : Pool) (closedConnections : List ℕ) : Thins p { p with closedConnections } :=
  of_tasks rfl rfl rfl rfl rfl

lemma removeTask (p : Pool) (id : ℕ) : Thins p (p.removeTask id) :=
  of_held rfl rfl (List.Sublist.refl _) (List.Subset.refl _)
    fun _ hu _ he => mem_owned_of_mem_held (List.mem_of_mem_filter hu) he

lemma setTask (id : ℕ) (hheld : t.held ⊆ p.owned) : Thins p (p.setTask id t) := by
  refine of_held rfl rfl (List.Sublist.refl _) (List.Subset.refl _) fun u hu => ?_
  obtain ⟨v, hv, rfl⟩ := List.mem_map.mp hu
  split
  · exact fun e he => hheld he
  · exact fun e he => mem_owned_of_mem_held hv he

/-- A call comes; it may have taken the idle connections. -/
lemma addTask (id : ℕ) {idle : List Entry} (hidle : idle.Sublist p.idle)
    (hheld : t.held ⊆ p.idle) : Thins p ({ p with idle }.addTask id t) := by
  refine of_held rfl rfl hidle (List.Subset.refl _) fun u hu => ?_
  rcases List.mem_append.mp hu with hu | hu
  · exact fun e he => mem_owned_of_mem_held hu he
  · rw [List.mem_singleton.mp hu]
    exact fun e he => mem_owned_of_mem_idle (hheld he)

lemma setPhase (id : ℕ) (hheld : phase.held?.toList ⊆ p.owned) :
    Thins p (p.setPhase id phase) := by
  refine of_held rfl rfl (List.Sublist.refl _) (List.Subset.refl _) fun u hu e he => ?_
  rcases mem_held_setPhase hu he with he | ⟨v, hv, he⟩
  · exact hheld he
  · exact mem_owned_of_mem_held hv he

/-- A request that searches holds what was in front of the idle ones. -/
lemma search (p : Pool) (id : ℕ) : Thins p (p.search id) := by
  rw [search_eq]
  refine of_held rfl rfl (List.tail_sublist _) (List.Subset.refl _) fun u hu e he => ?_
  rcases mem_held_setPhase hu he with he | ⟨v, hv, he⟩
  · rw [held?_nextPhase, Option.mem_toList] at he
    exact mem_owned_of_mem_idle (List.mem_of_mem_head? he)
  · exact mem_owned_of_mem_held hv he

lemma releasePermit (p : Pool) : Thins p p.releasePermit := by
  rw [Pool.releasePermit]
  split
  · exact of_tasks rfl rfl rfl rfl rfl
  · rename_i id rest hqueue
    have hleft : Thins p { p with queue := rest } := of_tasks rfl rfl rfl rfl rfl
    exact hleft.trans (setPhase id (List.nil_subset _))

lemma quit (p : Pool) (id : ℕ) (phase : Phase) : Thins p (p.quit id phase) := by
  have hremoved := removeTask p id
  rw [Pool.quit]
  split
  · have hcounted : Thins (p.removeTask id) { p.removeTask id with waiting := p.waiting - 1 } :=
      of_tasks rfl rfl rfl rfl rfl
    exact (hremoved.trans hcounted).trans (releasePermit _)
  · exact hremoved.trans (of_tasks rfl rfl rfl rfl rfl)

lemma startGet (p : Pool) (id : ℕ) : Thins p (p.startGet id).1 := by
  rw [Pool.startGet]
  split
  · exact refl p
  · split
    · split
      · exact of_tasks rfl rfl rfl rfl rfl
      · have hqueued : Thins p { p with waiting := p.waiting + 1, queue := p.queue ++ [id] } :=
          of_tasks rfl rfl rfl rfl rfl
        exact hqueued.trans (addTask id (List.Sublist.refl p.idle) (List.nil_subset _))
    · rename_i free hfree
      have hcounted : Thins p { p with waiting := p.waiting + 1, free } :=
        of_tasks rfl rfl rfl rfl rfl
      have hadded := addTask (p := { p with waiting := p.waiting + 1, free })
        (t := .get (p.now + p.config.acquireTimeout) .granted) id (List.Sublist.refl p.idle)
        (List.nil_subset _)
      exact (hcounted.trans hadded).trans (search _ id)

lemma startOpen (p : Pool) (id : ℕ) : Thins p (p.startOpen id).1 := by
  rw [Pool.startOpen]
  split
  · exact refl p
  · split
    · exact refl p
    · exact addTask id (List.Sublist.refl p.idle) (List.nil_subset _)

lemma startCloseIdle (p : Pool) (id : ℕ) : Thins p (p.startCloseIdle id).1 := by
  rw [Pool.startCloseIdle]
  split
  · exact refl p
  · exact addTask id (List.nil_sublist p.idle) (List.Subset.refl _)

lemma startClose (p : Pool) (id : ℕ) : Thins p (p.startClose id).1 := by
  rw [Pool.startClose]
  split
  · exact refl p
  · have hclosed : Thins p { p with isClosed := true, queue := [] } :=
      of_tasks rfl rfl rfl rfl rfl
    exact hclosed.trans (startCloseIdle _ id)

end Thins

/-! ## What an event does to connections -/

lemma mem_births (he : e ∈ p.owned) : e.birth ∈ p.births := List.mem_map_of_mem he

lemma births_subset {bs : List (ℕ × ℕ)} (hidle : ∀ e ∈ q.idle, e.birth ∈ bs)
    (hheld : ∀ u ∈ q.tasks, ∀ e ∈ u.2.held, e.birth ∈ bs)
    (hlent : ∀ l ∈ q.lent, l.2.birth ∈ bs) : q.births ⊆ bs := by
  intro b hb
  obtain ⟨e, he, rfl⟩ := List.mem_map.mp hb
  rcases mem_owned_iff.mp he with he | ⟨u, hu, he⟩ | ⟨l, hl, rfl⟩
  · exact hidle e he
  · exact hheld u hu e he
  · exact hlent l hl

namespace Passage

lemma of_thins (h : Thins p q) (hborn : p.born event = []) : Passage p event q where
  later := h.now.ge
  idle := ⟨q.idle, [], (List.append_nil _).symm, h.idle, .nobody event⟩
  births := by
    rw [hborn, List.nil_append]
    exact List.map_subset _ h.owned
  created := by
    rw [hborn, h.created]
    rfl

lemma trans_thins {r : Pool} (h : Passage p event q) (h' : Thins q r) (hidle : r.idle = q.idle) :
    Passage p event r where
  later := h.later.trans_eq h'.now.symm
  idle := hidle ▸ h.idle
  births := List.Subset.trans (List.map_subset _ h'.owned) h.births
  created := h'.created.trans h.created

/-- A connection is lent that was opened now, or that somebody had. -/
lemma lend (created : ℕ) (hcreated : created = p.created + (p.born event).length) (id : ℕ)
    (he : e.birth ∈ p.born event ++ p.births) :
    Passage p event (Pool.lend { p with created } id e).1 := by
  have hlent : Passage p event { p with
      created, waiting := p.waiting - 1, active := p.active + 1, lent := p.lent ++ [(id, e)] } := by
    refine ⟨le_rfl, ⟨p.idle, [], (List.append_nil _).symm, List.Sublist.refl _, .nobody event⟩,
      births_subset (fun x hx => ?_) (fun u hu x hx => ?_) (fun l hl => ?_), hcreated⟩
    · exact List.mem_append_right _ (mem_births (mem_owned_of_mem_idle hx))
    · exact List.mem_append_right _ (mem_births (mem_owned_of_mem_held hu hx))
    · rcases List.mem_append.mp hl with hl | hl
      · exact List.mem_append_right _ (mem_births (mem_owned_of_mem_lent hl))
      · rw [List.mem_singleton.mp hl]
        exact he
  exact hlent.trans_thins (Thins.removeTask _ id) rfl

/-- A connection that is opened up front is idle. -/
lemma pushFresh (p : Pool) (id : ℕ) : Passage p (.created id none)
    { p with created := p.created + 1, idle := p.idle ++ [p.fresh] } := by
  refine ⟨le_rfl, ⟨p.idle, _, rfl, List.Sublist.refl _, .opened id⟩,
    births_subset (fun x hx => ?_) (fun u hu x hx => ?_) (fun l hl => ?_), rfl⟩
  · rcases List.mem_append.mp hx with hx | hx
    · exact List.mem_cons_of_mem _ (mem_births (mem_owned_of_mem_idle hx))
    · rw [List.mem_singleton.mp hx]
      exact List.mem_cons_self
  · exact List.mem_cons_of_mem _ (mem_births (mem_owned_of_mem_held hu hx))
  · exact List.mem_cons_of_mem _ (mem_births (mem_owned_of_mem_lent hl))

/-- A connection that comes back is idle again, or nobody has it. -/
lemma takeBack (hlent : p.lent.lookup id = some e) :
    Passage p (.giveBack id) (p.takeBack id e) := by
  obtain ⟨discarded, heq⟩ := takeBack_eq p id e
  have he : e.birth ∈ p.births := mem_births (mem_owned_of_lookup hlent)
  have hended : Passage p (.giveBack id) { p with
      active := p.active - 1
      lent := p.lent.filter fun l => l.1 ≠ id
      idle := if p.keeps e then p.idle ++ [{ e with lastUsed := p.now }] else p.idle
      discarded } := by
    refine ⟨le_rfl, ?_, births_subset (fun x hx => ?_) (fun u hu x hx => ?_) (fun l hl => ?_), rfl⟩
    · dsimp only
      split
      · exact ⟨p.idle, _, rfl, List.Sublist.refl _, .back hlent⟩
      · exact ⟨p.idle, [], (List.append_nil _).symm, List.Sublist.refl _, .nobody _⟩
    · dsimp only at hx
      split at hx
      · rcases List.mem_append.mp hx with hx | hx
        · exact mem_births (mem_owned_of_mem_idle hx)
        · rw [List.mem_singleton.mp hx]
          exact he
      · exact mem_births (mem_owned_of_mem_idle hx)
    · exact mem_births (mem_owned_of_mem_held hu hx)
    · exact mem_births (mem_owned_of_mem_lent (List.mem_of_mem_filter hl))
  rw [heq]
  exact hended.trans_thins (Thins.releasePermit _) (idle_releasePermit _)

end Passage

/-- Connections come to a pool as they are opened, and to the idle ones at the end. -/
lemma passage_of_step (hstep : p.step event = some next) : Passage p event next.1 := by
  cases effect_of_step hstep with
  | openStarted id => exact .of_thins (.startOpen p id) rfl
  | getStarted id => exact .of_thins (.startGet p id) rfl
  | closeIdleStarted id => exact .of_thins (.startCloseIdle p id) rfl
  | closeStarted id => exact .of_thins (.startClose p id) rfl
  | searched ht hopen => exact .of_thins (.search p _) rfl
  | refused ht hphase hclosed => exact .of_thins (.quit p _ _) rfl
  | approved ht =>
    rename_i id deadline e
    have he : e.birth ∈ p.births := mem_births (mem_owned_of_task? ht (List.mem_singleton_self e))
    exact .lend p.created rfl id he
  | disapproved ht =>
    rename_i id deadline e
    have hcounted : Thins p { p with discarded := p.discarded + 1 } := .of_tasks rfl rfl rfl rfl rfl
    exact .of_thins (hcounted.trans (.setPhase id fun x hx => mem_owned_of_task? ht hx)) rfl
  | discarded ht =>
    rename_i id deadline e
    exact .of_thins ((Thins.close p _).trans (.search _ id)) rfl
  | notCreated ht failure => exact .of_thins (Thins.quit p _ .creating) rfl
  | created ht => exact .lend (p.created + 1) rfl _ List.mem_cons_self
  | notOpened ht failure => exact .of_thins (.removeTask p _) rfl
  | openedLast ht => exact (Passage.pushFresh p _).trans_thins (.removeTask _ _) rfl
  | openedNext ht hmissing =>
    exact (Passage.pushFresh p _).trans_thins (.setTask _ (List.nil_subset _)) rfl
  | closedLast ht =>
    rename_i id e
    exact .of_thins ((Thins.close p _).trans (.removeTask _ id)) rfl
  | closedNext ht hrest =>
    rename_i id e rest
    refine .of_thins ((Thins.close p _).trans (.setTask id fun x hx => ?_)) rfl
    exact mem_owned_of_task? ht (List.mem_cons_of_mem e hx)
  | expired ht hdeadline =>
    exact .of_thins ((Thins.quit p _ _).trans (.of_tasks rfl rfl rfl rfl rfl)) rfl
  | requestAbandoned ht => exact .of_thins (.quit p _ _) rfl
  | callAbandoned ht hget => exact .of_thins (.removeTask p _) rfl
  | givenBack hlent => exact .takeBack hlent
  | connectionClosed connection => exact .of_thins (.close p _) rfl
  | passed ms =>
    exact ⟨Nat.le_add_right _ _, ⟨p.idle, [], (List.append_nil _).symm, List.Sublist.refl _,
      .nobody _⟩, List.Subset.refl _, rfl⟩

/-! ## What stays of a connection -/

lemma eq_of_mem_born {b : ℕ × ℕ} (hb : b ∈ p.born event) :
    b = (p.created, p.now) ∧ ∃ id, event = .created id none := by
  rw [born.eq_def] at hb
  split at hb
  · exact ⟨List.mem_singleton.mp hb, _, rfl⟩
  · cases hb

lemma places_pos_iff : 0 < p.places n ↔ ∃ time, (n, time) ∈ p.births := by
  rw [places, List.countP_pos_iff]
  constructor
  · rintro ⟨e, he, heq⟩
    exact ⟨e.createdAt, List.mem_map.mpr ⟨e, he, by rw [Entry.birth, of_decide_eq_true heq]⟩⟩
  · rintro ⟨time, hmem⟩
    obtain ⟨e, he, hbirth⟩ := List.mem_map.mp hmem
    exact ⟨e, he, decide_eq_true (congrArg Prod.fst hbirth)⟩

/-- Whoever is in a pool later was there, with the same birth, or is opened meanwhile. -/
lemma births_after (hafter : p.after events = some q) :
    ∀ b ∈ q.births, b ∈ p.births ∨ p.created ≤ b.1 := by
  induction events generalizing p with
  | nil =>
    cases hafter
    exact fun b hb => .inl hb
  | cons event events ih =>
    obtain ⟨next, -, hstep, hrest⟩ := after_cons hafter
    have hpassage := passage_of_step hstep
    have hcreated := hpassage.created
    intro b hb
    rcases ih hrest b hb with hb | hb
    · rcases List.mem_append.mp (hpassage.births hb) with hb | hb
      · obtain ⟨rfl, -⟩ := eq_of_mem_born hb
        exact .inr le_rfl
      · exact .inl hb
    · exact .inr (by omega)

/-- A connection that nobody has is gone for good. -/
lemma isGone_of_places (hplaces : p.places n = 0) (hopened : n < p.created) : p.IsGone n := by
  intro later q hafter
  by_contra hback
  obtain ⟨time, hmem⟩ := places_pos_iff.mp (Nat.pos_of_ne_zero hback)
  rcases births_after hafter _ hmem with hmem | hnew
  · exact absurd (places_pos_iff.mpr ⟨time, hmem⟩) (by omega)
  · exact absurd hopened (Nat.not_lt.mpr hnew)

/-- What nobody has stays so while no connection comes. -/
lemma Thins.isGone (h : Thins p q) (hplaces : p.places n = 0) (hopened : n < p.created) :
    q.IsGone n := by
  refine isGone_of_places ?_ (h.created ▸ hopened)
  by_contra hback
  obtain ⟨time, hmem⟩ := places_pos_iff.mp (Nat.pos_of_ne_zero hback)
  have hhad := places_pos_iff.mpr ⟨time, List.map_subset _ h.owned hmem⟩
  omega

/-- An idle connection that is taken out, and put nowhere, is gone for good. -/
lemma isGone_of_taken (haccounts : Accounts c loose p) {gone : List Entry} (he : e ∈ gone)
    (hplaces : q.places e.connection + gone.countP (·.connection = e.connection) ≤
      p.places e.connection) (hcreated : p.created ≤ q.created) : q.IsGone e.connection := by
  have honce := haccounts.placed.once e.connection
  have htaken : 0 < gone.countP (·.connection = e.connection) :=
    List.countP_pos_iff.mpr ⟨e, he, decide_eq_true rfl⟩
  refine isGone_of_places (by omega) ?_
  by_contra hnew
  have hnone := haccounts.placed.opened e.connection (hcreated.trans (Nat.not_lt.mp hnew))
  omega

end BulkValues.Pool
