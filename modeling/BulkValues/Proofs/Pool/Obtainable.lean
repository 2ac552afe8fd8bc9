/-
# Which configurations there are

A configuration is made from two sizes, which are checked, or is the usual one; calls may set its
other parts, and the settings of a section are such calls.  All of these have a size that is not
zero and not below the number of connections that are opened up front.

A configuration may also be read from a document, and there nothing is checked: whatever fits into
64 bits can be obtained.  And nowhere is the size compared with the number of permits that can be
handed out, which is smaller than 64 bits, so that a pool of some of the configurations cannot be
made.
-/
import BulkValues.Pool.Basic
import BulkValues.Proofs.Except
import BulkValues.Proofs.Json.Printed
import BulkValues.Proofs.Json.Reading
import BulkValues.Settings.Section

namespace BulkValues.Pool.Config

open BulkValues.Number

/-- The configurations that are made without reading a document. -/
inductive Built : Config → Prop
  /-- From two sizes, if they are found possible. -/
  | ofSizes (minSize maxSize : UInt64) {c : Config}
      (h : ofSizes minSize.toNat maxSize.toNat = .ok c) : Built c
  /-- The usual one. -/
  | standard : Built standard
  /-- From the settings of a section, if they can be read. -/
  | ofSection (s : Section) {c : Config} (h : s.poolConfig = .ok c) : Built c
  /-- By a call that sets one part. -/
  | set {c : Config} (h : Built c) (setting : Setting) : Built (c.set setting)

/-- The configurations that can be obtained at all. -/
inductive Obtainable : Config → Prop
  /-- Without a document. -/
  | built {c : Config} (h : Built c) : Obtainable c
  /-- From a document, if it can be read. -/
  | ofDocument (text : String) {c : Config}
      (h : (Json.readVerbatim? text).bind ofJson? = some c) : Obtainable c
  /-- By a call that sets one part. -/
  | set {c : Config} (h : Obtainable c) (setting : Setting) : Obtainable (c.set setting)

/-- All numbers of a configuration fit into 64 bits. -/
structure Fits (c : Config) : Prop where
  minSize : c.minSize < 2 ^ 64
  maxSize : c.maxSize < 2 ^ 64
  acquireTimeout : c.acquireTimeout < 2 ^ 64
  idleTimeout : c.idleTimeout < 2 ^ 64
  maxLifetime : ∀ ms, c.maxLifetime = some ms → ms < 2 ^ 64
  maxWaiting : c.maxWaiting < 2 ^ 64

/-- The sizes of a configuration make sense. -/
structure Sound (c : Config) : Prop where
  maxSize_pos : 0 < c.maxSize
  minSize_le : c.minSize ≤ c.maxSize

variable {c : Config} {minSize maxSize : ℕ} {s : Section}

/-! ## What is built -/

lemma ofSizes_eq_ok_iff :
    ofSizes minSize maxSize = .ok c ↔
      0 < maxSize ∧ minSize ≤ maxSize ∧ c = { minSize, maxSize } := by
  rw [ofSizes]
  split
  · rename_i hzero
    simp [hzero]
  · rename_i hpos
    split
    · rename_i habove
      simp [Nat.not_le.mpr habove]
    · rename_i hle
      simp [Nat.pos_of_ne_zero hpos, Nat.not_lt.mp hle, eq_comm]

lemma fits_of_sizes (hmin : minSize < 2 ^ 64) (hmax : maxSize < 2 ^ 64) :
    Fits { minSize, maxSize } where
  minSize := hmin
  maxSize := hmax
  acquireTimeout := (by decide : 30000 < 2 ^ 64)
  idleTimeout := (by decide : 600000 < 2 ^ 64)
  maxLifetime := by
    rintro _ ⟨⟩
    exact (by decide : 3600000 < 2 ^ 64)
  maxWaiting := (by decide : 0 < 2 ^ 64)

lemma Fits.set (h : Fits c) (setting : Setting) : Fits (c.set setting) := by
  cases setting with
  | acquireTimeout ms => exact { h with acquireTimeout := ms.toNat_lt }
  | idleTimeout ms => exact { h with idleTimeout := ms.toNat_lt }
  | maxLifetime ms =>
    refine { h with maxLifetime := ?_ }
    rintro _ ⟨⟩
    exact ms.toNat_lt
  | noMaxLifetime => exact { h with maxLifetime := nofun }
  | maxWaiting n => exact { h with maxWaiting := n.toNat_lt }
  | name text => exact ⟨h.minSize, h.maxSize, h.acquireTimeout, h.idleTimeout, h.maxLifetime,
      h.maxWaiting⟩

lemma Sound.set (h : Sound c) (setting : Setting) : Sound (c.set setting) := by
  cases setting with
  | _ => exact ⟨h.maxSize_pos, h.minSize_le⟩

lemma lt_of_readNat? {bound n : ℕ} {cs : List Char} (h : readNat? bound cs = some n) :
    n < bound := by
  rw [readNat?.eq_def] at h
  exact of_decide_eq_true (Option.filter_eq_some_iff.mp h).2

/-- A number of a section fits. -/
lemma lt_of_natural? {key : String} {n : ℕ} (h : s.natural? key = .ok (some n)) : n < 2 ^ 64 := by
  rw [Section.natural?] at h
  split at h
  · cases h
  · split at h
    · rename_i hread
      cases h
      exact lt_of_readNat? hread
    · cases h

lemma getD_lt_of_natural? {key : String} {found : Option ℕ} {usual : ℕ}
    (h : s.natural? key = .ok found) (husual : usual < 2 ^ 64) : found.getD usual < 2 ^ 64 := by
  cases found with
  | none => exact husual
  | some n => exact lt_of_natural? h

lemma of_poolConfig (h : s.poolConfig = .ok c) : Fits c ∧ Sound c := by
  simp only [Section.poolConfig, bind_eq_ok] at h
  obtain ⟨minSize, hmin, maxSize, hmax, sized, hsized, acquire, hacquire, idle, hidle, lifetime,
    hlifetime, waiting, hwaiting, h⟩ := h
  obtain ⟨hpos, hle, rfl⟩ := ofSizes_eq_ok_iff.mp hsized
  cases h
  have hminSize := getD_lt_of_natural? hmin (by decide : standard.minSize < 2 ^ 64)
  refine ⟨⟨hminSize, getD_lt_of_natural? hmax (by omega), getD_lt_of_natural? hacquire (by omega),
    getD_lt_of_natural? hidle (by omega), ?_, getD_lt_of_natural? hwaiting (by omega)⟩, hpos, hle⟩
  rintro _ ⟨⟩
  exact getD_lt_of_natural? hlifetime (by omega)

lemma of_built (h : Built c) : Fits c ∧ Sound c := by
  induction h with
  | ofSizes minSize maxSize h =>
    obtain ⟨hpos, hle, rfl⟩ := ofSizes_eq_ok_iff.mp h
    exact ⟨fits_of_sizes minSize.toNat_lt maxSize.toNat_lt, hpos, hle⟩
  | standard => exact ⟨fits_of_sizes (by decide) (by decide), by decide, by decide⟩
  | ofSection s h => exact of_poolConfig h
  | set h setting ih => exact ⟨ih.1.set setting, ih.2.set setting⟩

/-- The calls that set every part of a configuration to what another one has. -/
def settings (c : Config) : List Setting :=
  [.acquireTimeout (.ofNat c.acquireTimeout), .idleTimeout (.ofNat c.idleTimeout),
    (c.maxLifetime.map fun ms => .maxLifetime (.ofNat ms)).getD .noMaxLifetime,
    .maxWaiting (.ofNat c.maxWaiting)] ++ (c.givenName.map .name).toList

lemma built_foldl (h : Built c) (settings : List Setting) : Built (settings.foldl set c) := by
  induction settings generalizing c with
  | nil => exact h
  | cons setting settings ih => exact ih (h.set setting)

lemma foldl_settings (h : Fits c) :
    c.settings.foldl set { minSize := c.minSize, maxSize := c.maxSize } = c := by
  obtain ⟨minSize, maxSize, acquire, idle, lifetime, waiting, name⟩ := c
  have hacquire : (UInt64.ofNat acquire).toNat = acquire :=
    UInt64.toNat_ofNat_of_lt' h.acquireTimeout
  have hidle : (UInt64.ofNat idle).toNat = idle := UInt64.toNat_ofNat_of_lt' h.idleTimeout
  have hwaiting : (UInt64.ofNat waiting).toNat = waiting :=
    UInt64.toNat_ofNat_of_lt' h.maxWaiting
  cases lifetime with
  | none =>
    cases name with
    | none => simp [settings, set, hacquire, hidle, hwaiting]
    | some name => simp [settings, set, hacquire, hidle, hwaiting]
  | some ms =>
    have hms : (UInt64.ofNat ms).toNat = ms := UInt64.toNat_ofNat_of_lt' (h.maxLifetime ms rfl)
    cases name with
    | none => simp [settings, set, hacquire, hidle, hwaiting, hms]
    | some name => simp [settings, set, hacquire, hidle, hwaiting, hms]

/-- A configuration of sound sizes is made from the two and set part by part. -/
lemma built_of_sound (hfits : Fits c) (hsound : Sound c) : Built c := by
  have hsizes : Built { minSize := c.minSize, maxSize := c.maxSize } := by
    refine .ofSizes (.ofNat c.minSize) (.ofNat c.maxSize) (ofSizes_eq_ok_iff.mpr ?_)
    rw [UInt64.toNat_ofNat_of_lt' hfits.minSize, UInt64.toNat_ofNat_of_lt' hfits.maxSize]
    exact ⟨hsound.maxSize_pos, hsound.minSize_le, rfl⟩
  have hset := built_foldl hsizes c.settings
  rwa [foldl_settings hfits] at hset

/-! ## What is read -/

section Documents

variable {p : JsonNumber → Bool} {doc : Json} {names : List String} {values : List (Option Json)}

lemma exists_of_mem_mapM {α β : Type} {f : α → Option β} {xs : List α} {ys : List β} {y : β}
    (h : xs.mapM f = some ys) (hy : y ∈ ys) : ∃ x ∈ xs, f x = some y := by
  induction xs generalizing ys with
  | nil =>
    cases h
    cases hy
  | cons x xs ih =>
    simp only [List.mapM_cons, Option.bind_eq_bind, Option.bind_eq_some_iff] at h
    obtain ⟨y', hx, ys', hxs, h⟩ := h
    cases h
    rcases List.mem_cons.mp hy with rfl | hy
    · exact ⟨x, List.mem_cons_self, hx⟩
    · obtain ⟨x', hx', hf⟩ := ih hxs hy
      exact ⟨x', List.mem_cons_of_mem _ hx', hf⟩

/-- The numbers in the fields of a document are those of the document. -/
lemma all_of_known? (hdoc : doc.all p (fun _ => true) = true) (h : doc.known? names = some values)
    {v : Json} (hv : some v ∈ values) : v.all p (fun _ => true) = true := by
  rw [Json.known?.eq_def] at h
  split at h
  · rename_i fields
    rw [Json.all, Bool.true_and] at hdoc
    obtain ⟨name, -, hname⟩ := exists_of_mem_mapM h hv
    split at hname
    · cases hname
    · rename_i f hf
      cases hname
      have hmem : f ∈ fields := List.mem_of_mem_filter (hf ▸ List.mem_singleton_self f)
      exact Json.allFields_iff.mp hdoc f hmem
    · cases hname
  · rename_i items
    rw [Json.all] at hdoc
    split at h
    · cases h
      obtain ⟨item, hitem, heq⟩ := List.mem_map.mp hv
      cases heq
      exact Json.allItems_iff.mp hdoc v hitem
    · cases h
  · cases h

lemma lt_of_json {v : Option Json} {n : ℕ}
    (hv : ∀ doc, v = some doc → doc.all JsonNumber.isProper (fun _ => true) = true)
    (h : Json.natural? v = some n) : n < 2 ^ 64 := by
  rw [Json.natural?.eq_def] at h
  split at h
  · cases h
    exact of_decide_eq_true (hv _ rfl)
  · cases h

lemma lt_of_optional {v : Option Json} {n : ℕ}
    (hv : ∀ doc, v = some doc → doc.all JsonNumber.isProper (fun _ => true) = true)
    (h : Json.optionalNatural? v = some (some n)) : n < 2 ^ 64 := by
  rw [Json.optionalNatural?.eq_def] at h
  split at h
  · cases h
  · cases h
  · cases h
    exact of_decide_eq_true (hv _ rfl)
  · cases h

lemma fits_of_ofJson? (hdoc : doc.all JsonNumber.isProper (fun _ => true) = true)
    (h : ofJson? doc = some c) : Fits c := by
  rw [ofJson?, Option.bind_eq_bind, Option.bind_eq_some_iff] at h
  obtain ⟨values, hknown, h⟩ := h
  have hall : ∀ v ∈ values, ∀ d, v = some d →
      d.all JsonNumber.isProper (fun _ => true) = true := by
    rintro _ hv d rfl
    exact all_of_known? hdoc hknown hv
  split at h
  · simp only [Option.bind_eq_bind, Option.bind_eq_some_iff, Option.pure_def] at h
    obtain ⟨minSize, hmin, maxSize, hmax, acquire, hacquire, idle, hidle, lifetime, hlifetime,
      waiting, hwaiting, name, -, h⟩ := h
    cases h
    simp only [List.forall_mem_cons] at hall
    obtain ⟨hmin', hmax', hacquire', hidle', hlifetime', hwaiting', -⟩ := hall
    refine ⟨lt_of_json hmin' hmin, lt_of_json hmax' hmax, lt_of_json hacquire' hacquire,
      lt_of_json hidle' hidle, ?_, lt_of_json hwaiting' hwaiting⟩
    rintro _ rfl
    exact lt_of_optional hlifetime' hlifetime
  · cases h

/-- A document holds a configuration as it stands. -/
lemma ofJson?_toJson (c : Config) : ofJson? c.toJson = some c := by
  obtain ⟨minSize, maxSize, acquire, idle, lifetime, waiting, name⟩ := c
  cases lifetime with
  | none =>
    cases name with
    | none => rfl
    | some name => rfl
  | some ms =>
    cases name with
    | none => rfl
    | some name => rfl

/-- The document of a configuration that fits is read back from its text. -/
lemma readVerbatim?_toJson (h : Fits c) : Json.readVerbatim? c.toJson.text = some c.toJson := by
  obtain ⟨minSize, maxSize, acquire, idle, lifetime, waiting, name⟩ := c
  obtain ⟨hmin, hmax, hacquire, hidle, hlifetime, hwaiting⟩ := h
  have hnatural : ∀ n, n < 2 ^ 64 → (Json.ofNat n).all JsonNumber.isWhole (fun _ => true) = true :=
    fun n hn => decide_eq_true hn
  have hold :
      ((lifetime.map Json.ofNat).getD .null).all JsonNumber.isWhole (fun _ => true) = true := by
    cases lifetime with
    | none => rfl
    | some ms => exact hnatural ms (hlifetime ms rfl)
  have hname :
      ((name.map Json.string).getD .null).all JsonNumber.isWhole (fun _ => true) = true := by
    cases name with
    | none => rfl
    | some name => rfl
  refine Json.readVerbatim?_text (q := fun _ => true) ?_ ?_
  · simp [toJson, fieldNames, Json.all, Json.allFields, hnatural _ hmin, hnatural _ hmax,
      hnatural _ hacquire, hnatural _ hidle, hold, hnatural _ hwaiting, hname]
  · cases lifetime with
    | none =>
      cases name with
      | none => exact (by decide : 1 ≤ 127)
      | some name => exact (by decide : 1 ≤ 127)
    | some ms =>
      cases name with
      | none => exact (by decide : 1 ≤ 127)
      | some name => exact (by decide : 1 ≤ 127)

end Documents

lemma fits_of_obtainable (h : Obtainable c) : Fits c := by
  induction h with
  | built h => exact (of_built h).1
  | ofDocument text h =>
    obtain ⟨doc, hdoc, hconfig⟩ := Option.bind_eq_some_iff.mp h
    exact fits_of_ofJson? (Json.all_of_readVerbatim? hdoc) hconfig
  | set h setting ih => exact ih.set setting

lemma obtainable_of_fits (h : Fits c) : Obtainable c := by
  refine .ofDocument c.toJson.text ?_
  rw [readVerbatim?_toJson h, Option.bind_some, ofJson?_toJson]

/-! ## What works -/

lemma make_eq_ok_iff {now : ℕ} : (∃ pool, make c now = .ok pool) ↔ c.maxSize < 2 ^ 61 := by
  have hpermits : c.isUsable = true ↔ c.maxSize < 2 ^ 61 := by
    rw [isUsable, decide_eq_true_eq, maxPermits]
    omega
  rw [make, ← hpermits]
  cases c.isUsable with
  | true => simp
  | false => simp

/-- Without documents there are just the configurations whose numbers fit into 64 bits and whose
sizes are sound.  With documents there are all whose numbers fit, also those that can lend no
connection and those that keep more than they lend.  A pool can be made of a configuration exactly
if its size is below a limit, which neither the check of the sizes nor anything else enforces. -/
theorem obtainable_iff (c : Config) :
    (Built c ↔ Fits c ∧ Sound c) ∧ (Obtainable c ↔ Fits c) ∧
      ∀ now, (∃ pool, make c now = .ok pool) ↔ c.maxSize < 2 ^ 61 :=
  ⟨⟨of_built, fun h => built_of_sound h.1 h.2⟩, ⟨fits_of_obtainable, obtainable_of_fits⟩,
    fun _ => make_eq_ok_iff⟩

/-- A document gives a configuration that keeps five connections and lends none.  Two sizes are
found possible, and making the pool of them breaks off. -/
theorem obtainable_unusable :
    (Json.readVerbatim? "[5,0,30000,600000,3600000,0,null]").bind ofJson? =
        some { minSize := 5, maxSize := 0 } ∧
      ofSizes 0 2305843009213693952 = .ok { minSize := 0, maxSize := 2305843009213693952 } ∧
      make { minSize := 0, maxSize := 2305843009213693952 } 0 =
        .error (.tooManyPermits 2305843009213693952) :=
  ⟨by cbv, by rfl, by rfl⟩

end BulkValues.Pool.Config
