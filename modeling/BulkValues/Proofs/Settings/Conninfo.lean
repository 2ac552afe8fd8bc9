/-
# Connection strings read back

A connection string is a list of parameters with white space between them.  A parameter is a name,
an equals sign and a value; the value is quoted, or goes on up to white space; and a backslash takes
the character behind it as it is.  Blanks may also stand around the equals sign.

What counts as white space depends on the reader.  Every class of characters will do that has the
space in it and none but the characters of the property White_Space: values with any of these are
quoted.
-/
import BulkValues.Proofs.Params
import BulkValues.Proofs.Text.Stops
import BulkValues.Settings.Section

namespace BulkValues

open BulkValues.Text

namespace Conninfo

/-! ## Reading -/

/-- A text up to a character at which it stops, and what follows from there. -/
def readUntil (stop : Char → Bool) : List Char → List Char × List Char
  | [] | ['\\'] => ([], [])
  | '\\' :: c :: rest => (c :: (readUntil stop rest).1, (readUntil stop rest).2)
  | c :: rest =>
    if stop c then ([], c :: rest) else (c :: (readUntil stop rest).1, (readUntil stop rest).2)

/-- A value and what follows. -/
def readValue (space : Char → Bool) : List Char → Option (List Char × List Char)
  | '\'' :: rest =>
    match readUntil (· == '\'') rest with
    | (value, '\'' :: rest) => some (value, rest)
    | _ => none
  | cs => some (readUntil space cs)

/-- Whether a character may stand in a name. -/
def isNameChar (space : Char → Bool) (c : Char) : Bool := !space c && c != '='

/-- A parameter and what follows. -/
def readParam (space : Char → Bool) (cs : List Char) : Option ((String × String) × List Char) :=
  match cs.takeWhile (isNameChar space), (cs.dropWhile (isNameChar space)).dropWhile space with
  | c :: name, '=' :: rest =>
    (readValue space (rest.dropWhile space)).map fun found =>
      ((String.ofList (c :: name), String.ofList found.1), found.2)
  | _, _ => none

lemma length_readUntil_le (stop : Char → Bool) (cs : List Char) :
    (readUntil stop cs).2.length ≤ cs.length := by
  fun_induction readUntil stop cs with
  | case1 => exact le_rfl
  | case2 => simp
  | case3 c rest ih =>
    simp only [List.length_cons]
    omega
  | case4 => exact le_rfl
  | case5 c rest _ _ _ ih =>
    simp only [List.length_cons]
    omega

lemma length_readValue_le {space : Char → Bool} {cs : List Char} {found : List Char × List Char}
    (h : readValue space cs = some found) : found.2.length ≤ cs.length := by
  rw [readValue.eq_def] at h
  split at h
  · rename_i rest
    have hle := length_readUntil_le (· == '\'') rest
    split at h
    · rename_i value rest' hfound
      cases h
      rw [hfound] at hle
      simp only [List.length_cons] at hle ⊢
      omega
    · cases h
  · cases h
    exact length_readUntil_le space _

lemma length_readParam_lt {space : Char → Bool} {cs : List Char}
    {found : (String × String) × List Char} (h : readParam space cs = some found) :
    found.2.length < cs.length := by
  rw [readParam] at h
  split at h
  · rename_i c name rest hname hrest
    obtain ⟨value, hvalue, rfl⟩ := Option.map_eq_some_iff.mp h
    have hle := length_readValue_le hvalue
    have hdrop : rest.length + 1 ≤ cs.length := by
      have h₁ := List.length_dropWhile_le space (cs.dropWhile (isNameChar space))
      have h₂ := List.length_dropWhile_le (isNameChar space) cs
      rw [hrest] at h₁
      exact h₁.trans h₂
    have := List.length_dropWhile_le space rest
    dsimp only
    omega
  · cases h

/-- The parameters of a connection string. -/
def read? (space : Char → Bool) (cs : List Char) : Option (List (String × String)) :=
  if cs.all space then some []
  else
    match _ : readParam space (cs.dropWhile space) with
    | none => none
    | some (param, rest) => (read? space rest).map fun params => param :: params
termination_by cs.length
decreasing_by exact (length_readParam_lt ‹_›).trans_le (List.length_dropWhile_le space cs)

/-! ## What is written is read -/

/-- A name that can stand in a connection string as it is. -/
def IsPlainName (space : Char → Bool) (name : String) : Prop :=
  name ≠ "" ∧ ∀ c ∈ name.toList, isNameChar space c = true

instance (space : Char → Bool) (name : String) : Decidable (IsPlainName space name) :=
  decidable_of_iff (name ≠ "" ∧ name.toList.all (isNameChar space) = true) (by
    rw [IsPlainName, List.all_eq_true])

variable {space stop : Char → Bool} {value rest : List Char} {param : String × String}
  {params : List (String × String)} {s t : Section}

/-- What is escaped is read up to where reading stops, if nothing but quotes stops it before. -/
lemma readUntil_escapeQuoted (hstop : stop '\\' = false)
    (hvalue : ∀ c ∈ value, stop c = true → c = '\'') (hrest : StopsAt (fun c => !stop c) rest) :
    readUntil stop (Section.escapeQuoted value ++ rest) = (value, rest) := by
  induction value with
  | nil =>
    cases rest with
    | nil => rfl
    | cons c rest =>
      have hc : stop c = true := by simpa using hrest c rfl
      have hne : c ≠ '\\' := by
        rintro rfl
        rw [hstop] at hc
        cases hc
      rw [Section.escapeQuoted, List.nil_append, readUntil]
      · rw [if_pos hc]
      · simp [hne]
      · simp [hne]
  | cons c value ih =>
    obtain ⟨hc, hvalue⟩ := List.forall_mem_cons.mp hvalue
    have hread := ih hvalue
    rw [Section.escapeQuoted]
    split
    · rw [List.cons_append, List.cons_append, readUntil, hread]
    -- The character stands for itself: it is no backslash, and no quote if quotes stop the reading.
    · rename_i hplain
      obtain ⟨hbackslash, hquote⟩ : c ≠ '\\' ∧ c ≠ '\'' := by simpa using hplain
      have hgo : ¬stop c = true := fun hstops => hquote (hc hstops)
      rw [List.cons_append, readUntil]
      · rw [if_neg hgo, hread]
      · simp [hbackslash]
      · simp [hbackslash]

lemma escapeQuoted_eq_self (h : ∀ c ∈ value, c ≠ '\\' ∧ c ≠ '\'') :
    Section.escapeQuoted value = value := by
  induction value with
  | nil => rfl
  | cons c value ih =>
    obtain ⟨hc, hvalue⟩ := List.forall_mem_cons.mp h
    rw [Section.escapeQuoted, if_neg (by simp [hc]), ih hvalue]

/-- A value that is written without quotes needs none. -/
lemma bare_of_needsQuotes (h : Section.needsQuotes value = false) :
    value ≠ [] ∧ ∀ c ∈ value, isBlank c = false ∧ c ≠ '\\' ∧ c ≠ '\'' := by
  simp only [Section.needsQuotes, Bool.or_eq_false_iff, List.any_eq_false, Bool.or_eq_true,
    beq_iff_eq, not_or, Bool.not_eq_true] at h
  refine ⟨by simpa using h.1, fun c hc => ?_⟩
  obtain ⟨⟨hblank, hquote⟩, hbackslash⟩ := h.2 c hc
  exact ⟨hblank, hbackslash, hquote⟩

lemma not_space (hblank : ∀ c, space c = true → isBlank c = true) {c : Char}
    (h : isBlank c = false) : space c = false :=
  Bool.eq_false_iff.mpr fun hspace => Bool.false_ne_true (h.symm.trans (hblank c hspace))

/-- A written value is read, where white space or nothing comes behind it; and no white space comes
before it. -/
lemma readValue_conninfoChars (hblank : ∀ c, space c = true → isBlank c = true)
    (value : List Char) (hrest : StopsAt (fun c => !space c) rest) :
    readValue space (Section.conninfoChars value ++ rest) = some (value, rest) ∧
      StopsAt space (Section.conninfoChars value ++ rest) := by
  rw [Section.conninfoChars]
  split
  · have hread : readUntil (· == '\'') (Section.escapeQuoted value ++ '\'' :: rest) =
        (value, '\'' :: rest) :=
      readUntil_escapeQuoted (by decide) (fun c _ hc => beq_iff_eq.mp hc) (by simp [StopsAt])
    rw [List.cons_append, List.append_assoc, List.singleton_append, readValue, hread]
    exact ⟨rfl, stopsAt_cons (not_space hblank (by decide)) _⟩
  · rename_i hbare
    obtain ⟨hne, hbare⟩ := bare_of_needsQuotes (eq_false_of_ne_true hbare)
    have hread : readUntil space (Section.escapeQuoted value ++ rest) = (value, rest) := by
      refine readUntil_escapeQuoted (not_space hblank (by decide)) (fun c hc hstops => ?_) hrest
      rw [not_space hblank (hbare c hc).1] at hstops
      cases hstops
    rw [escapeQuoted_eq_self fun c hc => (hbare c hc).2] at hread
    cases value with
    | nil => exact absurd rfl hne
    | cons c value =>
      obtain ⟨hc, -, hquote⟩ := hbare c List.mem_cons_self
      refine ⟨?_, stopsAt_cons (not_space hblank hc) _⟩
      rw [List.cons_append, readValue]
      · rw [← List.cons_append, hread]
      · simp [hquote]

/-- A written parameter is read, where white space or nothing comes behind it. -/
lemma readParam_conninfoParam (hblank : ∀ c, space c = true → isBlank c = true)
    (hname : IsPlainName space param.1) (hrest : StopsAt (fun c => !space c) rest) :
    readParam space ((Section.conninfoParam param).toList ++ rest) = some (param, rest) := by
  obtain ⟨name, value⟩ := param
  obtain ⟨hne, hchars⟩ := hname
  obtain ⟨hread, hstops⟩ := readValue_conninfoChars hblank value.toList hrest
  have hsign : StopsAt (isNameChar space) ('=' :: (Section.conninfoChars value.toList ++ rest)) :=
    stopsAt_cons (by simp [isNameChar]) _
  have htext : (Section.conninfoParam (name, value)).toList ++ rest =
      name.toList ++ '=' :: (Section.conninfoChars value.toList ++ rest) := by
    simp [Section.conninfoParam]
  rw [htext, readParam, takeWhile_append_of_stopsAt hchars hsign,
    dropWhile_append_of_stopsAt hchars hsign,
    List.dropWhile_cons_of_neg (by simp [not_space hblank (c := '=') (by decide)])]
  split
  · rename_i c cs rest' hcs hrest'
    cases hrest'
    have hdrop := dropWhile_append_of_stopsAt (w := []) nofun hstops
    rw [List.nil_append] at hdrop
    rw [hdrop, hread, Option.map_some, ← hcs, String.ofList_toList, String.ofList_toList]
  · rename_i hnone
    cases hcs : name.toList with
    | nil => exact absurd (String.toList_inj.mp hcs) hne
    | cons c cs => exact absurd rfl (hnone c cs _ hcs)

/-- A space before the parameters does not matter. -/
lemma read?_cons_space (hspace : space ' ' = true) (cs : List Char) :
    read? space (' ' :: cs) = read? space cs := by
  have hall : (' ' :: cs).all space = cs.all space := by simp [hspace]
  have hdrop : (' ' :: cs).dropWhile space = cs.dropWhile space :=
    List.dropWhile_cons_of_pos hspace
  rw [read?, read?, hall, hdrop]

/-- The first parameter is read, and then the others. -/
lemma read?_conninfoParam (hblank : ∀ c, space c = true → isBlank c = true)
    (hname : IsPlainName space param.1) (hrest : StopsAt (fun c => !space c) rest) :
    read? space ((Section.conninfoParam param).toList ++ rest) =
      (read? space rest).map fun params => param :: params := by
  have hread := readParam_conninfoParam hblank hname hrest
  obtain ⟨c, cs, hcs, hc⟩ : ∃ c cs, (Section.conninfoParam param).toList ++ rest = c :: cs ∧
      space c = false := by
    cases hcs : param.1.toList with
    | nil => exact absurd (String.toList_inj.mp hcs) hname.1
    | cons c cs =>
      have hc : isNameChar space c = true := hname.2 c (hcs ▸ List.mem_cons_self)
      refine ⟨c, _, by rw [Section.conninfoParam]; simp [hcs]; rfl, ?_⟩
      simpa [isNameChar] using (Bool.and_eq_true_iff.mp hc).1
  rw [hcs] at hread ⊢
  rw [read?, if_neg (by simp [hc]), List.dropWhile_cons_of_neg (by simp [hc])]
  split
  · rename_i hnone
    rw [hread] at hnone
    cases hnone
  · rename_i found
    rw [hread] at found
    cases found
    rfl

/-- Parameters that are written with spaces between them are read. -/
lemma read?_intercalate (hspace : space ' ' = true)
    (hblank : ∀ c, space c = true → isBlank c = true)
    (hnames : ∀ param ∈ params, IsPlainName space param.1) :
    read? space (" ".intercalate (params.map Section.conninfoParam)).toList = some params := by
  have hsep : " ".toList = [' '] := rfl
  have hempty : read? space [] = some [] := by rw [read?, List.all_nil, if_pos rfl]
  rw [String.toList_intercalate, List.map_map, hsep]
  induction params with
  | nil => exact hempty
  | cons param params ih =>
    obtain ⟨hname, hnames⟩ := List.forall_mem_cons.mp hnames
    cases params with
    | nil =>
      have hread := read?_conninfoParam hblank hname (stopsAt_nil _)
      rw [List.append_nil, hempty] at hread
      rw [List.map_singleton, List.intercalate_singleton]
      exact hread
    | cons next params =>
      have hspaces : ∀ cs, StopsAt (fun c => !space c) (' ' :: cs) :=
        stopsAt_cons (by rw [hspace]; rfl)
      rw [List.map_cons, List.map_cons, List.intercalate_cons_cons, List.append_assoc,
        List.singleton_append, Function.comp_apply, read?_conninfoParam hblank hname (hspaces _),
        read?_cons_space hspace]
      rw [List.map_cons] at ih
      rw [ih hnames, Option.map_some]

/-- The parameters of a configuration are the settings that are neither the driver nor about the
pool. -/
lemma get?_toConnectionConfig (s : Section) (name key : String) :
    (s.toConnectionConfig name).params.get? key =
      if key = "driver" ∨ key ∈ Section.poolKeys then none else s.get? key := by
  rw [Section.toConnectionConfig, Section.connectionParams, Params.get?_filter, Section.get?]
  by_cases hkey : key = "driver" ∨ key ∈ Section.poolKeys
  · rw [if_pos hkey, if_neg]
    simp only [Section.isConnectionKey, Bool.and_eq_true, bne_iff_ne, Bool.not_eq_true',
      List.contains_eq_mem, decide_eq_false_iff_not, not_and, not_not]
    tauto
  · rw [if_neg hkey, if_pos]
    simp only [Section.isConnectionKey, Bool.and_eq_true, bne_iff_ne, Bool.not_eq_true',
      List.contains_eq_mem, decide_eq_false_iff_not]
    tauto

/-- For every class of white space: the connection string of a section whose parameters have plain
names is read as exactly the parameters of the configuration of its connection, and these are the
settings that are neither the driver nor about the pool; so different parameters have different
connection strings. -/
theorem conninfo_read_back (hspace : space ' ' = true)
    (hblank : ∀ c, space c = true → isBlank c = true) :
    (∀ s : Section, (∀ param ∈ s.connectionParams.entries, IsPlainName space param.1) →
      ∀ name, read? space s.conninfo.toList = some (s.toConnectionConfig name).params.entries) ∧
    (∀ (s : Section) (name key : String), (s.toConnectionConfig name).params.get? key =
      if key = "driver" ∨ key ∈ Section.poolKeys then none else s.get? key) ∧
    ∀ s t : Section, (∀ param ∈ s.connectionParams.entries, IsPlainName space param.1) →
      (∀ param ∈ t.connectionParams.entries, IsPlainName space param.1) →
        s.connectionParams ≠ t.connectionParams → s.conninfo ≠ t.conninfo := by
  have hread : ∀ s : Section,
      (∀ param ∈ s.connectionParams.entries, IsPlainName space param.1) →
        read? space s.conninfo.toList = some s.connectionParams.entries :=
    fun s hs => read?_intercalate hspace hblank hs
  refine ⟨fun s hs name => hread s hs, get?_toConnectionConfig, fun s t hs ht hne heq => ?_⟩
  have hentries : some s.connectionParams.entries = some t.connectionParams.entries := by
    rw [← hread s hs, ← hread t ht, heq]
  exact hne (Params.ext_entries (Option.some_inj.mp hentries))

/-- Values with quotes, backslashes, the em space and nothing at all are read as they were; the
driver and the size of the pool are not there. -/
theorem conninfo_read_back_hostile :
    let s : Section := ⟨.ofList [("password", " it's=\\'\\"), ("max_size", "3"), ("a'\\", "\u2003"),
      ("driver", "sqlite"), ("empty", "")]⟩
    let t : Section := ⟨.ofList [("password", " it's=\\'\\"), ("a'\\", " "), ("empty", "")]⟩
    (∀ param ∈ s.connectionParams.entries, IsPlainName isBlank param.1) ∧
    (∀ param ∈ t.connectionParams.entries, IsPlainName isBlank param.1) ∧
    read? isBlank s.conninfo.toList =
      some [("a'\\", "\u2003"), ("empty", ""), ("password", " it's=\\'\\")] ∧
    s.conninfo ≠ t.conninfo := by
  intro s t
  obtain ⟨hread, -, hne⟩ := @conninfo_read_back isBlank (by decide) fun _ h => h
  have hs : ∀ param ∈ s.connectionParams.entries, IsPlainName isBlank param.1 := by decide +kernel
  have ht : ∀ param ∈ t.connectionParams.entries, IsPlainName isBlank param.1 := by decide +kernel
  have hentries : s.connectionParams.entries =
      [("a'\\", "\u2003"), ("empty", ""), ("password", " it's=\\'\\")] := by decide +kernel
  have hdiffer : s.connectionParams.entries ≠ t.connectionParams.entries := by decide +kernel
  exact ⟨hs, ht, (hread s hs "local").trans (congrArg some hentries),
    hne s t hs ht fun heq => hdiffer (congrArg Params.entries heq)⟩

end Conninfo

end BulkValues
