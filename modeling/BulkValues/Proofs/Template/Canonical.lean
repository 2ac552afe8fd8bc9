/-
# Canonical forms

The canonical form of a template lists its slots in parentheses.  Read as a template, it gives the
template back if slots are named: each name stands in its braces, and each cast ends where the
comma or the last parenthesis follows.  That parenthesis is lost where a cast ends with one, since
the two count as one; the cast does not need it.  Slots without names are written with empty
braces, which are no markers, so that a positional template gives a template without slots.
-/
import BulkValues.Proofs.Template.CastReading
import BulkValues.Template.Basic

namespace BulkValues

open BulkValues.Text

/-! ## Slots as text -/

/-- A cast as text, or nothing. -/
def castChars : Option Cast → List Char
  | some c => c.suffixChars
  | none => []

/-- A slot as text. -/
def slotChars (slot : List Char × Option Cast) : List Char :=
  '\x7b' :: (slot.1 ++ '\x7d' :: castChars slot.2)

/-- Slots as text, between commas. -/
def joinedChars (slots : List (List Char × Option Cast)) : List Char :=
  [',', ' '].intercalate (slots.map slotChars)

/-- A slot whose name is made of word characters and whose cast was read somewhere. -/
structure Slotted (slot : List Char × Option Cast) : Prop where
  word : ∀ c ∈ slot.1, isWord c = true
  cast : ∀ c, slot.2 = some c → ∃ cs rest, Cast.readType cs = some (c.type, rest)

variable {slot : List Char × Option Cast} {slots : List (List Char × Option Cast)} {m : Marker}
  {c : Char} {cs rest next w : List Char}

lemma joinedChars_cons_cons (slot slot' : List Char × Option Cast)
    (slots : List (List Char × Option Cast)) :
    joinedChars (slot :: slot' :: slots) =
      slotChars slot ++ ',' :: ' ' :: joinedChars (slot' :: slots) := by
  rw [joinedChars, List.map_cons, List.map_cons, List.intercalate_cons_cons, List.append_assoc]
  rfl

lemma joinedChars_singleton (slot : List Char × Option Cast) :
    joinedChars [slot] = slotChars slot := List.intercalate_singleton ..

lemma readWord_spec {name : List Char} (h : readWord cs = some (name, rest)) :
    name ≠ [] ∧ ∀ c ∈ name, isWord c = true := by
  rw [readWord] at h
  split at h
  · cases h
  · rename_i hempty
    cases h
    exact ⟨mt List.isEmpty_iff.mpr hempty, fun c hc => List.mem_takeWhile_imp hc⟩

/-- A marker carries a word, which is empty only if it has no name. -/
lemma Marker.read_spec {name : List Char} (h : m.read cs = some (name, rest)) :
    (∀ c ∈ name, isWord c = true) ∧ (m ≠ .percent → name ≠ []) := by
  rw [Marker.read.eq_def] at h
  split at h
  · split at h
    · rename_i hword
      cases h
      exact ⟨(readWord_spec hword).2, fun _ => (readWord_spec hword).1⟩
    · cases h
  · split at h
    · rename_i hword
      cases h
      exact ⟨(readWord_spec hword).2, fun _ => (readWord_spec hword).1⟩
    · cases h
  · cases h
    exact ⟨nofun, absurd rfl⟩
  · cases h

lemma exists_readType_of_read {cast : Cast} (h : (Cast.read cs).1 = some cast) :
    ∃ cs rest, Cast.readType cs = some (cast.type, rest) := by
  rw [Cast.read.eq_def] at h
  split at h
  · split at h
    · rename_i htype
      cases h
      exact ⟨_, _, htype⟩
    · cases h
  · cases h

lemma slotted_of_mem_findAll (h : slot ∈ m.findAll cs) :
    Slotted slot ∧ (m ≠ .percent → slot.1 ≠ []) := by
  fun_induction Marker.findAll m cs with
  | case1 cs name rest hread cast ih =>
    rcases List.mem_cons.mp h with rfl | h
    · obtain ⟨hword, hne⟩ := Marker.read_spec hread
      exact ⟨⟨hword, fun c hc => exists_readType_of_read hc⟩, hne⟩
    · exact ih h
  | case2 => cases h
  | case3 c r hread ih => exact ih h

/-! ## Closing parentheses -/

lemma foreign_closing : Cast.Foreign ')' := ⟨by decide, by decide, by decide⟩

lemma skipClosing_of_stopsAt (h : StopsAt (fun c => isBlank c || c == ')') cs) :
    skipClosing cs = cs := by
  have hblank : StopsAt isBlank cs := fun c hc => (Bool.or_eq_false_iff.mp (h c hc)).1
  rw [skipClosing.eq_def]
  split
  · rename_i r hr
    rw [hblank.skipBlanks_eq] at hr
    have hclosing := h ')' (by rw [hr]; rfl)
    cases hclosing
  · rfl

lemma skipClosing_closing (cs : List Char) : skipClosing (')' :: cs) = skipClosing cs := by
  have hblank : StopsAt isBlank (')' :: cs) := stopsAt_cons (by decide) cs
  rw [skipClosing.eq_def]
  split
  · rename_i r hr
    rw [hblank.skipBlanks_eq] at hr
    cases hr
    rfl
  · rename_i hr
    exact absurd hblank.skipBlanks_eq (hr cs)

lemma collapseClosing_cons (hc : c ≠ ')') (cs : List Char) :
    collapseClosing (c :: cs) = c :: collapseClosing cs := by
  rw [collapseClosing, if_neg hc]

lemma collapseClosing_closing (cs : List Char) :
    collapseClosing (')' :: cs) = ')' :: collapseClosing (skipClosing cs) := by
  rw [collapseClosing, if_pos rfl]

lemma collapseClosing_append (hw : ')' ∉ w) (cs : List Char) :
    collapseClosing (w ++ cs) = w ++ collapseClosing cs := by
  induction w with
  | nil => rfl
  | cons c w ih =>
    obtain ⟨hc, hw⟩ := not_or.mp (mt List.mem_cons.mpr hw)
    rw [List.cons_append, collapseClosing_cons (Ne.symm hc), ih hw, List.cons_append]

lemma collapseClosing_closing_only : collapseClosing [')'] = [')'] := by
  rw [collapseClosing_closing, skipClosing_of_stopsAt (stopsAt_nil _), collapseClosing]

lemma not_mem_name (h : Slotted slot) (hc : isWord c = false) : c ∉ slot.1 := by
  intro hmem
  rw [h.word c hmem] at hc
  cases hc

/-- A slot keeps its text where closing parentheses are made one.  If it ends with one, what
follows loses those that it begins with. -/
lemma collapseClosing_slot (h : Slotted slot) (next : List Char) :
    collapseClosing (slotChars slot ++ next) = slotChars slot ++ collapseClosing next ∨
      collapseClosing (slotChars slot ++ next) =
        slotChars slot ++ collapseClosing (skipClosing next) := by
  have hname := not_mem_name h foreign_closing.word
  cases hcast : slot.2 with
  | none =>
    left
    refine collapseClosing_append ?_ next
    rw [slotChars, hcast]
    simpa [castChars] using hname
  | some cast =>
    obtain ⟨cs, rest, htype⟩ := h.cast cast hcast
    obtain ⟨front, closing, back, heq, hclosing, hback, hforeign⟩ := Cast.readType_shape htype
    obtain ⟨hfront, hnone⟩ := hforeign ')' foreign_closing (by decide)
    have hslot : slotChars slot =
        ('{' :: (slot.1 ++ '}' :: ':' :: ':' :: front)) ++ closing ++ back := by
      rw [slotChars, hcast, castChars, Cast.suffixChars, heq]
      simp
    have hbefore : ')' ∉ '{' :: (slot.1 ++ '}' :: ':' :: ':' :: front) := by
      simpa using ⟨hname, hfront⟩
    generalize '{' :: (slot.1 ++ '}' :: ':' :: ':' :: front) = before at *
    rw [hslot, List.append_assoc, List.append_assoc, collapseClosing_append hbefore]
    rcases hclosing with rfl | rfl
    · left
      rw [List.nil_append, collapseClosing_append hnone, List.append_nil, List.append_assoc]
    -- Whether the slot ends with the parenthesis decides what that parenthesis meets.
    · rw [List.singleton_append, collapseClosing_closing]
      cases back with
      | nil =>
        right
        simp
      | cons d back =>
        left
        have hstop : StopsAt (fun c => isBlank c || c == ')') (d :: back ++ next) := hback
        rw [skipClosing_of_stopsAt hstop, collapseClosing_append hnone]
        simp

/-- The closing parenthesis of a list of slots counts as one with that of the last cast. -/
lemma collapseClosing_joined (hslots : ∀ slot ∈ slots, Slotted slot) (hne : slots ≠ []) :
    ∃ next, (next = [] ∨ next = [')']) ∧
      collapseClosing (joinedChars slots ++ [')']) = joinedChars slots ++ next := by
  induction slots with
  | nil => exact absurd rfl hne
  | cons slot slots ih =>
    obtain ⟨hslot, hrest⟩ := List.forall_mem_cons.mp hslots
    cases slots with
    | nil =>
      rw [joinedChars_singleton]
      rcases collapseClosing_slot hslot [')'] with heq | heq
      · exact ⟨[')'], .inr rfl, by rw [heq, collapseClosing_closing_only]⟩
      · refine ⟨[], .inl rfl, ?_⟩
        rw [heq, skipClosing_closing, skipClosing_of_stopsAt (stopsAt_nil _), collapseClosing]
    | cons slot' slots =>
      obtain ⟨next, hnext, heq⟩ := ih hrest (List.cons_ne_nil _ _)
      refine ⟨next, hnext, ?_⟩
      -- Between slots a comma keeps the parentheses apart.
      rw [joinedChars_cons_cons]
      generalize joinedChars (slot' :: slots) = tail at *
      have hcomma : collapseClosing (',' :: ' ' :: (tail ++ [')'])) =
          ',' :: ' ' :: (tail ++ next) := by
        rw [collapseClosing_cons (by decide), collapseClosing_cons (by decide), heq]
      have hskip : skipClosing (',' :: ' ' :: (tail ++ [')'])) = ',' :: ' ' :: (tail ++ [')']) :=
        skipClosing_of_stopsAt (stopsAt_cons (by decide) _)
      have hslot := collapseClosing_slot hslot (',' :: ' ' :: (tail ++ [')']))
      rw [hskip, or_self, hcomma] at hslot
      simpa using hslot

/-! ## Markers -/

/-- The character that a marker begins with. -/
def Marker.start : Marker → Char
  | .brace => '{'
  | _ => '%'

lemma Marker.read_eq_none (hc : c ≠ m.start) (cs : List Char) : m.read (c :: cs) = none := by
  rw [Marker.read.eq_def]
  split
  · rename_i heq
    cases heq
    exact absurd rfl hc
  · rename_i heq
    cases heq
    exact absurd rfl hc
  · rename_i heq
    cases heq
    exact absurd rfl hc
  · rfl

lemma Marker.findAll_nil (m : Marker) : m.findAll [] = [] := by
  rw [Marker.findAll.eq_def]
  cases m <;> rfl

lemma Marker.findAll_of_read_eq_none (h : m.read (c :: cs) = none) :
    m.findAll (c :: cs) = m.findAll cs := by
  rw [Marker.findAll.eq_def]
  split
  · rename_i hread
    rw [h] at hread
    cases hread
  · rfl

/-- No marker is found where its first character does not occur. -/
lemma Marker.findAll_append (hw : m.start ∉ w) (cs : List Char) :
    m.findAll (w ++ cs) = m.findAll cs := by
  induction w with
  | nil => rfl
  | cons c w ih =>
    obtain ⟨hc, hw⟩ := not_or.mp (mt List.mem_cons.mpr hw)
    rw [List.cons_append, findAll_of_read_eq_none (read_eq_none (Ne.symm hc) _), ih hw]

lemma ends_of_closing (h : next = [] ∨ next = [')']) : Cast.Ends next := by
  rcases h with rfl | rfl
  · exact .inl rfl
  · exact .inr ⟨')', [], rfl, .inr rfl⟩

lemma castRead_append (h : Slotted slot) (hnext : Cast.Ends next) :
    Cast.read (castChars slot.2 ++ next) = (slot.2, next) := by
  cases hcast : slot.2 with
  | none =>
    rw [castChars, List.nil_append]
    rcases hnext with rfl | ⟨c, r, rfl, rfl | rfl⟩
    · rfl
    · rfl
    · rfl
  | some cast =>
    obtain ⟨cs, rest, htype⟩ := h.cast cast hcast
    exact Cast.read_append htype hnext

/-- A slot with a name is found as it is written. -/
lemma findAll_slot (h : Slotted slot) (hname : slot.1 ≠ []) (hnext : Cast.Ends next) :
    Marker.brace.findAll (slotChars slot ++ next) = slot :: Marker.brace.findAll next := by
  have hstop : StopsAt isWord ('}' :: (castChars slot.2 ++ next)) := stopsAt_cons (by decide) _
  have hword : readWord (slot.1 ++ '}' :: (castChars slot.2 ++ next)) =
      some (slot.1, '}' :: (castChars slot.2 ++ next)) := by
    rw [readWord, takeWhile_append_of_stopsAt h.word hstop,
      dropWhile_append_of_stopsAt h.word hstop, if_neg (mt List.isEmpty_iff.mp hname)]
  have hread : Marker.brace.read (slotChars slot ++ next) =
      some (slot.1, castChars slot.2 ++ next) := by
    rw [slotChars, List.cons_append, List.append_assoc, List.cons_append, Marker.read, hword]
    rfl
  rw [Marker.findAll.eq_def]
  split
  · rename_i name rest hfound
    rw [hread] at hfound
    cases hfound
    rw [castRead_append h hnext]
  · rename_i hnone
    rw [hread] at hnone
    cases hnone

lemma findAll_end (hnext : next = [] ∨ next = [')']) (m : Marker) : m.findAll next = [] := by
  have hnone : m.start ∉ next := by
    rcases hnext with rfl | rfl
    · exact List.not_mem_nil
    · cases m <;> decide
  rw [← List.append_nil next, Marker.findAll_append hnone, Marker.findAll_nil]

lemma findAll_gap (m : Marker) (cs : List Char) : m.findAll (',' :: ' ' :: cs) = m.findAll cs := by
  have hgap : m.start ∉ [',', ' '] := by cases m <;> decide
  exact Marker.findAll_append hgap cs

/-- Slots with names are found as they are written. -/
lemma findAll_joined (hslots : ∀ slot ∈ slots, Slotted slot ∧ slot.1 ≠ [])
    (hnext : next = [] ∨ next = [')']) :
    Marker.brace.findAll (joinedChars slots ++ next) = slots := by
  induction slots with
  | nil => exact findAll_end hnext _
  | cons slot slots ih =>
    obtain ⟨⟨hslot, hname⟩, hrest⟩ := List.forall_mem_cons.mp hslots
    cases slots with
    | nil =>
      rw [joinedChars_singleton, findAll_slot hslot hname (ends_of_closing hnext),
        findAll_end hnext]
    | cons slot' slots =>
      have hcomma : Cast.Ends (',' :: ' ' :: (joinedChars (slot' :: slots) ++ next)) :=
        .inr ⟨',', _, rfl, .inl rfl⟩
      rw [joinedChars_cons_cons, List.append_assoc, List.cons_append, List.cons_append,
        findAll_slot hslot hname hcomma, findAll_gap, ih hrest]

/-- No marker begins within a cast. -/
lemma start_not_mem_castChars (h : Slotted slot) (m : Marker) : m.start ∉ castChars slot.2 := by
  have hforeign : Cast.Foreign m.start := by
    cases m <;> exact ⟨by decide, by decide, by decide⟩
  have hsigns : m.start ∉ ['(', ',', '[', ']'] := by cases m <;> decide
  have hothers : m.start ∉ [':', ')'] := by cases m <;> decide
  cases hcast : slot.2 with
  | none => exact List.not_mem_nil
  | some cast =>
    obtain ⟨cs, rest, htype⟩ := h.cast cast hcast
    obtain ⟨front, closing, back, heq, hclosing, -, hnone⟩ := Cast.readType_shape htype
    obtain ⟨hfront, hback⟩ := hnone m.start hforeign hsigns
    simp only [List.mem_cons, List.not_mem_nil, or_false, not_or] at hothers
    obtain ⟨hcolon, hparenthesis⟩ := hothers
    rw [castChars, Cast.suffixChars, heq]
    rcases hclosing with rfl | rfl
    · simp [hcolon, hfront, hback]
    · simp [hcolon, hparenthesis, hfront, hback]

/-- A slot without a name is no marker of any kind. -/
lemma findAll_nameless_slot (h : Slotted slot) (hname : slot.1 = []) (m : Marker)
    (next : List Char) : m.findAll (slotChars slot ++ next) = m.findAll next := by
  have hcast := start_not_mem_castChars h m
  have hclosing : m.start ∉ ['}'] := by cases m <;> decide
  have hafter : m.start ∉ '}' :: castChars slot.2 := by
    rw [List.mem_singleton] at hclosing
    exact not_or.mpr ⟨hclosing, hcast⟩ ∘ List.mem_cons.mp
  have hread : m.read ('{' :: ('}' :: castChars slot.2 ++ next)) = none := by
    by_cases hstart : '{' = m.start
    · cases m with
      | brace =>
        have hword : readWord ('}' :: castChars slot.2 ++ next) = none := by
          rw [readWord, List.cons_append, List.takeWhile_cons_of_neg (by decide)]
          rfl
        rw [Marker.read, hword]
      | percentNamed => exact absurd hstart (by decide)
      | percent => exact absurd hstart (by decide)
    · exact Marker.read_eq_none hstart _
  rw [slotChars, hname, List.nil_append, List.cons_append, Marker.findAll_of_read_eq_none hread,
    Marker.findAll_append hafter]

/-- Slots without names are no markers of any kind. -/
lemma findAll_nameless (hslots : ∀ slot ∈ slots, Slotted slot ∧ slot.1 = [])
    (hnext : next = [] ∨ next = [')']) (m : Marker) :
    m.findAll (joinedChars slots ++ next) = [] := by
  induction slots with
  | nil => exact findAll_end hnext _
  | cons slot slots ih =>
    obtain ⟨⟨hslot, hname⟩, hrest⟩ := List.forall_mem_cons.mp hslots
    cases slots with
    | nil => rw [joinedChars_singleton, findAll_nameless_slot hslot hname, findAll_end hnext]
    | cons slot' slots =>
      rw [joinedChars_cons_cons, List.append_assoc, findAll_nameless_slot hslot hname,
        List.cons_append, List.cons_append, findAll_gap, ih hrest]

/-! ## Reading the canonical form -/

/-- The canonical form of slots. -/
def canonicalChars (slots : List (List Char × Option Cast)) : List Char :=
  '(' :: (joinedChars slots ++ [')'])

lemma findAll_opening (m : Marker) (cs : List Char) : m.findAll ('(' :: cs) = m.findAll cs := by
  have hopening : m.start ∉ ['('] := by cases m <;> decide
  exact Marker.findAll_append hopening cs

lemma collapseClosing_canonical (hslots : ∀ slot ∈ slots, Slotted slot) (hne : slots ≠ []) :
    ∃ next, (next = [] ∨ next = [')']) ∧
      collapseClosing (canonicalChars slots) = '(' :: (joinedChars slots ++ next) := by
  obtain ⟨next, hnext, heq⟩ := collapseClosing_joined hslots hne
  exact ⟨next, hnext, by rw [canonicalChars, collapseClosing_cons (by decide), heq]⟩

lemma ofChars_canonical_named (hslots : ∀ slot ∈ slots, Slotted slot ∧ slot.1 ≠ [])
    (hne : slots ≠ []) :
    Template.ofChars (canonicalChars slots) = .named (Template.namedSlots slots) := by
  obtain ⟨next, hnext, heq⟩ := collapseClosing_canonical (fun slot h => (hslots slot h).1) hne
  rw [Template.ofChars, heq, findAll_opening, findAll_joined hslots hnext]
  cases slots with
  | nil => exact absurd rfl hne
  | cons slot slots => rfl

lemma ofChars_canonical_nameless (hslots : ∀ slot ∈ slots, Slotted slot ∧ slot.1 = [])
    (hne : slots ≠ []) : Template.ofChars (canonicalChars slots) = .positional [] := by
  obtain ⟨next, hnext, heq⟩ := collapseClosing_canonical (fun slot h => (hslots slot h).1) hne
  have hnone : ∀ m : Marker, m.findAll ('(' :: (joinedChars slots ++ next)) = [] := by
    intro m
    rw [findAll_opening, findAll_nameless hslots hnext]
  rw [Template.ofChars, heq, hnone, hnone, hnone]
  rfl

namespace Template

variable {t : Template} {pattern : String}

lemma toList_slotText (name : List Char) (cast : Option Cast) :
    (slotText (some (String.ofList name), cast)).toList = slotChars (name, cast) := by
  cases cast with
  | none => simp [slotText, Cast.suffixOf, slotChars, castChars]
  | some cast => simp [slotText, Cast.suffixOf, Cast.suffix, slotChars, castChars]

/-- The canonical form of a valid template is that of its slots, with empty names if they have
none. -/
lemma canonical?_eq (hvalid : t.isValid = true)
    (hslots : t.slots.map slotText = slots.map fun slot =>
      slotText (some (String.ofList slot.1), slot.2)) :
    t.canonical? = some (String.ofList (canonicalChars slots)) := by
  have hlists : (slots.map fun slot => slotText (some (String.ofList slot.1), slot.2)).map
      String.toList = slots.map slotChars := by
    rw [List.map_map]
    exact List.map_congr_left fun slot _ => toList_slotText slot.1 slot.2
  have hform : (String.ofList (canonicalChars slots)).toList = canonicalChars slots :=
    String.toList_ofList
  rw [canonical?, if_pos hvalid, hslots]
  congr 1
  rw [← String.toList_inj, hform, String.toList_append, String.toList_append,
    String.toList_intercalate, hlists]
  rfl

lemma parse_canonical (slots : List (List Char × Option Cast)) :
    parse (String.ofList (canonicalChars slots)) = .ok (ofChars (canonicalChars slots)) := by
  have hblank : allBlank (String.ofList (canonicalChars slots)) = false := by
    rw [allBlank, String.toList_ofList, canonicalChars, List.all_cons]
    rfl
  rw [parse, hblank, String.toList_ofList]
  rfl

/-- What the slots of a template were read from. -/
lemma ofChars_cases (cs : List Char) :
    (∃ m text, m ≠ Marker.percent ∧ ofChars cs = named (namedSlots (m.findAll text))) ∨
      ∃ text, ofChars cs = positional ((Marker.percent.findAll text).map (·.2)) := by
  rw [ofChars]
  split
  · rename_i hfound
    rw [← hfound]
    exact .inl ⟨.brace, _, nofun, rfl⟩
  · split
    · rename_i hfound
      rw [← hfound]
      exact .inl ⟨.percentNamed, _, nofun, rfl⟩
    · exact .inr ⟨_, rfl⟩

lemma canonical_named (hslots : ∀ slot ∈ slots, Slotted slot ∧ slot.1 ≠ [])
    (hvalid : (named (namedSlots slots)).isValid = true) :
    ∃ form, (named (namedSlots slots)).canonical? = some form ∧
      parse form = .ok (named (namedSlots slots)) := by
  have hne : slots ≠ [] := by
    rintro rfl
    cases hvalid
  have hform : (named (namedSlots slots)).canonical? =
      some (String.ofList (canonicalChars slots)) := by
    refine canonical?_eq hvalid ?_
    rw [Template.slots, namedSlots, List.map_map, List.map_map]
    rfl
  exact ⟨_, hform, by rw [parse_canonical, ofChars_canonical_named hslots hne]⟩

lemma canonical_positional {casts : List (Option Cast)}
    (hcasts : ∀ cast ∈ casts, Slotted ([], cast)) (hvalid : (positional casts).isValid = true) :
    ∃ form, (positional casts).canonical? = some form ∧ parse form = .ok (positional []) := by
  have hne : casts.map (fun cast => (([] : List Char), cast)) ≠ [] := by
    intro hnil
    rw [List.map_eq_nil_iff.mp hnil] at hvalid
    cases hvalid
  have hslots : ∀ slot ∈ casts.map (fun cast => (([] : List Char), cast)),
      Slotted slot ∧ slot.1 = [] := by
    intro slot hslot
    obtain ⟨cast, hcast, rfl⟩ := List.mem_map.mp hslot
    exact ⟨hcasts cast hcast, rfl⟩
  have hform : (positional casts).canonical? =
      some (String.ofList (canonicalChars (casts.map fun cast => ([], cast)))) := by
    refine canonical?_eq hvalid ?_
    rw [Template.slots, List.map_map, List.map_map]
    rfl
  exact ⟨_, hform, by rw [parse_canonical, ofChars_canonical_nameless hslots hne]⟩

/-- The canonical form of a valid template can be read.  It gives the template if that has named
slots, and else a template without slots. -/
theorem canonical_faithful (hparse : parse pattern = .ok t) (hvalid : t.isValid = true) :
    ∃ form, t.canonical? = some form ∧ (t.isNamed = true → parse form = .ok t) ∧
      (t.isNamed = false → ∃ t', parse form = .ok t' ∧ t'.isValid = false) := by
  have ht : t = ofChars pattern.toList := by
    rw [parse] at hparse
    split at hparse
    · cases hparse
    · exact (Except.ok.inj hparse).symm
  rcases ofChars_cases pattern.toList with ⟨m, text, hm, heq⟩ | ⟨text, heq⟩
  · rw [← ht] at heq
    subst heq
    have hslots : ∀ slot ∈ m.findAll text, Slotted slot ∧ slot.1 ≠ [] := fun slot hslot =>
      ⟨(slotted_of_mem_findAll hslot).1, (slotted_of_mem_findAll hslot).2 hm⟩
    obtain ⟨form, hform, hread⟩ := canonical_named hslots hvalid
    exact ⟨form, hform, fun _ => hread, nofun⟩
  · rw [← ht] at heq
    subst heq
    have hcasts : ∀ cast ∈ (Marker.percent.findAll text).map (·.2), Slotted ([], cast) := by
      intro cast hcast
      obtain ⟨slot, hslot, rfl⟩ := List.mem_map.mp hcast
      exact ⟨nofun, (slotted_of_mem_findAll hslot).1.cast⟩
    obtain ⟨form, hform, hread⟩ := canonical_positional hcasts hvalid
    exact ⟨form, hform, nofun, fun _ => ⟨_, hread, rfl⟩⟩

/-- A cast that ends with a parenthesis, blanks within casts, a word of another script, text
between the markers, and closing parentheses that count as one. -/
theorem canonical_faithful_nested :
    let pattern := "(%(größe)s :: x, %(n)s::  numeric ( 10 , 2 ) ) )"
    let t : Template := .named [⟨"größe", none⟩, ⟨"n", some ⟨"numeric ( 10 , 2 )".toList⟩⟩]
    (Template.parse pattern = .ok t ∧ t.isValid = true) ∧
      ∃ form, t.canonical? = some form ∧ (t.isNamed = true → parse form = .ok t) ∧
        (t.isNamed = false → ∃ t', parse form = .ok t' ∧ t'.isValid = false) := by
  intro pattern t
  have hparse : Template.parse pattern = .ok t := by decide +kernel
  have hvalid : t.isValid = true := rfl
  exact ⟨⟨hparse, hvalid⟩, canonical_faithful hparse hvalid⟩

end Template

end BulkValues
