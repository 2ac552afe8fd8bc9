/-
# Every marker is found

Which markers stand in a text, and where, is said here without the reader, and so is what becomes
of closing parentheses.  The reader goes on behind each marker that it finds and behind the cast of
that marker.  It misses none: a marker begins with a brace or a percent sign, and neither occurs in
the rest of a marker or in a cast.
-/
import BulkValues.Proofs.Template.Canonical
import BulkValues.Proofs.Template.CastGrammar
import Mathlib.Data.List.Forall2

namespace BulkValues

open BulkValues.Text

variable {m : Marker} {c : Char} {cs ds rest name w : List Char} {cast : Option Cast}

/-! ## Runs of closing parentheses -/

/-- One closing parenthesis or more, with blanks between them or without. -/
inductive IsClosingRun : List Char → Prop
  | one : IsClosingRun [')']
  | more {blanks run : List Char} (hblanks : Cast.AreBlanks blanks) (hrun : IsClosingRun run) :
      IsClosingRun (')' :: (blanks ++ run))

/-- A text with every run of closing parentheses replaced by one.  A run goes on for as long as
another closing parenthesis follows. -/
inductive Collapses : List Char → List Char → Prop
  | nil : Collapses [] []
  | other {c : Char} {cs ds : List Char} (hc : c ≠ ')') (h : Collapses cs ds) :
      Collapses (c :: cs) (c :: ds)
  | run {run cs ds : List Char} (hrun : IsClosingRun run)
      (hend : StopsAt (· == ')') (skipBlanks cs)) (h : Collapses cs ds) :
      Collapses (run ++ cs) (')' :: ds)

lemma skipClosing_eq (h : StopsAt (· == ')') (skipBlanks cs)) : skipClosing cs = cs := by
  rw [skipClosing.eq_def]
  split
  · rename_i r hr
    rw [hr] at h
    exact absurd (h ')' rfl) (by decide)
  · rfl

/-- What is skipped behind a closing parenthesis is the rest of its run. -/
lemma skipClosing_run {run : List Char} (h : IsClosingRun run)
    (hend : StopsAt (· == ')') (skipBlanks cs)) :
    ∃ r, run = ')' :: r ∧ skipClosing (r ++ cs) = cs := by
  induction h with
  | one => exact ⟨[], rfl, skipClosing_eq hend⟩
  | @more blanks run hblanks hrun ih =>
    obtain ⟨r, rfl, hskip⟩ := ih
    refine ⟨blanks ++ ')' :: r, rfl, ?_⟩
    have hclosing : skipBlanks (blanks ++ ')' :: (r ++ cs)) = ')' :: (r ++ cs) :=
      (skipBlanks_append hblanks (stopsAt_cons (by decide) _)).1
    rw [List.append_assoc, List.cons_append, skipClosing.eq_def]
    split
    · rename_i r' hr'
      rw [hclosing] at hr'
      cases hr'
      exact hskip
    · rename_i hne
      exact absurd hclosing (hne _)

lemma stopsAt_of_ne (h : ∀ r, cs ≠ c :: r) : StopsAt (· == c) cs := by
  cases cs with
  | nil => exact stopsAt_nil _
  | cons d r =>
    rintro _ ⟨⟩
    rw [beq_eq_false_iff_ne]
    rintro rfl
    exact h r rfl

lemma exists_closingRun (cs : List Char) : ∃ run, IsClosingRun run ∧
    ')' :: cs = run ++ skipClosing cs ∧ StopsAt (· == ')') (skipBlanks (skipClosing cs)) := by
  fun_induction skipClosing cs with
  | case1 cs r h ih =>
    obtain ⟨run, hrun, htext, hend⟩ := ih
    refine ⟨_, .more (Cast.areBlanks_takeWhile cs) hrun, ?_, hend⟩
    rw [List.cons_append, List.append_assoc, ← htext, ← h, takeWhile_append_skipBlanks]
  | case2 cs h =>
    exact ⟨[')'], .one, rfl, stopsAt_of_ne h⟩

/-- Making one of each run is what the reader does first. -/
lemma collapses_iff : Collapses cs ds ↔ ds = collapseClosing cs := by
  constructor
  · intro h
    induction h with
    | nil => rw [collapseClosing]
    | other hc _ ih => rw [collapseClosing_cons hc, ih]
    | run hrun hend _ ih =>
      obtain ⟨r, rfl, hskip⟩ := skipClosing_run hrun hend
      rw [List.cons_append, collapseClosing_closing, hskip, ih]
  · rintro rfl
    fun_induction collapseClosing cs with
    | case1 => exact .nil
    | case2 r ih =>
      obtain ⟨run, hrun, htext, hend⟩ := exists_closingRun r
      rw [htext]
      exact .run hrun hend ih
    | case3 c r hc ih => exact .other hc ih

/-! ## Markers -/

namespace Marker

/-- The text of a marker. -/
def text : Marker → List Char → List Char
  | .brace, name => '{' :: (name ++ ['}'])
  | .percentNamed, name => '%' :: '(' :: (name ++ [')', 's'])
  | .percent, _ => ['%', 's']

/-- The names that a marker can carry: words, or none if it is the bare percent sign. -/
def Carries (m : Marker) (name : List Char) : Prop :=
  (∀ c ∈ name, isWord c = true) ∧ (name = [] ↔ m = .percent)

lemma readWord_append (hname : ∀ c ∈ name, isWord c = true) (hne : name ≠ [])
    (hstop : StopsAt isWord rest) : readWord (name ++ rest) = some (name, rest) := by
  rw [readWord, takeWhile_append_of_stopsAt hname hstop, dropWhile_append_of_stopsAt hname hstop,
    if_neg (mt List.isEmpty_iff.mp hne)]

lemma eq_append_of_readWord (h : readWord cs = some (name, rest)) : cs = name ++ rest := by
  rw [readWord] at h
  split at h
  · cases h
  · cases h
    exact List.takeWhile_append_dropWhile.symm

lemma eq_append_of_read (h : m.read cs = some (name, rest)) :
    cs = m.text name ++ rest ∧ (m = .percent → name = []) := by
  rw [Marker.read.eq_def] at h
  split at h
  · split at h
    · rename_i hword
      cases h
      rw [eq_append_of_readWord hword]
      exact ⟨by simp [text], fun hpercent => by cases hpercent⟩
    · cases h
  · split at h
    · rename_i hword
      cases h
      rw [eq_append_of_readWord hword]
      exact ⟨by simp [text], fun hpercent => by cases hpercent⟩
    · cases h
  · cases h
    exact ⟨rfl, fun _ => rfl⟩
  · cases h

/-- A marker is read exactly where its text is. -/
lemma read_eq_some :
    m.read cs = some (name, rest) ↔ m.Carries name ∧ cs = m.text name ++ rest := by
  constructor
  · intro h
    obtain ⟨hname, hne⟩ := read_spec h
    obtain ⟨htext, hnil⟩ := eq_append_of_read h
    exact ⟨⟨hname, fun h => by_contra fun hm => hne hm h, hnil⟩, htext⟩
  · rintro ⟨⟨hname, hnil⟩, rfl⟩
    cases m with
    | brace =>
      have hstop : StopsAt isWord ('}' :: rest) := stopsAt_cons (by decide) _
      have hword := readWord_append hname (by simp [hnil]) hstop
      simp [text, Marker.read, hword]
    | percentNamed =>
      have hstop : StopsAt isWord (')' :: 's' :: rest) := stopsAt_cons (by decide) _
      have hword := readWord_append hname (by simp [hnil]) hstop
      simp [text, Marker.read, hword]
    | percent =>
      rw [hnil.mpr rfl]
      rfl

/-- A marker begins with its sign, which does not occur in the rest of it. -/
lemma exists_text (h : m.Carries name) :
    ∃ tail, m.text name = m.start :: tail ∧ m.start ∉ tail := by
  have hname : ∀ c, isWord c = false → c ∉ name := by
    intro c hc hmem
    rw [h.1 c hmem] at hc
    cases hc
  cases m with
  | brace => exact ⟨_, rfl, by simp [start, hname '{' (by decide)]⟩
  | percentNamed => exact ⟨_, rfl, by simp [start, hname '%' (by decide)]⟩
  | percent => exact ⟨_, rfl, by decide⟩

end Marker

/-! ## Where markers stand -/

/-- A marker in a text: what is before it, its name and what is after it. -/
structure Mark where
  before : List Char
  name : List Char
  after : List Char

namespace Mark

variable {x y : Mark}

/-- A marker of a kind stands in a text. -/
def StandsIn (x : Mark) (m : Marker) (cs : List Char) : Prop :=
  m.Carries x.name ∧ cs = x.before ++ (m.text x.name ++ x.after)

/-- A marker ends before another begins, and so does the cast behind it. -/
def EndsBefore (m : Marker) (x y : Mark) : Prop :=
  ∀ w cast, Cast.IsLongest x.after w cast → x.before ++ (m.text x.name ++ w) <+: y.before

/-- The same marker with more text before it. -/
def shift (w : List Char) (x : Mark) : Mark := { x with before := w ++ x.before }

lemma EndsBefore.shift (h : EndsBefore m x y) (w : List Char) :
    EndsBefore m (x.shift w) (y.shift w) := by
  intro v cast hcast
  have hprefix := h v cast hcast
  simpa [Mark.shift, List.append_assoc, List.prefix_append_right_inj] using hprefix

lemma not_standsIn_nil (x : Mark) (m : Marker) : ¬ x.StandsIn m [] := by
  rintro ⟨hname, htext⟩
  obtain ⟨tail, htail, -⟩ := Marker.exists_text hname
  rw [htail] at htext
  simp at htext

/-- A marker stands in front of a text, or behind its first character. -/
lemma standsIn_cons : x.StandsIn m (c :: cs) ↔
    (x.before = [] ∧ m.read (c :: cs) = some (x.name, x.after)) ∨
      ∃ y, StandsIn y m cs ∧ x = y.shift [c] := by
  obtain ⟨before, name, after⟩ := x
  constructor
  · rintro ⟨hname, htext⟩
    cases before with
    | nil => exact .inl ⟨rfl, Marker.read_eq_some.mpr ⟨hname, htext⟩⟩
    | cons d before =>
      obtain ⟨rfl, htext⟩ := List.cons_eq_cons.mp htext
      exact .inr ⟨⟨before, name, after⟩, ⟨hname, htext⟩, rfl⟩
  · rintro (⟨rfl, hread⟩ | ⟨y, ⟨hname, htext⟩, hx⟩)
    · exact Marker.read_eq_some.mp hread
    · rw [hx]
      exact ⟨hname, by rw [htext]; rfl⟩

/-- No marker begins in a text without the sign that markers begin with. -/
lemma standsIn_append (hw : m.start ∉ w) :
    x.StandsIn m (w ++ cs) ↔ ∃ y, StandsIn y m cs ∧ x = y.shift w := by
  induction w generalizing x with
  | nil =>
    have hshift : ∀ y : Mark, y.shift [] = y := fun y => rfl
    simp [hshift]
  | cons c w ih =>
    obtain ⟨hc, hw⟩ := not_or.mp (mt List.mem_cons.mpr hw)
    have hnone := Marker.read_eq_none (Ne.symm hc) (w ++ cs)
    rw [List.cons_append, standsIn_cons, hnone]
    constructor
    · rintro (⟨-, hread⟩ | ⟨y, hy, rfl⟩)
      · cases hread
      · obtain ⟨z, hz, rfl⟩ := (ih hw).mp hy
        exact ⟨z, hz, rfl⟩
    · rintro ⟨z, hz, rfl⟩
      exact .inr ⟨z.shift w, (ih hw).mpr ⟨z, hz, rfl⟩, rfl⟩

end Mark

/-! ## All markers of a kind -/

/-- No marker begins within a cast. -/
lemma start_not_mem_of_isLongest (h : Cast.IsLongest cs w cast) (m : Marker) : m.start ∉ w := by
  cases cast with
  | none =>
    rw [h.1]
    exact List.not_mem_nil
  | some c =>
    intro hmem
    have hstart := h.1.isCastChar _ hmem
    cases m <;> exact absurd hstart (by decide)

/-- A text begins with one longest cast at most. -/
lemma Cast.IsLongest.unique {v : List Char} {cast' : Option Cast} (h : IsLongest cs v cast)
    (h' : IsLongest cs w cast') : v = w := by
  cases cast with
  | none =>
    cases cast' with
    | none => rw [h.1, h'.1]
    | some d => exact absurd h'.2.1 (h.2 w d.type h'.1)
  | some c =>
    cases cast' with
    | none => exact absurd h.2.1 (h'.2 v c.type h.1)
    | some d =>
      have hle := h.2.2 w d.type h'.1 h'.2.1
      have hge := h'.2.2 v c.type h.1 h.2.1
      have hprefix := List.prefix_of_prefix_length_le h.2.1 h'.2.1 hge
      exact hprefix.eq_of_length (Nat.le_antisymm hge hle)

/-- The markers of a kind in a text, and their names and casts: every marker that stands in the
text, from left to right, none within another or its cast, and each with the longest cast behind
it. -/
structure AllMarkers (m : Marker) (cs : List Char) (marks : List Mark)
    (slots : List (List Char × Option Cast)) : Prop where
  mem_iff : ∀ x, x ∈ marks ↔ x.StandsIn m cs
  ordered : marks.Pairwise (Mark.EndsBefore m)
  slots : List.Forall₂ (fun x slot => slot.1 = x.name ∧ ∃ w, Cast.IsLongest x.after w slot.2) marks
    slots

variable {marks : List Mark} {slots : List (List Char × Option Cast)}

lemma allMarkers_nil (m : Marker) : AllMarkers m [] [] [] := by
  refine ⟨fun x => ?_, .nil, .nil⟩
  simp [Mark.not_standsIn_nil]

/-- The markers of a text are those of what it ends with, if no marker begins before that. -/
lemma AllMarkers.shift (h : AllMarkers m cs marks slots) (w : List Char)
    (hshift : ∀ x, Mark.StandsIn x m (w ++ cs) ↔ ∃ y, Mark.StandsIn y m cs ∧ x = y.shift w) :
    AllMarkers m (w ++ cs) (marks.map (Mark.shift w)) slots := by
  refine ⟨fun x => ?_, ?_, ?_⟩
  · simp only [hshift, List.mem_map, h.mem_iff, eq_comm]
  · exact h.ordered.map _ fun x y hxy => hxy.shift w
  · rw [List.forall₂_map_left_iff]
    exact h.slots

/-- Behind a marker and its cast stand the markers of what is left, and no others. -/
lemma standsIn_text {x : Mark} (hname : m.Carries name)
    (hcast : Cast.IsLongest (w ++ cs) w cast) :
    x.StandsIn m (m.text name ++ (w ++ cs)) ↔ x = ⟨[], name, w ++ cs⟩ ∨
      ∃ y, Mark.StandsIn y m cs ∧ x = y.shift (m.text name ++ w) := by
  obtain ⟨tail, htext, htail⟩ := Marker.exists_text hname
  have hread : m.read (m.start :: (tail ++ w ++ cs)) = some (name, w ++ cs) := by
    rw [Marker.read_eq_some, htext, List.cons_append, List.append_assoc]
    exact ⟨hname, rfl⟩
  have hskip : m.start ∉ tail ++ w := by
    simp [htail, start_not_mem_of_isLongest hcast m]
  rw [htext, List.cons_append, ← List.append_assoc, Mark.standsIn_cons, hread]
  constructor
  · rintro (⟨hbefore, hsome⟩ | ⟨y, hy, rfl⟩)
    · left
      obtain ⟨before, name', after⟩ := x
      cases hbefore
      cases hsome
      rfl
    · obtain ⟨z, hz, rfl⟩ := (Mark.standsIn_append hskip).mp hy
      exact .inr ⟨z, hz, rfl⟩
  · rintro (rfl | ⟨z, hz, rfl⟩)
    · exact .inl ⟨rfl, rfl⟩
    · exact .inr ⟨z.shift (tail ++ w), (Mark.standsIn_append hskip).mpr ⟨z, hz, rfl⟩, rfl⟩

lemma AllMarkers.cons (h : AllMarkers m cs marks slots) (hname : m.Carries name)
    (hcast : Cast.IsLongest (w ++ cs) w cast) :
    AllMarkers m (m.text name ++ (w ++ cs))
      (⟨[], name, w ++ cs⟩ :: marks.map (Mark.shift (m.text name ++ w)))
      ((name, cast) :: slots) := by
  refine ⟨fun x => ?_, ?_, ?_⟩
  · simp only [standsIn_text hname hcast, List.mem_cons, List.mem_map, h.mem_iff, eq_comm]
  · refine List.pairwise_cons.mpr ⟨?_, h.ordered.map _ fun x y hxy => hxy.shift _⟩
    intro x hx v cast' hcast'
    obtain ⟨y, -, rfl⟩ := List.mem_map.mp hx
    rw [hcast'.unique hcast]
    exact List.prefix_append (m.text name ++ w) y.before
  · refine .cons ⟨rfl, w, hcast⟩ ?_
    rw [List.forall₂_map_left_iff]
    exact h.slots

/-- The reader finds all markers of a kind.  Along the text: it goes on behind a marker with its
cast, and otherwise behind one character. -/
theorem exists_allMarkers (m : Marker) (cs : List Char) :
    ∃ marks, AllMarkers m cs marks (m.findAll cs) := by
  fun_induction Marker.findAll m cs with
  | case1 cs name rest hread cast ih =>
    obtain ⟨marks, hmarks⟩ := ih
    obtain ⟨hname, rfl⟩ := Marker.read_eq_some.mp hread
    obtain ⟨w, hlongest, htext⟩ := Cast.isLongest_read rest
    have hlongest' : Cast.IsLongest (w ++ cast.2) w cast.1 := by
      rw [← htext]
      exact hlongest
    have hcons := hmarks.cons hname hlongest'
    rw [← htext] at hcons
    exact ⟨_, hcons⟩
  | case2 => exact ⟨[], allMarkers_nil m⟩
  | case3 c r hread ih =>
    obtain ⟨marks, hmarks⟩ := ih
    refine ⟨_, hmarks.shift [c] fun x => ?_⟩
    rw [List.singleton_append, Mark.standsIn_cons, hread]
    simp

lemma AllMarkers.eq_nil_iff (h : AllMarkers m cs marks slots) :
    slots = [] ↔ ∀ x, ¬ Mark.StandsIn x m cs := by
  have hlength := h.slots.length_eq
  constructor
  · rintro rfl x hx
    rw [List.length_eq_zero_iff.mp hlength] at h
    cases (h.mem_iff x).mpr hx
  · intro hnone
    cases marks with
    | nil => exact List.length_eq_zero_iff.mp hlength.symm
    | cons x marks => exact absurd ((h.mem_iff x).mp (List.mem_cons_self ..)) (hnone x)

/-! ## Templates -/

namespace Template

/-- The template of a text: the first kind of marker that stands in it decides, and each marker of
that kind has a slot. -/
inductive IsReadFrom (cs : List Char) : Template → Prop
  | brace {marks : List Mark} {slots : List (List Char × Option Cast)}
      (hbrace : ∃ x, Mark.StandsIn x .brace cs) (hall : AllMarkers .brace cs marks slots) :
      IsReadFrom cs (.named (namedSlots slots))
  | percentNamed {marks : List Mark} {slots : List (List Char × Option Cast)}
      (hbrace : ∀ x, ¬ Mark.StandsIn x .brace cs) (hnamed : ∃ x, Mark.StandsIn x .percentNamed cs)
      (hall : AllMarkers .percentNamed cs marks slots) : IsReadFrom cs (.named (namedSlots slots))
  | percent {marks : List Mark} {slots : List (List Char × Option Cast)}
      (hbrace : ∀ x, ¬ Mark.StandsIn x .brace cs) (hnamed : ∀ x, ¬ Mark.StandsIn x .percentNamed cs)
      (hpercent : ∃ x, Mark.StandsIn x .percent cs) (hall : AllMarkers .percent cs marks slots) :
      IsReadFrom cs (.positional (slots.map (·.2)))
  | invalid {t : Template} (hbrace : ∀ x, ¬ Mark.StandsIn x .brace cs)
      (hnamed : ∀ x, ¬ Mark.StandsIn x .percentNamed cs)
      (hpercent : ∀ x, ¬ Mark.StandsIn x .percent cs) (hvalid : t.isValid = false) :
      IsReadFrom cs t

/-- A kind of marker that stands in a text has slots, and all of them are found. -/
lemma exists_or_none (m : Marker) (cs : List Char) :
    (m.findAll cs = [] ∧ ∀ x, ¬ Mark.StandsIn x m cs) ∨
      ∃ slot slots marks, m.findAll cs = slot :: slots ∧ (∃ x, Mark.StandsIn x m cs) ∧
        AllMarkers m cs marks (slot :: slots) := by
  obtain ⟨marks, hall⟩ := exists_allMarkers m cs
  have hnil := hall.eq_nil_iff
  cases hfound : m.findAll cs with
  | nil => exact .inl ⟨rfl, hnil.mp hfound⟩
  | cons slot slots =>
    rw [hfound] at hall hnil
    refine .inr ⟨slot, slots, marks, rfl, ?_, hall⟩
    by_contra hnone
    exact List.cons_ne_nil slot slots (hnil.mpr (not_exists.mp hnone))

lemma isReadFrom_ofChars (cs : List Char) : IsReadFrom (collapseClosing cs) (ofChars cs) := by
  rw [ofChars]
  rcases exists_or_none .brace (collapseClosing cs) with
    ⟨hbrace, hno⟩ | ⟨slot, slots, marks, hbrace, hsome, hall⟩
  · rcases exists_or_none .percentNamed (collapseClosing cs) with
      ⟨hnamed, hno'⟩ | ⟨slot, slots, marks, hnamed, hsome, hall⟩
    · rcases exists_or_none .percent (collapseClosing cs) with
        ⟨hpercent, hno''⟩ | ⟨slot, slots, marks, hpercent, hsome, hall⟩
      · rw [hbrace, hnamed, hpercent]
        exact .invalid hno hno' hno'' rfl
      · rw [hbrace, hnamed, hpercent]
        exact .percent hno hno' hsome hall
    · rw [hbrace, hnamed]
      exact .percentNamed hno hsome hall
  · rw [hbrace]
    exact .brace hsome hall

variable {pattern : String}

/-- **Every marker is found.**  For a pattern that is not blank there is exactly one text in which
each run of its closing parentheses is one, and the pattern gives the template of that text: the
first kind of marker that stands in it decides, every marker of that kind has a slot, from left to
right, with its name and with the longest cast behind it, and no marker stands within another or
within the cast of another.  Without markers of any kind the template is not valid. -/
theorem parse_finds_all (hblank : allBlank pattern = false) :
    ∃ cs t, (∀ ds, Collapses pattern.toList ds ↔ ds = cs) ∧ parse pattern = .ok t ∧
      IsReadFrom cs t := by
  refine ⟨collapseClosing pattern.toList, ofChars pattern.toList, fun _ => collapses_iff, ?_,
    isReadFrom_ofChars _⟩
  rw [parse, hblank]
  rfl

/-- Parentheses that are made one right behind a cast, a marker where a further word could be, a
word of another script, and a marker of a kind that does not count. -/
theorem parse_finds_all_crowded :
    let pattern := "((\x7bgröße\x7d:: numeric (10,2 ) ) ) \x7bb\x7d::time zone \x7bc\x7d[], %s"
    let t : Template := .named [⟨"größe", some ⟨"numeric (10,2 )".toList⟩⟩,
      ⟨"b", some ⟨"time zone".toList⟩⟩, ⟨"c", none⟩]
    (allBlank pattern = false ∧ parse pattern = .ok t) ∧
      ∃ cs t', (∀ ds, Collapses pattern.toList ds ↔ ds = cs) ∧ parse pattern = .ok t' ∧
        IsReadFrom cs t' := by
  intro pattern t
  have hblank : allBlank pattern = false := by decide
  have hparse : parse pattern = .ok t := by decide +kernel
  exact ⟨⟨hblank, hparse⟩, parse_finds_all hblank⟩

end Template

end BulkValues
