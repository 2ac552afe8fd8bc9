/-
# Parentheses around a template

A pattern may stand in parentheses.  The first one belongs to no marker, and the last one counts as
one with those that the pattern ends with.  Otherwise it is new, and then it could end a cast: the
numbers behind a type need it.  It does so only if the parenthesis before the numbers is not closed
by the pattern itself.  Blanks at the end of the pattern may be lost, but no cast ends with one.
-/
import BulkValues.Proofs.Template.Spelling
import Mathlib.Data.List.Infix

namespace BulkValues

open BulkValues.Text

variable {m : Marker} {c : Char} {cs ds rest tail name w : List Char} {cast : Option Cast}

/-- Every opening parenthesis has a closing one behind it. -/
def OpeningsClosed (cs : List Char) : Prop := ∀ rest, '(' :: rest <:+ cs → ')' ∈ rest

instance (cs : List Char) : Decidable (OpeningsClosed cs) :=
  decidable_of_iff (∀ ds ∈ cs.tails, ds.head? = some '(' → ')' ∈ ds.tail) <| by
    simp only [List.mem_tails]
    constructor
    · exact fun h rest hrest => h ('(' :: rest) hrest rfl
    · intro h ds hds hhead
      obtain ⟨rest, rfl⟩ := List.head?_eq_some_iff.mp hhead
      exact h rest hds

/-! ## How a cast ends -/

namespace Cast

variable {type words modifier brackets : List Char}

/-- The last character of a text is no blank, and if it is a closing parenthesis, then it closes
one that is not closed before. -/
def EndsClosed (w : List Char) : Prop :=
  ∀ v d, w = v ++ [d] → isBlank d = false ∧ (d = ')' → ∃ u, '(' :: u <:+ v ∧ ')' ∉ u)

lemma endsClosed_nil : EndsClosed [] := by
  intro v d h
  simp at h

lemma endsClosed_of_forall (h : ∀ c ∈ w, isBlank c = false ∧ c ≠ ')') : EndsClosed w := by
  rintro v d rfl
  obtain ⟨hblank, hne⟩ := h d (by simp)
  exact ⟨hblank, fun hd => absurd hd hne⟩

lemma EndsClosed.prepend (h : EndsClosed w) (hne : w ≠ []) (u : List Char) :
    EndsClosed (u ++ w) := by
  intro v d hv
  obtain ⟨w', e, rfl⟩ := (List.eq_nil_or_concat' w).resolve_left hne
  rw [← List.append_assoc] at hv
  obtain ⟨rfl, hd⟩ := List.append_inj' hv rfl
  cases hd
  obtain ⟨hblank, hclosing⟩ := h w' d rfl
  refine ⟨hblank, fun hd => ?_⟩
  obtain ⟨u', hsuffix, hnone⟩ := hclosing hd
  exact ⟨u', hsuffix.trans (List.suffix_append u w'), hnone⟩

lemma EndsClosed.append {w' : List Char} (h : EndsClosed w) (h' : EndsClosed w') :
    EndsClosed (w ++ w') := by
  by_cases hne : w' = []
  · rwa [hne, List.append_nil]
  · exact h'.prepend hne w

lemma not_isBlank_of_isNamePart (h : isNamePart c = true) : isBlank c = false := by
  by_contra hblank
  rw [(not_isNamePart_of_isBlank (Bool.not_eq_false _ ▸ hblank)).1] at h
  cases h

lemma endsClosed_of_isNamePart (h : ∀ c ∈ w, isNamePart c = true) : EndsClosed w := by
  refine endsClosed_of_forall fun c hc => ⟨not_isBlank_of_isNamePart (h c hc), ?_⟩
  rintro rfl
  exact absurd (h _ hc) (by decide)

lemma isNamePart_of_isWord (h : isWord c = true) : isNamePart c = true := by
  rw [isNamePart, h, Bool.true_or]

lemma AreWords.endsClosed (h : AreWords words) : EndsClosed words := by
  induction h with
  | nil => exact endsClosed_nil
  | @cons blanks word more c _ _ hc hword _ ih =>
    refine EndsClosed.prepend ?_ (List.cons_ne_nil _ _) blanks
    have hrun : EndsClosed (c :: word) := endsClosed_of_isNamePart fun d hd => by
      rcases List.mem_cons.mp hd with rfl | hd
      · exact isNamePart_of_isWord (isWord_of_isNameStart hc)
      · exact isNamePart_of_isWord (hword d hd)
    exact hrun.append ih

lemma AreBrackets.endsClosed (h : AreBrackets brackets) : EndsClosed brackets := by
  induction h with
  | nil => exact endsClosed_nil
  | cons _ ih =>
    have hpair : EndsClosed ['[', ']'] := endsClosed_of_forall <|
      List.forall_mem_cons.mpr ⟨by decide, List.forall_mem_singleton.mpr (by decide)⟩
    exact hpair.append ih

lemma IsCount.closing_not_mem (h : IsCount w) : ')' ∉ w := by
  cases h with
  | mk hblanks _ hdigits =>
    rw [List.mem_append]
    rintro (hmem | hmem)
    · exact absurd (hblanks _ hmem) (by decide)
    · exact absurd (hdigits _ hmem) (by decide)

lemma IsMark.closing_not_mem {sign : Char} (h : IsMark sign w) (hsign : ')' ≠ sign) :
    ')' ∉ w := by
  cases h with
  | mk hblanks =>
    rw [List.mem_append, List.mem_singleton]
    rintro (hmem | hmem)
    · exact absurd (hblanks _ hmem) (by decide)
    · exact hsign hmem

lemma IsSecondCount.closing_not_mem (h : IsSecondCount w) : ')' ∉ w := by
  cases h with
  | none => exact List.not_mem_nil
  | some hcomma hcount =>
    rw [List.mem_append, not_or]
    exact ⟨hcomma.closing_not_mem (by decide), hcount.closing_not_mem⟩

/-- The parenthesis at the end of a modifier closes the one at its beginning. -/
lemma IsModifier.endsClosed (h : IsModifier modifier) : EndsClosed modifier := by
  cases h with
  | none => exact endsClosed_nil
  | @some opening count second closing hopening hcount hsecond hclosing =>
    intro v d hv
    cases hopening with
    | @mk blanks hblanks =>
      cases hclosing with
      | @mk blanks' hblanks' =>
        have hinner : ')' ∉ count ++ (second ++ blanks') := by
          simp only [List.mem_append, not_or]
          exact ⟨hcount.closing_not_mem, hsecond.closing_not_mem,
            fun hmem => absurd (hblanks' _ hmem) (by decide)⟩
        have htext : blanks ++ '(' :: (count ++ (second ++ blanks')) ++ [')'] = v ++ [d] := by
          rw [← hv]
          simp
        obtain ⟨rfl, hd⟩ := List.append_inj' htext rfl
        cases hd
        exact ⟨by decide, fun _ => ⟨_, List.suffix_append _ _, hinner⟩⟩

/-- A cast ends neither with a blank nor with a parenthesis that it does not open. -/
lemma IsCast.endsClosed (h : IsCast w type) : EndsClosed w := by
  cases h with
  | @mk blanks type _ htype =>
    cases htype with
    | @mk c name words modifier brackets hc hname hwords hmodifier hbrackets =>
      have hrun : EndsClosed (c :: name) := endsClosed_of_isNamePart fun d hd => by
        rcases List.mem_cons.mp hd with rfl | hd
        · exact isNamePart_of_isWord (isWord_of_isNameStart hc)
        · exact hname d hd
      have htype := hrun.append
        (hwords.endsClosed.append (hmodifier.endsClosed.append hbrackets.endsClosed))
      exact htype.prepend (List.cons_ne_nil _ _) (':' :: ':' :: blanks)

/-- A text that a longer text begins with, if it reaches beyond the front of that text, ends with a
character of its back. -/
lemma prefix_or_of_prefix_append (h : w <+: cs ++ tail) :
    w <+: cs ∨ ∃ u d, w = cs ++ (u ++ [d]) ∧ u ++ [d] <+: tail := by
  rcases List.prefix_or_prefix_of_prefix h (List.prefix_append cs tail) with hw | ⟨t, rfl⟩
  · exact .inl hw
  · rw [List.prefix_append_right_inj] at h
    rcases List.eq_nil_or_concat' t with rfl | ⟨u, d, rfl⟩
    · rw [List.append_nil]
      exact .inl List.prefix_rfl
    · exact .inr ⟨u, d, rfl, h⟩

/-- No cast reaches into blanks at the end of a text. -/
lemma IsCast.prefix_of_blanks (h : IsCast w type) (hblanks : AreBlanks tail)
    (hw : w <+: cs ++ tail) : w <+: cs := by
  rcases prefix_or_of_prefix_append hw with hw | ⟨u, d, rfl, hd⟩
  · exact hw
  · have hlast := (h.endsClosed (cs ++ u) d (by rw [List.append_assoc])).1
    rw [hblanks d (hd.subset (by simp))] at hlast
    cases hlast

/-- No cast takes a closing parenthesis at the end of a text where all parentheses are closed. -/
lemma IsCast.prefix_of_closing (h : IsCast w type) (hclosed : OpeningsClosed cs)
    (hw : w <+: cs ++ [')']) : w <+: cs := by
  rcases prefix_or_of_prefix_append hw with hw | ⟨u, d, rfl, hd⟩
  · exact hw
  · obtain ⟨rfl, rfl⟩ : u = [] ∧ d = ')' := by
      cases u with
      | nil => simpa using hd
      | cons e u => simpa using hd.length_le
    -- The cast would end with the new parenthesis, and its opening one would not be closed before.
    obtain ⟨v, hv, hnone⟩ := (h.endsClosed cs ')' rfl).2 rfl
    exact absurd (hclosed v hv) hnone

/-- What no cast reaches into is left behind the cast that is read. -/
lemma read_append_of_prefixes (h : ∀ w type, IsCast w type → w <+: cs ++ tail → w <+: cs) :
    read (cs ++ tail) = ((read cs).1, (read cs).2 ++ tail) := by
  obtain ⟨w, hw, htext⟩ := isLongest_read cs
  have hfront : w <+: cs := ⟨(read cs).2, htext.symm⟩
  have hlongest := hw.of_prefixes (hfront.trans (List.prefix_append cs tail)) h
  generalize (read cs).1 = cast at *
  generalize (read cs).2 = rest at *
  rw [htext, List.append_assoc] at hlongest ⊢
  exact hlongest.read_eq

end Cast

/-! ## Closing parentheses at the end -/

lemma OpeningsClosed.suffix (h : OpeningsClosed cs) (hds : ds <:+ cs) : OpeningsClosed ds :=
  fun rest hrest => h rest (hrest.trans hds)

lemma skipClosing_suffix (cs : List Char) : skipClosing cs <:+ ')' :: cs := by
  obtain ⟨run, -, htext, -⟩ := exists_closingRun cs
  rw [htext]
  exact List.suffix_append run _

lemma closing_mem_collapseClosing (h : ')' ∈ cs) : ')' ∈ collapseClosing cs := by
  fun_induction collapseClosing cs with
  | case1 => cases h
  | case2 r ih => exact List.mem_cons_self
  | case3 c r hc ih =>
    rcases List.mem_cons.mp h with rfl | h
    · exact absurd rfl hc
    · exact List.mem_cons_of_mem c (ih h)

/-- A parenthesis stays closed when each run of closing ones is made one. -/
lemma OpeningsClosed.collapseClosing (h : OpeningsClosed cs) :
    OpeningsClosed (collapseClosing cs) := by
  fun_induction BulkValues.collapseClosing cs with
  | case1 => exact h
  | case2 r ih =>
    intro rest hrest
    rcases List.suffix_cons_iff.mp hrest with heq | hrest
    · cases heq
    · exact ih (h.suffix (skipClosing_suffix r)) rest hrest
  | case3 c r hc ih =>
    intro rest hrest
    rcases List.suffix_cons_iff.mp hrest with heq | hrest
    · cases heq
      exact closing_mem_collapseClosing (h r List.suffix_rfl)
    · exact ih (h.suffix (List.suffix_cons c r)) rest hrest

lemma skipBlanks_append_tail (h : skipBlanks cs ≠ []) (tail : List Char) :
    skipBlanks (cs ++ tail) = skipBlanks cs ++ tail := by
  rw [skipBlanks] at h
  rw [skipBlanks, List.dropWhile_append, if_neg (mt List.isEmpty_iff.mp h), skipBlanks]

/-- A closing parenthesis behind a text ends the run that the text ends with, or it is left. -/
lemma skipClosing_append_closing (cs : List Char) :
    skipClosing (cs ++ [')']) = skipClosing cs ++ [')'] ∨
      Cast.AreBlanks (skipClosing cs) ∧ skipClosing (cs ++ [')']) = [] := by
  fun_induction skipClosing cs with
  | case1 cs r hr ih =>
    have hskip : skipBlanks (cs ++ [')']) = ')' :: (r ++ [')']) := by
      rw [skipBlanks_append_tail (hr ▸ List.cons_ne_nil _ _), hr, List.cons_append]
    rwa [skipClosing_of_closing hskip]
  | case2 cs hne =>
    by_cases hnil : skipBlanks cs = []
    -- Only blanks are left, and the run goes on over them to the new parenthesis.
    · right
      have hskip : skipBlanks (cs ++ [')']) = [')'] := by
        rw [skipBlanks, List.dropWhile_append, ← skipBlanks, hnil]
        rfl
      refine ⟨List.dropWhile_eq_nil_iff.mp hnil, ?_⟩
      rw [skipClosing_of_closing hskip, skipClosing_of_stopsAt (stopsAt_nil _)]
    · left
      refine skipClosing_eq ?_
      rw [skipBlanks_append_tail hnil]
      obtain ⟨d, r, hd⟩ := List.exists_cons_of_ne_nil hnil
      have hstop := stopsAt_of_ne hne
      rw [hd] at hstop ⊢
      exact hstop

/-- Behind a text a closing parenthesis is new, or the text loses the blanks that it ends with. -/
lemma collapseClosing_append_closing (cs : List Char) :
    collapseClosing (cs ++ [')']) = collapseClosing cs ++ [')'] ∨
      ∃ blanks, Cast.AreBlanks blanks ∧
        collapseClosing cs = collapseClosing (cs ++ [')']) ++ blanks := by
  fun_induction collapseClosing cs with
  | case1 => exact .inl collapseClosing_closing_only
  | case2 r ih =>
    rw [List.cons_append, collapseClosing_closing]
    rcases skipClosing_append_closing r with hskip | ⟨hblanks, hskip⟩
    · rw [hskip]
      rcases ih with hnew | ⟨blanks, hblanks, hlost⟩
      · exact .inl (by rw [hnew, List.cons_append])
      · exact .inr ⟨blanks, hblanks, by rw [hlost, List.cons_append]⟩
    · right
      have hnone : ')' ∉ skipClosing r := fun hmem => absurd (hblanks _ hmem) (by decide)
      have hsame := collapseClosing_append hnone []
      rw [collapseClosing, List.append_nil] at hsame
      refine ⟨skipClosing r, hblanks, ?_⟩
      rw [hskip, hsame, collapseClosing]
      rfl
  | case3 c r hc ih =>
    rw [List.cons_append, collapseClosing_cons hc]
    rcases ih with hnew | ⟨blanks, hblanks, hlost⟩
    · exact .inl (by rw [hnew, List.cons_append])
    · exact .inr ⟨blanks, hblanks, by rw [hlost, List.cons_append]⟩

/-! ## Markers in front of blanks and parentheses -/

namespace Marker

/-- A marker ends with a brace or a letter. -/
lemma exists_last (m : Marker) (name : List Char) :
    ∃ u d, m.text name = u ++ [d] ∧ isBlank d = false ∧ d ≠ ')' := by
  cases m with
  | brace => exact ⟨'{' :: name, '}', rfl, by decide, by decide⟩
  | percentNamed => exact ⟨'%' :: '(' :: (name ++ [')']), 's', by simp [text], by decide, by decide⟩
  | percent => exact ⟨['%'], 's', rfl, by decide, by decide⟩

lemma read_append (h : m.read cs = some (name, rest)) (tail : List Char) :
    m.read (cs ++ tail) = some (name, rest ++ tail) := by
  obtain ⟨hname, rfl⟩ := read_eq_some.mp h
  exact read_eq_some.mpr ⟨hname, List.append_assoc _ _ _⟩

lemma read_append_eq_none (h : m.read cs = none)
    (htail : ∀ c ∈ tail, isBlank c = true ∨ c = ')') : m.read (cs ++ tail) = none := by
  rw [read_eq_none_iff] at h ⊢
  intro name rest hname htext
  have hfront : m.text name <+: cs ++ tail := ⟨rest, htext.symm⟩
  rcases Cast.prefix_or_of_prefix_append hfront with ⟨rest', htext'⟩ | ⟨u, d, htext', hd⟩
  · exact h name rest' hname htext'.symm
  · obtain ⟨v, e, hlast, hblank, hne⟩ := m.exists_last name
    rw [hlast, ← List.append_assoc] at htext'
    obtain ⟨-, he⟩ := List.append_inj' htext' rfl
    cases he
    rcases htail d (hd.subset (by simp)) with hblank' | rfl
    · rw [hblank'] at hblank
      cases hblank
    · exact hne rfl

/-- Blanks and closing parentheses behind a text that no cast reaches into do not matter. -/
lemma findAll_append_tail (htail : ∀ c ∈ tail, isBlank c = true ∨ c = ')')
    (hcasts : ∀ v, v <:+ cs → ∀ w type, Cast.IsCast w type → w <+: v ++ tail → w <+: v) :
    m.findAll (cs ++ tail) = m.findAll cs := by
  fun_induction Marker.findAll m cs with
  | case1 cs name rest hread cast ih =>
    obtain ⟨w, -, htext⟩ := Cast.isLongest_read rest
    obtain ⟨-, hcs⟩ := read_eq_some.mp hread
    have hrest : rest <:+ cs := hcs ▸ List.suffix_append _ _
    have hafter : cast.2 <:+ cs := List.IsSuffix.trans ⟨w, htext.symm⟩ hrest
    rw [findAll_of_read_eq_some (read_append hread tail),
      Cast.read_append_of_prefixes (hcasts rest hrest)]
    exact congrArg _ (ih fun v hv => hcasts v (hv.trans hafter))
  | case2 =>
    have hstart : m.start ∉ tail := by
      intro hmem
      rcases htail _ hmem with hblank | hclosing
      · revert hblank
        cases m <;> decide
      · revert hclosing
        cases m <;> decide
    have hnone := findAll_append hstart []
    rwa [List.append_nil, findAll_nil] at hnone
  | case3 c r hread ih =>
    have hnone := read_append_eq_none hread htail
    rw [List.cons_append] at hnone ⊢
    rw [findAll_of_read_eq_none hnone]
    exact ih fun v hv => hcasts v (hv.trans (List.suffix_cons c r))

/-- The same markers are found in a text and in the text in parentheses. -/
lemma findAll_enclosed (h : OpeningsClosed cs) (m : Marker) :
    m.findAll (collapseClosing ('(' :: (cs ++ [')']))) = m.findAll (collapseClosing cs) := by
  rw [collapseClosing_cons (by decide), findAll_opening]
  rcases collapseClosing_append_closing cs with hnew | ⟨blanks, hblanks, hlost⟩
  -- The parenthesis is new, or else the text in parentheses is the shorter one, without blanks.
  · rw [hnew]
    refine findAll_append_tail (by simp) fun v hv w type hw hfront => ?_
    exact hw.prefix_of_closing (h.collapseClosing.suffix hv) hfront
  · rw [hlost]
    refine (findAll_append_tail (fun c hc => .inl (hblanks c hc)) ?_).symm
    exact fun v _ w type hw hfront => hw.prefix_of_blanks hblanks hfront

end Marker

namespace Template

variable {pattern : String}

lemma parse_congr {pattern' : String}
    (hblank : allBlank pattern' = allBlank pattern)
    (h : ofChars pattern'.toList = ofChars pattern.toList) : parse pattern' = parse pattern := by
  rw [parse, parse, hblank, h]

lemma ofChars_enclosed (h : OpeningsClosed cs) : ofChars ('(' :: (cs ++ [')'])) = ofChars cs := by
  simp only [ofChars, Marker.findAll_enclosed h]

/-- The pattern with every word in braces written with a percent sign. -/
def respell (pattern : String) : String := String.ofList (respellChars pattern.toList)

/-- **Neither the way in which names are written nor parentheses around a pattern matter.**  If no
name is written with a percent sign once each run of closing parentheses is one, then those in
braces can be written so, and the pattern gives the same template or is refused alike.  If a
pattern is not blank and each of its opening parentheses has a closing one behind it, then it gives
the same template in parentheses. -/
theorem parse_respelled_or_enclosed (pattern : String) :
    (∀ ds, Respells pattern.toList ds ↔ ds = (respell pattern).toList) ∧
    ((∀ cs, Collapses pattern.toList cs → ∀ x, ¬ Mark.StandsIn x .percentNamed cs) →
      parse (respell pattern) = parse pattern) ∧
    (allBlank pattern = false → OpeningsClosed pattern.toList →
      parse ("(" ++ pattern ++ ")") = parse pattern) := by
  have htext : (respell pattern).toList = respellChars pattern.toList := String.toList_ofList
  refine ⟨fun ds => ?_, fun hnone => ?_, fun hblank hclosed => ?_⟩
  · rw [htext]
    exact Respells.iff_respellChars
  · have hrespells := Respells.iff_respellChars.mpr htext
    exact parse_congr hrespells.all_isBlank
      (ofChars_respells hrespells (hnone _ (collapses_iff.mpr rfl)))
  · have henclosed : ("(" ++ pattern ++ ")").toList = '(' :: (pattern.toList ++ [')']) := by
      simp
    refine parse_congr ?_ (by rw [henclosed, ofChars_enclosed hclosed])
    rw [hblank, allBlank, henclosed]
    rfl

/-- A cast that ends with a parenthesis at the end of the pattern, blanks behind it, a word of
another script, a word in braces within braces, and a bare percent sign, which does not count. -/
theorem parse_respelled_or_enclosed_numeric :
    let pattern := "(%s) {{größe}}:: int , {n}::numeric ( 10,2 ) ) "
    let respelled := "(%s) {%(größe)s}:: int , %(n)s::numeric ( 10,2 ) ) "
    let t : Template := .named [⟨"größe", none⟩, ⟨"n", some ⟨"numeric ( 10,2 )".toList⟩⟩]
    ((∀ cs, Collapses pattern.toList cs → ∀ x, ¬ Mark.StandsIn x .percentNamed cs) ∧
      allBlank pattern = false ∧ OpeningsClosed pattern.toList ∧ parse pattern = .ok t) ∧
      Respells pattern.toList respelled.toList ∧ parse respelled = .ok t ∧
        parse ("(" ++ pattern ++ ")") = .ok t := by
  intro pattern respelled t
  have hnone : ∀ cs, Collapses pattern.toList cs → ∀ x, ¬ Mark.StandsIn x .percentNamed cs := by
    intro cs hcs
    rw [collapses_iff.mp hcs, ← Marker.findAll_eq_nil_iff]
    decide +kernel
  have hblank : allBlank pattern = false := by decide
  have hclosed : OpeningsClosed pattern.toList := by decide +kernel
  have hparse : parse pattern = .ok t := by decide +kernel
  have hrespelled : respelled = respell pattern := by decide +kernel
  obtain ⟨hiff, hsame, henclosed⟩ := parse_respelled_or_enclosed pattern
  refine ⟨⟨hnone, hblank, hclosed, hparse⟩, ?_, ?_, ?_⟩
  · rw [hiff, hrespelled]
  · rw [hrespelled, hsame hnone, hparse]
  · rw [henclosed hblank hclosed, hparse]

end Template

end BulkValues
