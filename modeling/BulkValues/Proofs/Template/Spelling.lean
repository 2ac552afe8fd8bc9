/-
# Two ways to write a name

A name stands in braces, or in parentheses between a percent sign and the letter s.  Where a text
has no name of the second kind, those of the first kind can be written as such, and the text gives
the same template.

The new text has parentheses that the old one did not have.  Each of them is a run of its own,
because a word stands before it and a letter behind it, and none of them is looked at by the reader
of casts, because a cast has neither a brace nor a percent sign.
-/
import BulkValues.Proofs.Template.Markers

namespace BulkValues

open BulkValues.Text

variable {m : Marker} {c : Char} {cs ds rest name w : List Char} {cast : Option Cast}

/-! ## The cast in front of another text -/

namespace Cast

variable {type type' : List Char}

lemma IsCast.type_eq (h : IsCast w type) : type = skipBlanks (w.drop 2) := by
  cases h with
  | @mk blanks type hblanks htype =>
    have hstop := stopsAt_isBlank_of_isType htype []
    rw [List.append_nil] at hstop
    exact (skipBlanks_append hblanks hstop).1.symm

/-- The longest cast that a text begins with is what is read from it. -/
lemma IsLongest.read_eq (h : IsLongest (w ++ rest) w cast) : read (w ++ rest) = (cast, rest) := by
  obtain ⟨v, hv, htext⟩ := isLongest_read (w ++ rest)
  obtain rfl : v = w := hv.unique h
  have hrest : rest = (read (v ++ rest)).2 := List.append_cancel_left htext
  have hcast : (read (v ++ rest)).1 = cast := by
    generalize (read (v ++ rest)).1 = cast' at hv
    cases cast' with
    | none =>
      cases cast with
      | none => rfl
      | some c => exact absurd h.2.1 (hv.2 v c.type h.1)
    | some d =>
      cases cast with
      | none => exact absurd hv.2.1 (h.2 v d.type hv.1)
      | some c =>
        have htype : d.type = c.type := hv.1.type_eq.trans h.1.type_eq.symm
        exact congrArg (fun type => some (Cast.mk type)) htype
  exact Prod.ext hcast hrest.symm

/-- A text that begins with the same cast, and with no cast that the first text does not begin
with. -/
lemma IsLongest.of_prefixes (h : IsLongest cs w cast) (hw : w <+: ds)
    (hcasts : ∀ v type, IsCast v type → v <+: ds → v <+: cs) : IsLongest ds w cast := by
  cases cast with
  | none => exact ⟨h.1, fun v type hv hds => h.2 v type hv (hcasts v type hv hds)⟩
  | some c => exact ⟨h.1, hw, fun v type hv hds => h.2.2 v type hv (hcasts v type hv hds)⟩

end Cast

/-! ## Writing names with a percent sign -/

/-- A text with every word in braces written with a percent sign, in parentheses and with the
letter s. -/
inductive Respells : List Char → List Char → Prop
  | nil : Respells [] []
  | word {name cs ds : List Char} (hname : Marker.brace.Carries name) (h : Respells cs ds) :
      Respells (Marker.brace.text name ++ cs) (Marker.percentNamed.text name ++ ds)
  | other {c : Char} {cs ds : List Char}
      (hnone : ∀ name rest, Marker.brace.Carries name → c :: cs ≠ Marker.brace.text name ++ rest)
      (h : Respells cs ds) : Respells (c :: cs) (c :: ds)

/-- The text with every word in braces written with a percent sign. -/
def respellChars (cs : List Char) : List Char :=
  match _h : Marker.brace.read cs with
  | some (name, rest) => Marker.percentNamed.text name ++ respellChars rest
  | none =>
    match cs with
    | [] => []
    | c :: r => c :: respellChars r
termination_by cs.length
decreasing_by
  · exact Marker.length_of_read _h
  · exact Nat.lt_succ_self _

/-- Both kinds of marker with a name carry words. -/
lemma Marker.carries_percentNamed (h : Marker.brace.Carries name) :
    Marker.percentNamed.Carries name := ⟨h.1, by simpa using h.2⟩

lemma Marker.read_eq_none_iff :
    m.read cs = none ↔ ∀ name rest, m.Carries name → cs ≠ m.text name ++ rest := by
  constructor
  · rintro hnone name rest hname rfl
    rw [read_eq_some.mpr ⟨hname, rfl⟩] at hnone
    cases hnone
  · intro h
    rw [Option.eq_none_iff_forall_ne_some]
    rintro ⟨name, rest⟩ hsome
    obtain ⟨hname, htext⟩ := read_eq_some.mp hsome
    exact h name rest hname htext

/-! ## Closing parentheses -/

lemma skipClosing_of_closing (h : skipBlanks cs = ')' :: rest) :
    skipClosing cs = skipClosing rest := by
  rw [skipClosing.eq_def]
  split
  · rename_i r hr
    rw [h] at hr
    cases hr
    rfl
  · rename_i hne
    exact absurd h (hne rest)

lemma Marker.closing_not_mem (hname : m.Carries name) : ')' ∉ name :=
  fun hmem => absurd (hname.1 _ hmem) (by decide)

/-- The parenthesis of a name is a run of its own. -/
lemma collapseClosing_percentNamed (hname : Marker.brace.Carries name) (cs : List Char) :
    collapseClosing (Marker.percentNamed.text name ++ cs) =
      Marker.percentNamed.text name ++ collapseClosing cs := by
  have hclosing := Marker.closing_not_mem hname
  have hbefore : ')' ∉ '%' :: '(' :: name := by simp [hclosing]
  have htext : ∀ cs, Marker.percentNamed.text name ++ cs =
      ('%' :: '(' :: name) ++ ')' :: 's' :: cs := fun cs => by simp [Marker.text]
  rw [htext, htext, collapseClosing_append hbefore, collapseClosing_closing,
    skipClosing_of_stopsAt (stopsAt_cons (by decide) _), collapseClosing_cons (by decide)]

lemma collapseClosing_brace (hname : Marker.brace.Carries name) (cs : List Char) :
    collapseClosing (Marker.brace.text name ++ cs) =
      Marker.brace.text name ++ collapseClosing cs := by
  have hclosing := Marker.closing_not_mem hname
  exact collapseClosing_append (by simp [Marker.text, hclosing]) cs

/-- Without a closing parenthesis, what a text begins with is not changed by making one of each
run. -/
lemma exists_append_of_collapseClosing (hw : ')' ∉ w) (h : collapseClosing cs = w ++ rest) :
    ∃ cs', cs = w ++ cs' := by
  induction w generalizing cs with
  | nil => exact ⟨cs, rfl⟩
  | cons d w ih =>
    obtain ⟨hd, hafter⟩ := not_or.mp (mt List.mem_cons.mpr hw)
    cases cs with
    | nil =>
      rw [collapseClosing] at h
      cases h
    | cons c r =>
      by_cases hc : c = ')'
      · rw [hc, collapseClosing_closing] at h
        exact absurd (List.cons_eq_cons.mp h).1 hd
      · rw [collapseClosing_cons hc] at h
        obtain ⟨rfl, hr⟩ := List.cons_eq_cons.mp h
        obtain ⟨cs', rfl⟩ := ih hafter hr
        exact ⟨cs', rfl⟩

lemma Marker.findAll_of_read_eq_some (h : m.read cs = some (name, rest)) :
    m.findAll cs = (name, (Cast.read rest).1) :: m.findAll (Cast.read rest).2 := by
  rw [Marker.findAll.eq_def]
  split
  · rename_i hread
    rw [h] at hread
    cases hread
    rfl
  · rename_i hread
    rw [h] at hread
    cases hread

lemma Mark.StandsIn.append {x : Mark} (h : x.StandsIn m cs) (w : List Char) :
    (x.shift w).StandsIn m (w ++ cs) := ⟨h.1, by rw [h.2, Mark.shift, List.append_assoc]⟩

namespace Respells

lemma cons_of_ne (hc : c ≠ '{') (h : Respells cs ds) : Respells (c :: cs) (c :: ds) :=
  .other (Marker.read_eq_none_iff.mp (Marker.read_eq_none hc cs)) h

lemma of_nil (h : Respells [] ds) : ds = [] := by
  generalize hcs : ([] : List Char) = cs at h
  cases h with
  | nil => rfl
  | word => cases hcs
  | other => cases hcs

/-- What a text becomes is decided by the marker that it begins with. -/
lemma of_read (h : Respells cs ds) (hread : Marker.brace.read cs = some (name, rest)) :
    ∃ ds', ds = Marker.percentNamed.text name ++ ds' ∧ Respells rest ds' := by
  cases h with
  | nil => cases hread
  | @word name' cs' ds' hname h =>
    rw [Marker.read_eq_some.mpr ⟨hname, rfl⟩] at hread
    cases hread
    exact ⟨ds', rfl, h⟩
  | other hnone h =>
    rw [Marker.read_eq_none_iff.mpr hnone] at hread
    cases hread

lemma of_cons (h : Respells (c :: cs) ds) (hread : Marker.brace.read (c :: cs) = none) :
    ∃ ds', ds = c :: ds' ∧ Respells cs ds' := by
  generalize hcs : c :: cs = cs₀ at h
  cases h with
  | nil => cases hcs
  | word hname h =>
    rw [hcs, Marker.read_eq_some.mpr ⟨hname, rfl⟩] at hread
    cases hread
  | other hnone h =>
    cases hcs
    exact ⟨_, rfl, h⟩

lemma of_append (hw : '{' ∉ w) (h : Respells (w ++ cs) ds) :
    ∃ ds', ds = w ++ ds' ∧ Respells cs ds' := by
  induction w generalizing ds with
  | nil => exact ⟨ds, rfl, h⟩
  | cons c w ih =>
    obtain ⟨hc, hw⟩ := not_or.mp (mt List.mem_cons.mpr hw)
    obtain ⟨ds', rfl, htail⟩ := h.of_cons (Marker.read_eq_none (m := .brace) (Ne.symm hc) _)
    obtain ⟨ds'', rfl, hrest⟩ := ih hw htail
    exact ⟨ds'', rfl, hrest⟩

/-- What stands in the new text without a percent sign stood in the old one. -/
lemma of_append_right (hw : '%' ∉ w) (h : Respells cs (w ++ rest)) :
    ∃ cs', cs = w ++ cs' ∧ Respells cs' rest := by
  induction w generalizing cs with
  | nil => exact ⟨cs, rfl, h⟩
  | cons d w ih =>
    obtain ⟨hd, hw⟩ := not_or.mp (mt List.mem_cons.mpr hw)
    generalize htext : d :: w ++ rest = text at h
    cases h with
    | nil => cases htext
    | word => exact absurd (List.cons_eq_cons.mp htext).1.symm hd
    | other _ htail =>
      cases htext
      obtain ⟨cs', rfl, hrest⟩ := ih hw htail
      exact ⟨cs', rfl, hrest⟩

/-- A text without words in braces stays as it is. -/
lemma eq_of_forall_not_standsIn (h : Respells cs ds) (hnone : ∀ x, ¬ Mark.StandsIn x .brace cs) :
    ds = cs := by
  induction h with
  | nil => rfl
  | @word name cs ds hname h ih => exact absurd ⟨hname, rfl⟩ (hnone ⟨[], name, cs⟩)
  | @other c cs ds _ h ih =>
    rw [ih fun x hx => hnone (x.shift [c]) (Mark.standsIn_cons.mpr (.inr ⟨x, hx, rfl⟩))]

/-- There is one new text, and it can be computed. -/
theorem iff_respellChars : Respells cs ds ↔ ds = respellChars cs := by
  fun_induction respellChars cs generalizing ds with
  | case1 cs name rest hread ih =>
    constructor
    · intro h
      obtain ⟨ds', rfl, htail⟩ := h.of_read hread
      rw [ih.mp htail]
    · rintro rfl
      obtain ⟨hname, rfl⟩ := Marker.read_eq_some.mp hread
      exact .word hname (ih.mpr rfl)
  | case2 => exact ⟨of_nil, by rintro rfl; exact .nil⟩
  | case3 c r hread ih =>
    constructor
    · intro h
      obtain ⟨ds', rfl, htail⟩ := h.of_cons hread
      rw [ih.mp htail]
    · rintro rfl
      exact .other (Marker.read_eq_none_iff.mp hread) (ih.mpr rfl)

lemma all_isBlank (h : Respells cs ds) : ds.all isBlank = cs.all isBlank := by
  induction h with
  | nil => rfl
  | word => rfl
  | other _ _ ih => rw [List.all_cons, List.all_cons, ih]

/-- The new text begins as the old one, or with a percent sign. -/
lemma stopsAt {kind : Char → Bool} (h : Respells cs ds) (hkind : kind '%' = false)
    (hstop : StopsAt kind cs) : StopsAt kind ds := by
  cases h with
  | nil => exact hstop
  | word => exact stopsAt_cons hkind _
  | other => exact hstop

lemma skipBlanks (h : Respells cs ds) : Respells (skipBlanks cs) (skipBlanks ds) := by
  have hopening : '{' ∉ cs.takeWhile isBlank := Cast.not_mem_takeWhile (by decide) cs
  rw [← takeWhile_append_skipBlanks cs] at h
  obtain ⟨ds', rfl, hafter⟩ := h.of_append hopening
  have hstop : StopsAt isBlank ds' := hafter.stopsAt (by decide) (stopsAt_dropWhile isBlank cs)
  rwa [(skipBlanks_append (fun _ => mem_takeWhile_isBlank) hstop).1]

lemma skipClosing (h : Respells cs ds) : Respells (skipClosing cs) (skipClosing ds) := by
  fun_induction BulkValues.skipClosing cs generalizing ds with
  | case1 cs r hr ih =>
    have hafter := h.skipBlanks
    rw [hr] at hafter
    obtain ⟨ds', hds', htail⟩ := hafter.of_cons (Marker.read_eq_none (by decide) r)
    rw [skipClosing_of_closing hds']
    exact ih htail
  | case2 cs hne =>
    have hstop := h.skipBlanks.stopsAt (by decide) (stopsAt_of_ne hne)
    rwa [skipClosing_eq hstop]

/-- Names are the same before and after each run of closing parentheses is made one. -/
lemma collapseClosing (h : Respells cs ds) :
    Respells (collapseClosing cs) (collapseClosing ds) := by
  -- Along the text: what is behind a run is shorter than the rest of the relation.
  induction hn : cs.length using Nat.strong_induction_on generalizing cs ds with
  | _ n ih =>
    cases h with
    | nil =>
      rw [BulkValues.collapseClosing]
      exact .nil
    | @word name cs ds hname htail =>
      rw [collapseClosing_brace hname, collapseClosing_percentNamed hname]
      refine .word hname (ih cs.length ?_ htail rfl)
      rw [← hn]
      simp [Marker.text]
      omega
    | @other c cs ds hnone htail =>
      by_cases hc : c = ')'
      · subst hc
        rw [collapseClosing_closing, collapseClosing_closing]
        have hle := length_skipClosing_le cs
        refine cons_of_ne (by decide) (ih _ ?_ htail.skipClosing rfl)
        rw [← hn, List.length_cons]
        omega
      · rw [collapseClosing_cons hc, collapseClosing_cons hc]
        refine .other ?_ (ih cs.length ?_ htail rfl)
        · intro name rest hname htext
          have hclosing : ')' ∉ Marker.brace.text name := by
            simp [Marker.text, Marker.closing_not_mem hname]
          rw [← collapseClosing_cons hc] at htext
          obtain ⟨cs', hcs'⟩ := exists_append_of_collapseClosing hclosing htext
          exact hnone name cs' hname hcs'
        · rw [← hn, List.length_cons]
          exact Nat.lt_succ_self _

/-! ## Markers -/

/-- The same cast is read from both texts. -/
lemma castRead (h : Respells cs ds) :
    ∃ ds', Cast.read ds = ((Cast.read cs).1, ds') ∧ Respells (Cast.read cs).2 ds' := by
  obtain ⟨w, hw, htext⟩ := Cast.isLongest_read cs
  have hopening : '{' ∉ w := start_not_mem_of_isLongest hw .brace
  have hwhole := h
  rw [htext] at hwhole
  obtain ⟨ds', rfl, hafter⟩ := hwhole.of_append hopening
  refine ⟨ds', (hw.of_prefixes (List.prefix_append w ds') ?_).read_eq, hafter⟩
  -- A cast at the front of the new text has no percent sign, so that it stood in the old one.
  rintro v type hv ⟨after, hfront⟩
  have hpercent : '%' ∉ v := fun hmem => absurd (hv.isCastChar _ hmem) (by decide)
  rw [← hfront] at h
  obtain ⟨cs', rfl, -⟩ := h.of_append_right hpercent
  exact List.prefix_append v cs'

/-- A marker at the front of the new text, if none of this kind stood in the old one, is the word
that was in braces. -/
lemma read_percentNamed_eq_none (h : Respells (c :: cs) (c :: ds)) (htail : Respells cs ds)
    (hnone : ∀ x, ¬ Mark.StandsIn x .percentNamed (c :: cs)) :
    Marker.percentNamed.read (c :: ds) = none := by
  rw [Marker.read_eq_none_iff]
  intro name rest hname htext
  have hpercent : '%' ∉ '(' :: (name ++ [')', 's']) := by
    have hword : '%' ∉ name := fun hmem => absurd (hname.1 _ hmem) (by decide)
    simp [hword]
  obtain ⟨rfl, hds⟩ := List.cons_eq_cons.mp htext
  rw [hds] at htail
  obtain ⟨cs', rfl, -⟩ := of_append_right hpercent htail
  exact hnone ⟨[], name, cs'⟩ ⟨hname, rfl⟩

/-- The names in braces are found with a percent sign, with the same casts. -/
lemma findAll_percentNamed (h : Respells cs ds)
    (hnone : ∀ x, ¬ Mark.StandsIn x .percentNamed cs) :
    Marker.percentNamed.findAll ds = Marker.brace.findAll cs := by
  fun_induction Marker.findAll .brace cs generalizing ds with
  | case1 cs name rest hread cast =>
    rename_i ih
    obtain ⟨ds', rfl, htail⟩ := h.of_read hread
    obtain ⟨hname, rfl⟩ := Marker.read_eq_some.mp hread
    obtain ⟨ds'', hcast, hafter⟩ := htail.castRead
    have hread' : Marker.percentNamed.read (Marker.percentNamed.text name ++ ds') =
        some (name, ds') :=
      Marker.read_eq_some.mpr ⟨Marker.carries_percentNamed hname, rfl⟩
    rw [Marker.findAll_of_read_eq_some hread', hcast, ih hafter]
    intro x hx
    obtain ⟨w, -, htext⟩ := Cast.isLongest_read rest
    rw [htext] at hnone
    exact hnone _ ((hx.append w).append (Marker.brace.text name))
  | case2 => rw [h.of_nil, Marker.findAll_nil]
  | case3 c r hread ih =>
    obtain ⟨ds', rfl, htail⟩ := h.of_cons hread
    rw [Marker.findAll_of_read_eq_none (read_percentNamed_eq_none h htail hnone)]
    exact ih htail fun x hx => hnone _ (hx.append [c])

/-- No word is left in braces. -/
lemma not_standsIn_brace (h : Respells cs ds) (x : Mark) : ¬ x.StandsIn .brace ds := by
  induction h generalizing x with
  | nil => exact Mark.not_standsIn_nil x .brace
  | @word name cs ds hname _ ih =>
    have hopening : Marker.brace.start ∉ Marker.percentNamed.text name := by
      have hword : '{' ∉ name := fun hmem => absurd (hname.1 _ hmem) (by decide)
      simp [Marker.text, Marker.start, hword]
    rw [Mark.standsIn_append hopening]
    rintro ⟨y, hy, -⟩
    exact ih y hy
  | @other c cs ds hnone h ih =>
    rw [Mark.standsIn_cons]
    rintro (⟨-, hread⟩ | ⟨y, hy, -⟩)
    · obtain ⟨hname, htext⟩ := Marker.read_eq_some.mp hread
      have hpercent : '%' ∉ Marker.brace.text x.name := by
        have hword : '%' ∉ x.name := fun hmem => absurd (hname.1 _ hmem) (by decide)
        simp [Marker.text, hword]
      obtain ⟨cs', hcs', -⟩ := of_append_right hpercent (htext ▸ Respells.other hnone h)
      exact hnone _ _ hname hcs'
    · exact ih y hy

end Respells

/-- A kind of marker is found if it stands in the text. -/
lemma Marker.findAll_eq_nil_iff : m.findAll cs = [] ↔ ∀ x, ¬ Mark.StandsIn x m cs := by
  obtain ⟨marks, hall⟩ := exists_allMarkers m cs
  exact hall.eq_nil_iff

namespace Template

/-- Words in braces can be written with a percent sign, if none is written so before. -/
theorem ofChars_respells (h : Respells cs ds)
    (hnone : ∀ x, ¬ Mark.StandsIn x .percentNamed (collapseClosing cs)) :
    ofChars ds = ofChars cs := by
  have hcollapsed := h.collapseClosing
  by_cases hbrace : Marker.brace.findAll (collapseClosing cs) = []
  · have hsame := hcollapsed.eq_of_forall_not_standsIn (Marker.findAll_eq_nil_iff.mp hbrace)
    rw [ofChars, hsame, ← ofChars]
  · have hno := Marker.findAll_eq_nil_iff.mpr hcollapsed.not_standsIn_brace
    have hfound := hcollapsed.findAll_percentNamed hnone
    obtain ⟨slot, slots, hslots⟩ := List.exists_cons_of_ne_nil hbrace
    rw [ofChars, ofChars, hno, hfound, hslots]

end Template

end BulkValues
