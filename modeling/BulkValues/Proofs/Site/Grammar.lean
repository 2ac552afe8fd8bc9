/-
# Where a query has a place for its tuples

The grammar of a place is said without the scanner: the keyword at the start of a word, letter by
letter in any case, blanks, and the placeholder in parentheses.  The scanner goes on after each
place that it finds.  It misses none, since no character of a place but its first can be the first
of another.  So its answer is settled by the set of all places in the query.
-/
import BulkValues.Proofs.Text.Stops
import BulkValues.Site
import Mathlib.Data.Set.Card

namespace BulkValues.Site

open BulkValues.Text

variable {l c : Char} {ls cs w gap rest seen : List Char} {p q : Place} {query : String}

/-! ## The grammar -/

/-- A word in any letter case. -/
def Folds (ls w : List Char) : Prop := List.Forall₂ (fun l c => foldsTo l c = true) ls w

/-- A text of blanks. -/
def Blank (w : List Char) : Prop := ∀ c ∈ w, isBlank c = true

/-- What follows the keyword: the placeholder in parentheses, with blanks before and within. -/
def IsGap (gap : List Char) : Prop :=
  ∃ outer inner mark trail, Blank outer ∧ Blank inner ∧ Folds placeholder mark ∧ Blank trail ∧
    gap = outer ++ '(' :: (inner ++ (mark ++ (trail ++ [')'])))

/-- A text after which a new word may begin. -/
def EndsWord (before : List Char) : Prop := ∀ c ∈ before.getLast?, isWord c = false

/-- A place stands in a query: the keyword begins a word there, and the placeholder follows. -/
structure Place.StandsIn (p : Place) (query : List Char) : Prop where
  endsWord : EndsWord p.before
  folds : Folds keyword p.word
  text : ∃ gap, IsGap gap ∧ query = p.before ++ (p.word ++ (gap ++ p.after))

/-! ## Characters -/

/-- A character folds to one small letter only. -/
lemma foldsTo_eq_false (h : foldsTo l c = true) (hl : l ≠ 'v') : foldsTo 'v' c = false := by
  simp only [foldsTo, Bool.or_eq_true, Bool.and_eq_true, beq_iff_eq] at h
  rcases h with hc | ⟨-, rfl⟩
  · simp [foldsTo, hc, hl]
  · decide

lemma foldsTo_of_isBlank (h : isBlank c = true) : foldsTo 'v' c = false ∧ foldsTo '%' c = false :=
  of_isBlank (P := fun c => foldsTo 'v' c = false ∧ foldsTo '%' c = false) (by decide +kernel) h

/-- A text in which no keyword begins. -/
def Silent (w : List Char) : Prop := ∀ c ∈ w, foldsTo 'v' c = false

lemma Blank.silent (h : Blank w) : Silent w := fun c hc => (foldsTo_of_isBlank (h c hc)).1

lemma Folds.silent (h : Folds ls w) (hls : 'v' ∉ ls) : Silent w := by
  induction h with
  | nil => exact nofun
  | cons hc _ ih =>
    rw [List.mem_cons, not_or] at hls
    intro d hd
    rcases List.mem_cons.mp hd with rfl | hd
    · exact foldsTo_eq_false hc (Ne.symm hls.1)
    · exact ih hls.2 d hd

lemma IsGap.silent (h : IsGap gap) : Silent gap := by
  obtain ⟨outer, inner, mark, trail, houter, hinner, hmark, htrail, rfl⟩ := h
  have hmark' : Silent mark := hmark.silent (by decide)
  intro c hc
  simp only [List.mem_append, List.mem_cons, List.not_mem_nil, or_false] at hc
  rcases hc with hc | rfl | hc | hc | hc | rfl
  · exact houter.silent c hc
  · decide
  · exact hinner.silent c hc
  · exact hmark' c hc
  · exact htrail.silent c hc
  · decide

/-! ## Reading a place -/

lemma readFolded_eq_some :
    readFolded ls cs = some (w, rest) ↔ Folds ls w ∧ cs = w ++ rest := by
  induction ls generalizing cs w with
  | nil =>
    simp only [readFolded, Option.some.injEq, Prod.mk.injEq, Folds, List.forall₂_nil_left_iff]
    constructor
    · rintro ⟨rfl, rfl⟩
      exact ⟨rfl, rfl⟩
    · rintro ⟨rfl, rfl⟩
      exact ⟨rfl, rfl⟩
  | cons l ls ih =>
    cases cs with
    | nil =>
      simp only [readFolded, reduceCtorEq, false_iff, not_and]
      intro hfolds heq
      rw [(List.append_eq_nil_iff.mp heq.symm).1] at hfolds
      cases hfolds
    | cons c cs =>
      simp only [readFolded]
      constructor
      · intro h
        split at h
        · rename_i hc
          obtain ⟨⟨v, r⟩, hr, h⟩ := Option.map_eq_some_iff.mp h
          cases h
          obtain ⟨hfolds, rfl⟩ := ih.mp hr
          exact ⟨.cons hc hfolds, rfl⟩
        · cases h
      · rintro ⟨hfolds, heq⟩
        cases hfolds with
        | cons hc hfolds =>
          rw [List.cons_append, List.cons_eq_cons] at heq
          obtain ⟨rfl, rfl⟩ := heq
          rw [if_pos hc, ih.mpr ⟨hfolds, rfl⟩]
          rfl

/-- After the blanks at its start a text does not begin with one, so that they are all taken. -/
lemma exists_blank (cs : List Char) : ∃ w, Blank w ∧ cs = w ++ skipBlanks cs :=
  ⟨cs.takeWhile isBlank, fun _ => mem_takeWhile_isBlank, (takeWhile_append_skipBlanks cs).symm⟩

lemma readGap_eq_some : readGap cs = some rest ↔ ∃ gap, IsGap gap ∧ cs = gap ++ rest := by
  constructor
  · intro h
    rw [readGap.eq_def] at h
    split at h
    · rename_i r hr
      split at h
      · rename_i mark r' hmark
        obtain ⟨hfolds, hmark⟩ := readFolded_eq_some.mp hmark
        split at h
        · rename_i after hafter
          cases h
          obtain ⟨outer, houter, hcs⟩ := exists_blank cs
          obtain ⟨inner, hinner, hinner'⟩ := exists_blank r
          obtain ⟨trail, htrail, htrail'⟩ := exists_blank r'
          refine ⟨_, ⟨outer, inner, mark, trail, houter, hinner, hfolds, htrail, rfl⟩, ?_⟩
          rw [hcs, hr, hinner', hmark, htrail', hafter]
          simp
        · cases h
      · cases h
    · cases h
  · rintro ⟨gap, ⟨outer, inner, mark, trail, houter, hinner, hmark, htrail, rfl⟩, rfl⟩
    have hopen : StopsAt isBlank ('(' :: (inner ++ (mark ++ (trail ++ ')' :: rest)))) :=
      stopsAt_cons (by decide) _
    have hstart : StopsAt isBlank (mark ++ (trail ++ ')' :: rest)) := by
      cases hmark with
      | cons hc _ =>
        refine stopsAt_cons ?_ _
        rw [Bool.eq_false_iff]
        intro hblank
        rw [(foldsTo_of_isBlank hblank).2] at hc
        cases hc
    have hclose : StopsAt isBlank (')' :: rest) := stopsAt_cons (by decide) _
    have hmark' : readFolded placeholder (mark ++ (trail ++ ')' :: rest)) =
        some (mark, trail ++ ')' :: rest) := readFolded_eq_some.mpr ⟨hmark, rfl⟩
    simp only [List.append_assoc, List.cons_append, List.nil_append, readGap,
      (skipBlanks_append houter hopen).1, (skipBlanks_append hinner hstart).1, hmark',
      (skipBlanks_append htrail hclose).1]

/-- A place is read where the keyword and what follows it stand. -/
lemma read_eq_some : read cs = some (w, rest) ↔
    Folds keyword w ∧ ∃ gap, IsGap gap ∧ cs = w ++ (gap ++ rest) := by
  rw [read.eq_def]
  constructor
  · intro h
    split at h
    · rename_i word r hword
      obtain ⟨after, hafter, h⟩ := Option.map_eq_some_iff.mp h
      cases h
      obtain ⟨hfolds, rfl⟩ := readFolded_eq_some.mp hword
      obtain ⟨gap, hgap, rfl⟩ := readGap_eq_some.mp hafter
      exact ⟨hfolds, gap, hgap, rfl⟩
    · cases h
  · rintro ⟨hfolds, gap, hgap, rfl⟩
    rw [readFolded_eq_some.mpr ⟨hfolds, rfl⟩]
    dsimp only
    rw [readGap_eq_some.mpr ⟨gap, hgap, rfl⟩]
    rfl

/-! ## Scanning a query -/

/-- A place in the query at or after position `n`. -/
def Place.StandsFrom (p : Place) (n : ℕ) (query : List Char) : Prop :=
  p.StandsIn query ∧ n ≤ p.before.length

/-- The first character of a place, which a keyword can begin with. -/
lemma Place.StandsIn.exists_head (h : p.StandsIn cs) :
    ∃ c r, foldsTo 'v' c = true ∧ cs = p.before ++ c :: r := by
  obtain ⟨-, hfolds, gap, -, rfl⟩ := h
  have hword := hfolds
  rw [Folds, keyword, List.forall₂_cons_left_iff] at hword
  obtain ⟨c, r, hc, -, hr⟩ := hword
  exact ⟨c, r ++ (gap ++ p.after), hc, by rw [hr]; rfl⟩

/-- No place begins among characters in which no keyword begins. -/
lemma standsFrom_silent (hw : Silent w) :
    p.StandsFrom seen.length (seen ++ (w ++ rest)) ↔
      p.StandsFrom (seen ++ w).length (seen ++ (w ++ rest)) := by
  refine ⟨fun ⟨hp, hlen⟩ => ⟨hp, ?_⟩, fun ⟨hp, hlen⟩ => ⟨hp, ?_⟩⟩
  · by_contra hlt
    obtain ⟨c, r, hc, heq⟩ := hp.exists_head
    have hget : (seen ++ (w ++ rest))[p.before.length]? = some c := by
      rw [heq]
      simp
    rw [List.length_append] at hlt
    rw [List.getElem?_append_right hlen, List.getElem?_append_left (by omega)] at hget
    rw [hw c (List.mem_of_getElem? hget)] at hc
    cases hc
  · rw [List.length_append] at hlen
    omega

/-- A place that begins at a position is what is read there. -/
lemma standsIn_and_length_eq :
    (p.StandsIn (seen ++ cs) ∧ p.before.length = seen.length) ↔
      p.before = seen ∧ EndsWord seen ∧ read cs = some (p.word, p.after) := by
  constructor
  · rintro ⟨⟨hends, hfolds, gap, hgap, heq⟩, hlen⟩
    obtain ⟨hseen, hcs⟩ := List.append_inj heq hlen.symm
    exact ⟨hseen.symm, hseen ▸ hends, read_eq_some.mpr ⟨hfolds, gap, hgap, hcs⟩⟩
  · rintro ⟨rfl, hends, hread⟩
    obtain ⟨hfolds, gap, hgap, rfl⟩ := read_eq_some.mp hread
    exact ⟨⟨hends, hfolds, gap, hgap, rfl⟩, rfl⟩

/-- A place from a position on begins there or later. -/
lemma standsFrom_cons : p.StandsFrom seen.length (seen ++ c :: cs) ↔
    (p.before = seen ∧ EndsWord seen ∧ read (c :: cs) = some (p.word, p.after)) ∨
      p.StandsFrom (seen ++ [c]).length (seen ++ c :: cs) := by
  rw [← standsIn_and_length_eq]
  simp only [Place.StandsFrom, List.length_append, List.length_singleton]
  rw [← and_or_left]
  refine and_congr_right fun _ => ?_
  omega

lemma endsWord_reverse :
    EndsWord seen.reverse ↔ (seen.head?.map isWord).getD false = false := by
  rw [EndsWord, List.getLast?_reverse]
  cases seen with
  | nil => simp
  | cons c seen => simp

/-- What the scanner asks at a position. -/
lemma found_eq_some {found : List Char × List Char} :
    (if (seen.head?.map isWord).getD false then none else read cs) = some found ↔
      EndsWord seen.reverse ∧ read cs = some found := by
  rw [endsWord_reverse]
  cases (seen.head?.map isWord).getD false with
  | true => simp
  | false => simp

/-- The text of a place: a character that a keyword begins with, and then none. -/
lemma exists_taken (h : read (c :: cs) = some (w, rest)) :
    ∃ v, Silent v ∧ (c :: cs).take ((c :: cs).length - rest.length) = c :: v ∧
      cs = v ++ rest := by
  obtain ⟨hfolds, gap, hgap, heq⟩ := read_eq_some.mp h
  rw [Folds, keyword, List.forall₂_cons_left_iff] at hfolds
  obtain ⟨d, v, -, hv, rfl⟩ := hfolds
  rw [List.cons_append, List.cons_eq_cons] at heq
  obtain ⟨rfl, rfl⟩ := heq
  have hsilent : Silent v := Folds.silent hv (by decide)
  refine ⟨v ++ gap, fun d hd => ?_, ?_, (List.append_assoc ..).symm⟩
  · rcases List.mem_append.mp hd with hd | hd
    · exact hsilent d hd
    · exact hgap.silent d hd
  · have hlength : (c :: (v ++ (gap ++ rest))).length - rest.length = (c :: (v ++ gap)).length := by
      simp only [List.length_cons, List.length_append]
      omega
    rw [hlength, ← List.append_assoc]
    exact List.take_left' rfl

/-- The scanner finds the places from a position on, and no others. -/
lemma mem_placesAfter :
    p ∈ placesAfter seen cs ↔ p.StandsFrom seen.length (seen.reverse ++ cs) := by
  rw [← List.length_reverse]
  fun_induction placesAfter seen cs with
  | case1 seen =>
    simp only [List.not_mem_nil, false_iff]
    rintro ⟨hp, hlen⟩
    obtain ⟨c, r, -, heq⟩ := hp.exists_head
    have hlength := congrArg List.length heq
    simp only [List.length_append, List.length_cons, List.length_nil] at hlength
    omega
  | case2 seen c cs _ word rest hfound taken ih =>
    obtain ⟨hends, hread⟩ := found_eq_some.mp hfound
    obtain ⟨v, hv, htaken, rfl⟩ := exists_taken hread
    have htaken : taken = c :: v := htaken
    have htext : seen.reverse ++ c :: (v ++ rest) = (seen.reverse ++ [c]) ++ (v ++ rest) := by simp
    rw [List.mem_cons, ih, standsFrom_cons, htaken]
    refine or_congr ?_ ?_
    · rw [hread, Option.some.injEq, Prod.mk.injEq]
      constructor
      · rintro rfl
        exact ⟨rfl, hends, rfl, rfl⟩
      · rintro ⟨hbefore, -, rfl, rfl⟩
        rw [← hbefore]
    · rw [htext, standsFrom_silent hv]
      simp
  | case3 seen c cs _ hnone ih =>
    rw [ih, standsFrom_cons, List.reverse_cons, List.append_assoc, List.singleton_append]
    refine (or_iff_right ?_).symm
    rintro ⟨-, hends, hread⟩
    have hfound := hnone.symm.trans (found_eq_some.mpr ⟨hends, hread⟩)
    cases hfound

lemma mem_places : p ∈ places cs ↔ p.StandsIn cs := by
  rw [places, mem_placesAfter]
  exact and_iff_left (Nat.zero_le _)

/-- The scanner finds each place once: what it finds later begins later. -/
lemma nodup_placesAfter (seen cs : List Char) : (placesAfter seen cs).Nodup := by
  fun_induction placesAfter seen cs with
  | case1 seen => exact List.nodup_nil
  | case2 seen c cs _ word rest hfound taken ih =>
    refine List.nodup_cons.mpr ⟨fun hmem => ?_, ih⟩
    obtain ⟨v, -, htaken, -⟩ := exists_taken (found_eq_some.mp hfound).2
    have htaken : taken = c :: v := htaken
    have hlater := (mem_placesAfter.mp hmem).2
    rw [htaken] at hlater
    simp only [List.length_append, List.length_reverse, List.length_cons] at hlater
    omega
  | case3 seen c cs _ hnone ih => exact ih

/-- The places of a query are as many as the scanner finds. -/
lemma ncard_places (cs : List Char) : {p : Place | p.StandsIn cs}.ncard = (places cs).length := by
  have hset : {p : Place | p.StandsIn cs} = ((places cs).toFinset : Set Place) := by
    ext p
    simp [mem_places]
  have hnodup : (places cs).Nodup := nodup_placesAfter [] cs
  rw [hset, Set.ncard_coe_finset, List.toFinset_card_of_nodup hnodup]

/-! ## The site of a query -/

/-- Among the characters of a keyword only the long s takes more than one byte. -/
lemma lt_of_foldsTo (h : foldsTo l c = true) (hl : l.toNat < 0x80) :
    c.toNat < 0x80 ↔ c ≠ longS := by
  constructor
  · rintro hc rfl
    exact absurd hc (by decide)
  · intro hc
    simp only [foldsTo, Bool.or_eq_true, beq_iff_eq, Bool.and_eq_true] at h
    have hlower : c.toLower = l := h.resolve_right fun hlong => hc hlong.2
    delta Char.toLower at hlower
    split at hlower
    · rename_i hupper
      exact Nat.lt_of_le_of_lt hupper.2 (by decide)
    · rw [hlower]
      exact hl

/-- A keyword ends inside a character exactly if it is written with the long s. -/
lemma all_ascii_iff (h : Folds keyword w) :
    (w.all fun c => c.toNat < 0x80) = true ↔ longS ∉ w := by
  have hletters : ∀ l ∈ keyword, l.toNat < 0x80 := by simp [keyword]
  have hbyte : ∀ c ∈ w, (c.toNat < 0x80 ↔ c ≠ longS) := by
    intro c hc
    obtain ⟨i, hi, rfl⟩ := List.getElem_of_mem hc
    have hi' : i < keyword.length := h.length_eq ▸ hi
    exact lt_of_foldsTo (h.get hi' hi) (hletters _ (List.get_mem keyword ⟨i, hi'⟩))
  rw [List.all_eq_true]
  constructor
  · intro hall hlong
    exact (hbyte longS hlong).mp (by simpa using hall longS hlong) rfl
  · intro hlong c hc
    rw [decide_eq_true_eq, hbyte c hc]
    rintro rfl
    exact hlong hc

/-- A query has exactly one place. -/
lemma places_eq_singleton_iff : places cs = [p] ↔ {p : Place | p.StandsIn cs} = {p} := by
  constructor
  · intro h
    ext q
    simp [← mem_places, h]
  · intro h
    have hlength : (places cs).length = 1 := by
      rw [← ncard_places, h, Set.ncard_singleton]
    obtain ⟨q, hq⟩ := List.length_eq_one_iff.mp hlength
    have hp : p.StandsIn cs := Set.ext_iff.mp h p |>.mpr rfl
    rw [← mem_places, hq, List.mem_singleton] at hp
    rw [hq, hp]

lemma places_eq_nil_iff : places cs = [] ↔ {p : Place | p.StandsIn cs} = ∅ := by
  simp [Set.eq_empty_iff_forall_notMem, ← mem_places, List.eq_nil_iff_forall_not_mem]

/-- A place gives the site, or the end of the keyword is inside the long s. -/
lemma ofPlace_eq (h : p.StandsIn cs) :
    ofPlace p = if longS ∈ p.word then .error .tornCharacter
      else .ok ⟨p.before ++ p.word, p.after⟩ := by
  rw [ofPlace]
  simp only [all_ascii_iff h.folds, ite_not]

/-- The answer follows the number of places. -/
lemma locate_cases (query : String) :
    (places query.toList = [] ∧ locate query = .error .noSite) ∨
      (∃ p, places query.toList = [p] ∧ locate query =
        if longS ∈ p.word then .error .tornCharacter else .ok ⟨p.before ++ p.word, p.after⟩) ∨
      (2 ≤ (places query.toList).length ∧
        locate query = .error (.manySites (places query.toList).length)) := by
  rw [locate]
  rcases hplaces : places query.toList with _ | ⟨p, _ | ⟨q, ps⟩⟩
  · exact .inl ⟨rfl, rfl⟩
  · have hp : p.StandsIn query.toList := mem_places.mp (hplaces ▸ List.mem_singleton_self p)
    exact .inr (.inl ⟨p, rfl, ofPlace_eq hp⟩)
  · exact .inr (.inr ⟨by simp, rfl⟩)

/-- The places of a query by the grammar, in which letters are compared by case folding. -/
def standing (query : String) : Set Place := {p | p.StandsIn query.toList}

/-- **What the site of a query is.**  A query with exactly one place by the grammar has a site
there, with the text up to the end of the keyword and the text after the parenthesis, unless the
keyword is written with the long s: then its end falls inside that character.  A query without a
place, and one with several, is refused, the latter with their number. -/
theorem locate_settled (query : String) :
    (∀ site, locate query = .ok site ↔
        ∃ p, standing query = {p} ∧ longS ∉ p.word ∧ site = ⟨p.before ++ p.word, p.after⟩) ∧
      (locate query = .error .tornCharacter ↔ ∃ p, standing query = {p} ∧ longS ∈ p.word) ∧
      (locate query = .error .noSite ↔ standing query = ∅) ∧
      ∀ n, locate query = .error (.manySites n) ↔ 2 ≤ n ∧ (standing query).ncard = n := by
  simp only [standing, ← places_eq_singleton_iff, ← places_eq_nil_iff, ncard_places]
  rcases locate_cases query with ⟨hplaces, h⟩ | ⟨p, hplaces, h⟩ | ⟨hmany, h⟩
  · simp only [h, hplaces]
    refine ⟨by simp, by simp, by simp, fun n => ?_⟩
    simp only [Except.error.injEq, reduceCtorEq, List.length_nil, false_iff]
    omega
  · simp only [h, hplaces]
    by_cases hlong : longS ∈ p.word
    · simp only [if_pos hlong]
      refine ⟨by simp [hlong], by simp [hlong], by simp, fun n => ?_⟩
      simp only [Except.error.injEq, reduceCtorEq, List.length_singleton, false_iff]
      omega
    · simp only [if_neg hlong]
      refine ⟨fun site => ?_, by simp [hlong], by simp, fun n => ?_⟩
      · simp [hlong, eq_comm]
      · simp only [reduceCtorEq, List.length_singleton, false_iff]
        omega
  · have hnil : places query.toList ≠ [] := by
      intro hnil
      simp [hnil] at hmany
    have hone : ∀ p, places query.toList ≠ [p] := by
      intro p hone
      simp [hone] at hmany
    simp only [h, hnil, hone]
    refine ⟨by simp, by simp, by simp, fun n => ?_⟩
    simp only [Except.error.injEq, Error.manySites.injEq]
    constructor
    · rintro rfl
      exact ⟨hmany, rfl⟩
    · rintro ⟨-, rfl⟩
      rfl

/-- Two queries that are not as the documentation has it: the keyword with the long s is cut, and
a placeholder with a capital letter is taken for one. -/
theorem locate_folded_letters :
    locate "VALUE\u017f (%s)" = .error .tornCharacter ∧ Error.tornCharacter.breaksOff = true ∧
      locate "VALUES (%S)" = .ok ⟨"VALUES".toList, []⟩ := by
  refine ⟨?_, rfl, ?_⟩
  · decide +kernel
  · decide +kernel

end BulkValues.Site
