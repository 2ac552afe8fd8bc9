/-
# The longest cast

The grammar of casts is said here apart from its reader: two colons, blanks, and a type, which is a
name with further words, an optional modifier and pairs of brackets.  The reader takes the longest
text of this grammar that the text in front of it begins with.  It is never too greedy in one part
for the next one, because no part begins with a character that the part before it could take: after
a name or a word come blanks, a parenthesis or a bracket, and after the blanks a parenthesis if it
was no further word.
-/
import BulkValues.Proofs.Template.CastReading

namespace BulkValues.Cast

open BulkValues.Text

/-! ## The grammar -/

def AreBlanks (blanks : List Char) : Prop := ∀ c ∈ blanks, isBlank c = true

/-- Further words of a type, each with blanks before it. -/
inductive AreWords : List Char → Prop
  | nil : AreWords []
  | cons {blanks word more : List Char} {c : Char} (hne : blanks ≠ []) (hblanks : AreBlanks blanks)
      (hc : isNameStart c = true) (hword : ∀ d ∈ word, isWord d = true) (hmore : AreWords more) :
      AreWords (blanks ++ c :: (word ++ more))

/-- A sign after optional blanks. -/
inductive IsMark (sign : Char) : List Char → Prop
  | mk {blanks : List Char} (hblanks : AreBlanks blanks) : IsMark sign (blanks ++ [sign])

/-- A number after optional blanks. -/
inductive IsCount : List Char → Prop
  | mk {blanks digits : List Char} (hblanks : AreBlanks blanks) (hne : digits ≠ [])
      (hdigits : ∀ d ∈ digits, isDigit d = true) : IsCount (blanks ++ digits)

/-- Nothing, or a comma and a number. -/
inductive IsSecondCount : List Char → Prop
  | none : IsSecondCount []
  | some {comma count : List Char} (hcomma : IsMark ',' comma) (hcount : IsCount count) :
      IsSecondCount (comma ++ count)

/-- Nothing, or one or two numbers in parentheses. -/
inductive IsModifier : List Char → Prop
  | none : IsModifier []
  | some {opening count second closing : List Char} (hopening : IsMark '(' opening)
      (hcount : IsCount count) (hsecond : IsSecondCount second) (hclosing : IsMark ')' closing) :
      IsModifier (opening ++ (count ++ (second ++ closing)))

/-- Pairs of brackets. -/
inductive AreBrackets : List Char → Prop
  | nil : AreBrackets []
  | cons {more : List Char} (hmore : AreBrackets more) : AreBrackets ('[' :: ']' :: more)

/-- The type of a cast. -/
inductive IsType : List Char → Prop
  | mk {c : Char} {name words modifier brackets : List Char} (hc : isNameStart c = true)
      (hname : ∀ d ∈ name, isNamePart d = true) (hwords : AreWords words)
      (hmodifier : IsModifier modifier) (hbrackets : AreBrackets brackets) :
      IsType (c :: (name ++ (words ++ (modifier ++ brackets))))

/-- A cast with its colons, and its type without the blanks before it. -/
inductive IsCast : List Char → List Char → Prop
  | mk {blanks type : List Char} (hblanks : AreBlanks blanks) (htype : IsType type) :
      IsCast (':' :: ':' :: (blanks ++ type)) type

/-- The text of the cast that `cs` begins with: the longest one of the grammar, or none if `cs`
begins with no cast. -/
def IsLongest (cs w : List Char) : Option Cast → Prop
  | none => w = [] ∧ ∀ w' type, IsCast w' type → ¬ w' <+: cs
  | some c => IsCast w c.type ∧ w <+: cs ∧ ∀ w' type, IsCast w' type → w' <+: cs →
      w'.length ≤ w.length

variable {kind : Char → Bool} {sign : Char}
  {cs taken rest next w words modifier brackets tail : List Char}

/-! ## What a reader takes is in the grammar -/

lemma areBlanks_takeWhile (cs : List Char) : AreBlanks (cs.takeWhile isBlank) :=
  fun _ hc => mem_takeWhile_isBlank hc

lemma readWords_sound (cs : List Char) :
    AreWords (readWords cs).1 ∧ (readWords cs).1 ++ (readWords cs).2 = cs := by
  fun_induction readWords cs with
  | case1 => exact ⟨.nil, rfl⟩
  | case2 => exact ⟨.nil, rfl⟩
  | case3 cs c r h hstart word more ih =>
    rw [Bool.or_eq_true, not_or, Bool.not_eq_true', Bool.not_eq_false, decide_eq_true_eq] at hstart
    have hcs := takeWhile_append_skipBlanks cs
    rw [h] at hcs
    have hne : cs.takeWhile isBlank ≠ [] := by
      intro hnone
      rw [hnone, List.nil_append] at hcs
      exact hstart.1 (congrArg List.length hcs.symm)
    have hword : ∀ d ∈ word, isWord d = true := fun d hd => List.mem_takeWhile_imp hd
    refine ⟨?_, ?_⟩
    · have hwords := AreWords.cons hne (areBlanks_takeWhile cs) hstart.2 hword ih.1
      simpa using hwords
    · have hr : word ++ r.dropWhile isWord = r := List.takeWhile_append_dropWhile
      have hmore : more.1 ++ more.2 = r.dropWhile isWord := ih.2
      simp only [List.append_assoc, List.cons_append, hmore, hr, hcs]

lemma readSign_sound (h : readSign sign cs = some (taken, rest)) :
    IsMark sign taken ∧ cs = taken ++ rest := by
  have hcs := takeWhile_append_skipBlanks cs
  rw [readSign] at h
  split at h
  · rename_i d r hd
    split at h
    · rename_i hsign
      cases h
      refine ⟨.mk (areBlanks_takeWhile cs), ?_⟩
      rw [← hsign, List.append_assoc, List.singleton_append, ← hd, hcs]
    · cases h
  · cases h

lemma readCount_sound (h : readCount cs = some (taken, rest)) :
    IsCount taken ∧ cs = taken ++ rest := by
  have hcs := takeWhile_append_skipBlanks cs
  rw [readCount] at h
  split at h
  · cases h
  · rename_i hne
    cases h
    refine ⟨.mk (areBlanks_takeWhile cs) (mt List.isEmpty_iff.mpr hne) ?_, ?_⟩
    · intro d hd
      exact List.mem_takeWhile_imp hd
    · rw [List.append_assoc, List.takeWhile_append_dropWhile, hcs]

lemma readSecondCount_sound (cs : List Char) :
    IsSecondCount (readSecondCount cs).1 ∧
      cs = (readSecondCount cs).1 ++ (readSecondCount cs).2 := by
  rcases readSecondCount_cases cs with hnone | ⟨comma, r, count, r', hsign, hcount⟩
  · rw [hnone]
    exact ⟨.none, rfl⟩
  · obtain ⟨hcomma, hcs⟩ := readSign_sound hsign
    obtain ⟨hcount', hr⟩ := readCount_sound hcount
    rw [readSecondCount_of hsign hcount]
    exact ⟨.some hcomma hcount', by rw [hcs, hr, List.append_assoc]⟩

lemma readModifier_sound (cs : List Char) :
    IsModifier (readModifier cs).1 ∧ cs = (readModifier cs).1 ++ (readModifier cs).2 := by
  rcases readModifier_cases cs with
    hnone | ⟨opening, r₁, count, r₂, closing, r₄, hopening, hcount, hclosing⟩
  · rw [hnone]
    exact ⟨.none, rfl⟩
  · obtain ⟨hopening', hcs⟩ := readSign_sound hopening
    obtain ⟨hcount', hr₁⟩ := readCount_sound hcount
    obtain ⟨hsecond, hr₂⟩ := readSecondCount_sound r₂
    obtain ⟨hclosing', hr₃⟩ := readSign_sound hclosing
    rw [readModifier_of hopening hcount (Prod.eta _).symm hclosing]
    simp only [List.append_assoc]
    refine ⟨.some hopening' hcount' hsecond hclosing', ?_⟩
    rw [hcs, hr₁, List.append_cancel_left_eq, List.append_cancel_left_eq, ← hr₃]
    exact hr₂

lemma readBrackets_sound (cs : List Char) :
    AreBrackets (readBrackets cs).1 ∧ cs = (readBrackets cs).1 ++ (readBrackets cs).2 := by
  fun_induction readBrackets cs with
  | case1 r more ih =>
    refine ⟨.cons ih.1, ?_⟩
    rw [List.cons_append, List.cons_append, ← ih.2]
  | case2 => exact ⟨.nil, rfl⟩

lemma readType_sound {type : List Char} (h : readType cs = some (type, rest)) :
    IsType type ∧ cs = type ++ rest := by
  rw [readType.eq_def] at h
  split at h
  · cases h
  · rename_i c r
    split at h
    · rename_i hc
      cases h
      obtain ⟨hwords, hafter⟩ := readWords_sound (r.dropWhile isNamePart)
      obtain ⟨hmodifier, hcs⟩ := readModifier_sound (readWords (r.dropWhile isNamePart)).2
      obtain ⟨hbrackets, hcs'⟩ := readBrackets_sound
        (readModifier (readWords (r.dropWhile isNamePart)).2).2
      have hname : ∀ d ∈ r.takeWhile isNamePart, isNamePart d = true :=
        fun d hd => List.mem_takeWhile_imp hd
      simp only [List.append_assoc, List.cons_append]
      refine ⟨.mk hc hname hwords hmodifier hbrackets, ?_⟩
      rw [← hcs', ← hcs, hafter, List.takeWhile_append_dropWhile]
    · cases h

/-! ## What each part begins with -/

/-- A run of characters of a kind, where what comes after it in the grammar does not begin with one:
the run is taken as it is, or it is the end of the text and more may be taken from what follows. -/
lemma run_cases (hw : ∀ c ∈ w, kind c = true) (htail : StopsAt kind tail) (rest : List Char) :
    tail = [] ∧ w.length ≤ ((w ++ (tail ++ rest)).takeWhile kind).length ∨
      (w ++ (tail ++ rest)).takeWhile kind = w ∧
        (w ++ (tail ++ rest)).dropWhile kind = tail ++ rest := by
  cases tail with
  | nil =>
    left
    rw [List.takeWhile_append_of_pos hw, List.length_append]
    exact ⟨rfl, Nat.le_add_right _ _⟩
  | cons c tail =>
    right
    have hstop : StopsAt kind (c :: tail ++ rest) := htail
    exact ⟨takeWhile_append_of_stopsAt hw hstop, dropWhile_append_of_stopsAt hw hstop⟩

section Begins

variable (hblank : ∀ c, isBlank c = true → kind c = false)
include hblank

lemma AreBlanks.stopsAt {blanks : List Char} (h : AreBlanks blanks) (hrest : StopsAt kind rest) :
    StopsAt kind (blanks ++ rest) := by
  cases blanks with
  | nil => exact hrest
  | cons b blanks => exact stopsAt_cons (hblank b (h b (List.mem_cons_self ..))) _

lemma AreWords.stopsAt (h : AreWords words) : StopsAt kind words := by
  cases h with
  | nil => exact stopsAt_nil kind
  | cons hne hblanks =>
    obtain ⟨b, blanks, rfl⟩ := List.exists_cons_of_ne_nil hne
    exact stopsAt_cons (hblank b (hblanks b (List.mem_cons_self ..))) _

lemma IsMark.stopsAt (h : IsMark sign taken) (hsign : kind sign = false) (rest : List Char) :
    StopsAt kind (taken ++ rest) := by
  cases h with
  | mk hblanks =>
    rw [List.append_assoc]
    exact hblanks.stopsAt hblank (stopsAt_cons hsign rest)

lemma IsModifier.stopsAt (h : IsModifier modifier) (hopening : kind '(' = false) :
    StopsAt kind modifier := by
  cases h with
  | none => exact stopsAt_nil kind
  | some h => exact h.stopsAt hblank hopening _

end Begins

lemma AreBrackets.stopsAt (h : AreBrackets brackets) (hkind : kind '[' = false) :
    StopsAt kind brackets := by
  cases h with
  | nil => exact stopsAt_nil kind
  | cons => exact stopsAt_cons hkind _

/-- After a name or a word come blanks, a parenthesis or a bracket. -/
lemma stopsAt_isNamePart (hwords : AreWords words) (hmodifier : IsModifier modifier)
    (hbrackets : AreBrackets brackets) : StopsAt isNamePart (words ++ (modifier ++ brackets)) := by
  have hblank : ∀ c, isBlank c = true → isNamePart c = false :=
    fun c hc => (not_isNamePart_of_isBlank hc).1
  exact (hwords.stopsAt hblank).append
    ((hmodifier.stopsAt hblank (by decide)).append (hbrackets.stopsAt (by decide)))

/-! ## The modifier -/

lemma readSign_of_isMark (h : IsMark sign taken) (hsign : isBlank sign = false)
    (next : List Char) : readSign sign (taken ++ next) = some (taken, next) := by
  cases h with
  | mk hblanks =>
    obtain ⟨hskip, htake⟩ := skipBlanks_append hblanks (stopsAt_cons hsign next)
    rw [List.append_assoc, List.singleton_append, readSign, hskip, htake]
    exact if_pos rfl

lemma readCount_of_isCount (h : IsCount taken) (hnext : StopsAt isDigit next) :
    readCount (taken ++ next) = some (taken, next) := by
  cases h with
  | @mk blanks digits hblanks hne hdigits =>
    have hstop : StopsAt isBlank (digits ++ next) := by
      obtain ⟨d, digits, rfl⟩ := List.exists_cons_of_ne_nil hne
      refine stopsAt_cons ?_ _
      by_contra hblank
      rw [Bool.not_eq_false] at hblank
      have hnone := not_isDigit_of_isBlank d hblank
      rw [hdigits d (List.mem_cons_self ..)] at hnone
      cases hnone
    obtain ⟨hskip, htake⟩ := skipBlanks_append hblanks hstop
    rw [List.append_assoc, readCount, hskip, htake, takeWhile_append_of_stopsAt hdigits hnext,
      dropWhile_append_of_stopsAt hdigits hnext, if_neg (mt List.isEmpty_iff.mp hne)]

/-- A second number is read in front of the closing parenthesis, and none is if there is none. -/
lemma readSecondCount_of_isSecondCount {second closing : List Char} (h : IsSecondCount second)
    (hclosing : IsMark ')' closing) (next : List Char) :
    readSecondCount (second ++ (closing ++ next)) = (second, closing ++ next) ∧
      StopsAt isDigit (second ++ (closing ++ next)) := by
  have hdigit := hclosing.stopsAt not_isDigit_of_isBlank (by decide) next
  cases h with
  | none =>
    refine ⟨?_, hdigit⟩
    have hcomma : StopsAt (· == ',') (skipBlanks (closing ++ next)) := by
      cases hclosing with
      | mk hblanks =>
        rw [List.append_assoc, List.singleton_append,
          (skipBlanks_append hblanks (stopsAt_cons (by decide) next)).1]
        exact stopsAt_cons (by decide) next
    rw [List.nil_append, readSecondCount, readSign_eq_none hcomma]
    rfl
  | some hcomma hcount =>
    rw [List.append_assoc]
    exact ⟨readSecondCount_of (readSign_of_isMark hcomma (by decide) _)
      (readCount_of_isCount hcount hdigit), hcomma.stopsAt not_isDigit_of_isBlank (by decide) _⟩

/-- A modifier is read whole, whatever comes after it. -/
lemma readModifier_of_isModifier (h : IsModifier modifier) (hne : modifier ≠ [])
    (next : List Char) : readModifier (modifier ++ next) = (modifier, next) := by
  cases h with
  | none => exact absurd rfl hne
  | @some opening count second closing hopening hcount hsecond hclosing =>
    obtain ⟨hread, hdigit⟩ := readSecondCount_of_isSecondCount hsecond hclosing next
    simp only [List.append_assoc]
    rw [readModifier_of (readSign_of_isMark hopening (by decide) _)
      (readCount_of_isCount hcount hdigit) hread (readSign_of_isMark hclosing (by decide) next)]
    simp only [List.append_assoc]

/-! ## No part could be longer -/

lemma AreBrackets.length_le (h : AreBrackets brackets) (rest : List Char) :
    brackets.length ≤ (readBrackets (brackets ++ rest)).1.length := by
  induction h with
  | nil => exact Nat.zero_le _
  | cons _ ih =>
    rw [List.cons_append, List.cons_append, readBrackets]
    simp only [List.length_cons]
    omega

/-- A modifier with brackets is no longer than what is read in its place. -/
lemma IsModifier.length_le (h : IsModifier modifier) (hbrackets : AreBrackets brackets)
    (rest : List Char) :
    let read := readModifier (modifier ++ (brackets ++ rest))
    (modifier ++ brackets).length ≤ read.1.length + (readBrackets read.2).1.length := by
  intro read
  have hle := hbrackets.length_le rest
  by_cases hnil : modifier = []
  · subst hnil
    cases hbrackets with
    | nil => exact Nat.zero_le _
    | @cons more hmore =>
      have hblank : StopsAt isBlank ('[' :: ']' :: more ++ rest) := stopsAt_cons (by decide) _
      have hopening : StopsAt (· == '(') (skipBlanks ('[' :: ']' :: more ++ rest)) := by
        rw [hblank.skipBlanks_eq]
        exact stopsAt_cons (by decide) _
      have hread : read = ([], '[' :: ']' :: more ++ rest) := readModifier_append [] hopening
      rw [hread, List.nil_append]
      exact Nat.le_trans hle (Nat.le_add_left _ _)
  · have hread : read = (modifier, brackets ++ rest) := readModifier_of_isModifier h hnil _
    rw [hread, List.length_append]
    exact Nat.add_le_add_left hle _

/-- Where blanks and the beginning of a word follow, there is neither a modifier nor brackets. -/
lemma eq_nil_of_isNameStart {c : Char} {r : List Char} (hmodifier : IsModifier modifier)
    (hbrackets : AreBrackets brackets)
    (hskip : skipBlanks (modifier ++ (brackets ++ rest)) = c :: r) (hc : isNameStart c = true) :
    modifier ++ brackets = [] ∨ StopsAt isBlank (modifier ++ (brackets ++ rest)) := by
  cases hmodifier with
  | none =>
    cases hbrackets with
    | nil => exact .inl rfl
    | cons => exact .inr (stopsAt_cons (by decide) _)
  | some hopening =>
    exfalso
    cases hopening with
    | mk hblanks =>
      simp only [List.append_assoc, List.cons_append] at hskip
      rw [(skipBlanks_append hblanks (stopsAt_cons (by decide) _)).1] at hskip
      cases hskip
      cases hc

/-- Words with a modifier and brackets are no longer than what is read in their place.  Along the
words: one of them may go on where the type ends, but then nothing of the type is left. -/
lemma AreWords.length_le (h : AreWords words) (hmodifier : IsModifier modifier)
    (hbrackets : AreBrackets brackets) (rest : List Char) :
    let read := readWords (words ++ (modifier ++ (brackets ++ rest)))
    let read' := readModifier read.2
    (words ++ (modifier ++ brackets)).length ≤
      read.1.length + (read'.1.length + (readBrackets read'.2).1.length) := by
  induction h with
  | nil =>
    intro read read'
    rcases readWords_cases (modifier ++ (brackets ++ rest)) with hnone | ⟨c, r, hskip, hblanks, hc⟩
    · have hread : read = ([], modifier ++ (brackets ++ rest)) := hnone
      simp only [read', hread, List.nil_append, List.length_nil, Nat.zero_add]
      exact hmodifier.length_le hbrackets rest
    · have hnil : modifier ++ brackets = [] := by
        rcases eq_nil_of_isNameStart hmodifier hbrackets hskip hc with hnil | hstop
        · exact hnil
        · have hnone : AreBlanks [] := nofun
          exact absurd (skipBlanks_append hnone hstop).2 hblanks
      rw [List.nil_append, hnil]
      exact Nat.zero_le _
  | @cons blanks word more c hne hblanks hc hword hmore ih =>
    intro read read'
    have hpart : StopsAt isWord (more ++ (modifier ++ brackets)) :=
      (stopsAt_isNamePart hmore hmodifier hbrackets).isWord
    have hstop : StopsAt isBlank (c :: (word ++ (more ++ (modifier ++ brackets) ++ rest))) :=
      stopsAt_cons (not_isBlank_of_isNameStart hc) _
    obtain ⟨hskip, htake⟩ := skipBlanks_append hblanks hstop
    have hread := readWords_of_start hskip (by rwa [htake]) hc
    have htext : blanks ++ c :: (word ++ (more ++ (modifier ++ brackets) ++ rest)) =
        blanks ++ c :: (word ++ more) ++ (modifier ++ (brackets ++ rest)) := by
      simp only [List.append_assoc, List.cons_append]
    rw [htake, htext] at hread
    simp only [read', read, hread]
    rcases run_cases hword hpart rest with ⟨hnil, hle⟩ | ⟨hrun, hafter⟩
    · rw [List.append_eq_nil_iff] at hnil
      rw [hnil.1, hnil.2] at hle ⊢
      simp only [List.length_append, List.length_cons, List.append_nil, List.nil_append] at hle ⊢
      omega
    · rw [hrun, hafter]
      simp only [List.append_assoc, List.length_append, List.length_cons] at ih ⊢
      omega

/-- A type is no longer than the one that is read in its place. -/
lemma IsType.length_le {type : List Char} (h : IsType type) (rest : List Char) :
    ∃ type' rest', readType (type ++ rest) = some (type', rest') ∧ type.length ≤ type'.length := by
  cases h with
  | @mk c name words modifier brackets hc hname hwords hmodifier hbrackets =>
    have hpart := stopsAt_isNamePart hwords hmodifier hbrackets
    have hle := hwords.length_le hmodifier hbrackets rest
    have htext : c :: (name ++ (words ++ (modifier ++ brackets))) ++ rest =
        c :: (name ++ (words ++ (modifier ++ brackets) ++ rest)) := by
      rw [List.cons_append, List.append_assoc]
    rw [htext]
    refine ⟨_, _, if_pos hc, ?_⟩
    rcases run_cases hname hpart rest with ⟨hnil, hname_le⟩ | ⟨hrun, hafter⟩
    · rw [hnil] at hname_le ⊢
      simp only [List.length_append, List.length_cons, List.length_nil]
      omega
    · rw [hrun, hafter]
      simp only [List.append_assoc, List.length_append, List.length_cons] at hle ⊢
      omega

lemma stopsAt_isBlank_of_isType {type : List Char} (h : IsType type) (rest : List Char) :
    StopsAt isBlank (type ++ rest) := by
  cases h with
  | mk hc => exact stopsAt_cons (not_isBlank_of_isNameStart hc) _

/-- A cast is no longer than the one that is read in its place. -/
lemma IsCast.length_le {type : List Char} (h : IsCast w type) (rest : List Char) :
    ∃ w' c rest', read (w ++ rest) = (some c, rest') ∧ IsCast w' c.type ∧
      w ++ rest = w' ++ rest' ∧ w.length ≤ w'.length := by
  cases h with
  | @mk blanks type hblanks htype =>
    obtain ⟨type', rest', hread, hle⟩ := htype.length_le rest
    obtain ⟨htype', htext⟩ := readType_sound hread
    have hskip := (skipBlanks_append hblanks (stopsAt_isBlank_of_isType htype rest)).1
    refine ⟨':' :: ':' :: (blanks ++ type'), ⟨type'⟩, rest', ?_, .mk hblanks htype', ?_, ?_⟩
    · rw [List.cons_append, List.cons_append, List.append_assoc, read, hskip, hread]
    · simp only [List.append_assoc, List.cons_append, htext]
    · simp only [List.length_append, List.length_cons]
      omega

lemma read_cases (cs : List Char) :
    read cs = (none, cs) ∨ ∃ w c rest, read cs = (some c, rest) ∧ IsCast w c.type ∧
      cs = w ++ rest := by
  rw [read.eq_def]
  split
  · rename_i r
    cases hread : readType (skipBlanks r) with
    | none => exact .inl rfl
    | some p =>
      right
      obtain ⟨htype, htext⟩ := readType_sound hread
      refine ⟨_, ⟨p.1⟩, p.2, rfl, .mk (areBlanks_takeWhile r) htype, ?_⟩
      rw [List.cons_append, List.cons_append, List.append_assoc, ← htext,
        takeWhile_append_skipBlanks]
  · exact .inl rfl

/-- **The reader takes the longest cast.**  It returns the type of the longest text of the grammar
that a text begins with and what comes after it, or nothing if the text begins with no cast. -/
theorem isLongest_read (cs : List Char) :
    ∃ w, IsLongest cs w (read cs).1 ∧ cs = w ++ (read cs).2 := by
  rcases read_cases cs with hnone | ⟨w, c, rest, hread, hcast, htext⟩
  · rw [hnone]
    refine ⟨[], ⟨rfl, ?_⟩, rfl⟩
    rintro w type hcast ⟨rest, rfl⟩
    obtain ⟨w', c, rest', hsome, -⟩ := hcast.length_le rest
    rw [hnone] at hsome
    cases hsome
  · rw [hread]
    refine ⟨w, ⟨hcast, ⟨rest, htext.symm⟩, ?_⟩, htext⟩
    rintro v type hv ⟨next, rfl⟩
    obtain ⟨v', d, next', hread', -, htext', hle⟩ := hv.length_le next
    -- Both are what is read at the front of the text.
    rw [hread] at hread'
    cases hread'
    rw [htext, List.append_cancel_right_eq] at htext'
    rwa [htext']

/-! ## The characters of a cast -/

/-- The characters that the parts of a cast are made of. -/
def isCastChar (c : Char) : Bool :=
  isBlank c || isNamePart c || isDigit c || [':', '(', ',', ')', '[', ']'].contains c

lemma isCastChar_of_isBlank {c : Char} (h : isBlank c = true) : isCastChar c = true := by
  simp [isCastChar, h]

lemma isCastChar_of_isNamePart {c : Char} (h : isNamePart c = true) : isCastChar c = true := by
  simp [isCastChar, h]

lemma isCastChar_of_isWord {c : Char} (h : isWord c = true) : isCastChar c = true :=
  isCastChar_of_isNamePart (by rw [isNamePart, h, Bool.true_or])

lemma AreWords.isCastChar (h : AreWords words) : ∀ d ∈ words, isCastChar d = true := by
  induction h with
  | nil => exact nofun
  | cons _ hblanks hc hword _ ih =>
    simp only [List.mem_append, List.mem_cons]
    rintro d (hd | rfl | hd | hd)
    · exact isCastChar_of_isBlank (hblanks d hd)
    · exact isCastChar_of_isWord (isWord_of_isNameStart hc)
    · exact isCastChar_of_isWord (hword d hd)
    · exact ih d hd

lemma IsMark.isCastChar (h : IsMark sign taken) (hsign : isCastChar sign = true) :
    ∀ d ∈ taken, isCastChar d = true := by
  cases h with
  | mk hblanks =>
    simp only [List.mem_append, List.mem_singleton]
    rintro d (hd | rfl)
    · exact isCastChar_of_isBlank (hblanks d hd)
    · exact hsign

lemma IsCount.isCastChar (h : IsCount taken) : ∀ d ∈ taken, isCastChar d = true := by
  cases h with
  | mk hblanks _ hdigits =>
    simp only [List.mem_append]
    rintro d (hd | hd)
    · exact isCastChar_of_isBlank (hblanks d hd)
    · simp [Cast.isCastChar, hdigits d hd]

lemma IsModifier.isCastChar (h : IsModifier modifier) : ∀ d ∈ modifier, isCastChar d = true := by
  cases h with
  | none => exact nofun
  | some hopening hcount hsecond hclosing =>
    simp only [List.mem_append]
    rintro d (hd | hd | hd | hd)
    · exact hopening.isCastChar (by decide) d hd
    · exact hcount.isCastChar d hd
    · cases hsecond with
      | none => cases hd
      | some hcomma hcount' =>
        rcases List.mem_append.mp hd with hd | hd
        · exact hcomma.isCastChar (by decide) d hd
        · exact hcount'.isCastChar d hd
    · exact hclosing.isCastChar (by decide) d hd

lemma AreBrackets.isCastChar (h : AreBrackets brackets) : ∀ d ∈ brackets, isCastChar d = true := by
  induction h with
  | nil => exact nofun
  | cons _ ih =>
    simp only [List.mem_cons]
    rintro d (rfl | rfl | hd)
    · decide
    · decide
    · exact ih d hd

/-- No other characters occur in a cast. -/
lemma IsCast.isCastChar {type : List Char} (h : IsCast w type) :
    ∀ d ∈ w, isCastChar d = true := by
  cases h with
  | mk hblanks htype =>
    cases htype with
    | mk hc hname hwords hmodifier hbrackets =>
      simp only [List.mem_cons, List.mem_append]
      rintro d (rfl | rfl | hd | rfl | hd | hd | hd | hd)
      · decide
      · decide
      · exact isCastChar_of_isBlank (hblanks d hd)
      · exact isCastChar_of_isWord (isWord_of_isNameStart hc)
      · exact isCastChar_of_isNamePart (hname d hd)
      · exact hwords.isCastChar d hd
      · exact hmodifier.isCastChar d hd
      · exact hbrackets.isCastChar d hd

end BulkValues.Cast
