/-
# Reading a cast again

The type of a cast is read by a greedy grammar, and how far a part of it reaches depends on what
follows.  A type that was read somewhere reads back whole where a comma, a closing parenthesis or
nothing follows: each part stops where it stopped, because what follows now begins with a
character that belongs to no part, or with the same character as before.
-/
import BulkValues.Proofs.Text.Stops
import BulkValues.Template.Cast

namespace BulkValues

open BulkValues.Text

/-! ## Blanks and names -/

/-- No blank is part of a name or a digit. -/
lemma not_isNamePart_of_isBlank {c : Char} (h : isBlank c = true) :
    Cast.isNamePart c = false ∧ isDigit c = false :=
  of_isBlank (P := fun c => Cast.isNamePart c = false ∧ isDigit c = false) (by decide +kernel) h

lemma StopsAt.isWord {cs : List Char} (h : StopsAt Cast.isNamePart cs) : StopsAt isWord cs := by
  intro c hc
  have hpart := h c hc
  rw [Cast.isNamePart, Bool.or_eq_false_iff] at hpart
  exact hpart.1

namespace Cast

variable {sign : Char} {kind : Char → Bool} {cs taken rest : List Char}

/-! ## Further words -/

lemma readWords_of_stopsAt_blank (h : StopsAt isBlank cs) : readWords cs = ([], cs) := by
  rw [readWords.eq_def]
  split
  · rfl
  · rename_i c r hc
    rw [if_pos]
    rw [← hc, h.skipBlanks_eq]
    simp

lemma readWords_of_stopsAt_start (h : StopsAt isNameStart (skipBlanks cs)) :
    readWords cs = ([], cs) := by
  rw [readWords.eq_def]
  split
  · rfl
  · rename_i c r hc
    rw [hc] at h
    rw [if_pos]
    simp [h c rfl]

lemma readWords_of_start {c : Char} {r : List Char} (h : skipBlanks cs = c :: r)
    (hblanks : cs.takeWhile isBlank ≠ []) (hc : isNameStart c = true) :
    readWords cs = (cs.takeWhile isBlank ++ c :: r.takeWhile isWord ++
      (readWords (r.dropWhile isWord)).1, (readWords (r.dropWhile isWord)).2) := by
  have hlength : cs.length ≠ (c :: r).length := by
    have hpos := List.length_pos_iff.mpr hblanks
    have hsum := congrArg List.length (takeWhile_append_skipBlanks cs)
    rw [h, List.length_append] at hsum
    omega
  rw [readWords.eq_def]
  split
  · rename_i hnil
    rw [h] at hnil
    cases hnil
  · rename_i c' r' hc'
    obtain ⟨rfl, rfl⟩ := List.cons.inj (h.symm.trans hc')
    rw [if_neg]
    simpa [hc] using hlength

/-- Words that are read have blanks before them. -/
lemma readWords_cases (cs : List Char) :
    readWords cs = ([], cs) ∨ ∃ c r, skipBlanks cs = c :: r ∧ cs.takeWhile isBlank ≠ [] ∧
      isNameStart c = true := by
  by_cases hblank : StopsAt isBlank cs
  · exact .inl (readWords_of_stopsAt_blank hblank)
  by_cases hstart : StopsAt isNameStart (skipBlanks cs)
  · exact .inl (readWords_of_stopsAt_start hstart)
  · right
    cases hskip : skipBlanks cs with
    | nil =>
      rw [hskip] at hstart
      exact absurd (stopsAt_nil isNameStart) hstart
    | cons c r =>
      refine ⟨c, r, rfl, fun hnone => hblank ?_, ?_⟩
      · have hcs := takeWhile_append_skipBlanks cs
        rw [hnone, List.nil_append] at hcs
        rw [← hcs]
        exact stopsAt_dropWhile isBlank cs
      · by_contra hc
        exact hstart (hskip ▸ stopsAt_cons (Bool.not_eq_true _ ▸ hc) r)

lemma stopsAt_takeWhile_isBlank (hkind : ∀ c, isBlank c = true → kind c = false) (cs : List Char) :
    StopsAt kind (cs.takeWhile isBlank) := by
  intro c hc
  exact hkind c (mem_takeWhile_isBlank (List.mem_of_mem_head? hc))

lemma stopsAt_readWords (hkind : ∀ c, isBlank c = true → kind c = false) (cs : List Char) :
    StopsAt kind (readWords cs).1 := by
  rcases readWords_cases cs with hnone | ⟨c, r, hskip, hblanks, hc⟩
  · rw [hnone]
    exact stopsAt_nil kind
  · rw [readWords_of_start hskip hblanks hc]
    obtain ⟨b, blanks, hb⟩ := List.exists_cons_of_ne_nil hblanks
    have hstop := stopsAt_takeWhile_isBlank hkind cs
    rw [hb] at hstop ⊢
    exact hstop

lemma isWord_of_isNameStart {c : Char} (h : isNameStart c = true) : isWord c = true := by
  have hascii : c.toNat < 0x80 := by
    simp only [isNameStart, Bool.or_eq_true, Bool.and_eq_true, decide_eq_true_eq,
      beq_iff_eq] at h
    rcases h with (⟨-, hc⟩ | ⟨-, hc⟩) | rfl
    · exact lt_of_le_of_lt hc (by decide)
    · exact lt_of_le_of_lt hc (by decide)
    · decide
  rw [isWord, if_pos hascii, h, Bool.true_or]

lemma not_isBlank_of_isNameStart {c : Char} (h : isNameStart c = true) : isBlank c = false := by
  by_contra hblank
  have hname := (not_isNamePart_of_isBlank (Bool.not_eq_false _ ▸ hblank)).1
  rw [isNamePart, isWord_of_isNameStart h] at hname
  cases hname

/-- Words read back where no word and no further part of one follows. -/
lemma readWords_append (cs : List Char) (hword : StopsAt isWord rest)
    (hstop : readWords rest = ([], rest)) :
    readWords ((readWords cs).1 ++ rest) = ((readWords cs).1, rest) := by
  -- Along the words that were read: a word stops at the blanks before the next one, or where the
  -- words stop.
  fun_induction readWords cs with
  | case1 => exact hstop
  | case2 => exact hstop
  | case3 cs c r h hstart word more ih =>
    have hblank : ∀ c, isBlank c = true → isWord c = false := by
      intro c hc
      have hname := (not_isNamePart_of_isBlank hc).1
      rw [isNamePart, Bool.or_eq_false_iff] at hname
      exact hname.1
    rw [Bool.or_eq_true, not_or, Bool.not_eq_true', Bool.not_eq_false, decide_eq_true_eq] at hstart
    obtain ⟨hlength, hc⟩ := hstart
    have hblanks : cs.takeWhile isBlank ≠ [] := by
      intro hnone
      have hcs := takeWhile_append_skipBlanks cs
      rw [hnone, List.nil_append, h] at hcs
      exact hlength (congrArg List.length hcs.symm)
    have hrest : StopsAt isWord (more.1 ++ rest) := (stopsAt_readWords hblank _).append hword
    have hwords : ∀ c ∈ word, isWord c = true := fun c hc => List.mem_takeWhile_imp hc
    have hnext : StopsAt isBlank (c :: (word ++ (more.1 ++ rest))) :=
      stopsAt_cons (not_isBlank_of_isNameStart hc) _
    obtain ⟨hskip, htake⟩ := skipBlanks_append (fun c => mem_takeWhile_isBlank) hnext
    have hread := readWords_of_start hskip (by rwa [htake]) hc
    rw [htake, takeWhile_append_of_stopsAt hwords hrest, dropWhile_append_of_stopsAt hwords hrest,
      ih] at hread
    simpa using hread

/-! ## The modifier -/

/-- A sign is taken with the blanks before it, and reads back whatever follows. -/
lemma readSign_append (h : readSign sign cs = some (taken, rest)) (hsign : isBlank sign = false) :
    (∃ blanks, taken = blanks ++ [sign] ∧ ∀ c ∈ blanks, isBlank c = true) ∧
      ∀ next, readSign sign (taken ++ next) = some (taken, next) := by
  rw [readSign] at h
  split at h
  · split at h
    · cases h
      refine ⟨⟨_, rfl, fun c => mem_takeWhile_isBlank⟩, fun next => ?_⟩
      obtain ⟨hskip, htake⟩ := skipBlanks_append (fun c => mem_takeWhile_isBlank)
        (stopsAt_cons hsign next)
      rw [List.append_assoc, List.singleton_append, readSign, hskip, htake]
      exact if_pos rfl
    · cases h
  · cases h

/-- A sign is not read where something else follows the blanks. -/
lemma readSign_eq_none (h : StopsAt (· == sign) (skipBlanks cs)) : readSign sign cs = none := by
  rw [readSign]
  split
  · rename_i d r hd
    rw [hd] at h
    rw [if_neg]
    exact beq_eq_false_iff_ne.mp (h d rfl)
  · rfl

/-- A number is taken with the blanks before it, and reads back where no digit follows. -/
lemma readCount_append (h : readCount cs = some (taken, rest)) :
    (∃ blanks digits, taken = blanks ++ digits ∧ (∀ c ∈ blanks, isBlank c = true) ∧
        ∀ c ∈ digits, isDigit c = true) ∧
      ∀ {next}, StopsAt isDigit next → readCount (taken ++ next) = some (taken, next) := by
  rw [readCount] at h
  split at h
  · cases h
  · rename_i hdigits
    cases h
    have hall : ∀ c ∈ (skipBlanks cs).takeWhile isDigit, isDigit c = true :=
      fun c hc => List.mem_takeWhile_imp hc
    refine ⟨⟨_, _, rfl, fun c => mem_takeWhile_isBlank, hall⟩, fun {next} hnext => ?_⟩
    have hstop : StopsAt isBlank ((skipBlanks cs).takeWhile isDigit ++ next) := by
      have hskipped := stopsAt_dropWhile isBlank cs
      rw [← List.takeWhile_append_dropWhile (p := isDigit) (l := cs.dropWhile isBlank)] at hskipped
      exact hskipped.of_ne_nil (mt List.isEmpty_iff.mpr hdigits) next
    obtain ⟨hskip, htake⟩ := skipBlanks_append (fun c => mem_takeWhile_isBlank) hstop
    rw [List.append_assoc, readCount, hskip, htake,
      takeWhile_append_of_stopsAt hall hnext, dropWhile_append_of_stopsAt hall hnext,
      if_neg hdigits]

section Modifier

variable {opening count comma second closing next r₁ r₂ r₃ r₄ : List Char}

lemma readSecondCount_of (hcomma : readSign ',' cs = some (comma, r₁))
    (hcount : readCount r₁ = some (count, r₂)) : readSecondCount cs = (comma ++ count, r₂) := by
  rw [readSecondCount, hcomma]
  simp only [Option.bind_eq_bind, Option.bind_some, hcount, Option.pure_def, Option.getD_some]

lemma readSecondCount_cases (cs : List Char) :
    readSecondCount cs = ([], cs) ∨ ∃ comma r₁ count r₂, readSign ',' cs = some (comma, r₁) ∧
      readCount r₁ = some (count, r₂) := by
  cases hcomma : readSign ',' cs with
  | none =>
    left
    rw [readSecondCount, hcomma]
    rfl
  | some comma =>
    cases hcount : readCount comma.2 with
    | none =>
      left
      rw [readSecondCount, hcomma]
      simp only [Option.bind_eq_bind, Option.bind_some, hcount]
      rfl
    | some count => exact .inr ⟨_, _, _, _, rfl, hcount⟩

lemma readModifier_of (hopening : readSign '(' cs = some (opening, r₁))
    (hcount : readCount r₁ = some (count, r₂)) (hsecond : readSecondCount r₂ = (second, r₃))
    (hclosing : readSign ')' r₃ = some (closing, r₄)) :
    readModifier cs = (opening ++ count ++ second ++ closing, r₄) := by
  rw [readModifier, hopening]
  simp only [Option.bind_eq_bind, Option.bind_some, hcount, hsecond, hclosing, Option.pure_def,
    Option.getD_some]

lemma readModifier_cases (cs : List Char) :
    readModifier cs = ([], cs) ∨ ∃ opening r₁ count r₂ closing r₄,
      readSign '(' cs = some (opening, r₁) ∧ readCount r₁ = some (count, r₂) ∧
      readSign ')' (readSecondCount r₂).2 = some (closing, r₄) := by
  cases hopening : readSign '(' cs with
  | none =>
    left
    rw [readModifier, hopening]
    rfl
  | some opening =>
    cases hcount : readCount opening.2 with
    | none =>
      left
      rw [readModifier, hopening]
      simp only [Option.bind_eq_bind, Option.bind_some, hcount]
      rfl
    | some count =>
      cases hclosing : readSign ')' (readSecondCount count.2).2 with
      | none =>
        left
        rw [readModifier, hopening]
        simp only [Option.bind_eq_bind, Option.bind_some, hcount, hclosing]
        rfl
      | some closing => exact .inr ⟨_, _, _, _, _, _, rfl, hcount, hclosing⟩

/-- Blanks and then a sign begin with neither a digit nor any other kind that has none of them. -/
lemma stopsAt_readSign (h : readSign sign cs = some (taken, rest)) (hsign : isBlank sign = false)
    (hkind : ∀ c, isBlank c = true → kind c = false) (hstop : kind sign = false)
    (next : List Char) : StopsAt kind (taken ++ next) := by
  obtain ⟨⟨blanks, rfl, hblanks⟩, -⟩ := readSign_append h hsign
  cases blanks with
  | nil => exact stopsAt_cons hstop next
  | cons b blanks => exact stopsAt_cons (hkind b (hblanks b List.mem_cons_self)) _

lemma not_isDigit_of_isBlank : ∀ c, isBlank c = true → isDigit c = false :=
  fun _ hc => (not_isNamePart_of_isBlank hc).2

/-- A second number reads back where no digit and no comma follow. -/
lemma readSecondCount_append (cs : List Char) (hdigit : StopsAt isDigit next)
    (hcomma : StopsAt (· == ',') (skipBlanks next)) :
    readSecondCount ((readSecondCount cs).1 ++ next) = ((readSecondCount cs).1, next) ∧
      StopsAt isDigit ((readSecondCount cs).1 ++ next) := by
  rcases readSecondCount_cases cs with hnone | ⟨comma, r₁, count, r₂, hsign, hcount⟩
  · rw [hnone, List.nil_append, readSecondCount, readSign_eq_none hcomma]
    exact ⟨rfl, hdigit⟩
  · obtain ⟨-, hsign'⟩ := readSign_append hsign (by decide)
    obtain ⟨-, hcount'⟩ := readCount_append hcount
    rw [readSecondCount_of hsign hcount, List.append_assoc]
    exact ⟨readSecondCount_of (hsign' _) (hcount' hdigit),
      stopsAt_readSign hsign (by decide) not_isDigit_of_isBlank (by decide) _⟩

/-- A modifier reads back where no other follows. -/
lemma readModifier_append (cs : List Char) (hnext : StopsAt (· == '(') (skipBlanks next)) :
    readModifier ((readModifier cs).1 ++ next) = ((readModifier cs).1, next) := by
  rcases readModifier_cases cs with
    hnone | ⟨opening, r₁, count, r₂, closing, r₄, hopening, hcount, hclosing⟩
  · rw [hnone, List.nil_append, readModifier, readSign_eq_none hnext]
    rfl
  · obtain ⟨-, hopening'⟩ := readSign_append hopening (by decide)
    obtain ⟨-, hcount'⟩ := readCount_append hcount
    obtain ⟨⟨blanks, hblanks, hall⟩, hclosing'⟩ := readSign_append hclosing (by decide)
    -- The numbers stop at the closing parenthesis, which is still there; what follows it does not
    -- matter.
    have hdigit : StopsAt isDigit (closing ++ next) :=
      stopsAt_readSign hclosing (by decide) not_isDigit_of_isBlank (by decide) next
    have hcomma : StopsAt (· == ',') (skipBlanks (closing ++ next)) := by
      have hend : StopsAt isBlank (')' :: next) := stopsAt_cons (by decide) next
      rw [hblanks, List.append_assoc, List.singleton_append, (skipBlanks_append hall hend).1]
      exact stopsAt_cons (by decide) next
    obtain ⟨hsecond, hstop⟩ := readSecondCount_append r₂ hdigit hcomma
    have heq : readModifier cs = (opening ++ count ++ (readSecondCount r₂).1 ++ closing, r₄) :=
      readModifier_of hopening hcount (Prod.eta _).symm hclosing
    rw [heq, List.append_assoc, List.append_assoc, List.append_assoc,
      readModifier_of (hopening' _) (hcount' hstop) hsecond (hclosing' next)]

end Modifier

/-! ## The whole type -/

/-- Brackets read back where no others follow. -/
lemma readBrackets_append (cs : List Char) {next : List Char} (hnext : StopsAt (· == '[') next) :
    readBrackets ((readBrackets cs).1 ++ next) = ((readBrackets cs).1, next) := by
  fun_induction readBrackets cs with
  | case1 r more ih =>
    change readBrackets ('[' :: ']' :: (more.1 ++ next)) = _
    rw [readBrackets, ih]
  | case2 =>
    rw [List.nil_append, readBrackets]
    rintro r rfl
    exact absurd (hnext '[' rfl) (by decide)

/-- What may follow a type in a list in parentheses. -/
def Ends (cs : List Char) : Prop := cs = [] ∨ ∃ c r, cs = c :: r ∧ (c = ',' ∨ c = ')')

lemma Ends.stopsAt (h : Ends cs) (hcomma : kind ',' = false) (hclosing : kind ')' = false) :
    StopsAt kind cs := by
  rcases h with rfl | ⟨c, r, rfl, rfl | rfl⟩
  · exact stopsAt_nil kind
  · exact stopsAt_cons hcomma r
  · exact stopsAt_cons hclosing r

/-- A modifier begins with blanks or a parenthesis, and the character after the blanks starts no
word. -/
lemma stopsAt_readModifier (cs : List Char) {next : List Char} (hpart : StopsAt isNamePart next)
    (hblank : StopsAt isBlank next) :
    StopsAt isNamePart ((readModifier cs).1 ++ next) ∧
      readWords ((readModifier cs).1 ++ next) = ([], (readModifier cs).1 ++ next) := by
  rcases readModifier_cases cs with
    hnone | ⟨opening, r₁, count, r₂, closing, r₄, hopening, hcount, hclosing⟩
  · rw [hnone, List.nil_append]
    exact ⟨hpart, readWords_of_stopsAt_blank hblank⟩
  · have heq : readModifier cs = (opening ++ count ++ (readSecondCount r₂).1 ++ closing, r₄) :=
      readModifier_of hopening hcount (Prod.eta _).symm hclosing
    obtain ⟨⟨blanks, hblanks, hall⟩, -⟩ := readSign_append hopening (by decide)
    rw [heq, List.append_assoc, List.append_assoc, List.append_assoc]
    refine ⟨stopsAt_readSign hopening (by decide) (fun c hc => (not_isNamePart_of_isBlank hc).1)
      (by decide) _, readWords_of_stopsAt_start ?_⟩
    generalize count ++ ((readSecondCount r₂).1 ++ (closing ++ next)) = after
    have hend : StopsAt isBlank ('(' :: after) := stopsAt_cons (by decide) after
    rw [hblanks, List.append_assoc, List.singleton_append, (skipBlanks_append hall hend).1]
    exact stopsAt_cons (by decide) after

lemma stopsAt_readBrackets (hkind : kind '[' = false) (cs : List Char) :
    StopsAt kind (readBrackets cs).1 := by
  rw [readBrackets.eq_def]
  split
  · exact stopsAt_cons hkind _
  · exact stopsAt_nil kind

/-- A type reads back at the end of an item. -/
theorem readType_append {type next : List Char} (h : readType cs = some (type, rest))
    (hnext : Ends next) : readType (type ++ next) = some (type, next) := by
  rw [readType.eq_def] at h
  split at h
  · cases h
  · rename_i c r
    split at h
    · rename_i hstart
      cases h
      have hparts : ∀ c ∈ r.takeWhile isNamePart, isNamePart c = true :=
        fun c hc => List.mem_takeWhile_imp hc
      generalize r.takeWhile isNamePart = name at *
      generalize r.dropWhile isNamePart = after
      -- From the back: each part reads back in front of what comes after it.
      have hafter : ∀ kind : Char → Bool, kind '[' = false → kind ',' = false →
          kind ')' = false → StopsAt kind ((readBrackets (readModifier (readWords after).2).2).1 ++
            next) := fun kind hbracket hcomma hclosing =>
        (stopsAt_readBrackets hbracket _).append (hnext.stopsAt hcomma hclosing)
      have hbracket : StopsAt (· == '[') next := hnext.stopsAt (by decide) (by decide)
      have hbrackets := readBrackets_append (readModifier (readWords after).2).2 hbracket
      generalize (readBrackets (readModifier (readWords after).2).2).1 = brackets at *
      have hopening : StopsAt (· == '(') (skipBlanks (brackets ++ next)) := by
        rw [(hafter isBlank (by decide) (by decide) (by decide)).skipBlanks_eq]
        exact hafter _ (by decide) (by decide) (by decide)
      have hmodifier := readModifier_append (readWords after).2 hopening
      obtain ⟨hpart, hstop⟩ := stopsAt_readModifier (readWords after).2
        (hafter isNamePart (by decide) (by decide) (by decide))
        (hafter isBlank (by decide) (by decide) (by decide))
      generalize (readModifier (readWords after).2).1 = modifier at *
      have hwords := readWords_append after hpart.isWord hstop
      have hname := (stopsAt_readWords (fun c hc => (not_isNamePart_of_isBlank hc).1) after).append
        hpart
      generalize (readWords after).1 = words at *
      rw [List.append_assoc, List.append_assoc, List.append_assoc, List.cons_append, readType,
        if_pos hstart, takeWhile_append_of_stopsAt hparts hname,
        dropWhile_append_of_stopsAt hparts hname, hwords]
      dsimp only
      rw [hmodifier]
      dsimp only
      rw [hbrackets]
    · cases h

lemma exists_cons_of_readType {type : List Char} (h : readType cs = some (type, rest)) :
    ∃ c r, type = c :: r ∧ isNameStart c = true := by
  rw [readType.eq_def] at h
  split at h
  · cases h
  · rename_i c r
    split at h
    · rename_i hstart
      cases h
      exact ⟨c, _, rfl, hstart⟩
    · cases h

/-- A cast reads back at the end of an item. -/
theorem read_append {type next : List Char} (h : readType cs = some (type, rest))
    (hnext : Ends next) : read (':' :: ':' :: (type ++ next)) = (some ⟨type⟩, next) := by
  obtain ⟨c, r, hcons, hstart⟩ := exists_cons_of_readType h
  have hblank : StopsAt isBlank (type ++ next) := by
    rw [hcons]
    exact stopsAt_cons (not_isBlank_of_isNameStart hstart) _
  rw [read, hblank.skipBlanks_eq, readType_append h hnext]

/-- A cast that is read takes its colons at least. -/
lemma length_lt_of_read {cast : Cast} (h : read cs = (some cast, rest)) :
    rest.length < cs.length := by
  unfold read at h
  split at h
  · rename_i r
    split at h
    · rename_i htype
      cases h
      have hlt := length_of_readType htype
      have hle := length_skipBlanks_le r
      simp only [List.length_cons]
      omega
    · cases h
  · cases h

/-! ## The characters of a type -/

/-- A character that is none of those that a type is made of, apart from parentheses, commas and
brackets. -/
structure Foreign (c : Char) : Prop where
  namePart : isNamePart c = false
  blank : isBlank c = false
  digit : isDigit c = false

lemma not_mem_takeWhile {c : Char} (h : kind c = false) (cs : List Char) :
    c ∉ cs.takeWhile kind := by
  intro hc
  rw [List.mem_takeWhile_imp hc] at h
  cases h

lemma Foreign.word {c : Char} (h : Foreign c) : isWord c = false := by
  have hpart := h.namePart
  rw [isNamePart, Bool.or_eq_false_iff] at hpart
  exact hpart.1

lemma Foreign.ne_of_isNameStart {c d : Char} (h : Foreign c) (hd : isNameStart d = true) :
    c ≠ d := by
  rintro rfl
  have hword := h.word
  rw [isWord_of_isNameStart hd] at hword
  cases hword

lemma not_mem_readWords {c : Char} (h : Foreign c) (cs : List Char) : c ∉ (readWords cs).1 := by
  fun_induction readWords cs with
  | case1 => exact List.not_mem_nil
  | case2 => exact List.not_mem_nil
  | case3 cs d r hskip hstart word more ih =>
    rw [Bool.or_eq_true, not_or, Bool.not_eq_true', Bool.not_eq_false] at hstart
    simp only [List.mem_append, List.mem_cons, not_or]
    exact ⟨⟨not_mem_takeWhile h.blank cs, h.ne_of_isNameStart hstart.2,
      not_mem_takeWhile h.word r⟩, ih⟩

lemma not_mem_readBrackets {c : Char} (hopening : c ≠ '[') (hclosing : c ≠ ']') (cs : List Char) :
    c ∉ (readBrackets cs).1 := by
  fun_induction readBrackets cs with
  | case1 r more ih =>
    simp only [List.mem_cons, not_or]
    exact ⟨hopening, hclosing, ih⟩
  | case2 => exact List.not_mem_nil

lemma Foreign.not_mem_of_blank {c : Char} (h : Foreign c) {blanks : List Char}
    (hblanks : ∀ d ∈ blanks, isBlank d = true) : c ∉ blanks := by
  intro hc
  have hblank := h.blank
  rw [hblanks c hc] at hblank
  cases hblank

lemma Foreign.not_mem_readSign {c : Char} (h : Foreign c) (hne : c ≠ sign)
    (hsign : isBlank sign = false) (hread : readSign sign cs = some (taken, rest)) :
    c ∉ taken := by
  obtain ⟨⟨blanks, rfl, hblanks⟩, -⟩ := readSign_append hread hsign
  rw [List.mem_append, List.mem_singleton, not_or]
  exact ⟨h.not_mem_of_blank hblanks, hne⟩

lemma Foreign.not_mem_readCount {c : Char} (h : Foreign c)
    (hread : readCount cs = some (taken, rest)) : c ∉ taken := by
  obtain ⟨⟨blanks, digits, rfl, hblanks, hdigits⟩, -⟩ := readCount_append hread
  rw [List.mem_append, not_or]
  refine ⟨h.not_mem_of_blank hblanks, fun hc => ?_⟩
  have hdigit := h.digit
  rw [hdigits c hc] at hdigit
  cases hdigit

/-- A modifier ends with its only closing parenthesis. -/
lemma readModifier_shape (cs : List Char) :
    (readModifier cs).1 = [] ∨ ∃ inner, (readModifier cs).1 = inner ++ [')'] ∧
      ∀ c, Foreign c → c ≠ '(' → c ≠ ',' → c ∉ inner := by
  rcases readModifier_cases cs with
    hnone | ⟨opening, r₁, count, r₂, closing, r₄, hopening, hcount, hclosing⟩
  · exact .inl (congrArg Prod.fst hnone)
  · right
    have heq : readModifier cs = (opening ++ count ++ (readSecondCount r₂).1 ++ closing, r₄) :=
      readModifier_of hopening hcount (Prod.eta _).symm hclosing
    obtain ⟨⟨blanks, hblanks, hall⟩, -⟩ := readSign_append hclosing (by decide)
    refine ⟨opening ++ count ++ (readSecondCount r₂).1 ++ blanks, ?_, fun c hc hne hcomma => ?_⟩
    · rw [heq, hblanks]
      simp only [List.append_assoc]
    · have hsecond : c ∉ (readSecondCount r₂).1 := by
        rcases readSecondCount_cases r₂ with hnone | ⟨comma, r, second, r', hsign, hcount'⟩
        · rw [hnone]
          exact List.not_mem_nil
        · rw [readSecondCount_of hsign hcount', List.mem_append, not_or]
          exact ⟨hc.not_mem_readSign hcomma (by decide) hsign, hc.not_mem_readCount hcount'⟩
      simp only [List.mem_append, not_or]
      exact ⟨⟨⟨hc.not_mem_readSign hne (by decide) hopening, hc.not_mem_readCount hcount⟩,
        hsecond⟩, hc.not_mem_of_blank hall⟩

/-- A type has at most one closing parenthesis, and then nothing or brackets. -/
theorem readType_shape {type : List Char} (h : readType cs = some (type, rest)) :
    ∃ front closing back, type = front ++ closing ++ back ∧ (closing = [] ∨ closing = [')']) ∧
      StopsAt (fun c => isBlank c || c == ')') back ∧
      ∀ c, Foreign c → c ∉ ['(', ',', '[', ']'] → c ∉ front ∧ c ∉ back := by
  rw [readType.eq_def] at h
  split at h
  · cases h
  · rename_i c r
    split at h
    · rename_i hstart
      cases h
      have hbrackets : ∀ cs, StopsAt (fun c => isBlank c || c == ')') (readBrackets cs).1 :=
        fun cs => stopsAt_readBrackets (by decide) cs
      have hname : ∀ d, Foreign d → d ∉ c :: r.takeWhile isNamePart ++
          (readWords (r.dropWhile isNamePart)).1 := by
        intro d hd
        simp only [List.mem_append, List.mem_cons, not_or]
        exact ⟨⟨hd.ne_of_isNameStart hstart, not_mem_takeWhile hd.namePart r⟩,
          not_mem_readWords hd _⟩
      have hback : ∀ d, d ∉ ['(', ',', '[', ']'] → ∀ cs, d ∉ (readBrackets cs).1 := by
        intro d hd cs
        simp only [List.mem_cons, List.not_mem_nil, or_false, not_or] at hd
        exact not_mem_readBrackets hd.2.2.1 hd.2.2.2 cs
      rcases readModifier_shape (readWords (r.dropWhile isNamePart)).2 with
        hnone | ⟨inner, hinner, hforeign⟩
      · refine ⟨_, [], _, by rw [hnone, List.append_nil], .inl rfl, hbrackets _,
          fun d hd hne => ⟨hname d hd, hback d hne _⟩⟩
      · refine ⟨c :: r.takeWhile isNamePart ++ (readWords (r.dropWhile isNamePart)).1 ++ inner,
          [')'], _, by rw [hinner, List.append_assoc _ inner], .inr rfl, hbrackets _,
          fun d hd hne => ⟨?_, hback d hne _⟩⟩
        simp only [List.mem_cons, List.not_mem_nil, or_false, not_or] at hne
        rw [List.mem_append, not_or]
        exact ⟨hname d hd, hforeign d hd hne.1 hne.2.1⟩
    · cases h

end Cast

end BulkValues
