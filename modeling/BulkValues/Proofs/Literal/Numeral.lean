/-
# Plain numbers

A decimal is embedded without quotes if its text is a plain number: an optional sign; digits with
an optional point and more digits behind it, or a point with digits behind it; an optional exponent.
The grammar is said here for any class of digits.  What the check of a decimal accepts is the
grammar with the digits of all scripts.  That is more than the grammar with the ten digits of ASCII:
the two agree on the texts that have no other digits.
-/
import BulkValues.Literal.Basic
import BulkValues.Proofs.Text.Stops

namespace BulkValues.Literal

open BulkValues.Text

/-! ## The grammar -/

section Grammar

variable (digit : Char → Bool)

/-- At least one digit and nothing else. -/
def IsRun (ds : List Char) : Prop := ds ≠ [] ∧ ∀ c ∈ ds, digit c = true

/-- A plus sign, a minus sign or nothing. -/
def IsSign (sign : List Char) : Prop := sign = [] ∨ sign = ['+'] ∨ sign = ['-']

/-- Digits with an optional point, and more digits behind it or none; or a point with digits
behind it. -/
inductive IsMantissa : List Char → Prop
  | whole {ds : List Char} (hds : IsRun digit ds) : IsMantissa ds
  | pointed {ds es : List Char} (hds : IsRun digit ds) (hes : ∀ c ∈ es, digit c = true) :
      IsMantissa (ds ++ '.' :: es)
  | fraction {es : List Char} (hes : IsRun digit es) : IsMantissa ('.' :: es)

/-- Nothing, or a mark and digits that may have a sign. -/
inductive IsScale : List Char → Prop
  | none : IsScale []
  | some {mark : Char} {sign ds : List Char} (hmark : mark = 'e' ∨ mark = 'E')
      (hsign : IsSign sign) (hds : IsRun digit ds) : IsScale (mark :: (sign ++ ds))

/-- A plain number. -/
def IsNumeral (cs : List Char) : Prop :=
  ∃ sign mantissa scale, IsSign sign ∧ IsMantissa digit mantissa ∧ IsScale digit scale ∧
    cs = sign ++ (mantissa ++ scale)

end Grammar

/-- The characters of a plain number beside its digits. -/
def numeralMarks : List Char := ['+', '-', '.', 'e', 'E']

variable {digit digit' : Char → Bool} {c : Char} {cs ds es sign mantissa scale : List Char}

/-! ### Characters -/

lemma IsRun.mono (h : IsRun digit ds) (hdigit : ∀ c ∈ ds, digit c = true → digit' c = true) :
    IsRun digit' ds :=
  ⟨h.1, fun c hc => hdigit c hc (h.2 c hc)⟩

lemma IsSign.mem (h : IsSign sign) (hc : c ∈ sign) : c ∈ numeralMarks := by
  rcases h with rfl | rfl | rfl <;> simp_all [numeralMarks]

lemma IsMantissa.mono (h : IsMantissa digit mantissa)
    (hdigit : ∀ c ∈ mantissa, digit c = true → digit' c = true) : IsMantissa digit' mantissa := by
  cases h with
  | whole hds => exact .whole (hds.mono hdigit)
  | pointed hds hes =>
    refine .pointed (hds.mono fun c hc => hdigit c (by simp [hc])) ?_
    intro c hc
    exact hdigit c (by simp [hc]) (hes c hc)
  | fraction hes => exact .fraction (hes.mono fun c hc => hdigit c (by simp [hc]))

lemma IsMantissa.mem (h : IsMantissa digit mantissa) (hc : c ∈ mantissa) :
    digit c = true ∨ c ∈ numeralMarks := by
  cases h with
  | whole hds => exact .inl (hds.2 c hc)
  | pointed hds hes =>
    simp only [List.mem_append, List.mem_cons] at hc
    rcases hc with hc | rfl | hc
    · exact .inl (hds.2 c hc)
    · exact .inr (by simp [numeralMarks])
    · exact .inl (hes c hc)
  | fraction hes =>
    rcases List.mem_cons.mp hc with rfl | hc
    · exact .inr (by simp [numeralMarks])
    · exact .inl (hes.2 c hc)

lemma IsScale.mono (h : IsScale digit scale)
    (hdigit : ∀ c ∈ scale, digit c = true → digit' c = true) : IsScale digit' scale := by
  cases h with
  | none => exact .none
  | some hmark hsign hds =>
    exact .some hmark hsign (hds.mono fun c hc => hdigit c (by simp [hc]))

lemma IsScale.mem (h : IsScale digit scale) (hc : c ∈ scale) :
    digit c = true ∨ c ∈ numeralMarks := by
  cases h with
  | none => cases hc
  | some hmark hsign hds =>
    simp only [List.mem_cons, List.mem_append] at hc
    rcases hc with rfl | hc | hc
    · rcases hmark with rfl | rfl <;> simp [numeralMarks]
    · exact .inr (hsign.mem hc)
    · exact .inl (hds.2 c hc)

/-- A plain number has digits and the marks of numbers only. -/
lemma IsNumeral.mem (h : IsNumeral digit cs) (hc : c ∈ cs) : digit c = true ∨ c ∈ numeralMarks := by
  obtain ⟨sign, mantissa, scale, hsign, hmantissa, hscale, rfl⟩ := h
  simp only [List.mem_append] at hc
  rcases hc with hc | hc | hc
  · exact .inr (hsign.mem hc)
  · exact hmantissa.mem hc
  · exact hscale.mem hc

lemma IsNumeral.mono (h : IsNumeral digit cs)
    (hdigit : ∀ c ∈ cs, digit c = true → digit' c = true) : IsNumeral digit' cs := by
  obtain ⟨sign, mantissa, scale, hsign, hmantissa, hscale, rfl⟩ := h
  exact ⟨sign, mantissa, scale, hsign, hmantissa.mono fun c hc => hdigit c (by simp [hc]),
    hscale.mono fun c hc => hdigit c (by simp [hc]), rfl⟩

/-! ## The check -/

lemma exists_sign (cs : List Char) : ∃ sign, IsSign sign ∧ cs = sign ++ dropSign cs := by
  unfold dropSign
  split
  · exact ⟨['+'], .inr (.inl rfl), rfl⟩
  · exact ⟨['-'], .inr (.inr rfl), rfl⟩
  · exact ⟨[], .inl rfl, rfl⟩

/-- A sign is dropped once. -/
lemma dropSign_append (hsign : IsSign sign) (h : StopsAt (fun c => c == '+' || c == '-') cs) :
    dropSign (sign ++ cs) = cs := by
  rcases hsign with rfl | rfl | rfl
  · rw [List.nil_append]
    unfold dropSign
    split
    · exact absurd (h '+' rfl) (by decide)
    · exact absurd (h '-' rfl) (by decide)
    · rfl
  · rfl
  · rfl

lemma isDigits_iff : isDigits ds = true ↔ IsRun isDigit ds := by
  simp [isDigits, IsRun]

/-- No digit is a mark of a number. -/
lemma not_mem_numeralMarks (h : isDigit c = true) : c ∉ numeralMarks := by
  intro hc
  have hnone : isDigit c = false := eq_false_of_any (by decide) c hc
  rw [hnone] at h
  cases h

lemma IsRun.stopsAt_sign (h : IsRun isDigit ds) (rest : List Char) :
    StopsAt (fun c => c == '+' || c == '-') (ds ++ rest) := by
  obtain ⟨c, r, rfl⟩ := List.exists_cons_of_ne_nil h.1
  have hmarks := not_mem_numeralMarks (h.2 c (List.mem_cons_self ..))
  refine stopsAt_cons ?_ _
  simp only [numeralMarks, List.mem_cons, not_or] at hmarks
  simp [hmarks.1, hmarks.2.1]

lemma IsMantissa.stopsAt_sign (h : IsMantissa isDigit mantissa) (rest : List Char) :
    StopsAt (fun c => c == '+' || c == '-') (mantissa ++ rest) := by
  cases h with
  | whole hds => exact hds.stopsAt_sign rest
  | pointed hds =>
    rw [List.append_assoc]
    exact hds.stopsAt_sign _
  | fraction => exact stopsAt_cons (by decide) _

lemma isExponent_iff : isExponent cs = true ↔ IsScale isDigit cs := by
  constructor
  · intro h
    cases cs with
    | nil => exact .none
    | cons mark r =>
      simp only [isExponent, Bool.and_eq_true, Bool.or_eq_true, beq_iff_eq] at h
      obtain ⟨sign, hsign, hr⟩ := exists_sign r
      rw [hr]
      exact .some h.1 hsign (isDigits_iff.mp h.2)
  · intro h
    cases h with
    | none => rfl
    | @some mark sign ds hmark hsign hds =>
      have hdrop : dropSign (sign ++ ds) = ds := by
        have hstop := hds.stopsAt_sign []
        rw [List.append_nil] at hstop
        exact dropSign_append hsign hstop
      simp only [isExponent, hdrop, isDigits_iff.mpr hds, Bool.and_true, Bool.or_eq_true,
        beq_iff_eq]
      exact hmark

/-- An exponent, or what a text has in its place, goes on with no digit and no point. -/
lemma IsScale.stopsAt (h : IsScale isDigit scale) :
    StopsAt (fun c => isDigit c || c == '.') scale := by
  cases h with
  | none => exact stopsAt_nil _
  | some hmark =>
    rcases hmark with rfl | rfl
    · exact stopsAt_cons (by decide) _
    · exact stopsAt_cons (by decide) _

lemma takeWhile_isDigit_append (cs : List Char) :
    cs.takeWhile isDigit ++ cs.dropWhile isDigit = cs :=
  List.takeWhile_append_dropWhile

lemma isRun_takeWhile (h : ¬ (cs.takeWhile isDigit).isEmpty = true) :
    IsRun isDigit (cs.takeWhile isDigit) :=
  ⟨mt List.isEmpty_iff.mpr h, fun _ hc => List.mem_takeWhile_imp hc⟩

/-- What the check accepts behind the sign is a mantissa with an exponent. -/
lemma exists_mantissa (h : isNumber cs = true) : ∃ mantissa scale,
    IsMantissa isDigit mantissa ∧ IsScale isDigit scale ∧ dropSign cs = mantissa ++ scale := by
  rw [isNumber] at h
  generalize dropSign cs = cs at h ⊢
  have hcs := takeWhile_isDigit_append cs
  split at h
  · rename_i hnone
    rw [List.isEmpty_iff.mp hnone, List.nil_append] at hcs
    split at h
    · rename_i r hr
      rw [Bool.and_eq_true, Bool.not_eq_true', Bool.eq_false_iff] at h
      refine ⟨_, _, .fraction (isRun_takeWhile h.1), isExponent_iff.mp h.2, ?_⟩
      rw [← hcs, hr, List.cons_append, takeWhile_isDigit_append]
    · cases h
  · rename_i hsome
    have hrun := isRun_takeWhile hsome
    split at h
    · rename_i r hr
      have hplaces : ∀ c ∈ r.takeWhile isDigit, isDigit c = true :=
        fun c hc => List.mem_takeWhile_imp hc
      refine ⟨_, _, .pointed hrun hplaces, isExponent_iff.mp h, ?_⟩
      rw [List.append_assoc, List.cons_append, takeWhile_isDigit_append, ← hr, hcs]
    · exact ⟨_, _, .whole hrun, isExponent_iff.mp h, hcs.symm⟩

/-- A mantissa with an exponent is accepted. -/
lemma isNumber_append (hsign : IsSign sign) (hmantissa : IsMantissa isDigit mantissa)
    (hscale : IsScale isDigit scale) : isNumber (sign ++ (mantissa ++ scale)) = true := by
  have hexponent := isExponent_iff.mpr hscale
  have hdigit : StopsAt isDigit scale :=
    fun c hc => (Bool.or_eq_false_iff.mp (hscale.stopsAt c hc)).1
  have hpoint : StopsAt (· == '.') scale :=
    fun c hc => (Bool.or_eq_false_iff.mp (hscale.stopsAt c hc)).2
  rw [isNumber, dropSign_append hsign (hmantissa.stopsAt_sign scale)]
  cases hmantissa with
  | whole hds =>
    rw [takeWhile_append_of_stopsAt hds.2 hdigit, dropWhile_append_of_stopsAt hds.2 hdigit,
      if_neg (mt List.isEmpty_iff.mp hds.1)]
    split
    · exact absurd (hpoint '.' rfl) (by decide)
    · exact hexponent
  | @pointed ds es hds hes =>
    have hstop : StopsAt isDigit ('.' :: (es ++ scale)) := stopsAt_cons (by decide) _
    rw [List.append_assoc, List.cons_append, takeWhile_append_of_stopsAt hds.2 hstop,
      dropWhile_append_of_stopsAt hds.2 hstop, if_neg (mt List.isEmpty_iff.mp hds.1)]
    change isExponent ((es ++ scale).dropWhile isDigit) = true
    rw [dropWhile_append_of_stopsAt hes hdigit, hexponent]
  | @fraction es hes =>
    have hstop : StopsAt isDigit ('.' :: (es ++ scale)) := stopsAt_cons (by decide) _
    have htake := takeWhile_append_of_stopsAt (w := []) nofun hstop
    have hdrop := dropWhile_append_of_stopsAt (w := []) nofun hstop
    rw [List.nil_append] at htake hdrop
    rw [List.cons_append, htake, hdrop]
    simp [takeWhile_append_of_stopsAt hes.2 hdigit, dropWhile_append_of_stopsAt hes.2 hdigit,
      hes.1, hexponent]

/-- The check of a decimal is the grammar of plain numbers. -/
lemma isNumber_iff : isNumber cs = true ↔ IsNumeral isDigit cs := by
  constructor
  · intro h
    obtain ⟨sign, hsign, hcs⟩ := exists_sign cs
    obtain ⟨mantissa, scale, hmantissa, hscale, hdrop⟩ := exists_mantissa h
    exact ⟨sign, mantissa, scale, hsign, hmantissa, hscale, by rw [← hdrop, ← hcs]⟩
  · rintro ⟨sign, mantissa, scale, hsign, hmantissa, hscale, rfl⟩
    exact isNumber_append hsign hmantissa hscale

/-! ## Decimals as literals -/

variable {text lit : String}

lemma decimal_eq_ok_iff : decimal text = .ok lit ↔ lit = text ∧ IsNumeral isDigit text.toList := by
  rw [decimal]
  split
  · rename_i h
    simp [isNumber_iff.mp h, eq_comm]
  · rename_i h
    simp [mt isNumber_iff.mpr h]

lemma isDigit_of_isAsciiDigit (h : isAsciiDigit c = true) : isDigit c = true := by
  have hle : '0' ≤ c ∧ c ≤ '9' := by simpa [isAsciiDigit] using h
  have hlt : c.toNat < 0x80 := Nat.lt_of_le_of_lt hle.2 (by decide)
  rw [isDigit, if_pos hlt, h]

/-- The digits of ASCII are enough for a plain number exactly where no other digits occur. -/
lemma isNumeral_isAsciiDigit_iff :
    IsNumeral isAsciiDigit cs ↔
      IsNumeral isDigit cs ∧ ∀ c ∈ cs, isDigit c = true → isAsciiDigit c = true := by
  constructor
  · intro h
    refine ⟨h.mono fun c _ => isDigit_of_isAsciiDigit, ?_⟩
    intro c hc hother
    rcases h.mem hc with hascii | hmark
    · exact hascii
    · exact absurd hmark (not_mem_numeralMarks hother)
  · rintro ⟨h, hascii⟩
    exact h.mono hascii

/-- A text that a dialect embeds for a decimal is in quotes or a plain number. -/
lemma quoted_or_isNumeral (d : Dialect) (h : d.literal (.decimal text) = .ok lit) :
    lit.toList.head? = some '\'' ∨ IsNumeral isDigit lit.toList := by
  have hplain : ∀ text lit, decimal text = .ok lit → IsNumeral isDigit lit.toList := by
    intro text lit h
    obtain ⟨rfl, hnumeral⟩ := decimal_eq_ok_iff.mp h
    exact hnumeral
  cases d with
  | ansi => exact .inr (hplain _ _ h)
  | postgres =>
    simp only [Dialect.literal, postgres, postgresDecimal] at h
    split at h
    · left
      cases h
      simp
    · split at h
      · left
        cases h
        rfl
      · exact .inr (hplain _ _ h)
  | sqlite =>
    simp only [Dialect.literal, sqlite, sqliteDecimal] at h
    have hlarge : isNumber "9e999".toList = true ∧ isNumber "-9e999".toList = true := by
      decide
    split at h
    · cases h
      exact .inr (isNumber_iff.mp hlarge.1)
    · split at h
      · cases h
        exact .inr (isNumber_iff.mp hlarge.2)
      · exact .inr (hplain _ _ h)

/-- A plain number is embedded as it is in every dialect. -/
lemma literal_of_isNumeral (d : Dialect) (h : IsNumeral isDigit text.toList) :
    d.literal (.decimal text) = .ok text := by
  have hdecimal : decimal text = .ok text := decimal_eq_ok_iff.mpr ⟨rfl, h⟩
  -- The special words have letters that no number has.
  have hword : ∀ word : String, (∃ c ∈ word.toList, isDigit c = false ∧ c ∉ numeralMarks) →
      text ≠ word := by
    rintro word ⟨c, hc, hdigit, hmark⟩ rfl
    rcases h.mem hc with hc | hc
    · rw [hdigit] at hc
      cases hc
    · exact hmark hc
  have hnan := hword "NaN" ⟨'N', by decide, by decide, by decide⟩
  have hpositive := hword "Infinity" ⟨'I', by decide, by decide, by decide⟩
  have hplus := hword "+Infinity" ⟨'I', by decide, by decide, by decide⟩
  have hminus := hword "-Infinity" ⟨'I', by decide, by decide, by decide⟩
  cases d with
  | ansi => exact hdecimal
  | postgres =>
    simp only [Dialect.literal, postgres, postgresDecimal]
    rw [if_neg (by simp [hnan, hpositive, hminus]), if_neg hplus, hdecimal]
  | sqlite =>
    simp only [Dialect.literal, sqlite, sqliteDecimal]
    rw [if_neg (by simp [hpositive, hplus]), if_neg hminus, hdecimal]

/-- **Which decimals are embedded.**  A decimal is embedded as its text if that is a plain number
with digits of any script, and otherwise it is refused with its text.  That the text is a plain
number in ASCII takes one thing more: that all its digits are digits of ASCII.  Whatever a dialect
embeds for a decimal, it is in quotes or a plain number with digits of any script. -/
theorem decimal_embedded_iff (text : String) :
    (decimal text = .ok text ↔ IsNumeral isDigit text.toList) ∧
      (decimal text = .error (.notNumeric text) ↔ ¬ IsNumeral isDigit text.toList) ∧
      (IsNumeral isAsciiDigit text.toList ↔
        decimal text = .ok text ∧
          ∀ c ∈ text.toList, isDigit c = true → isAsciiDigit c = true) ∧
      ∀ (d : Dialect) (lit : String), d.literal (.decimal text) = .ok lit →
        lit.toList.head? = some '\'' ∨ IsNumeral isDigit lit.toList := by
  have hok : decimal text = .ok text ↔ IsNumeral isDigit text.toList := by
    simp [decimal_eq_ok_iff]
  refine ⟨hok, ?_, ?_, fun d lit => quoted_or_isNumeral d⟩
  · rw [decimal, ← isNumber_iff]
    split <;> simp_all
  · rw [hok, isNumeral_isAsciiDigit_iff]

/-- A decimal in Arabic digits is embedded without quotes in every dialect, and it is no plain
number in ASCII. -/
theorem decimal_foreign_digits :
    (∀ d : Dialect, d.literal (.decimal "١٢٣") = .ok "١٢٣") ∧
      "١٢٣".toList.head? ≠ some '\'' ∧ ¬ IsNumeral isAsciiDigit "١٢٣".toList := by
  refine ⟨?_, by decide, ?_⟩
  · intro d
    cases d <;> rfl
  · intro h
    have hmem : '١' ∈ "١٢٣".toList := by decide
    rcases h.mem hmem with hascii | hmark
    · exact absurd hascii (by decide)
    · exact absurd hmark (by decide)

end BulkValues.Literal
