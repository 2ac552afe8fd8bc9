/-
# Literals are closed

A literal is a keyword, a number, a string with the name of a type behind it, or an array of
literals.  Keywords and numbers have no special characters but the signs, and a sign stands
before a digit or a point.  A string is closed whatever its text is, and the literals of an
array stand in brackets.
-/
import BulkValues.Proofs.Except
import BulkValues.Proofs.Number.Layout
import BulkValues.Proofs.Text.Hex
import BulkValues.Proofs.Tuple.Scan
import Mathlib.Data.Nat.Notation

namespace BulkValues.Tuples

open BulkValues.Literal BulkValues.Number BulkValues.Text

variable {c : Char} {cs w : List Char}

/-! ## Numbers -/

lemma plain_isAsciiDigit : Plain isAsciiDigit := plain_of_specials (by decide)

/-- A number without its sign: closed, not empty and without a second sign. -/
def Unsigned (w : List Char) : Prop := Closed w ∧ ∃ c r, w = c :: r ∧ c ≠ '-'

lemma Unsigned.minus (h : Unsigned w) : Closed ('-' :: w) := by
  obtain ⟨hclosed, c, r, rfl, hc⟩ := h
  exact hclosed.minus hc

lemma closed_of_dropSign (h : Unsigned (dropSign cs)) : Closed cs := by
  unfold dropSign at h
  split at h
  · rename_i r
    exact (closed_of_plain (w := ['+']) (by decide)).append h.1
  · exact h.minus
  · exact h.1

lemma unsigned_of_plain (hne : w ≠ []) (h : w.all isPlain = true) : Unsigned w := by
  obtain ⟨c, r, rfl⟩ := List.exists_cons_of_ne_nil hne
  refine ⟨closed_of_plain h, c, r, rfl, ?_⟩
  rintro rfl
  cases h

lemma unsigned_of_isDigits (h : isDigits cs = true) : Unsigned cs := by
  simp only [isDigits, Bool.and_eq_true, Bool.not_eq_true', List.isEmpty_eq_false_iff,
    List.all_eq_true] at h
  exact unsigned_of_plain h.1 (List.all_eq_true.mpr fun c hc => plain_isDigit c (h.2 c hc))

lemma closed_of_isExponent (h : isExponent cs = true) : Closed cs := by
  cases cs with
  | nil => exact closed_nil
  | cons e r =>
    simp only [isExponent, Bool.and_eq_true, Bool.or_eq_true, beq_iff_eq] at h
    have hmark : Closed [e] := by
      rcases h.1 with rfl | rfl
      · exact closed_of_plain (by decide)
      · exact closed_of_plain (by decide)
    exact hmark.append (closed_of_dropSign (unsigned_of_isDigits h.2))

/-- Digits, if any, and an exponent, if any. -/
lemma closed_digits_exponent (h : isExponent (cs.dropWhile isDigit) = true) : Closed cs := by
  have hclosed := (closed_takeWhile plain_isDigit cs).append (closed_of_isExponent h)
  rwa [List.takeWhile_append_dropWhile] at hclosed

lemma closed_point (h : Closed w) : Closed ('.' :: w) :=
  (closed_of_plain (w := ['.']) (by decide)).append h

/-- A plain number is closed. -/
lemma closed_of_isNumber (h : isNumber cs = true) : Closed cs := by
  refine closed_of_dropSign ?_
  rw [isNumber] at h
  generalize dropSign cs = cs at h ⊢
  split at h
  -- Without digits before it the point comes first.
  · rename_i hempty
    have hcs : cs.dropWhile isDigit = cs := by
      have happend := List.takeWhile_append_dropWhile (p := isDigit) (l := cs)
      rwa [List.isEmpty_iff.mp hempty, List.nil_append] at happend
    rw [hcs] at h
    split at h
    · rename_i r
      rw [Bool.and_eq_true] at h
      exact ⟨closed_point (closed_digits_exponent h.2), '.', r, rfl, by decide⟩
    · cases h
  · rename_i hsome
    have hdigits : isDigits (cs.takeWhile isDigit) = true := by
      rw [isDigits, List.all_takeWhile]
      simpa using hsome
    obtain ⟨-, c, r, hc, hsign⟩ := unsigned_of_isDigits hdigits
    have happend := List.takeWhile_append_dropWhile (p := isDigit) (l := cs)
    refine ⟨?_, c, r ++ cs.dropWhile isDigit, ?_, hsign⟩
    · rw [← happend]
      refine (closed_takeWhile plain_isDigit cs).append ?_
      split at h
      · rename_i r hr
        rw [hr]
        exact closed_point (closed_digits_exponent h)
      · exact closed_of_isExponent h
    · rw [← List.cons_append, ← hc, happend]

lemma closed_decimal {text lit : String} (h : decimal text = .ok lit) : Closed lit.toList := by
  rw [decimal] at h
  split at h
  · cases h
    exact closed_of_isNumber ‹_›
  · cases h

/-- A whole number is closed. -/
lemma closed_toString (n : ℤ) : Closed (toString n).toList := by
  have hdigits : Unsigned (Nat.toDigits 10 n.natAbs) :=
    unsigned_of_plain Nat.toDigits_ne_nil
      (List.all_eq_true.mpr fun c hc => plain_isAsciiDigit c (isAsciiDigit_of_mem_toDigits hc))
  rw [toList_toString_int]
  split
  · exact hdigits.minus
  · exact hdigits.1

/-! ## Floats -/

lemma plain_of_isPositional (h : IsPositional w) : w.all isPlain = true := by
  rw [List.all_eq_true]
  intro c hc
  rcases h.mem hc with hdigit | rfl
  · exact plain_isAsciiDigit c hdigit
  · decide

/-- The text of a float is a word or a signed number. -/
lemma display_eq (x : Binary64) :
    ∃ w, (x.display.toList = w ∨ x.display.toList = '-' :: w) ∧
      w.all isPlain = true := by
  by_cases hfinite : x.isFinite = true
  · obtain ⟨w, hw, htext⟩ := toList_display hfinite
    refine ⟨w, ?_, plain_of_isPositional hw⟩
    rw [htext]
    cases x.isNegative with
    | false => exact .inl rfl
    | true => exact .inr rfl
  · rw [Binary64.display]
    split
    · exact ⟨"NaN".toList, .inl rfl, by decide⟩
    · split
      · exact ⟨"inf".toList, .inr rfl, by decide⟩
      · exact ⟨"inf".toList, .inl rfl, by decide⟩

lemma closed_float (x : Binary64) : Closed (float x).toList := by
  obtain ⟨w, hw, hplain⟩ := display_eq x
  rw [float]
  split
  -- The point or the exponent is not the sign, so that something follows the sign.
  · rename_i hpoint
    have hne : w ≠ [] := by
      rintro rfl
      rcases hw with hw | hw
      · simp [hw] at hpoint
      · simp [hw] at hpoint
    have hunsigned := unsigned_of_plain hne hplain
    rcases hw with hw | hw
    · rw [hw]
      exact hunsigned.1
    · rw [hw]
      exact hunsigned.minus
  · have hzero : ['.', '0'].all isPlain = true := by decide
    have hunsigned : Unsigned (w ++ ['.', '0']) :=
      unsigned_of_plain (by simp) (by rw [List.all_append, hplain, hzero]; rfl)
    rw [String.toList_append]
    rcases hw with hw | hw
    · rw [hw]
      exact hunsigned.1
    · rw [hw]
      exact hunsigned.minus

/-! ## Strings with the name of a type -/

/-- A text without special characters, between quotes and with colons behind it. -/
lemma closed_typed {s type : List Char} (hs : '\'' ∉ s) (htype : type.all isPlain = true) :
    Closed ('\'' :: (s ++ '\'' :: ':' :: ':' :: type)) := by
  have hclosed := (closed_string_of_not_mem hs).append (closed_of_plain (w := [':', ':'])
    (by decide)) |>.append (closed_of_plain htype)
  simpa using hclosed

lemma closed_quoted (s : String) : Closed (quoted s).toList := by
  rw [quoted, String.toList_ofList]
  exact closed_string s.toList

lemma closed_of_quoted {s lit : String} (h : Except.ok (quoted s) = (.ok lit : Except Error _)) :
    Closed lit.toList := by
  rw [← Except.ok.inj h]
  exact closed_quoted s

/-! ## Dialects -/

variable {v : Value} {lit : String}

lemma closed_ansi (h : ansi v = .ok lit) : Closed lit.toList := by
  cases v with
  | null =>
    cases h
    exact closed_of_plain (by decide)
  | bool b =>
    cases h
    cases b with
    | true => exact closed_of_plain (by decide)
    | false => exact closed_of_plain (by decide)
  | int16 n =>
    cases h
    exact closed_toString n.toInt
  | int32 n =>
    cases h
    exact closed_toString n.toInt
  | int64 n =>
    cases h
    exact closed_toString n.toInt
  | float32 x =>
    rw [ansi, finiteFloat] at h
    split at h
    · cases h
      exact closed_float x.widen
    · cases h
  | float64 x =>
    rw [ansi, finiteFloat] at h
    split at h
    · cases h
      exact closed_float x
    · cases h
  | decimal text => exact closed_decimal h
  | string s => exact closed_of_quoted h
  | bytes bs =>
    cases h
    have htext : ("X'" ++ hexText bs ++ "'").toList = 'X' :: '\'' :: (hexChars bs ++ ['\'']) := by
      rw [String.toList_append, String.toList_append, toList_hexText]
      rfl
    rw [htext]
    exact (closed_of_plain (w := ['X']) (by decide)).append
      (closed_string_of_not_mem (quote_not_mem_hexChars bs))
  | uuid u => exact closed_of_quoted h
  | date d => exact closed_of_quoted h
  | time t => exact closed_of_quoted h
  | dateTime t => exact closed_of_quoted h
  | instant t => exact closed_of_quoted h
  | json doc => exact closed_of_quoted h
  | array items => cases h
  | map fields => cases h

lemma closed_postgresFloat (x : Binary64) {type : String}
    (htype : type.toList.all isPlain = true) : Closed (postgresFloat x type).toList := by
  rw [postgresFloat]
  split
  · rw [String.toList_append]
    exact closed_typed (s := "NaN".toList) (by decide) htype
  · split
    · rw [String.toList_append, String.toList_append, String.toList_append]
      cases x.isNegative with
      | true => exact closed_typed (s := "-Infinity".toList) (by decide) htype
      | false => exact closed_typed (s := "Infinity".toList) (by decide) htype
    · exact closed_float x

lemma closed_postgresDecimal {text : String} (h : postgresDecimal text = .ok lit) :
    Closed lit.toList := by
  rw [postgresDecimal] at h
  have htype : "numeric".toList.all isPlain = true := by decide
  split at h
  · rename_i hspecial
    cases h
    rcases hspecial with rfl | rfl | rfl
    · exact closed_typed (s := "NaN".toList) (by decide) htype
    · exact closed_typed (s := "Infinity".toList) (by decide) htype
    · exact closed_typed (s := "-Infinity".toList) (by decide) htype
  · split at h
    · cases h
      exact closed_typed (s := "Infinity".toList) (by decide) htype
    · exact closed_decimal h

/-- Literals in brackets with commas between them are closed. -/
lemma closed_array {lits : List String} (h : ∀ s ∈ lits, Closed s.toList) :
    Closed ("ARRAY[" ++ ", ".intercalate lits ++ "]").toList := by
  have hitems : ∀ w ∈ lits.map String.toList, Closed w := by
    intro w hw
    obtain ⟨s, hs, rfl⟩ := List.mem_map.mp hw
    exact h s hs
  have hgap : Closed [' '] := closed_of_plain (by decide)
  have hword : Closed "ARRAY".toList := closed_of_plain (by decide)
  rw [String.toList_append, String.toList_append, String.toList_intercalate]
  exact hword.append (nested_intercalate hgap hitems).brackets

/-- The literals of PostgreSQL are closed, arrays in arrays to any depth. -/
lemma closed_postgres_items :
    (∀ v lit, postgres v = .ok lit → Closed lit.toList) ∧
      ∀ vs lits, postgresItems vs = .ok lits → ∀ s ∈ lits, Closed s.toList := by
  apply postgres.mutual_induct (fun v => ∀ lit, postgres v = .ok lit → Closed lit.toList)
    (fun vs => ∀ lits, postgresItems vs = .ok lits → ∀ s ∈ lits, Closed s.toList)
  case case1 =>
    intro x lit h
    rw [postgres] at h
    cases h
    exact closed_postgresFloat x.widen (by decide)
  case case2 =>
    intro x lit h
    rw [postgres] at h
    cases h
    exact closed_postgresFloat x (by decide)
  case case3 =>
    intro text lit h
    rw [postgres] at h
    exact closed_postgresDecimal h
  case case4 =>
    intro bs lit h
    rw [postgres] at h
    rw [← Except.ok.inj h, String.toList_append, String.toList_append, toList_hexText]
    have hquote : '\'' ∉ '\\' :: 'x' :: hexChars bs := by
      simp [quote_not_mem_hexChars bs]
    have htype : "bytea".toList.all isPlain = true := by decide
    have hclosed := closed_typed hquote htype
    simpa using hclosed
  case case5 =>
    intro doc lit h
    rw [postgres] at h
    rw [← Except.ok.inj h, String.toList_append]
    exact (closed_quoted doc.text).append (closed_of_plain (by decide))
  case case6 =>
    intro lit h
    rw [postgres] at h
    cases h
    exact closed_string_of_not_mem (s := ['\x7b', '\x7d']) (by decide)
  case case7 =>
    intro item rest ih lit h
    rw [postgres, bind_eq_ok] at h
    obtain ⟨lits, hlits, h⟩ := h
    cases h
    exact closed_array (ih lits hlits)
  case case8 =>
    intro v h₁ h₂ h₃ h₄ h₅ h₆ h₇ lit h
    rw [postgres.eq_8 v h₁ h₂ h₃ h₄ h₅ h₆ h₇] at h
    exact closed_ansi h
  case case9 =>
    intro lits h
    rw [postgresItems] at h
    cases h
    simp
  case case10 =>
    intro item rest ih ihs lits h
    rw [postgresItems] at h
    simp only [bind_eq_ok] at h
    obtain ⟨lit, hlit, lits, hlits, h⟩ := h
    cases h
    intro s hs
    rcases List.mem_cons.mp hs with rfl | hs
    · exact ih s hlit
    · exact ihs lits hlits s hs

lemma closed_sqliteFloat {x : Binary64} (h : sqliteFloat x = .ok lit) : Closed lit.toList := by
  rw [sqliteFloat] at h
  split at h
  · cases h
  · split at h
    · cases h
      cases x.isNegative with
      | true => exact Closed.minus (by decide) (closed_of_plain (by decide))
      | false => exact closed_of_plain (by decide)
    · rw [← Except.ok.inj h]
      exact closed_float x

lemma closed_sqliteDecimal {text : String} (h : sqliteDecimal text = .ok lit) :
    Closed lit.toList := by
  rw [sqliteDecimal] at h
  split at h
  · cases h
    exact closed_of_plain (by decide)
  · split at h
    · cases h
      exact Closed.minus (by decide) (closed_of_plain (by decide))
    · exact closed_decimal h

lemma closed_sqlite (h : sqlite v = .ok lit) : Closed lit.toList := by
  unfold sqlite at h
  split at h
  · rename_i b
    cases h
    cases b with
    | true => exact closed_of_plain (by decide)
    | false => exact closed_of_plain (by decide)
  · exact closed_sqliteFloat h
  · exact closed_sqliteFloat h
  · exact closed_sqliteDecimal h
  · exact closed_of_quoted h
  · exact closed_ansi h

/-- Every literal of every dialect is closed. -/
lemma closed_literal {d : Dialect} (h : d.literal v = .ok lit) : Closed lit.toList := by
  cases d with
  | ansi => exact closed_ansi h
  | postgres => exact closed_postgres_items.1 v lit h
  | sqlite => exact closed_sqlite h

end BulkValues.Tuples
