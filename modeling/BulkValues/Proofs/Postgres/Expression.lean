/-
# Literals as expressions

Where a literal stands with a cast behind it, the two are read as an expression.  A cast binds
tighter than a sign: it belongs to the operand right in front of it, and a sign before that operand
stays outside.  An operand is a keyword, a number without a sign, a string or an array of
expressions.

Text that is an operand with its own casts takes a further cast as a whole, and text that begins
with a sign takes it behind the sign.
-/
import BulkValues.Proofs.Literal.Decoding
import BulkValues.Proofs.Literal.Numeral
import BulkValues.Proofs.Template.CastReading

namespace BulkValues.Postgres

open BulkValues.Literal BulkValues.Text

/-- Expressions, as far as literals and casts need them. -/
inductive Expression where
  /-- A keyword or a number without a sign. -/
  | token (text : List Char)
  | string (chars : List Char)
  | array (items : List Expression)
  /-- An operand with a cast behind it. -/
  | cast (operand : Expression) (type : List Char)
  /-- An operand with a sign before it. -/
  | signed (sign : Char) (operand : Expression)

namespace Expression

/-! ## Reading -/

def isSign (c : Char) : Bool := c == '+' || c == '-'

/-- The characters that end a keyword or a number beside the blanks. -/
def delimiters : List Char := [',', ':', '\'', '(', ')', '[', ']']

def isDelimiter (c : Char) : Bool := isBlank c || delimiters.contains c

/-- The keywords that stand for values. -/
def keywords : List (List Char) := ["NULL".toList, "TRUE".toList, "FALSE".toList]

/-- Whether a word is a keyword or a number without a sign. -/
def isToken (word : List Char) : Bool :=
  keywords.contains word || isNumber word && dropSign word == word

/-- An operand; the items of an array are each read by `item`. -/
def readOperand (item : Reader Expression) : Reader Expression
  | '\'' :: r => (readQuoted r).map fun p => (.string p.1, p.2)
  | cs =>
    let word := cs.takeWhile (!isDelimiter ·)
    match cs.dropWhile (!isDelimiter ·) with
    | '[' :: r =>
      if word = "ARRAY".toList then (Json.readList item ']' r).map fun p => (.array p.1, p.2)
      else none
    | rest => if isToken word then some (.token word, rest) else none

/-- The casts behind an operand, each around what is before it, and the text after them. -/
def readCasts (e : Expression) (cs : List Char) : Expression × List Char :=
  match _h : Cast.read cs with
  | (some c, rest) => readCasts (.cast e c.type) rest
  | (none, _) => (e, cs)
termination_by cs.length
decreasing_by exact Cast.length_lt_of_read _h

/-- An operand with its casts. -/
def readTerm (item : Reader Expression) : Reader Expression := fun cs =>
  (readOperand item cs).map fun p => readCasts p.1 p.2

/-- A term that may have a sign before it. -/
def readSigned (item : Reader Expression) : Reader Expression := fun cs =>
  match skipBlanks cs with
  | c :: r =>
    if isSign c then (readTerm item r).map fun p => (.signed c p.1, p.2)
    else readTerm item (c :: r)
  | [] => none

/-- An expression in which arrays are nested less than `depth` deep. -/
def read : ℕ → Reader Expression
  | 0 => fun _ => none
  | depth + 1 => readSigned (read depth)

/-- The expression that a whole text is. -/
def read? (cs : List Char) : Option Expression :=
  match read (cs.length + 1) cs with
  | some (e, []) => some e
  | _ => none

/-- A change of the operand behind the sign, or of the whole where there is no sign. -/
def underSign (f : Expression → Expression) : Expression → Expression
  | signed sign operand => signed sign (f operand)
  | e => f e

/-- Whether an expression has a sign before it. -/
def isSigned : Expression → Bool
  | signed .. => true
  | _ => false

variable {c : Char} {cs w next rest chars type : List Char} {e : Expression} {depth : ℕ}
  {item : Reader Expression} {f : Expression → Expression}

/-! ## Casts -/

/-- Whether a type is a name and nothing else. -/
def isName : List Char → Bool
  | [] => false
  | c :: r => isNameStart c && r.all Cast.isNamePart

/-- The name of a type is read up to the end of a literal. -/
lemma castRead_name (hname : isName type = true) (hnext : Follows next) :
    Cast.read (':' :: ':' :: (type ++ next)) = (some ⟨type⟩, next) := by
  cases type with
  | nil => cases hname
  | cons c w =>
    rw [isName, Bool.and_eq_true, List.all_eq_true] at hname
    obtain ⟨hc, hw⟩ := hname
    have hblank : StopsAt isBlank next := hnext.stopsAt (by decide)
    have hpart : StopsAt Cast.isNamePart next := hnext.stopsAt (by decide)
    have hbracket : StopsAt (· == '[') next := hnext.stopsAt (by decide)
    have hopening : StopsAt (· == '(') (skipBlanks next) := by
      rw [hblank.skipBlanks_eq]
      exact hnext.stopsAt (by decide)
    have hmodifier : Cast.readModifier next = ([], next) := Cast.readModifier_append [] hopening
    have hbrackets : Cast.readBrackets next = ([], next) := Cast.readBrackets_append [] hbracket
    have htype : Cast.readType (c :: w ++ next) = some (c :: w, next) := by
      rw [List.cons_append, Cast.readType, if_pos hc, takeWhile_append_of_stopsAt hw hpart,
        dropWhile_append_of_stopsAt hw hpart, Cast.readWords_of_stopsAt_blank hblank]
      simp [hmodifier, hbrackets]
    have hstart : StopsAt isBlank (c :: w ++ next) :=
      stopsAt_cons (Cast.not_isBlank_of_isNameStart hc) _
    rw [Cast.read, hstart.skipBlanks_eq, htype]

lemma readCasts_of_read {cast : Cast} (h : Cast.read cs = (some cast, rest)) (e : Expression) :
    readCasts e cs = readCasts (.cast e cast.type) rest := by
  rw [readCasts.eq_def]
  split
  · rename_i heq
    rw [h] at heq
    cases heq
    rfl
  · rename_i heq
    rw [h] at heq
    cases heq

/-- Where no colon follows, there is no cast. -/
lemma readCasts_of_stopsAt (h : StopsAt (· == ':') cs) (e : Expression) :
    readCasts e cs = (e, cs) := by
  have hnone : (Cast.read cs).1 = none := by
    rw [Cast.read.eq_def]
    split
    · exact absurd (h ':' rfl) (by decide)
    · rfl
  rw [readCasts.eq_def]
  split
  · rename_i heq
    rw [heq] at hnone
    cases hnone
  · rfl

/-! ## Terms -/

/-- A text that is an operand with casts of its own.  What follows it can only be further casts of
the whole. -/
structure IsTerm (text : List Char) (e : Expression) : Prop where
  head : ∃ c r, text = c :: r ∧ isBlank c = false ∧ isSign c = false ∧ c ≠ ']'
  isSigned_eq : e.isSigned = false
  reads : ∀ depth, text.length ≤ depth → ∀ next, Follows next →
    readTerm (read depth) (text ++ next) = some (readCasts e next)

/-- A text that is a term, or one behind a sign. -/
inductive IsExpression : List Char → Expression → Prop
  | term {text : List Char} {e : Expression} (h : IsTerm text e) : IsExpression text e
  | signed {sign : Char} {text : List Char} {e : Expression} (hsign : isSign sign = true)
      (h : IsTerm text e) : IsExpression (sign :: text) (.signed sign e)

lemma not_isBlank_of_isSign (h : isSign c = true) : isBlank c = false := by
  rw [isSign, Bool.or_eq_true, beq_iff_eq, beq_iff_eq] at h
  rcases h with rfl | rfl
  · decide
  · decide

lemma underSign_of_isSigned_eq (h : e.isSigned = false) (f : Expression → Expression) :
    e.underSign f = f e := by
  cases e with
  | signed sign operand => cases h
  | _ => rfl

/-- What follows an expression goes to its operand, and a sign stays outside. -/
lemma IsExpression.read_append (h : IsExpression w e) (hdepth : w.length < depth)
    (hnext : Follows next) (hcasts : ∀ e, readCasts e next = (f e, rest)) :
    read depth (w ++ next) = some (e.underSign f, rest) := by
  obtain ⟨depth, rfl⟩ := Nat.exists_eq_add_one_of_ne_zero (Nat.ne_zero_of_lt hdepth)
  rw [read, readSigned]
  cases h with
  | term h =>
    obtain ⟨c, r, rfl, hblank, hsign, -⟩ := h.head
    have hskip : skipBlanks (c :: r ++ next) = c :: (r ++ next) :=
      (stopsAt_cons hblank _).skipBlanks_eq
    have hread := h.reads depth (by omega) next hnext
    rw [List.cons_append] at hread
    rw [hskip]
    dsimp only
    rw [hsign, if_neg Bool.false_ne_true, hread, hcasts, underSign_of_isSigned_eq h.isSigned_eq]
  | @signed sign text e hsign h =>
    have hskip : skipBlanks (sign :: text ++ next) = sign :: (text ++ next) :=
      (stopsAt_cons (not_isBlank_of_isSign hsign) _).skipBlanks_eq
    have hread := h.reads depth (by rw [List.length_cons] at hdepth; omega) next hnext
    rw [hskip]
    dsimp only
    rw [if_pos hsign, hread, hcasts]
    rfl

lemma underSign_id (e : Expression) : e.underSign (fun e => e) = e := by
  cases e <;> rfl

/-- An item of an array is read where the array goes on or ends. -/
lemma IsExpression.reads (h : IsExpression w e) (hdepth : w.length < depth) :
    Json.Reads (read depth) ']' w e := by
  intro next hnext
  have hstop : StopsAt (· == ':') next := by
    obtain ⟨c, r, rfl, rfl | rfl⟩ := hnext
    · exact stopsAt_cons (by decide) r
    · exact stopsAt_cons (by decide) r
  rw [h.read_append hdepth (follows_of_closes hnext) (readCasts_of_stopsAt hstop), underSign_id]

/-- An expression is read whole. -/
lemma IsExpression.read?_eq (h : IsExpression w e) : read? w = some e := by
  have hfollows : Follows [] := nofun
  have hread := h.read_append (Nat.lt_add_one _) hfollows (readCasts_of_stopsAt (stopsAt_nil _))
  rw [List.append_nil, underSign_id] at hread
  rw [read?, hread]

/-- With a cast behind it, an expression has the cast around its operand. -/
lemma IsExpression.read?_cast (h : IsExpression w e)
    (htype : Cast.readType cs = some (type, rest)) :
    read? (w ++ ':' :: ':' :: type) = some (e.underSign (.cast · type)) := by
  have hfollows : Follows (':' :: ':' :: type) := by
    rintro c ⟨⟩
    decide
  have hcast := Cast.read_append htype (.inl rfl)
  rw [List.append_nil] at hcast
  have hcasts : ∀ e, readCasts e (':' :: ':' :: type) = (.cast e type, []) := fun e => by
    rw [readCasts_of_read hcast, readCasts_of_stopsAt (stopsAt_nil _)]
  have hdepth : w.length < (w ++ ':' :: ':' :: type).length + 1 := by
    rw [List.length_append]
    omega
  rw [read?, h.read_append hdepth hfollows hcasts]

/-- An expression has a sign before it where its text begins with one. -/
lemma IsExpression.head?_isSign_iff (h : IsExpression w e) :
    (∃ s ∈ w.head?, isSign s = true) ↔ e.isSigned = true := by
  cases h with
  | term h =>
    obtain ⟨s, r, rfl, -, hs, -⟩ := h.head
    simp [hs, h.isSigned_eq]
  | signed hsign h => exact iff_of_true ⟨_, rfl, hsign⟩ rfl

/-! ## Keywords and numbers -/

lemma readOperand_of_ne_quote (h : StopsAt (· == '\'') cs) (item : Reader Expression) :
    readOperand item cs =
      match cs.dropWhile (!isDelimiter ·) with
      | '[' :: r =>
        if cs.takeWhile (!isDelimiter ·) = "ARRAY".toList then
          (Json.readList item ']' r).map fun p => (.array p.1, p.2)
        else none
      | rest =>
        if isToken (cs.takeWhile (!isDelimiter ·)) then
          some (.token (cs.takeWhile (!isDelimiter ·)), rest)
        else none := by
  rw [readOperand.eq_2]
  rintro r rfl
  exact absurd (h '\'' rfl) (by decide)

/-- A word of keywords and numbers is an operand. -/
lemma isTerm_token (hhead : ∃ c r, w = c :: r ∧ isSign c = false)
    (hw : ∀ c ∈ w, isDelimiter c = false) (htoken : isToken w = true) : IsTerm w (.token w) := by
  obtain ⟨c, r, rfl, hsign⟩ := hhead
  have hc := hw c (List.mem_cons_self ..)
  have hblank : isBlank c = false := (Bool.or_eq_false_iff.mp hc).1
  have hne : ∀ d, isDelimiter d = true → c ≠ d := by
    rintro d hd rfl
    rw [hc] at hd
    cases hd
  refine ⟨⟨c, r, rfl, hblank, hsign, hne _ (by decide)⟩, rfl, ?_⟩
  intro depth _ next hnext
  have hstop : StopsAt (!isDelimiter ·) next := hnext.stopsAt (by decide)
  have hall : ∀ d ∈ c :: r, (!isDelimiter d) = true := by simpa using hw
  have hquote : StopsAt (· == '\'') (c :: r ++ next) := by
    rintro d ⟨⟩
    exact beq_eq_false_iff_ne.mpr (hne '\'' (by decide))
  have hoperand : readOperand (read depth) (c :: r ++ next) = some (.token (c :: r), next) := by
    rw [readOperand_of_ne_quote hquote, takeWhile_append_of_stopsAt hall hstop,
      dropWhile_append_of_stopsAt hall hstop]
    split
    · exact absurd (hnext '[' rfl) (by decide)
    · exact if_pos htoken
  rw [readTerm, hoperand, Option.map_some]

lemma isTerm_keyword (h : w ∈ keywords) : IsTerm w (.token w) := by
  simp only [keywords, List.mem_cons, List.not_mem_nil, or_false] at h
  rcases h with rfl | rfl | rfl
  · exact isTerm_token ⟨'N', _, rfl, by decide⟩ (eq_false_of_any (by decide)) (by decide)
  · exact isTerm_token ⟨'T', _, rfl, by decide⟩ (eq_false_of_any (by decide)) (by decide)
  · exact isTerm_token ⟨'F', _, rfl, by decide⟩ (eq_false_of_any (by decide)) (by decide)

lemma not_isDelimiter_of_isDigit (h : isDigit c = true) : isDelimiter c = false := by
  by_contra hdelimiter
  rw [Bool.not_eq_false, isDelimiter, Bool.or_eq_true, List.contains_iff_mem] at hdelimiter
  have hnone : isDigit c = false := by
    rcases hdelimiter with hblank | hmem
    · exact Cast.not_isDigit_of_isBlank c hblank
    · exact eq_false_of_any (by decide) c hmem
  rw [hnone] at h
  cases h

/-- A number without a sign is an operand. -/
lemma isTerm_mantissa {mantissa scale : List Char} (hmantissa : IsMantissa isDigit mantissa)
    (hscale : IsScale isDigit scale) : IsTerm (mantissa ++ scale) (.token (mantissa ++ scale)) := by
  have hstop := hmantissa.stopsAt_sign scale
  have hnumber := isNumber_append (.inl rfl) hmantissa hscale
  have hdrop := dropSign_append (.inl rfl) hstop
  rw [List.nil_append] at hnumber hdrop
  have hnumeral := isNumber_iff.mp hnumber
  have hne : mantissa ++ scale ≠ [] := by
    intro hnil
    rw [hnil] at hnumber
    cases hnumber
  obtain ⟨c, r, hcs⟩ := List.exists_cons_of_ne_nil hne
  refine isTerm_token ⟨c, r, hcs, hstop c (by rw [hcs]; rfl)⟩ ?_ ?_
  · intro c hc
    rcases hnumeral.mem hc with hdigit | hmark
    · exact not_isDelimiter_of_isDigit hdigit
    · exact eq_false_of_any (by decide) c hmark
  · rw [isToken, hnumber, hdrop, beq_self_eq_true, Bool.and_self, Bool.or_true]

/-- The sign of a number, where it has one, is a sign before an operand. -/
lemma exists_numeral (h : IsNumeral isDigit cs) :
    ∃ e, IsExpression cs e ∧ (e.isSigned = true ↔ ∃ c ∈ cs.head?, isSign c = true) := by
  obtain ⟨sign, mantissa, scale, hsign, hmantissa, hscale, rfl⟩ := h
  have hterm := isTerm_mantissa hmantissa hscale
  rcases hsign with rfl | rfl | rfl
  · refine ⟨_, .term hterm, ?_⟩
    obtain ⟨c, r, hcs, -, hc, -⟩ := hterm.head
    rw [hterm.isSigned_eq, List.nil_append, hcs]
    simp [hc]
  · exact ⟨_, .signed (by decide) hterm, iff_of_true rfl ⟨'+', rfl, by decide⟩⟩
  · exact ⟨_, .signed (by decide) hterm, iff_of_true rfl ⟨'-', rfl, by decide⟩⟩

/-! ## Strings -/

lemma readTerm_quoted (hnext : StopsAt (· == '\'') next) (item : Reader Expression)
    (chars : List Char) :
    readTerm item ('\'' :: (doubleQuotes chars ++ '\'' :: next)) =
      some (readCasts (.string chars) next) := by
  rw [readTerm, readOperand, readQuoted_doubleQuotes hnext]
  rfl

lemma isTerm_string (chars : List Char) :
    IsTerm ('\'' :: (doubleQuotes chars ++ ['\''])) (.string chars) := by
  refine ⟨⟨_, _, rfl, by decide, by decide, by decide⟩, rfl, ?_⟩
  intro depth _ next hnext
  rw [List.cons_append, List.append_assoc, List.singleton_append, readTerm_quoted hnext.quote]

lemma isTerm_quoted (s : String) : IsTerm (quoted s).toList (.string s.toList) := by
  rw [toList_quoted]
  exact isTerm_string s.toList

/-- A string with the name of its type behind it is an operand with its cast. -/
lemma isTerm_typed (hname : isName type = true) (chars : List Char) :
    IsTerm (typed chars type) (.cast (.string chars) type) := by
  refine ⟨⟨_, _, rfl, by decide, by decide, by decide⟩, rfl, ?_⟩
  intro depth _ next hnext
  have hquote : StopsAt (· == '\'') (':' :: ':' :: (type ++ next)) := stopsAt_cons (by decide) _
  have htext : typed chars type ++ next =
      '\'' :: (doubleQuotes chars ++ '\'' :: ':' :: ':' :: (type ++ next)) := by
    simp [typed]
  rw [htext, readTerm_quoted hquote, readCasts_of_read (castRead_name hname hnext)]

/-! ## Arrays -/

/-- The blanks between items are skipped. -/
lemma read_gap (depth : ℕ) (cs : List Char) : read depth ([' '] ++ cs) = read depth cs := by
  cases depth with
  | zero => rfl
  | succ depth =>
    have hskip : skipBlanks ([' '] ++ cs) = skipBlanks cs := rfl
    rw [read, readSigned, readSigned, hskip]

lemma IsExpression.head (h : IsExpression w e) :
    ∃ c r, w = c :: r ∧ isBlank c = false ∧ c ≠ ']' := by
  cases h with
  | term h =>
    obtain ⟨c, r, hw, hblank, -, hclose⟩ := h.head
    exact ⟨c, r, hw, hblank, hclose⟩
  | signed hsign h =>
    refine ⟨_, _, rfl, not_isBlank_of_isSign hsign, ?_⟩
    rintro rfl
    cases hsign

section Arrays

variable {texts : List String} {es : List Expression}

/-- The texts of items and the expressions that they are. -/
abbrev AreExpressions (texts : List String) (es : List Expression) : Prop :=
  List.Forall₂ (fun text e => IsExpression text.toList e) texts es

lemma AreExpressions.reads (h : AreExpressions texts es)
    (hdepth : ∀ text ∈ texts, text.toList.length < depth) :
    List.Forall₂ (Json.Reads (read depth) ']') (texts.map String.toList) es := by
  induction h with
  | nil => exact .nil
  | cons hitem _ ih =>
    rw [List.forall_mem_cons] at hdepth
    exact .cons (hitem.reads hdepth.1) (ih hdepth.2)

lemma AreExpressions.heads (h : AreExpressions texts es) :
    ∀ text ∈ texts, ∃ c r, text.toList = c :: r ∧ isBlank c = false ∧ c ≠ ']' := by
  induction h with
  | nil => exact nofun
  | cons hitem _ ih => exact List.forall_mem_cons.mpr ⟨hitem.head, ih⟩

/-- Expressions in brackets are an operand, whether they have signs or not. -/
lemma isTerm_array (h : AreExpressions texts es) (hne : texts ≠ []) :
    IsTerm ("ARRAY[" ++ ", ".intercalate texts ++ "]").toList (.array es) := by
  refine ⟨⟨'A', _, toList_array texts, by decide, by decide, by decide⟩, rfl, ?_⟩
  intro depth hdepth next _
  have hreads := h.reads fun text htext => Nat.lt_of_lt_of_le (length_lt_array htext) hdepth
  have hlist := readList_texts (read_gap depth) h.heads hreads hne next
  rw [toList_array, List.append_assoc, List.cons_append, List.append_assoc, List.singleton_append]
  generalize [',', ' '].intercalate (texts.map String.toList) ++ ']' :: next = body at hlist ⊢
  have hquote : StopsAt (· == '\'') ("ARRAY".toList ++ '[' :: body) := stopsAt_cons (by decide) _
  have hword : ∀ c ∈ "ARRAY".toList, (!isDelimiter c) = true := List.all_eq_true.mp (by decide)
  have hstop : StopsAt (!isDelimiter ·) ('[' :: body) := stopsAt_cons (by decide) _
  have hoperand : readOperand (read depth) ("ARRAY".toList ++ '[' :: body) =
      some (.array es, next) := by
    rw [readOperand_of_ne_quote hquote, takeWhile_append_of_stopsAt hword hstop,
      dropWhile_append_of_stopsAt hword hstop]
    refine (if_pos rfl).trans ?_
    rw [hlist, Option.map_some]
  rw [readTerm, hoperand, Option.map_some]

end Arrays

end Expression

end BulkValues.Postgres
