/-
# Literals and parameters agree

A value can reach SQLite in two ways, as a literal in the text of a statement and as a parameter.
Each literal is one lexeme, or a number behind its sign, and stands for what is stored for the
parameter.
-/
import BulkValues.Proofs.Literal.Quoted
import BulkValues.Proofs.Number.PointZero
import BulkValues.Proofs.Text.Hex
import BulkValues.Proofs.Text.Stops
import BulkValues.Proofs.Value.NullFree
import BulkValues.Record.Basic
import BulkValues.Sqlite.Statement

namespace BulkValues.Sqlite

open BulkValues.Literal BulkValues.Number BulkValues.Text

variable {c : Char} {cs ds es rest : List Char} {kind : LexemeKind} {lit : String} {stored : Stored}
  {negative : Bool}

/-! ## Lexemes -/

namespace Lexeme

/-- A text that is one lexeme. -/
def IsLexeme (kind : LexemeKind) (cs : List Char) : Prop :=
  ∀ offset, readFrom offset cs = [⟨kind, cs, offset⟩]

lemma isLexeme_of_munch (h : munch c rest = (kind, rest.length)) (hkind : kind ≠ .blank) :
    IsLexeme kind (c :: rest) := by
  intro offset
  rw [readFrom, h]
  dsimp only
  rw [if_neg hkind, List.take_length, List.drop_length, readFrom]

/-- A minus sign is a lexeme of its own. -/
lemma readFrom_minus (offset : ℕ) (cs : List Char) :
    readFrom offset ('-' :: cs) = ⟨.symbol, ['-'], offset⟩ :: readFrom (offset + 1) cs := by
  have hmunch : munch '-' cs = (.symbol, 0) := by
    simp [munch, isBlank, isAsciiDigit, isNameStart]
  rw [readFrom, hmunch]
  rfl

lemma closeQuote_doubleQuotes (cs : List Char) :
    closeQuote (doubleQuotes cs ++ ['\'']) = some ((doubleQuotes cs).length + 1) := by
  induction cs with
  | nil => rfl
  | cons c cs ih =>
    rw [doubleQuotes]
    split
    · rw [List.cons_append, List.cons_append, closeQuote, ih]
      rfl
    · rename_i hc
      rw [List.cons_append, closeQuote.eq_3, if_neg hc, ih]
      · rfl
      · rintro r rfl
        exact absurd rfl hc

lemma halveQuotes_doubleQuotes (cs : List Char) : halveQuotes (doubleQuotes cs) = cs := by
  induction cs with
  | nil => rfl
  | cons c cs ih =>
    rw [doubleQuotes]
    split
    · rename_i hc
      rw [halveQuotes, ih, hc]
    · rename_i hc
      rw [halveQuotes.eq_2, ih]
      rintro r rfl
      exact absurd rfl hc

lemma isLexeme_string (cs : List Char) : IsLexeme .text ('\'' :: (doubleQuotes cs ++ ['\''])) := by
  refine isLexeme_of_munch ?_ (by decide)
  simp [munch, isBlank, isAsciiDigit, closeQuote_doubleQuotes]

lemma munchBlob_hexChars (bs : List UInt8) :
    munchBlob (hexChars bs ++ ['\'']) = (.blob, (hexChars bs).length + 1) := by
  have hdigits : (hexChars bs ++ ['\'']).takeWhile (fun c => (hexValue? c).isSome) = hexChars bs :=
    takeWhile_append_of_stopsAt (fun c hc => isSome_hexValue?_of_mem hc)
      (stopsAt_cons (by decide) [])
  have heven : (hexChars bs).length % 2 = 0 := by
    rw [length_hexChars]
    omega
  rw [munchBlob, hdigits, List.drop_left]
  change (if (hexChars bs).length % 2 = 0 then LexemeKind.blob else .broken, _) = _
  rw [if_pos heven]

lemma isLexeme_blob (bs : List UInt8) :
    IsLexeme .blob ('X' :: '\'' :: (hexChars bs ++ ['\''])) := by
  refine isLexeme_of_munch ?_ (by decide)
  simp [munch, isBlank, isAsciiDigit, munchBlob_hexChars]

/-! ## Numbers -/

lemma munch_number (hc : isAsciiDigit c = true)
    (h : munchNumber (c :: rest) = (kind, (c :: rest).length)) :
    munch c rest = (kind, rest.length) := by
  have hblank : isBlank c = false := by
    rw [Bool.eq_false_iff]
    intro hblank
    simp only [isBlank, Bool.or_eq_true, beq_iff_eq] at hblank
    rcases hblank with (((rfl | rfl) | rfl) | rfl) | rfl <;> exact absurd hc (by decide)
  rw [munch, hblank, if_neg Bool.false_ne_true, hc, Bool.true_or, if_pos rfl, h]
  rfl

lemma IsDigits.isLexeme (hds : IsDigits ds) (hcs : cs = ds ++ rest)
    (h : munchNumber cs = (kind, cs.length)) (hkind : kind ≠ .blank) : IsLexeme kind cs := by
  obtain ⟨c, r, rfl⟩ := List.exists_cons_of_ne_nil hds.1
  subst hcs
  exact isLexeme_of_munch (munch_number (hds.2 c (List.mem_cons_self ..)) h) hkind

lemma isLexeme_integer (hds : IsDigits ds) : IsLexeme .integer ds := by
  refine IsDigits.isLexeme hds (List.append_nil ds).symm ?_ (by decide)
  have htake : ds.takeWhile isAsciiDigit = ds := List.takeWhile_eq_self_iff.mpr hds.2
  simp [munchNumber, htake, exponentLength]

lemma isLexeme_real (hds : IsDigits ds) (hes : IsDigits es) :
    IsLexeme .real (ds ++ '.' :: es) := by
  refine IsDigits.isLexeme hds rfl ?_ (by decide)
  have htake : (ds ++ '.' :: es).takeWhile isAsciiDigit = ds :=
    takeWhile_append_of_stopsAt hds.2 (stopsAt_cons (by decide) es)
  have hplaces : es.takeWhile isAsciiDigit = es := List.takeWhile_eq_self_iff.mpr hes.2
  simp [munchNumber, htake, hplaces, exponentLength]

lemma read_eq (h : NullFree lit) : read lit = readFrom 0 lit.toList := by
  rw [read, List.takeWhile_eq_self_iff.mpr]
  intro c hc
  rw [decide_eq_true_eq]
  rintro rfl
  exact h hc

end Lexeme

open Lexeme

/-! ## Literals -/

/-- What a text stands for in a statement, if it is one literal. -/
def Stored.ofLiteral? (lit : String) : Option Stored :=
  match Statement.term (Lexeme.read lit) with
  | .ok (.constant stored, []) => some stored
  | _ => none

/-- A lexeme on its own. -/
lemma ofLiteral?_eq_some (hnull : NullFree lit) (hlit : IsLexeme kind lit.toList)
    (hkind : kind ≠ .symbol) (h : Stored.ofLexeme? false ⟨kind, lit.toList, 0⟩ = some stored) :
    Stored.ofLiteral? lit = some stored := by
  rw [Stored.ofLiteral?, read_eq hnull, hlit 0]
  have hsymbol : ∀ s, (⟨kind, lit.toList, 0⟩ : Lexeme).isSymbol s = false := by
    intro s
    simp [isSymbol, hkind]
  simp [Statement.term, Statement.next, Statement.unsignedTerm, Statement.take, hsymbol, h, bind,
    StateT.bind, Except.bind]

/-- A number behind a minus sign. -/
lemma ofLiteral?_minus (hnull : NullFree lit) (hlit : lit.toList = '-' :: cs)
    (hcs : IsLexeme kind cs) (h : Stored.ofLexeme? true ⟨kind, cs, 1⟩ = some stored) :
    Stored.ofLiteral? lit = some stored := by
  rw [Stored.ofLiteral?, read_eq hnull, hlit, readFrom_minus, hcs]
  have hsymbol : (⟨.symbol, ['-'], 0⟩ : Lexeme).isSymbol "-" = true := by decide
  simp [Statement.term, Statement.next, Statement.symbol, Statement.unsignedTerm, Statement.take,
    hsymbol, h, bind, StateT.bind, Except.bind]

lemma ofLiteral?_null : Stored.ofLiteral? "NULL" = some .null := by
  have hlexeme : IsLexeme .word ['N', 'U', 'L', 'L'] :=
    isLexeme_of_munch (by decide) (by decide)
  exact ofLiteral?_eq_some (by decide) hlexeme (by decide) (by decide)

/-- The value of a string is what is between its quotes. -/
lemma ofLiteral?_quoted {s : String} (h : NullFree s) :
    Stored.ofLiteral? (quoted s) = some (.text s) := by
  have hlit := toList_quoted s
  have hnull : NullFree (quoted s) := by
    rw [NullFree, hlit]
    simpa [mem_doubleQuotes, NullFree] using h
  have hlexeme : IsLexeme .text (quoted s).toList := by
    rw [hlit]
    exact isLexeme_string s.toList
  refine ofLiteral?_eq_some hnull hlexeme (by decide) ?_
  rw [hlit]
  simp [Stored.ofLexeme?, halveQuotes_doubleQuotes]

lemma ofLiteral?_of_quoted {s : String} (hs : NullFree s)
    (h : Except.ok (quoted s) = (.ok lit : Except Error String)) :
    Stored.ofLiteral? lit = some (.text s) := by
  rw [← Except.ok.inj h]
  exact ofLiteral?_quoted hs

lemma ofLiteral?_hexText (bs : List UInt8) :
    Stored.ofLiteral? ("X'" ++ hexText bs ++ "'") = some (.blob bs) := by
  have hlit : ("X'" ++ hexText bs ++ "'").toList = 'X' :: '\'' :: (hexChars bs ++ ['\'']) := by
    simp [toList_hexText]
  have hnull : NullFree ("X'" ++ hexText bs ++ "'") :=
    (NullFree.append (by decide) (nullFree_hexText bs)).append (by decide)
  have hlexeme : IsLexeme .blob ("X'" ++ hexText bs ++ "'").toList := by
    rw [hlit]
    exact isLexeme_blob bs
  refine ofLiteral?_eq_some hnull hlexeme (by decide) ?_
  rw [hlit]
  simp [Stored.ofLexeme?, readHex?_hexChars]

/-- A number behind its sign, whatever its kind is. -/
lemma ofLiteral?_signed (hnull : NullFree lit) (hlit : lit.toList = signed negative cs)
    (hcs : IsLexeme kind cs) (hkind : kind ≠ .symbol)
    (h : ∀ offset, Stored.ofLexeme? negative ⟨kind, cs, offset⟩ = some stored) :
    Stored.ofLiteral? lit = some stored := by
  cases negative with
  | false =>
    rw [signed, if_neg Bool.false_ne_true, List.nil_append] at hlit
    refine ofLiteral?_eq_some hnull ?_ hkind ?_
    · rw [hlit]
      exact hcs
    · rw [hlit]
      exact h 0
  | true => exact ofLiteral?_minus hnull hlit hcs (h 1)

/-- Integers are read whole, also the least one, whose digits alone are none. -/
lemma ofLiteral?_toString (n : Int64) :
    Stored.ofLiteral? (toString n.toInt) = some (.integer n) := by
  have hlit : (toString n.toInt).toList =
      signed (decide (n.toInt < 0)) (Nat.toDigits 10 n.toInt.natAbs) := by
    rw [toList_toString_int, signed]
    simp
  refine ofLiteral?_signed (nullFree_int _) hlit (isLexeme_integer (isDigits_toDigits _))
    (by decide) fun offset => ?_
  have hvalue : (if decide (n.toInt < 0) then -(n.toInt.natAbs : ℤ) else n.toInt.natAbs) =
      n.toInt := by
    simp only [decide_eq_true_eq]
    split
    · omega
    · omega
  have hrange : -(2 ^ 63 : ℤ) ≤ n.toInt ∧ n.toInt < 2 ^ 63 := ⟨n.le_toInt, n.toInt_lt⟩
  rw [Stored.ofLexeme?]
  dsimp only
  rw [digitsValue_toDigits, hvalue, if_pos hrange, Stored.ofInt, if_pos hrange, Int64.ofInt_toInt]

/-! ## Floats -/

/-- The display text of a float is read as the float itself. -/
def ReadsBack (x : Binary64) : Prop := readFloat? x.display = some x

instance (x : Binary64) : Decidable (ReadsBack x) := inferInstanceAs (Decidable (_ = _))

lemma ofLiteral?_float {x : Binary64} (hx : x.isFinite = true) (h : ReadsBack x) :
    Stored.ofLiteral? (float x) = some (.real x) := by
  obtain ⟨ds, es, hds, hes, hlit, -⟩ := toList_float hx
  have hread : Stored.ofFloatText x.isNegative (ds ++ '.' :: es) = .real x := by
    have hsigned := readFloat?_signed hlit (.pointed hds hes)
    rw [readFloat?_float hx, h, readUnsignedFloat?_pointed hds hes] at hsigned
    rw [Stored.ofFloatText, readUnsignedFloat?_pointed hds hes]
    exact congrArg Stored.real (Option.some.inj hsigned).symm
  have hnull : NullFree (float x) := by
    refine nullFree_of_kind (fun c => isAsciiDigit c = true ∨ c ∈ numberMarks) (by decide)
      fun c hc => ?_
    rw [hlit] at hc
    exact mem_signed (IsPositional.pointed hds hes).mem_marks hc
  refine ofLiteral?_signed hnull hlit (isLexeme_real hds hes) (by decide) fun offset => ?_
  rw [Stored.ofLexeme?, hread]

/-- There is one infinity of each sign. -/
lemma eq_infinity {x : Binary64} (h : x.isInfinite = true) :
    x = if x.isNegative then Binary64.infinity.neg else Binary64.infinity := by
  rw [Binary64.isInfinite, Bool.and_eq_true, beq_iff_eq, beq_iff_eq, Binary64.exponent,
    Binary64.fraction] at h
  have hbound := x.bits.toNat_lt
  have hbits : ∀ y : Binary64, x.bits.toNat = y.bits.toNat → x = y := by
    rintro ⟨y⟩ hy
    cases x
    exact congrArg Binary64.mk (UInt64.toNat_inj.mp hy)
  have hnegative : Binary64.infinity.neg.bits.toNat = 0xFFF0000000000000 := by decide
  have hpositive : Binary64.infinity.bits.toNat = 0x7FF0000000000000 := by decide
  rw [Binary64.isNegative]
  simp only [decide_eq_true_eq]
  split
  · refine hbits _ ?_
    rw [hnegative]
    omega
  · refine hbits _ ?_
    rw [hpositive]
    omega

lemma ofLiteral?_infinity {x : Binary64} (h : x.isInfinite = true) :
    Stored.ofLiteral? (if x.isNegative then "-9e999" else "9e999") = some (.real x) := by
  have hlexeme : IsLexeme .real ['9', 'e', '9', '9', '9'] :=
    isLexeme_of_munch (by decide) (by decide)
  rw [eq_infinity h]
  cases x.isNegative with
  | true => exact ofLiteral?_minus (by decide) rfl hlexeme (by decide +kernel)
  | false => exact ofLiteral?_eq_some (by decide) hlexeme (by decide) (by decide +kernel)

lemma ofLiteral?_sqliteFloat {x : Binary64} (hx : x.isFinite = true → ReadsBack x)
    (h : sqliteFloat x = .ok lit) : Stored.ofLiteral? lit = some (Stored.ofFloat x) := by
  rw [sqliteFloat] at h
  split at h
  · cases h
  · rename_i hnan
    rw [Stored.ofFloat, if_neg hnan]
    split at h
    · rename_i hinfinite
      cases h
      exact ofLiteral?_infinity hinfinite
    · rename_i hinfinite
      cases h
      have hfinite := isFinite_of_not hnan hinfinite
      exact ofLiteral?_float hfinite (hx hfinite)

/-! ## Values -/

/-- The float of a value, in 64 bits. -/
def floatOf? : Value → Option Binary64
  | .float32 x => some x.widen
  | .float64 x => some x
  | _ => none

/-- **A literal stands for what the parameter would store.**  Whatever the literal of a value is,
after a mapping has become a document, SQLite reads it as the value that it stores when the value
itself is bound.  Decimals are left out, since their literals are numbers and their parameters text,
and strings with a null character, at which the text of a statement ends. -/
theorem ofLiteral?_literal {v : Value} (hdecimal : ∀ text, v ≠ .decimal text)
    (hstring : ∀ s, v = .string s → NullFree s)
    (hfloat : ∀ x, floatOf? v = some x → x.isFinite = true → ReadsBack x)
    (h : Dialect.sqlite.literal (Record.adaptValue v) = .ok lit) :
    Stored.ofLiteral? lit = some (Stored.ofValue v) := by
  cases v with
  | null =>
    cases h
    exact ofLiteral?_null
  | bool b =>
    cases h
    cases b with
    | true => exact ofLiteral?_toString 1
    | false => exact ofLiteral?_toString 0
  | int16 n =>
    cases h
    rw [← Int16.toInt_toInt64]
    exact ofLiteral?_toString n.toInt64
  | int32 n =>
    cases h
    rw [← Int32.toInt_toInt64]
    exact ofLiteral?_toString n.toInt64
  | int64 n =>
    cases h
    exact ofLiteral?_toString n
  | float32 x => exact ofLiteral?_sqliteFloat (hfloat _ rfl) h
  | float64 x => exact ofLiteral?_sqliteFloat (hfloat _ rfl) h
  | decimal text => exact absurd rfl (hdecimal text)
  | string s => exact ofLiteral?_of_quoted (hstring s rfl) h
  | bytes bs =>
    cases h
    exact ofLiteral?_hexText bs
  | uuid u => exact ofLiteral?_of_quoted u.nullFree_text h
  | date d => exact ofLiteral?_of_quoted d.nullFree_text h
  | time t => exact ofLiteral?_of_quoted t.nullFree_text h
  | dateTime t => exact ofLiteral?_of_quoted t.nullFree_text h
  | instant t => exact ofLiteral?_of_quoted (Value.nullFree_instantText t) h
  | json doc => exact ofLiteral?_of_quoted (Json.nullFree_text doc) h
  | array items => exact ofLiteral?_of_quoted (Json.nullFree_text _) h
  | map fields => exact ofLiteral?_of_quoted (Json.nullFree_text _) h

/-- The float nearest to -0.1 is read back from its literal. -/
theorem ofLiteral?_literal_tenth :
    let v : Value := .float64 ⟨0xBFB999999999999A⟩
    ((∀ text, v ≠ .decimal text) ∧ (∀ s, v = .string s → NullFree s) ∧
      (∀ x, floatOf? v = some x → x.isFinite = true → ReadsBack x) ∧
      Dialect.sqlite.literal (Record.adaptValue v) = .ok "-0.1") ∧
    Stored.ofLiteral? "-0.1" = some (Stored.ofValue v) := by
  intro v
  have hfloat : ∀ x, floatOf? v = some x → x.isFinite = true → ReadsBack x := by
    rintro _ ⟨⟩ -
    decide +kernel
  have hliteral : Dialect.sqlite.literal (Record.adaptValue v) = .ok "-0.1" := by
    have htext : float ⟨0xBFB999999999999A⟩ = "-0.1" := by decide +kernel
    change sqliteFloat ⟨0xBFB999999999999A⟩ = .ok "-0.1"
    rw [sqliteFloat, if_neg (by decide), if_neg (by decide), htext]
  refine ⟨⟨nofun, nofun, hfloat, hliteral⟩, ?_⟩
  exact ofLiteral?_literal nofun nofun hfloat hliteral

/-- A mapping with a quote and a null character in it. -/
example : Dialect.sqlite.literal (Record.adaptValue (.map [("it's", .string "\x00")])) =
    .ok "'\x7b\"it''s\":\"\\u0000\"\x7d'" := by rfl

end BulkValues.Sqlite
