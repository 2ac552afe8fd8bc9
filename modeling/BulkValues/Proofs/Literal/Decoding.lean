/-
# Literals read back

What a literal holds is read from its text by the lexical rules of the dialect: a string ends at a
single quote, and a quote within it is written twice while a backslash is a character like any
other; bytes are hexadecimal digits in a string with a mark before it or a cast behind it; booleans
are keywords or digits; an array is a list in brackets, whose items show what they are.

The reader of a literal is told what kind of literal to expect.  It could not know by itself: in
PostgreSQL the literal of some bytes is also that of a string with a cast behind it, and in SQLite
a truth value is a number.
-/
import BulkValues.Proofs.Except
import BulkValues.Proofs.Json.Items
import BulkValues.Proofs.Literal.Quoted
import BulkValues.Proofs.Number.Digits
import BulkValues.Proofs.Text.Hex
import BulkValues.Proofs.Text.Stops

namespace BulkValues.Literal

open BulkValues.Number BulkValues.Text

/-- What a literal holds. -/
inductive Content where
  | boolean (b : Bool)
  | integer (n : ℤ)
  | text (s : String)
  | bytes (bs : List UInt8)
  | array (items : List Content)

/-- The kinds of literals. -/
inductive Kind where
  | boolean
  | integer
  | text
  | bytes
  /-- A document: its text, with a type of its own where the dialect has one. -/
  | document
  | array
deriving DecidableEq, Repr

/-! ## Reading -/

/-- A reader takes characters from the front of a text and returns what they hold with the
characters left. -/
abbrev Reader (α : Type) := List Char → Option (α × List Char)

/-- The word at the front of a text, as long as it can be. -/
def readWord (cs : List Char) : List Char × List Char :=
  (cs.takeWhile isWord, cs.dropWhile isWord)

/-- A truth value that is one of two words. -/
def readBoolean (yes no : List Char) : Reader Content := fun cs =>
  let (word, rest) := readWord cs
  if word = yes then some (.boolean true, rest)
  else if word = no then some (.boolean false, rest)
  else none

/-- An integer: digits, which may have a minus sign. -/
def readInteger : Reader Content
  | '-' :: r => (readDigits? (readWord r).1).map fun n : ℕ => (.integer (-n), (readWord r).2)
  | cs => (readDigits? (readWord cs).1).map fun n : ℕ => (.integer n, (readWord cs).2)

/-- The characters of a string after its opening quote. -/
def readQuoted : Reader (List Char)
  | [] => none
  | '\'' :: '\'' :: r => (readQuoted r).map fun p => ('\'' :: p.1, p.2)
  | c :: r => if c = '\'' then some ([], r) else (readQuoted r).map fun p => (c :: p.1, p.2)

/-- The name of a type after two colons. -/
def readCast : Reader (List Char)
  | ':' :: ':' :: r => some (readWord r)
  | _ => none

/-- What a string with a cast behind it holds, for the types that literals are cast to. -/
def castContent (chars type : List Char) : Option Content :=
  if type = "bytea".toList then
    match chars with
    | '\\' :: 'x' :: digits => (readHex? digits).map .bytes
    | _ => none
  else if type = "jsonb".toList then some (.text (String.ofList chars))
  else none

/-- A string. -/
def readText : Reader Content
  | '\'' :: r => (readQuoted r).map fun p => (.text (String.ofList p.1), p.2)
  | _ => none

/-- Bytes: the digits in a string behind the letter X. -/
def readMarked : Reader Content
  | 'X' :: '\'' :: r => do
    let (digits, rest) ← readQuoted r
    let bs ← readHex? digits
    pure (.bytes bs, rest)
  | _ => none

/-- A string with a cast to the given type behind it. -/
def readTyped (type : List Char) : Reader Content
  | '\'' :: r => do
    let (chars, r) ← readQuoted r
    let (name, rest) ← readCast r
    if name = type then (castContent chars name).map (·, rest) else none
  | _ => none

/-- An array of items, which are each read by `item`. -/
def readArray (item : Reader Content) : Reader Content := fun cs =>
  match readWord cs with
  | (word, '[' :: r) =>
    if word = "ARRAY".toList then (Json.readList item ']' r).map fun p => (.array p.1, p.2)
    else none
  | _ => none

/-- An item of an array, in which arrays are nested at most `depth` deep.  No cast follows an
item, so that a cast behind a string belongs to it. -/
def readItem : ℕ → Reader Content
  | depth, cs =>
    match skipBlanks cs with
    | '\'' :: r => do
      let (chars, r) ← readQuoted r
      match readCast r with
      | some (name, rest) => (castContent chars name).map (·, rest)
      | none => some (.text (String.ofList chars), r)
    | 'A' :: r =>
      match depth with
      | 0 => none
      | depth + 1 => readArray (readItem depth) ('A' :: r)
    | 'T' :: r => readBoolean "TRUE".toList "FALSE".toList ('T' :: r)
    | 'F' :: r => readBoolean "TRUE".toList "FALSE".toList ('F' :: r)
    | r => readInteger r

/-- A literal of a kind in a dialect. -/
def read : Dialect → Kind → Reader Content
  | .sqlite, .boolean => readBoolean ['1'] ['0']
  | _, .boolean => readBoolean "TRUE".toList "FALSE".toList
  | _, .integer => readInteger
  | _, .text => readText
  | .postgres, .bytes => readTyped "bytea".toList
  | _, .bytes => readMarked
  | .postgres, .document => readTyped "jsonb".toList
  | _, .document => readText
  | .postgres, .array => fun cs => readArray (readItem cs.length) cs
  | _, .array => fun _ => none

/-! ## What literals should hold -/

/-- The kind of literal that a value is written as. -/
def kind? : Value → Option Kind
  | .bool _ => some .boolean
  | .int16 _ | .int32 _ | .int64 _ => some .integer
  | .string _ | .uuid _ | .date _ | .time _ | .dateTime _ | .instant _ => some .text
  | .bytes _ => some .bytes
  | .json _ => some .document
  | .array _ => some .array
  | .null | .float32 _ | .float64 _ | .decimal _ | .map _ => none

mutual

/-- What the literal of a value should hold: dates, identifiers and documents as their text. -/
def content? : Value → Option Content
  | .bool b => some (.boolean b)
  | .int16 n => some (.integer n.toInt)
  | .int32 n => some (.integer n.toInt)
  | .int64 n => some (.integer n.toInt)
  | .string s => some (.text s)
  | .bytes bs => some (.bytes bs)
  | .uuid u => some (.text u.text)
  | .date d => some (.text d.text)
  | .time t => some (.text t.text)
  | .dateTime t => some (.text t.text)
  | .instant t => some (.text (Value.instantText t))
  | .json doc => some (.text doc.text)
  | .array items => (contents? items).map .array
  | .null | .float32 _ | .float64 _ | .decimal _ | .map _ => none

/-- `content?` item by item. -/
def contents? : List Value → Option (List Content)
  | [] => some []
  | item :: rest => do
    let c ← content? item
    let cs ← contents? rest
    pure (c :: cs)

end

/-- The values that a dialect has exact literals for: all kinds but null, floats and decimals,
and in PostgreSQL arrays of such values that are not empty. -/
inductive Exact (d : Dialect) : Value → Prop
  | scalar {v : Value} {k : Kind} (hkind : kind? v = some k) (hk : k ≠ .array) : Exact d v
  | array {items : List Value} (hd : d = .postgres) (hne : items ≠ [])
      (hitems : ∀ item ∈ items, Exact d item) : Exact d (.array items)

/-- What may follow a literal: nothing, or a text that begins with a comma, a closing parenthesis
or bracket, or the colon of a cast. -/
def Follows (next : List Char) : Prop := ∀ c ∈ next.head?, c ∈ [',', ')', ']', ':']

variable {c : Char} {cs next digits : List Char} {s : String} {n depth : ℕ} {z : ℤ}
  {v : Value} {d : Dialect}

lemma Follows.stopsAt {kind : Char → Bool} (h : Follows next)
    (hkind : [',', ')', ']', ':'].any kind = false) : StopsAt kind next :=
  fun c hc => eq_false_of_any hkind c (h c hc)

lemma Follows.isWord (h : Follows next) : StopsAt isWord next := h.stopsAt (by decide)

lemma Follows.quote (h : Follows next) : StopsAt (· == '\'') next := h.stopsAt (by decide)

/-- Where a list of items goes on, a literal may end. -/
lemma follows_of_closes (h : Json.Closes ']' next) : Follows next := by
  obtain ⟨c, r, rfl, rfl | rfl⟩ := h
  · rintro _ ⟨⟩
    decide
  · rintro _ ⟨⟩
    decide

/-! ## Words and integers -/

lemma readWord_append (hcs : cs.all isWord = true) (hnext : StopsAt isWord next) :
    readWord (cs ++ next) = (cs, next) := by
  have hcs := List.all_eq_true.mp hcs
  exact Prod.ext (takeWhile_append_of_stopsAt hcs hnext) (dropWhile_append_of_stopsAt hcs hnext)

/-- Of two words the first stands for what is true. -/
lemma readBoolean_append {yes no : List Char} (hyes : yes.all isWord = true)
    (hno : no.all isWord = true) (hne : no ≠ yes) (hnext : StopsAt isWord next) (b : Bool) :
    readBoolean yes no ((if b then yes else no) ++ next) = some (.boolean b, next) := by
  cases b with
  | true =>
    rw [if_pos rfl, readBoolean, readWord_append hyes hnext]
    exact if_pos rfl
  | false =>
    rw [if_neg Bool.false_ne_true, readBoolean, readWord_append hno hnext]
    dsimp only
    rw [if_neg hne, if_pos rfl]

lemma readBoolean_keyword (hnext : StopsAt isWord next) (b : Bool) :
    readBoolean "TRUE".toList "FALSE".toList ((if b then "TRUE" else "FALSE").toList ++ next) =
      some (.boolean b, next) := by
  rw [apply_ite String.toList]
  exact readBoolean_append (by decide) (by decide) (by decide) hnext b

lemma isWord_of_isAsciiDigit (h : isAsciiDigit c = true) : isWord c = true := by
  have hdigit : '0' ≤ c ∧ c ≤ '9' := by simpa [isAsciiDigit] using h
  have hlt : c.toNat < 0x80 := Nat.lt_of_le_of_lt hdigit.2 (by decide)
  rw [isWord, if_pos hlt, h, Bool.or_true]

lemma readWord_toDigits (hnext : StopsAt isWord next) (n : ℕ) :
    readWord (Nat.toDigits 10 n ++ next) = (Nat.toDigits 10 n, next) := by
  refine readWord_append (List.all_eq_true.mpr fun c hc => ?_) hnext
  exact isWord_of_isAsciiDigit (isAsciiDigit_of_mem_toDigits hc)

/-- An integer is read whole. -/
lemma readInteger_toString (hnext : StopsAt isWord next) (z : ℤ) :
    readInteger ((toString z).toList ++ next) = some (.integer z, next) := by
  rw [toList_toString_int]
  by_cases hz : z < 0
  · have hvalue : -(z.natAbs : ℤ) = z := by omega
    rw [if_pos hz, List.append_assoc, List.singleton_append, readInteger,
      readWord_toDigits hnext, readDigits?_toDigits, Option.map_some, hvalue]
  · rw [if_neg hz, List.nil_append]
    have hread : readInteger (Nat.toDigits 10 z.natAbs ++ next) =
        (readDigits? (readWord (Nat.toDigits 10 z.natAbs ++ next)).1).map fun n : ℕ =>
          (.integer n, (readWord (Nat.toDigits 10 z.natAbs ++ next)).2) := by
      obtain ⟨c, r, hr, hc⟩ := exists_toDigits z.natAbs
      rw [hr, List.cons_append, readInteger.eq_2]
      rintro r' ⟨⟩
      exact absurd hc (by decide)
    have hvalue : (z.natAbs : ℤ) = z := by omega
    rw [hread, readWord_toDigits hnext, readDigits?_toDigits, Option.map_some, hvalue]

/-! ## Strings -/

/-- A string ends at its closing quote, and a quote written twice is one. -/
lemma readQuoted_doubleQuotes (hnext : StopsAt (· == '\'') next) (cs : List Char) :
    readQuoted (doubleQuotes cs ++ '\'' :: next) = some (cs, next) := by
  induction cs with
  | nil =>
    rw [doubleQuotes, List.nil_append, readQuoted.eq_def]
    split
    · rename_i heq
      cases heq
    · rename_i r heq
      rw [(List.cons_eq_cons.mp heq).2] at hnext
      exact absurd (hnext '\'' rfl) (by decide)
    · rename_i heq
      obtain ⟨rfl, rfl⟩ := List.cons_eq_cons.mp heq
      exact if_pos rfl
  | cons c cs ih =>
    rw [doubleQuotes]
    split
    · rename_i hc
      rw [List.cons_append, List.cons_append, readQuoted, ih, hc]
      rfl
    · rename_i hc
      rw [List.cons_append, readQuoted.eq_3 _ _ (fun _ hquote _ => hc hquote), if_neg hc, ih]
      rfl

lemma readText_quoted (hnext : StopsAt (· == '\'') next) (s : String) :
    readText ((quoted s).toList ++ next) = some (.text s, next) := by
  rw [toList_quoted, List.cons_append, List.append_assoc, List.singleton_append, readText,
    readQuoted_doubleQuotes hnext, Option.map_some, String.ofList_toList]

lemma readQuoted_of_not_mem (h : '\'' ∉ cs) (hnext : StopsAt (· == '\'') next) :
    readQuoted (cs ++ '\'' :: next) = some (cs, next) := by
  have hread := readQuoted_doubleQuotes hnext cs
  rwa [doubleQuotes_of_not_mem h] at hread

/-! ## Bytes and casts -/

lemma readMarked_hexText (hnext : StopsAt (· == '\'') next) (bs : List UInt8) :
    readMarked (("X'" ++ hexText bs ++ "'").toList ++ next) = some (.bytes bs, next) := by
  have htext : ("X'" ++ hexText bs ++ "'").toList ++ next =
      'X' :: '\'' :: (hexChars bs ++ '\'' :: next) := by
    simp [toList_hexText]
  rw [htext, readMarked, readQuoted_of_not_mem (quote_not_mem_hexChars bs) hnext]
  simp [readHex?_hexChars]

/-- A string with a cast to a type behind it. -/
def typed (chars type : List Char) : List Char :=
  '\'' :: (doubleQuotes chars ++ '\'' :: ':' :: ':' :: type)

lemma castContent_bytea (bs : List UInt8) :
    castContent ('\\' :: 'x' :: hexChars bs) "bytea".toList = some (.bytes bs) := by
  rw [castContent, if_pos rfl, readHex?_hexChars, Option.map_some]

lemma castContent_jsonb (chars : List Char) :
    castContent chars "jsonb".toList = some (.text (String.ofList chars)) := rfl

section Typed

variable {chars type : List Char} {content : Content}

/-- Behind a string the cast is read as far as its word goes. -/
lemma read_typed (chars : List Char) (htype : type.all isWord = true)
    (hnext : StopsAt isWord next) :
    readQuoted (doubleQuotes chars ++ '\'' :: ':' :: ':' :: (type ++ next)) =
        some (chars, ':' :: ':' :: (type ++ next)) ∧
      readCast (':' :: ':' :: (type ++ next)) = some (type, next) := by
  constructor
  · exact readQuoted_doubleQuotes (stopsAt_cons (by decide) _) chars
  · rw [readCast, readWord_append htype hnext]

lemma readTyped_typed (hcontent : castContent chars type = some content)
    (htype : type.all isWord = true) (hnext : StopsAt isWord next) :
    readTyped type (typed chars type ++ next) = some (content, next) := by
  obtain ⟨hquoted, hcast⟩ := read_typed chars htype hnext
  simp [typed, readTyped, hquoted, hcast, hcontent]

end Typed

/-- The two forms of PostgreSQL with a cast. -/
lemma toList_bytea (bs : List UInt8) : ("'\\x" ++ hexText bs ++ "'::bytea").toList =
    typed ('\\' :: 'x' :: hexChars bs) "bytea".toList := by
  have hquote : '\'' ∉ '\\' :: 'x' :: hexChars bs := by
    simp [quote_not_mem_hexChars bs]
  simp [typed, toList_hexText, doubleQuotes_of_not_mem hquote]

lemma toList_jsonb (s : String) :
    (quoted s ++ "::jsonb").toList = typed s.toList "jsonb".toList := by
  simp [typed, toList_quoted]

/-! ## Items of arrays -/

/-- An item shows by its first character what it is. -/
lemma readItem_cons (hc : isBlank c = false) (depth : ℕ) :
    readItem depth (c :: cs) =
      if c = '\'' then
        (readQuoted cs).bind fun p =>
          match readCast p.2 with
          | some (name, rest) => (castContent p.1 name).map (·, rest)
          | none => some (.text (String.ofList p.1), p.2)
      else if c = 'A' then
        match depth with
        | 0 => none
        | depth + 1 => readArray (readItem depth) (c :: cs)
      else if c = 'T' ∨ c = 'F' then readBoolean "TRUE".toList "FALSE".toList (c :: cs)
      else readInteger (c :: cs) := by
  have hskip : skipBlanks (c :: cs) = c :: cs := (stopsAt_cons hc cs).skipBlanks_eq
  rw [readItem, hskip]
  split
  · rename_i heq
    obtain ⟨rfl, rfl⟩ := List.cons_eq_cons.mp heq
    rfl
  · rename_i heq
    obtain ⟨rfl, rfl⟩ := List.cons_eq_cons.mp heq
    rfl
  · rename_i heq
    obtain ⟨rfl, rfl⟩ := List.cons_eq_cons.mp heq
    rfl
  · rename_i heq
    obtain ⟨rfl, rfl⟩ := List.cons_eq_cons.mp heq
    rfl
  · rename_i hquote hA hT hF
    have hquote : c ≠ '\'' := by
      rintro rfl
      exact hquote cs rfl
    have hA : c ≠ 'A' := by
      rintro rfl
      exact hA cs rfl
    have hboolean : ¬(c = 'T' ∨ c = 'F') := by
      rintro (rfl | rfl)
      · exact hT cs rfl
      · exact hF cs rfl
    rw [if_neg hquote, if_neg hA, if_neg hboolean]

/-- The text of an item and what it holds: it is read so where the list goes on or ends, by every
reader that looks deep enough. -/
structure IsItem (text : List Char) (content : Content) : Prop where
  head : ∃ c r, text = c :: r ∧ isBlank c = false ∧ c ≠ ']'
  reads : ∀ depth, text.length ≤ depth → Json.Reads (readItem depth) ']' text content

lemma isItem_quoted (s : String) : IsItem (quoted s).toList (.text s) := by
  rw [toList_quoted]
  refine ⟨⟨_, _, rfl, by decide, by decide⟩, fun depth _ next hnext => ?_⟩
  have hcast : readCast next = none := by
    obtain ⟨c, r, rfl, rfl | rfl⟩ := hnext
    · rfl
    · rfl
  rw [List.cons_append, readItem_cons (by decide), if_pos rfl, List.append_assoc,
    List.singleton_append, readQuoted_doubleQuotes (follows_of_closes hnext).quote]
  simp [hcast]

lemma isItem_typed {chars type : List Char} {content : Content}
    (hcontent : castContent chars type = some content) (htype : type.all isWord = true) :
    IsItem (typed chars type) content := by
  refine ⟨⟨_, _, rfl, by decide, by decide⟩, fun depth _ next hnext => ?_⟩
  obtain ⟨hquoted, hcast⟩ := read_typed chars htype (follows_of_closes hnext).isWord
  rw [typed, List.cons_append, readItem_cons (by decide), if_pos rfl]
  simp [hquoted, hcast, hcontent]

lemma isItem_boolean (b : Bool) :
    IsItem (if b then "TRUE" else "FALSE").toList (.boolean b) := by
  refine ⟨?_, fun depth _ next hnext => ?_⟩
  · cases b with
    | true => exact ⟨'T', _, rfl, by decide, by decide⟩
    | false => exact ⟨'F', _, rfl, by decide, by decide⟩
  · rw [← readBoolean_keyword (follows_of_closes hnext).isWord b]
    cases b with
    | true => exact readItem_cons (by decide) depth
    | false => exact readItem_cons (by decide) depth

/-- No digit is a blank. -/
lemma isItem_integer (z : ℤ) : IsItem (toString z).toList (.integer z) := by
  obtain ⟨c, r, hr, hc⟩ := exists_toString z
  have hblank : isBlank c = false := by
    rcases hc with rfl | hc
    · decide
    · exact isBlank_of_isAsciiDigit hc
  have hother : ∀ d, isAsciiDigit d = false → d ≠ '-' → c ≠ d := by
    rintro d hd hne rfl
    rcases hc with hc | hc
    · exact hne hc
    · rw [hd] at hc
      cases hc
  refine ⟨⟨c, r, hr, hblank, hother _ (by decide) (by decide)⟩, fun depth _ next hnext => ?_⟩
  have hread := readInteger_toString (follows_of_closes hnext).isWord z
  rw [hr, List.cons_append] at hread ⊢
  rw [readItem_cons hblank, if_neg (hother _ (by decide) (by decide)),
    if_neg (hother _ (by decide) (by decide)), if_neg, hread]
  rintro (h | h)
  · exact hother _ (by decide) (by decide) h
  · exact hother _ (by decide) (by decide) h

/-! ## Arrays -/

/-- The blanks between items are skipped. -/
lemma readItem_gap (depth : ℕ) (cs : List Char) :
    readItem depth ([' '] ++ cs) = readItem depth cs := by
  have hskip : skipBlanks ([' '] ++ cs) = skipBlanks cs := rfl
  rw [readItem, readItem, hskip]

/-- The text of an array of PostgreSQL. -/
lemma toList_array (texts : List String) :
    ("ARRAY[" ++ ", ".intercalate texts ++ "]").toList =
      "ARRAY".toList ++ '[' :: ([',', ' '].intercalate (texts.map String.toList) ++ [']']) := by
  simp [String.toList_intercalate]

/-- The blanks of a document are blanks. -/
lemma isSpace_of_isBlank (h : isBlank c = false) : Json.isSpace c = false := by
  rw [Bool.eq_false_iff]
  intro hspace
  simp only [Json.isSpace, Bool.or_eq_true, beq_iff_eq] at hspace
  rcases hspace with ((rfl | rfl) | rfl) | rfl
  · exact absurd h (by decide)
  · exact absurd h (by decide)
  · exact absurd h (by decide)
  · exact absurd h (by decide)

/-- Texts with commas between them are read as a list, if each of them is read where the list goes
on or ends. -/
lemma readList_texts {α : Type} {item : Reader α} {texts : List String} {xs : List α}
    (hgap : ∀ cs, item ([' '] ++ cs) = item cs)
    (hhead : ∀ text ∈ texts, ∃ c r, text.toList = c :: r ∧ isBlank c = false ∧ c ≠ ']')
    (h : List.Forall₂ (Json.Reads item ']') (texts.map String.toList) xs) (hne : texts ≠ [])
    (next : List Char) :
    Json.readList item ']' ([',', ' '].intercalate (texts.map String.toList) ++ ']' :: next) =
      some (xs, next) := by
  obtain ⟨text, texts, rfl⟩ := List.exists_cons_of_ne_nil hne
  obtain ⟨c, r, hr, hblank, hclose⟩ := hhead text (List.mem_cons_self ..)
  rw [List.map_cons, hr] at h ⊢
  exact Json.readList_intercalate (by decide) (by decide) hgap (isSpace_of_isBlank hblank) hclose h
    next

section Arrays

variable {texts : List String} {contents : List Content}

/-- The texts of items and what they hold. -/
abbrev AreItems (texts : List String) (contents : List Content) : Prop :=
  List.Forall₂ (fun text content => IsItem text.toList content) texts contents

lemma AreItems.reads (h : AreItems texts contents)
    (hdepth : ∀ text ∈ texts, text.toList.length ≤ depth) :
    List.Forall₂ (Json.Reads (readItem depth) ']') (texts.map String.toList) contents := by
  induction h with
  | nil => exact .nil
  | cons hitem _ ih =>
    rw [List.forall_mem_cons] at hdepth
    exact .cons (hitem.reads depth hdepth.1) (ih hdepth.2)

lemma AreItems.heads (h : AreItems texts contents) :
    ∀ text ∈ texts, ∃ c r, text.toList = c :: r ∧ isBlank c = false ∧ c ≠ ']' := by
  induction h with
  | nil => exact nofun
  | cons hitem _ ih => exact List.forall_mem_cons.mpr ⟨hitem.head, ih⟩

/-- A list of items is read as an array, whatever follows it. -/
lemma readArray_items (h : AreItems texts contents) (hne : texts ≠ [])
    (hdepth : ∀ text ∈ texts, text.toList.length ≤ depth) (next : List Char) :
    readArray (readItem depth) (("ARRAY[" ++ ", ".intercalate texts ++ "]").toList ++ next) =
      some (.array contents, next) := by
  have hlist := readList_texts (readItem_gap depth) h.heads (h.reads hdepth) hne next
  rw [toList_array, List.append_assoc, List.cons_append, List.append_assoc, List.singleton_append]
  generalize [',', ' '].intercalate (texts.map String.toList) ++ ']' :: next = body at hlist ⊢
  have hword : readWord ("ARRAY".toList ++ '[' :: body) = ("ARRAY".toList, '[' :: body) :=
    readWord_append (by decide) (stopsAt_cons (by decide) _)
  rw [readArray, hword]
  refine (if_pos rfl).trans ?_
  rw [hlist, Option.map_some]

/-- Each text of a list is shorter than the array of them. -/
lemma length_lt_array {text : String} (h : text ∈ texts) :
    text.toList.length < ("ARRAY[" ++ ", ".intercalate texts ++ "]").toList.length := by
  have hmem : text.toList ∈ texts.map String.toList := List.mem_map_of_mem h
  have hle : text.toList.length ≤
      ([',', ' '].intercalate (texts.map String.toList)).length := by
    generalize texts.map String.toList = ws at hmem
    induction ws with
    | nil => cases hmem
    | cons w ws ih =>
      cases ws with
      | nil =>
        rw [List.mem_singleton] at hmem
        rw [hmem, List.intercalate_singleton]
      | cons v ws =>
        rw [List.intercalate_cons_cons, List.length_append, List.length_append]
        rcases List.mem_cons.mp hmem with rfl | hmem
        · omega
        · have hrest := ih hmem
          omega
  rw [toList_array]
  simp only [List.length_append, List.length_cons]
  omega

/-- An array of items is an item. -/
lemma isItem_array (h : AreItems texts contents) (hne : texts ≠ []) :
    IsItem ("ARRAY[" ++ ", ".intercalate texts ++ "]").toList (.array contents) := by
  obtain ⟨r, hr⟩ : ∃ r, ("ARRAY[" ++ ", ".intercalate texts ++ "]").toList = 'A' :: r :=
    ⟨_, toList_array texts⟩
  refine ⟨⟨_, r, hr, by decide, by decide⟩, fun depth hdepth next _ => ?_⟩
  obtain ⟨depth, rfl⟩ : ∃ n, depth = n + 1 := by
    rw [hr, List.length_cons] at hdepth
    exact ⟨depth - 1, by omega⟩
  have hitems : ∀ text ∈ texts, text.toList.length ≤ depth := by
    intro text htext
    have hlt := length_lt_array htext
    omega
  have hread := readArray_items h hne hitems next
  rw [hr, List.cons_append] at hread ⊢
  rw [readItem_cons (by decide)]
  exact hread

end Arrays

/-! ## Items of arrays as literals -/

/-- A literal of PostgreSQL that is no array is an item. -/
lemma exists_scalar {k : Kind} (hkind : kind? v = some k) (hk : k ≠ .array) :
    ∃ content text, content? v = some content ∧ postgres v = .ok text ∧
      IsItem text.toList content := by
  cases v with
  | null => cases hkind
  | bool b => exact ⟨_, _, rfl, rfl, isItem_boolean b⟩
  | int16 n => exact ⟨_, _, rfl, rfl, isItem_integer n.toInt⟩
  | int32 n => exact ⟨_, _, rfl, rfl, isItem_integer n.toInt⟩
  | int64 n => exact ⟨_, _, rfl, rfl, isItem_integer n.toInt⟩
  | float32 x => cases hkind
  | float64 x => cases hkind
  | decimal text => cases hkind
  | string s => exact ⟨_, _, rfl, rfl, isItem_quoted s⟩
  | bytes bs =>
    refine ⟨_, _, rfl, rfl, ?_⟩
    rw [toList_bytea]
    exact isItem_typed (castContent_bytea bs) (by decide)
  | uuid u => exact ⟨_, _, rfl, rfl, isItem_quoted u.text⟩
  | date d => exact ⟨_, _, rfl, rfl, isItem_quoted d.text⟩
  | time t => exact ⟨_, _, rfl, rfl, isItem_quoted t.text⟩
  | dateTime t => exact ⟨_, _, rfl, rfl, isItem_quoted t.text⟩
  | instant t => exact ⟨_, _, rfl, rfl, isItem_quoted (Value.instantText t)⟩
  | json doc =>
    have hcontent := castContent_jsonb doc.text.toList
    rw [String.ofList_toList] at hcontent
    refine ⟨_, _, rfl, rfl, ?_⟩
    rw [toList_jsonb]
    exact isItem_typed hcontent (by decide)
  | array items =>
    cases hkind
    exact absurd rfl hk
  | map fields => cases hkind

/-- Where each value has a literal that is an item, all of them have. -/
lemma exists_items {items : List Value}
    (h : ∀ item ∈ items, ∃ content text, content? item = some content ∧
      postgres item = .ok text ∧ IsItem text.toList content) :
    ∃ contents texts, contents? items = some contents ∧ postgresItems items = .ok texts ∧
      AreItems texts contents ∧ texts.length = items.length := by
  induction items with
  | nil => exact ⟨[], [], rfl, rfl, .nil, rfl⟩
  | cons item rest ih =>
    rw [List.forall_mem_cons] at h
    obtain ⟨content, text, hcontent, htext, hitem⟩ := h.1
    obtain ⟨contents, texts, hcontents, htexts, hitems, hlength⟩ := ih h.2
    refine ⟨content :: contents, text :: texts, ?_, ?_, .cons hitem hitems, by simp [hlength]⟩
    · rw [contents?, hcontent, hcontents]
      rfl
    · rw [postgresItems, htext, htexts]
      rfl

lemma exists_array {items : List Value} (hne : items ≠ [])
    (h : ∀ item ∈ items, ∃ content text, content? item = some content ∧
      postgres item = .ok text ∧ IsItem text.toList content) :
    ∃ contents texts, content? (.array items) = some (.array contents) ∧
      postgres (.array items) = .ok ("ARRAY[" ++ ", ".intercalate texts ++ "]") ∧
      AreItems texts contents ∧ texts ≠ [] := by
  obtain ⟨contents, texts, hcontents, htexts, hitems, hlength⟩ := exists_items h
  refine ⟨contents, texts, ?_, ?_, hitems, ?_⟩
  · rw [content?, hcontents, Option.map_some]
  · obtain ⟨item, rest, rfl⟩ := List.exists_cons_of_ne_nil hne
    rw [postgres, htexts]
    rfl
  · rintro rfl
    exact hne (List.length_eq_zero_iff.mp hlength.symm)

/-- Arrays of items are items again, to any depth. -/
lemma exists_item (h : Exact .postgres v) :
    ∃ content text, content? v = some content ∧ postgres v = .ok text ∧
      IsItem text.toList content := by
  induction h with
  | scalar hkind hk => exact exists_scalar hkind hk
  | array _ hne _ ih =>
    obtain ⟨contents, texts, hcontents, htexts, hitems, hne⟩ := exists_array hne ih
    exact ⟨_, _, hcontents, htexts, isItem_array hitems hne⟩

/-! ## Literals -/

section Dialects

variable (d : Dialect)

lemma read_boolean (hnext : Follows next) (b : Bool) : ∃ text, d.literal (.bool b) = .ok text ∧
    read d .boolean (text.toList ++ next) = some (.boolean b, next) := by
  cases d with
  | ansi => exact ⟨_, rfl, readBoolean_keyword hnext.isWord b⟩
  | postgres => exact ⟨_, rfl, readBoolean_keyword hnext.isWord b⟩
  | sqlite =>
    refine ⟨_, rfl, ?_⟩
    rw [apply_ite String.toList]
    exact readBoolean_append (by decide) (by decide) (by decide) hnext.isWord b

lemma read_integer (hnext : Follows next) (z : ℤ) :
    read d .integer ((toString z).toList ++ next) = some (.integer z, next) := by
  cases d with
  | ansi => exact readInteger_toString hnext.isWord z
  | postgres => exact readInteger_toString hnext.isWord z
  | sqlite => exact readInteger_toString hnext.isWord z

lemma read_text (hnext : Follows next) (s : String) :
    read d .text ((quoted s).toList ++ next) = some (.text s, next) := by
  cases d with
  | ansi => exact readText_quoted hnext.quote s
  | postgres => exact readText_quoted hnext.quote s
  | sqlite => exact readText_quoted hnext.quote s

lemma read_bytes (hnext : Follows next) (bs : List UInt8) :
    ∃ text, d.literal (.bytes bs) = .ok text ∧
      read d .bytes (text.toList ++ next) = some (.bytes bs, next) := by
  cases d with
  | ansi => exact ⟨_, rfl, readMarked_hexText hnext.quote bs⟩
  | sqlite => exact ⟨_, rfl, readMarked_hexText hnext.quote bs⟩
  | postgres =>
    refine ⟨_, rfl, ?_⟩
    rw [toList_bytea]
    exact readTyped_typed (castContent_bytea bs) (by decide) hnext.isWord

lemma read_document (hnext : Follows next) (doc : Json) :
    ∃ text, d.literal (.json doc) = .ok text ∧
      read d .document (text.toList ++ next) = some (.text doc.text, next) := by
  cases d with
  | ansi => exact ⟨_, rfl, readText_quoted hnext.quote doc.text⟩
  | sqlite => exact ⟨_, rfl, readText_quoted hnext.quote doc.text⟩
  | postgres =>
    have hcontent := castContent_jsonb doc.text.toList
    rw [String.ofList_toList] at hcontent
    refine ⟨_, rfl, ?_⟩
    rw [toList_jsonb]
    exact readTyped_typed hcontent (by decide) hnext.isWord

/-- A literal that is no array is read whole and as what it should hold. -/
lemma read_scalar {k : Kind} (hkind : kind? v = some k) (hk : k ≠ .array) (hnext : Follows next) :
    ∃ content text, content? v = some content ∧ d.literal v = .ok text ∧
      read d k (text.toList ++ next) = some (content, next) := by
  have htext : ∀ s, (∀ d : Dialect, d.literal v = .ok (quoted s)) → ∃ text,
      d.literal v = .ok text ∧ read d .text (text.toList ++ next) = some (.text s, next) :=
    fun s hs => ⟨_, hs d, read_text d hnext s⟩
  have hinteger : ∀ z : ℤ, (∀ d : Dialect, d.literal v = .ok (toString z)) → ∃ text,
      d.literal v = .ok text ∧ read d .integer (text.toList ++ next) = some (.integer z, next) :=
    fun z hz => ⟨_, hz d, read_integer d hnext z⟩
  cases v with
  | null => cases hkind
  | bool b =>
    cases hkind
    obtain ⟨text, h⟩ := read_boolean d hnext b
    exact ⟨_, text, rfl, h⟩
  | int16 n =>
    cases hkind
    obtain ⟨text, h⟩ := hinteger n.toInt fun d => by cases d <;> rfl
    exact ⟨_, text, rfl, h⟩
  | int32 n =>
    cases hkind
    obtain ⟨text, h⟩ := hinteger n.toInt fun d => by cases d <;> rfl
    exact ⟨_, text, rfl, h⟩
  | int64 n =>
    cases hkind
    obtain ⟨text, h⟩ := hinteger n.toInt fun d => by cases d <;> rfl
    exact ⟨_, text, rfl, h⟩
  | float32 x => cases hkind
  | float64 x => cases hkind
  | decimal text => cases hkind
  | string s =>
    cases hkind
    obtain ⟨text, h⟩ := htext s fun d => by cases d <;> rfl
    exact ⟨_, text, rfl, h⟩
  | bytes bs =>
    cases hkind
    obtain ⟨text, h⟩ := read_bytes d hnext bs
    exact ⟨_, text, rfl, h⟩
  | uuid u =>
    cases hkind
    obtain ⟨text, h⟩ := htext u.text fun d => by cases d <;> rfl
    exact ⟨_, text, rfl, h⟩
  | date t =>
    cases hkind
    obtain ⟨text, h⟩ := htext t.text fun d => by cases d <;> rfl
    exact ⟨_, text, rfl, h⟩
  | time t =>
    cases hkind
    obtain ⟨text, h⟩ := htext t.text fun d => by cases d <;> rfl
    exact ⟨_, text, rfl, h⟩
  | dateTime t =>
    cases hkind
    obtain ⟨text, h⟩ := htext t.text fun d => by cases d <;> rfl
    exact ⟨_, text, rfl, h⟩
  | instant t =>
    cases hkind
    obtain ⟨text, h⟩ := htext (Value.instantText t) fun d => by cases d <;> rfl
    exact ⟨_, text, rfl, h⟩
  | json doc =>
    cases hkind
    obtain ⟨text, h⟩ := read_document d hnext doc
    exact ⟨_, text, rfl, h⟩
  | array items =>
    cases hkind
    exact absurd rfl hk
  | map fields => cases hkind

end Dialects

/-- **Literals hold what they were made from.**  A value that a dialect has exact literals for is
rendered, and its literal with anything behind it that may follow a literal is read back by the
lexical rules of the dialect as exactly what the value holds, up to where that text begins. -/
theorem literal_decodes (hv : Exact d v) (hnext : Follows next) :
    ∃ kind content text, kind? v = some kind ∧ content? v = some content ∧
      d.literal v = .ok text ∧ read d kind (text.toList ++ next) = some (content, next) := by
  cases hv with
  | scalar hkind hk =>
    obtain ⟨content, text, h⟩ := read_scalar d hkind hk hnext
    exact ⟨_, content, text, hkind, h⟩
  | array hd hne hitems =>
    subst hd
    obtain ⟨contents, texts, hcontents, htexts, hitems, hne⟩ :=
      exists_array hne fun item hitem => exists_item (hitems item hitem)
    refine ⟨.array, _, _, rfl, hcontents, htexts, ?_⟩
    refine readArray_items hitems hne (fun text htext => ?_) next
    have hlt := length_lt_array htext
    rw [List.length_append]
    omega

/-- A string of quotes and backslashes, bytes that look like a quote, a document and the least
integer, in an array within an array that is cast. -/
theorem literal_decodes_nested :
    let inner : Value := .array [.string "O'\\'::bytea", .bytes [0x27], .json (.string "it's")]
    let v : Value := .array [inner, .array [.int64 Int64.minValue, .bool false]]
    let next := "::text[]".toList
    (Exact .postgres v ∧ Follows next) ∧
      ∃ kind content text, kind? v = some kind ∧ content? v = some content ∧
        Dialect.postgres.literal v = .ok text ∧
        read .postgres kind (text.toList ++ next) = some (content, next) := by
  intro inner v next
  have hinner : Exact .postgres inner := by
    refine .array rfl (List.cons_ne_nil _ _) ?_
    simp only [List.forall_mem_cons, List.not_mem_nil, false_implies, implies_true, and_true]
    exact ⟨.scalar rfl (by decide), .scalar rfl (by decide), .scalar rfl (by decide)⟩
  have hother : Exact .postgres (.array [.int64 Int64.minValue, .bool false]) := by
    refine .array rfl (List.cons_ne_nil _ _) ?_
    simp only [List.forall_mem_cons, List.not_mem_nil, false_implies, implies_true, and_true]
    exact ⟨.scalar rfl (by decide), .scalar rfl (by decide)⟩
  have hv : Exact .postgres v := by
    refine .array rfl (List.cons_ne_nil _ _) ?_
    simp only [List.forall_mem_cons, List.not_mem_nil, false_implies, implies_true, and_true]
    exact ⟨hinner, hother⟩
  have hnext : Follows next := by
    rintro _ ⟨⟩
    decide
  exact ⟨⟨hv, hnext⟩, literal_decodes hv hnext⟩

end BulkValues.Literal
