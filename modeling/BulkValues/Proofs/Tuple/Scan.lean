/-
# Scanning lists of tuples

A list of tuples is scanned as a database would, with as little as it takes to tell its parts:
strings in single quotes, in which a quote is written twice, and parentheses and brackets, which
must match.  The text is cut at the commas outside of all brackets.  A text that closes what is
not open, leaves a bracket or a string open, ends a statement or begins a comment has no parts.

A part of a text is closed if the scanner goes over it without changing its own state and
without cutting it.  This is what the proofs below are about: plain characters and strings are
closed, and so is whatever is put in brackets, even if it has commas.
-/
import BulkValues.Proofs.Literal.Quoted
import BulkValues.Text.Blank
import Mathlib.Data.List.TakeWhile

namespace BulkValues.Tuples

open BulkValues.Literal BulkValues.Text

/-- A text cut at commas: what comes before the first comma, and the parts after it. -/
abbrev Parts := List Char × List (List Char)

/-- Put characters in front of a text that is cut. -/
def push (w : List Char) (p : Parts) : Parts := (w ++ p.1, p.2)

mutual

/-- Scan a text outside of strings. `closers` are the brackets that are still to come, the
innermost first. -/
def scan (closers : List Char) : List Char → Option Parts
  | [] => if closers = [] then some ([], []) else none
  | c :: r =>
    if c = '\'' then (scanString closers r).map (push [c])
    else if c = ';' ∨ (c = '-' ∧ r.head? = some '-') ∨ (c = '/' ∧ r.head? = some '*') then none
    else if c = '(' then (scan (')' :: closers) r).map (push [c])
    else if c = '[' then (scan (']' :: closers) r).map (push [c])
    else if c = ')' ∨ c = ']' then
      if closers.head? = some c then (scan closers.tail r).map (push [c]) else none
    else if c = ',' ∧ closers = [] then (scan [] r).map fun p => ([], p.1 :: p.2)
    else (scan closers r).map (push [c])
termination_by structural cs => cs

/-- Scan a text inside of a string. -/
def scanString (closers : List Char) : List Char → Option Parts
  | [] => none
  | '\'' :: '\'' :: r => (scanString closers r).map (push ['\'', '\''])
  | '\'' :: r => (scan closers r).map (push ['\''])
  | c :: r => (scanString closers r).map (push [c])
termination_by structural cs => cs

end

/-- The parts of a text between its commas, if it can be scanned. -/
def split (cs : List Char) : Option (List (List Char)) :=
  (scan [] cs).map fun p => p.1 :: p.2

/-- The characters that mean something outside of strings. -/
def specials : List Char := ['\'', ';', '-', '/', '(', ')', '[', ']', ',']

/-- A character that means nothing outside of strings. -/
def isPlain (c : Char) : Bool := !specials.contains c

/-- A part of a text that the scanner goes over. -/
def Closed (w : List Char) : Prop :=
  ∀ closers rest, scan closers (w ++ rest) = (scan closers rest).map (push w)

/-- A part of a text that the scanner goes over inside of brackets. -/
def Nested (w : List Char) : Prop :=
  ∀ closer closers rest,
    scan (closer :: closers) (w ++ rest) = (scan (closer :: closers) rest).map (push w)

variable {c : Char} {closers r u v w : List Char} {ws : List (List Char)}

lemma map_push_nil (p : Option Parts) : p.map (push []) = p := by
  cases p with
  | none => rfl
  | some p => rfl

lemma map_push_push (u v : List Char) (p : Option Parts) :
    (p.map (push v)).map (push u) = p.map (push (u ++ v)) := by
  cases p with
  | none => rfl
  | some p => simp [push]

/-! ## Single steps -/

lemma scan_plain (h : isPlain c = true) (closers r : List Char) :
    scan closers (c :: r) = (scan closers r).map (push [c]) := by
  simp only [isPlain, specials, Bool.not_eq_true', List.contains_eq_mem, decide_eq_false_iff_not,
    List.mem_cons, List.not_mem_nil, or_false, not_or] at h
  obtain ⟨h1, h2, h3, h4, h5, h6, h7, h8, h9⟩ := h
  simp only [scan, h1, h2, h3, h4, h5, h6, h7, h8, h9, false_and, or_self, if_false]

/-- A minus sign is taken unless a comment begins with it. -/
lemma scan_minus (h : r.head? ≠ some '-') (closers : List Char) :
    scan closers ('-' :: r) = (scan closers r).map (push ['-']) := by
  simp [scan, h]

lemma scan_open_parenthesis (closers r : List Char) :
    scan closers ('(' :: r) = (scan (')' :: closers) r).map (push ['(']) := rfl

lemma scan_close_parenthesis (closers r : List Char) :
    scan (')' :: closers) (')' :: r) = (scan closers r).map (push [')']) := rfl

lemma scan_open_bracket (closers r : List Char) :
    scan closers ('[' :: r) = (scan (']' :: closers) r).map (push ['[']) := rfl

lemma scan_close_bracket (closers r : List Char) :
    scan (']' :: closers) (']' :: r) = (scan closers r).map (push [']']) := rfl

lemma scan_comma (r : List Char) :
    scan [] (',' :: r) = (scan [] r).map fun p => ([], p.1 :: p.2) := rfl

lemma scan_quote (closers r : List Char) :
    scan closers ('\'' :: r) = (scanString closers r).map (push ['\'']) := rfl

lemma scanString_char (h : c ≠ '\'') (closers r : List Char) :
    scanString closers (c :: r) = (scanString closers r).map (push [c]) :=
  scanString.eq_4 closers c r (fun _ hc => absurd hc h) h

/-- A quote inside of a string may be taken for its end: where a second quote follows, another
string begins there at once. -/
lemma scanString_quote (closers r : List Char) :
    scanString closers ('\'' :: r) = (scan closers r).map (push ['\'']) := by
  by_cases h : ∃ r', r = '\'' :: r'
  -- Both readings of two quotes go on inside of a string.
  · obtain ⟨r', rfl⟩ := h
    rw [scanString.eq_2, scan_quote, map_push_push]
    rfl
  · exact scanString.eq_3 closers r fun r' hr => h ⟨r', hr⟩

/-! ## Closed parts -/

lemma closed_nil : Closed [] := fun _ _ => (map_push_nil _).symm

lemma Closed.append (hu : Closed u) (hv : Closed v) : Closed (u ++ v) := by
  intro closers rest
  rw [List.append_assoc, hu, hv, map_push_push]

lemma closed_of_plain (h : w.all isPlain = true) : Closed w := by
  induction w with
  | nil => exact closed_nil
  | cons c w ih =>
    rw [List.all_cons, Bool.and_eq_true] at h
    intro closers rest
    rw [List.cons_append, scan_plain h.1, ih h.2, map_push_push]
    rfl

/-- A kind of characters that are all plain. -/
def Plain (kind : Char → Bool) : Prop := ∀ c, kind c = true → isPlain c = true

lemma plain_of_specials {kind : Char → Bool} (h : (specials.all fun c => !kind c) = true) :
    Plain kind := by
  intro c hc
  by_contra hplain
  have hmem : c ∈ specials := by simpa [isPlain] using hplain
  have hnot := List.all_eq_true.mp h c hmem
  rw [hc] at hnot
  cases hnot

lemma plain_isDigit : Plain isDigit := plain_of_specials (by decide)

lemma plain_isWord : Plain isWord := plain_of_specials (by decide)

lemma plain_isBlank : Plain isBlank := plain_of_specials (by decide)

/-- Text that is taken while its characters are of a plain kind. -/
lemma closed_takeWhile {kind : Char → Bool} (h : Plain kind) (cs : List Char) :
    Closed (cs.takeWhile kind) :=
  closed_of_plain (List.all_eq_true.mpr fun c hc => h c (List.mem_takeWhile_imp hc))

/-- A sign belongs to what follows it, which must not begin with a minus sign as well. -/
lemma Closed.minus (hc : c ≠ '-') (h : Closed (c :: w)) : Closed ('-' :: c :: w) := by
  intro closers rest
  have hhead : (c :: w ++ rest).head? ≠ some '-' := by
    simpa using hc
  rw [List.cons_append, scan_minus hhead, h, map_push_push]
  rfl

lemma Nested.append (hu : Nested u) (hv : Nested v) : Nested (u ++ v) := by
  intro closer closers rest
  rw [List.append_assoc, hu, hv, map_push_push]

lemma Closed.nested (h : Closed w) : Nested w := fun closer closers => h (closer :: closers)

lemma nested_comma : Nested [','] := fun _ _ _ => rfl

lemma Nested.parentheses (h : Nested w) : Closed ('(' :: (w ++ [')'])) := by
  intro closers rest
  rw [List.cons_append, List.append_assoc, scan_open_parenthesis, h, List.singleton_append,
    scan_close_parenthesis, map_push_push, map_push_push]
  rfl

lemma Nested.brackets (h : Nested w) : Closed ('[' :: (w ++ [']'])) := by
  intro closers rest
  rw [List.cons_append, List.append_assoc, scan_open_bracket, h, List.singleton_append,
    scan_close_bracket, map_push_push, map_push_push]
  rfl

/-! ## Strings -/

lemma scanString_doubleQuotes (closers s r : List Char) :
    scanString closers (doubleQuotes s ++ r) =
      (scanString closers r).map (push (doubleQuotes s)) := by
  induction s with
  | nil => exact (map_push_nil _).symm
  | cons c s ih =>
    rw [doubleQuotes]
    split
    · rw [List.cons_append, List.cons_append, scanString.eq_2, ih, map_push_push]
      rfl
    · rename_i hc
      rw [List.cons_append, scanString_char hc, ih, map_push_push]
      rfl

/-- A string in quotes is closed, whatever its text. -/
lemma closed_string (s : List Char) : Closed ('\'' :: (doubleQuotes s ++ ['\''])) := by
  intro closers rest
  rw [List.cons_append, List.append_assoc, scan_quote, scanString_doubleQuotes,
    List.singleton_append, scanString_quote, map_push_push, map_push_push]
  rfl

lemma closed_string_of_not_mem {s : List Char} (h : '\'' ∉ s) :
    Closed ('\'' :: (s ++ ['\''])) := by
  have hclosed := closed_string s
  rwa [doubleQuotes_of_not_mem h] at hclosed

/-! ## Lists -/

/-- The parts of a text that is put together with commas and a gap after each of them. -/
def gapped (gap : List Char) : List (List Char) → List (List Char)
  | [] => []
  | w :: ws => w :: ws.map (gap ++ ·)

lemma gapped_nil (ws : List (List Char)) : gapped [] ws = ws := by
  cases ws with
  | nil => rfl
  | cons w ws => exact congrArg (w :: ·) (List.map_id ws)

/-- Closed parts with commas between them can be read off again. -/
lemma split_intercalate {gap : List Char} (hgap : Closed gap) (hws : ∀ w ∈ ws, Closed w)
    (hne : ws ≠ []) : split ((',' :: gap).intercalate ws) = some (gapped gap ws) := by
  have hscan : ∀ ws : List (List Char), (∀ w ∈ ws, Closed w) → ∀ w, Closed w →
      scan [] ((',' :: gap).intercalate (w :: ws)) = some (w, ws.map (gap ++ ·)) := by
    intro ws
    induction ws with
    | nil =>
      intro _ w hw
      have hend := hw [] []
      rw [List.append_nil] at hend
      rw [List.intercalate_singleton, hend]
      simp [scan, push]
    | cons v ws ih =>
      intro hvs w hw
      have hrest := ih (fun u hu => hvs u (List.mem_cons_of_mem v hu)) v
        (hvs v List.mem_cons_self)
      rw [List.intercalate_cons_cons, List.append_assoc, hw, List.cons_append, scan_comma,
        hgap, hrest]
      simp [push]
  obtain ⟨w, ws, rfl⟩ := List.exists_cons_of_ne_nil hne
  rw [split, hscan ws (fun v hv => hws v (List.mem_cons_of_mem w hv)) w
    (hws w List.mem_cons_self)]
  rfl

example : split "('''); --', ARRAY[1, '],(']),(-1)".toList =
    some ["('''); --', ARRAY[1, '],('])".toList, "(-1)".toList] := by decide

example : split "(''); --')".toList = none := by decide

/-- Inside of brackets a list of closed parts is as good as one. -/
lemma nested_intercalate {gap : List Char} (hgap : Closed gap) (hws : ∀ w ∈ ws, Closed w) :
    Nested ((',' :: gap).intercalate ws) := by
  induction ws with
  | nil => exact closed_nil.nested
  | cons w ws ih =>
    have hw := (hws w List.mem_cons_self).nested
    cases ws with
    | nil =>
      rw [List.intercalate_singleton]
      exact hw
    | cons v ws =>
      rw [List.intercalate_cons_cons, List.append_assoc]
      exact hw.append ((nested_comma.append hgap.nested).append
        (ih fun u hu => hws u (List.mem_cons_of_mem w hu)))

end BulkValues.Tuples
