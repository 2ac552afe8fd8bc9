/-
# Casts are closed

The type of a cast is a name with further words, which are plain, a modifier, whose comma stands
in its parentheses, and pairs of brackets.  The casts of a template are types that were read, so
that they are closed, too.
-/
import BulkValues.Proofs.Except
import BulkValues.Proofs.Tuple.Scan
import BulkValues.Template.Basic

namespace BulkValues.Tuples

open BulkValues.Text

variable {c : Char} {cs rest taken : List Char}

/-! ## Parts of a type -/

lemma plain_isNameStart : Plain isNameStart := plain_of_specials (by decide)

lemma plain_isNamePart : Plain Cast.isNamePart := plain_of_specials (by decide)

lemma closed_name (h : isNameStart c = true) {kind : Char → Bool} (hkind : Plain kind)
    (cs : List Char) : Closed (c :: cs.takeWhile kind) := by
  have hstart : Closed [c] := closed_of_plain (by simp [plain_isNameStart c h])
  exact hstart.append (closed_takeWhile hkind cs)

lemma closed_readWords (cs : List Char) : Closed (Cast.readWords cs).1 := by
  fun_induction Cast.readWords cs with
  | case1 => exact closed_nil
  | case2 => exact closed_nil
  | case3 cs c r h hstart word more ih =>
    simp only [Bool.or_eq_true, not_or, Bool.not_eq_true', Bool.not_eq_false] at hstart
    have hblanks := closed_takeWhile plain_isBlank cs
    have hword := closed_name hstart.2 plain_isWord r
    exact (hblanks.append hword).append ih

lemma closed_readCount (h : Cast.readCount cs = some (taken, rest)) : Closed taken := by
  rw [Cast.readCount] at h
  split at h
  · cases h
  · cases h
    exact (closed_takeWhile plain_isBlank cs).append
      (closed_takeWhile plain_isDigit _)

/-- A sign is taken with the blanks before it. -/
lemma readSign_eq_some {sign : Char} (h : Cast.readSign sign cs = some (taken, rest)) :
    ∃ blanks, taken = blanks ++ [sign] ∧ Closed blanks := by
  rw [Cast.readSign] at h
  split at h
  · split at h
    · cases h
      exact ⟨_, rfl, closed_takeWhile plain_isBlank cs⟩
    · cases h
  · cases h

lemma nested_readSecondCount (cs : List Char) : Nested (Cast.readSecondCount cs).1 := by
  rw [Cast.readSecondCount]
  cases hsign : Cast.readSign ',' cs with
  | none => exact closed_nil.nested
  | some sign =>
    cases hcount : Cast.readCount sign.2 with
    | none =>
      simp only [Option.bind_eq_bind, Option.bind_some, hcount]
      exact closed_nil.nested
    | some count =>
      obtain ⟨blanks, hblanks, hclosed⟩ := readSign_eq_some hsign
      simp only [Option.bind_eq_bind, Option.bind_some, hcount, hblanks]
      exact (hclosed.nested.append nested_comma).append (closed_readCount hcount).nested

lemma closed_readModifier (cs : List Char) : Closed (Cast.readModifier cs).1 := by
  rw [Cast.readModifier]
  cases hopening : Cast.readSign '(' cs with
  | none => exact closed_nil
  | some opening =>
    cases hcount : Cast.readCount opening.2 with
    | none =>
      simp only [Option.bind_eq_bind, Option.bind_some, hcount]
      exact closed_nil
    | some count =>
      cases hclosing : Cast.readSign ')' (Cast.readSecondCount count.2).2 with
      | none =>
        simp only [Option.bind_eq_bind, Option.bind_some, hcount, hclosing]
        exact closed_nil
      | some closing =>
        obtain ⟨blanks, hblanks, hclosed⟩ := readSign_eq_some hopening
        obtain ⟨blanks', hblanks', hclosed'⟩ := readSign_eq_some hclosing
        -- The comma of a second number stands between parentheses, where it does not cut.
        have hinside : Nested (count.1 ++ (Cast.readSecondCount count.2).1 ++ blanks') :=
          ((closed_readCount hcount).nested.append (nested_readSecondCount count.2)).append
            hclosed'.nested
        have hmodifier := hclosed.append hinside.parentheses
        simp only [Option.bind_eq_bind, Option.bind_some, hcount, hclosing, hblanks, hblanks']
        simpa using hmodifier

lemma closed_readBrackets (cs : List Char) : Closed (Cast.readBrackets cs).1 := by
  fun_induction Cast.readBrackets cs with
  | case1 r more ih => exact (closed_nil.nested.brackets).append ih
  | case2 => exact closed_nil

lemma closed_readType {type : List Char} (h : Cast.readType cs = some (type, rest)) :
    Closed type := by
  unfold Cast.readType at h
  split at h
  · cases h
  · rename_i c r
    split at h
    · rename_i hstart
      cases h
      have hname := closed_name hstart plain_isNamePart r
      exact ((hname.append (closed_readWords _)).append (closed_readModifier _)).append
        (closed_readBrackets _)
    · cases h

/-! ## Casts of a template -/

/-- A cast whose type is closed. -/
def ClosedCast (cast : Option Cast) : Prop := ∀ c, cast = some c → Closed c.type

lemma closedCast_read (cs : List Char) : ClosedCast (Cast.read cs).1 := by
  intro c hc
  unfold Cast.read at hc
  split at hc
  · split at hc
    · rename_i htype
      cases hc
      exact closed_readType htype
    · cases hc
  · cases hc

lemma closedCast_of_mem_findAll {m : Marker} {found : List Char × Option Cast}
    (h : found ∈ m.findAll cs) : ClosedCast found.2 := by
  fun_induction Marker.findAll m cs with
  | case1 cs name rest hread cast ih =>
    rcases List.mem_cons.mp h with rfl | h
    · exact closedCast_read rest
    · exact ih h
  | case2 => cases h
  | case3 c r hread ih => exact ih h

lemma closedCast_of_mem_named {m : Marker} {slot : Option String × Option Cast}
    (h : slot ∈ (Template.named (Template.namedSlots (m.findAll cs))).slots) :
    ClosedCast slot.2 := by
  simp only [Template.slots, Template.namedSlots, List.map_map, List.mem_map] at h
  obtain ⟨found, hfound, rfl⟩ := h
  exact closedCast_of_mem_findAll hfound

/-- The casts of a template that was read are closed. -/
lemma closedCast_of_mem_slots {slot : Option String × Option Cast}
    (h : slot ∈ (Template.ofChars cs).slots) : ClosedCast slot.2 := by
  rw [Template.ofChars] at h
  split at h
  · rename_i hfound
    rw [← hfound] at h
    exact closedCast_of_mem_named h
  · split at h
    · rename_i hfound
      rw [← hfound] at h
      exact closedCast_of_mem_named h
    · simp only [Template.slots, List.map_map, List.mem_map] at h
      obtain ⟨found, hfound, rfl⟩ := h
      exact closedCast_of_mem_findAll hfound

/-- What follows a literal is closed. -/
lemma closed_suffixOf {cast : Option Cast} (h : ClosedCast cast) :
    Closed (Cast.suffixOf cast).toList := by
  cases cast with
  | none => exact closed_nil
  | some c =>
    have hcolons : Closed [':', ':'] := closed_of_plain (by decide)
    rw [Cast.suffixOf, Cast.suffix, String.toList_ofList]
    exact hcolons.append (h c rfl)

end BulkValues.Tuples
