/-
# What the cast of a slot applies to

The cast of a slot is written right behind the literal.  It applies to the whole value unless the
literal begins with a sign: a negative number, or a decimal that is written with a sign, takes the
cast behind its sign.  The infinite numbers have their sign inside a string, and arrays have it
inside their brackets.
-/
import BulkValues.Batch.Tuple
import BulkValues.Proofs.Except
import BulkValues.Proofs.Number.Layout
import BulkValues.Proofs.Postgres.Expression
import BulkValues.Proofs.Template.Canonical

namespace BulkValues.Postgres

open BulkValues.Literal BulkValues.Number BulkValues.Text
open Expression hiding signed

/-- The values whose literals begin with a sign: negative integers and finite negative floats, and
decimals that are written with a sign, apart from the infinite ones. -/
def Signed : Value → Prop
  | .int16 n => n.toInt < 0
  | .int32 n => n.toInt < 0
  | .int64 n => n.toInt < 0
  | .float32 x => x.widen.isFinite = true ∧ x.widen.isNegative = true
  | .float64 x => x.isFinite = true ∧ x.isNegative = true
  | .decimal text =>
    (∃ c ∈ text.toList.head?, isSign c = true) ∧ text ≠ "+Infinity" ∧ text ≠ "-Infinity"
  | _ => False

/-- A text that is an expression, with a sign before it exactly where `negative` holds. -/
def IsSignedIff (text : List Char) (negative : Prop) : Prop :=
  ∃ e, IsExpression text e ∧ (e.isSigned = true ↔ negative)

variable {v : Value} {lit text type : String} {mantissa chars : List Char} {negative : Prop}

lemma isSignedIff_of_term {e : Expression} (h : IsTerm chars e) (hnegative : ¬ negative) :
    IsSignedIff chars negative :=
  ⟨e, .term h, iff_of_false (by simp [h.isSigned_eq]) hnegative⟩

/-! ## Numbers -/

lemma isSignedIff_signed (negative : Bool) (h : IsMantissa isAsciiDigit mantissa) :
    IsSignedIff (signed negative mantissa) (negative = true) := by
  have hterm := isTerm_mantissa (h.mono fun _ _ => isDigit_of_isAsciiDigit) .none
  rw [List.append_nil] at hterm
  cases negative with
  | true => exact ⟨_, .signed (by decide) hterm, iff_of_true rfl rfl⟩
  | false => exact isSignedIff_of_term hterm Bool.false_ne_true

lemma isSignedIff_integer (z : ℤ) : IsSignedIff (toString z).toList (z < 0) := by
  have htext : (toString z).toList = signed (decide (z < 0)) (Nat.toDigits 10 z.natAbs) := by
    rw [toList_toString_int, signed]
    simp only [decide_eq_true_iff]
  have hsigned := isSignedIff_signed (decide (z < 0)) (.whole (isDigits_toDigits z.natAbs))
  rwa [decide_eq_true_iff, ← htext] at hsigned

/-- A string with the name of a type has no sign before it, whatever it holds. -/
lemma isSignedIff_typed {type : List Char} (hname : isName type = true) (hnegative : ¬ negative) :
    IsSignedIff (typed chars type) negative :=
  isSignedIff_of_term (isTerm_typed hname chars) hnegative

/-- The text of a special number is a string with the name of its type. -/
lemma isSignedIff_special {type : List Char} (hname : isName type = true) (chars : List Char)
    (hquote : '\'' ∉ chars) (htext : lit.toList = '\'' :: (chars ++ '\'' :: ':' :: ':' :: type))
    (hnegative : ¬ negative) : IsSignedIff lit.toList negative := by
  rw [htext, ← doubleQuotes_of_not_mem hquote]
  exact isSignedIff_typed hname hnegative

lemma isSignedIff_float (x : Binary64) (hname : isName type.toList = true) :
    IsSignedIff (postgresFloat x type).toList (x.isFinite = true ∧ x.isNegative = true) := by
  have hspecial : ∀ chars, '\'' ∉ chars → (postgresFloat x type).toList =
      '\'' :: (chars ++ '\'' :: ':' :: ':' :: type.toList) → ¬ x.isFinite = true →
      IsSignedIff (postgresFloat x type).toList (x.isFinite = true ∧ x.isNegative = true) :=
    fun chars hquote htext hfinite =>
      isSignedIff_special hname chars hquote htext fun h => hfinite h.1
  by_cases hnan : x.isNaN = true
  · refine hspecial "NaN".toList (by decide) (by simp [postgresFloat, hnan]) fun h => ?_
    simp [(not_special_of_isFinite h).1] at hnan
  by_cases hinfinite : x.isInfinite = true
  · have hfinite : ¬ x.isFinite = true := by
      intro h
      simp [(not_special_of_isFinite h).2] at hinfinite
    by_cases hnegative : x.isNegative = true
    · refine hspecial "-Infinity".toList (by decide) ?_ hfinite
      simp [postgresFloat, hnan, hinfinite, hnegative]
    · refine hspecial "Infinity".toList (by decide) ?_ hfinite
      simp [postgresFloat, hnan, hinfinite, hnegative]
  · have hfinite := isFinite_of_not hnan hinfinite
    obtain ⟨ds, es, hds, hes, htext, -⟩ := toList_float hfinite
    have hsigned := isSignedIff_signed x.isNegative (.pointed hds hes.2)
    rw [postgresFloat, if_neg hnan, if_neg hinfinite, htext]
    simpa [hfinite] using hsigned

/-- The infinite decimals have their sign inside the string. -/
lemma isSignedIff_decimal (h : postgresDecimal text = .ok lit) :
    IsSignedIff lit.toList (Signed (.decimal text)) := by
  have hname : isName "numeric".toList = true := by decide
  rw [postgresDecimal] at h
  split at h
  · rename_i hspecial
    cases h
    have hquote : '\'' ∉ text.toList := by
      rcases hspecial with rfl | rfl | rfl <;> decide
    refine isSignedIff_special hname text.toList hquote (by simp) ?_
    rcases hspecial with rfl | rfl | rfl <;> simp [Signed, isSign]
  · split at h
    · rename_i hplus
      cases h
      refine isSignedIff_special hname "Infinity".toList (by decide) rfl ?_
      simp [Signed, hplus]
    · rename_i hspecial hplus
      obtain ⟨rfl, hnumeral⟩ := decimal_eq_ok_iff.mp h
      obtain ⟨e, he, hsigned⟩ := exists_numeral hnumeral
      refine ⟨e, he, hsigned.trans ?_⟩
      simp only [not_or] at hspecial
      exact ⟨fun hsign => ⟨hsign, hplus, hspecial.2.2⟩, fun hsign => hsign.1⟩

/-! ## All values -/

lemma isSignedIff_quoted {s : String} (h : Except.ok (quoted s) = (.ok lit : Except Error _))
    (hnegative : ¬ negative) : IsSignedIff lit.toList negative := by
  rw [← Except.ok.inj h]
  exact isSignedIff_of_term (isTerm_quoted s) hnegative

/-- A literal is an expression, and it has a sign before it exactly where its value is signed; the
literals of an array are expressions item by item. -/
lemma isSignedIff_postgres_items :
    (∀ v lit, postgres v = .ok lit → IsSignedIff lit.toList (Signed v)) ∧
      ∀ vs lits, postgresItems vs = .ok lits → ∃ es, AreExpressions lits es := by
  apply postgres.mutual_induct (fun v => ∀ lit, postgres v = .ok lit →
      IsSignedIff lit.toList (Signed v))
    (fun vs => ∀ lits, postgresItems vs = .ok lits → ∃ es, AreExpressions lits es)
  case case1 =>
    intro x lit h
    rw [postgres] at h
    cases h
    exact isSignedIff_float x.widen (by decide)
  case case2 =>
    intro x lit h
    rw [postgres] at h
    cases h
    exact isSignedIff_float x (by decide)
  case case3 =>
    intro text lit h
    rw [postgres] at h
    exact isSignedIff_decimal h
  case case4 =>
    intro bs lit h
    rw [postgres] at h
    rw [← Except.ok.inj h, toList_bytea]
    exact isSignedIff_typed (by decide) not_false
  case case5 =>
    intro doc lit h
    rw [postgres] at h
    rw [← Except.ok.inj h, toList_jsonb]
    exact isSignedIff_typed (by decide) not_false
  case case6 =>
    intro lit h
    rw [postgres] at h
    cases h
    exact isSignedIff_of_term (isTerm_string ['\x7b', '\x7d']) not_false
  case case7 =>
    intro item rest ih lit h
    rw [postgres, bind_eq_ok] at h
    obtain ⟨lits, hlits, h⟩ := h
    cases h
    obtain ⟨es, hes⟩ := ih lits hlits
    refine isSignedIff_of_term (isTerm_array hes ?_) not_false
    rintro rfl
    rw [postgresItems] at hlits
    simp only [bind_eq_ok] at hlits
    obtain ⟨_, -, _, -, hcons⟩ := hlits
    cases hcons
  case case8 =>
    intro v h₁ h₂ h₃ h₄ h₅ h₆ h₇ lit h
    rw [postgres.eq_8 v h₁ h₂ h₃ h₄ h₅ h₆ h₇] at h
    cases v with
    | null =>
      cases h
      exact isSignedIff_of_term (isTerm_keyword (by decide)) not_false
    | bool b =>
      cases h
      cases b with
      | true => exact isSignedIff_of_term (isTerm_keyword (by decide)) not_false
      | false => exact isSignedIff_of_term (isTerm_keyword (by decide)) not_false
    | int16 n =>
      cases h
      exact isSignedIff_integer n.toInt
    | int32 n =>
      cases h
      exact isSignedIff_integer n.toInt
    | int64 n =>
      cases h
      exact isSignedIff_integer n.toInt
    | float32 x => exact (h₁ x rfl).elim
    | float64 x => exact (h₂ x rfl).elim
    | decimal text => exact (h₃ text rfl).elim
    | string s => exact isSignedIff_quoted h not_false
    | bytes bs => exact (h₄ bs rfl).elim
    | uuid u => exact isSignedIff_quoted h not_false
    | date d => exact isSignedIff_quoted h not_false
    | time t => exact isSignedIff_quoted h not_false
    | dateTime t => exact isSignedIff_quoted h not_false
    | instant t => exact isSignedIff_quoted h not_false
    | json doc => exact (h₅ doc rfl).elim
    | array items =>
      cases items with
      | nil => exact (h₆ rfl).elim
      | cons item rest => exact (h₇ item rest rfl).elim
    | map fields => cases h
  case case9 =>
    intro lits h
    rw [postgresItems] at h
    cases h
    exact ⟨[], .nil⟩
  case case10 =>
    intro item rest ih ihs lits h
    rw [postgresItems] at h
    simp only [bind_eq_ok] at h
    obtain ⟨lit, hlit, lits, hlits, h⟩ := h
    cases h
    obtain ⟨e, he, -⟩ := ih lit hlit
    obtain ⟨es, hes⟩ := ihs lits hlits
    exact ⟨e :: es, .cons he hes⟩

/-! ## Slots -/

section Slots

variable {t : Template} {pattern : String} {name : Option String} {c : Cast}

/-- The cast of a slot was read from a text. -/
lemma exists_readType_of_mem_slots (hparse : Template.parse pattern = .ok t)
    (hslot : (name, some c) ∈ t.slots) : ∃ cs rest, Cast.readType cs = some (c.type, rest) := by
  rw [Template.parse] at hparse
  split at hparse
  · cases hparse
  rw [← Except.ok.inj hparse] at hslot
  have hfound : ∃ m text, ∃ found ∈ Marker.findAll m text, found.2 = some c := by
    rcases Template.ofChars_cases pattern.toList with ⟨m, text, -, heq⟩ | ⟨text, heq⟩
    · rw [heq] at hslot
      simp only [Template.slots, Template.namedSlots, List.map_map, List.mem_map] at hslot
      obtain ⟨found, hfound, heq⟩ := hslot
      exact ⟨m, text, found, hfound, congrArg Prod.snd heq⟩
    · rw [heq] at hslot
      simp only [Template.slots, List.map_map, List.mem_map] at hslot
      obtain ⟨found, hfound, heq⟩ := hslot
      exact ⟨.percent, text, found, hfound, congrArg Prod.snd heq⟩
  obtain ⟨m, text, found, hfound, hcast⟩ := hfound
  exact (slotted_of_mem_findAll hfound).1.cast c hcast

/-- **What the cast of a slot applies to.**  The text of a slot is the literal with the cast behind
it, and both the literal and that text are expressions.  The cast is around the whole literal
exactly where the value is not signed.  The literal of a signed value begins with the sign, and the
cast is around the operand behind it. -/
theorem cast_whole_iff (hparse : Template.parse pattern = .ok t)
    (hslot : (name, some c) ∈ t.slots) (hlit : Dialect.postgres.literal v = .ok lit) :
    Template.renderSlot Dialect.postgres.literal (some c) v = .ok (lit ++ c.suffix) ∧
      ∃ e e', read? lit.toList = some e ∧ read? (lit ++ c.suffix).toList = some e' ∧
        (e' = .cast e c.type ↔ ¬ Signed v) ∧
        ((∃ s ∈ lit.toList.head?, isSign s = true) ↔ Signed v) ∧
        (Signed v → ∃ sign operand, e = .signed sign operand ∧
          e' = .signed sign (.cast operand c.type)) := by
  obtain ⟨cs, rest, htype⟩ := exists_readType_of_mem_slots hparse hslot
  obtain ⟨e, he, hsigned⟩ := isSignedIff_postgres_items.1 v lit hlit
  have htext : (lit ++ c.suffix).toList = lit.toList ++ ':' :: ':' :: c.type := by
    rw [String.toList_append, Cast.suffix, String.toList_ofList, Cast.suffixChars]
  refine ⟨?_, e, e.underSign (.cast · c.type), he.read?_eq, ?_, ?_, ?_, ?_⟩
  · rw [Template.renderSlot, hlit]
    rfl
  · rw [htext]
    exact he.read?_cast htype
  · rw [← hsigned]
    cases e with
    | signed sign operand => simp [underSign, Expression.isSigned]
    | _ => simp [underSign, Expression.isSigned]
  · rw [he.head?_isSign_iff, hsigned]
  · intro hv
    cases e with
    | signed sign operand => exact ⟨sign, operand, rfl, rfl⟩
    | _ => cases hsigned.mpr hv

/-- A decimal with a plus sign, in a slot whose cast has a modifier. -/
theorem cast_whole_iff_plus :
    let pattern := "(%(id)s, %(n)s:: numeric (10, 2))"
    let c : Cast := ⟨"numeric (10, 2)".toList⟩
    let t : Template := .named [⟨"id", none⟩, ⟨"n", some c⟩]
    let v : Value := .decimal "+1.5e-3"
    (Template.parse pattern = .ok t ∧ (some "n", some c) ∈ t.slots ∧
        Dialect.postgres.literal v = .ok "+1.5e-3") ∧
      Template.renderSlot Dialect.postgres.literal (some c) v = .ok ("+1.5e-3" ++ c.suffix) ∧
      ∃ e e', read? "+1.5e-3".toList = some e ∧ read? ("+1.5e-3" ++ c.suffix).toList = some e' ∧
        (e' = .cast e c.type ↔ ¬ Signed v) ∧
        ((∃ s ∈ "+1.5e-3".toList.head?, isSign s = true) ↔ Signed v) ∧
        (Signed v → ∃ sign operand, e = .signed sign operand ∧
          e' = .signed sign (.cast operand c.type)) := by
  intro pattern c t v
  have hparse : Template.parse pattern = .ok t := by decide +kernel
  have hslot : (some "n", some c) ∈ t.slots := by simp [t, Template.slots]
  have hlit : Dialect.postgres.literal v = .ok "+1.5e-3" := rfl
  exact ⟨⟨hparse, hslot, hlit⟩, cast_whole_iff hparse hslot hlit⟩

/-- The least number of sixteen bits: its cast is around the digits, which no number of sixteen bits
has, and not around the literal. -/
theorem cast_not_whole_least :
    let c : Cast := ⟨"int2".toList⟩
    let v : Value := .int16 (-32768)
    Template.parse "%s::int2" = .ok (.positional [some c]) ∧
      Template.renderSlot Dialect.postgres.literal (some c) v = .ok "-32768::int2" ∧
      read? "-32768".toList = some (.signed '-' (.token "32768".toList)) ∧
      read? "-32768::int2".toList = some (.signed '-' (.cast (.token "32768".toList) c.type)) ∧
      Expression.signed '-' (.cast (.token "32768".toList) c.type) ≠
        .cast (.signed '-' (.token "32768".toList)) c.type := by
  intro c v
  have hparse : Template.parse "%s::int2" = .ok (.positional [some c]) := by decide +kernel
  have hdigits : IsMantissa isDigit "32768".toList :=
    .whole ⟨by decide, List.all_eq_true.mp (by decide)⟩
  have hterm := isTerm_mantissa hdigits .none
  rw [List.append_nil] at hterm
  have hminus : isSign '-' = true := by decide
  have hexpression := IsExpression.signed hminus hterm
  have htype : Cast.readType c.type = some (c.type, []) := by decide +kernel
  exact ⟨hparse, rfl, hexpression.read?_eq, hexpression.read?_cast htype, nofun⟩

end Slots

end BulkValues.Postgres
