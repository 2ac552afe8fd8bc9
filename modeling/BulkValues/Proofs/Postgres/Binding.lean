/-
# Numbers as parameters

A number is bound to a parameter of a numeric type, sent in some binary form, and read back in the
binary form of that type.  Integer types cut an integer to their width.  The other types are sent
an integer as eight bytes, and a decimal as its text, whatever they are; what they read is another
number, but for zero, or none at all.
-/
import BulkValues.Postgres.Cell
import BulkValues.Proofs.Number.BigEndian
import BulkValues.Proofs.Number.IntegerBits
import BulkValues.Proofs.Postgres.Payload
import BulkValues.Proofs.Text.Utf8

namespace BulkValues

open BulkValues.Number BulkValues.Text

/-- The number that a value stands for. -/
def Value.number? : Value → Option ℚ
  | .int16 n => some n.toInt
  | .int32 n => some n.toInt
  | .int64 n => some n.toInt
  | .float32 x => x.number?
  | .float64 x => x.number?
  | .decimal text => readExact? text.toList
  | _ => none

/-- The integer of a value of one of the integer kinds. -/
def Value.integer? : Value → Option ℤ
  | .int16 n => some n.toInt
  | .int32 n => some n.toInt
  | .int64 n => some n.toInt
  | _ => none

namespace Postgres

/-- The types of numbers. -/
def ColumnType.isNumeric : ColumnType → Bool
  | .int2 | .int4 | .int8 | .float4 | .float8 | .numeric => true
  | _ => false

/-- The integers that come through as a parameter of a type of numbers. -/
def ColumnType.Keeps : ColumnType → ℤ → Prop
  | .int2, n => -2 ^ 15 ≤ n ∧ n < 2 ^ 15
  | .int4, n => -2 ^ 31 ≤ n ∧ n < 2 ^ 31
  | .int8, _ => True
  | .float4, _ => False
  | _, n => n = 0

/-- The bytes that are sent for a value under a type. -/
def Parameter.sent? (type : ColumnType) (v : Value) : Option (List UInt8) :=
  (ofValueFor type v).encode (some type)

/-- The number that bytes stand for in a column of a type. -/
def Cell.number? (type : ColumnType) (bytes : List UInt8) : Option ℚ :=
  (decode? type bytes).bind Value.number?

variable {type : ColumnType} {v : Value} {bytes : List UInt8} {n : ℤ} {k : Int64} {width : ℕ}

lemma number?_float4 (bytes : List UInt8) :
    Cell.number? .float4 bytes =
      if bytes.length = 4 then (Binary32.mk (.ofNat (BigEndian.decode bytes))).number?
      else none := by
  rw [Cell.number?, Cell.decode?, Cell.scalar?]
  · split <;> rfl
  · exact nofun

lemma number?_float8 (bytes : List UInt8) :
    Cell.number? .float8 bytes =
      if bytes.length = 8 then (Binary64.mk (.ofNat (BigEndian.decode bytes))).number?
      else none := by
  rw [Cell.number?, Cell.decode?, Cell.scalar?]
  · split <;> rfl
  · exact nofun

lemma number?_numeric (bytes : List UInt8) :
    Cell.number? .numeric bytes =
      (Numeric.readText bytes).toOption.bind fun text => readExact? text.toList := by
  rw [Cell.number?, Cell.decode?, Cell.scalar?, Option.bind_map]
  · rfl
  · exact nofun

/-! ## Integer types -/

/-- The width of an integer type. -/
def ColumnType.width? : ColumnType → Option ℕ
  | .int2 => some 2
  | .int4 => some 4
  | .int8 => some 8
  | _ => none

/-- What is read as an integer is kept by a value that keeps the integers of its width. -/
lemma bind_map_decodeInt? {make : ℤ → Value} (hmake : ∀ z : ℤ, -(256 ^ width : ℕ) ≤ 2 * z →
      2 * z < (256 ^ width : ℕ) → (make z).number? = some (z : ℚ)) (bytes : List UInt8) :
    ((BigEndian.decodeInt? width bytes).map make).bind Value.number? =
      (BigEndian.decodeInt? width bytes).map fun z : ℤ => (z : ℚ) := by
  rw [BigEndian.decodeInt?]
  split
  · rename_i hlength
    obtain ⟨hlow, hhigh⟩ := BigEndian.decodeInt_range bytes
    rw [hlength] at hlow hhigh
    exact hmake _ hlow hhigh
  · rfl

/-- An integer type reads exactly as many bytes as it is wide. -/
lemma number?_of_width? (h : type.width? = some width) (bytes : List UInt8) :
    Cell.number? type bytes = (BigEndian.decodeInt? width bytes).map fun z : ℤ => (z : ℚ) := by
  cases type with
  | int2 =>
    cases h
    refine bind_map_decodeInt? (fun z hlow hhigh => ?_) bytes
    rw [Value.number?, Int16.toInt_ofInt_of_le (by omega) (by omega)]
  | int4 =>
    cases h
    refine bind_map_decodeInt? (fun z hlow hhigh => ?_) bytes
    rw [Value.number?, Int32.toInt_ofInt_of_le (by omega) (by omega)]
  | int8 =>
    cases h
    refine bind_map_decodeInt? (fun z hlow hhigh => ?_) bytes
    rw [Value.number?, Int64.toInt_ofInt_of_le (by omega) (by omega)]
  | _ => cases h

/-- All integers are bound by their number. -/
lemma ofValueFor_of_integer? (h : v.integer? = some n) (type : ColumnType) :
    ∃ k : Int64, k.toInt = n ∧ Parameter.ofValueFor type v = Parameter.ofInt k type := by
  cases v with
  | int16 m =>
    cases h
    exact ⟨m.toInt64, Int16.toInt_toInt64 m, rfl⟩
  | int32 m =>
    cases h
    exact ⟨m.toInt64, Int32.toInt_toInt64 m, rfl⟩
  | int64 m =>
    cases h
    exact ⟨m, rfl, rfl⟩
  | _ => cases h

/-- An integer that is cut to the width of its type comes through if it lies in the range of the
width. -/
lemma number?_cut_iff (h : type.width? = some width) (n : ℤ) :
    Cell.number? type (BigEndian.encodeInt width (n.bmod (256 ^ width))) = some (n : ℚ) ↔
      -(256 ^ width : ℕ) ≤ 2 * n ∧ 2 * n < (256 ^ width : ℕ) := by
  have hpos : 0 < 256 ^ width := Nat.pow_pos (by decide)
  have hlow := Int.le_bmod (x := n) hpos
  have hhigh := Int.bmod_lt (x := n) hpos
  rw [number?_of_width? h, BigEndian.decodeInt?_encodeInt (by omega) (by omega), Option.map_some,
    Option.some_inj, Int.cast_inj]
  constructor
  · intro hcut
    omega
  · rintro ⟨hn, hn'⟩
    exact Int.bmod_eq_of_le (by omega) (by omega)

/-- An integer type keeps the integers of its range. -/
lemma keeps_iff_of_width? (h : type.width? = some width) (k : Int64) :
    ∃ bytes, (Parameter.ofInt k type).encode (some type) = some bytes ∧
      (Cell.number? type bytes = some (k.toInt : ℚ) ↔ type.Keeps k.toInt) := by
  cases type with
  | int2 =>
    cases h
    refine ⟨_, rfl, ?_⟩
    rw [k.toInt_toInt16]
    refine (number?_cut_iff rfl k.toInt).trans ?_
    rw [ColumnType.Keeps]
    omega
  | int4 =>
    cases h
    refine ⟨_, rfl, ?_⟩
    rw [k.toInt_toInt32]
    refine (number?_cut_iff rfl k.toInt).trans ?_
    rw [ColumnType.Keeps]
    omega
  | int8 =>
    cases h
    have hlow := k.le_toInt
    have hhigh := k.toInt_lt
    refine ⟨_, rfl, iff_of_true ?_ trivial⟩
    rw [number?_of_width? rfl, BigEndian.decodeInt?_encodeInt (by omega) (by omega)]
    rfl
  | _ => cases h

/-! ## Integers under other types -/

lemma decode_encodeInt_eight (z : ℤ) :
    BigEndian.decode (BigEndian.encodeInt 8 z) = (z % 2 ^ 64).toNat := by
  rw [BigEndian.encodeInt, BigEndian.decode_encode, Nat.mod_eq_of_lt]
  · rfl
  · omega

lemma readExact?_zero : readExact? ['0'] = some 0 := by
  have hread : readScientific? ['0'] = some (0, 0) := rfl
  rw [readExact?, hread, Option.map_some, Nat.cast_zero, zero_mul]
  · exact nofun
  · exact nofun

/-- Eight bytes without any after them have no groups, and are zero or no number. -/
lemma number?_numeric_of_length (h : bytes.length = 8) {x : ℚ}
    (hx : Cell.number? .numeric bytes = some x) : x = 0 := by
  rw [number?_numeric, Numeric.readText] at hx
  cases hread : Numeric.read bytes with
  | error e =>
    rw [hread] at hx
    cases hx
  | ok number =>
    rw [hread] at hx
    obtain ⟨c₁, c₀, w₁, w₀, s₁, s₀, d₁, d₀, rest, rfl, hgroups, hreading⟩ :=
      Numeric.exists_of_read hread
    have hrest : rest = [] := by simpa using h
    have hcount : (BigEndian.decodeInt [c₁, c₀]).toNat = 0 := by
      rw [hrest, List.length_nil] at hgroups
      omega
    cases hreading with
    | nan => cases hx
    | infinity => cases hx
    | negativeInfinity => cases hx
    | finite hsign =>
      rw [hcount, hrest] at hx
      change readExact? (Numeric.text (.finite _ _ _ [])).toList = some x at hx
      rw [Numeric.text, Numeric.finiteText, if_pos rfl, String.toList_ofList,
        readExact?_zero] at hx
      exact (Option.some.inj hx).symm

/-- A type of numbers that is no integer type keeps no integer but zero, which is zero in eight
bytes too. -/
lemma keeps_iff_of_other (htype : type.isNumeric = true) (hwidth : type.width? = none) (k : Int64) :
    ∃ bytes, (Parameter.ofInt k type).encode (some type) = some bytes ∧
      (Cell.number? type bytes = some (k.toInt : ℚ) ↔ type.Keeps k.toInt) := by
  have hlength := BigEndian.length_encodeInt 8 k.toInt
  cases type with
  | float4 =>
    refine ⟨_, rfl, iff_of_false ?_ id⟩
    rw [number?_float4, if_neg (by omega)]
    exact nofun
  | float8 =>
    refine ⟨_, rfl, ?_⟩
    rw [number?_float8, if_pos hlength, decode_encodeInt_eight]
    exact number?_bits k.le_toInt k.toInt_lt
  | numeric =>
    refine ⟨_, rfl, fun h => ?_, fun h => ?_⟩
    · exact_mod_cast number?_numeric_of_length hlength h
    · rw [show k.toInt = 0 from h, number?_numeric]
      exact readExact?_zero
  | int2 => cases hwidth
  | int4 => cases hwidth
  | int8 => cases hwidth
  | _ => cases htype

/-! ## Decimals -/

/-- Bytes of characters that a number has, where the first is no letter. -/
structure Marks (bytes : List UInt8) : Prop where
  bounds : ∀ b ∈ bytes, 43 ≤ b.toNat ∧ b.toNat ≤ 101
  front : ∃ b r, bytes = b :: r ∧ b.toNat ≤ 57

lemma marks_of_numeral {cs : List Char} {digits : ℕ} {exp : ℤ} (h : Numeral cs digits exp) :
    Marks (cs.map fun c => UInt8.ofNat c.toNat) := by
  have hbyte : ∀ c ∈ cs, (UInt8.ofNat c.toNat).toNat = c.toNat := by
    intro c hc
    have hchar := h.chars c hc
    rw [UInt8.toNat_ofNat', Nat.mod_eq_of_lt]
    omega
  refine ⟨fun b hb => ?_, ?_⟩
  · obtain ⟨c, hc, rfl⟩ := List.mem_map.mp hb
    rw [hbyte c hc]
    exact h.chars c hc
  · obtain ⟨c, r, rfl, hfront⟩ := h.front
    exact ⟨_, _, List.map_cons, (hbyte c List.mem_cons_self).trans_le hfront⟩

lemma Marks.decode_bounds (h : Marks bytes) :
    ∃ n, bytes.length = n + 1 ∧ 43 * 256 ^ n ≤ BigEndian.decode bytes ∧
      BigEndian.decode bytes < 58 * 256 ^ n := by
  obtain ⟨b, r, rfl, hfront⟩ := h.front
  have hb := h.bounds b List.mem_cons_self
  have hr := BigEndian.decode_lt r
  have hlow := Nat.mul_le_mul_right (256 ^ r.length) hb.1
  have hhigh := Nat.mul_le_mul_right (256 ^ r.length) hfront
  refine ⟨r.length, rfl, ?_, ?_⟩
  · rw [BigEndian.decode_cons]
    omega
  · rw [BigEndian.decode_cons]
    omega

lemma Marks.decode_pos (h : Marks bytes) : 0 < BigEndian.decode bytes := by
  obtain ⟨n, -, hlow, -⟩ := h.decode_bounds
  exact lt_of_lt_of_le (by positivity) hlow

/-- The sign bit is not set. -/
lemma Marks.decodeInt_eq (h : Marks bytes) :
    BigEndian.decodeInt bytes = BigEndian.decode bytes := by
  obtain ⟨n, hlength, -, hhigh⟩ := h.decode_bounds
  rw [BigEndian.decodeInt, if_pos]
  rw [hlength, pow_succ]
  omega

/-- The last byte is no multiple of 128. -/
lemma Marks.not_dvd_decode (h : Marks bytes) : ¬ 128 ∣ BigEndian.decode bytes := by
  rcases List.eq_nil_or_concat' bytes with rfl | ⟨init, last, rfl⟩
  · obtain ⟨b, r, hbytes, -⟩ := h.front
    cases hbytes
  · have hlast := h.bounds last (by simp)
    rw [BigEndian.decode_append_singleton]
    omega

section Decimals

variable {cs : List Char} {digits : ℕ} {exp : ℤ} {x : ℚ}

/-- As an integer, the bytes of a number are not its digits counted by the power of ten. -/
lemma decode_ne (hwidth : width = 2 ∨ width = 4 ∨ width = 8) (hlength : bytes.length = width)
    (hmarks : Marks bytes) (hdigits : digits < 10 ^ width)
    (hspare : 0 < exp → ∃ n, width = n + 2 ∧ digits < 10 ^ n) :
    (BigEndian.decode bytes : ℚ) ≠ digits * 10 ^ exp := by
  intro heq
  obtain ⟨n, hn, hlow, -⟩ := hmarks.decode_bounds
  have hlarge : 10 ^ width < 43 * 256 ^ n := by
    rcases hwidth with rfl | rfl | rfl
    · obtain rfl : n = 1 := by omega
      decide
    · obtain rfl : n = 3 := by omega
      decide
    · obtain rfl : n = 7 := by omega
      decide
  rcases le_or_gt exp 0 with hexp | hexp
  -- A power of ten below one makes no more of the digits than they are.
  · have hle : (BigEndian.decode bytes : ℚ) ≤ digits := by
      rw [heq]
      exact mul_le_of_le_one_right (by positivity) (zpow_le_one_of_nonpos₀ (by norm_num) hexp)
    have hle : BigEndian.decode bytes ≤ digits := by exact_mod_cast hle
    omega
  · obtain ⟨k, rfl⟩ : ∃ k : ℕ, exp = k := ⟨exp.toNat, by omega⟩
    have heq : BigEndian.decode bytes = digits * 10 ^ k := by exact_mod_cast heq
    -- An exponent takes two characters, and a small one cannot make up for them; a large one makes
    -- the number a multiple of 128.
    rcases Nat.lt_or_ge k 7 with hk | hk
    · obtain ⟨spare, hspare, hdigits⟩ := hspare hexp
      have hscale : 10 ^ k ≤ 10 ^ 6 := Nat.pow_le_pow_right (by decide) (by omega)
      have hle : BigEndian.decode bytes ≤ digits * 10 ^ 6 := by
        rw [heq]
        exact Nat.mul_le_mul_left digits hscale
      rcases hwidth with rfl | rfl | rfl
      · obtain ⟨rfl, rfl⟩ : n = 1 ∧ spare = 0 := by omega
        omega
      · obtain ⟨rfl, rfl⟩ : n = 3 ∧ spare = 2 := by omega
        omega
      · obtain ⟨rfl, rfl⟩ : n = 7 ∧ spare = 6 := by omega
        omega
    · refine hmarks.not_dvd_decode ?_
      rw [heq]
      exact Dvd.dvd.mul_left ((by decide : 128 ∣ 10 ^ 7).trans (pow_dvd_pow 10 hk)) digits

/-- As a narrow float, the bytes of a number are positive and tiny. -/
lemma number?_float4_of_marks (hmarks : Marks bytes) (h : Cell.number? .float4 bytes = some x) :
    bytes.length = 4 ∧ 0 < x ∧ x < 2 ^ (-8 : ℤ) ∧ ∃ (m : ℕ) (q : ℤ), x = m * 2 ^ q := by
  rw [number?_float4] at h
  split at h
  · rename_i hlength
    obtain ⟨n, hn, hlow, hhigh⟩ := hmarks.decode_bounds
    obtain rfl : n = 3 := by omega
    have hbits : (UInt32.ofNat (BigEndian.decode bytes)).toNat = BigEndian.decode bytes := by
      rw [UInt32.toNat_ofNat', Nat.mod_eq_of_lt]
      omega
    rw [Binary32.number?] at h
    split at h
    · rw [Binary32.isNegative, hbits, decide_eq_false (by omega), if_neg Bool.false_ne_true,
        Option.some_inj, Binary32.magnitude, Binary32.exponent, Binary32.fraction, hbits] at h
      have hexponent : BigEndian.decode bytes / 2 ^ 23 % 2 ^ 8 ≠ 0 := by omega
      have hfraction : BigEndian.decode bytes % 2 ^ 23 < 2 ^ 23 := Nat.mod_lt _ (by decide)
      have hplace :
          ((23 : ℕ) : ℤ) + -149 + (BigEndian.decode bytes / 2 ^ 23 % 2 ^ 8 : ℕ) ≤ -8 := by
        omega
      obtain ⟨hpos, hlt⟩ := Magnitude.value_lt_of_ofFields hexponent hfraction hplace
      rw [h] at hpos hlt
      exact ⟨hlength, hpos, hlt, _, _, h.symm⟩
    · cases h
  · cases h

/-- As a float, the bytes of a number are positive and tiny. -/
lemma number?_float8_of_marks (hmarks : Marks bytes) (h : Cell.number? .float8 bytes = some x) :
    bytes.length = 8 ∧ 0 < x ∧ x < 2 ^ (-16 : ℤ) ∧ ∃ (m : ℕ) (q : ℤ), x = m * 2 ^ q := by
  rw [number?_float8] at h
  split at h
  · rename_i hlength
    obtain ⟨n, hn, hlow, hhigh⟩ := hmarks.decode_bounds
    obtain rfl : n = 7 := by omega
    have hbits : (UInt64.ofNat (BigEndian.decode bytes)).toNat = BigEndian.decode bytes := by
      rw [UInt64.toNat_ofNat', Nat.mod_eq_of_lt]
      omega
    rw [Binary64.number?] at h
    split at h
    · rw [Binary64.isNegative, hbits, decide_eq_false (by omega), if_neg Bool.false_ne_true,
        Option.some_inj, Binary64.magnitude, Binary64.exponent, Binary64.fraction, hbits] at h
      have hexponent : BigEndian.decode bytes / 2 ^ 52 % 2 ^ 11 ≠ 0 := by omega
      have hfraction : BigEndian.decode bytes % 2 ^ 52 < 2 ^ 52 := Nat.mod_lt _ (by decide)
      have hplace :
          ((52 : ℕ) : ℤ) + -1074 + (BigEndian.decode bytes / 2 ^ 52 % 2 ^ 11 : ℕ) ≤ -16 := by
        omega
      obtain ⟨hpos, hlt⟩ := Magnitude.value_lt_of_ofFields hexponent hfraction hplace
      rw [h] at hpos hlt
      exact ⟨hlength, hpos, hlt, _, _, h.symm⟩
    · cases h
  · cases h

/-- As an exact number, the bytes of a number have no sign that exists. -/
lemma number?_numeric_of_marks (hmarks : Marks bytes) : Cell.number? .numeric bytes = none := by
  rw [number?_numeric, Numeric.readText]
  cases hread : Numeric.read bytes with
  | error e => rfl
  | ok number =>
    obtain ⟨c₁, c₀, w₁, w₀, s₁, s₀, d₁, d₀, rest, rfl, -, hreading⟩ := Numeric.exists_of_read hread
    have hhigh := hmarks.bounds s₁ (by simp)
    have hlow := hmarks.bounds s₀ (by simp)
    have hsign : BigEndian.decode [s₁, s₀] = 256 * s₁.toNat + s₀.toNat := by
      rw [BigEndian.decode]
      simp
    cases hreading with
    | nan hnan => omega
    | infinity hinfinity => omega
    | negativeInfinity hinfinity => omega
    | finite hfinite => omega

/-- The text of a decimal, taken for bytes of a type of numbers, is another number or none. -/
lemma number?_ne_of_numeral (htype : type.isNumeric = true) (h : Numeral cs digits exp)
    (hx : x = digits * 10 ^ exp ∨ x = -(digits * 10 ^ exp)) :
    Cell.number? type (cs.map fun c => UInt8.ofNat c.toNat) ≠ some x := by
  have hmarks := marks_of_numeral h
  have hlength : (cs.map fun c => UInt8.ofNat c.toNat).length = cs.length := List.length_map ..
  generalize cs.map (fun c => UInt8.ofNat c.toNat) = bytes at *
  intro hread
  -- What the bytes stand for is positive, so that the sign of the decimal is none.
  have hunsigned : 0 < x → x = digits * 10 ^ exp := by
    intro hpos
    rcases hx with hx | hx
    · exact hx
    · have hsize : (0 : ℚ) ≤ digits * 10 ^ exp := by positivity
      linarith
  have hfloat : ∀ {width : ℕ}, bytes.length = width → 0 < x → x < 2 ^ (-(2 * width) : ℤ) →
      (∃ (m : ℕ) (q : ℤ), x = m * 2 ^ q) → False := by
    intro width hwidth hpos hlt hdyadic
    obtain ⟨m, q, hdyadic⟩ := hdyadic
    have hequal := hunsigned hpos
    have hdigits := h.digits_lt
    rw [← hlength, hwidth] at hdigits
    have hle := le_of_dyadic (hequal ▸ hpos) hdigits (hequal ▸ hdyadic)
    rw [← hequal] at hle
    linarith
  cases hwidth : type.width? with
  | some width =>
    rw [number?_of_width? hwidth, BigEndian.decodeInt?] at hread
    split at hread
    · rename_i hbytes
      have hwidth : width = 2 ∨ width = 4 ∨ width = 8 := by
        cases type <;> cases hwidth <;> simp
      rw [Option.map_some, Option.some_inj, hmarks.decodeInt_eq, Int.cast_natCast] at hread
      have hpos : 0 < x := by
        rw [← hread]
        exact_mod_cast hmarks.decode_pos
      refine decode_ne hwidth hbytes hmarks ?_ ?_ (hread.trans (hunsigned hpos))
      · rw [← hbytes, hlength]
        exact h.digits_lt
      · rw [← hbytes, hlength]
        exact h.spare
    · cases hread
  | none =>
    cases type with
    | float4 =>
      obtain ⟨hfour, hpos, hlt, hdyadic⟩ := number?_float4_of_marks hmarks hread
      exact hfloat hfour hpos hlt hdyadic
    | float8 =>
      obtain ⟨height, hpos, hlt, hdyadic⟩ := number?_float8_of_marks hmarks hread
      exact hfloat height hpos hlt hdyadic
    | numeric =>
      rw [number?_numeric_of_marks hmarks] at hread
      cases hread
    | int2 => cases hwidth
    | int4 => cases hwidth
    | int8 => cases hwidth
    | _ => cases htype

end Decimals

/-- An integer comes through a parameter of a type of numbers exactly if the type is an integer
type that has it in its range, or the integer is zero and the type is a float of eight bytes or
exact.  No decimal comes through any of them. -/
theorem binding_keeps_iff (type : ColumnType) (htype : type.isNumeric = true) (v : Value) :
    (∀ n, v.integer? = some n → ∃ bytes, Parameter.sent? type v = some bytes ∧
      (Cell.number? type bytes = some (n : ℚ) ↔ type.Keeps n)) ∧
    ∀ text x, v = .decimal text → v.number? = some x →
      ∃ bytes, Parameter.sent? type v = some bytes ∧ Cell.number? type bytes ≠ some x := by
  refine ⟨fun n hn => ?_, fun text x hv hx => ?_⟩
  · obtain ⟨k, rfl, hbound⟩ := ofValueFor_of_integer? hn type
    rw [Parameter.sent?, hbound]
    cases hwidth : type.width? with
    | some width => exact keeps_iff_of_width? hwidth k
    | none => exact keeps_iff_of_other htype hwidth k
  · subst hv
    obtain ⟨digits, exp, hnumeral, hx⟩ := numeral_of_readExact? hx
    have hascii : ∀ c ∈ text.toList, c.toNat < 128 := by
      intro c hc
      have hchar := hnumeral.chars c hc
      omega
    refine ⟨text.toUTF8.toList, rfl, ?_⟩
    rw [toUTF8_toList_of_ascii hascii]
    exact number?_ne_of_numeral htype hnumeral hx

/-- An integer that is sent for a float, and a decimal that is sent for an exact number. -/
theorem binding_keeps_iff_mismatched :
    (ColumnType.float8.isNumeric = true ∧ (Value.int64 5).integer? = some 5 ∧
      ∃ bytes, Parameter.sent? .float8 (.int64 5) = some bytes ∧
        Cell.number? .float8 bytes ≠ some (5 : ℤ)) ∧
    ColumnType.numeric.isNumeric = true ∧ (Value.decimal "0").number? = some 0 ∧
      ∃ bytes, Parameter.sent? .numeric (.decimal "0") = some bytes ∧
        Cell.number? .numeric bytes ≠ some 0 := by
  refine ⟨⟨rfl, rfl, ?_⟩, rfl, readExact?_zero, ?_⟩
  · obtain ⟨bytes, hsent, hkeeps⟩ := (binding_keeps_iff .float8 rfl (.int64 5)).1 5 rfl
    have hlost : ¬ ColumnType.float8.Keeps 5 := by
      rw [ColumnType.Keeps]
      · decide
      all_goals exact nofun
    exact ⟨bytes, hsent, mt hkeeps.mp hlost⟩
  · exact (binding_keeps_iff .numeric rfl (.decimal "0")).2 "0" 0 rfl readExact?_zero

/-- Five is sent to a float as an integer, which is read as another number; a large integer is cut
to two bytes, which are another integer. -/
theorem binding_changes_numbers :
    (Parameter.sent? .float8 (.int64 5) = some [0, 0, 0, 0, 0, 0, 0, 5] ∧
      Cell.number? .float8 [0, 0, 0, 0, 0, 0, 0, 5] ≠ some 5) ∧
    Parameter.sent? .int2 (.int64 70000) = some [0x11, 0x70] ∧
      Cell.number? .int2 [0x11, 0x70] = some 4464 := by
  refine ⟨⟨rfl, fun h => ?_⟩, rfl, ?_⟩
  · rw [number?_float8, if_pos (by decide)] at h
    have hbits := number?_bits (z := 5) (by decide) (by decide)
    exact absurd (hbits.mp h) (by decide)
  · rw [number?_of_width? rfl]
    rfl

end Postgres

end BulkValues
