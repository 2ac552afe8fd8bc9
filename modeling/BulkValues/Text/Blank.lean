/-
# White space

White space is the Unicode property White_Space: twenty-five characters in ten ranges.
Trimming takes it off the ends of a text; everything else in this library that speaks of
blanks (templates, values sites, settings, drivers' options) means this set.
-/
import BulkValues.Text.Ranges

namespace BulkValues.Text

/-- The code points of White_Space, ascending and apart. -/
def blankRanges : List (Nat × Nat) :=
  [(0x09, 0x0D), (0x20, 0x20), (0x85, 0x85), (0xA0, 0xA0), (0x1680, 0x1680), (0x2000, 0x200A),
    (0x2028, 0x2029), (0x202F, 0x202F), (0x205F, 0x205F), (0x3000, 0x3000)]

/-- Whether a character is white space. -/
def isBlank (c : Char) : Bool := inRanges blankRanges c.toNat

/-- The text after its leading white space. -/
def skipBlanks (cs : List Char) : List Char := cs.dropWhile isBlank

theorem length_skipBlanks_le (cs : List Char) : (skipBlanks cs).length ≤ cs.length :=
  (List.dropWhile_suffix isBlank).length_le

@[simp] theorem skipBlanks_nil : skipBlanks [] = [] := rfl

/-- The text without white space at its end. -/
def dropTrailingBlanks (cs : List Char) : List Char := (skipBlanks cs.reverse).reverse

/-- The text without white space at either end. -/
def trimChars (cs : List Char) : List Char := dropTrailingBlanks (skipBlanks cs)

/-- The text without white space at either end. -/
def trim (s : String) : String := String.ofList (trimChars s.toList)

/-- Whether a text holds nothing but white space. -/
def allBlank (s : String) : Bool := s.toList.all isBlank

end BulkValues.Text
