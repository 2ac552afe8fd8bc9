/-
# Universally unique identifiers

An identifier is sixteen bytes, written as thirty-two lower-case hexadecimal digits in five
groups.  Reading also takes upper case, the digits without hyphens, and the identifier in
braces or behind the name of its scheme.
-/
import BulkValues.Text.Hex

namespace BulkValues

open BulkValues.Text

/-- Sixteen bytes. -/
structure Uuid where
  /-- The bytes in the order they are written. -/
  bytes : List UInt8
  length_eq : bytes.length = 16
deriving DecidableEq

namespace Uuid

/-- The identifier with these bytes, if there are sixteen. -/
def ofBytes? (bytes : List UInt8) : Option Uuid :=
  if h : bytes.length = 16 then some ⟨bytes, h⟩ else none

/-- Five groups of hexadecimal digits with hyphens. -/
def text (u : Uuid) : String :=
  let group (start len : Nat) := hexText ((u.bytes.drop start).take len)
  group 0 4 ++ "-" ++ group 4 2 ++ "-" ++ group 6 2 ++ "-" ++ group 8 2 ++ "-" ++ group 10 6

/-- The digits of five groups with hyphens between them, without the hyphens. -/
def ungroup? (cs : List Char) : Option (List Char) :=
  if cs.length = 36 ∧ [8, 13, 18, 23].all (fun i => cs[i]? = some '-') then
    some (cs.take 8 ++ (cs.drop 9).take 4 ++ (cs.drop 14).take 4 ++ (cs.drop 19).take 4 ++
      cs.drop 24)
  else none

/-- The name that may stand before a grouped identifier. -/
def scheme : List Char := ['u', 'r', 'n', ':', 'u', 'u', 'i', 'd', ':']

/-- An identifier from its text. -/
def read? (s : String) : Option Uuid :=
  let cs := s.toList
  let digits : Option (List Char) :=
    if cs.length = 32 then some cs
    else if cs.length = 36 then ungroup? cs
    else if cs.length = 38 ∧ cs.head? = some '{' ∧ cs.getLast? = some '}' then
      ungroup? (cs.drop 1).dropLast
    else if cs.length = 45 ∧ cs.take 9 = scheme then ungroup? (cs.drop 9)
    else none
  (digits.bind readHex?).bind ofBytes?

end Uuid

end BulkValues
