/-
# Keys of cached objects

A cached object belongs to a section and to the overrides it was asked for with.  Only the last
value of every override counts, and their order does not.
-/
import BulkValues.Settings.Node

namespace BulkValues.Cache

/-- The key of a cached object. -/
structure Key where
  /-- The section it was built from. -/
  kind : SectionKind
  /-- The overrides. -/
  overrides : Params

instance : BEq Key := ⟨fun a b => a.kind == b.kind && a.overrides == b.overrides⟩

namespace Key

/-- The key of a list of overrides. -/
def ofOverrides (kind : SectionKind) (overrides : List (String × String)) : Key :=
  ⟨kind, .ofList overrides⟩

/-- The order of sections: connections before pools. -/
def compareKind : SectionKind → SectionKind → Ordering
  | .connection, .connectionPool => .lt
  | .connectionPool, .connection => .gt
  | _, _ => .eq

/-- The order of overrides: by the first pair that differs, name before value. -/
def compareEntries : List (String × String) → List (String × String) → Ordering
  | [], [] => .eq
  | [], _ :: _ => .lt
  | _ :: _, [] => .gt
  | (k, v) :: rest, (l, w) :: rest' =>
    (compare k l).then ((compare v w).then (compareEntries rest rest'))

/-- The order of keys. -/
def order (a b : Key) : Ordering :=
  (compareKind a.kind b.kind).then (compareEntries a.overrides.entries b.overrides.entries)

/-- The section that a cached object is built from. -/
def effectiveSection (k : Key) (n : Node) : Section :=
  (n.sectionOf k.kind).withOverrides k.overrides.entries

end Key

end BulkValues.Cache
