/-
# Tuples

One record becomes one tuple: a literal for every slot of the template, each with the slot's
cast.  The tuples of a page are put into the site of the statement in the order of the records.
-/
import BulkValues.Literal.Basic
import BulkValues.Record.Basic
import BulkValues.Site
import BulkValues.Template.Basic

namespace BulkValues

/-- How a connection writes a value as a literal. -/
abbrev Literals := Value → Except Error String

namespace Template

/-- A literal with the cast of its slot. -/
def renderSlot (lit : Literals) (cast : Option Cast) (v : Value) : Except Error String := do
  let text ← lit v
  pure (text ++ Cast.suffixOf cast)

/-- The slots of a named template, filled from the fields of a record. -/
def renderNamed (lit : Literals) (shown : String) (row : Nat) (fields : Fields Value) :
    List NamedSlot → Except Error (List String)
  | [] => .ok []
  | slot :: rest => do
    let v ← match fields.get? slot.name with
      | some v => .ok v
      | none => .error (.missingField row slot.name shown)
    let text ← renderSlot lit slot.cast v
    let texts ← renderNamed lit shown row fields rest
    pure (text :: texts)

/-- The slots of a positional template, filled in order. -/
def renderPositional (lit : Literals) :
    List (Option Cast) → List Value → Except Error (List String)
  | c :: cs, v :: vs => do
    let text ← renderSlot lit c v
    let texts ← renderPositional lit cs vs
    pure (text :: texts)
  | _, _ => .ok []

/-- The texts of the slots of a template, filled from record number `row`. -/
def renderSlots (t : Template) (lit : Literals) (row : Nat) (r : Record) :
    Except Error (List String) :=
  match t, r with
  | .named slots, .named fields => renderNamed lit t.display row fields slots
  | .positional casts, .positional values =>
    if values.length = casts.length then renderPositional lit casts values
    else .error (.wrongLength row values.length t.display casts.length)
  | _, _ => .error (.wrongKind row r.kind t.display t.mode)

/-- The tuple of a record. The record is taken as it is: it must be adapted before. -/
def render (t : Template) (lit : Literals) (row : Nat) (r : Record) : Except Error String := do
  let slots ← t.renderSlots lit row r
  pure ("(" ++ ", ".intercalate slots ++ ")")

end Template

/-- The tuples of a page whose first record has number `first`. -/
def renderPage (t : Template) (lit : Literals) (first : Nat) :
    List Record → Except Error (List String)
  | [] => .ok []
  | r :: rest => do
    let tuple ← t.render lit first r.adapt
    let tuples ← renderPage t lit (first + 1) rest
    pure (tuple :: tuples)

/-- The statement of a page. -/
def composePage (site : Site) (t : Template) (lit : Literals) (first : Nat)
    (page : List Record) : Except Error String := do
  let tuples ← renderPage t lit first page
  pure (site.splice (",".intercalate tuples))

end BulkValues
