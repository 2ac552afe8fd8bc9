/-
# Drivers

A registry knows drivers by their names.  A driver is found under its name in any letter case
and under a few other names of the built-in drivers; it is registered, and asked for by `has`,
under its name as it stands.
-/
import BulkValues.Error
import BulkValues.Text.Lowercase

namespace BulkValues

open BulkValues.Text

/-- What a driver says of itself. -/
structure Driver where
  /-- The name. -/
  name : String
  /-- The name it is shown by. -/
  displayName : String
  /-- The usual port of its servers. -/
  defaultPort : Option Nat
deriving DecidableEq

namespace Driver

/-- The driver of PostgreSQL. -/
def postgres : Driver := ⟨"postgres", "PostgreSQL", some 5432⟩

/-- The driver of SQLite. -/
def sqlite : Driver := ⟨"sqlite", "SQLite", none⟩

end Driver

/-- Drivers, each name once. -/
structure Registry where
  /-- The drivers. -/
  drivers : List Driver

namespace Registry

/-- No drivers. -/
def empty : Registry := ⟨[]⟩

/-- Register a driver; one of the same name is replaced. -/
def register (r : Registry) (d : Driver) : Registry :=
  ⟨(r.drivers.filter fun e => e.name != d.name) ++ [d]⟩

/-- The built-in drivers. -/
def builtIn : Registry := (empty.register .sqlite).register .postgres

/-- The name that a driver is looked up under. -/
def lookupName (name : String) : String :=
  let low := lower name
  if low = "postgresql" ∨ low = "pg" then "postgres"
  else if low = "sqlite3" then "sqlite"
  else low

/-- Whether a driver is registered under exactly this name. -/
def has (r : Registry) (name : String) : Bool := r.drivers.any fun d => d.name == name

/-- The driver that a name stands for. -/
def get? (r : Registry) (name : String) : Option Driver :=
  r.drivers.find? fun d => d.name == lookupName name

/-- The names of the drivers, sorted. -/
def names (r : Registry) : List String :=
  (r.drivers.map Driver.name).mergeSort fun a b => decide (a ≤ b)

/-- The driver that a name stands for, which must be there. -/
def require (r : Registry) (name : String) : Except Error Driver :=
  match r.get? name with
  | some d => .ok d
  | none => .error (.unknownDriver name r.names)

end Registry

end BulkValues
