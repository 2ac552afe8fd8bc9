/-
# Sections

A section holds the settings of a connection or of a pool: texts by name.  Some names are
about the pool or choose the driver; the others are parameters of the connection.
-/
import BulkValues.ConnectionConfig
import BulkValues.Number.Reader
import BulkValues.Number.Style
import BulkValues.Pool.Config
import BulkValues.Text.Blank
import BulkValues.Toml.Basic

namespace BulkValues

open BulkValues.Number BulkValues.Text

-- The power is the core library's, also where another one is in scope.
attribute [local instance (high)] instPowNat

/-- The two sections of a node. -/
inductive SectionKind where
  | connection
  | connectionPool
deriving DecidableEq, Repr

/-- The name of a section. -/
def SectionKind.name : SectionKind → String
  | connection => "connection"
  | connectionPool => "connection_pool"

/-- The settings of a section. -/
structure Section where
  /-- The settings. -/
  params : Params

namespace Section

instance : BEq Section := ⟨fun s t => s.params == t.params⟩

/-- No settings. -/
def empty : Section := ⟨.empty⟩

/-- The text of a setting, which must be a scalar. -/
def settingText (key : String) : Toml → Except Error String
  | .string s => .ok s
  | .integer n => .ok (toString n)
  | .float x => .ok x.display
  | .boolean b => .ok (if b then "true" else "false")
  | .date text => .ok text
  | v => .error (.compoundSetting key v.typeName)

/-- The settings of named values. -/
def ofFields (params : Params) : List (String × Toml) → Except Error Section
  | [] => .ok ⟨params⟩
  | (key, v) :: rest => do
    let text ← settingText key v
    ofFields (params.insert key text) rest

/-- The settings of a table; of several that are no scalars the first by name is reported. -/
def ofTable (fields : List (String × Toml)) : Except Error Section :=
  ofFields .empty (fields.mergeSort fun a b => decide (a.1 ≤ b.1))

/-- A setting. -/
def get? (s : Section) (key : String) : Option String := s.params.get? key

/-- Settings set by the caller over those that are there. -/
def withOverrides (s : Section) (overrides : List (String × String)) : Section :=
  ⟨s.params.insertAll overrides⟩

/-- The name of the driver. -/
def driver (s : Section) : String := (s.get? "driver").getD "postgres"

/-- The settings that are about the pool. -/
def poolKeys : List String :=
  ["min_size", "max_size", "timeout_ms", "max_waiting", "max_lifetime_ms", "max_idle_ms", "name"]

/-- Whether a setting is a parameter of the connection. -/
def isConnectionKey (key : String) : Bool := key != "driver" && !poolKeys.contains key

/-- The parameters of the connection. -/
def connectionParams (s : Section) : Params := s.params.filter isConnectionKey

/-! ## Connection strings -/

/-- Whether a text must be quoted in a connection string. -/
def needsQuotes (cs : List Char) : Bool :=
  cs.isEmpty || cs.any fun c => isBlank c || c == '\'' || c == '\\'

/-- Inside quotes a backslash stands before quotes and backslashes. -/
def escapeQuoted : List Char → List Char
  | [] => []
  | c :: r =>
    if c = '\\' || c = '\'' then '\\' :: c :: escapeQuoted r else c :: escapeQuoted r

/-- A text in a connection string. -/
def conninfoChars (cs : List Char) : List Char :=
  if needsQuotes cs then '\'' :: (escapeQuoted cs ++ ['\'']) else cs

/-- One parameter of a connection string. -/
def conninfoParam (e : String × String) : String :=
  e.1 ++ "=" ++ String.ofList (conninfoChars e.2.toList)

/-- The connection string of a section: its parameters, separated by spaces. -/
def conninfo (s : Section) : String :=
  " ".intercalate (s.connectionParams.entries.map conninfoParam)

/-! ## Configurations -/

/-- The configuration of a connection under a name. -/
def toConnectionConfig (s : Section) (name : String) : ConnectionConfig :=
  { name, driver := s.driver, params := s.connectionParams }

/-- A setting that must be a natural number of 64 bits if it is there. -/
def natural? (s : Section) (key : String) : Except Error (Option Nat) :=
  match s.get? key with
  | none => .ok none
  | some text =>
    match readNat? (2 ^ (64 : Nat)) (trimChars text.toList) with
    | some n => .ok (some n)
    | none => .error (.badSetting key text)

/-- The configuration of the pool; what is not set has its usual value. -/
def poolConfig (s : Section) : Except Error Pool.Config := do
  let minSize := (← s.natural? "min_size").getD Pool.Config.standard.minSize
  let maxSize := (← s.natural? "max_size").getD (max minSize 1)
  let config ← Pool.Config.ofSizes minSize maxSize
  let acquireTimeout := (← s.natural? "timeout_ms").getD 30000
  let idleTimeout := (← s.natural? "max_idle_ms").getD 600000
  let maxLifetime := (← s.natural? "max_lifetime_ms").getD 3600000
  let maxWaiting := (← s.natural? "max_waiting").getD 0
  pure { config with
    acquireTimeout, idleTimeout, maxLifetime := some maxLifetime, maxWaiting,
    givenName := s.get? "name" }

end Section

end BulkValues
