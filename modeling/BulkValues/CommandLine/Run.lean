/-
# Running the command line

A run reads its arguments, then the settings of the node, then the rows; it opens the database,
runs the batch and shows what came back or how many rows there were.  The first of these steps
that fails ends the run, and its failure is reported with what lies behind it.  All that a run
can see is given to it, and all that it does is in its outcome.
-/
import BulkValues.Cache.Step
import BulkValues.CommandLine.Help
import BulkValues.Postgres.Connect
import BulkValues.Record.Document
import BulkValues.Sqlite.Batch
import BulkValues.Sqlite.Connect
import BulkValues.Sqlite.Items
import BulkValues.Table

namespace BulkValues.CommandLine

/-- What a run can see. -/
structure Surroundings where
  /-- The files; paths start from the working directory. -/
  files : FileTree
  /-- The working directory. -/
  directory : String
  /-- The variables of the environment. -/
  environment : List (String × String)
  /-- What can be read from standard input. -/
  input : String

/-- A failure of a run: what it was about, and the reason behind it. -/
structure Failure where
  /-- What is said first. -/
  text : String
  /-- The reason behind it. -/
  cause : Option String := none
  /-- The reason has a reason of its own, so that reasons are numbered. -/
  isNumbered : Bool := false
  /-- The run breaks off. -/
  breaksOff : Bool := false

namespace Failure

/-- An error without more words. -/
def ofError (e : Error) : Failure := { text := e.message, breaksOff := e.breaksOff }

/-- An error behind a text. -/
def behind (text : String) (e : Error) : Failure :=
  { text, cause := some e.message, isNumbered := e.kind = .settingsFile, breaksOff := e.breaksOff }

/-- Rows that could not be read. -/
def ofRowsError (e : RowsError) : Failure :=
  { text := e.message, cause := e.cause?.map Error.message }

/-- The lines of a reason; all but the first are indented alike. -/
def causeLines (isNumbered : Bool) (cause : String) : List String :=
  let lines := cause.splitOn "\n"
  if isNumbered then
    lines.zipIdx.map fun (line, i) => (if i = 0 then "    0: " else "       ") ++ line
  else lines.map ("    " ++ ·)

/-- The lines of a failure on standard error. -/
def lines (f : Failure) : List String :=
  ("Error: " ++ f.text).splitOn "\n" ++ match f.cause with
    | none => []
    | some cause => ["", "Caused by:"] ++ causeLines f.isNumbered cause

end Failure

/-- What a run says on standard error. -/
inductive Report where
  /-- Nothing, apart from the log. -/
  | silent
  /-- How the program is used. -/
  | usage
  /-- That the value of an option is wrong. -/
  | invalid (flag : Flag) (value reason : String)
  /-- What failed. -/
  | failed (failure : Failure)

/-- What a run comes to. -/
structure Outcome where
  /-- The exit code. -/
  code : Nat
  /-- The lines on standard output. -/
  output : List String
  /-- What is said on standard error. -/
  report : Report
  /-- The files afterwards. -/
  files : FileTree
  /-- The directory of the log, if it was made. -/
  logDirectory : Option String

/-- What is said about the wrong value of an option. -/
def invalidText (flag : Flag) (value reason : String) : String :=
  "error: invalid value '" ++ value ++ "' for '" ++ flag.shown ++ "': " ++ reason

/-- The lines of a report on standard error. -/
def Report.lines : Report → List String
  | .silent => []
  | .usage => ["error: the arguments do not fit together", "",
      "For more information, try '--help'."]
  | .invalid flag value reason =>
    (invalidText flag value reason).splitOn "\n" ++ ["", "For more information, try '--help'."]
  | .failed f => f.lines

/-! ## Steps -/

/-- The home directory. -/
def homeOf (s : Surroundings) : String := (s.environment.lookup "HOME").getD s.directory

/-- The directory of the log if none is named. -/
def usualLogDirectory (s : Surroundings) : String :=
  let data := match s.environment.lookup "XDG_DATA_HOME" with
    | some path => if path.startsWith "/" then path else FileTree.join (homeOf s) ".local/share"
    | none => FileTree.join (homeOf s) ".local/share"
  FileTree.join (FileTree.join data programName) "logs"

/-- The directory of the log, if one is written. -/
def logDirectoryOf (s : Surroundings) (a : Arguments) : Option String :=
  a.logDir.map fun named => FileTree.join s.directory (named.getD (usualLogDirectory s))

/-- The text of the rows. -/
def rowsText (s : Surroundings) (path : String) : Except Failure String :=
  if path = "-" then .ok s.input
  else match s.files.readText path with
    | .ok text => .ok text
    | .error e => .error { text := "failed to read rows from " ++ path, cause := some e.message }

/-- The rows. -/
def readRows (s : Surroundings) (path : String) : Except Failure (List Record) := do
  let text ← rowsText s path
  (Record.readAll text).mapError Failure.ofRowsError

/-- The configuration of the connection: that of the node, or that of its pool. -/
def plan (a : Arguments) (node : Node) : Except Error ConnectionConfig :=
  let cache : Cache := { node, registry := .builtIn }
  if a.pool then
    let key := Cache.Key.ofOverrides .connectionPool a.settings
    (cache.poolPlan (key.effectiveSection node)).map (·.2)
  else cache.connectionPlan ((Cache.Key.ofOverrides .connection a.settings).effectiveSection node)

/-- Open the connection. There are no servers to be reached. -/
def connect (s : Surroundings) (c : ConnectionConfig) : Except Error Unit :=
  if Registry.lookupName c.driver = Driver.sqlite.name then
    Sqlite.connect s.files ⟨homeOf s, s.directory⟩ c
  else Postgres.connect s.files (fun _ _ => .error "error connecting to server") c

/-- Run the batch on a database that was just opened. -/
def runBatch (a : Arguments) (rows : List Record) :
    Except Error (Option (List Row)) × Option String :=
  let o : Batch.Options := ⟨a.pageSize, a.fetch, a.debug⟩
  let db := Sqlite.BatchRun.database Sqlite.Catalog.engine a.dumpTo.isSome
  let (result, run) := Batch.execute db o (a.query.getD "") (a.template.getD "") rows
    (.fresh (.opened none))
  (result, run.kept)

/-- The files after a statement that failed was kept; if it cannot be written nothing happens. -/
def keepStatement (files : FileTree) (path sql : Option String) : FileTree :=
  match path, sql with
  | some path, some sql =>
    match files.write path sql.toUTF8.toList with
    | .ok files => files
    | .error _ => files
  | _, _ => files

/-- The lines that show what a batch came to. -/
def resultLines (rows : List Record) : Option (List Row) → List String
  | some found => Table.lines found ++ [toString found.length ++ " row(s) returned"]
  | none => [toString rows.length ++ " row(s) processed"]

/-- The settings, the rows and the connection, in this order. -/
def prepare (s : Surroundings) (a : Arguments) : Except Failure (List Record) := do
  let node ← (Node.resolve s.files a.node a.config s.directory).mapError
    (Failure.behind "failed to load node settings")
  let rows ← readRows s (a.rows.getD "")
  let config ← (plan a node).mapError Failure.ofError
  (connect s config).mapError Failure.ofError
  pure rows

/-- A run that failed. -/
def Outcome.ofFailure (f : Failure) (files : FileTree) (logDirectory : Option String) : Outcome :=
  { code := if f.breaksOff then 101 else 1, output := [], report := .failed f, files, logDirectory }

/-- Do what the arguments ask for, after the log was opened. -/
def perform (s : Surroundings) (a : Arguments) (logDirectory : Option String) : Outcome :=
  match prepare s a with
  | .error f => .ofFailure f s.files logDirectory
  | .ok rows =>
    let (result, kept) := runBatch a rows
    let files := keepStatement s.files a.dumpTo kept
    match result with
    | .error e => .ofFailure (.ofError e) files logDirectory
    | .ok found => ⟨0, resultLines rows found, .silent, files, logDirectory⟩

/-- Open the log and do what the arguments ask for. -/
def performLogged (s : Surroundings) (a : Arguments) : Outcome :=
  match logDirectoryOf s a with
  | none => perform s a none
  | some directory =>
    match s.files.makeDirectory directory with
    | .error e => .ofFailure { text := e.message } s.files none
    | .ok files => perform { s with files } a (some directory)

/-- A run with some arguments. -/
def run (s : Surroundings) (arguments : List String) : Outcome :=
  match Arguments.read s.environment arguments with
  | .ok a => performLogged s a
  | .error .usage => ⟨2, [], .usage, s.files, none⟩
  | .error (.invalid flag value reason) =>
    ⟨2, [], .invalid flag value reason, s.files, none⟩
  | .error .help => ⟨0, helpText s.environment, .silent, s.files, none⟩
  | .error .version => ⟨0, [programName ++ " " ++ programVersion], .silent, s.files, none⟩

/-! ## What a run looks at -/

/-- The files that a connection needs: those of its transport security, or its database. -/
def connectionPaths (s : Surroundings) (c : ConnectionConfig) : List String :=
  let tls := ["sslrootcert", "ssl_ca_cert", "sslcert", "ssl_client_cert", "sslkey",
    "ssl_client_key"].filterMap c.get?
  let database := match (Sqlite.pathOf c).bind (Sqlite.expandPath ⟨homeOf s, s.directory⟩) with
    | .ok path => [path, FileTree.parentOf path]
    | .error _ => []
  tls ++ database

/-- The files and directories that a run looks at, as far as they can be told from the files that
are known. -/
def pathsOf (s : Surroundings) (arguments : List String) : List String :=
  match Arguments.read s.environment arguments with
  | .error _ => []
  | .ok a =>
    let settings := match a.config with
      | some path => [path]
      | none =>
        (s.directory :: FileTree.above s.directory).map fun d => FileTree.join d Node.fileName
    let connection := match Node.resolve s.files a.node a.config s.directory with
      | .error _ => []
      | .ok node => match plan a node with
        | .error _ => []
        | .ok c => connectionPaths s c
    settings ++ a.rows.toList ++ a.dumpTo.toList ++ connection

end BulkValues.CommandLine
