/-
# What can go wrong

Every failure that a caller can see is one of the causes below.  A cause belongs to a kind,
and the kind's label stands before the cause's own text when the error is shown.  Failures
that a database or a server reports are carried with the text it gave.
-/
import BulkValues.Text.Hex

namespace BulkValues

open BulkValues.Text

/-- The kinds of error. -/
inductive ErrorKind where
  | connection
  | query
  | driver
  | template
  | composition
  | configuration
  | io
  | serialization
  | settingsFile
  | notSupported
  | notFound
  | timeout
  | other
deriving DecidableEq, Repr

/-- What stands before the text of an error of this kind. -/
def ErrorKind.label : ErrorKind → String
  | connection => "Connection error: "
  | query => "Query error: "
  | driver => "Driver error: "
  | template => "Template error: "
  | composition => "Composition mismatch: "
  | configuration => "Configuration error: "
  | io => "IO error: "
  | serialization => "Serialization error: "
  | settingsFile => "Settings file error: "
  | notSupported => "Not supported: "
  | notFound => "Not found: "
  | timeout => "Timeout: "
  | other => ""

/-- The causes of failure. -/
inductive Error where
  /-- The template is empty or white space. -/
  | blankTemplate
  /-- The template has no placeholder. -/
  | noPlaceholder
  /-- The query has no place for the list of tuples. -/
  | noSite
  /-- The query has several places for the list of tuples. -/
  | manySites (count : Nat)
  /-- The end of the keyword before the list of tuples falls inside a character. This is no
  report to the caller: the run breaks off. -/
  | tornCharacter
  /-- A named record lacks a field of the template. -/
  | missingField (row : Nat) (field template : String)
  /-- A positional record is longer or shorter than the template. -/
  | wrongLength (row values : Nat) (template : String) (slots : Nat)
  /-- A positional record for a named template, or the other way round. -/
  | wrongKind (row : Nat) (found template expected : String)
  /-- A JSON document that is neither an array nor an object is no record. -/
  | notARecord (document : String)
  /-- The text of a decimal is no number. -/
  | notNumeric (text : String)
  /-- An infinity or NaN has no literal in standard SQL. -/
  | nonFiniteFloat (text : String)
  /-- NaN cannot be stored. -/
  | nanLiteral
  /-- Arrays have no literal in standard SQL. -/
  | arrayLiteral
  /-- A mapping has no literal before it is turned into JSON. -/
  | nestedMapping
  /-- Pages need at least one row. -/
  | zeroPageSize
  /-- A failure as a connection reports it. -/
  | reported (kind : ErrorKind) (text : String)
  /-- A statement was refused in some step of running it. -/
  | refused (step reason : String)
  /-- A transaction was used after its end. -/
  | finished (state : String)
  /-- The driver's connection was closed before. -/
  | closedConnection (database : String)
  /-- The settings file is not what its format demands. -/
  | badSettingsFile
  /-- No node was named. -/
  | unnamedNode
  /-- There is no settings file at or above a directory. -/
  | noSettingsFile (directory : String)
  /-- The settings file cannot be read. -/
  | unreadableSettings (path reason : String)
  /-- The settings file has no such node. -/
  | unknownNode (node : String)
  /-- A node without any section. -/
  | emptyNode (node : String)
  /-- A setting that is no scalar. -/
  | compoundSetting (key type : String)
  /-- A setting whose text is not of its type. -/
  | badSetting (key text : String)
  /-- A pool that may hold no connection. -/
  | zeroMaxSize
  /-- A pool that would keep more connections than it may hold. -/
  | minAboveMax (minSize maxSize : Nat)
  /-- A request to a pool that was closed. -/
  | closedPool (name : String)
  /-- The pool was closed while the request was queued. -/
  | closedWhileQueued
  /-- Too many requests are queued already. -/
  | queueFull (name : String) (waiting : Nat)
  /-- A request did not finish in time. -/
  | timedOut (limit : String)
  /-- A pool that would lend more connections than can be counted. This is no report to the
  caller: the run breaks off. -/
  | tooManyPermits (maxSize : Nat)
  /-- No driver of this name. -/
  | unknownDriver (name : String) (known : List String)
  /-- A port that is no port number. -/
  | badPort (text : String)
  /-- A connection timeout that is no number of seconds. -/
  | badConnectTimeout (text : String)
  /-- A database file needs a path. -/
  | missingPath
  /-- A path into another user's home directory. -/
  | foreignHome
  /-- The directory of a database file is missing. -/
  | missingParent (directory : String)
  /-- A database file cannot be opened. -/
  | cannotOpen (path reason : String)
  /-- A file that is no database. -/
  | notADatabase
  /-- A mode of transport security that does not exist. -/
  | unknownTlsMode (text : String)
  /-- A failure of transport security. -/
  | tlsFailure (text : String)
  /-- A server did not accept the connection. -/
  | cannotConnect (reason : String)
deriving DecidableEq

/-- One character of a quoted explanation: what is not printable ASCII is escaped. -/
def escapeForReport (c : Char) : List Char :=
  if c = '\t' then ['\\', 't']
  else if c = '\r' then ['\\', 'r']
  else if c = '\n' then ['\\', 'n']
  else if c = '\'' then ['\\', '\'']
  else if c = '"' then ['\\', '"']
  else if c = '\\' then ['\\', '\\']
  else if 0x20 ≤ c.toNat && c.toNat ≤ 0x7E then [c]
  else ['\\', 'u', '{'] ++ Nat.toDigits 16 c.toNat ++ ['}']

namespace Error

/-- The kind of an error. -/
def kind : Error → ErrorKind
  | blankTemplate | noPlaceholder => .template
  | noSite | manySites .. | tornCharacter | missingField .. | wrongLength .. | wrongKind ..
  | notARecord .. | notNumeric .. => .composition
  | nonFiniteFloat .. | nanLiteral | arrayLiteral | nestedMapping => .notSupported
  | zeroPageSize => .configuration
  | reported kind _ => kind
  | refused .. | finished .. => .query
  | closedConnection .. => .connection
  | badSettingsFile => .settingsFile
  | unnamedNode | noSettingsFile .. | unreadableSettings .. | unknownNode .. | emptyNode ..
  | compoundSetting .. | badSetting .. | zeroMaxSize | minAboveMax .. | tooManyPermits .. =>
    .configuration
  | closedPool .. | closedWhileQueued | queueFull .. => .connection
  | timedOut .. => .timeout
  | unknownDriver .. | badPort .. | badConnectTimeout .. | missingPath | foreignHome =>
    .configuration
  | missingParent .. | cannotOpen .. | notADatabase => .connection
  | unknownTlsMode .. => .configuration
  | tlsFailure .. | cannotConnect .. => .connection

/-- Whether the run breaks off instead of reporting the error. -/
def breaksOff : Error → Bool
  | tornCharacter | tooManyPermits .. => true
  | _ => false

/-- What an error says, without the label of its kind. -/
def detail : Error → String
  | blankTemplate => "template cannot be empty"
  | noPlaceholder =>
    "wrong template format: no `\x7bfield\x7d`, `%(field)s` or `%s` placeholder found"
  | noSite => "query has no `VALUES (%s)` placeholder"
  | manySites n =>
    "query has " ++ toString n ++ " `VALUES (%s)` placeholders, expected exactly one"
  | tornCharacter => "the values keyword ends inside a character"
  | missingField row field template =>
    "row " ++ toString row ++ " has no field `" ++ field ++ "` required by template " ++ template
  | wrongLength row values template slots =>
    "row " ++ toString row ++ " has " ++ toString values ++ " values but template " ++ template ++
      " has " ++ toString slots ++ " placeholders"
  | wrongKind row found template expected =>
    "row " ++ toString row ++ " is " ++ found ++ " but template " ++ template ++ " expects " ++
      expected ++ " rows"
  | notARecord document => "a row must be a JSON array or object, got `" ++ document ++ "`"
  | notNumeric text =>
    "'" ++ String.ofList (text.toList.flatMap escapeForReport) ++ "' is not a numeric literal"
  | nonFiniteFloat text => "non-finite float " ++ text ++ " has no standard literal"
  | nanLiteral => "SQLite cannot store NaN"
  | arrayLiteral => "array literals are driver specific"
  | nestedMapping => "nested mappings must be adapted to JSON before rendering"
  | zeroPageSize => "page size must be at least 1"
  | reported _ text => text
  | refused step reason => step ++ ": " ++ reason
  | finished state => "Transaction already " ++ state
  | closedConnection database => database ++ " connection is closed"
  | badSettingsFile => ""
  | unnamedNode => "PG_NODE must be set to the node to use"
  | noSettingsFile directory =>
    "no project.toml found in " ++ directory ++ " or its parents (set VBATCH_CONFIG)"
  | unreadableSettings path reason => "cannot read settings file " ++ path ++ ": " ++ reason
  | unknownNode node => "node `" ++ node ++ "` not found in settings"
  | emptyNode node =>
    "node `" ++ node ++ "` has neither a `connection` nor a `connection_pool` section"
  | compoundSetting key type => "setting `" ++ key ++ "` must be a scalar, found " ++ type
  | badSetting key text => "invalid value for `" ++ key ++ "`: '" ++ text ++ "'"
  | zeroMaxSize => "max_size must be greater than 0, got 0"
  | minAboveMax minSize maxSize =>
    "min_size (" ++ toString minSize ++ ") cannot exceed max_size (" ++ toString maxSize ++ ")"
  | closedPool name => "Connection pool '" ++ name ++ "' is closed"
  | closedWhileQueued => "Connection pool is closed"
  | queueFull name waiting =>
    "Connection pool '" ++ name ++ "' already has " ++ toString waiting ++ " requests waiting"
  | timedOut limit => "Timed out waiting for connection (timeout: " ++ limit ++ ")"
  | tooManyPermits maxSize => "max_size (" ++ toString maxSize ++ ") cannot be counted"
  | unknownDriver name known =>
    "unknown driver '" ++ name ++ "' (available: " ++ ", ".intercalate known ++ ")"
  | badPort text => "invalid port '" ++ text ++ "'"
  | badConnectTimeout text => "invalid connect_timeout '" ++ text ++ "'"
  | missingPath =>
    "SQLite requires a 'path' (or 'dbname') setting, e.g. path = \"/data/app.db\""
  | foreignHome => "User-specific home directories (~user) are not supported"
  | missingParent directory => "Parent directory does not exist: " ++ directory
  | cannotOpen path reason =>
    "Failed to open SQLite database at '" ++ path ++ "': " ++ reason
  | notADatabase => "Failed to set journal mode: file is not a database"
  | unknownTlsMode text => "Unknown sslmode '" ++ text ++ "'"
  | tlsFailure text => text
  | cannotConnect reason => "Failed to connect to PostgreSQL: " ++ reason

/-- An error as it is shown. -/
def message (e : Error) : String := e.kind.label ++ e.detail

end Error

end BulkValues
