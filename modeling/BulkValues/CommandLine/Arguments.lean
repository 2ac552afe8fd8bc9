/-
# Arguments of the command line

An option is written with two dashes and its name, or with one dash and its letter; letters of
switches can be run together.  Its value follows after an equals sign, after the letter, or as
the next argument, which must not look like an option.  An option is given once, settings as
often as needed.  A value is checked when the next option is read, so that an option nobody
knows is reported before the value in front of it.
-/
import BulkValues.Number.Reader
import BulkValues.Text.Blank

namespace BulkValues.CommandLine

open BulkValues.Number BulkValues.Text

-- The power is the core library's, also where another one is in scope.
attribute [local instance (high)] instPowNat

/-- The options. -/
inductive Flag where
  | query
  | template
  | rows
  | pageSize
  | fetch
  | debug
  | dumpTo
  | node
  | config
  | setting
  | pool
  | logJson
  | logDir
  | verbose
  | help
  | version
deriving DecidableEq, Repr

/-- How many values an option takes. -/
inductive Arity where
  /-- None: the option is a switch. -/
  | none
  /-- At most one. -/
  | optional
  /-- One. -/
  | one
deriving DecidableEq, Repr

namespace Flag

/-- All options in the order of the help text. -/
def all : List Flag :=
  [query, template, rows, pageSize, fetch, debug, dumpTo, node, config, setting, pool, logJson,
    logDir, verbose, help, version]

/-- The name of an option. -/
def name : Flag → String
  | query => "query"
  | template => "template"
  | rows => "rows"
  | pageSize => "page-size"
  | fetch => "fetch"
  | debug => "debug"
  | dumpTo => "dump-to"
  | node => "node"
  | config => "config"
  | setting => "set"
  | pool => "pool"
  | logJson => "log-json"
  | logDir => "log-dir"
  | verbose => "verbose"
  | help => "help"
  | version => "version"

/-- The letter of an option. -/
def letter? : Flag → Option Char
  | query => some 'q'
  | template => some 't'
  | rows => some 'r'
  | pageSize => some 'p'
  | verbose => some 'v'
  | help => some 'h'
  | version => some 'V'
  | _ => none

/-- How many values an option takes. -/
def arity : Flag → Arity
  | query | template | rows | pageSize | dumpTo | node | config | setting => .one
  | logDir => .optional
  | _ => .none

/-- The word that stands for the value of an option. -/
def valueName : Flag → String
  | query => "QUERY"
  | template => "TEMPLATE"
  | rows => "ROWS"
  | pageSize => "PAGE_SIZE"
  | dumpTo => "PATH"
  | node => "NODE"
  | config => "CONFIG"
  | setting => "KEY=VALUE"
  | logDir => "DIR"
  | _ => ""

/-- An option with its value, as it is shown. -/
def shown (f : Flag) : String :=
  "--" ++ f.name ++ match f.arity with
    | .none => ""
    | .optional => " [<" ++ f.valueName ++ ">]"
    | .one => " <" ++ f.valueName ++ ">"

/-- The option of a name. -/
def ofName? (name : String) : Option Flag := all.find? fun f => f.name == name

/-- The option of a letter. -/
def ofLetter? (c : Char) : Option Flag := all.find? fun f => f.letter? == some c

end Flag

/-- What the arguments ask for. -/
structure Arguments where
  /-- The statement. -/
  query : Option String := none
  /-- The template of a tuple. -/
  template : Option String := none
  /-- The file of the rows, or `-` for standard input. -/
  rows : Option String := none
  /-- The number of rows in a statement. -/
  pageSize : Option Nat := none
  /-- Show the rows that come back. -/
  fetch : Bool := false
  /-- Keep the text of a statement that fails. -/
  debug : Bool := false
  /-- The file for the text of a statement that fails. -/
  dumpTo : Option String := none
  /-- The node of the settings file. -/
  node : Option String := none
  /-- The settings file. -/
  config : Option String := none
  /-- Settings that replace those of the node. -/
  settings : List (String × String) := []
  /-- Use the pool of the node. -/
  pool : Bool := false
  /-- Write the log as JSON. -/
  logJson : Bool := false
  /-- Write the log into a directory too, the usual one if none is named. -/
  logDir : Option (Option String) := none
  /-- Write a longer log. -/
  verbose : Bool := false

/-- Why there is nothing to do. -/
inductive Stop where
  /-- The arguments do not fit together. -/
  | usage
  /-- The value of an option is wrong. -/
  | invalid (flag : Flag) (value reason : String)
  /-- The help text is asked for. -/
  | help
  /-- The version is asked for. -/
  | version
deriving DecidableEq, Repr

/-! ## Values -/

/-- Read digits from the left, as a number below `bound`; the first character that does not fit
decides the failure. -/
def countDigits (bound : Nat) : Nat → List Char → Except String Nat
  | n, [] => .ok n
  | n, c :: rest =>
    if !isAsciiDigit c then .error "invalid digit found in string"
    else
      let m := 10 * n + digitValue c
      if m < bound then countDigits bound m rest
      else .error "number too large to fit in target type"

/-- A number of 64 bits; a plus sign may stand in front. -/
def readCount (text : String) : Except String Nat :=
  match text.toList with
  | [] => .error "cannot parse integer from empty string"
  | '+' :: d :: rest => countDigits (2 ^ (64 : Nat)) 0 (d :: rest)
  | cs => countDigits (2 ^ (64 : Nat)) 0 cs

/-- A setting: its name without blanks around it, and its value. -/
def readSetting (text : String) : Except String (String × String) :=
  let cs := text.toList
  match cs.dropWhile (· ≠ '=') with
  | [] => .error ("expected KEY=VALUE, got '" ++ text ++ "'")
  | _ :: value =>
    let key := trimChars (cs.takeWhile (· ≠ '='))
    if key.isEmpty then .error ("missing key in '" ++ text ++ "'")
    else .ok (String.ofList key, String.ofList value)

/-- The path of a file, which is not empty. -/
def readPath (text : String) : Except Stop String :=
  if text.isEmpty then .error .usage else .ok text

/-! ## Reading -/

/-- How far the arguments were read. -/
structure Reading where
  /-- What was read. -/
  arguments : Arguments := {}
  /-- The options that were read. -/
  seen : List Flag := []
  /-- The option that was read last and its values so far, which are not checked yet. -/
  pending : Option (Flag × List String) := none
  /-- No more options follow. -/
  ended : Bool := false

/-- The arguments with an option that has its one value. -/
def Arguments.assign (a : Arguments) (flag : Flag) (value : String) : Except Stop Arguments :=
  match flag with
  | .query => .ok { a with query := some value }
  | .template => .ok { a with template := some value }
  | .rows => (readPath value).map fun p => { a with rows := some p }
  | .pageSize =>
    match readCount value with
    | .ok n => .ok { a with pageSize := some n }
    | .error reason => .error (.invalid flag value reason)
  | .dumpTo => (readPath value).map fun p => { a with dumpTo := some p }
  | .node => .ok { a with node := some value }
  | .config => (readPath value).map fun p => { a with config := some p }
  | .setting =>
    match readSetting value with
    | .ok s => .ok { a with settings := a.settings ++ [s] }
    | .error reason => .error (.invalid flag value reason)
  | .logDir => (readPath value).map fun p => { a with logDir := some (some p) }
  | _ => .error .usage

/-- The arguments with an option that has no value. -/
def Arguments.turnOn (a : Arguments) : Flag → Except Stop Arguments
  | .fetch => .ok { a with fetch := true }
  | .debug => .ok { a with debug := true }
  | .pool => .ok { a with pool := true }
  | .logJson => .ok { a with logJson := true }
  | .logDir => .ok { a with logDir := some none }
  | .verbose => .ok { a with verbose := true }
  | .help => .error .help
  | .version => .error .version
  | _ => .error .usage

namespace Reading

/-- Take an option with its values. -/
def accept (r : Reading) (flag : Flag) (values : List String) : Except Stop Reading := do
  if flag ≠ .setting ∧ flag ∈ r.seen then throw .usage
  let arguments ← match values with
    | [] => r.arguments.turnOn flag
    | value :: _ => r.arguments.assign flag value
  pure { r with arguments, seen := flag :: r.seen }

/-- Check the option that was read last. -/
def settle (r : Reading) : Except Stop Reading :=
  match r.pending with
  | none => .ok r
  | some (flag, values) => accept { r with pending := none } flag values

/-- An option begins, perhaps with its value. -/
def begin (r : Reading) (flag : Flag) (attached : Option String) : Except Stop Reading := do
  let r ← r.settle
  if flag.arity = .none then r.accept flag []
  else match attached with
    | some value => r.accept flag [value]
    | none => pure { r with pending := some (flag, []) }

/-- An argument after two dashes. -/
def readLong (r : Reading) (cs : List Char) : Except Stop Reading :=
  let attached := match cs.dropWhile (· ≠ '=') with
    | [] => none
    | _ :: value => some (String.ofList value)
  match Flag.ofName? (String.ofList (cs.takeWhile (· ≠ '='))) with
  | none => .error .usage
  | some flag =>
    if flag.arity = .none ∧ attached.isSome then .error .usage else r.begin flag attached

/-- An argument after one dash. -/
def readLetters (r : Reading) : List Char → Except Stop Reading
  | [] => .ok r
  | c :: rest =>
    match Flag.ofLetter? c with
    | none => .error .usage
    | some flag =>
      if flag.arity = .none then do
        let r ← r.begin flag none
        readLetters r rest
      else
        r.begin flag (match rest with
          | [] => none
          | '=' :: value => some (String.ofList value)
          | value => some (String.ofList value))

/-- One argument. -/
def readOne (r : Reading) (argument : String) : Except Stop Reading :=
  if r.ended then .error .usage
  else match argument.toList with
    | ['-', '-'] => .ok { r with ended := true }
    | '-' :: '-' :: cs => r.readLong cs
    | '-' :: c :: cs => r.readLetters (c :: cs)
    | _ =>
      match r.pending with
      | some (flag, []) => .ok { r with pending := some (flag, [argument]) }
      | _ => .error .usage

/-- Use a variable of the environment for an option that was not given. -/
def fillFrom (r : Reading) (flag : Flag) (found : Option String) : Except Stop Reading :=
  match found with
  | some value => if flag ∈ r.seen then .ok r else do
      let arguments ← r.arguments.assign flag value
      pure { r with arguments }
  | none => .ok r

end Reading

/-- The variable that names the node. -/
def nodeVariable : String := "PG_NODE"

/-- The variable that names the settings file. -/
def configVariable : String := "VBATCH_CONFIG"

/-- What a list of arguments asks for, in an environment. -/
def Arguments.read (environment : List (String × String)) (arguments : List String) :
    Except Stop Arguments := do
  let r ← arguments.foldlM Reading.readOne {}
  let r ← r.settle
  let r ← r.fillFrom .node (environment.lookup nodeVariable)
  let r ← r.fillFrom .config (environment.lookup configVariable)
  let a := r.arguments
  if a.query.isNone ∨ a.template.isNone ∨ a.rows.isNone ∨ a.node.isNone then throw .usage
  if a.dumpTo.isSome ∧ !a.debug then throw .usage
  pure a

end BulkValues.CommandLine
