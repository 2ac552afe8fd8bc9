/-
# The help text

The options with their letters, names and values in one column and what they do beside it.
-/
import BulkValues.CommandLine.Arguments

namespace BulkValues.CommandLine

/-- What the program calls itself. -/
def programName : String := "vbatch"

/-- The version of the program. -/
def programVersion : String := "0.1.0"

/-- What an option does. -/
def Flag.description : Flag → String
  | .query => "Base query with exactly one `VALUES (%s)` placeholder"
  | .template => "Row template, e.g. \"\x7bname\x7d, \x7bage\x7d::int\" or \"%s, %s\""
  | .rows => "JSON file with an array of rows (`-` reads stdin)"
  | .pageSize => "Rows per statement (default: all rows in one statement)"
  | .fetch => "Collect rows returned by each page (e.g. RETURNING) and print them"
  | .debug => "Dump the failing statement when a page fails"
  | .dumpTo => "File receiving the failing statement in debug mode"
  | .node => "Node to read from the settings file"
  | .config => "Settings file (default: nearest project.toml)"
  | .setting => "Override a connection setting, e.g. --set dbname=staging"
  | .pool => "Borrow the connection from the node's pool instead of opening one"
  | .logJson => "Emit logs as JSON lines"
  | .logDir => "Also write rolling JSON log files (default directory when no value is given)"
  | .verbose => "Enable verbose logging"
  | .help => "Print help"
  | .version => "Print version"

/-- The variable of the environment that stands in for an option. -/
def Flag.standIn : Flag → Option String
  | .node => some nodeVariable
  | .config => some configVariable
  | _ => none

/-- An option in the first column. -/
def Flag.column (f : Flag) : String :=
  (match f.letter? with
    | some c => String.ofList ['-', c, ',', ' ']
    | none => "    ") ++ f.shown

/-- Words in lines of at most `width` characters, after a line that has begun. -/
def fillLines (width : Nat) : String → List String → List String
  | line, [] => [line]
  | line, word :: rest =>
    if line.length + 1 + word.length ≤ width then fillLines width (line ++ " " ++ word) rest
    else line :: fillLines width word rest

/-- The lines of an option; a description goes on below its beginning. -/
def Flag.helpLines (environment : List (String × String)) (width : Nat) (f : Flag) : List String :=
  let noted := match f.standIn with
    | some name =>
      f.description ++ " [env: " ++ name ++ "=" ++ (environment.lookup name).getD "" ++ "]"
    | none => f.description
  let margin := "  " ++ String.ofList (List.replicate (width + 2) ' ')
  let first := "  " ++ f.column ++ String.ofList (List.replicate (width + 2 - f.column.length) ' ')
  match noted.splitOn " " with
  | [] => [first]
  | word :: rest =>
    (fillLines (100 - (width + 4)) word rest).zipIdx.map fun (line, i) =>
      (if i = 0 then first else margin) ++ line

/-- The lines of the help text. -/
def helpText (environment : List (String × String)) : List String :=
  let width := (Flag.all.map fun f => f.column.length).foldl max 0
  ["Run one bulk VALUES statement inside a single transaction", "",
    "Usage: " ++ programName ++ " [OPTIONS] --query <QUERY> --template <TEMPLATE> --rows <ROWS> " ++
      "--node <NODE>", "", "Options:"] ++
    Flag.all.flatMap (Flag.helpLines environment width)

end BulkValues.CommandLine
