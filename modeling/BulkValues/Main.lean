/-
# The program

Hands the arguments, the environment and the files that a run looks at to `CommandLine.run`,
and does what its outcome says.
-/
import BulkValues.CommandLine.Run

namespace BulkValues.CommandLine

/-- Put what lies at a path of the file system into a tree. -/
def look (tree : FileTree) (path : String) : IO FileTree := do
  let here ← IO.currentDir
  let there := here / path
  let parts := FileTree.split (FileTree.join here.toString path)
  if ← there.isDir then return { tree with directories := parts :: tree.directories }
  if ← there.pathExists then
    let bytes ← IO.FS.readBinFile there
    return { tree with files := (parts, bytes.toList) :: tree.files.filter fun f => f.1 != parts }
  return tree

/-- Look at all paths that a run looks at, until no more become known. -/
def lookAll (arguments : List String) (rounds : Nat) (s : Surroundings) : IO Surroundings := do
  let mut s := s
  for _ in [0:rounds] do
    let files ← (pathsOf s arguments).foldlM look s.files
    s := { s with files }
  return s

/-- The variables of the environment that a run looks at. -/
def readVariables : IO (List (String × String)) := do
  let mut found := []
  for name in [nodeVariable, configVariable, "HOME", "XDG_DATA_HOME"] do
    if let some text ← IO.getEnv name then found := (name, text) :: found
  return found

/-- Write the files that a run has changed. -/
def writeChanges (before after : FileTree) : IO Unit := do
  for (parts, bytes) in after.files do
    if before.contents? parts != some bytes then
      IO.FS.writeBinFile ("/" ++ "/".intercalate parts) ⟨bytes.toArray⟩

end BulkValues.CommandLine

open BulkValues BulkValues.CommandLine in
/-- Run with the arguments of the process. -/
def main (arguments : List String) : IO UInt32 := do
  let directory := (← IO.currentDir).toString
  let environment ← readVariables
  let input ← if arguments.contains "-" then (← IO.getStdin).readToEnd else pure ""
  let start : Surroundings :=
    { files := ⟨[], [], FileTree.split directory⟩, directory, environment, input }
  let s ← lookAll arguments 2 start
  let outcome := CommandLine.run s arguments
  if let some path := outcome.logDirectory then IO.FS.createDirAll path
  writeChanges s.files outcome.files
  for line in outcome.output do IO.println line
  for line in outcome.report.lines do IO.eprintln line
  return outcome.code.toUInt32
