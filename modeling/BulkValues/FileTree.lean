/-
# File trees

The files that a program can see: contents under absolute paths, and the directories on the way
to them.  A path is resolved part by part, from the working directory unless it is absolute; a
step up needs a directory to start from.
-/

namespace BulkValues

/-- Files and directories by the parts of their absolute paths. -/
structure FileTree where
  /-- The files and what they hold. -/
  files : List (List String × List UInt8)
  /-- Directories besides those that hold the files. -/
  directories : List (List String)
  /-- The working directory. -/
  current : List String := []

namespace FileTree

/-- Why a file cannot be read or made. -/
inductive Failure where
  | missing
  | notADirectory
  | isADirectory
  | notUtf8
  | alreadyThere
deriving DecidableEq, Repr

/-- What is reported for a failure. -/
def Failure.message : Failure → String
  | missing => "No such file or directory (os error 2)"
  | notADirectory => "Not a directory (os error 20)"
  | isADirectory => "Is a directory (os error 21)"
  | notUtf8 => "stream did not contain valid UTF-8"
  | alreadyThere => "File exists (os error 17)"

/-- What a file at exactly these parts holds. -/
def contents? (t : FileTree) (parts : List String) : Option (List UInt8) :=
  (t.files.find? fun f => f.1 == parts).map (·.2)

/-- Whether a directory has exactly these parts. -/
def isDirectory (t : FileTree) (parts : List String) : Bool :=
  parts.isEmpty || (t.files.any fun f => parts.isPrefixOf f.1 && parts != f.1) ||
    t.directories.any fun d => parts.isPrefixOf d

/-- The text without the part `.` and without the empty parts between slashes. -/
def split (path : String) : List String :=
  ((path.toList.splitOn '/').map String.ofList).filter fun p => p != "" && p != "."

/-- Follow parts from a directory. -/
def follow (t : FileTree) : List String → List String → Except Failure (List String)
  | here, [] => .ok here
  | here, part :: rest =>
    if t.isDirectory here then
      if part = ".." then t.follow here.dropLast rest else t.follow (here ++ [part]) rest
    else if (t.contents? here).isSome then .error .notADirectory
    else .error .missing

/-- Where a path leads. -/
def locate (t : FileTree) (path : String) : Except Failure (List String) :=
  t.follow (if path.startsWith "/" then [] else t.current) (split path)

/-- Whether a path leads to a file. -/
def isFile (t : FileTree) (path : String) : Bool :=
  match t.locate path with
  | .ok parts => (t.contents? parts).isSome && !path.endsWith "/"
  | .error _ => false

/-- Whether a path leads to a file or directory. -/
def hasPath (t : FileTree) (path : String) : Bool :=
  match t.locate path with
  | .ok parts => t.isDirectory parts || (t.contents? parts).isSome
  | .error _ => false

/-- What the file at a path holds. -/
def read (t : FileTree) (path : String) : Except Failure (List UInt8) := do
  let parts ← t.locate path
  match t.contents? parts with
  | some bytes => if path.endsWith "/" then .error .notADirectory else .ok bytes
  | none => if t.isDirectory parts then .error .isADirectory else .error .missing

/-- What the text file at a path holds. -/
def readText (t : FileTree) (path : String) : Except Failure String := do
  let bytes ← t.read path
  match String.fromUTF8? ⟨bytes.toArray⟩ with
  | some text => .ok text
  | none => .error .notUtf8

/-- The tree after bytes were written to the file at a path. -/
def write (t : FileTree) (path : String) (bytes : List UInt8) : Except Failure FileTree := do
  let parts ← t.locate path
  if t.isDirectory parts then .error .isADirectory
  else if path.endsWith "/" then .error .notADirectory
  else pure { t with files := (parts, bytes) :: t.files.filter fun f => f.1 != parts }

/-- Make a directory and those above it, from the one of the first parts on. -/
def makeBelow (t : FileTree) : List String → List String → Except Failure FileTree
  | _, [] => .ok t
  | here, part :: rest =>
    let next := if part = ".." then here.dropLast else here ++ [part]
    if (t.contents? next).isSome then
      .error (if rest.isEmpty then .alreadyThere else .notADirectory)
    else makeBelow { t with directories := next :: t.directories } next rest

/-- Make a directory and those above it. -/
def makeDirectory (t : FileTree) (path : String) : Except Failure FileTree :=
  t.makeBelow (if path.startsWith "/" then [] else t.current) (split path)

/-- The path of something below a directory; an absolute path stands for itself, and nothing
below a directory is the directory with a slash. -/
def join (directory path : String) : String :=
  if path.startsWith "/" then path
  else if directory.endsWith "/" then directory ++ path
  else directory ++ "/" ++ path

/-- The directories above one, nearest first. -/
def above (directory : String) : List String :=
  let parts := split directory
  (List.range parts.length).reverse.map fun n => "/" ++ "/".intercalate (parts.take n)

/-- A path from its end, without the slashes and parts `.` there. -/
def trimEnd : List Char → List Char
  | '/' :: r => trimEnd r
  | '.' :: '/' :: r => trimEnd r
  | cs => cs

/-- The directory that something at an absolute path lies in, as the path spells it. -/
def parentOf (path : String) : String :=
  let above := trimEnd ((trimEnd path.toList.reverse).dropWhile (· ≠ '/'))
  if above.isEmpty then "/" else String.ofList above.reverse

end FileTree

end BulkValues
