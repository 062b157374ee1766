/-!
# Files

Where the command line looks for files. Paths are written with slashes; their normal form has no
empty and no dot components. A directory tree is given by its files and by directories that may be
empty; every directory on the way to one of them exists too. Of the directories around the tree
only the way up is known.
-/

namespace Chip8

/-- What a path leads to. -/
inductive Entry
  | file (bytes : List UInt8)
  | directory
  | missing
  /-- The path goes on behind a file. -/
  | blocked
  /-- The path, or a name in it, has more bytes than a path or a name may have. -/
  | tooLong
  /-- The path holds a NUL character, which no name has. -/
  | invalid
deriving DecidableEq, Repr

/-! ## Paths -/

namespace Path

/-- The components of a path. -/
def components (path : String) : List String := path.splitOn "/"

/-- The root that a path starts from: nothing, one slash, or the two slashes that are kept. -/
def root (path : String) : String :=
  match (path.toList.takeWhile (· = '/')).length with
  | 0 => ""
  | 2 => "//"
  | _ => "/"

/-- The normal form of a path. -/
def normal (path : String) : String :=
  let names := (components path).filter fun name => name ≠ "" ∧ name ≠ "."
  let text := root path ++ "/".intercalate names
  if text = "" then "." else text

/-- The most bytes that a path has. -/
def maxBytes : Nat := 4095

/-- The most bytes that a name in a directory has. -/
def maxNameBytes : Nat := 255

/-- The directory that holds what a path in normal form leads to. -/
def parent (path : String) : String :=
  match (components path).dropLast with
  | [] => "."
  | [""] => "/"
  | names => "/".intercalate names

end Path

/-! ## Directory trees -/

/-- The files below a directory, and directories that need not hold any. -/
structure FileTree where
  files : List (String × List UInt8)
  directories : List String

namespace FileTree

/-- Whether the way to any file or directory of the tree leads through these names. -/
def isDirectory (tree : FileTree) (names : List String) : Bool :=
  (tree.directories.any fun path => names.isPrefixOf (Path.components path)) ||
    tree.files.any fun (path, _) => names.isPrefixOf (Path.components path).dropLast

/-- The file behind these names. -/
def file? (tree : FileTree) (names : List String) : Option (List UInt8) :=
  (tree.files.find? fun (path, _) => Path.components path = names).map Prod.snd

/-- A directory from which names lead on: the one so many levels above the root of the tree, which
is itself the one at level 0, or the uppermost of all. -/
inductive Start
  | level (height : Nat)
  | uppermost
deriving DecidableEq, Repr

/-- Where a path leads: the names on the way there. -/
structure Location where
  start : Start
  names : List String
deriving DecidableEq, Repr

/-- The directory that holds a location; above the uppermost one there is no other. -/
def Location.up : Location → Location
  | { start := .level height, names := [] } => { start := .level (height + 1), names := [] }
  | { start := .uppermost, names := [] } => { start := .uppermost, names := [] }
  | { start, names } => { start, names := names.dropLast }

/-- The location with a name in a directory. -/
def Location.down (here : Location) (name : String) : Location where
  start := here.start
  names := here.names ++ [name]

/-- What is at a location. -/
def entryAt (tree : FileTree) : Location → Entry
  | { names := [], .. } => .directory
  | { start := .level 0, names } =>
    match tree.file? names with
    | some bytes => .file bytes
    | none => if tree.isDirectory names then .directory else .missing
  | _ => .missing

/-- Follows the components of a path from a location on, to where they lead or to what stops them.
Only what the last one names may be missing. -/
def follow (tree : FileTree) (here : Location) : List String → Except Entry Location
  | [] => .ok here
  | name :: rest =>
    match tree.entryAt here with
    | .directory =>
      if name = "" ∨ name = "." then tree.follow here rest
      else if name = ".." then tree.follow here.up rest
      else if Path.maxNameBytes < name.utf8ByteSize then .error .tooLong
      else tree.follow (here.down name) rest
    | .file _ => .error .blocked
    | other => .error other

/-- Where a path leads. -/
def location (tree : FileTree) (path : String) : Except Entry Location :=
  let start : Start := if path.startsWith "/" then .uppermost else .level 0
  if path = "" then .error .missing
  else if path.toList.contains '\x00' then .error .invalid
  else if Path.maxBytes < path.utf8ByteSize then .error .tooLong
  else tree.follow { start, names := [] } (Path.components path)

/-- What a path leads to. -/
def entry (tree : FileTree) (path : String) : Entry :=
  match tree.location path with
  | .ok location => tree.entryAt location
  | .error entry => entry

/-- Whether two paths lead to the same location. -/
def sameLocation (tree : FileTree) (first second : String) : Bool :=
  match tree.location first, tree.location second with
  | .ok location, .ok other => location = other
  | _, _ => false

end FileTree

end Chip8
