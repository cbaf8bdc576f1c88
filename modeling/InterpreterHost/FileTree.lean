import InterpreterHost.Failure
import InterpreterHost.Text.Fields

/-! Paths, and the trees of files, directories and links through which they are followed. -/

namespace InterpreterHost

/-! ### Paths

A path is the bytes in which it is given. When two of them are compared their shapes count: empty
names do not, nor does `.` unless a relative path starts with it. -/

/-- The bytes of a path. -/
abbrev Path := List UInt8

/-- The bytes of one name in a path. -/
abbrev Name := List UInt8

namespace Name

/-- The name `.`, which stays in place. -/
def dot : Name := [46]

/-- The name `..`, which leads to the directory above. -/
def dotDot : Name := [46, 46]

/-- The name leads nowhere else. -/
def isIdle (name : Name) : Bool :=
  name = [] || name = dot

end Name

namespace Path

/-- The byte between two names. -/
def slash : UInt8 := 47

/-- The names of a path, empty ones included. -/
def names (path : Path) : List Name :=
  fields slash path

/-- The path starts at the root. -/
def isAbsolute (path : Path) : Bool :=
  path.head? = some slash

/-- What counts of a path when it is compared. -/
structure Shape where
  absolute : Bool
  /-- A relative path starts with `.`. -/
  dotted : Bool
  names : List Name
deriving DecidableEq

/-- What counts of a path when it is compared. -/
def shape (path : Path) : Shape where
  absolute := path.isAbsolute
  dotted := path.names.head? = some Name.dot
  names := path.names.filter (!Name.isIdle ·)

end Path

/-! ### Trees

A path is followed name by name: `.` and empty names stay in place, `..` goes up, a link is replaced
by the names of its target, and whatever a further name follows must be a directory. Only a limited
number of links is followed, so links that lead back to themselves are an error. So are files that
may not be read and directories that may not be entered. -/

/-- A place in a tree: the names that lead to it from the root, the last one first. -/
abbrev Place := List Name

/-- What lies at a place. -/
inductive Entry where
  | file (data : List UInt8)
  | directory
  | link (target : Path)
  /-- A file that may not be read. -/
  | sealedFile
  /-- A directory that may be neither entered nor read. -/
  | closedDirectory
deriving DecidableEq

/-- A tree of files with a working directory. -/
structure FileTree where
  /-- The entries below the root; of two at one place the first counts. -/
  entries : List (Place × Entry)
  home : Place
deriving DecidableEq

/-- Where a path leads. -/
inductive Found where
  | file (data : List UInt8)
  | directory (place : Place)
deriving DecidableEq

namespace FileTree

/-- The most links that are followed for one path. -/
def linkLimit : Nat := 40

/-- The most bytes of a name. -/
def nameLimit : Nat := 255

/-- The least number of bytes that is too many for a path. -/
def pathBound : Nat := 4096

/-- The entry at a place. -/
def entry? (tree : FileTree) : Place → Option Entry
  | [] => some .directory
  | place => (tree.entries.find? (·.1 = place)).map (·.2)

/-- Where following a path starts, seen from a directory. -/
def start (here : Place) (path : Path) : Place :=
  if path.isAbsolute then [] else here

/-- Follows `names` from the directory at `here`, with at most `links` links on the way. -/
def walk (tree : FileTree) (links : Nat) (here : Place) : List Name → Except Failure Found
  | [] => .ok (.directory here)
  | name :: names =>
    if name.isIdle then tree.walk links here names
    else if name = Name.dotDot then tree.walk links here.tail names
    else if nameLimit < name.length then .error (.system .nameTooLong)
    else match tree.entry? (name :: here) with
      | none => .error (.system .noEntry)
      | some .directory => tree.walk links (name :: here) names
      | some (.file data) =>
        if names = [] then .ok (.file data) else .error (.system .notADirectory)
      | some (.link target) =>
        match links with
        | 0 => .error (.system .tooManyLinks)
        | n + 1 => tree.walk n (start here target) (target.names ++ names)
      | some .sealedFile =>
        .error (.system (if names = [] then .accessDenied else .notADirectory))
      | some .closedDirectory => .error (.system .accessDenied)
termination_by names => (links, names.length)

/-- Follows a path from the working directory. -/
def follow (tree : FileTree) (path : Path) : Except Failure Found :=
  if 0 ∈ path then
    .error (.worded .invalidInput "file name contained an unexpected NUL byte" [])
  else if path = [] then .error (.system .noEntry)
  else if pathBound ≤ path.length then .error (.system .nameTooLong)
  else tree.walk linkLimit (start tree.home path) path.names

/-- The failure of a script that is a directory. -/
def directoryFailure : Failure :=
  .worded .isADirectory "script path is a directory" []

/-- The contents of the script at `path`, which must not be a directory. -/
def script (tree : FileTree) (path : Path) : Except Failure (List UInt8) :=
  match tree.follow path with
  | .error failure => .error failure
  | .ok (.file data) => .ok data
  | .ok (.directory _) => .error directoryFailure

/-- The tree with `entry` at `place`. -/
def put (tree : FileTree) (place : Place) (entry : Entry) : FileTree :=
  { tree with entries := (place, entry) :: tree.entries }

/-- The tree with `entry` where `names` lead from the directory at `here`. Directories that are
missing on the way are made. -/
def insertFrom (tree : FileTree) (here : Place) (entry : Entry) : List Name → FileTree
  | [] => tree
  | [name] => tree.put (name :: here) entry
  | name :: names =>
    match tree.walk linkLimit here [name] with
    | .ok (.directory place) => tree.insertFrom place entry names
    | .ok (.file _) => tree
    | .error _ => (tree.put (name :: here) .directory).insertFrom (name :: here) entry names

/-- The tree with `entry` at a relative path. -/
def insert (tree : FileTree) (path : Path) (entry : Entry) : FileTree :=
  tree.insertFrom tree.home entry (path.names.filter (!Name.isIdle ·))

/-- The directory of devices. -/
def devices : Place := [[100, 101, 118]]

/-- The device that is always empty. -/
def nullDevice : Place := [110, 117, 108, 108] :: devices

/-- A tree with an empty device and an empty working directory. The names of the working directory
and of the one above it are such as no path spells. -/
def bare : FileTree where
  entries :=
    [(nullDevice, .file []), (devices, .directory), ([[]], .directory), ([[], []], .directory)]
  home := [[], []]

end FileTree

end InterpreterHost
