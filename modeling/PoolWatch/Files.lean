import PoolWatch.Bytes
import PoolWatch.Text.Blank

/-! # Files

    A tree of directories and files, as it stands when a run begins, and the
    paths that lead through it.  A path can be read in two ways: step by
    step, where every directory on the way has to be there, or as text alone,
    where a name and the two dots after it cancel out. -/

namespace PoolWatch

/-! ## Paths -/

/-- A way through the tree: from its root, or from a number of levels above
    the working directory, down through some names. -/
structure Path where
  rooted : Bool
  up : Nat
  names : List String
  deriving DecidableEq, Repr

namespace Path

/-- The working directory. -/
def here : Path := ⟨false, 0, []⟩

/-- The root of the tree. -/
def root : Path := ⟨true, 0, []⟩

/-- One level up; above the root there is nothing else. -/
def parent (p : Path) : Path :=
  if p.names.isEmpty then if p.rooted then p else { p with up := p.up + 1 }
  else { p with names := p.names.dropLast }

/-- Whether a path lies on the way down to another. -/
def leadsTo (p q : Path) : Bool :=
  p.rooted = q.rooted && p.up = q.up && p.names.isPrefixOf q.names

/-- One step along a name, where one dot stays and two dots go up. -/
def enter (p : Path) (name : String) : Path :=
  if name = "" ∨ name = "." then p
  else if name = ".." then p.parent
  else { p with names := p.names ++ [name] }

/-- The names between the slashes of a text. -/
def steps (text : String) : List String :=
  (Text.splitChars '/' text.toList).map String.ofList

/-- Where the path of a text starts. -/
def start (text : String) : Path :=
  if text.toList.head? = some '/' then root else here

/-- The path of a text, read as text alone. -/
def ofText (text : String) : Path :=
  (steps text).foldl enter (start text)

end Path

/-! ## The tree -/

/-- What stands at the end of a path. -/
inductive Entry where
  | directory
  | file (content : Bytes)
  deriving DecidableEq, Repr

/-- What stands at each path, if something does. -/
abbrev Disk := Path → Option Entry

/-- Why a file could not be read. -/
inductive FileFault where
  | absent
  | notDirectory
  | isDirectory
  | nameTooLong
  deriving DecidableEq, Repr

/-- What is wrong, as a sentence. -/
def FileFault.message : FileFault → String
  | .absent => "No such file or directory (os error 2)"
  | .notDirectory => "Not a directory (os error 20)"
  | .isDirectory => "Is a directory (os error 21)"
  | .nameTooLong => "File name too long (os error 36)"

namespace Disk

/-- A tree of some directories and files.  All that lies on the way to them is
    a directory, and so are the root and everything above the working
    directory. -/
def ofLists (directories : List Path) (files : List (Path × Bytes)) : Disk := fun p =>
  match files.lookup p with
  | some content => some (.file content)
  | none =>
    if p.names.isEmpty || (directories ++ files.map Prod.fst).any p.leadsTo then some .directory
    else none

/-- Bytes in the longest name. -/
def maxName : Nat := 255

/-- Goes along names from a path; every name but the last has to lead to a
    directory. -/
def walk (disk : Disk) (p : Path) : List String → Except FileFault Path
  | [] => .ok p
  | name :: rest =>
    match disk p with
    | none => .error .absent
    | some (.file _) => .error .notDirectory
    | some .directory =>
      if maxName < name.utf8ByteSize then .error .nameTooLong else walk disk (p.enter name) rest

/-- The bytes of the file that a text leads to. -/
def read (disk : Disk) (text : String) : Except FileFault Bytes :=
  match disk.walk (Path.start text) (Path.steps text) with
  | .error fault => .error fault
  | .ok p =>
    match disk p with
    | none => .error .absent
    | some .directory => .error .isDirectory
    | some (.file content) => .ok content

end Disk

end PoolWatch
