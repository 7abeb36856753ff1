import TunnelControl.Files.Fault
import TunnelControl.Text.Split

/-!
# Directories, files and sockets

A `FileTree` says what there is at each place, which is a list of names from the root.  A path is a list of
names to follow; the name of the directory above leads back.

* `placeOf`                    the place that names lead to;
* `FileTree.find`              what names lead to;
* `FileTree.findAt`            what a path leads to, which may have to be a directory;
* `FileTree.makeDirectories`   makes a directory and those above it;
* `FileTree.removeFile`        removes what is no directory.
-/

namespace TunnelControl

inductive FileEntry
  | directory
  | file
  /-- a socket, and the listener that made it -/
  | socket (listener : Nat)
  deriving DecidableEq, Repr

/-- the names on a path from the root -/
abbrev Names := List String

/-- the names of a path; empty ones, and those that stay in a directory, do not count -/
def namesOf (path : String) : Names :=
  ((pieces '/' path.toList).map String.ofList).filter fun name => name != "" && name != "."

/-- what stands behind the last name of a path -/
inductive PathEnd
  | nothing
  | slash
  /-- the name of the directory that has been reached -/
  | dot
  deriving DecidableEq, Repr

def pathEnd (path : String) : PathEnd :=
  let ps := (pieces '/' path.toList).reverse
  if (ps.dropWhile List.isEmpty).head? = some ['.'] then .dot
  else if ps.head? = some [] then .slash
  else .nothing

/-- a path with something behind its last name leads to a directory or nowhere -/
def asksDirectory (path : String) : Bool := pathEnd path ≠ .nothing

/-- the bytes of a path with a slash before each name -/
def sizeOfNames (path : Names) : Nat :=
  path.foldl (fun size name => size + name.utf8ByteSize + 1) 0

/-- a name has at most this many bytes -/
def nameLimit : Nat := 255

/-- a path has fewer bytes than this -/
def pathLimit : Nat := 4096

/-- one name further; the directory above the root is the root -/
def follow (place : Names) (name : String) : Names :=
  if name = ".." then place.dropLast else place ++ [name]

/-- the place that names lead to, provided that what they pass is there -/
def placeOf (path : Names) : Names := path.foldl follow []

/-- what there is besides the root -/
abbrev FileTree := List (Names × FileEntry)

namespace FileTree

def entry? (t : FileTree) (place : Names) : Option FileEntry :=
  if place.isEmpty then some .directory else List.lookup place t

/-- follows names from a place on; all that is passed has to be a directory -/
def findFrom (t : FileTree) (base : Names) : Names → Except FileFault FileEntry
  | [] =>
    match t.entry? base with
    | some entry => .ok entry
    | none => .error .notFound
  | name :: names =>
    match t.entry? base with
    | some .directory => findFrom t (follow base name) names
    | some _ => .error .notADirectory
    | none => .error .notFound

def find (t : FileTree) (path : Names) : Except FileFault FileEntry := t.findFrom [] path

def findAt (t : FileTree) (path : String) : Except FileFault FileEntry :=
  match t.find (namesOf path) with
  | .ok .directory => .ok .directory
  | .ok entry => if asksDirectory path then .error .notADirectory else .ok entry
  | .error fault => .error fault

def isThere (t : FileTree) (path : Names) : Bool := (t.find path).isOk

def put (t : FileTree) (path : Names) (entry : FileEntry) : FileTree :=
  (placeOf path, entry) :: t.filter (·.1 != placeOf path)

/-- makes the directories on the way from a place -/
def makeDirectoriesFrom (t : FileTree) (base : Names) : Names → Except FileFault FileTree
  | [] => .ok t
  | name :: names =>
    let place := follow base name
    match t.entry? place with
    | some .directory => makeDirectoriesFrom t place names
    | some _ => .error (if names.isEmpty then .alreadyExists else .notADirectory)
    | none =>
      if nameLimit < name.utf8ByteSize then .error .nameTooLong
      else makeDirectoriesFrom (t.put place .directory) place names

def makeDirectories (t : FileTree) (path : Names) : Except FileFault FileTree :=
  if path.any (·.toList.contains '\x00') then .error .nameHasNul
  else if pathLimit ≤ sizeOfNames path then .error .nameTooLong
  else t.makeDirectoriesFrom [] path

def removeFile (t : FileTree) (path : Names) : Except FileFault FileTree :=
  match t.find path with
  | .error fault => .error fault
  | .ok .directory => .error .isADirectory
  | .ok _ => .ok (t.filter (·.1 != placeOf path))

end FileTree

end TunnelControl
