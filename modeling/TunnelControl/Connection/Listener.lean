import TunnelControl.Connection.Error
import TunnelControl.Files.Tree

/-!
# Listeners on sockets

A listener makes a socket at a path, in the place of whatever file was there, and removes the file at that
path when it is dropped.  Clients may connect to a socket whose listener lives.

* `SocketSpace.bind`, `drop`   the life of a listener;
* `SocketSpace.bindTimes`      one short life after the other;
* `SocketSpace.connect`        what a client finds at a path.
-/

namespace TunnelControl

/-- everyone may read and write a socket; who may do what is decided by the peer's credentials -/
def socketMode : Nat := 0x1B6

/-- the mode as it is written, in octal digits -/
def socketModeText : String := String.ofList (Nat.toDigits 8 socketMode)

/-- a socket's path has fewer bytes than this -/
def socketPathLimit : Nat := 108

structure Listener where
  number : Nat
  path : String
  deriving DecidableEq, Repr

/-- the files, and the listeners that live -/
structure SocketSpace where
  tree : FileTree := []
  alive : List Listener := []
  next : Nat := 0
  deriving Repr

namespace SocketSpace

/-- a socket of such a path has a name of its own and no file -/
def isNameless (path : String) : Bool := path.toList.head? = some '\x00'

/-- nobody listens on a socket without a file -/
def namelessFault (path : String) : FileFault :=
  if path.utf8ByteSize = 1 then .socketNameMissing
  else if socketPathLimit < path.utf8ByteSize then .socketNameTooLong
  else .connectionRefused

/-- the path can be that of a socket with a file -/
def checkPath (path : String) : Except FileFault Unit :=
  if path.toList.contains '\x00' then .error .pathHasNul
  else if socketPathLimit ≤ path.utf8ByteSize then .error .socketPathTooLong
  else .ok ()

/-- the directory of a path is made if it is not there -/
def prepare (t : FileTree) (path : Names) : Except ConnectionFault FileTree :=
  if t.isThere path.dropLast then .ok t
  else (t.makeDirectories path.dropLast).mapError .createDirectory

/-- what is at the path is removed -/
def clear (t : FileTree) (path : String) : Except ConnectionFault FileTree :=
  if (t.findAt path).isOk then (t.removeFile (namesOf path)).mapError .removeSocket else .ok t

/-- the fault that keeps a socket from being made at a path -/
def refusal? (t : FileTree) (path : String) : Option FileFault :=
  match checkPath path, t.find (namesOf path).dropLast with
  | .error fault, _ => some fault
  | .ok (), .error fault => some fault
  | .ok (), .ok .directory =>
    match pathEnd path, t.find (namesOf path) with
    | .nothing, _ => none
    | .dot, .ok .directory => some .addressInUse
    | .dot, .ok _ => some .notADirectory
    | .dot, .error fault => some fault
    | .slash, .ok _ => some .addressInUse
    | .slash, .error _ => some .notFound
  | .ok (), .ok _ => some .notADirectory

/-- the listener and what has become of the files, also if it fails -/
def bind (s : SocketSpace) (path : String) : Except ConnectionFault Listener × SocketSpace :=
  match prepare s.tree (namesOf path) with
  | .error fault => (.error fault, s)
  | .ok tree =>
    match clear tree path with
    | .error fault => (.error fault, { s with tree })
    | .ok tree =>
      match refusal? tree path with
      | some fault => (.error (.bind fault), { s with tree })
      | none =>
        let l : Listener := ⟨s.next, path⟩
        (.ok l,
          { tree := tree.put (namesOf path) (.socket l.number),
            alive := s.alive ++ [l], next := s.next + 1 })

/-- the listener is gone, and with it the file at its path -/
def drop (s : SocketSpace) (l : Listener) : SocketSpace :=
  { s with
    tree := (s.tree.removeFile (namesOf l.path)).toOption.getD s.tree,
    alive := s.alive.filter (· != l) }

/-- the number of the listener that a client reaches -/
def connect (s : SocketSpace) (path : String) : Except ConnectionFault Nat :=
  if isNameless path then .error (.connect (namelessFault path))
  else
    match checkPath path, s.tree.findAt path with
    | .error fault, _ => .error (.connect fault)
    | .ok (), .error fault => .error (.connect fault)
    | .ok (), .ok (.socket listener) =>
      if s.alive.any (·.number == listener) then .ok listener
      else .error (.connect .connectionRefused)
    | .ok (), .ok _ => .error (.connect .connectionRefused)

/-- a listener that is dropped as soon as it is there; whether a file is left at its path -/
def bindOnce (s : SocketSpace) (path : String) : Except ConnectionFault Bool × SocketSpace :=
  match s.bind path with
  | (.error fault, s) => (.error fault, s)
  | (.ok l, s) => (.ok ((s.drop l).tree.isThere (namesOf l.path)), s.drop l)

/-- one such listener after the other -/
def bindTimes (path : String) : Nat → SocketSpace → List (Except ConnectionFault Bool) × SocketSpace
  | 0, s => ([], s)
  | n + 1, s =>
    let (result, s) := s.bindOnce path
    let (results, s) := bindTimes path n s
    (result :: results, s)

end SocketSpace

/-- the hellos with which a client begins the connections of a session, in order -/
def sessionHellos (id : SessionId) : List Hello := [.new id .requests, .new id .events]

end TunnelControl
