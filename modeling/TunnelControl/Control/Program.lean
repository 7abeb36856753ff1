import TunnelControl.Control.Perform

/-!
# The control program

The words of a command line name the socket of the service, or a file that does, and a command.  The program
connects to the socket and carries the command out.
-/

namespace TunnelControl

/-- what a program finds when it starts -/
structure Surroundings where
  env : Environment := []
  userHome : Option Bytes := none
  /-- files by their paths -/
  files : List (Bytes × FileState) := []
  sockets : SocketSpace := {}

namespace Surroundings

/-- the place that a path leads to -/
def placeAt (path : Bytes) : Names := placeOf (namesOf (Utf8.repair path))

/-- what a path leads to: what there is at its place, or a file that is known by that path alone -/
def file (s : Surroundings) (path : Bytes) : FileState :=
  match s.sockets.tree.findAt (Utf8.repair path) with
  | .ok .directory => .directory
  | .ok .file =>
    ((s.files.find? fun entry => placeAt entry.1 = placeAt path).map Prod.snd).getD .missing
  | _ => (s.files.lookup path).getD .missing

end Surroundings

/-- how the program fails -/
inductive ControlError
  | arguments (fault : ArgFault)
  | failed (fault : ControlFault)
  deriving Repr

namespace ControlOptions

/-- the socket that the program connects to -/
def socketIn (o : ControlOptions) (s : Surroundings) : Bytes :=
  o.serviceSocket s.env (s.file (o.configPath s.env s.userHome))

/-- connects to the socket -/
def connect (o : ControlOptions) (s : Surroundings) : Except ControlFault Unit :=
  let path := Utf8.repair (o.socketIn s)
  match s.sockets.connect path with
  | .ok _ => .ok ()
  | .error cause => .error (.connect path cause)

end ControlOptions

/-- whether the program waits for ever: it is connected, and its command comes to no end -/
def controlWaits (s : Surroundings) (words : List Bytes) (repeated : Option Event) (far : FarEnd) : Bool :=
  match ControlOptions.read s.env words with
  | .error _ => false
  | .ok o => (o.connect s).isOk && o.command.waits repeated far

/-- runs the program; what is at the far end is asked for only when the socket is there -/
def runControl (s : Surroundings) (words : List Bytes) (repeated : Option Event) (far : FarEnd) :
    Except ControlError String × FarEnd :=
  match ControlOptions.read s.env words with
  | .error fault => (.error (.arguments fault), far)
  | .ok o =>
    match o.connect s with
    | .error fault => (.error (.failed fault), far)
    | .ok () =>
      match o.command.perform repeated far with
      | (.error fault, far) => (.error (.failed fault), far)
      | (.ok printed, far) => (.ok (o.output.lines printed), far)

end TunnelControl
