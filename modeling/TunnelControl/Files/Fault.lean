/-!
# Faults of the file system

`FileFault` lists what can go wrong with files and sockets here.  `FileFault.kind` is the name of the class
of the fault, `FileFault.message` its description.
-/

namespace TunnelControl

inductive FileFault
  | notFound
  | notADirectory
  | isADirectory
  | alreadyExists
  | addressInUse
  | connectionRefused
  | nameTooLong
  /-- a name has a byte that no name may have -/
  | nameHasNul
  /-- the content is no text -/
  | notText
  /-- the path is longer than a socket may have -/
  | socketPathTooLong
  /-- the path has a byte that no path may have -/
  | pathHasNul
  /-- a socket without a file has no name either -/
  | socketNameMissing
  /-- the name of a socket without a file is longer than it may be -/
  | socketNameTooLong
  deriving DecidableEq, Repr

namespace FileFault

def kind : FileFault → String
  | notFound => "NotFound"
  | notADirectory => "NotADirectory"
  | isADirectory => "IsADirectory"
  | alreadyExists => "AlreadyExists"
  | addressInUse => "AddrInUse"
  | connectionRefused => "ConnectionRefused"
  | nameTooLong => "InvalidFilename"
  | nameHasNul => "InvalidInput"
  | notText => "InvalidData"
  | socketPathTooLong => "InvalidInput"
  | pathHasNul => "InvalidInput"
  | socketNameMissing => "InvalidInput"
  | socketNameTooLong => "InvalidInput"

def message : FileFault → String
  | notFound => "No such file or directory (os error 2)"
  | notADirectory => "Not a directory (os error 20)"
  | isADirectory => "Is a directory (os error 21)"
  | alreadyExists => "File exists (os error 17)"
  | addressInUse => "Address already in use (os error 98)"
  | connectionRefused => "Connection refused (os error 111)"
  | nameTooLong => "File name too long (os error 36)"
  | nameHasNul => "file name contained an unexpected NUL byte"
  | notText => "stream did not contain valid UTF-8"
  | socketPathTooLong => "path must be shorter than SUN_LEN"
  | pathHasNul => "paths must not contain interior null bytes"
  | socketNameMissing => "Invalid argument (os error 22)"
  | socketNameTooLong => "abstract socket name must be shorter than SUN_LEN"

end FileFault

end TunnelControl
