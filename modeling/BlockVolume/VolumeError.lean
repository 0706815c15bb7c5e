import BlockVolume.IoError
import BlockVolume.Text.Quoted

namespace BlockVolume

def describeExit : Option Int → String
  | none => "None"
  | some code => "Some(" ++ toString code ++ ")"

inductive HostError
  | busy
  | permissionDenied (subject : String)
  | commandNotFound (program : String)
  | commandFailed (program : String) (code : Option Int) (complaint : String)
  | commandTimedOut (program : String) (limitSecs : Nat)
  | io (error : IoError)
  | mountCall (errno : Errno)
  deriving DecidableEq

namespace HostError

def message : HostError → String
  | .busy => "Device or mount point is busy"
  | .permissionDenied subject => "Permission denied: " ++ subject
  | .commandNotFound program => "Command not found: " ++ program
  | .commandFailed program code complaint =>
    "Command failed: " ++ program ++ " (exit=" ++ describeExit code ++ "): " ++ complaint
  | .commandTimedOut program secs =>
    "Command timed out: " ++ program ++ " after " ++ toString secs ++ "s"
  | .io error => "I/O error: " ++ error.message
  | .mountCall errno => "nix errno: " ++ errno.named

def isNotFound : HostError → Bool
  | .io error => error.isNotFound
  | .mountCall errno => errno == Errno.noEntry
  | _ => false

def errno? : HostError → Option Errno
  | .io error => error.errno?
  | .mountCall errno => some errno
  | _ => none

/-- Whether an error, met at a mount point, says that the mount itself is broken: its server is
gone, or its disk cannot be read. -/
def isCorruptedMount (e : HostError) : Bool :=
  match e.errno? with
  | some errno => Errno.corruptedMount.contains errno
  | none => false

def cause? : HostError → Option String
  | .io error => some error.message
  | .mountCall errno => some errno.named
  | _ => none

end HostError

inductive VolumeError
  | host (error : HostError)
  | deviceNotFound (volume : String)
  | emptyDevicePath (volume : String)
  | notMounted (place : String)
  | unsupportedFilesystem (fstype : String)
  | unformattedReadOnly (device : String)
  | partitionedDevice (device kind : String)
  | uncorrectableFilesystem (device : String)
  | config (problem : String)
  deriving DecidableEq

namespace VolumeError

def message : VolumeError → String
  | .host error => error.message
  | .deviceNotFound volume =>
    "failed to find device for the volumeID: " ++ Text.Quoted.encode volume ++
      " within the alloted time"
  | .emptyDevicePath volume => "device path was empty for volumeID: " ++ Text.Quoted.encode volume
  | .notMounted place => place ++ " is not a mount point"
  | .unsupportedFilesystem fstype => "Unsupported filesystem type: " ++ fstype
  | .unformattedReadOnly device => "cannot mount unformatted device " ++ device ++ " read-only"
  | .partitionedDevice device kind =>
    device ++ " contains a partition table (" ++ kind ++ "), refusing to format it"
  | .uncorrectableFilesystem device =>
    "fsck found errors on device " ++ device ++ " but could not correct them"
  | .config problem => "Invalid configuration: " ++ problem

/-- Whether the same operation may succeed later: a device may yet appear. -/
def isRetryable : VolumeError → Bool
  | .deviceNotFound _ => true
  | _ => false

def chain (e : VolumeError) : List String :=
  match e with
  | .host error => error.message :: error.cause?.toList
  | _ => [e.message]

end VolumeError

end BlockVolume
