import BlockVolume.CancelToken
import BlockVolume.Disk
import BlockVolume.Log
import BlockVolume.MountTable
import BlockVolume.Plan
import BlockVolume.VolumeError

namespace BlockVolume

structure ProgramOutput where
  code : Option Int
  stdout : List UInt8
  stderr : List UInt8
  deriving DecidableEq

def ProgramOutput.succeeded (o : ProgramOutput) : Bool := o.code == some 0

inductive HostCall
  /-- Whether something, links followed, is at a path. Nothing there is no error. -/
  | pathExists (path : Path)
  | listDirectory (dir : Path)
  | writeFile (path : Path) (content : List UInt8)
  | createDirectories (path : Path)
  | createFile (path : Path)
  | removeDirectory (path : Path)
  | runProgram (program : String) (args : List String) (limit : Duration)
  | requireProgram (program : String) (args : List String) (limit : Duration)
  | sleep (duration : Duration) (token : CancelToken)
  | isCancelled (token : CancelToken)
  | mount (device target : Path) (fstype : Option String) (options : MountOptions)
  | unmount (target : Path)
  | mountEntries
  | probe (device : Path)
  | makeFilesystem (device : Path) (fstype : String) (args : List String)
  | checkFilesystem (device : Path)
  /-- Makes the ext file system on a disk as large as the disk. -/
  | growOnDisk (device : Path)
  /-- Makes the XFS file system mounted at a path as large as its disk. -/
  | growMounted (path : Path)
  | log (record : LogRecord)

def HostCall.Reply : HostCall → Type
  | .pathExists _ => Except HostError Bool
  | .listDirectory _ => Except HostError (List String)
  | .writeFile .. | .createDirectories _ => Except HostError Unit
  | .createFile _ | .removeDirectory _ => Except HostError Unit
  | .runProgram .. => Except HostError ProgramOutput
  | .requireProgram .. => Except HostError Unit
  | .sleep .. => WaitOutcome
  | .isCancelled _ => Bool
  | .mount .. | .unmount _ => Except HostError Unit
  | .mountEntries => Except HostError (List MountEntry)
  | .probe _ => Except HostError DiskContent
  | .makeFilesystem .. => Except HostError Unit
  | .checkFilesystem _ => Except HostError CheckOutcome
  | .growOnDisk _ | .growMounted _ => Except HostError Unit
  | .log _ => Unit

def Host : Interface := ⟨HostCall, HostCall.Reply⟩

namespace Host

def ask (c : HostCall) : Plan Host c.Reply := Plan.ask (I := Host) c

def pathExists (path : Path) : Plan Host (Except HostError Bool) := ask (.pathExists path)

def listDirectory (dir : Path) : Plan Host (Except HostError (List String)) :=
  ask (.listDirectory dir)

def writeFile (path : Path) (content : List UInt8) : Plan Host (Except HostError Unit) :=
  ask (.writeFile path content)

def createDirectories (path : Path) : Plan Host (Except HostError Unit) :=
  ask (.createDirectories path)

def createFile (path : Path) : Plan Host (Except HostError Unit) := ask (.createFile path)

def removeDirectory (path : Path) : Plan Host (Except HostError Unit) := ask (.removeDirectory path)

def runProgram (program : String) (args : List String) (limit : Duration) :
    Plan Host (Except HostError ProgramOutput) :=
  ask (.runProgram program args limit)

def requireProgram (program : String) (args : List String) (limit : Duration) :
    Plan Host (Except HostError Unit) :=
  ask (.requireProgram program args limit)

def sleep (duration : Duration) (token : CancelToken) : Plan Host WaitOutcome :=
  ask (.sleep duration token)

def isCancelled (token : CancelToken) : Plan Host Bool := ask (.isCancelled token)

def mount (device target : Path) (fstype : Option String) (options : MountOptions) :
    Plan Host (Except HostError Unit) :=
  ask (.mount device target fstype options)

def unmount (target : Path) : Plan Host (Except HostError Unit) := ask (.unmount target)

def mountEntries : Plan Host (Except HostError (List MountEntry)) := ask .mountEntries

def probe (device : Path) : Plan Host (Except HostError DiskContent) :=
  ask (.probe device)

def makeFilesystem (device : Path) (fstype : String) (args : List String) :
    Plan Host (Except HostError Unit) :=
  ask (.makeFilesystem device fstype args)

def checkFilesystem (device : Path) : Plan Host (Except HostError CheckOutcome) :=
  ask (.checkFilesystem device)

def growOnDisk (device : Path) : Plan Host (Except HostError Unit) := ask (.growOnDisk device)

def growMounted (path : Path) : Plan Host (Except HostError Unit) := ask (.growMounted path)

def log (level : LogLevel) (origin : LogOrigin) (message : String) : Plan Host Unit :=
  ask (.log ⟨level, origin, message⟩)

end Host

abbrev Operation (α : Type) := ExceptT VolumeError (Plan Host) α

namespace Operation

variable {α : Type}

def require (request : Plan Host (Except HostError α)) : Operation α :=
  ExceptT.mk (request >>= fun reply => pure (reply.mapError VolumeError.host))

/-- A request with whose answer, good or bad, the operation goes on. -/
def attempt (request : Plan Host α) : Operation α := ExceptT.lift request

def log (level : LogLevel) (origin : LogOrigin) (message : String) : Operation Unit :=
  attempt (Host.log level origin message)

end Operation

end BlockVolume
