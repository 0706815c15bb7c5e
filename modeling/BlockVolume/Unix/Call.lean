import BlockVolume.Host.Call
import BlockVolume.LogFilter
import BlockVolume.Text

namespace BlockVolume

inductive ProgramEnd
  | ended (output : ProgramOutput)
  | timedOut
  deriving DecidableEq

inductive SystemCall
  /-- Whether something is at a path, links followed; an error if not. -/
  | stat (path : Path)
  | readDirectory (dir : Path)
  | readFile (path : Path)
  | writeFile (path : Path) (content : List UInt8)
  | makeDirectories (path : Path)
  | touch (path : Path)
  | removeDirectory (path : Path)
  /-- Starts a program and waits for its end, so long as its time lasts. -/
  | spawn (program : String) (args : List String) (limit : Duration)
  | wait (duration : Duration) (token : CancelToken)
  | isCancelled (token : CancelToken)
  | within (token : CancelToken) (timeout : Duration)
  | mount (source target : Path) (fstype : Option String) (flags : MountFlags)
      (data : Option String)
  | unmount (target : Path)
  | log (record : LogRecord)
  | complain (line : String)
  | filterLog (filter : LogFilter)
  | openLog (path : Path)

def SystemCall.Reply : SystemCall → Type
  | .stat _ => Except IoError Unit
  | .readDirectory _ => Except IoError (List String)
  | .readFile _ => Except IoError (List UInt8)
  | .writeFile .. | .makeDirectories _ | .touch _ | .removeDirectory _ => Except IoError Unit
  | .spawn .. => Except IoError ProgramEnd
  | .wait .. => WaitOutcome
  | .isCancelled _ => Bool
  | .within .. => CancelToken
  | .mount .. | .unmount _ => Except Errno Unit
  | .log _ | .complain _ | .filterLog _ => Unit
  | .openLog _ => Except IoError Unit

def Unix : Interface := ⟨SystemCall, SystemCall.Reply⟩

namespace Unix

def ask (c : SystemCall) : Plan Unix c.Reply := Plan.ask (I := Unix) c

def stat (path : Path) : Plan Unix (Except IoError Unit) := ask (.stat path)

def readDirectory (dir : Path) : Plan Unix (Except IoError (List String)) :=
  ask (.readDirectory dir)

def readFile (path : Path) : Plan Unix (Except IoError (List UInt8)) := ask (.readFile path)

def writeFile (path : Path) (content : List UInt8) : Plan Unix (Except IoError Unit) :=
  ask (.writeFile path content)

def makeDirectories (path : Path) : Plan Unix (Except IoError Unit) := ask (.makeDirectories path)

def touch (path : Path) : Plan Unix (Except IoError Unit) := ask (.touch path)

def removeDirectory (path : Path) : Plan Unix (Except IoError Unit) := ask (.removeDirectory path)

def spawn (program : String) (args : List String) (limit : Duration) :
    Plan Unix (Except IoError ProgramEnd) :=
  ask (.spawn program args limit)

def wait (duration : Duration) (token : CancelToken) : Plan Unix WaitOutcome :=
  ask (.wait duration token)

def isCancelled (token : CancelToken) : Plan Unix Bool := ask (.isCancelled token)

def within (token : CancelToken) (timeout : Duration) : Plan Unix CancelToken :=
  ask (.within token timeout)

def mount (source target : Path) (fstype : Option String) (flags : MountFlags)
    (data : Option String) : Plan Unix (Except Errno Unit) :=
  ask (.mount source target fstype flags data)

def unmount (target : Path) : Plan Unix (Except Errno Unit) := ask (.unmount target)

def log (record : LogRecord) : Plan Unix Unit := ask (.log record)

def complain (line : String) : Plan Unix Unit := ask (.complain line)

def filterLog (filter : LogFilter) : Plan Unix Unit := ask (.filterLog filter)

def openLog (path : Path) : Plan Unix (Except IoError Unit) := ask (.openLog path)

def readText (path : Path) : Plan Unix (Except IoError String) := do
  match ← readFile path with
  | .error e => pure (.error e)
  | .ok content =>
    match Text.Utf8.decode? content with
    | some text => pure (.ok text)
    | none => pure (.error .notText)

end Unix

end BlockVolume
