import BlockVolume.Disk
import BlockVolume.Duration
import BlockVolume.Text
import BlockVolume.Unix.Call

namespace BlockVolume.Unix

def probeLimit : Duration := Duration.ofSecs 10

def formatLimit : Duration := Duration.ofSecs 600

def checkLimit : Duration := Duration.ofSecs 600

def growLimit : Duration := Duration.ofSecs 300

/-- The exit code by which `blkid` says that a disk holds nothing it knows. -/
def nothingFound : Int := 2

def probeArgs (device : String) : List String :=
  ["-p", "-s", "TYPE", "-s", "PTTYPE", "-o", "export", device]

/-- The value of the last line that begins with `name` and an equals sign; blanks around a line do
not count. -/
def lastValue (name : String) (printed : String) : Option String :=
  (((Text.lines printed.toList).filterMap fun line =>
    Text.dropLead? (name.toList ++ ['=']) (Text.trimChars line)).getLast?).map String.ofList

/-- What a disk holds, from what `blkid` printed. A value that is empty does not count. -/
def contentOf (printed : String) : DiskContent :=
  let given (name : String) := (lastValue name printed).filter (· ≠ "")
  match given "TYPE", given "PTTYPE" with
  | some fstype, _ => .filesystem fstype
  | none, some kind => .partitionTable kind
  | none, none => .blank

def formatProgram (fstype : String) : String := "mkfs." ++ fstype

def forceArgs (fstype : String) : List String :=
  if isExtFamily fstype then ["-F", "-m0"] else if fstype = "xfs" then ["-f"] else []

def formatArgs (fstype device : String) (extra : List String) : List String :=
  forceArgs fstype ++ extra ++ [device]

def ofIo {α : Type} (answer : Except IoError α) : Except HostError α :=
  answer.mapError HostError.io

def mountFailure (target : Path) (errno : Errno) : HostError :=
  if errno = .busy then .busy
  else if errno = .accessDenied ∨ errno = .notPermitted then .permissionDenied target.text
  else .mountCall errno

def programFailure (program : String) (output : ProgramOutput) : HostError :=
  .commandFailed program output.code (Text.trim (Text.Utf8.decodeLossy output.stderr))

def runProgram (program : String) (args : List String) (limit : Duration) :
    Plan Unix (Except HostError ProgramOutput) := do
  match ← spawn program args limit with
  | .ok (.ended output) => pure (.ok output)
  | .ok .timedOut => pure (.error (.commandTimedOut program limit.secs))
  | .error e => pure (.error (if e.isNotFound then .commandNotFound program else .io e))

def requireProgram (program : String) (args : List String) (limit : Duration) :
    Plan Unix (Except HostError Unit) := do
  match ← runProgram program args limit with
  | .error e => pure (.error e)
  | .ok output =>
    if output.succeeded then pure (.ok ()) else pure (.error (programFailure program output))

def pathExists (path : Path) : Plan Unix (Except HostError Bool) := do
  match ← stat path with
  | .ok () => pure (.ok true)
  | .error e => if e.isNotFound then pure (.ok false) else pure (.error (.io e))

def mountDevice (device target : Path) (fstype : Option String) (options : MountOptions) :
    Plan Unix (Except HostError Unit) := do
  log ⟨.debug, .unixHost,
    "mount " ++ device.text ++ " -> " ++ target.text ++ " (type: " ++
      Text.Quoted.encodeOption fstype ++ ", flags: " ++ options.flags.describe ++ ", data: " ++
      Text.Quoted.encodeOption options.data ++ ")"⟩
  let answer ← mount device target fstype options.flags options.data
  pure (answer.mapError (mountFailure target))

def mountTableFile : Path := ⟨"/proc/self/mountinfo"⟩

def mountEntries : Plan Unix (Except HostError (List MountEntry)) := do
  pure ((ofIo (← readText mountTableFile)).map MountTable.parse)

def probe (device : Path) : Plan Unix (Except HostError DiskContent) := do
  match ← runProgram "blkid" (probeArgs device.text) probeLimit with
  | .error e => pure (.error e)
  | .ok output =>
    if output.code = some nothingFound then pure (.ok .blank)
    else if output.succeeded then pure (.ok (contentOf (Text.Utf8.decodeLossy output.stdout)))
    else pure (.error (programFailure "blkid" output))

def makeFilesystem (device : Path) (fstype : String) (extra : List String) :
    Plan Unix (Except HostError Unit) := do
  let program := formatProgram fstype
  log ⟨.info, .unixHost, "Formatting " ++ device.text ++ " with " ++ program⟩
  requireProgram program (formatArgs fstype device.text extra) formatLimit

def checkFilesystem (device : Path) : Plan Unix (Except HostError CheckOutcome) := do
  log ⟨.debug, .unixHost, "Checking filesystem on " ++ device.text⟩
  let answer ← runProgram "fsck" ["-a", device.text] checkLimit
  pure (answer.map fun output => CheckOutcome.ofExitCode output.code)

def perform : (c : HostCall) → Plan Unix c.Reply
  | .pathExists path => pathExists path
  | .listDirectory dir => do pure (ofIo (← readDirectory dir))
  | .writeFile path content => do pure (ofIo (← writeFile path content))
  | .createDirectories path => do pure (ofIo (← makeDirectories path))
  | .createFile path => do pure (ofIo (← touch path))
  | .removeDirectory path => do pure (ofIo (← removeDirectory path))
  | .runProgram program args limit => runProgram program args limit
  | .requireProgram program args limit => requireProgram program args limit
  | .sleep duration token => wait duration token
  | .isCancelled token => isCancelled token
  | .mount device target fstype options => mountDevice device target fstype options
  | .unmount target => do pure ((← unmount target).mapError (mountFailure target))
  | .mountEntries => mountEntries
  | .probe device => probe device
  | .makeFilesystem device fstype extra => makeFilesystem device fstype extra
  | .checkFilesystem device => checkFilesystem device
  | .growOnDisk device => requireProgram "resize2fs" [device.text] growLimit
  | .growMounted path => requireProgram "xfs_growfs" ["-d", path.text] growLimit
  | .log record => log record

def onSystem {α : Type} (plan : Plan Host α) : Plan Unix α :=
  Plan.expand (I := Host) (J := Unix) perform plan

end BlockVolume.Unix
