import BlockVolume.CommandLine.Invocation
import BlockVolume.Config.Reading
import BlockVolume.Text
import BlockVolume.Unix.Host
import BlockVolume.Volume.Lookup
import BlockVolume.Volume.Mounting
import BlockVolume.VolumeError

namespace BlockVolume.CommandLine

structure Failure where
  first : String
  causes : List String
  deriving DecidableEq

namespace Failure

def ofVolumeError (e : VolumeError) : Failure := ⟨e.chain.headD "", e.chain.drop 1⟩

def within (f : Failure) (context : String) : Failure := ⟨context, f.first :: f.causes⟩

def number (n : Nat) : String :=
  let ds := Nat.toDigits 10 n
  String.ofList (List.replicate (5 - ds.length) ' ' ++ ds)

def indent (width : Nat) (text : String) : String :=
  String.ofList (Text.indentFurther width text.toList)

def numbered : Nat → List String → String
  | _, [] => ""
  | n, cause :: rest => "\n" ++ number n ++ ": " ++ indent 7 cause ++ numbered (n + 1) rest

def report (f : Failure) : String :=
  "Error: " ++ f.first ++
    (match f.causes with
      | [] => ""
      | [cause] => "\n\nCaused by:\n    " ++ indent 4 cause
      | causes => "\n\nCaused by:" ++ numbered 0 causes) ++ "\n"

end Failure

structure Ending where
  exitCode : Nat
  stdout : String
  stderr : String
  deriving DecidableEq

def Ending.success (stdout : String) : Ending := ⟨0, stdout, ""⟩

def Ending.failure (f : Failure) : Ending := ⟨1, "", f.report⟩

def Ending.usage : Ending := ⟨2, "", ""⟩

abbrev Run (α : Type) := ExceptT Failure (Plan Unix) α

def always {α : Type} (plan : Plan Unix α) : Run α := ExceptT.lift plan

def perform {α : Type} (operation : Operation α) : Run α :=
  ExceptT.mk do
    let answer ← Unix.onSystem operation.run
    pure (answer.mapError Failure.ofVolumeError)

def inContext {α : Type} (context : String) (part : Run α) : Run α :=
  ExceptT.mk do
    let answer ← part.run
    pure (answer.mapError (·.within context))

/-- Has the log written to a file, with the directories above it made. If that cannot be done, the
log stays where it is. -/
def openLog (file : Path) : Plan Unix Unit := do
  match file.parent? with
  | none =>
    let _ ← Unix.openLog file
  | some dir =>
    match ← Unix.makeDirectories dir with
    | .ok () =>
      let _ ← Unix.openLog file
    | .error _ => pure ()

def complain : List String → Plan Unix Unit
  | [] => pure ()
  | complaint :: rest => do
    Unix.complain ("warning: " ++ complaint ++ ", ignoring it")
    complain rest

/-- Sets the log up: where it goes and what comes into it. A filter text takes precedence over what
`verbose` says. -/
def startLog (file : Option Path) (verbose : Bool) (filterText : Option String) :
    Plan Unix Unit := do
  match file with
  | some file => openLog file
  | none => pure ()
  let text := LogFilter.parse (filterText.getD "")
  complain text.complaints
  Unix.filterLog ((LogFilter.ofThreshold (if verbose then .debug else .info)).override text)

def settings (file : Option Path) : Run Config :=
  match file with
  | none => pure Config.standard
  | some file => do
    match ← always (Config.load file) with
    | .ok config => pure config
    | .error e => throw (Failure.within ⟨e.reason, []⟩ (e.context file))

def lookupToken : Option Nat → Plan Unix CancelToken
  | none => pure Signals.root
  | some secs => Unix.within Signals.root (Duration.ofSecs secs)

def mountVolume (config : Config) (volume : String) (target : Path) (fstype : String)
    (options : MountOptions) (timeoutSecs : Option Nat) : Run Path := do
  let token ← always (lookupToken timeoutSecs)
  let device ← perform (Volume.findDevice config token volume)
  perform (Volume.makeDirectory target)
  inContext ("Unable to mount " ++ device.text ++ " at " ++ target.text)
    (perform (Volume.formatAndMount config device target fstype options))
  pure device

def growVolume (device mountPath : Path) : Run Unit := do
  if ← perform (Volume.isPresent mountPath) then
    inContext ("Unable to resize " ++ device.text) (perform (Volume.grow device mountPath))
  else throw ⟨mountPath.text ++ " does not exist", []⟩

/-- What a command prints. `rounds` bounds the unmounts of an extensive cleanup. -/
def printed (rounds : Nat) (config : Config) : Command → Run String
  | .serial volume => pure (Volume.serial volume ++ "\n")
  | .resolve volume timeoutSecs => do
    let token ← always (lookupToken timeoutSecs)
    let device ← perform (Volume.findDevice config token volume)
    pure (device.text ++ "\n")
  | .rescan => do
    always (Unix.onSystem (Volume.rescan config Signals.root))
    pure ""
  | .mount volume target fstype options timeoutSecs => do
    let device ← mountVolume config volume target fstype options timeoutSecs
    pure (device.text ++ "\n")
  | .cleanup path extensive => do
    if ← perform (Volume.cleanUp rounds path extensive) then pure ""
    else throw ⟨path.text ++ " is still mounted", []⟩
  | .deviceName mountPath => do
    let (device, count) ← perform (Volume.deviceAt mountPath)
    if device = "" then throw (Failure.ofVolumeError (.notMounted mountPath.text))
    else pure (device ++ " " ++ toString count ++ "\n")
  | .resize device mountPath => do
    growVolume device mountPath
    pure ""

def run (rounds : Nat) (filterText : Option String) (i : Invocation) : Plan Unix Ending := do
  startLog i.logFile i.verbose filterText
  let answer ← (do
    let config ← settings i.config
    printed rounds config i.command : Run String).run
  match answer with
  | .ok text => pure (Ending.success text)
  | .error f => pure (Ending.failure f)

def program (rounds : Nat) (filterText : Option String) (args : List String) : Plan Unix Ending :=
  match parse args with
  | some i => run rounds filterText i
  | none => pure Ending.usage

end BlockVolume.CommandLine
