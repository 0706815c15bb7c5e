import BlockVolume.CommandLine.Tokens
import BlockVolume.Disk
import BlockVolume.Path
import BlockVolume.Text

namespace BlockVolume.CommandLine

inductive Command
  | serial (volume : String)
  | resolve (volume : String) (timeoutSecs : Option Nat)
  | rescan
  | mount (volume : String) (target : Path) (fstype : String) (options : MountOptions)
      (timeoutSecs : Option Nat)
  | cleanup (path : Path) (extensive : Bool)
  | deviceName (mountPath : Path)
  | resize (device mountPath : Path)
  deriving DecidableEq

structure Invocation where
  config : Option Path
  logFile : Option Path
  verbose : Bool
  command : Command
  deriving DecidableEq

def globalOptions : OptionTable :=
  [("config", .valued), ("log-file", .valued), ("verbose", .flag)]

def commandOptions? : String → Option OptionTable
  | "serial" => some []
  | "resolve" => some [("timeout-secs", .valued)]
  | "rescan" => some []
  | "mount" => some [("volume-id", .valued), ("target", .valued), ("fstype", .valued),
      ("options", .valued), ("timeout-secs", .valued)]
  | "cleanup" => some [("extensive", .flag)]
  | "device-name" => some []
  | "resize" => some [("device", .valued), ("mount-path", .valued)]
  | _ => none

def path? (text : String) : Option Path := if text = "" then none else some ⟨text⟩

def optional? {α : Type} (read : String → Option α) : Option String → Option (Option α)
  | none => some none
  | some text => (read text).map some

def unsignedDigits : List Char → List Char
  | '+' :: cs => cs
  | cs => cs

def seconds? (text : String) : Option Nat :=
  let ds := unsignedDigits text.toList
  if ds = [] ∨ !ds.all Text.isDigit then none
  else
    let n := Text.valueOf 10 ds
    if n < 18446744073709551616 then some n else none

def mountOptions (values : List String) : MountOptions :=
  ⟨values.flatMap fun v => (Text.splitAt ',' v.toList).map String.ofList⟩

def onlyWord? (s : Scanned) : Option String :=
  match s.words with
  | [w] => some w
  | _ => none

def noWords? (s : Scanned) : Option Unit := if s.words = [] then some () else none

def command? (name : String) (s : Scanned) : Option Command :=
  match name with
  | "serial" => do
    let volume ← onlyWord? s
    pure (.serial volume)
  | "resolve" => do
    let volume ← onlyWord? s
    let timeout ← optional? seconds? (← s.single? "timeout-secs")
    pure (.resolve volume timeout)
  | "rescan" => do
    noWords? s
    pure .rescan
  | "mount" => do
    noWords? s
    let volume ← s.required? "volume-id"
    let target ← path? (← s.required? "target")
    let fstype ← s.single? "fstype"
    let timeout ← optional? seconds? (← s.single? "timeout-secs")
    pure (.mount volume target (fstype.getD "") (mountOptions (s.all "options")) timeout)
  | "cleanup" => do
    let path ← path? (← onlyWord? s)
    let extensive ← s.flag? "extensive"
    pure (.cleanup path extensive)
  | "device-name" => do
    let mountPath ← path? (← onlyWord? s)
    pure (.deviceName mountPath)
  | "resize" => do
    noWords? s
    let device ← path? (← s.required? "device")
    let mountPath ← path? (← s.required? "mount-path")
    pure (.resize device mountPath)
  | _ => none

/-- The invocation that a command line stands for. A global option may stand before the command or
after it; after it counts. -/
def parse (args : List String) : Option Invocation := do
  let before ← scan globalOptions true args
  let name ← onlyWord? before
  let options ← commandOptions? name
  let after ← scan (globalOptions ++ options) false before.rest
  let path (name : String) : Option (Option Path) := do
    let early ← optional? path? (← before.single? name)
    let late ← optional? path? (← after.single? name)
    pure (late <|> early)
  let config ← path "config"
  let logFile ← path "log-file"
  let early ← before.flag? "verbose"
  let late ← after.flag? "verbose"
  let command ← command? name after
  pure ⟨config, logFile, early || late, command⟩

end BlockVolume.CommandLine
