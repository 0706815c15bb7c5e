import BlockVolume.CommandLine.Run

namespace BlockVolume.Main

structure Log where
  filter : LogFilter
  file : Option IO.FS.Handle

def errorOf : IO.Error → IoError
  | .noFileOrDirectory _ code _ | .permissionDenied _ code _ | .alreadyExists _ code _
  | .inappropriateType _ code _ | .resourceBusy code _ | .unsatisfiedConstraints code _
  | .invalidArgument _ code _ | .resourceExhausted _ code _ | .unsupportedOperation code _
  | .hardwareFault code _ | .otherError code _ => .system ⟨code.toNat⟩
  | e => .custom .other e.toString

def attempt {α : Type} (call : IO α) : IO (Except IoError α) := do
  try pure (.ok (← call)) catch e => pure (.error (errorOf e))

def now : IO Instant := do pure ⟨← IO.monoNanosNow⟩

def appendable (path : Path) : IO IO.FS.Handle := IO.FS.Handle.mk path.text .append

def writeLog (log : Log) (r : LogRecord) : IO Unit := do
  if log.filter.accepts r then
    match log.file with
    | some file =>
      file.putStr r.text
      file.flush
    | none => IO.eprint r.text

def answer (log : IO.Ref Log) : (c : SystemCall) → IO c.Reply
  | .stat path => attempt do
    let place ← IO.FS.realPath path.text
    let _ ← place.metadata
  | .readDirectory dir => attempt do
    let place ← IO.FS.realPath dir.text
    pure ((← place.readDir).toList.map (·.fileName))
  | .readFile path => attempt do pure (← IO.FS.readBinFile path.text).toList
  | .writeFile path content => attempt (IO.FS.writeBinFile path.text ⟨content.toArray⟩)
  | .makeDirectories path =>
    if path.text = "" then pure (.ok ()) else attempt (IO.FS.createDirAll path.text)
  | .touch path => attempt do
    let _ ← appendable path
  | .removeDirectory path => attempt (IO.FS.removeDir path.text)
  | .spawn .. => pure (.error (.simple .unsupported))
  | .wait duration token => do
    let signals : Signals := { Signals.start with now := ← now }
    let (outcome, ended) := signals.wait token duration
    IO.sleep (UInt32.ofNat ((ended.now.nanos - signals.now.nanos + 999999) / 1000000))
    pure outcome
  | .isCancelled token => do pure (token.isCancelledAt false (← now))
  | .within token timeout => do pure (token.within (← now) timeout)
  | .mount .. | .unmount _ => pure (.error ⟨95⟩)
  | .log record => do writeLog (← log.get) record
  | .complain line => IO.eprintln line
  | .filterLog filter => log.modify fun l => { l with filter }
  | .openLog path => do
    match ← attempt (appendable path) with
    | .ok file =>
      log.modify fun l => { l with file := some file }
      pure (.ok ())
    | .error e => pure (.error e)

def carryOut {α : Type} (log : IO.Ref Log) : Plan Unix α → IO α
  | .done a => pure a
  | .call c next => do
    let reply ← answer log c
    carryOut log (next reply)

def cleanupRounds : Nat := 1000000

def runProgram (args : List String) : IO UInt32 := do
  let log ← IO.mkRef ⟨LogFilter.everything, none⟩
  let filterText ← IO.getEnv "RUST_LOG"
  let ending ← carryOut log (CommandLine.program cleanupRounds filterText args)
  IO.print ending.stdout
  IO.eprint ending.stderr
  pure (UInt32.ofNat ending.exitCode)

end BlockVolume.Main

def main (args : List String) : IO UInt32 := BlockVolume.Main.runProgram args
