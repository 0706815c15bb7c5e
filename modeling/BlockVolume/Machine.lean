import BlockVolume.Machine.FileTree
import BlockVolume.Unix.Call

namespace BlockVolume

structure MachineProgram where
  name : String
  output : ProgramOutput
  hangs : Bool
  executable : Bool
  touches : Option Path
  interrupts : Bool
  deriving DecidableEq

inductive MountCall
  | mount (source target : Path) (fstype : Option String) (flags : MountFlags)
      (data : Option String)
  | unmount (target : Path)
  deriving DecidableEq

structure MountResult where
  errno : Errno
  table : Option (List UInt8)
  deriving DecidableEq

/-- A simulated Unix system: a few programs of known behaviour, a script of how mount calls end, and
what it was made to do. -/
structure Machine where
  tree : FileTree
  mountTable : Option (List UInt8)
  programs : List MachineProgram
  results : List MountResult
  signals : Signals
  started : List (List String)
  mountCalls : List MountCall
  complaints : List String
  logged : List LogRecord
  logFilter : LogFilter
  logFile : Option Place

namespace Machine

def mountTablePath : Path := ⟨"/proc/self/mountinfo"⟩

def changeTree (m : Machine) (change : FileTree → Except IoError FileTree) :
    Except IoError Unit × Machine :=
  match change m.tree with
  | .ok tree => (.ok (), { m with tree })
  | .error e => (.error e, m)

def readFile (m : Machine) (p : Path) : Except IoError (List UInt8) :=
  if p = mountTablePath then
    match m.mountTable with
    | some table => .ok table
    | none => .error (.system .noEntry)
  else m.tree.contentOf p

def log (m : Machine) (r : LogRecord) : Machine :=
  if m.logFilter.accepts r then
    match m.logFile with
    | none => { m with logged := m.logged ++ [r] }
    | some place => { m with tree := m.tree.append place (Text.Utf8.encode r.text) }
  else m

/-- The program of a name, or why it cannot be started. A name with a slash is a path, and no file
of the tree can be run. -/
def program? (m : Machine) (name : String) (args : List String) :
    Except IoError MachineProgram :=
  if Text.hasNul name || args.any Text.hasNul then .error .nulInArgument
  else if name.toList.contains '/' then
    match m.tree.lookUp ⟨name⟩ with
    | .ok _ => .error (.system .accessDenied)
    | .error e => .error e
  else if name = "" then .error (.system .noEntry)
  else if FileTree.maxName < name.utf8ByteSize then .error (.system .nameTooLong)
  else match m.programs.find? (·.name = name) with
    | none => .error (.system .noEntry)
    | some p => if p.executable then .ok p else .error (.system .accessDenied)

def interrupt (m : Machine) : Machine :=
  { m with signals := m.signals.cancel Signals.root }.log
    ⟨.info, .interrupt, "Cancellation requested (Ctrl+C)."⟩

def tryTouch (m : Machine) (p : Path) : Machine := (m.changeTree fun t => t.writeFile p []).2

/-- Starts a program. One that hangs leaves no trace but the time it took. -/
def spawn (m : Machine) (name : String) (args : List String) (limit : Duration) :
    Except IoError ProgramEnd × Machine :=
  match m.program? name args with
  | .error e => (.error e, m)
  | .ok p =>
    if p.hangs then (.ok .timedOut, { m with signals := m.signals.advance limit })
    else
      let m := { m with started := m.started ++ [name :: args] }
      let m := if p.interrupts then m.interrupt else m
      let m := match p.touches with
        | some file => m.tryTouch file
        | none => m
      (.ok (.ended p.output), m)

/-- Ends a mount call as the script says; without a script it is invalid. -/
def endMountCall (m : Machine) (call : MountCall) : Except Errno Unit × Machine :=
  let m := { m with mountCalls := m.mountCalls ++ [call] }
  match m.results with
  | [] => (.error .invalid, m)
  | r :: results =>
    let m := { m with results, mountTable := r.table <|> m.mountTable }
    (if r.errno.code = 0 then .ok () else .error r.errno, m)

def answer : Plan.Handler Unix Machine
  | .stat p, m => ((m.tree.lookUp p).map fun _ => (), m)
  | .readDirectory p, m => (m.tree.readDirectory p, m)
  | .readFile p, m => (m.readFile p, m)
  | .writeFile p content, m => m.changeTree (·.writeFile p content)
  | .makeDirectories p, m =>
    let (reply, tree) := m.tree.makeDirectories p
    (reply, { m with tree })
  | .touch p, m => m.changeTree fun t => (t.touch p).map Prod.snd
  | .removeDirectory p, m => m.changeTree (·.removeDirectory p)
  | .spawn name args limit, m => m.spawn name args limit
  | .wait d token, m =>
    let (outcome, signals) := m.signals.wait token d
    (outcome, { m with signals })
  | .isCancelled token, m => (m.signals.isCancelled token, m)
  | .within token timeout, m => (token.within m.signals.now timeout, m)
  | .mount source target fstype flags data, m =>
    if Text.hasNul source.text || Text.hasNul target.text || fstype.any Text.hasNul ||
        data.any Text.hasNul then
      (.error .invalid, m)
    else m.endMountCall (.mount source target fstype flags data)
  | .unmount target, m =>
    if Text.hasNul target.text then (.error .invalid, m) else m.endMountCall (.unmount target)
  | .log r, m => ((), m.log r)
  | .complain line, m => ((), { m with complaints := m.complaints ++ [line] })
  | .filterLog filter, m => ((), { m with logFilter := filter })
  | .openLog p, m =>
    match m.tree.touch p with
    | .ok (place, tree) => (.ok (), { m with tree, logFile := some place })
    | .error e => (.error e, m)

end Machine

end BlockVolume
