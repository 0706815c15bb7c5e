import BlockVolume.Host.Call

namespace BlockVolume

inductive HostAction
  | stat (path : Path)
  | listDirectory (dir : Path)
  | writeFile (path : Path) (content : List UInt8)
  | createDirectory (path : Path)
  | createFile (path : Path)
  | removeDirectory (path : Path)
  | command (program : String) (args : List String) (limitSecs : Nat)
  | sleep (duration : Duration)
  | mount (device target : Path) (fstype : Option String) (options : List String)
  | unmount (target : Path)
  | probe (device : Path)
  | makeFilesystem (device : Path) (fstype : String)
  | checkFilesystem (device : Path)
  | growOnDisk (device : Path)
  | growMounted (path : Path)
  deriving DecidableEq

/-- A cancellation that a scripted host carries out when a wait begins: the `nth` one, or a later
one. -/
structure CancelOnSleep where
  token : CancelToken
  nth : Nat
  deriving DecidableEq

structure ScriptedHost where
  actions : List HostAction
  present : List (List Component)
  /-- The paths that will be there after so many further waits. -/
  pending : List (List Component × Nat)
  statFailures : List (List Component × IoKind)
  statErrnos : List (List Component × Errno)
  listings : List (List Component × List String)
  failingWrites : List (List Component)
  failingPrograms : List String
  mounts : List MountEntry
  contents : List (List Component × DiskContent)
  checks : List (List Component × CheckOutcome)
  /-- Whether waits take their time; otherwise they end at once. -/
  realClock : Bool
  cancelOnSleep : Option CancelOnSleep
  sleeps : Nat
  signals : Signals
  logged : List LogRecord

namespace ScriptedHost

def empty : ScriptedHost :=
  ⟨[], [], [], [], [], [], [], [], [], [], [], false, none, 0, Signals.start, []⟩

def remember (h : ScriptedHost) (a : HostAction) : ScriptedHost :=
  { h with actions := h.actions ++ [a] }

def log (h : ScriptedHost) (r : LogRecord) : ScriptedHost := { h with logged := h.logged ++ [r] }

def add (h : ScriptedHost) (steps : List Component) : ScriptedHost :=
  { h with present := steps :: h.present }

def has (h : ScriptedHost) (p : Path) : Bool := h.present.contains p.components

def addLater (h : ScriptedHost) (p : Path) (waits : Nat) : ScriptedHost :=
  if waits = 0 then h.add p.components
  else { h with pending := h.pending ++ [(p.components, waits)] }

def addListing (h : ScriptedHost) (dir : Path) (names : List String) : ScriptedHost :=
  { names.foldl (fun h name => h.add (dir.join ⟨name⟩).components) (h.add dir.components) with
    listings := (dir.components, names) :: h.listings }

def contentOf (h : ScriptedHost) (device : Path) : DiskContent :=
  (h.contents.lookup device.components).getD .blank

def setContent (h : ScriptedHost) (device : Path) (content : DiskContent) : ScriptedHost :=
  { h with contents := (device.components, content) :: h.contents }

def checkOf (h : ScriptedHost) (device : Path) : CheckOutcome :=
  (h.checks.lookup device.components).getD .clean

def stat (h : ScriptedHost) (p : Path) : Except HostError Bool :=
  match h.statFailures.lookup p.components, h.statErrnos.lookup p.components with
  | some kind, _ => .error (.io (.simple kind))
  | none, some errno => .error (.io (.system errno))
  | none, none => .ok (h.has p)

def removeLast (p : Path) (entries : List MountEntry) : Option (List MountEntry) :=
  if entries.any (·.mountPoint.same p) then
    some (entries.reverse.eraseP (·.mountPoint.same p)).reverse
  else none

def beginSleep (h : ScriptedHost) : ScriptedHost :=
  let h := { h with sleeps := h.sleeps + 1 }
  match h.cancelOnSleep with
  | some c => if c.nth ≤ h.sleeps then { h with signals := h.signals.cancel c.token } else h
  | none => h

def outcomeOfSleep (h : ScriptedHost) (d : Duration) (token : CancelToken) :
    WaitOutcome × Signals :=
  if h.realClock then h.signals.wait token d
  else (if h.signals.isCancelled token then .cancelled else .elapsed, h.signals)

def comeNearer (h : ScriptedHost) : ScriptedHost :=
  { h with
    present := ((h.pending.filter (·.2 ≤ 1)).map Prod.fst).reverse ++ h.present
    pending := (h.pending.filter (1 < ·.2)).map fun x => (x.1, x.2 - 1) }

/-- A whole wait. One that is cancelled is not remembered. -/
def sleep (h : ScriptedHost) (d : Duration) (token : CancelToken) : WaitOutcome × ScriptedHost :=
  let h := h.beginSleep
  match h.outcomeOfSleep d token with
  | (.cancelled, signals) => (.cancelled, { h with signals })
  | (.elapsed, signals) => (.elapsed, (({ h with signals }).remember (.sleep d)).comeNearer)

def runProgram (h : ScriptedHost) (program : String) (args : List String) (limit : Duration) :
    ProgramOutput × ScriptedHost :=
  (⟨some (if h.failingPrograms.contains program then 1 else 0), [], []⟩,
    h.remember (.command program args limit.secs))

def answer : Plan.Handler Host ScriptedHost
  | .pathExists p, h => (h.stat p, h.remember (.stat p))
  | .listDirectory dir, h =>
    ((match h.listings.lookup dir.components with
      | some names => .ok names
      | none => .error (.io (.simple .notFound)) : Except HostError (List String)),
      h.remember (.listDirectory dir))
  | .writeFile p content, h =>
    let h := h.remember (.writeFile p content)
    if h.failingWrites.contains p.components then (.error (.io (.simple .permissionDenied)), h)
    else (.ok (), h.add p.components)
  | .createDirectories p, h =>
    (.ok (), p.ancestors.foldl add (h.remember (.createDirectory p)))
  | .createFile p, h => (.ok (), (h.remember (.createFile p)).add p.components)
  | .removeDirectory p, h =>
    let h := h.remember (.removeDirectory p)
    if h.has p then (.ok (), { h with present := h.present.filter (· ≠ p.components) })
    else (.error (.io (.simple .notFound)), h)
  | .runProgram program args limit, h =>
    let (output, h) := h.runProgram program args limit
    (.ok output, h)
  | .requireProgram program args limit, h =>
    let (output, h) := h.runProgram program args limit
    (if output.succeeded then .ok () else .error (.commandFailed program output.code ""), h)
  | .sleep d token, h => h.sleep d token
  | .isCancelled token, h => (h.signals.isCancelled token, h)
  | .mount device target fstype options, h =>
    let h := h.log ⟨.info, .scriptedHost,
      "FAKE HAL: mount " ++ device.text ++ " -> " ++ target.text ++ " (type: " ++
        Text.Quoted.encodeOption fstype ++ ")"⟩
    let h := h.remember (.mount device target fstype options.words)
    (.ok (), { h with mounts := h.mounts ++ [⟨target, fstype.getD "", device.text⟩] })
  | .unmount target, h =>
    let h := h.log ⟨.info, .scriptedHost, "FAKE HAL: unmount " ++ target.text⟩
    let h := h.remember (.unmount target)
    match removeLast target h.mounts with
    | some mounts => (.ok (), { h with mounts })
    | none => (.error (.mountCall .invalid), h)
  | .mountEntries, h => (.ok h.mounts, h)
  | .probe device, h => (.ok (h.contentOf device), h.remember (.probe device))
  | .makeFilesystem device fstype _, h =>
    (.ok (), (h.remember (.makeFilesystem device fstype)).setContent device (.filesystem fstype))
  | .checkFilesystem device, h => (.ok (h.checkOf device), h.remember (.checkFilesystem device))
  | .growOnDisk device, h => (.ok (), h.remember (.growOnDisk device))
  | .growMounted p, h => (.ok (), h.remember (.growMounted p))
  | .log r, h => ((), h.log r)

end ScriptedHost

end BlockVolume
