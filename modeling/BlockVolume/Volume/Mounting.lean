import BlockVolume.Config
import BlockVolume.Host.Call

namespace BlockVolume.Volume

def checkBeforeMount (device : Path) : Operation Unit := do
  match ← Operation.require (Host.checkFilesystem device) with
  | .clean => pure ()
  | .corrected =>
    Operation.log .info .mounting
      ("Device " ++ device.text ++ " has errors which were corrected by fsck")
  | .uncorrected => throw (.uncorrectableFilesystem device.text)
  | .failed code =>
    Operation.log .warn .mounting
      ("fsck of " ++ device.text ++ " failed (exit=" ++ describeExit code ++ "), mounting anyway")

/-- Makes a disk with the given content ready to be mounted, and gives the type to mount it as: the
one asked for if the disk had to be formatted, else the one that the disk holds. -/
def prepare (device : Path) (fstype : String) (options : MountOptions) :
    DiskContent → Operation String
  | .blank => do
    if options.isReadOnly then throw (.unformattedReadOnly device.text)
    else if !formattable.contains fstype then throw (.unsupportedFilesystem fstype)
    else
      Operation.log .info .mounting
        ("Disk " ++ device.text ++ " appears to be unformatted, formatting as " ++ fstype)
      Operation.require (Host.makeFilesystem device fstype [])
      pure fstype
  | .filesystem held => do
    if !options.isReadOnly && isExtFamily held then checkBeforeMount device
    if held ≠ fstype then
      Operation.log .warn .mounting
        ("Disk " ++ device.text ++ " already holds " ++ held ++ ", requested " ++ fstype ++
          "; mounting as " ++ held)
    pure held
  | .partitionTable kind => throw (.partitionedDevice device.text kind)

def effectiveFstype (config : Config) (fstype : String) : String :=
  if fstype = "" then config.defaultFstype else fstype

def formatAndMount (config : Config) (device target : Path) (fstype : String)
    (options : MountOptions) : Operation Unit := do
  let content ← Operation.require (Host.probe device)
  let held ← prepare device (effectiveFstype config fstype) options content
  Operation.log .info .mounting
    ("Mounting " ++ device.text ++ " at " ++ target.text ++ " (" ++ held ++ ")")
  Operation.require (Host.mount device target (some held) options)

def isMounted (p : Path) : Operation Bool := do
  let entries ← Operation.require Host.mountEntries
  pure (MountTable.isMounted p entries)

inductive Standing
  | absent
  | present
  | corrupted
  deriving DecidableEq

/-- Looks whether a place is there. A place that cannot be looked at because its mount is broken is
there too. -/
def standing (p : Path) : Operation Standing := do
  match ← Operation.attempt (Host.pathExists p) with
  | .ok true => pure .present
  | .ok false =>
    Operation.log .debug .mounting (p.text ++ " does not exist, nothing to clean up")
    pure .absent
  | .error e =>
    if e.isCorruptedMount then
      Operation.log .warn .mounting
        ("Mount point " ++ p.text ++ " is corrupted (" ++ e.message ++ "), unmounting")
      pure .corrupted
    else throw (.host e)

/-- Unmounts what is still mounted at a path, at most `rounds` times; whether nothing is left. -/
def unwind (p : Path) : Nat → Operation Bool
  | 0 => do pure !(← isMounted p)
  | rounds + 1 => do
    if ← isMounted p then
      Operation.log .info .mounting (p.text ++ " still mounted, unmounting again")
      Operation.require (Host.unmount p)
      unwind p rounds
    else pure true

def unmountAll (rounds : Nat) (p : Path) (extensive : Bool) : Operation Bool := do
  Operation.log .info .mounting ("Unmounting " ++ p.text)
  Operation.require (Host.unmount p)
  if extensive then unwind p rounds else pure true

def needsUnmount (p : Path) : Standing → Operation Bool
  | .corrupted => pure true
  | _ => isMounted p

/-- Unmounts a place if something is mounted there, and removes it. The answer is `false` only if
`rounds` further unmounts left the place mounted; nothing is removed then. -/
def cleanUp (rounds : Nat) (p : Path) (extensive : Bool) : Operation Bool := do
  let s ← standing p
  if s = .absent then pure true
  else
    let uncovered ←
      if ← needsUnmount p s then unmountAll rounds p extensive
      else do
        Operation.log .debug .mounting (p.text ++ " is not a mount point")
        pure true
    if uncovered then
      Operation.require (Host.removeDirectory p)
      Operation.log .info .mounting ("Removed mount point " ++ p.text)
    pure uncovered

def deviceAt (p : Path) : Operation (String × Nat) := do
  let entries ← Operation.require Host.mountEntries
  match MountTable.find p entries with
  | none => pure ("", 0)
  | some entry => pure (entry.source, (MountTable.mountPointsOf entry.source entries).length)

def grow (device mountPath : Path) : Operation Unit := do
  match ← Operation.require (Host.probe device) with
  | .filesystem held =>
    if isExtFamily held then
      Operation.log .info .mounting
        ("Resizing " ++ held ++ " filesystem on " ++ device.text)
      Operation.require (Host.growOnDisk device)
    else if held = "xfs" then
      Operation.log .info .mounting ("Growing xfs filesystem at " ++ mountPath.text)
      Operation.require (Host.growMounted mountPath)
    else throw (.unsupportedFilesystem held)
  | .blank | .partitionTable _ =>
    throw (.unsupportedFilesystem ("no filesystem on " ++ device.text))

def isPresent (p : Path) : Operation Bool :=
  Operation.require (Host.pathExists p)

def makeDirectory (p : Path) : Operation Unit :=
  Operation.require (Host.createDirectories p)

def makeFile (p : Path) : Operation Unit :=
  Operation.require (Host.createFile p)

end BlockVolume.Volume
