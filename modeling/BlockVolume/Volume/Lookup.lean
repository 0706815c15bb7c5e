import BlockVolume.Config
import BlockVolume.Host.Call
import BlockVolume.Path
import BlockVolume.Text

namespace BlockVolume.Volume

def serialLength : Nat := 20

/-- The hypervisor gives the virtual disk of a volume this serial, and the guest links the disk under
it. -/
def serial (id : String) : String :=
  String.ofList ((id.toList.filter (· ≠ '-')).take serialLength)

def byIdDirectory : Path := ⟨"/dev/disk/by-id"⟩

/-- What precedes the serial in a link's name: virtio disks, SCSI disks, and SCSI disks that the
emulator names. -/
def linkStems : List String := ["virtio-", "scsi-", "scsi-0QEMU_QEMU_HARDDISK_"]

def candidates (serial : String) : List Path :=
  linkStems.map fun stem => byIdDirectory.join ⟨stem ++ serial⟩

def scsiHostDirectory : Path := ⟨"/sys/class/scsi_host/"⟩

def scanRequest : List UInt8 := Text.Utf8.encode "- - -"

def scanFile (scsiHost : String) : Path := (scsiHostDirectory.join ⟨scsiHost⟩).join ⟨"scan"⟩

def scanHost (scsiHost : String) : Plan Host Unit := do
  let scan := scanFile scsiHost
  Host.log .debug .rescan ("Triggering SCSI host rescan of " ++ scan.text)
  match ← Host.writeFile scan scanRequest with
  | .ok () => pure ()
  | .error e =>
    Host.log .error .rescan ("Failed to rescan scsi host " ++ scan.text ++ ": " ++ e.message)

def scanHosts : List String → Plan Host Unit
  | [] => pure ()
  | scsiHost :: rest => do
    scanHost scsiHost
    scanHosts rest

def scanAllHosts : Plan Host Unit := do
  match ← Host.listDirectory scsiHostDirectory with
  | .ok scsiHosts => scanHosts scsiHosts
  | .error e =>
    Host.log .error .rescan
      ("Failed to read dir " ++ scsiHostDirectory.text ++ ": " ++ e.message)

def replayEvents (config : Config) : Plan Host Unit := do
  match ← Host.runProgram "udevadm" ["trigger"] config.udevadmTimeout with
  | .ok output =>
    if output.succeeded then pure ()
    else
      let printed := Text.Utf8.decodeLossy output.stdout ++ Text.Utf8.decodeLossy output.stderr
      Host.log .error .rescan
        ("Error running udevadm trigger (exit=" ++ describeExit output.code ++ "): " ++
          Text.trim printed)
  | .error e => Host.log .error .rescan ("Error running udevadm trigger: " ++ e.message)

/-- A rescan of all SCSI hosts and of the device manager, unless the token is cancelled. -/
def rescan (config : Config) (token : CancelToken) : Plan Host Unit := do
  if ← Host.isCancelled token then
    Host.log .debug .rescan "Skipping rescan, lookup already cancelled"
  else
    Host.log .debug .rescan "Scanning SCSI host"
    scanAllHosts
    replayEvents config

def firstPresent : List Path → Operation (Option Path)
  | [] => pure none
  | p :: ps => do
    if ← Operation.require (Host.pathExists p) then pure (some p)
    else firstPresent ps

def giveUp {α : Type} (volume reason : String) : Operation α := do
  Operation.log .info .lookup reason
  throw (.deviceNotFound volume)

def tryOnce (token : CancelToken) (volume : String) (made : Nat) : Operation (Option Path) := do
  if ← Operation.attempt (Host.isCancelled token) then
    giveUp volume
      ("Device lookup for volume " ++ Text.Quoted.encode volume ++ " cancelled after " ++
        toString made ++ " attempts")
  else firstPresent (candidates (serial volume))

/-- What comes between two attempts: a rescan and a wait. -/
def pause (config : Config) (token : CancelToken) (volume : String) (delay : Duration) :
    Operation Unit := do
  Operation.attempt (rescan config token)
  Operation.log .debug .lookup
    ("Device for volume " ++ Text.Quoted.encode volume ++ " not present yet, retrying in " ++
      delay.describe)
  match ← Operation.attempt (Host.sleep delay token) with
  | .elapsed => pure ()
  | .cancelled =>
    giveUp volume
      ("Device lookup for volume " ++ Text.Quoted.encode volume ++ " cancelled while waiting")

def awaitDevice (config : Config) (token : CancelToken) (volume : String) (made : Nat) :
    List Duration → Operation Path
  | [] => do
    match ← tryOnce token volume made with
    | some device => pure device
    | none =>
      giveUp volume
        ("No device for volume " ++ Text.Quoted.encode volume ++ " after " ++
          toString (made + 1) ++ " attempts")
  | delay :: later => do
    match ← tryOnce token volume made with
    | some device => pure device
    | none =>
      pause config token volume delay
      awaitDevice config token volume (made + 1) later

def findDevice (config : Config) (token : CancelToken) (volume : String) : Operation Path := do
  let schedule := config.retry.schedule
  Operation.log .debug .lookup
    ("Looking up device for volume " ++ Text.Quoted.encode volume ++ " (serial " ++
      Text.Quoted.encode (serial volume) ++ "), waiting up to " ++ schedule.total.describe)
  let device ← awaitDevice config token volume 0 schedule.delays
  if device.text = "" then throw (.emptyDevicePath volume)
  Operation.log .info .lookup
    ("Found device " ++ device.text ++ " for volume " ++ Text.Quoted.encode volume)
  pure device

end BlockVolume.Volume
