import BlockVolume.Proofs.Lookup.Rescan
import BlockVolume.Volume.Lookup

namespace BlockVolume.Volume

open Operation

def Searching (config : Config) : HostCall → Prop
  | .pathExists _ | .sleep .. => True
  | c => RescanStep config c

variable (config : Config)

theorem searching_log (level : LogLevel) (origin : LogOrigin) (message : String) :
    Plan.Only (I := Host) (Searching config) (Operation.log level origin message).run :=
  only_log (fun _ => trivial) level origin message

theorem searching_giveUp {α : Type} (volume reason : String) :
    Plan.Only (I := Host) (Searching config) (giveUp (α := α) volume reason).run :=
  only_bind (searching_log config ..) fun _ => trivial

theorem searching_firstPresent (ps : List Path) :
    Plan.Only (I := Host) (Searching config) (firstPresent ps).run := by
  induction ps with
  | nil => trivial
  | cons p ps ih =>
      refine only_bind (only_require (Host.only_ask trivial)) fun there => ?_
      cases there with
      | true => trivial
      | false => exact ih

theorem searching_tryOnce (token : CancelToken) (volume : String) (made : Nat) :
    Plan.Only (I := Host) (Searching config) (tryOnce token volume made).run := by
  refine only_bind (only_attempt (Host.only_ask trivial)) fun cancelled => ?_
  cases cancelled with
  | true => exact searching_giveUp config ..
  | false => exact searching_firstPresent config _

theorem searching_rescan (token : CancelToken) :
    Plan.Only (I := Host) (Searching config) (rescan config token) := by
  refine (rescanStep_rescan config token).mono fun c hc => ?_
  cases c with
  | pathExists | sleep => trivial
  | _ => exact hc

theorem searching_pause (token : CancelToken) (volume : String) (d : Duration) :
    Plan.Only (I := Host) (Searching config) (pause config token volume d).run := by
  refine only_bind (only_attempt (searching_rescan config token)) fun _ => ?_
  refine only_bind (searching_log config ..) fun _ => ?_
  refine only_bind (only_attempt (Host.only_ask trivial)) fun outcome => ?_
  cases outcome with
  | elapsed => trivial
  | cancelled => exact searching_giveUp config ..

theorem searching_awaitDevice (token : CancelToken) (volume : String) (made : Nat)
    (ds : List Duration) :
    Plan.Only (I := Host) (Searching config) (awaitDevice config token volume made ds).run := by
  induction ds generalizing made with
  | nil =>
      refine only_bind (searching_tryOnce config ..) fun found => ?_
      cases found with
      | some device => trivial
      | none => exact searching_giveUp config ..
  | cons d ds ih =>
      refine only_bind (searching_tryOnce config ..) fun found => ?_
      cases found with
      | some device => trivial
      | none => exact only_bind (searching_pause config ..) fun _ => ih (made + 1)

theorem searching_findDevice (token : CancelToken) (volume : String) :
    Plan.Only (I := Host) (Searching config) (findDevice config token volume).run := by
  refine only_bind (searching_log config ..) fun _ => ?_
  refine only_bind (searching_awaitDevice config ..) fun device => ?_
  dsimp only
  split
  · trivial
  · exact only_bind (searching_log config ..) fun _ => trivial

end BlockVolume.Volume
