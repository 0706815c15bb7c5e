import BlockVolume.Proofs.LiveHost
import BlockVolume.Proofs.Transcripts
import BlockVolume.Volume.Mounting

namespace BlockVolume

def probed (device : Path) (reply : Except HostError DiskContent) : Plan.Exchange Host :=
  ⟨HostCall.probe device, reply⟩

def formatted (device : Path) (fstype : String) (reply : Except HostError Unit) :
    Plan.Exchange Host :=
  ⟨HostCall.makeFilesystem device fstype [], reply⟩

def checked (device : Path) (reply : Except HostError CheckOutcome) : Plan.Exchange Host :=
  ⟨HostCall.checkFilesystem device, reply⟩

def mounted (device target : Path) (held : String) (options : MountOptions)
    (reply : Except HostError Unit) : Plan.Exchange Host :=
  ⟨HostCall.mount device target (some held) options, reply⟩

def CheckingCall : HostCall → Prop
  | .checkFilesystem _ | .log _ => True
  | _ => False

def PreparingCall : HostCall → Prop
  | .makeFilesystem .. => True
  | c => CheckingCall c

namespace Volume

open Operation

def verdict (device : Path) : Except HostError CheckOutcome → Except VolumeError Unit
  | .error e => .error (.host e)
  | .ok .uncorrected => .error (.uncorrectableFilesystem device.text)
  | .ok _ => .ok ()

/-- What is asked of the host to make a disk with the given content ready, and the type that it is
then mounted as. -/
inductive Prepared (device : Path) (fstype : String) (options : MountOptions) :
    DiskContent → List (Plan.Exchange Host) → Except VolumeError String → Prop
  | readOnly (h : options.isReadOnly = true) :
      Prepared device fstype options .blank [] (.error (.unformattedReadOnly device.text))
  | unsupported (hwrite : options.isReadOnly = false) (h : fstype ∉ formattable) :
      Prepared device fstype options .blank [] (.error (.unsupportedFilesystem fstype))
  | formatted (hwrite : options.isReadOnly = false) (h : fstype ∈ formattable)
      (reply : Except HostError Unit) :
      Prepared device fstype options .blank [formatted device fstype reply]
        ((reply.mapError VolumeError.host).map fun _ => fstype)
  | checked {held : String} (hwrite : options.isReadOnly = false) (h : isExtFamily held = true)
      (reply : Except HostError CheckOutcome) :
      Prepared device fstype options (.filesystem held) [checked device reply]
        ((verdict device reply).map fun _ => held)
  | unchecked {held : String} (h : options.isReadOnly = false → isExtFamily held = false) :
      Prepared device fstype options (.filesystem held) [] (.ok held)
  | partitioned (kind : String) :
      Prepared device fstype options (.partitionTable kind) []
        (.error (.partitionedDevice device.text kind))

/-- What is asked of the host to mount a disk, and the result. -/
inductive MountCourse (device target : Path) (fstype : String) (options : MountOptions) :
    List (Plan.Exchange Host) → Except VolumeError Unit → Prop
  | unknown (e : HostError) :
      MountCourse device target fstype options [probed device (.error e)] (.error (.host e))
  | unready {content : DiskContent} {xs : List (Plan.Exchange Host)} {e : VolumeError}
      (prepared : Prepared device fstype options content xs (.error e)) :
      MountCourse device target fstype options (probed device (.ok content) :: xs) (.error e)
  | ready {content : DiskContent} {xs : List (Plan.Exchange Host)} {held : String}
      (prepared : Prepared device fstype options content xs (.ok held))
      (reply : Except HostError Unit) :
      MountCourse device target fstype options
        (probed device (.ok content) :: (xs ++ [mounted device target held options reply]))
        (reply.mapError VolumeError.host)

variable {device target : Path} {fstype : String} {options : MountOptions}
  {zs : List (Plan.Exchange Host)}

theorem transcript_optional_log {α : Type} {p : Prop} [Decidable p] {level : LogLevel}
    {origin : LogOrigin} {message : String} {a : α} {r : Except VolumeError α}
    (h : (if p then Operation.log level origin message >>= fun _ => pure a
      else pure a : Operation α).run.Transcript zs r) : asked zs = [] ∧ r = .ok a := by
  split at h
  · obtain ⟨ys, hys, rfl⟩ := transcript_log_bind h
    cases hys
    exact ⟨rfl, rfl⟩
  · cases h
    exact ⟨rfl, rfl⟩

theorem checking_checkBeforeMount (device : Path) :
    Plan.Only (I := Host) CheckingCall (checkBeforeMount device).run := by
  refine only_bind (only_require (Host.only_ask trivial)) fun outcome => ?_
  cases outcome with
  | clean | uncorrected => trivial
  | corrected | failed code => exact only_log (fun _ => trivial) ..

theorem checking_prepare_filesystem (device : Path) (fstype : String) (options : MountOptions)
    (held : String) :
    Plan.Only (I := Host) CheckingCall (prepare device fstype options (.filesystem held)).run := by
  have hrest : Plan.Only (I := Host) CheckingCall
      (show Operation String from do
        if held ≠ fstype then
          Operation.log .warn .mounting
            ("Disk " ++ device.text ++ " already holds " ++ held ++ ", requested " ++ fstype ++
              "; mounting as " ++ held)
        pure held).run := by
    dsimp only
    split
    · exact only_bind (only_log (fun _ => trivial) ..) fun _ => trivial
    · trivial
  simp only [prepare]
  split
  · exact only_bind (checking_checkBeforeMount device) fun _ => hrest
  · exact hrest

theorem preparing_prepare (device : Path) (fstype : String) (options : MountOptions)
    (content : DiskContent) :
    Plan.Only (I := Host) PreparingCall (prepare device fstype options content).run := by
  cases content with
  | blank =>
      simp only [prepare]
      split
      · trivial
      · split
        · trivial
        · refine only_bind (only_log (fun _ => trivial) ..) fun _ => ?_
          exact only_bind (only_require (Host.only_ask trivial)) fun _ => trivial
  | filesystem held =>
      refine (checking_prepare_filesystem device fstype options held).mono fun c hc => ?_
      cases c with
      | checkFilesystem | log => trivial
      | _ => exact hc.elim
  | partitionTable kind => trivial

theorem checkBeforeMount_transcript {r : Except VolumeError Unit}
    (h : (checkBeforeMount device).run.Transcript zs r) :
    ∃ reply, asked zs = [checked device reply] ∧ r = verdict device reply := by
  obtain ⟨e, hask, rfl⟩ | ⟨xs, outcome, ys, hask, hys, rfl⟩ := transcript_require_bind_cases h
  · obtain rfl := Host.transcript_ask (c := .checkFilesystem device) hask
    exact ⟨.error e, rfl, rfl⟩
  · obtain rfl := Host.transcript_ask (c := .checkFilesystem device) hask
    refine ⟨.ok outcome, ?_⟩
    cases outcome with
    | clean | uncorrected =>
        cases hys
        exact ⟨rfl, rfl⟩
    | corrected | failed code =>
        cases hys with
        | call rest =>
            cases rest
            exact ⟨rfl, rfl⟩

theorem prepare_transcript {content : DiskContent} {r : Except VolumeError String}
    (h : (prepare device fstype options content).run.Transcript zs r) :
    Prepared device fstype options content (asked zs) r := by
  cases content with
  | blank =>
      simp only [prepare] at h
      split at h
      · next hread =>
          cases h
          exact .readOnly hread
      · next hwrite =>
          have hwrite : options.isReadOnly = false := by simpa using hwrite
          split at h
          · next ht =>
              cases h
              exact .unsupported hwrite (by simpa using ht)
          · next ht =>
              have ht : fstype ∈ formattable := by simpa using ht
              obtain ⟨ys, hys, rfl⟩ := transcript_log_bind h
              obtain ⟨e, hask, rfl⟩ | ⟨xs, ⟨⟩, us, hask, hus, rfl⟩ :=
                transcript_require_bind_cases hys
              · obtain rfl := Host.transcript_ask (c := .makeFilesystem device fstype []) hask
                exact .formatted hwrite ht (.error e)
              · obtain rfl := Host.transcript_ask (c := .makeFilesystem device fstype []) hask
                cases hus
                exact .formatted hwrite ht (.ok ())
  | filesystem held =>
      simp only [prepare] at h
      split at h
      · next hcheck =>
          rw [Bool.and_eq_true, Bool.not_eq_true'] at hcheck
          have hchecked {xs : List (Plan.Exchange Host)} {q : Except VolumeError Unit}
              (h : (checkBeforeMount device).run.Transcript xs q) :
              Prepared device fstype options (.filesystem held) (asked xs)
                (q.map fun _ => held) := by
            obtain ⟨reply, hasked, rfl⟩ := checkBeforeMount_transcript h
            rw [hasked]
            exact .checked hcheck.1 hcheck.2 reply
          obtain ⟨e, hx, rfl⟩ | ⟨xs, ⟨⟩, ys, hx, hys, rfl⟩ := transcript_bind_cases h
          · exact hchecked hx
          · obtain ⟨hnone, rfl⟩ := transcript_optional_log hys
            rw [asked_append, hnone, List.append_nil]
            exact hchecked hx
      · next hcheck =>
          obtain ⟨hnone, rfl⟩ := transcript_optional_log h
          rw [hnone]
          exact .unchecked fun hwrite => by simpa [hwrite] using hcheck
  | partitionTable kind =>
      cases h
      exact .partitioned kind

theorem formatAndMount_transcript {config : Config} {r : Except VolumeError Unit}
    (h : (formatAndMount config device target fstype options).run.Transcript zs r) :
    MountCourse device target (effectiveFstype config fstype) options (asked zs) r := by
  obtain ⟨e, hask, rfl⟩ | ⟨xs, content, ys, hask, hys, rfl⟩ := transcript_require_bind_cases h
  · obtain rfl := Host.transcript_ask (c := .probe device) hask
    exact .unknown e
  · obtain rfl := Host.transcript_ask (c := .probe device) hask
    obtain ⟨e, hprepare, rfl⟩ | ⟨us, held, vs, hprepare, hvs, rfl⟩ := transcript_bind_cases hys
    · exact .unready (prepare_transcript hprepare)
    · obtain ⟨ws, hws, rfl⟩ := transcript_log_bind hvs
      rw [run_require] at hws
      obtain ⟨as, reply, bs, hmount, hend, rfl⟩ := Plan.Transcript.bind_cases hws
      obtain rfl := Host.transcript_ask (c := .mount device target (some held) options) hmount
      cases hend
      rw [asked_append, asked_append]
      exact .ready (prepare_transcript hprepare) reply

end Volume

end BlockVolume
