import BlockVolume.Proofs.Mounting.Course
import BlockVolume.Proofs.Unix.Requests

namespace BlockVolume

namespace Unix

def blkidRan (device : Path) (ended : Except IoError ProgramEnd) : Plan.Exchange Unix :=
  ⟨SystemCall.spawn "blkid" (probeArgs device.text) probeLimit, ended⟩

def mkfsRan (device : Path) (fstype : String) (ended : Except IoError ProgramEnd) :
    Plan.Exchange Unix :=
  ⟨SystemCall.spawn (formatProgram fstype) (formatArgs fstype device.text []) formatLimit, ended⟩

def fsckRan (device : Path) (ended : Except IoError ProgramEnd) : Plan.Exchange Unix :=
  ⟨SystemCall.spawn "fsck" ["-a", device.text] checkLimit, ended⟩

def mountCalled (source target : Path) (fstype : Option String) (flags : MountFlags)
    (data : Option String) (answer : Except Errno Unit) : Plan.Exchange Unix :=
  ⟨SystemCall.mount source target fstype flags data, answer⟩

def blkidEnd {σ : Type} (handle : Plan.Handler Unix σ) (s : σ) (device : Path) :
    Except IoError ProgramEnd :=
  (handle (SystemCall.spawn "blkid" (probeArgs device.text) probeLimit) s).1

end Unix

namespace Volume

open Unix

variable {device target : Path} {fstype : String} {options : MountOptions}

inductive SystemPrepared (device : Path) (fstype : String) (options : MountOptions) :
    DiskContent → List (Plan.Exchange Unix) → Except VolumeError String → Prop
  | unasked {content : DiskContent} {r : Except VolumeError String}
      (prepared : Prepared device fstype options content [] r) :
      SystemPrepared device fstype options content [] r
  | formatted (hwrite : options.isReadOnly = false) (h : fstype ∈ formattable)
      (ended : Except IoError ProgramEnd) :
      SystemPrepared device fstype options .blank [mkfsRan device fstype ended]
        (((successOf (formatProgram fstype) formatLimit ended).mapError VolumeError.host).map
          fun _ => fstype)
  | checked {held : String} (hwrite : options.isReadOnly = false) (h : isExtFamily held = true)
      (ended : Except IoError ProgramEnd) :
      SystemPrepared device fstype options (.filesystem held) [fsckRan device ended]
        ((verdict device (checkReported ended)).map fun _ => held)

theorem Prepared.onSystem {content : DiskContent} {services : List Service}
    {r : Except VolumeError String}
    (h : Prepared device fstype options content (services.map Service.request) r) :
    SystemPrepared device fstype options content (services.map Service.call) r := by
  by_cases hnone : services = []
  · subst hnone
    exact .unasked h
  · generalize hxs : services.map Service.request = xs at h
    cases h with
    | formatted hwrite ht reply =>
        obtain ⟨s, rfl, hs⟩ := List.map_eq_singleton_iff.1 hxs
        obtain ⟨ended, rfl, rfl⟩ := Service.eq_of_request hs
        exact .formatted hwrite ht ended
    | checked hwrite hext reply =>
        obtain ⟨s, rfl, hs⟩ := List.map_eq_singleton_iff.1 hxs
        obtain ⟨ended, rfl, rfl⟩ := Service.eq_of_request hs
        exact .checked hwrite hext ended
    | readOnly | unsupported | unchecked | partitioned =>
        exact absurd (List.map_eq_nil_iff.1 hxs) hnone

/-- What is asked of the system to mount a disk that `blkid` ended so for, and the result. -/
inductive SystemCourse (device target : Path) (fstype : String) (options : MountOptions)
    (ended : Except IoError ProgramEnd) :
    List (Plan.Exchange Unix) → Except VolumeError Unit → Prop
  | unknown {e : HostError} (h : contentReported ended = .error e) :
      SystemCourse device target fstype options ended [blkidRan device ended] (.error (.host e))
  | unready {content : DiskContent} {xs : List (Plan.Exchange Unix)} {e : VolumeError}
      (h : contentReported ended = .ok content)
      (prepared : SystemPrepared device fstype options content xs (.error e)) :
      SystemCourse device target fstype options ended (blkidRan device ended :: xs) (.error e)
  | ready {content : DiskContent} {xs : List (Plan.Exchange Unix)} {held : String}
      (h : contentReported ended = .ok content)
      (prepared : SystemPrepared device fstype options content xs (.ok held))
      (answer : Except Errno Unit) :
      SystemCourse device target fstype options ended
        (blkidRan device ended ::
          (xs ++ [mountCalled device target (some held) options.flags options.data answer]))
        ((answer.mapError (mountFailure target)).mapError VolumeError.host)

theorem SystemCourse.head?_eq {ended : Except IoError ProgramEnd}
    {ys : List (Plan.Exchange Unix)} {r : Except VolumeError Unit}
    (h : SystemCourse device target fstype options ended ys r) :
    ys.head? = some (blkidRan device ended) := by
  cases h <;> rfl

theorem MountCourse.onSystem {services : List Service} {r : Except VolumeError Unit}
    (h : MountCourse device target fstype options (services.map Service.request) r) :
    ∃ ended, SystemCourse device target fstype options ended (services.map Service.call) r := by
  generalize hxs : services.map Service.request = xs at h
  cases h with
  | unknown e =>
      obtain ⟨s, rfl, hs⟩ := List.map_eq_singleton_iff.1 hxs
      obtain ⟨ended, rfl, hended⟩ := Service.eq_of_request hs
      exact ⟨ended, .unknown hended.symm⟩
  | unready prepared =>
      obtain ⟨s, rest, rfl, hs, rfl⟩ := List.map_eq_cons_iff.1 hxs
      obtain ⟨ended, rfl, hended⟩ := Service.eq_of_request hs
      exact ⟨ended, .unready hended.symm prepared.onSystem⟩
  | ready prepared reply =>
      obtain ⟨s, rest, rfl, hs, hrest⟩ := List.map_eq_cons_iff.1 hxs
      obtain ⟨ended, rfl, hended⟩ := Service.eq_of_request hs
      obtain ⟨before, last, rfl, rfl, hlast⟩ := List.map_eq_append_iff.1 hrest
      obtain ⟨m, rfl, hm⟩ := List.map_eq_singleton_iff.1 hlast
      obtain ⟨answer, rfl, rfl⟩ := Service.eq_of_request hm
      refine ⟨ended, ?_⟩
      rw [List.map_cons, List.map_append]
      exact .ready hended.symm prepared.onSystem answer

theorem formatAndMount_course {σ : Type} (handle : Plan.Handler Unix σ) (s : σ) (config : Config)
    (device target : Path) (fstype : String) (options : MountOptions) :
    let run :=
      (onSystem (formatAndMount config device target fstype options).run).record handle s
    SystemCourse device target (effectiveFstype config fstype) options (blkidEnd handle s device)
      (Unix.asked run.1) run.2.1 := by
  intro run
  obtain ⟨xs, services, hxs, hrequests, hcalls⟩ := onSystem_transcript
    (Plan.transcript_record handle
      (onSystem (formatAndMount config device target fstype options).run) s)
  obtain ⟨ended, hcourse⟩ := (hrequests ▸ formatAndMount_transcript hxs).onSystem
  obtain ⟨rest, hrest⟩ : ∃ rest,
      ((onSystem (formatAndMount config device target fstype options).run).record handle s).1 =
        blkidRan device (blkidEnd handle s device) :: rest := ⟨_, rfl⟩
  have hended : blkidRan device (blkidEnd handle s device) = blkidRan device ended := by
    rw [hrest, Unix.asked_cons rfl] at hcalls
    rw [← hcalls] at hcourse
    exact Option.some.inj hcourse.head?_eq
  obtain rfl : blkidEnd handle s device = ended := eq_of_heq (Sigma.mk.inj hended).2
  rw [hcalls]
  exact hcourse

end Volume

end BlockVolume
