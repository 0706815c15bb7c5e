import BlockVolume.Proofs.Mounting.Formatting
import BlockVolume.Proofs.Mounting.Options

namespace BlockVolume

namespace Unix

/-- `blkid` ended well, and the last line that it printed with a type names this file system. -/
def ReportsFilesystem (ended : Except IoError ProgramEnd) (held : String) : Prop :=
  ∃ output, ended = .ok (.ended output) ∧ output.code = some 0 ∧ held ≠ "" ∧
    lastValue "TYPE" (Text.Utf8.decodeLossy output.stdout) = some held

variable {ended : Except IoError ProgramEnd}

theorem contentReported_of_reportsFilesystem {held : String} (h : ReportsFilesystem ended held) :
    contentReported ended = .ok (.filesystem held) := by
  obtain ⟨output, rfl, hcode, hheld, hvalue⟩ := h
  rw [contentReported_ended, hcode, contentOf_eq_filesystem_iff.2 ⟨hvalue, hheld⟩]
  rfl

def fsckCodes (xs : List (Plan.Exchange Unix)) : List (Option Int) :=
  xs.filterMap fun
    | ⟨.spawn program _ _, ended⟩ => match (ended : Except IoError ProgramEnd) with
      | .ok (.ended output) => if program = "fsck" then some output.code else none
      | _ => none
    | _ => none

theorem fsckCodes_asked (xs : List (Plan.Exchange Unix)) : fsckCodes (asked xs) = fsckCodes xs :=
  filterMap_asked (fun _ _ => rfl) (fun _ _ => rfl) xs

@[simp]
theorem fsckCodes_nil : fsckCodes [] = [] := rfl

@[simp]
theorem fsckCodes_mountCalled (source target : Path) (fstype : Option String) (flags : MountFlags)
    (data : Option String) (answer : Except Errno Unit) (xs : List (Plan.Exchange Unix)) :
    fsckCodes (mountCalled source target fstype flags data answer :: xs) = fsckCodes xs := rfl

@[simp]
theorem fsckCodes_blkidRan (device : Path) (ended : Except IoError ProgramEnd)
    (xs : List (Plan.Exchange Unix)) : fsckCodes (blkidRan device ended :: xs) = fsckCodes xs := by
  match ended with
  | .ok (.ended output) => rfl
  | .ok .timedOut => rfl
  | .error e => rfl

@[simp]
theorem mem_fsckCodes_fsckRan {device : Path} {check : Except IoError ProgramEnd}
    {xs : List (Plan.Exchange Unix)} {code : Option Int} :
    code ∈ fsckCodes (fsckRan device check :: xs) ↔
      (∃ output, check = .ok (.ended output) ∧ code = output.code) ∨ code ∈ fsckCodes xs := by
  match check with
  | .ok (.ended output) =>
      change code ∈ output.code :: fsckCodes xs ↔ _
      simp
  | .ok .timedOut | .error e =>
      change code ∈ fsckCodes xs ↔ _
      simp

end Unix

theorem CheckOutcome.ofExitCode_eq_uncorrected_iff {code : Option Int} :
    ofExitCode code = .uncorrected ↔ code = some 4 := by
  unfold ofExitCode
  split <;> simp_all

namespace Volume

open Unix

variable {device target : Path} {fstype : String} {options : MountOptions}
  {ys : List (Plan.Exchange Unix)} {ended : Except IoError ProgramEnd} {held : String}

theorem verdict_ended {output : ProgramOutput} :
    verdict device (checkReported (.ok (.ended output))) =
      if output.code = some 4 then .error (.uncorrectableFilesystem device.text) else .ok () := by
  change verdict device (.ok (CheckOutcome.ofExitCode output.code)) = _
  split
  · next hcode => rw [CheckOutcome.ofExitCode_eq_uncorrected_iff.2 hcode, verdict]
  · next hcode =>
      rw [← CheckOutcome.ofExitCode_eq_uncorrected_iff] at hcode
      revert hcode
      cases CheckOutcome.ofExitCode output.code <;> simp [verdict]

theorem ended_of_verdict (h : verdict device (checkReported ended) = .ok ()) :
    ∃ output, ended = .ok (.ended output) := by
  match ended, h with
  | .ok (.ended output), _ => exact ⟨output, rfl⟩
  | .ok .timedOut, h => cases h
  | .error e, h => cases h

theorem SystemPrepared.of_ext {r : Except VolumeError String}
    (h : SystemPrepared device fstype options (.filesystem held) ys r)
    (hwrite : options.isReadOnly = false) (hext : isExtFamily held = true) :
    ∃ check, ys = [fsckRan device check] ∧
      r = (verdict device (checkReported check)).map fun _ => held := by
  cases h with
  | unasked prepared =>
      cases prepared with
      | unchecked h => exact absurd ((h hwrite).symm.trans hext) Bool.false_ne_true
  | checked hwrite hext check => exact ⟨check, rfl, rfl⟩

theorem SystemCourse.of_ext {r : Except VolumeError Unit}
    (h : SystemCourse device target fstype options ended ys r)
    (hreport : ReportsFilesystem ended held) (hwrite : options.isReadOnly = false)
    (hext : isExtFamily held = true) :
    ∃ check,
      (∃ e, verdict device (checkReported check) = .error e ∧ r = .error e ∧
        ys = [blkidRan device ended, fsckRan device check]) ∨
      (∃ answer, verdict device (checkReported check) = .ok () ∧
        ys = [blkidRan device ended, fsckRan device check,
          mountCalled device target (some held) options.flags options.data answer]) := by
  have hcontent := contentReported_of_reportsFilesystem hreport
  cases h with
  | unknown he => cases he.symm.trans hcontent
  | unready h prepared =>
      obtain rfl := Except.ok.inj (h.symm.trans hcontent)
      obtain ⟨check, rfl, hr⟩ := prepared.of_ext hwrite hext
      cases hv : verdict device (checkReported check) with
      | ok _ => simp [hv, Except.map] at hr
      | error e =>
          rw [hv] at hr
          obtain rfl := Except.error.inj hr
          exact ⟨check, .inl ⟨_, hv, rfl, rfl⟩⟩
  | ready h prepared answer =>
      obtain rfl := Except.ok.inj (h.symm.trans hcontent)
      obtain ⟨check, rfl, hr⟩ := prepared.of_ext hwrite hext
      cases hv : verdict device (checkReported check) with
      | ok _ =>
          rw [hv] at hr
          obtain rfl := Except.ok.inj hr
          exact ⟨check, .inr ⟨answer, hv, rfl⟩⟩
      | error e => simp [hv, Except.map] at hr

/-- A disk of the ext family that may be written to is checked by `fsck`. It is not mounted if
`fsck` ends with the exit code 4, and it is after any other exit code, even one of which 4 is a
part. -/
theorem formatAndMount_fsck {σ : Type} (handle : Plan.Handler Unix σ) (s : σ) (config : Config)
    (device target : Path) (fstype : String) (options : MountOptions) (held : String)
    (hwrite : "ro" ∉ options.words) (hext : held ∈ ["ext2", "ext3", "ext4"])
    (hreport : ReportsFilesystem (blkidEnd handle s device) held) :
    let run :=
      (onSystem (formatAndMount config device target fstype options).run).record handle s
    programRuns run.1 = [("blkid", probeArgs device.text), ("fsck", ["-a", device.text])] ∧
      ∀ code ∈ fsckCodes run.1,
        (code = some 4 →
          run.2.1 = .error (.uncorrectableFilesystem device.text) ∧ mountCalls run.1 = []) ∧
        (code ≠ some 4 →
          mountCalls run.1 = [.mount device target (some held) options.flags options.data]) := by
  intro run
  have hwrite : options.isReadOnly = false := by simpa [MountOptions.isReadOnly] using hwrite
  have hext : isExtFamily held = true := by simpa [isExtFamily] using hext
  have hcourse := formatAndMount_course handle s config device target fstype options
  obtain ⟨check, hcheck⟩ := hcourse.of_ext hreport hwrite hext
  rw [← programRuns_asked, ← mountCalls_asked, ← fsckCodes_asked]
  obtain ⟨e, hv, hr, hys⟩ | ⟨answer, hv, hys⟩ := hcheck
  · rw [hys, hr]
    refine ⟨rfl, fun code hcode => ?_⟩
    obtain ⟨output, rfl, rfl⟩ : ∃ output, check = .ok (.ended output) ∧ code = output.code := by
      simpa using hcode
    rw [verdict_ended] at hv
    split at hv
    · next hcode =>
        obtain rfl := Except.error.inj hv
        exact ⟨fun _ => ⟨rfl, rfl⟩, fun h => absurd hcode h⟩
    · cases hv
  · rw [hys]
    refine ⟨rfl, fun code hcode => ?_⟩
    obtain ⟨output, rfl, rfl⟩ : ∃ output, check = .ok (.ended output) ∧ code = output.code := by
      simpa using hcode
    rw [verdict_ended] at hv
    split at hv
    · cases hv
    · next hcode => exact ⟨fun h => absurd h hcode, fun _ => rfl⟩

theorem formatAndMount_fsck_exit_four :
    let found : ProgramOutput := ⟨some 0, Text.Utf8.encode "UUID=1\nTYPE=ext4\n", []⟩
    let machine := Machine.ofTools [("blkid", found), ("fsck", ⟨some 4, [], []⟩)]
    let run := (onSystem (formatAndMount ⟨"xfs", .standard, 30⟩ ⟨"/dev/sdb"⟩ ⟨"/mnt"⟩ ""
      ⟨["rw", "discard"]⟩).run).record Machine.answer machine
    "ro" ∉ ["rw", "discard"] ∧ "ext4" ∈ ["ext2", "ext3", "ext4"] ∧
      ReportsFilesystem (blkidEnd Machine.answer machine ⟨"/dev/sdb"⟩) "ext4" ∧
      fsckCodes run.1 = [some 4] ∧
      run.2.1 = .error (.uncorrectableFilesystem "/dev/sdb") ∧ mountCalls run.1 = [] := by
  intro found machine run
  have hreport : ReportsFilesystem (blkidEnd Machine.answer machine ⟨"/dev/sdb"⟩) "ext4" :=
    ⟨found, rfl, rfl, by decide, by decide +kernel⟩
  have hcodes : fsckCodes run.1 = [some 4] := by decide +kernel
  have hfsck := formatAndMount_fsck Machine.answer machine ⟨"xfs", .standard, 30⟩ ⟨"/dev/sdb"⟩
    ⟨"/mnt"⟩ "" ⟨["rw", "discard"]⟩ "ext4" (by decide) (by decide) hreport
  exact ⟨by decide, by decide, hreport, hcodes, (hfsck.2 (some 4) (by simp [run, hcodes])).1 rfl⟩

/-- Exit code 5 is 4 for errors that are left and 1 for errors that were corrected, and the disk is
mounted. -/
theorem formatAndMount_mounts_after_exit_five :
    let found : ProgramOutput := ⟨some 0, Text.Utf8.encode "TYPE=ext4\n", []⟩
    let machine := Machine.ofTools [("blkid", found), ("fsck", ⟨some 5, [], []⟩)]
    let run := (onSystem (formatAndMount ⟨"ext4", .standard, 30⟩ ⟨"/dev/sdb"⟩ ⟨"/mnt"⟩ "ext4"
      ⟨[]⟩).run).record Machine.answer machine
    ReportsFilesystem (blkidEnd Machine.answer machine ⟨"/dev/sdb"⟩) "ext4" ∧
      fsckCodes run.1 = [some 5] ∧ 5 &&& 4 = 4 ∧ run.2.1.toOption = some () ∧
      mountCalls run.1 =
        [.mount ⟨"/dev/sdb"⟩ ⟨"/mnt"⟩ (some "ext4") MountFlags.none none] := by
  intro found machine run
  have hreport : ReportsFilesystem (blkidEnd Machine.answer machine ⟨"/dev/sdb"⟩) "ext4" :=
    ⟨found, rfl, rfl, by decide, by decide +kernel⟩
  exact ⟨hreport, by decide +kernel, rfl, by decide +kernel, by decide +kernel⟩

theorem preparation_of_readOnly (h : options.isReadOnly = true) (content : DiskContent) :
    preparation device fstype options content = [] := by
  cases content <;> simp [preparation, h]

theorem SystemCourse.programRuns_of_readOnly {r : Except VolumeError Unit}
    (h : SystemCourse device target fstype options ended ys r) (hread : options.isReadOnly = true) :
    programRuns ys = [("blkid", probeArgs device.text)] := by
  cases hcontent : contentReported ended with
  | ok content => rw [h.programRuns_eq hcontent, preparation_of_readOnly hread]
  | error e =>
      obtain ⟨rfl, -⟩ := h.unreported hcontent
      rfl

theorem SystemPrepared.mountCalls_eq {content : DiskContent} {r : Except VolumeError String}
    (h : SystemPrepared device fstype options content ys r) : mountCalls ys = [] := by
  cases h <;> rfl

theorem SystemCourse.of_mem_mountCalls {r : Except VolumeError Unit}
    (h : SystemCourse device target fstype options ended ys r) {source place : Path}
    {type : Option String} {flags : MountFlags} {data : Option String}
    (hcall : .mount source place type flags data ∈ mountCalls ys) :
    source = device ∧ flags = options.flags := by
  cases h with
  | unknown => cases hcall
  | unready h prepared =>
      have hnone : mountCalls (blkidRan device ended :: _) = [] := prepared.mountCalls_eq
      rw [hnone] at hcall
      cases hcall
  | @ready content xs held h prepared answer =>
      have hone : mountCalls (blkidRan device ended ::
          (xs ++ [mountCalled device target (some held) options.flags options.data answer])) =
          [.mount device target (some held) options.flags options.data] := by
        rw [← List.cons_append, mountCalls_append]
        exact congrArg (· ++ [_]) prepared.mountCalls_eq
      rw [hone, List.mem_singleton, MountCall.mount.injEq] at hcall
      exact ⟨hcall.1, hcall.2.2.2.1⟩

theorem SystemCourse.checked_before_mount {r : Except VolumeError Unit}
    {before after : List (Plan.Exchange Unix)} {place : Path} {type : Option String}
    {data : Option String} {answer : Except Errno Unit}
    (h : SystemCourse device target fstype options ended
      (before ++ mountCalled device place type options.flags data answer :: after) r)
    (hreport : ReportsFilesystem ended held) (hwrite : options.isReadOnly = false)
    (hext : isExtFamily held = true) :
    ("fsck", ["-a", device.text]) ∈ programRuns before ∧ fsckCodes before ≠ [] := by
  obtain ⟨check, ⟨e, -, -, hys⟩ | ⟨made, hverdict, hys⟩⟩ := h.of_ext hreport hwrite hext
  · have hcalls := congrArg mountCalls hys
    rw [mountCalls_append] at hcalls
    exact absurd hcalls (List.append_ne_nil_of_right_ne_nil _ (List.cons_ne_nil _ _))
  · obtain ⟨output, rfl⟩ := ended_of_verdict hverdict
    -- the mount call is the last of three exchanges, so the other two come before it
    match before, hys with
    | [], hys => cases (Sigma.mk.inj (List.cons.inj hys).1).1
    | [x], hys => cases (Sigma.mk.inj (List.cons.inj (List.cons.inj hys).2).1).1
    | [x, y], hys =>
        obtain ⟨rfl, hlast⟩ := List.cons.inj hys
        obtain ⟨rfl, -⟩ := List.cons.inj hlast
        have hcode : output.code ∈ fsckCodes
            [blkidRan device ended, fsckRan device (.ok (.ended output))] := by simp
        exact ⟨.tail _ (.head _), List.ne_nil_of_mem hcode⟩
    | x :: y :: z :: rest, hys => simp at hys

/-- The options keep a disk from being written to if and only if the kernel is told to. So a disk
that a program formats or checks is not mounted read-only, and a disk of the ext family that is
mounted for writing has been checked. -/
theorem formatAndMount_readOnly :
    (∀ options : MountOptions,
      options.isReadOnly = true ↔ options.flags.contains MountFlags.readOnly = true) ∧
    ∀ (σ : Type) (handle : Plan.Handler Unix σ) (s : σ) (config : Config) (device target : Path)
      (fstype : String) (options : MountOptions),
      let xs :=
        ((onSystem (formatAndMount config device target fstype options).run).record handle s).1
      ((∃ run ∈ programRuns xs, isTool "mkfs" run.1 = true ∨ isTool "fsck" run.1 = true) →
        ∀ source place type flags data, .mount source place type flags data ∈ mountCalls xs →
          flags.contains MountFlags.readOnly = false) ∧
      ∀ before source place type flags data answer after,
        xs = before ++ mountCalled source place type flags data answer :: after →
        flags.contains MountFlags.readOnly = false →
        ∀ held ∈ ["ext2", "ext3", "ext4"], ReportsFilesystem (blkidEnd handle s device) held →
          source = device ∧ ("fsck", ["-a", source.text]) ∈ programRuns before ∧
            fsckCodes before ≠ [] := by
  refine ⟨fun options => by rw [options.flags_contains_readOnly], ?_⟩
  intro σ handle s config device target fstype options xs
  have hcourse : SystemCourse device target (effectiveFstype config fstype) options
      (blkidEnd handle s device) (Unix.asked xs) _ :=
    formatAndMount_course handle s config device target fstype options
  refine ⟨?_, ?_⟩
  · rintro ⟨run, hrun, htool⟩ source place type flags data hcall
    rw [← mountCalls_asked] at hcall
    obtain ⟨-, rfl⟩ := hcourse.of_mem_mountCalls hcall
    rw [options.flags_contains_readOnly, Bool.eq_false_iff]
    intro hread
    rw [← programRuns_asked, hcourse.programRuns_of_readOnly hread, List.mem_singleton] at hrun
    subst hrun
    exact htool.elim not_isTool_mkfs_blkid not_isTool_fsck_blkid
  · intro before source place type flags data answer after hxs hflags held hext hreport
    rw [hxs, Unix.asked_append, Unix.asked_cons rfl] at hcourse
    have hcall : .mount source place type flags data ∈ mountCalls
        (Unix.asked before ++ mountCalled source place type flags data answer ::
          Unix.asked after) := by
      rw [mountCalls_append]
      exact List.mem_append_right _ List.mem_cons_self
    obtain ⟨rfl, rfl⟩ := hcourse.of_mem_mountCalls hcall
    rw [options.flags_contains_readOnly] at hflags
    have hext : isExtFamily held = true := by simpa [isExtFamily] using hext
    rw [← programRuns_asked, ← fsckCodes_asked]
    exact ⟨rfl, hcourse.checked_before_mount hreport hflags hext⟩

end Volume

end BlockVolume
