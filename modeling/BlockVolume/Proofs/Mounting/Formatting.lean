import BlockVolume.Machine
import BlockVolume.Proofs.Mounting.SystemCourse
import BlockVolume.Proofs.Unix.DiskReport

namespace BlockVolume

def Machine.ofTools (tools : List (String × ProgramOutput)) : Machine where
  tree := ⟨[([], .directory)], []⟩
  mountTable := none
  programs := tools.map fun (name, output) => ⟨name, output, false, true, none, false⟩
  results := [⟨⟨0⟩, none⟩]
  signals := ⟨⟨0⟩, [], 1⟩
  started := []
  mountCalls := []
  complaints := []
  logged := []
  logFilter := ⟨[], none⟩
  logFile := none

namespace Unix

def programRuns (xs : List (Plan.Exchange Unix)) : List (String × List String) :=
  xs.filterMap fun
    | ⟨.spawn program args _, _⟩ => some (program, args)
    | _ => none

theorem programRuns_append (xs ys : List (Plan.Exchange Unix)) :
    programRuns (xs ++ ys) = programRuns xs ++ programRuns ys :=
  List.filterMap_append ..

/-- The program is the tool, or the tool's variant for a file system: its name begins with the
tool's. -/
def isTool (tool program : String) : Bool := tool.toList.isPrefixOf program.toList

theorem not_isTool_mkfs_blkid : ¬ isTool "mkfs" "blkid" = true := by decide

theorem not_isTool_mkfs_fsck : ¬ isTool "mkfs" "fsck" = true := by decide

theorem not_isTool_fsck_blkid : ¬ isTool "fsck" "blkid" = true := by decide

theorem isTool_formatProgram (fstype : String) : isTool "mkfs" (formatProgram fstype) = true := by
  rw [isTool, formatProgram, String.toList_append, List.isPrefixOf_iff_prefix]
  exact ⟨'.' :: fstype.toList, rfl⟩

def formatRuns (xs : List (Plan.Exchange Unix)) : List (String × List String) :=
  (programRuns xs).filter fun run => isTool "mkfs" run.1

def mountCalls (xs : List (Plan.Exchange Unix)) : List MountCall :=
  xs.filterMap fun
    | ⟨.mount source target fstype flags data, _⟩ => some (.mount source target fstype flags data)
    | ⟨.unmount target, _⟩ => some (.unmount target)
    | _ => none

theorem mountCalls_append (xs ys : List (Plan.Exchange Unix)) :
    mountCalls (xs ++ ys) = mountCalls xs ++ mountCalls ys :=
  List.filterMap_append ..

theorem filterMap_asked {β : Type} {f : Plan.Exchange Unix → Option β}
    (hlog : ∀ r reply, f ⟨SystemCall.log r, reply⟩ = none)
    (hcancelled : ∀ token reply, f ⟨SystemCall.isCancelled token, reply⟩ = none)
    (xs : List (Plan.Exchange Unix)) : (asked xs).filterMap f = xs.filterMap f := by
  rw [asked, List.filterMap_filter]
  refine congrArg (List.filterMap · xs) (funext fun x => ?_)
  obtain ⟨c, reply⟩ := x
  cases c with
  | log r => exact (hlog r reply).symm
  | isCancelled token => exact (hcancelled token reply).symm
  | _ => rfl

theorem programRuns_asked (xs : List (Plan.Exchange Unix)) :
    programRuns (asked xs) = programRuns xs :=
  filterMap_asked (fun _ _ => rfl) (fun _ _ => rfl) xs

theorem mountCalls_asked (xs : List (Plan.Exchange Unix)) :
    mountCalls (asked xs) = mountCalls xs :=
  filterMap_asked (fun _ _ => rfl) (fun _ _ => rfl) xs

/-- `blkid` found nothing, or it ended well and no line that it printed gives a type. -/
def ReportsBlank (ended : Except IoError ProgramEnd) : Prop :=
  ∃ output, ended = .ok (.ended output) ∧
    (output.code = some 2 ∨ output.code = some 0 ∧ ShowsNothing output.stdout)

variable {ended : Except IoError ProgramEnd}

theorem contentReported_ended {output : ProgramOutput} :
    contentReported (.ok (.ended output)) =
      if output.code = some 2 then .ok .blank
      else if output.code = some 0 then .ok (contentOf (Text.Utf8.decodeLossy output.stdout))
      else .error (programFailure "blkid" output) := by
  simp only [contentReported, outputOf, Except.bind, nothingFound, ProgramOutput.succeeded,
    beq_iff_eq]

theorem exit_of_contentReported {content : DiskContent} (h : contentReported ended = .ok content) :
    ∃ output, ended = .ok (.ended output) ∧ (output.code = some 2 ∨ output.code = some 0) := by
  match ended, h with
  | .ok (.ended output), h =>
      rw [contentReported_ended] at h
      split at h
      · next hcode => exact ⟨output, rfl, .inl hcode⟩
      · split at h
        · next hcode => exact ⟨output, rfl, .inr hcode⟩
        · cases h
  | .ok .timedOut, h => cases h
  | .error e, h => cases h

theorem contentReported_eq_blank_iff
    (honce : ∀ output, ended = .ok (.ended output) →
      GivesAtMostOnce "TYPE" output.stdout ∧ GivesAtMostOnce "PTTYPE" output.stdout) :
    contentReported ended = .ok .blank ↔ ReportsBlank ended := by
  constructor
  · intro h
    obtain ⟨output, rfl, hcode⟩ := exit_of_contentReported h
    obtain ⟨htype, hpttype⟩ := honce output rfl
    refine ⟨output, rfl, hcode.imp_right fun hzero => ⟨hzero, ?_⟩⟩
    rw [← blank_iff_showsNothing htype hpttype]
    simpa [contentReported_ended, hzero] using h
  · rintro ⟨output, rfl, hcode | ⟨hzero, hshows⟩⟩
    · simp [contentReported_ended, hcode]
    · obtain ⟨htype, hpttype⟩ := honce output rfl
      rw [contentReported_ended, hzero, (blank_iff_showsNothing htype hpttype).2 hshows]
      rfl

end Unix

namespace Volume

open Unix

variable {device target : Path} {fstype : String} {options : MountOptions}
  {content : DiskContent} {ys : List (Plan.Exchange Unix)} {ended : Except IoError ProgramEnd}

def preparation (device : Path) (fstype : String) (options : MountOptions) :
    DiskContent → List (String × List String)
  | .blank =>
    if options.isReadOnly = false ∧ fstype ∈ formattable then
      [(formatProgram fstype, formatArgs fstype device.text [])]
    else []
  | .filesystem held =>
    if options.isReadOnly = false ∧ isExtFamily held = true then [("fsck", ["-a", device.text])]
    else []
  | .partitionTable _ => []

theorem SystemPrepared.programRuns_eq {r : Except VolumeError String}
    (h : SystemPrepared device fstype options content ys r) :
    programRuns ys = preparation device fstype options content := by
  cases h with
  | unasked prepared =>
      cases prepared with
      | readOnly hread => simp [preparation, programRuns, hread]
      | unsupported hwrite ht => simp [preparation, programRuns, ht]
      | unchecked hext =>
          have : ¬(options.isReadOnly = false ∧ isExtFamily _ = true) := fun h =>
            Bool.false_ne_true ((hext h.1).symm.trans h.2)
          simp [preparation, programRuns, this]
      | partitioned kind => rfl
  | formatted hwrite ht ended =>
      rw [preparation, if_pos ⟨hwrite, ht⟩]
      rfl
  | checked hwrite hext ended =>
      rw [preparation, if_pos ⟨hwrite, hext⟩]
      rfl

theorem SystemCourse.programRuns_eq {r : Except VolumeError Unit}
    (h : SystemCourse device target fstype options ended ys r)
    (hcontent : contentReported ended = .ok content) :
    programRuns ys =
      ("blkid", probeArgs device.text) :: preparation device fstype options content := by
  cases h with
  | unknown he => cases he.symm.trans hcontent
  | unready h prepared =>
      obtain rfl := Except.ok.inj (h.symm.trans hcontent)
      rw [← prepared.programRuns_eq]
      rfl
  | ready h prepared answer =>
      obtain rfl := Except.ok.inj (h.symm.trans hcontent)
      rw [← prepared.programRuns_eq]
      simp [programRuns, blkidRan, mountCalled]

theorem filter_preparation :
    (preparation device fstype options content).filter (fun run => isTool "mkfs" run.1) =
      if content = .blank ∧ options.isReadOnly = false ∧ fstype ∈ formattable then
        [(formatProgram fstype, formatArgs fstype device.text [])]
      else [] := by
  cases content with
  | blank =>
      simp only [preparation, true_and]
      split
      · exact List.filter_cons_of_pos (isTool_formatProgram fstype)
      · rfl
  | filesystem held =>
      simp only [preparation, reduceCtorEq, false_and, if_false]
      split
      · exact List.filter_cons_of_neg not_isTool_mkfs_fsck
      · rfl
  | partitionTable kind => rfl

theorem SystemCourse.unreported {r : Except VolumeError Unit} {e : HostError}
    (h : SystemCourse device target fstype options ended ys r)
    (herror : contentReported ended = .error e) :
    ys = [blkidRan device ended] ∧ r = .error (.host e) := by
  cases h with
  | unknown he =>
      obtain rfl := Except.error.inj (he.symm.trans herror)
      exact ⟨rfl, rfl⟩
  | unready he | ready he => cases he.symm.trans herror

theorem SystemCourse.formatRuns_cases {r : Except VolumeError Unit}
    (h : SystemCourse device target fstype options ended ys r) :
    formatRuns ys = [(formatProgram fstype, formatArgs fstype device.text [])] ∧
        contentReported ended = .ok .blank ∧ options.isReadOnly = false ∧ fstype ∈ formattable ∨
      formatRuns ys = [] ∧
        ¬(contentReported ended = .ok .blank ∧ options.isReadOnly = false ∧
          fstype ∈ formattable) := by
  cases hcontent : contentReported ended with
  | ok content =>
      rw [formatRuns, h.programRuns_eq hcontent,
        List.filter_cons_of_neg (by exact not_isTool_mkfs_blkid), filter_preparation]
      split
      · next hneeds => exact .inl ⟨rfl, congrArg Except.ok hneeds.1, hneeds.2⟩
      · next hneeds => exact .inr ⟨rfl, fun h => hneeds ⟨Except.ok.inj h.1, h.2⟩⟩
  | error e =>
      obtain ⟨rfl, -⟩ := h.unreported hcontent
      exact .inr ⟨List.filter_cons_of_neg not_isTool_mkfs_blkid, by simp⟩

/-- A disk is formatted if and only if it is reported to be blank, may be written to, and is to
hold a type that disks are given; then by the one program for that type. -/
theorem formatAndMount_formatRuns {σ : Type} (handle : Plan.Handler Unix σ) (s : σ)
    (config : Config) (device target : Path) (fstype : String) (options : MountOptions)
    (honce : ∀ output, blkidEnd handle s device = .ok (.ended output) →
      GivesAtMostOnce "TYPE" output.stdout ∧ GivesAtMostOnce "PTTYPE" output.stdout) :
    let run :=
      (onSystem (formatAndMount config device target fstype options).run).record handle s
    let effective := if fstype = "" then config.defaultFstype else fstype
    (formatRuns run.1 ≠ [] ↔
      "ro" ∉ options.words ∧ effective ∈ ["ext2", "ext3", "ext4", "xfs"] ∧
        ReportsBlank (blkidEnd handle s device)) ∧
    (formatRuns run.1 ≠ [] → ∃ args,
      formatRuns run.1 = [("mkfs." ++ effective, args)] ∧ args.getLast? = some device.text) ∧
    ((∀ output, blkidEnd handle s device = .ok (.ended output) →
        output.code ≠ some 0 ∧ output.code ≠ some 2) →
      programRuns run.1 = [("blkid", probeArgs device.text)] ∧ mountCalls run.1 = [] ∧
        ∃ e, run.2.1 = .error e) := by
  intro run effective
  have hcourse := formatAndMount_course handle s config device target fstype options
  have hneeds : contentReported (blkidEnd handle s device) = .ok .blank ∧
        options.isReadOnly = false ∧ effectiveFstype config fstype ∈ formattable ↔
      "ro" ∉ options.words ∧ effective ∈ ["ext2", "ext3", "ext4", "xfs"] ∧
        ReportsBlank (blkidEnd handle s device) := by
    have hwrite : options.isReadOnly = false ↔ "ro" ∉ options.words := by
      simp [MountOptions.isReadOnly]
    rw [contentReported_eq_blank_iff honce, hwrite, and_comm, and_assoc]
    exact Iff.rfl
  have hruns := hcourse.formatRuns_cases
  rw [formatRuns, programRuns_asked, ← formatRuns, hneeds] at hruns
  refine ⟨?_, ?_, ?_⟩
  · obtain ⟨hmade, hwhen⟩ | ⟨hnone, hwhen⟩ := hruns
    · exact iff_of_true (by simp [run, hmade]) hwhen
    · exact iff_of_false (fun h => h hnone) hwhen
  · obtain ⟨hmade, hwhen⟩ | ⟨hnone, hwhen⟩ := hruns
    · exact fun _ => ⟨_, hmade, by simp [formatArgs]⟩
    · exact fun h => absurd hnone h
  · intro hexit
    cases hcontent : contentReported (blkidEnd handle s device) with
    | ok content =>
        obtain ⟨output, hended, hcode⟩ := exit_of_contentReported hcontent
        exact (hcode.elim (hexit output hended).2 (hexit output hended).1).elim
    | error e =>
        obtain ⟨hasked, hr⟩ := hcourse.unreported hcontent
        refine ⟨?_, ?_, _, hr⟩
        · rw [← programRuns_asked, hasked]
          rfl
        · rw [← mountCalls_asked, hasked]
          rfl

theorem formatAndMount_formatRuns_empty_types :
    let report : ProgramOutput :=
      ⟨some 0, Text.Utf8.encode "SEC_TYPE=msdos\r\n TYPE=\r\nPTTYPE=\t\r\n", []⟩
    let machine := Machine.ofTools [("blkid", report), ("mkfs.xfs", ⟨some 0, [], []⟩)]
    let run := (onSystem (formatAndMount ⟨"xfs", .standard, 30⟩ ⟨"/dev/sdb"⟩ ⟨"/mnt"⟩ ""
      ⟨["noatime"]⟩).run).record Machine.answer machine
    blkidEnd Machine.answer machine ⟨"/dev/sdb"⟩ = .ok (.ended report) ∧
      GivesAtMostOnce "TYPE" report.stdout ∧ GivesAtMostOnce "PTTYPE" report.stdout ∧
      ReportsBlank (blkidEnd Machine.answer machine ⟨"/dev/sdb"⟩) ∧
      ∃ args, formatRuns run.1 = [("mkfs.xfs", args)] ∧ args.getLast? = some "/dev/sdb" := by
  intro report machine run
  have hended : blkidEnd Machine.answer machine ⟨"/dev/sdb"⟩ = .ok (.ended report) := rfl
  have htype : GivesAtMostOnce "TYPE" report.stdout :=
    (givesAtMostOnce_iff not_blank_of_type).2 (by decide +kernel)
  have hpttype : GivesAtMostOnce "PTTYPE" report.stdout :=
    (givesAtMostOnce_iff not_blank_of_pttype).2 (by decide +kernel)
  have hshows : ShowsNothing report.stdout :=
    (blank_iff_showsNothing htype hpttype).1 (by decide +kernel)
  have hblank : ReportsBlank (blkidEnd Machine.answer machine ⟨"/dev/sdb"⟩) :=
    ⟨report, hended, .inr ⟨rfl, hshows⟩⟩
  obtain ⟨hwhen, hmade, -⟩ := formatAndMount_formatRuns Machine.answer machine
    ⟨"xfs", .standard, 30⟩ ⟨"/dev/sdb"⟩ ⟨"/mnt"⟩ "" ⟨["noatime"]⟩ fun output houtput => by
      obtain rfl := ProgramEnd.ended.inj (Except.ok.inj (hended.symm.trans houtput))
      exact ⟨htype, hpttype⟩
  exact ⟨hended, htype, hpttype, hblank, hmade (hwhen.2 ⟨by decide, by decide, hblank⟩)⟩

end Volume

end BlockVolume
