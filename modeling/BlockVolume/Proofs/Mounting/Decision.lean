import BlockVolume.Proofs.DiskSafety

namespace BlockVolume

def Readied (s t : ScriptedHost) : Prop :=
  t = { s with actions := t.actions, logged := t.logged, contents := t.contents }

theorem Readied.trans {s t u : ScriptedHost} (hst : Readied s t) (htu : Readied t u) :
    Readied s u := by
  rw [Readied, hst] at htu
  exact htu

theorem readied_answer {c : HostCall} (hc : PreparingCall c) (s : ScriptedHost) :
    Readied s (ScriptedHost.answer c s).2 := by
  cases c with
  | makeFilesystem | checkFilesystem | log => rfl
  | _ => exact hc.elim

theorem readied_run {α : Type} {plan : Plan Host α}
    (h : Plan.Only (I := Host) PreparingCall plan) (s : ScriptedHost) :
    Readied s (plan.run ScriptedHost.answer s).2 := by
  refine (h.heeds (A := fun _ => PreparingCall) (fun _ _ hc => hc) s).relates ?_ ?_ ?_
  · exact fun _ => rfl
  · exact fun _ _ _ => Readied.trans
  · exact fun s _ hc => readied_answer hc s

namespace ScriptedHost

theorem contentOf_of_same {device d : Path} (hsame : device.same d = true) (h : ScriptedHost) :
    h.contentOf d = h.contentOf device := by
  have hsteps : device.components = d.components := by simpa [Path.same] using hsame
  rw [contentOf, contentOf, hsteps]

end ScriptedHost

namespace Volume

open Operation ScriptedHost

/-- What is done to a disk between the probe and the mount, and the type that it is then mounted
as, or why it is not. -/
inductive MountDecision (source : Path) (effective : String) (options : MountOptions)
    (check : CheckOutcome) : DiskContent → List HostAction → Except VolumeError String → Prop
  | readOnly (h : "ro" ∈ options.words) :
      MountDecision source effective options check .blank []
        (.error (.unformattedReadOnly source.text))
  | unsupported (hwrite : "ro" ∉ options.words) (h : effective ∉ ["ext2", "ext3", "ext4", "xfs"]) :
      MountDecision source effective options check .blank []
        (.error (.unsupportedFilesystem effective))
  | formatted (hwrite : "ro" ∉ options.words) (h : effective ∈ ["ext2", "ext3", "ext4", "xfs"]) :
      MountDecision source effective options check .blank [.makeFilesystem source effective]
        (.ok effective)
  | partitioned (kind : String) :
      MountDecision source effective options check (.partitionTable kind) []
        (.error (.partitionedDevice source.text kind))
  | uncorrected {held : String} (hwrite : "ro" ∉ options.words)
      (hext : held ∈ ["ext2", "ext3", "ext4"]) (h : check = .uncorrected) :
      MountDecision source effective options check (.filesystem held) [.checkFilesystem source]
        (.error (.uncorrectableFilesystem source.text))
  | checked {held : String} (hwrite : "ro" ∉ options.words)
      (hext : held ∈ ["ext2", "ext3", "ext4"]) (h : check ≠ .uncorrected) :
      MountDecision source effective options check (.filesystem held) [.checkFilesystem source]
        (.ok held)
  | unchecked {held : String} (h : "ro" ∉ options.words → held ∉ ["ext2", "ext3", "ext4"]) :
      MountDecision source effective options check (.filesystem held) [] (.ok held)

variable {source target device : Path} {effective fstype : String} {options : MountOptions}
  {check : CheckOutcome} {content : DiskContent} {before after : List HostAction}
  {decided other : Except VolumeError String} {s t : ScriptedHost}

theorem MountDecision.unique
    (h : MountDecision source effective options check content before decided)
    (h' : MountDecision source effective options check content after other) :
    after = before ∧ other = decided := by
  cases h with
  | readOnly hread =>
      cases h' with
      | readOnly => exact ⟨rfl, rfl⟩
      | unsupported hwrite | formatted hwrite => exact absurd hread hwrite
  | unsupported hwrite ht =>
      cases h' with
      | readOnly hread => exact absurd hread hwrite
      | unsupported => exact ⟨rfl, rfl⟩
      | formatted _ ht' => exact absurd ht' ht
  | formatted hwrite ht =>
      cases h' with
      | readOnly hread => exact absurd hread hwrite
      | unsupported _ ht' => exact absurd ht ht'
      | formatted => exact ⟨rfl, rfl⟩
  | partitioned kind =>
      cases h'
      exact ⟨rfl, rfl⟩
  | uncorrected hwrite hext hc =>
      cases h' with
      | uncorrected => exact ⟨rfl, rfl⟩
      | checked _ _ hc' => exact absurd hc hc'
      | unchecked h => exact absurd hext (h hwrite)
  | checked hwrite hext hc =>
      cases h' with
      | uncorrected _ _ hc' => exact absurd hc' hc
      | checked => exact ⟨rfl, rfl⟩
      | unchecked h => exact absurd hext (h hwrite)
  | unchecked h =>
      cases h' with
      | uncorrected hwrite hext | checked hwrite hext => exact absurd hext (h hwrite)
      | unchecked => exact ⟨rfl, rfl⟩

theorem MountDecision.not_mount
    (h : MountDecision source effective options check content before decided)
    (device place : Path) (type : Option String) (words : List String) :
    .mount device place type words ∉ before := by
  cases h <;> simp

def Settled (device : Path) (s t : ScriptedHost) : Except VolumeError String → Prop
  | .ok held => ∀ d, t.contentOf d = if device.same d then .filesystem held else s.contentOf d
  | .error _ => t.contents = s.contents

theorem settled_filesystem {held : String} (hcontent : s.contentOf device = .filesystem held)
    (hcontents : t.contents = s.contents) : Settled device s t (.ok held) := by
  intro d
  have hd : t.contentOf d = s.contentOf d := by rw [contentOf, hcontents, contentOf]
  rw [hd]
  split
  · next hsame => rw [contentOf_of_same hsame, hcontent]
  · rfl

theorem run_checkBeforeMount (device : Path) (s : ScriptedHost) :
    ∃ logged, (checkBeforeMount device).run.run answer s =
      (verdict device (.ok (s.checkOf device)),
        { s.remember (.checkFilesystem device) with logged }) := by
  have hcheck : (Operation.require (Host.checkFilesystem device)).run.run answer s =
      (.ok (s.checkOf device), s.remember (.checkFilesystem device)) := rfl
  rw [checkBeforeMount, run_run_bind, hcheck]
  cases s.checkOf device <;> exact ⟨_, rfl⟩

theorem run_optional_log {α : Type} (p : Prop) [Decidable p] (level : LogLevel)
    (origin : LogOrigin) (message : String) (a : α) (s : ScriptedHost) :
    ∃ logged, (if p then Operation.log level origin message >>= fun _ => pure a
      else pure a : Operation α).run.run answer s = (.ok a, { s with logged }) := by
  split
  · exact ⟨_, rfl⟩
  · exact ⟨s.logged, rfl⟩

theorem run_prepare_filesystem {held : String} (hcontent : s.contentOf device = .filesystem held)
    (fstype : String) (options : MountOptions) :
    ∃ before decided t,
      MountDecision device fstype options (s.checkOf device) (.filesystem held) before decided ∧
        (prepare device fstype options (.filesystem held)).run.run answer s = (decided, t) ∧
        t.actions = s.actions ++ before ∧ Settled device s t decided := by
  -- a disk of another type than the one asked for is only warned of
  have hwarned := run_optional_log (held ≠ fstype) .warn .mounting
    ("Disk " ++ device.text ++ " already holds " ++ held ++ ", requested " ++ fstype ++
      "; mounting as " ++ held) held
  simp only [prepare]
  split
  · next hcheck =>
      rw [Bool.and_eq_true, Bool.not_eq_true'] at hcheck
      have hwrite : "ro" ∉ options.words := by simpa [MountOptions.isReadOnly] using hcheck.1
      have hext : held ∈ ["ext2", "ext3", "ext4"] := by simpa [isExtFamily] using hcheck.2
      obtain ⟨logged, hrun⟩ := run_checkBeforeMount device s
      rw [run_run_bind, hrun]
      by_cases hc : s.checkOf device = .uncorrected
      · rw [hc]
        exact ⟨_, _, _, .uncorrected hwrite hext rfl, rfl, rfl, rfl⟩
      · have hverdict : verdict device (.ok (s.checkOf device)) = .ok () := by
          cases hk : s.checkOf device with
          | uncorrected => exact absurd hk hc
          | _ => rfl
        rw [hverdict]
        obtain ⟨logged', hlast⟩ := hwarned { s.remember (.checkFilesystem device) with logged }
        exact ⟨_, _, _, .checked hwrite hext hc, hlast, rfl, settled_filesystem hcontent rfl⟩
  · next hcheck =>
      obtain ⟨logged, hlast⟩ := hwarned s
      refine ⟨[], _, _, .unchecked ?_, hlast, by simp, settled_filesystem hcontent rfl⟩
      simpa [MountOptions.isReadOnly, isExtFamily] using hcheck

theorem run_prepare (hcontent : s.contentOf device = content) (hcheck : s.checkOf device = check)
    (fstype : String) (options : MountOptions) :
    ∃ before decided t,
      MountDecision device fstype options check content before decided ∧
        (prepare device fstype options content).run.run answer s = (decided, t) ∧
        t.actions = s.actions ++ before ∧ Settled device s t decided := by
  subst hcheck
  cases content with
  | blank =>
      simp only [prepare]
      split
      · next hread =>
          have hread : "ro" ∈ options.words := by simpa [MountOptions.isReadOnly] using hread
          exact ⟨[], _, s, .readOnly hread, rfl, by simp, rfl⟩
      · next hwrite =>
          have hwrite : "ro" ∉ options.words := by simpa [MountOptions.isReadOnly] using hwrite
          split
          · next ht =>
              have ht : fstype ∉ formattable := by simpa using ht
              exact ⟨[], _, s, .unsupported hwrite ht, rfl, by simp, rfl⟩
          · next ht =>
              have ht : fstype ∈ formattable := by simpa using ht
              refine ⟨_, _, _, .formatted hwrite ht, rfl, rfl, fun d => ?_⟩
              exact contentOf_setContent _ device d _
  | filesystem held => exact run_prepare_filesystem hcontent fstype options
  | partitionTable kind => exact ⟨[], _, s, .partitioned kind, rfl, by simp, rfl⟩

theorem readied_prepare (source : Path) (fstype : String) (options : MountOptions)
    (content : DiskContent) (s : ScriptedHost) :
    Readied s ((prepare source fstype options content).run.run answer
      (s.remember (.probe source))).2 :=
  readied_run (preparing_prepare source fstype options content) (s.remember (.probe source))

theorem run_formatAndMount (config : Config) (source target : Path) (fstype : String)
    (options : MountOptions) (s : ScriptedHost) :
    (formatAndMount config source target fstype options).run.run answer s =
      match (prepare source (effectiveFstype config fstype) options (s.contentOf source)).run.run
        answer (s.remember (.probe source)) with
      | (.ok held, t) =>
        (.ok (), (answer (.mount source target (some held) options) (t.log ⟨.info, .mounting,
          "Mounting " ++ source.text ++ " at " ++ target.text ++ " (" ++ held ++ ")"⟩)).2)
      | (.error e, t) => (.error e, t) := by
  have hprobe : (Operation.require (Host.probe source)).run.run answer s =
      (.ok (s.contentOf source), s.remember (.probe source)) := rfl
  rw [formatAndMount, run_run_bind, hprobe]
  dsimp only
  rw [run_run_bind]
  rcases (prepare source (effectiveFstype config fstype) options (s.contentOf source)).run.run
    answer (s.remember (.probe source)) with ⟨_ | _, t⟩ <;> rfl

/-- The whole of a mount, on every host, of every disk and with all options: which row applies
decides what is done, how it ends and what is left. -/
theorem formatAndMount_decision (config : Config) (source target : Path) (fstype : String)
    (options : MountOptions) (h : ScriptedHost) :
    let effective := if fstype = "" then config.defaultFstype else fstype
    ∃ before decided t,
      MountDecision source effective options (h.checkOf source) (h.contentOf source) before
          decided ∧
        (∀ before' decided', MountDecision source effective options (h.checkOf source)
          (h.contentOf source) before' decided' → before' = before ∧ decided' = decided) ∧
        (∀ device place type words, .mount device place type words ∉ before) ∧
        (formatAndMount config source target fstype options).run.run answer h =
          (decided.map fun _ => (), t) ∧
        t = { h with
          actions := t.actions, logged := t.logged, mounts := t.mounts, contents := t.contents } ∧
        match decided with
        | .ok held =>
          t.actions = h.actions ++ .probe source :: before ++
              [.mount source target (some held) options.words] ∧
            t.mounts = h.mounts ++ [⟨target, held, source.text⟩] ∧
            ∀ d, t.contentOf d = if source.same d then .filesystem held else h.contentOf d
        | .error _ =>
          t.actions = h.actions ++ .probe source :: before ∧ t.mounts = h.mounts ∧
            t.contents = h.contents := by
  intro effective
  have hcontent : (h.remember (.probe source)).contentOf source = h.contentOf source := rfl
  have hcheck : (h.remember (.probe source)).checkOf source = h.checkOf source := rfl
  obtain ⟨before, decided, u, hdecision, hprepare, hactions, hsettled⟩ :=
    run_prepare hcontent hcheck effective options
  have hready : u = { h with
      actions := u.actions, logged := u.logged, contents := u.contents } := by
    have hprepared := readied_prepare source effective options (h.contentOf source) h
    rwa [hprepare] at hprepared
  have hasked : u.actions = h.actions ++ .probe source :: before := by
    rw [hactions, remember, List.append_assoc, List.singleton_append]
  have hrun := run_formatAndMount config source target fstype options h
  rw [show effectiveFstype config fstype = effective from rfl, hprepare] at hrun
  refine ⟨before, decided, ?_⟩
  cases decided with
  | error e =>
      refine ⟨u, hdecision, fun _ _ => hdecision.unique, hdecision.not_mount, hrun, ?_, hasked, ?_,
        hsettled⟩
      · rw [hready]
      · rw [hready]
  | ok held =>
      refine ⟨_, hdecision, fun _ _ => hdecision.unique, hdecision.not_mount, hrun, ?_, ?_, ?_,
        hsettled⟩
      · rw [hready]
        rfl
      · rw [← hasked]
        rfl
      · rw [hready]
        rfl

end Volume
end BlockVolume
