import BlockVolume.Proofs.Cleanup.Course
import BlockVolume.Proofs.Lookup.Requests
import BlockVolume.Proofs.Mounting.Course
import BlockVolume.Volume.Mounting

namespace BlockVolume

def formatsOf (device : Path) (actions : List HostAction) : List String :=
  actions.filterMap fun
    | .makeFilesystem other fstype => if other.same device then some fstype else none
    | _ => none

/-- What may become of a disk: it holds what it held and was not formatted, or it was blank and has
been formatted once. -/
def DiskFate (before after : DiskContent) (formats : List String) : Prop :=
  after = before ∧ formats = [] ∨
    before = .blank ∧ ∃ fstype ∈ formattable, after = .filesystem fstype ∧ formats = [fstype]

theorem DiskFate.trans {a b c : DiskContent} {fs gs : List String} (hab : DiskFate a b fs)
    (hbc : DiskFate b c gs) : DiskFate a c (fs ++ gs) := by
  rcases hab with ⟨rfl, rfl⟩ | ⟨rfl, t, ht, rfl, rfl⟩
  · exact hbc
  · rcases hbc with ⟨rfl, rfl⟩ | ⟨hb, -⟩
    · exact .inr ⟨rfl, t, ht, rfl, rfl⟩
    · cases hb

theorem DiskFate.ne_partitionTable {a b : DiskContent} {fs : List String} (h : DiskFate a b fs)
    (ha : ∀ kind, a ≠ .partitionTable kind) (kind : String) : b ≠ .partitionTable kind := by
  rcases h with ⟨rfl, -⟩ | ⟨-, t, -, rfl, -⟩
  · exact ha kind
  · simp

def Spares (g h : ScriptedHost) : Prop :=
  ∃ done, h.actions = g.actions ++ done ∧
    (∀ d, DiskFate (g.contentOf d) (h.contentOf d) (formatsOf d done)) ∧
    ∀ d target fstype options, .mount d target fstype options ∈ done →
      ∀ kind, g.contentOf d ≠ .partitionTable kind

theorem Spares.refl (h : ScriptedHost) : Spares h h :=
  ⟨[], by simp, fun _ => .inl ⟨rfl, rfl⟩, by simp⟩

theorem Spares.trans {g h k : ScriptedHost} (hgh : Spares g h) (hhk : Spares h k) :
    Spares g k := by
  obtain ⟨xs, hx, fx, mx⟩ := hgh
  obtain ⟨ys, hy, fy, my⟩ := hhk
  refine ⟨xs ++ ys, by rw [hy, hx, List.append_assoc], fun d => ?_, ?_⟩
  · rw [formatsOf, List.filterMap_append]
    exact (fx d).trans (fy d)
  · intro d target fstype options hm kind
    rcases List.mem_append.1 hm with hm | hm
    · exact mx d target fstype options hm kind
    · -- a partition table that is there at first is still there when the mount is made
      intro hg
      rcases fx d with ⟨he, -⟩ | ⟨he, -⟩
      · exact my d target fstype options hm kind (he.trans hg)
      · rw [hg] at he
        cases he

def Harmless : HostCall → Prop
  | .makeFilesystem .. | .mount .. => False
  | _ => True

/-- Formatting is allowed on a blank disk, mounting on one without a partition table. -/
def Permitted (h : ScriptedHost) : HostCall → Prop
  | .makeFilesystem device fstype _ => h.contentOf device = .blank ∧ fstype ∈ formattable
  | .mount device .. => ∀ kind, h.contentOf device ≠ .partitionTable kind
  | _ => True

theorem Harmless.permitted {c : HostCall} (hc : Harmless c) (h : ScriptedHost) :
    Permitted h c := by
  cases c with
  | makeFilesystem | mount => exact hc.elim
  | _ => trivial

theorem Harmless.action {c : HostCall} (hc : Harmless c) {reply : c.Reply} {a : HostAction}
    (ha : HostAction.ofExchange? ⟨c, reply⟩ = some a) :
    (∀ d fstype, a ≠ .makeFilesystem d fstype) ∧
      ∀ d target fstype options, a ≠ .mount d target fstype options := by
  cases c with
  | makeFilesystem | mount => exact hc.elim
  | sleep d token =>
      cases reply with
      | elapsed =>
          cases ha
          simp
      | cancelled => cases ha
  | isCancelled | mountEntries | log => cases ha
  | _ =>
      cases ha
      simp

namespace ScriptedHost

theorem contentOf_setContent (h : ScriptedHost) (device d : Path) (content : DiskContent) :
    (h.setContent device content).contentOf d =
      if device.same d then content else h.contentOf d := by
  unfold setContent contentOf Path.same
  rw [List.lookup_cons]
  by_cases hd : d.components = device.components
  · simp [hd]
  · rw [beq_false_of_ne hd, beq_false_of_ne (Ne.symm hd)]
    rfl

theorem contents_answer {c : HostCall} (hc : ∀ d fstype args, c ≠ .makeFilesystem d fstype args)
    (h : ScriptedHost) : (answer c h).2.contents = h.contents := by
  cases c with
  | makeFilesystem d fstype args => exact absurd rfl (hc d fstype args)
  | sleep d token =>
      obtain ⟨signals, -, ⟨hs, -⟩ | ⟨hs, -⟩⟩ := h.sleep_cases d token
      · simp [answer, hs]
      · simp [answer, hs, comeNearer, remember]
  | writeFile p content => simp only [answer]; split <;> rfl
  | createDirectories p => simp only [answer, foldl_add]; rfl
  | removeDirectory p => simp only [answer]; split <;> rfl
  | unmount p => simp only [answer]; split <;> rfl
  | _ => rfl

theorem spares_of_harmless {c : HostCall} (hc : Harmless c) (h : ScriptedHost) :
    Spares h (answer c h).2 := by
  have hne : ∀ d fstype args, c ≠ .makeFilesystem d fstype args := by
    rintro d fstype args rfl
    exact hc
  refine ⟨_, actions_answer c h, fun d => .inl ⟨?_, ?_⟩, ?_⟩
  · rw [contentOf, contents_answer hne, contentOf]
  · rw [formatsOf, List.filterMap_eq_nil_iff]
    intro a ha
    have hf := (hc.action (Option.mem_toList.1 ha)).1
    cases a with
    | makeFilesystem d fstype => exact absurd rfl (hf d fstype)
    | _ => rfl
  · intro d target fstype options ha
    exact absurd rfl ((hc.action (Option.mem_toList.1 ha)).2 d target fstype options)

theorem spares_makeFilesystem {h : ScriptedHost} {device : Path} {fstype : String}
    (hb : h.contentOf device = .blank) (ht : fstype ∈ formattable) (args : List String) :
    Spares h (answer (.makeFilesystem device fstype args) h).2 := by
  refine ⟨[.makeFilesystem device fstype], rfl, fun d => ?_, by simp⟩
  have hd : h.contentOf d = .blank ∨ device.same d = false := by
    by_cases he : device.components = d.components
    · exact .inl (by rw [← hb, contentOf, contentOf, he])
    · exact .inr (by simpa [Path.same] using he)
  cases hs : device.same d with
  | true =>
      refine .inr ⟨hd.resolve_right (by simp [hs]), fstype, ht, ?_, ?_⟩
      · exact (contentOf_setContent _ device d _).trans (by simp [hs])
      · simp [formatsOf, hs]
  | false =>
      refine .inl ⟨?_, by simp [formatsOf, hs]⟩
      exact (contentOf_setContent _ device d _).trans (by simp [hs, contentOf, remember])

theorem spares_mount {h : ScriptedHost} {device : Path}
    (hp : ∀ kind, h.contentOf device ≠ .partitionTable kind) (target : Path)
    (fstype : Option String) (options : MountOptions) :
    Spares h (answer (.mount device target fstype options) h).2 := by
  refine ⟨[.mount device target fstype options.words], rfl, fun d => .inl ⟨rfl, rfl⟩, ?_⟩
  intro d target' fstype' options' hm
  cases List.mem_singleton.1 hm
  exact hp

theorem spares_answer {c : HostCall} {h : ScriptedHost} (hc : Permitted h c) :
    Spares h (answer c h).2 := by
  cases c with
  | makeFilesystem device fstype args => exact spares_makeFilesystem hc.1 hc.2 args
  | mount device target fstype options => exact spares_mount hc target fstype options
  | _ =>
      refine spares_of_harmless ?_ h
      trivial

end ScriptedHost

namespace LiveHost

def Permits (s : LiveHost) (c : HostCall) : Prop := Permitted s.host c

theorem spares_answer {c : HostCall} {s : LiveHost} (hc : s.Permits c) :
    Spares s.host (answer c s).2.host := by
  have hp := s.proceed_host
  have h : Spares s.proceed.host (answer c s).2.host := by
    refine ScriptedHost.spares_answer (h := s.proceed.host) ?_
    rw [hp]
    exact hc
  rw [hp] at h
  exact h

theorem contents_answer {c : HostCall} (hc : Harmless c) (s : LiveHost) :
    (answer c s).2.host.contents = s.host.contents := by
  have hne : ∀ d fstype args, c ≠ .makeFilesystem d fstype args := by
    rintro d fstype args rfl
    exact hc
  have h := ScriptedHost.contents_answer hne s.proceed.host
  rwa [show s.proceed.host.contents = s.host.contents by rw [proceed_host]] at h

theorem heeds_of_harmless {α : Type} {p : Plan Host α} (hp : Plan.Only (I := Host) Harmless p)
    (s : LiveHost) : p.Heeds answer Permits s :=
  hp.heeds (fun s _ hc => hc.permitted s.host) s

theorem contents_run {α : Type} {p : Plan Host α} (hp : Plan.Only (I := Host) Harmless p)
    (s : LiveHost) : (p.run answer s).2.host.contents = s.host.contents := by
  refine (hp.heeds (A := fun _ => Harmless) (fun _ _ h => h) s).relates
    (R := fun s t => t.host.contents = s.host.contents) ?_ ?_ ?_
  · exact fun _ => rfl
  · exact fun _ _ _ hst htu => htu.trans hst
  · exact fun s _ hc => contents_answer hc s

theorem contentOf_run {α : Type} {p : Plan Host α} (hp : Plan.Only (I := Host) Harmless p)
    (s : LiveHost) (device : Path) :
    (p.run answer s).2.host.contentOf device = s.host.contentOf device := by
  rw [ScriptedHost.contentOf, contents_run hp, ScriptedHost.contentOf]

theorem spares_run {α : Type} {p : Plan Host α} {s : LiveHost}
    (hp : p.Heeds answer Permits s) :
    Spares s.host (p.run answer s).2.host :=
  hp.relates (R := fun s t => Spares s.host t.host) (fun _ => .refl _)
    (fun _ _ _ => Spares.trans) (fun _ _ => spares_answer)

end LiveHost

namespace Volume

open Operation

theorem harmless_rescan (config : Config) (token : CancelToken) :
    Plan.Only (I := Host) Harmless (rescan config token) := by
  refine (rescanCall_rescan config token).mono fun c hc => ?_
  cases c with
  | listDirectory | writeFile | runProgram | isCancelled | log => trivial
  | _ => exact hc.elim

theorem harmless_findDevice (config : Config) (token : CancelToken) (volume : String) :
    Plan.Only (I := Host) Harmless (findDevice config token volume).run := by
  refine (searching_findDevice config token volume).mono fun c hc => ?_
  cases c with
  | makeFilesystem | mount => exact hc.elim
  | _ => trivial

theorem harmless_cleanUp (rounds : Nat) (p : Path) (extensive : Bool) :
    Plan.Only (I := Host) Harmless (cleanUp rounds p extensive).run := by
  refine (cleanupCall_cleanUp rounds p extensive).mono fun c hc => ?_
  cases c with
  | pathExists | mountEntries | unmount | removeDirectory | log => trivial
  | _ => exact hc.elim

theorem harmless_grow (device mountPath : Path) :
    Plan.Only (I := Host) Harmless (grow device mountPath).run := by
  refine only_bind (only_require (Host.only_ask trivial)) fun content => ?_
  cases content with
  | filesystem held =>
      dsimp only
      split
      · refine only_bind (only_log (fun _ => trivial) ..) fun _ => ?_
        exact only_require (Host.only_ask trivial)
      · split
        · refine only_bind (only_log (fun _ => trivial) ..) fun _ => ?_
          exact only_require (Host.only_ask trivial)
        · trivial
  | blank | partitionTable kind => trivial

theorem harmless_deviceAt (p : Path) : Plan.Only (I := Host) Harmless (deviceAt p).run := by
  refine only_bind (only_require (Host.only_ask trivial)) fun entries => ?_
  cases MountTable.find p entries <;> trivial

theorem run_probe (device : Path) (s : LiveHost) :
    ((Operation.require (Host.probe device)).run.run LiveHost.answer s).1 =
      .ok (s.host.contentOf device) := by
  change Except.ok (s.proceed.host.contentOf device) = _
  rw [s.proceed_host]
  rfl

theorem harmless_prepare_filesystem (device : Path) (fstype : String) (options : MountOptions)
    (held : String) :
    Plan.Only (I := Host) Harmless (prepare device fstype options (.filesystem held)).run := by
  refine (checking_prepare_filesystem device fstype options held).mono fun c hc => ?_
  cases c with
  | checkFilesystem | log => trivial
  | _ => exact hc.elim

theorem prepare_heeds {device : Path} {content : DiskContent} {s : LiveHost}
    (hc : s.host.contentOf device = content) (fstype : String) (options : MountOptions) :
    (prepare device fstype options content).run.Heeds LiveHost.answer LiveHost.Permits s := by
  cases content with
  | blank =>
      simp only [prepare]
      split
      · trivial
      · split
        · trivial
        · next ht =>
            have ht : fstype ∈ formattable := by simpa using ht
            have hlog (message : String) :
                Plan.Only (I := Host) Harmless (Operation.log .info .mounting message).run :=
              only_log (fun _ => trivial) ..
            refine heeds_bind (LiveHost.heeds_of_harmless (hlog _) s) fun _ _ => ?_
            refine heeds_bind ⟨⟨?_, ht⟩, trivial⟩ fun _ _ => trivial
            rw [LiveHost.contentOf_run (hlog _), hc]
  | filesystem held =>
      exact LiveHost.heeds_of_harmless (harmless_prepare_filesystem device fstype options held) s
  | partitionTable kind => trivial

theorem prepare_ok {device : Path} {fstype held : String} {options : MountOptions}
    {content : DiskContent} {s : LiveHost}
    (h : ((prepare device fstype options content).run.run LiveHost.answer s).1 = .ok held)
    (kind : String) : content ≠ .partitionTable kind := by
  rintro rfl
  cases h

theorem formatAndMount_heeds (config : Config) (device target : Path) (fstype : String)
    (options : MountOptions) (s : LiveHost) :
    (formatAndMount config device target fstype options).run.Heeds LiveHost.answer
      LiveHost.Permits s := by
  have hprobe : (Operation.require (Host.probe device)).run.Heeds LiveHost.answer
      LiveHost.Permits s := ⟨trivial, trivial⟩
  refine heeds_bind hprobe fun content hcontent => ?_
  rw [run_probe, Except.ok.injEq] at hcontent
  have ht : ((Operation.require (Host.probe device)).run.run LiveHost.answer s).2.host.contentOf
      device = content :=
    (LiveHost.contentOf_run (only_require (Host.only_ask trivial)) s device).trans hcontent
  generalize ((Operation.require (Host.probe device)).run.run LiveHost.answer s).2 = t at ht ⊢
  have hprepare := prepare_heeds ht (effectiveFstype config fstype) options
  refine heeds_bind hprepare fun held hheld => ?_
  obtain ⟨_, -, hfate, -⟩ := LiveHost.spares_run hprepare
  have hmount := (hfate device).ne_partitionTable fun kind => ht ▸ prepare_ok hheld kind
  have hlog : Plan.Only (I := Host) Harmless (Operation.log .info .mounting
      ("Mounting " ++ device.text ++ " at " ++ target.text ++ " (" ++ held ++ ")")).run :=
    only_log (fun _ => trivial) ..
  refine heeds_bind (LiveHost.heeds_of_harmless hlog _) fun _ _ => ⟨?_, trivial⟩
  intro kind
  rw [LiveHost.contentOf_run hlog]
  exact hmount kind

end Volume

inductive VolumeRequest
  | findDevice (config : Config) (token : CancelToken) (volume : String)
  | rescan (config : Config) (token : CancelToken)
  | makeDirectory (p : Path)
  | makeFile (p : Path)
  | isPresent (p : Path)
  | formatAndMount (config : Config) (device target : Path) (fstype : String)
      (options : MountOptions)
  | deviceAt (p : Path)
  | grow (device mountPath : Path)
  | cleanUp (rounds : Nat) (p : Path) (extensive : Bool)

namespace VolumeRequest

def plan : VolumeRequest → Plan Host Unit
  | findDevice config token volume =>
    (Volume.findDevice config token volume).run.bind fun _ => .done ()
  | rescan config token => Volume.rescan config token
  | makeDirectory p => (Volume.makeDirectory p).run.bind fun _ => .done ()
  | makeFile p => (Volume.makeFile p).run.bind fun _ => .done ()
  | isPresent p => (Volume.isPresent p).run.bind fun _ => .done ()
  | formatAndMount config device target fstype options =>
    (Volume.formatAndMount config device target fstype options).run.bind fun _ => .done ()
  | deviceAt p => (Volume.deviceAt p).run.bind fun _ => .done ()
  | grow device mountPath => (Volume.grow device mountPath).run.bind fun _ => .done ()
  | cleanUp rounds p extensive => (Volume.cleanUp rounds p extensive).run.bind fun _ => .done ()

theorem plan_heeds (r : VolumeRequest) (s : LiveHost) :
    r.plan.Heeds LiveHost.answer LiveHost.Permits s := by
  have harmless {α : Type} {p : Plan Host α} (hp : Plan.Only (I := Host) Harmless p) :
      (p.bind fun _ => Plan.done ()).Heeds LiveHost.answer LiveHost.Permits s :=
    LiveHost.heeds_of_harmless (hp.bind (f := fun _ => .done ()) fun _ => trivial) s
  cases r with
  | findDevice config token volume => exact harmless (Volume.harmless_findDevice ..)
  | rescan config token =>
      exact LiveHost.heeds_of_harmless (Volume.harmless_rescan config token) s
  | makeDirectory p | makeFile p | isPresent p =>
      exact harmless (Operation.only_require (Host.only_ask trivial))
  | formatAndMount config device target fstype options =>
      exact (Volume.formatAndMount_heeds ..).bind trivial
  | deviceAt p => exact harmless (Volume.harmless_deviceAt p)
  | grow device mountPath => exact harmless (Volume.harmless_grow device mountPath)
  | cleanUp rounds p extensive => exact harmless (Volume.harmless_cleanUp rounds p extensive)

end VolumeRequest

namespace LiveHost

def serve (s : LiveHost) (requests : List VolumeRequest) : LiveHost :=
  requests.foldl (fun s r => (r.plan.run answer s).2) s

theorem spares_serve (s : LiveHost) (requests : List VolumeRequest) :
    Spares s.host (s.serve requests).host := by
  induction requests generalizing s with
  | nil => exact .refl _
  | cons r rest ih => exact (spares_run (r.plan_heeds s)).trans (ih _)

/-- However many operations are run, a disk that holds something holds the same at the end and was
not formatted; a blank disk is blank still, or has been formatted once and holds what it was
formatted as; and no disk with a partition table was mounted. -/
theorem disks_spared (s : LiveHost) (requests : List VolumeRequest) :
    ∃ done, (s.serve requests).host.actions = s.host.actions ++ done ∧
      (∀ d, s.host.contentOf d ≠ .blank →
        (s.serve requests).host.contentOf d = s.host.contentOf d ∧ formatsOf d done = []) ∧
      (∀ d, s.host.contentOf d = .blank →
        (s.serve requests).host.contentOf d = .blank ∧ formatsOf d done = [] ∨
          ∃ fstype ∈ ["ext2", "ext3", "ext4", "xfs"],
            (s.serve requests).host.contentOf d = .filesystem fstype ∧
              formatsOf d done = [fstype]) ∧
      ∀ d target fstype options, .mount d target fstype options ∈ done → ∀ kind,
        s.host.contentOf d ≠ .partitionTable kind ∧
          (s.serve requests).host.contentOf d ≠ .partitionTable kind := by
  obtain ⟨done, hdone, hfate, hmount⟩ := spares_serve s requests
  refine ⟨done, hdone, fun d hd => ?_, fun d hd => ?_, ?_⟩
  · exact (hfate d).resolve_right fun h => hd h.1
  · rcases hfate d with ⟨ha, hf⟩ | ⟨-, h⟩
    · exact .inl ⟨ha.trans hd, hf⟩
    · exact .inr h
  · intro d target fstype options hm kind
    have hd := hmount d target fstype options hm
    exact ⟨hd kind, (hfate d).ne_partitionTable hd kind⟩

end LiveHost

end BlockVolume
