import BlockVolume.Proofs.Cleanup.Outcome
import BlockVolume.Proofs.Mounting.Decision
import BlockVolume.Volume.Mounting

namespace BlockVolume

namespace Path

theorem self_mem_beginnings (steps : List Component) : steps ∈ beginnings steps := by
  induction steps with
  | nil => exact List.mem_singleton_self _
  | cons c cs ih => exact List.mem_cons_of_mem _ (List.mem_map_of_mem ih)

theorem mem_components_ancestors (p : Path) : p.components ∈ p.ancestors := by
  rw [ancestors]
  split
  · next habsolute =>
      obtain ⟨steps, hsteps⟩ : ∃ steps, p.components = .root :: steps := by
        simp only [components, habsolute, if_true]
        exact ⟨_, rfl⟩
      rw [hsteps]
      exact List.mem_map_of_mem (self_mem_beginnings steps)
  · exact self_mem_beginnings _

end Path

namespace ScriptedHost

variable {s : ScriptedHost} {p : Path}

theorem stat_of_ok {t : ScriptedHost} {there : Bool} (h : s.stat p = .ok there)
    (hfailures : t.statFailures = s.statFailures) (herrnos : t.statErrnos = s.statErrnos) :
    t.stat p = .ok (t.has p) := by
  rw [stat, hfailures, herrnos]
  rw [stat] at h
  split at h
  · cases h
  · cases h
  · rfl

theorem unmount_concat {e : MountEntry} {entries : List MountEntry}
    (h : s.mounts = entries ++ [e]) :
    ∃ t, answer (.unmount e.mountPoint) s = (.ok (), t) ∧ t.mounts = entries ∧
      t.present = s.present := by
  have hlast := removeLast_concat (e := e) (beq_self_eq_true e.mountPoint.components) entries
  simp only [answer, log, remember, h, hlast]
  exact ⟨_, rfl, rfl, rfl⟩

end ScriptedHost

namespace Volume

open Operation ScriptedHost

variable {config : Config} {source target p : Path} {fstype : String} {options : MountOptions}
  {s t : ScriptedHost}

theorem formatAndMount_ok
    (h : (formatAndMount config source target fstype options).run.run answer s = (.ok (), t)) :
    ∃ held, t.mounts = s.mounts ++ [⟨target, held, source.text⟩] ∧
      Readied { s with mounts := t.mounts } t := by
  have hprepared :=
    readied_prepare source (effectiveFstype config fstype) options (s.contentOf source) s
  rw [run_formatAndMount] at h
  split at h
  · next held u hprepare =>
      rw [hprepare] at hprepared
      have hready : Readied s u := hprepared
      cases h
      rw [hready]
      exact ⟨held, rfl, rfl⟩
  · cases h

theorem makeDirectory_ok (h : (makeDirectory p).run.run answer s = (.ok (), t)) :
    t = { s with actions := t.actions, present := t.present } ∧ t.has p = true := by
  have hadded : (Except.ok (), p.ancestors.foldl add (s.remember (.createDirectory p))) =
    ((.ok (), t) : Except VolumeError Unit × ScriptedHost) := h
  rw [foldl_add] at hadded
  cases hadded
  refine ⟨rfl, ?_⟩
  simp [has, Path.mem_components_ancestors]

theorem deviceAt_concat {e : MountEntry} (hmounts : t.mounts = s.mounts ++ [e]) :
    (deviceAt e.mountPoint).run.run answer t =
      (.ok (e.source,
        1 + ((MountTable.stepsOf e.source s.mounts).erase e.mountPoint.components).card), t) := by
  have hfind := MountTable.find_concat s.mounts e
  have hentries : (Operation.require Host.mountEntries).run.run answer t = (.ok t.mounts, t) := rfl
  rw [deviceAt, run_run_bind, hentries, hmounts]
  dsimp only
  rw [hfind, ← MountTable.length_mountPointsOf_concat]
  rfl

theorem cleanUp_concat {e : MountEntry} (hmounts : t.mounts = s.mounts ++ [e])
    (hstat : t.stat e.mountPoint = .ok true) (hthere : t.has e.mountPoint = true) (rounds : Nat) :
    ∃ u, (cleanUp rounds e.mountPoint false).run.run answer t = (.ok true, u) ∧
      u.mounts = s.mounts ∧ u.has e.mountPoint = false := by
  obtain ⟨u, hu, hrun⟩ := run_cleanUp e.mountPoint t
  have hlast : u.mounts = s.mounts ++ [e] := by rw [hu, remember, hmounts]
  have hneeded : needed e.mountPoint u.mounts .present = true := by
    change MountTable.isMounted e.mountPoint u.mounts = true
    rw [hlast, MountTable.isMounted, MountTable.find_concat]
    rfl
  obtain ⟨v, hunmount, hleft, hpresent⟩ :=
    unmount_concat (s := u.log (unmounting e.mountPoint)) hlast
  have hstill : v.has e.mountPoint = true := by
    rw [has, hpresent, hu]
    exact hthere
  obtain ⟨w, hremove⟩ := removeUncovered_of_has hstill
  obtain ⟨hkept, hgone, -⟩ := removeUncovered_ok hremove
  have huncover :
      (uncover rounds e.mountPoint false .present).run.run answer u = (.ok true, v) := by
    rw [run_uncover, if_pos hneeded, hunmount]
    rfl
  refine ⟨w, ?_, hkept.trans hleft, hgone⟩
  rw [hrun, hstat]
  change (uncover rounds e.mountPoint false .present >>= removeUncovered e.mountPoint).run.run
    answer u = _
  rw [run_run_bind, huncover]
  exact hremove

/-- A cleanup undoes a mount: the table is as it was before, the place is gone, and disks hold what
the mount has left on them. Until then the disk is found at the place, which counts as one mount of
it together with those that were there before. -/
theorem cleanUp_formatAndMount (config : Config) (source target : Path) (fstype : String)
    (options : MountOptions) (rounds : Nat) {h h₁ h₂ : ScriptedHost}
    (hstat : ∃ there, h.stat target = .ok there)
    (hmake : (makeDirectory target).run.run answer h = (.ok (), h₁))
    (hmount : (formatAndMount config source target fstype options).run.run answer h₁ =
      (.ok (), h₂)) :
    (deviceAt target).run.run answer h₂ = (.ok (source.text,
        1 + ((MountTable.stepsOf source.text h₁.mounts).erase target.components).card), h₂) ∧
      ∃ h₃, (cleanUp rounds target false).run.run answer h₂ = (.ok true, h₃) ∧
        h₃.mounts = h₁.mounts ∧ ((isPresent target).run.run answer h₃).1 = .ok false ∧
        ∀ d, h₃.contentOf d = h₂.contentOf d := by
  obtain ⟨there, hstat⟩ := hstat
  obtain ⟨hmade, hthere⟩ := makeDirectory_ok hmake
  obtain ⟨held, hmounts, hready⟩ := formatAndMount_ok hmount
  have hfound : h₂.has target = true := by
    rw [hready]
    exact hthere
  have hlooks : h₂.stat target = .ok true := by
    rw [← hfound]
    apply stat_of_ok hstat <;> rw [hready, hmade]
  obtain ⟨h₃, hclean, hback, hgone⟩ := cleanUp_concat hmounts hlooks hfound rounds
  have hcleaned := cleaned_record (cleanupCall_cleanUp rounds target false) h₂
  rw [Plan.record_snd, hclean] at hcleaned
  have hothers : h₃ = { h₂ with
      actions := h₃.actions, logged := h₃.logged, mounts := h₃.mounts, present := h₃.present } :=
    hcleaned.others
  have hdevice := deviceAt_concat hmounts
  refine ⟨hdevice, h₃, hclean, hback, ?_, fun d => ?_⟩
  · have hgone' : h₃.stat target = .ok false := by
      rw [← hgone]
      apply stat_of_ok hlooks <;> rw [hothers]
    exact congrArg (Except.mapError VolumeError.host) hgone'
  · rw [contentOf, hothers, contentOf]

theorem cleanUp_formatAndMount_stacked :
    let h := { ScriptedHost.empty with mounts := [⟨⟨"/mnt/"⟩, "xfs", "/dev/sdb"⟩,
      ⟨⟨"/srv/./a"⟩, "xfs", "/dev/sdb"⟩, ⟨⟨"//mnt"⟩, "xfs", "/dev/sdc"⟩] }
    let (made, h₁) := (makeDirectory ⟨"/mnt"⟩).run.run answer h
    let (mounted, h₂) := (formatAndMount Config.standard ⟨"/dev/sdb"⟩ ⟨"/mnt"⟩ "" ⟨[]⟩).run.run
      answer h₁
    h.stat ⟨"/mnt"⟩ = .ok false ∧ made = .ok () ∧ mounted = .ok () ∧
      (deviceAt ⟨"/mnt"⟩).run.run answer h₂ = (.ok ("/dev/sdb", 2), h₂) ∧
      ∃ h₃, (cleanUp 0 ⟨"/mnt"⟩ false).run.run answer h₂ = (.ok true, h₃) ∧
        h₃.mounts = h.mounts ∧ h₃.contentOf ⟨"/dev/sdb"⟩ = .filesystem "ext4" := by
  intro h
  have hstat : h.stat ⟨"/mnt"⟩ = .ok false := by decide
  obtain ⟨hdevice, h₃, hclean, hmounts, -, hcontents⟩ :=
    cleanUp_formatAndMount Config.standard ⟨"/dev/sdb"⟩ ⟨"/mnt"⟩ "" ⟨[]⟩ 0 ⟨false, hstat⟩ rfl rfl
  exact ⟨hstat, rfl, rfl, hdevice, h₃, hclean, hmounts, hcontents _⟩

end Volume

end BlockVolume
