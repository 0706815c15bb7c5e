import BlockVolume.Proofs.Cleanup.Course
import BlockVolume.Proofs.MountTable.References

namespace BlockVolume

def HostCall.removed? : HostCall → Option Path
  | .removeDirectory p => some p
  | _ => none

namespace Volume

open Operation ScriptedHost

variable {p : Path} {rounds : Nat} {extensive : Bool} {known : Standing} {s t : ScriptedHost}

theorem Uncovering.removed? {c : HostCall} (h : Uncovering p c) : c.removed? = none := by
  cases c with
  | removeDirectory q => exact h.elim
  | _ => rfl

theorem uncover_ok (h : (uncover rounds p extensive known).run.run answer s = (.ok true, t)) :
    t.mounts = s.mounts ∧ MountTable.isMounted p s.mounts = false ∨
      ∃ u, removeLast p s.mounts = some u.mounts ∧
        (extensive = false → u = t) ∧ (extensive = true → Unwinds p u (.ok true) t) := by
  rw [run_uncover] at h
  split at h
  · rcases hu : answer (.unmount p) (s.log (unmounting p)) with ⟨e | ⟨⟩, u⟩
    · rw [hu] at h
      cases h
    · rw [hu] at h
      refine .inr ⟨u, unmount_ok hu, fun honce => ?_, fun hext => ?_⟩
      · rw [honce] at h
        cases h
        rfl
      · rw [hext] at h
        exact unwinds_of_run h nofun
  · next hneeded =>
      cases h
      cases known with
      | corrupted => exact absurd rfl hneeded
      | absent | present => exact .inl ⟨rfl, Bool.eq_false_iff.2 hneeded⟩

theorem uncover_extensive_ok
    (h : (uncover rounds p true known).run.run answer s = (.ok true, t)) :
    MountTable.isMounted p t.mounts = false := by
  rcases uncover_ok h with ⟨hmounts, hbare⟩ | ⟨u, -, -, hunwinds⟩
  · rwa [hmounts]
  · exact (hunwinds rfl).ok.2

theorem uncover_once_ok
    (h : (uncover rounds p false known).run.run answer s = (.ok true, t)) :
    removeLast p s.mounts = some t.mounts ∨
      t.mounts = s.mounts ∧ MountTable.isMounted p s.mounts = false := by
  rcases uncover_ok h with hbare | ⟨u, hlast, honce, -⟩
  · exact .inr hbare
  · exact .inl (honce rfl ▸ hlast)

theorem uncover_ne_false (h : s.mounts.length ≤ rounds) :
    ((uncover rounds p extensive known).run.run answer s).1 ≠ .ok false := by
  rw [run_uncover]
  split
  · rcases hu : answer (.unmount p) (s.log (unmounting p)) with ⟨e | ⟨⟩, u⟩
    · nofun
    · have hlength := (stripped_of_removeLast (unmount_ok hu)).length_eq
      cases extensive with
      | false => nofun
      | true => exact unwind_ne_false (by omega)
  · nofun

theorem run_uncover_of_le {more : Nat} (h : s.mounts.length ≤ rounds)
    (hmore : s.mounts.length ≤ more) :
    (uncover rounds p extensive known).run.run answer s =
      (uncover more p extensive known).run.run answer s := by
  rw [run_uncover, run_uncover]
  split
  · rcases hu : answer (.unmount p) (s.log (unmounting p)) with ⟨e | ⟨⟩, u⟩
    · rfl
    · have hlength := (stripped_of_removeLast (unmount_ok hu)).length_eq
      cases extensive with
      | false => rfl
      | true =>
          have hfirst : u.mounts.length ≤ rounds := by omega
          have hsecond : u.mounts.length ≤ more := by omega
          obtain ⟨hresult, hstate⟩ := (unwinds_unwind hfirst).unique (unwinds_unwind hsecond)
          exact Prod.ext hresult hstate
  · rfl

theorem uncover_of_spelled (h : s.mounts.length ≤ rounds) (hspelled : Spelled p s.mounts)
    (hknown : known = .present ∨ ∃ e ∈ s.mounts, e.mountPoint.same p = true) :
    ∃ t, (uncover rounds p true known).run.run answer s = (.ok true, t) ∧
      t.present = s.present := by
  rw [run_uncover]
  split
  · next hneeded =>
      obtain ⟨e, he, hplace⟩ : ∃ e ∈ s.mounts, e.mountPoint.same p = true := by
        rcases hknown with rfl | hmounted
        · exact hspelled.exists_same hneeded
        · exact hmounted
      obtain ⟨u, hu⟩ := unmount_of_same (unmounting p) he hplace
      have hstripped := stripped_of_removeLast (unmount_ok hu)
      have hlength := hstripped.length_eq
      have hpresent := present_unmount p (s.log (unmounting p))
      rw [hu] at hpresent ⊢
      have hunwinds : Unwinds p u _ _ := unwinds_unwind (show u.mounts.length ≤ rounds by omega)
      obtain ⟨hok, hkept⟩ := hunwinds.ok_of_spelled fun e he =>
        hspelled e (hstripped.sublist.subset he)
      exact ⟨_, Prod.ext hok rfl, hkept.trans hpresent⟩
  · exact ⟨_, rfl, rfl⟩

theorem removeUncovered_of_has (h : s.has p = true) :
    ∃ t, (removeUncovered p true).run.run answer s = (.ok true, t) := by
  have hthere : (s.remember (.removeDirectory p)).has p = true := h
  rw [run_removeUncovered]
  simp only [answer, hthere, if_true]
  exact ⟨_, rfl⟩

theorem removeUncovered_ok (h : (removeUncovered p true).run.run answer s = (.ok true, t)) :
    t.mounts = s.mounts ∧ t.has p = false ∧ t.actions = s.actions ++ [.removeDirectory p] := by
  rw [run_removeUncovered] at h
  simp only [answer] at h
  split at h
  · next u hremove =>
      split at hremove
      · cases hremove
        cases h
        refine ⟨rfl, ?_, rfl⟩
        simp [has, ScriptedHost.log]
      · cases hremove
  · cases h

/-- What a cleanup leaves mounted of a place before it removes it. -/
structure Uncovered (p : Path) (extensive : Bool) (before after : List MountEntry) : Prop where
  spelled : ∀ e ∈ after, e.mountPoint.same p = true → e.mountPoint.SpelledAs p →
    extensive = false ∧ 2 ≤ before.countP (·.mountPoint.same p)
  once : extensive = false → removeLast p before = some after ∨
    after = before ∧ MountTable.isMounted p before = false

theorem uncovered_of_uncover
    (h : (uncover rounds p extensive known).run.run answer s = (.ok true, t)) :
    Uncovered p extensive s.mounts t.mounts := by
  cases extensive with
  | true =>
      have hclear := MountTable.isMounted_eq_false.1 (uncover_extensive_ok h)
      exact ⟨fun e he _ htext => absurd htext (hclear e he), nofun⟩
  | false =>
      have honce := uncover_once_ok h
      refine ⟨fun e he hplace htext => ⟨rfl, ?_⟩, fun _ => honce⟩
      rcases honce with hlast | ⟨heq, hclear⟩
      · -- One mount at the place was taken off, and this one is still there.
        have hleft : 0 < t.mounts.countP (·.mountPoint.same p) :=
          List.countP_pos_iff.2 ⟨e, he, hplace⟩
        have hcount := (stripped_of_removeLast hlast).countP_eq
        omega
      · rw [heq] at he
        exact absurd htext (MountTable.isMounted_eq_false.1 hclear e he)

/-- A cleanup removes no place but its own, and that only when nothing is mounted there under the
same spelling, or when it was to unmount the place no more than once. -/
theorem cleanUp_uncovers (rounds : Nat) (p : Path) (extensive : Bool) (h : ScriptedHost) :
    (cleanUp rounds p extensive).run.Heeds answer
      (fun s c => ∀ q ∈ c.removed?, q = p ∧ Uncovered p extensive h.mounts s.mounts) h := by
  have hspared (s : ScriptedHost) (c : HostCall) (hc : Uncovering p c) : ∀ q ∈ c.removed?,
      q = p ∧ Uncovered p extensive h.mounts s.mounts := by
    rw [hc.removed?]
    nofun
  rw [cleanUp_eq]
  obtain ⟨logged, hstanding⟩ := run_standing p h
  refine heeds_bind ((uncovering_standing p).heeds hspared h) fun known _ => ?_
  rw [hstanding]
  split
  · trivial
  refine heeds_bind ((uncovering_uncover rounds p extensive known).heeds hspared _) fun b hb => ?_
  cases b with
  | false => trivial
  | true =>
      have huncovered := uncovered_of_uncover (Prod.ext hb rfl)
      refine heeds_bind ⟨fun q hq => ?_, trivial⟩ fun _ _ => ⟨nofun, trivial⟩
      cases hq
      exact ⟨rfl, huncovered⟩

/-- Of two mounts at a place, a cleanup that is not extensive leaves one there. An extensive one
leaves a mount that is spelled in another way than the place. -/
theorem cleanUp_removes_covered :
    let bare (s : ScriptedHost) (c : HostCall) : Prop :=
      ∀ q ∈ c.removed?, ∀ e ∈ s.mounts, e.mountPoint.same q = false
    (¬ (cleanUp 2 ⟨"/mnt"⟩ false).run.Heeds answer bare
      { ScriptedHost.empty with
        present := [[.root, .name "mnt"]]
        mounts := [⟨⟨"/mnt"⟩, "ext4", "/dev/sdb"⟩, ⟨⟨"/mnt"⟩, "ext4", "/dev/sdc"⟩] }) ∧
      ¬ (cleanUp 1 ⟨"/mnt//a"⟩ true).run.Heeds answer bare
        { ScriptedHost.empty with
          present := [[.root, .name "mnt", .name "a"]]
          mounts := [⟨⟨"/mnt/a"⟩, "ext4", "/dev/sdb"⟩] } := by
  intro bare
  constructor
  · intro h
    -- Before the removal the place is looked at, found in the table and unmounted, with a log line.
    have hcovered :=
      h.2.2.2.2.1 ⟨"/mnt"⟩ rfl ⟨⟨"/mnt"⟩, "ext4", "/dev/sdb"⟩ (List.mem_singleton.2 rfl)
    exact absurd hcovered (by decide)
  · intro h
    -- Before the removal the place is looked at and not found in the table, with a log line.
    have hcovered :=
      h.2.2.2.1 ⟨"/mnt//a"⟩ rfl ⟨⟨"/mnt/a"⟩, "ext4", "/dev/sdb"⟩ (List.mem_singleton.2 rfl)
    exact absurd hcovered (by decide)

structure CleanedUp (p : Path) (h : ScriptedHost) (xs : List (Plan.Exchange Host))
    (r : Except VolumeError Bool) (t : ScriptedHost) : Prop where
  finished : r ≠ .ok false
  cleaned : Cleaned p (unmounts xs) h t
  absent : h.stat p = .ok false → r = .ok true ∧ t.actions = h.actions ++ [.stat p]
  refused : ∀ e, h.stat p = .error e → e.isCorruptedMount = false →
    r = .error (.host e) ∧ t.actions = h.actions ++ [.stat p]
  removed : r = .ok true → h.stat p ≠ .ok false →
    MountTable.isMounted p t.mounts = false ∧ t.has p = false ∧
      t.actions.getLast? = some (.removeDirectory p)
  succeeded : h.has p = true → Spelled p h.mounts →
    (h.stat p = .ok true ∨ (∃ e, h.stat p = .error e ∧ e.isCorruptedMount = true) ∧
      ∃ e ∈ h.mounts, e.mountPoint.same p = true) → r = .ok true

theorem cleanUp_removed {s t : ScriptedHost}
    (h : (uncover rounds p true known >>= removeUncovered p).run.run answer s = (.ok true, t)) :
    MountTable.isMounted p t.mounts = false ∧ t.has p = false ∧
      t.actions.getLast? = some (.removeDirectory p) := by
  obtain ⟨uncovered, u, huncover, hremove⟩ := run_bind_ok h
  cases uncovered with
  | false => cases hremove
  | true =>
      obtain ⟨hmounts, hgone, hactions⟩ := removeUncovered_ok hremove
      rw [hmounts, hactions, List.getLast?_concat]
      exact ⟨uncover_extensive_ok huncover, hgone, rfl⟩

theorem cleanUp_succeeds (h : s.mounts.length ≤ rounds) (hthere : s.has p = true)
    (hspelled : Spelled p s.mounts)
    (hknown : known = .present ∨ ∃ e ∈ s.mounts, e.mountPoint.same p = true) :
    ((uncover rounds p true known >>= removeUncovered p).run.run answer s).1 = .ok true := by
  obtain ⟨t, huncover, hpresent⟩ := uncover_of_spelled h hspelled hknown
  have hstill : t.has p = true := by
    rw [has, hpresent]
    exact hthere
  obtain ⟨u, hremove⟩ := removeUncovered_of_has hstill
  rw [run_run_bind, huncover]
  exact congrArg Prod.fst hremove

theorem uncover_removeUncovered_ne_false (h : s.mounts.length ≤ rounds) :
    ((uncover rounds p extensive known >>= removeUncovered p).run.run answer s).1 ≠ .ok false := by
  intro hfalse
  obtain ⟨uncovered, u, huncover, hremove⟩ := run_bind_ok (Prod.ext hfalse rfl)
  cases uncovered with
  | false => exact uncover_ne_false h (congrArg Prod.fst huncover)
  | true =>
      rw [run_removeUncovered] at hremove
      split at hremove <;> cases hremove

theorem standingOf_cases (there : Except HostError Bool) :
    there = .ok false ∧ standingOf there = .ok .absent ∨
      (∃ e, there = .error e ∧ e.isCorruptedMount = false ∧
        standingOf there = .error (.host e)) ∨
      ∃ known, known ≠ .absent ∧ standingOf there = .ok known ∧ there ≠ .ok false ∧
        ∀ e, there = .error e → e.isCorruptedMount = true := by
  rcases there with e | _ | _
  · by_cases he : e.isCorruptedMount = true
    · refine .inr (.inr ⟨.corrupted, nofun, if_pos he, nofun, fun e' heq => ?_⟩)
      cases heq
      exact he
    · exact .inr (.inl ⟨e, rfl, Bool.eq_false_iff.2 he, if_neg he⟩)
  · exact .inl ⟨rfl, rfl⟩
  · exact .inr (.inr ⟨.present, nofun, rfl, nofun, nofun⟩)

theorem run_cleanUp (p : Path) (h : ScriptedHost) :
    ∃ u, u = { h.remember (.stat p) with logged := u.logged } ∧
      ∀ rounds extensive, (cleanUp rounds p extensive).run.run answer h =
        match standingOf (h.stat p) with
        | .ok known =>
          if known = .absent then (.ok true, u)
          else (uncover rounds p extensive known >>= removeUncovered p).run.run answer u
        | .error e => (.error e, u) := by
  obtain ⟨logged, hstanding⟩ := run_standing p h
  refine ⟨{ h.remember (.stat p) with logged }, rfl, fun rounds extensive => ?_⟩
  rw [cleanUp_eq, run_run_bind, hstanding]
  rcases standingOf (h.stat p) with _ | _ | _ | _ <;> rfl

theorem cleanUp_extensive (h : ScriptedHost) (p : Path) :
    ∃ xs r t, (cleanUp h.mounts.length p true).run.record answer h = (xs, r, t) ∧
      (∀ more, (cleanUp (h.mounts.length + more) p true).run.run answer h = (r, t)) ∧
      CleanedUp p h xs r t := by
  obtain ⟨u, hu, hrun⟩ := run_cleanUp p h
  have hmounts : u.mounts = h.mounts := by rw [hu, remember]
  have hactions : u.actions = h.actions ++ [.stat p] := by rw [hu, remember]
  have hcleaned := cleaned_record (cleanupCall_cleanUp h.mounts.length p true) h
  have hresult := Plan.record_snd answer (cleanUp h.mounts.length p true).run h
  generalize hrecord : (cleanUp h.mounts.length p true).run.record answer h = record at *
  obtain ⟨xs, r, t⟩ := record
  refine ⟨xs, r, t, rfl, ?_⟩
  rw [hrun] at hresult
  rcases standingOf_cases (h.stat p) with
    ⟨hstat, hknown⟩ | ⟨e, hstat, he, hknown⟩ | ⟨known, hne, hknown, hstat, hcorrupted⟩
  · simp only [hknown, if_true] at hrun hresult
    cases hresult
    refine ⟨fun more => hrun _ _, fun hfalse => ?_, hcleaned, fun _ => ⟨rfl, hactions⟩,
      fun e heq => ?_, fun _ hne => absurd hstat hne, fun _ _ _ => rfl⟩
    · cases hfalse
    · cases hstat.symm.trans heq
  · simp only [hknown] at hrun hresult
    cases hresult
    refine ⟨fun more => hrun _ _, fun hfalse => ?_, hcleaned, fun hgone => ?_, fun e' heq _ => ?_,
      fun hok => ?_, fun _ _ hlooked => ?_⟩
    · cases hfalse
    · cases hstat.symm.trans hgone
    · cases hstat.symm.trans heq
      exact ⟨rfl, hactions⟩
    · cases hok
    · rcases hlooked with hthere | ⟨⟨e', heq, hcorrupted⟩, -⟩
      · cases hstat.symm.trans hthere
      · cases hstat.symm.trans heq
        exact absurd hcorrupted (Bool.eq_false_iff.1 he)
  · simp only [hknown, if_neg hne] at hrun hresult
    have henough : u.mounts.length ≤ h.mounts.length := by rw [hmounts]
    refine ⟨fun more => ?_, ?_, hcleaned, fun hgone => absurd hgone hstat, fun e heq he => ?_,
      fun hok _ => ?_, fun hthere hspelled hlooked => ?_⟩
    · have hmore : u.mounts.length ≤ h.mounts.length + more := by omega
      rw [hrun, hresult, run_run_bind, run_run_bind, run_uncover_of_le hmore henough]
    · exact (congrArg Prod.fst hresult).trans_ne (uncover_removeUncovered_ne_false henough)
    · exact absurd (hcorrupted e heq) (Bool.eq_false_iff.1 he)
    · cases hok
      exact cleanUp_removed hresult.symm
    · rw [← hmounts] at hspelled
      have hstill : u.has p = true := by
        rw [hu]
        exact hthere
      refine (congrArg Prod.fst hresult).trans (cleanUp_succeeds henough hstill hspelled ?_)
      rw [hmounts]
      refine hlooked.imp (fun hpresent => ?_) And.right
      rw [hpresent] at hknown
      cases hknown
      rfl

end Volume

end BlockVolume
