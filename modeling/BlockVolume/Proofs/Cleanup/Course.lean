import BlockVolume.Proofs.LiveHost
import BlockVolume.Proofs.MountTable.Lookup
import BlockVolume.Volume.Mounting

namespace BlockVolume

/-- The second table is what `n` unmounts of a place leave of the first: each takes the last mount
at the place off. -/
inductive Stripped (p : Path) : Nat → List MountEntry → List MountEntry → Prop
  | none (entries : List MountEntry) : Stripped p 0 entries entries
  | last {n : Nat} {before after rest : List MountEntry} {e : MountEntry}
      (hplace : e.mountPoint.same p = true)
      (hlast : ∀ later ∈ after, later.mountPoint.same p = false)
      (others : Stripped p n (before ++ after) rest) :
      Stripped p (n + 1) (before ++ e :: after) rest

theorem Stripped.trans {p : Path} {m n : Nat} {a b c : List MountEntry} (hab : Stripped p m a b)
    (hbc : Stripped p n b c) : Stripped p (m + n) a c := by
  induction hab with
  | none => rwa [Nat.zero_add]
  | last hplace hlast _ ih =>
      rw [Nat.succ_add]
      exact .last hplace hlast (ih hbc)

theorem Stripped.sublist {p : Path} {n : Nat} {a b : List MountEntry} (h : Stripped p n a b) :
    b.Sublist a := by
  induction h with
  | none => exact .refl _
  | @last _ before after _ e _ _ _ ih =>
      exact ih.trans ((List.sublist_cons_self e after).append_left before)

theorem Stripped.countP_eq {p : Path} {n : Nat} {a b : List MountEntry} (h : Stripped p n a b) :
    a.countP (·.mountPoint.same p) = b.countP (·.mountPoint.same p) + n := by
  induction h with
  | none => rfl
  | last hplace _ _ ih =>
      simp only [List.countP_append, List.countP_cons, hplace, if_true] at ih ⊢
      omega

theorem Stripped.length_eq {p : Path} {n : Nat} {a b : List MountEntry} (h : Stripped p n a b) :
    a.length = b.length + n := by
  induction h with
  | none => rfl
  | last _ _ _ ih =>
      simp only [List.length_append, List.length_cons] at ih ⊢
      omega

namespace ScriptedHost

variable {p : Path} {entries rest : List MountEntry}

theorem removeLast_ne_none {e : MountEntry} (he : e ∈ entries)
    (hplace : e.mountPoint.same p = true) : removeLast p entries ≠ none := by
  have hany : entries.any (·.mountPoint.same p) = true := List.any_eq_true.2 ⟨e, he, hplace⟩
  rw [removeLast, if_pos hany]
  exact Option.some_ne_none _

theorem stripped_of_removeLast (h : removeLast p entries = some rest) :
    Stripped p 1 entries rest := by
  rw [removeLast] at h
  split at h
  · next hany =>
      obtain ⟨e, he, hplace⟩ := List.any_eq_true.1 hany
      obtain ⟨found, later, before, hlater, hfound, hsplit, herase⟩ :=
        List.exists_of_eraseP (p := fun e : MountEntry => e.mountPoint.same p)
          (List.mem_reverse.2 he) hplace
      have hentries : entries = before.reverse ++ found :: later.reverse := by
        rw [← List.reverse_reverse entries, hsplit]
        simp
      rw [herase, List.reverse_append, Option.some.injEq] at h
      rw [hentries]
      refine .last hfound (fun x hx => ?_) (h ▸ .none _)
      simpa using hlater x (List.mem_reverse.1 hx)
  · cases h

theorem removeLast_concat {e : MountEntry} (h : e.mountPoint.same p = true)
    (entries : List MountEntry) : removeLast p (entries ++ [e]) = some entries := by
  simp [removeLast, h]

end ScriptedHost

def CleanupCall (p : Path) : HostCall → Prop
  | .pathExists q | .unmount q | .removeDirectory q => q = p
  | .mountEntries | .log _ => True
  | _ => False

def unmounts (xs : List (Plan.Exchange Host)) : Nat :=
  xs.countP fun
    | ⟨.unmount _, .ok ()⟩ => true
    | _ => false

/-- What a cleanup with `n` unmounts may have done between two states: beside its place and the
mounts there, only what the host remembers and logs has changed. -/
structure Cleaned (p : Path) (n : Nat) (s t : ScriptedHost) : Prop where
  mounts : Stripped p n s.mounts t.mounts
  present : ∀ steps, steps ≠ p.components → (steps ∈ t.present ↔ steps ∈ s.present)
  others : t = { s with
    actions := t.actions, logged := t.logged, mounts := t.mounts, present := t.present }

namespace Cleaned

variable {p : Path} {m n : Nat} {s t u : ScriptedHost}

theorem refl (p : Path) (s : ScriptedHost) : Cleaned p 0 s s :=
  ⟨.none _, fun _ _ => Iff.rfl, rfl⟩

theorem trans (hst : Cleaned p m s t) (htu : Cleaned p n t u) : Cleaned p (m + n) s u := by
  refine ⟨hst.mounts.trans htu.mounts, fun steps hsteps => ?_, ?_⟩
  · exact (htu.present steps hsteps).trans (hst.present steps hsteps)
  · have hu := htu.others
    rw [hst.others] at hu
    exact hu

end Cleaned

namespace ScriptedHost

variable {p : Path}

theorem unmount_cases (p : Path) (s : ScriptedHost) :
    (∃ rest, removeLast p s.mounts = some rest ∧ (answer (.unmount p) s).1 = .ok () ∧
        (answer (.unmount p) s).2.mounts = rest) ∨
      removeLast p s.mounts = none ∧ (answer (.unmount p) s).1 = .error (.mountCall .invalid) ∧
        (answer (.unmount p) s).2.mounts = s.mounts := by
  simp only [answer, log, remember]
  cases h : removeLast p s.mounts with
  | none => exact .inr ⟨rfl, rfl, rfl⟩
  | some rest => exact .inl ⟨rest, rfl, rfl, rfl⟩

theorem present_unmount (p : Path) (s : ScriptedHost) :
    (answer (.unmount p) s).2.present = s.present := by
  simp only [answer]
  split <;> rfl

theorem cleaned_unmount (p : Path) (s : ScriptedHost) :
    Cleaned p (unmounts [⟨HostCall.unmount p, (answer (.unmount p) s).1⟩]) s
      (answer (.unmount p) s).2 := by
  have hothers : (answer (.unmount p) s).2 = { s with
      actions := (answer (.unmount p) s).2.actions, logged := (answer (.unmount p) s).2.logged,
      mounts := (answer (.unmount p) s).2.mounts } := by
    simp only [answer]
    split <;> rfl
  have hpresent := present_unmount p s
  rcases unmount_cases p s with ⟨rest, hlast, hreply, hmounts⟩ | ⟨-, hreply, hmounts⟩
  · rw [hreply]
    refine ⟨?_, fun _ _ => by rw [hpresent], by rw [hpresent]; exact hothers⟩
    rw [hmounts]
    exact stripped_of_removeLast hlast
  · rw [hreply]
    refine ⟨?_, fun _ _ => by rw [hpresent], by rw [hpresent]; exact hothers⟩
    rw [hmounts]
    exact .none _

theorem cleaned_removeDirectory (p : Path) (s : ScriptedHost) :
    Cleaned p 0 s (answer (.removeDirectory p) s).2 := by
  simp only [answer]
  split
  · refine ⟨.none _, fun steps hsteps => ?_, rfl⟩
    simp [remember, hsteps]
  · exact ⟨.none _, fun _ _ => Iff.rfl, rfl⟩

theorem cleaned_answer {c : HostCall} (hc : CleanupCall p c) (s : ScriptedHost) :
    Cleaned p (unmounts [⟨c, (answer c s).1⟩]) s (answer c s).2 := by
  cases c with
  | unmount q =>
      obtain rfl : q = p := hc
      exact cleaned_unmount q s
  | removeDirectory q =>
      obtain rfl : q = p := hc
      exact cleaned_removeDirectory q s
  | pathExists | mountEntries | log => exact ⟨.none _, fun _ _ => Iff.rfl, rfl⟩
  | _ => exact hc.elim

theorem cleaned_record {α : Type} {plan : Plan Host α}
    (hp : Plan.Only (I := Host) (CleanupCall p) plan) (s : ScriptedHost) :
    Cleaned p (unmounts (plan.record answer s).1) s (plan.record answer s).2.2 := by
  induction plan generalizing s with
  | done a => exact .refl p s
  | call c next ih =>
      have hfirst := cleaned_answer hp.1 s
      have hrest := ih (answer c s).1 (hp.2 _) (answer c s).2
      have hcount (xs : List (Plan.Exchange Host)) : unmounts (⟨c, (answer c s).1⟩ :: xs) =
          unmounts [⟨c, (answer c s).1⟩] + unmounts xs := by
        rw [unmounts, ← List.singleton_append, List.countP_append]
        rfl
      rw [Plan.record, hcount]
      exact hfirst.trans hrest

end ScriptedHost

namespace Volume

open Operation ScriptedHost

variable {p : Path}

def uncover (rounds : Nat) (p : Path) (extensive : Bool) (s : Standing) : Operation Bool := do
  if ← needsUnmount p s then unmountAll rounds p extensive
  else do
    Operation.log .debug .mounting (p.text ++ " is not a mount point")
    pure true

def removeUncovered (p : Path) : Bool → Operation Bool
  | true => do
    Operation.require (Host.removeDirectory p)
    Operation.log .info .mounting ("Removed mount point " ++ p.text)
    pure true
  | false => pure false

theorem cleanUp_eq (rounds : Nat) (p : Path) (extensive : Bool) :
    cleanUp rounds p extensive = standing p >>= fun s =>
      if s = .absent then pure true
      else uncover rounds p extensive s >>= removeUncovered p := by
  rw [cleanUp]
  congr 1
  funext s
  split
  · rfl
  · have hremove (uncovered : Bool) : (if uncovered then do
          Operation.require (Host.removeDirectory p)
          Operation.log .info .mounting ("Removed mount point " ++ p.text)
          pure uncovered
        else pure uncovered : Operation Bool) = removeUncovered p uncovered := by
      cases uncovered <;> rfl
    rw [uncover, bind_assoc]
    congr 1
    funext needed
    cases needed with
    | false => rfl
    | true => exact congrArg (unmountAll rounds p extensive >>= ·) (funext hremove)

def Uncovering (p : Path) : HostCall → Prop
  | .pathExists q | .unmount q => q = p
  | .mountEntries | .log _ => True
  | _ => False

theorem Uncovering.cleanupCall {c : HostCall} (h : Uncovering p c) : CleanupCall p c := by
  cases c with
  | pathExists | unmount | mountEntries | log => exact h
  | _ => exact h.elim

theorem uncovering_isMounted (p : Path) : Plan.Only (I := Host) (Uncovering p) (isMounted p).run :=
  only_bind (only_require (Host.only_ask trivial)) fun _ => trivial

theorem uncovering_unmount (p : Path) :
    Plan.Only (I := Host) (Uncovering p) (Operation.require (Host.unmount p)).run :=
  only_require (Host.only_ask rfl)

theorem uncovering_standing (p : Path) : Plan.Only (I := Host) (Uncovering p) (standing p).run := by
  refine only_bind (only_attempt (Host.only_ask rfl)) fun there => ?_
  match there with
  | .ok true => trivial
  | .ok false => exact only_bind (only_log (fun _ => trivial) ..) fun _ => trivial
  | .error e =>
      dsimp only
      split
      · exact only_bind (only_log (fun _ => trivial) ..) fun _ => trivial
      · trivial

theorem uncovering_unwind (p : Path) (rounds : Nat) :
    Plan.Only (I := Host) (Uncovering p) (unwind p rounds).run := by
  induction rounds with
  | zero => exact only_bind (uncovering_isMounted p) fun _ => trivial
  | succ rounds ih =>
      refine only_bind (uncovering_isMounted p) fun mounted => ?_
      cases mounted with
      | true =>
          refine only_bind (only_log (fun _ => trivial) ..) fun _ => ?_
          exact only_bind (uncovering_unmount p) fun _ => ih
      | false => trivial

theorem uncovering_uncover (rounds : Nat) (p : Path) (extensive : Bool) (s : Standing) :
    Plan.Only (I := Host) (Uncovering p) (uncover rounds p extensive s).run := by
  have hneeds : Plan.Only (I := Host) (Uncovering p) (needsUnmount p s).run := by
    cases s with
    | corrupted => trivial
    | absent | present => exact uncovering_isMounted p
  refine only_bind hneeds fun needed => ?_
  cases needed with
  | false => exact only_bind (only_log (fun _ => trivial) ..) fun _ => trivial
  | true =>
      refine only_bind (only_log (fun _ => trivial) ..) fun _ => ?_
      refine only_bind (uncovering_unmount p) fun _ => ?_
      cases extensive with
      | true => exact uncovering_unwind p rounds
      | false => trivial

theorem cleanupCall_cleanUp (rounds : Nat) (p : Path) (extensive : Bool) :
    Plan.Only (I := Host) (CleanupCall p) (cleanUp rounds p extensive).run := by
  rw [cleanUp_eq]
  refine only_bind ((uncovering_standing p).mono fun _ => Uncovering.cleanupCall) fun s => ?_
  split
  · trivial
  · refine only_bind ((uncovering_uncover ..).mono fun _ => Uncovering.cleanupCall) fun b => ?_
    cases b with
    | false => trivial
    | true =>
        refine only_bind (only_require (Host.only_ask rfl)) fun _ => ?_
        exact only_bind (only_log (fun _ => trivial) ..) fun _ => trivial

theorem run_isMounted (s : ScriptedHost) :
    (isMounted p).run.run answer s = (.ok (MountTable.isMounted p s.mounts), s) := rfl

def stillMounted (p : Path) : LogRecord :=
  ⟨.info, .mounting, p.text ++ " still mounted, unmounting again"⟩

/-- The loop of unmounts, run until nothing is mounted at the place or an unmount fails. -/
inductive Unwinds (p : Path) : ScriptedHost → Except VolumeError Bool → ScriptedHost → Prop
  | clear {s : ScriptedHost} (h : MountTable.isMounted p s.mounts = false) :
      Unwinds p s (.ok true) s
  | refused {s t : ScriptedHost} {e : HostError} (h : MountTable.isMounted p s.mounts = true)
      (hunmount : answer (.unmount p) (s.log (stillMounted p)) = (.error e, t)) :
      Unwinds p s (.error (.host e)) t
  | again {s t u : ScriptedHost} {r : Except VolumeError Bool}
      (h : MountTable.isMounted p s.mounts = true)
      (hunmount : answer (.unmount p) (s.log (stillMounted p)) = (.ok (), t))
      (rest : Unwinds p t r u) : Unwinds p s r u

theorem Unwinds.unique {s t u : ScriptedHost} {q r : Except VolumeError Bool}
    (ht : Unwinds p s q t) (hu : Unwinds p s r u) : q = r ∧ t = u := by
  induction ht with
  | clear h =>
      cases hu with
      | clear => exact ⟨rfl, rfl⟩
      | refused h' | again h' => exact absurd (h.symm.trans h') Bool.false_ne_true
  | refused h hunmount =>
      cases hu with
      | clear h' => exact absurd (h'.symm.trans h) Bool.false_ne_true
      | refused _ hunmount' =>
          cases hunmount.symm.trans hunmount'
          exact ⟨rfl, rfl⟩
      | again _ hunmount' => cases hunmount.symm.trans hunmount'
  | again h hunmount _ ih =>
      cases hu with
      | clear h' => exact absurd (h'.symm.trans h) Bool.false_ne_true
      | refused _ hunmount' => cases hunmount.symm.trans hunmount'
      | again _ hunmount' rest =>
          cases hunmount.symm.trans hunmount'
          exact ih rest

theorem Unwinds.ok {s t : ScriptedHost} {b : Bool} (h : Unwinds p s (.ok b) t) :
    b = true ∧ MountTable.isMounted p t.mounts = false := by
  generalize hr : (.ok b : Except VolumeError Bool) = r at h
  induction h with
  | clear h =>
      cases hr
      exact ⟨rfl, h⟩
  | refused => cases hr
  | again _ _ _ ih => exact ih hr

theorem run_unmount (s : ScriptedHost) :
    (Operation.require (Host.unmount p)).run.run answer s =
      ((answer (.unmount p) s).1.mapError .host, (answer (.unmount p) s).2) := rfl

theorem run_unwind_succ (rounds : Nat) (s : ScriptedHost) :
    (unwind p (rounds + 1)).run.run answer s =
      if MountTable.isMounted p s.mounts then
        match answer (.unmount p) (s.log (stillMounted p)) with
        | (.ok (), t) => (unwind p rounds).run.run answer t
        | (.error e, t) => (.error (.host e), t)
      else (.ok true, s) := by
  have hlog : (Operation.log .info .mounting
      (p.text ++ " still mounted, unmounting again")).run.run answer s =
      (.ok (), s.log (stillMounted p)) := rfl
  rw [unwind, run_run_bind, run_isMounted]
  cases MountTable.isMounted p s.mounts with
  | false => rfl
  | true =>
      simp only [if_true, run_run_bind, hlog, run_unmount]
      rcases answer (.unmount p) (s.log (stillMounted p)) with ⟨_ | _, t⟩ <;> rfl

theorem unwinds_of_run {rounds : Nat} {s t : ScriptedHost} {r : Except VolumeError Bool}
    (h : (unwind p rounds).run.run answer s = (r, t)) (hne : r ≠ .ok false) : Unwinds p s r t := by
  induction rounds generalizing s with
  | zero =>
      have hrun : (.ok (!MountTable.isMounted p s.mounts), s) = (r, t) := h
      cases hm : MountTable.isMounted p s.mounts with
      | false =>
          rw [hm] at hrun
          cases hrun
          exact .clear hm
      | true =>
          rw [hm] at hrun
          cases hrun
          exact absurd rfl hne
  | succ rounds ih =>
      rw [run_unwind_succ] at h
      split at h
      · next hm =>
          rcases hu : answer (.unmount p) (s.log (stillMounted p)) with ⟨e | ⟨⟩, u⟩
          · rw [hu] at h
            cases h
            exact .refused hm hu
          · rw [hu] at h
            exact .again hm hu (ih h)
      · next hm =>
          cases h
          exact .clear (by simpa using hm)

theorem unmount_ok {s t : ScriptedHost} {r : LogRecord}
    (h : answer (.unmount p) (s.log r) = (.ok (), t)) :
    removeLast p s.mounts = some t.mounts := by
  rcases (s.log r).unmount_cases p with ⟨rest, hlast, -, hmounts⟩ | ⟨-, hreply, -⟩
  · rw [h] at hmounts
    exact hmounts ▸ hlast
  · rw [h] at hreply
    cases hreply

/-- Every mount that is found at the place can be unmounted there. -/
def Spelled (p : Path) (entries : List MountEntry) : Prop :=
  ∀ e ∈ entries, e.mountPoint.SpelledAs p → e.mountPoint.same p = true

theorem Spelled.exists_same {entries : List MountEntry} (h : Spelled p entries)
    (hmounted : MountTable.isMounted p entries = true) :
    ∃ e ∈ entries, e.mountPoint.same p = true := by
  obtain ⟨e, hfind⟩ := Option.isSome_iff_exists.1 hmounted
  have hlast := MountTable.find_eq_some_iff.1 hfind
  exact ⟨e, hlast.mem, h e hlast.mem hlast.here⟩

theorem unmount_of_same {s : ScriptedHost} {e : MountEntry} (r : LogRecord) (he : e ∈ s.mounts)
    (hplace : e.mountPoint.same p = true) :
    ∃ t, answer (.unmount p) (s.log r) = (.ok (), t) := by
  rcases (s.log r).unmount_cases p with ⟨rest, -, hreply, -⟩ | ⟨hnone, -, -⟩
  · exact ⟨_, Prod.ext hreply rfl⟩
  · exact absurd hnone (removeLast_ne_none he hplace)

theorem Unwinds.ok_of_spelled {s t : ScriptedHost} {r : Except VolumeError Bool}
    (h : Unwinds p s r t) (hspelled : Spelled p s.mounts) :
    r = .ok true ∧ t.present = s.present := by
  induction h with
  | clear => exact ⟨rfl, rfl⟩
  | refused h hunmount =>
      obtain ⟨e, he, hplace⟩ := hspelled.exists_same h
      obtain ⟨t, ht⟩ := unmount_of_same (stillMounted p) he hplace
      cases hunmount.symm.trans ht
  | @again s t u r h hunmount rest ih =>
      have hleft := (stripped_of_removeLast (unmount_ok hunmount)).sublist
      have hpresent := present_unmount p (s.log (stillMounted p))
      rw [hunmount] at hpresent
      obtain ⟨hok, hkept⟩ := ih fun e he => hspelled e (hleft.subset he)
      exact ⟨hok, hkept.trans hpresent⟩

/-- As many rounds as there are mounts are enough for the loop to come to its end. -/
theorem unwind_ne_false {rounds : Nat} {s : ScriptedHost} (h : s.mounts.length ≤ rounds) :
    ((unwind p rounds).run.run answer s).1 ≠ .ok false := by
  induction rounds generalizing s with
  | zero =>
      have hnil : s.mounts = [] := List.length_eq_zero_iff.1 (Nat.le_zero.1 h)
      have hrun : (unwind p 0).run.run answer s =
          (.ok (!MountTable.isMounted p s.mounts), s) := rfl
      rw [hrun, hnil]
      nofun
  | succ rounds ih =>
      rw [run_unwind_succ]
      split
      · rcases hu : answer (.unmount p) (s.log (stillMounted p)) with ⟨e | ⟨⟩, t⟩
        · nofun
        · have hlength := (stripped_of_removeLast (unmount_ok hu)).length_eq
          exact ih (by omega)
      · nofun

theorem unwinds_unwind {rounds : Nat} {s : ScriptedHost} (h : s.mounts.length ≤ rounds) :
    Unwinds p s ((unwind p rounds).run.run answer s).1 ((unwind p rounds).run.run answer s).2 :=
  unwinds_of_run rfl (unwind_ne_false h)

def standingOf : Except HostError Bool → Except VolumeError Standing
  | .ok true => .ok .present
  | .ok false => .ok .absent
  | .error e => if e.isCorruptedMount then .ok .corrupted else .error (.host e)

theorem run_standing (p : Path) (s : ScriptedHost) :
    ∃ logged, (standing p).run.run answer s =
      (standingOf (s.stat p), { s.remember (.stat p) with logged }) := by
  have hstat : (Operation.attempt (Host.pathExists p)).run.run answer s =
      (.ok (s.stat p), s.remember (.stat p)) := rfl
  rw [standing, run_run_bind, hstat]
  rcases s.stat p with e | _ | _
  · by_cases he : e.isCorruptedMount = true
    · simp only [standingOf, he, if_true]
      exact ⟨_, rfl⟩
    · simp only [standingOf, if_neg he]
      exact ⟨_, rfl⟩
  · exact ⟨_, rfl⟩
  · exact ⟨_, rfl⟩

def unmounting (p : Path) : LogRecord := ⟨.info, .mounting, "Unmounting " ++ p.text⟩

def needed (p : Path) (entries : List MountEntry) : Standing → Bool
  | .corrupted => true
  | _ => MountTable.isMounted p entries

theorem run_uncover (rounds : Nat) (extensive : Bool) (known : Standing) (s : ScriptedHost) :
    (uncover rounds p extensive known).run.run answer s =
      if needed p s.mounts known then
        match answer (.unmount p) (s.log (unmounting p)) with
        | (.ok (), t) => if extensive then (unwind p rounds).run.run answer t else (.ok true, t)
        | (.error e, t) => (.error (.host e), t)
      else (.ok true, s.log ⟨.debug, .mounting, p.text ++ " is not a mount point"⟩) := by
  have hneeds : (needsUnmount p known).run.run answer s = (.ok (needed p s.mounts known), s) := by
    cases known <;> rfl
  have hlog : (Operation.log .info .mounting ("Unmounting " ++ p.text)).run.run answer s =
      (.ok (), s.log (unmounting p)) := rfl
  rw [uncover, run_run_bind, hneeds]
  cases needed p s.mounts known with
  | false => rfl
  | true =>
      simp only [if_true, unmountAll, run_run_bind, hlog, run_unmount]
      rcases answer (.unmount p) (s.log (unmounting p)) with ⟨_ | _, t⟩
      · rfl
      · cases extensive <;> rfl

theorem run_removeUncovered (s : ScriptedHost) :
    (removeUncovered p true).run.run answer s =
      match answer (.removeDirectory p) s with
      | (.ok (), t) => (.ok true, t.log ⟨.info, .mounting, "Removed mount point " ++ p.text⟩)
      | (.error e, t) => (.error (.host e), t) := by
  have hremove : (Operation.require (Host.removeDirectory p)).run.run answer s =
      ((answer (.removeDirectory p) s).1.mapError .host, (answer (.removeDirectory p) s).2) := rfl
  rw [removeUncovered, run_run_bind, hremove]
  rcases answer (.removeDirectory p) s with ⟨_ | _, t⟩ <;> rfl

end Volume

end BlockVolume
