import BlockVolume.Proofs.DiskSafety

namespace BlockVolume

def failed? {α : Type} : Except HostError α → Option HostError
  | .ok _ => none
  | .error e => some e

def HostCall.failure? : (c : HostCall) → c.Reply → Option HostError
  | .pathExists _, reply => failed? reply
  | .listDirectory _, reply => failed? reply
  | .writeFile .., reply => failed? reply
  | .createDirectories _, reply => failed? reply
  | .createFile _, reply => failed? reply
  | .removeDirectory _, reply => failed? reply
  | .runProgram .., reply => failed? reply
  | .requireProgram .., reply => failed? reply
  | .sleep .., _ => none
  | .isCancelled _, _ => none
  | .mount .., reply => failed? reply
  | .unmount _, reply => failed? reply
  | .mountEntries, reply => failed? reply
  | .probe _, reply => failed? reply
  | .makeFilesystem .., reply => failed? reply
  | .checkFilesystem _, reply => failed? reply
  | .growOnDisk _, reply => failed? reply
  | .growMounted _, reply => failed? reply
  | .log _, _ => none

def failure? (x : Plan.Exchange Host) : Option HostError := x.1.failure? x.2

def Untroubled (spares : Plan.Exchange Host → Prop) (xs : List (Plan.Exchange Host)) : Prop :=
  ∀ x ∈ xs, failure? x ≠ none → spares x

variable {α β : Type} {spares : Plan.Exchange Host → Prop}

theorem untroubled_nil : Untroubled spares [] :=
  fun _ hx => absurd hx List.not_mem_nil

theorem untroubled_singleton {x : Plan.Exchange Host} (h : failure? x ≠ none → spares x) :
    Untroubled spares [x] := by
  intro y hy
  rwa [List.mem_singleton.1 hy]

theorem Untroubled.append {xs ys : List (Plan.Exchange Host)} (hx : Untroubled spares xs)
    (hy : Untroubled spares ys) : Untroubled spares (xs ++ ys) :=
  List.forall_mem_append.2 ⟨hx, hy⟩

/-- Either nothing failed but what may, and the result is no failure of the host, or the result is
the last exchange's failure, which may not be spared and is the only one of its kind. -/
inductive Orderly (spares : Plan.Exchange Host → Prop) :
    List (Plan.Exchange Host) → Except VolumeError α → Prop
  | smooth {xs r} (untroubled : Untroubled spares xs) (own : ∀ e, r ≠ .error (.host e)) :
      Orderly spares xs r
  | stopped {xs x e} (untroubled : Untroubled spares xs) (fails : failure? x = some e)
      (unspared : ¬ spares x) : Orderly spares (xs ++ [x]) (.error (.host e))

theorem Orderly.at_once {x : Plan.Exchange Host} {e : HostError} (fails : failure? x = some e)
    (unspared : ¬ spares x) : Orderly spares [x] (.error (.host e) : Except VolumeError α) := by
  rw [← List.nil_append [x]]
  exact .stopped untroubled_nil fails unspared

theorem Orderly.append {xs ys : List (Plan.Exchange Host)} {r : Except VolumeError α}
    (hy : Orderly spares ys r) (hx : Untroubled spares xs) : Orderly spares (xs ++ ys) r := by
  cases hy with
  | smooth untroubled own => exact .smooth (hx.append untroubled) own
  | stopped untroubled fails unspared =>
      rw [← List.append_assoc]
      exact .stopped (hx.append untroubled) fails unspared

theorem Orderly.first {xs before after : List (Plan.Exchange Host)} {x : Plan.Exchange Host}
    {r : Except VolumeError α} {e : HostError} (h : Orderly spares xs r)
    (hx : xs = before ++ x :: after) (fails : failure? x = some e) (unspared : ¬ spares x) :
    after = [] ∧ r = .error (.host e) := by
  have hfail : failure? x ≠ none := by simp [fails]
  cases h with
  | smooth untroubled own => exact absurd (untroubled x (by simp [hx]) hfail) unspared
  | @stopped ys y f untroubled fails' unspared' =>
      -- among the untroubled exchanges there is no such `x`, so it is the last of all
      rcases List.eq_nil_or_concat after with rfl | ⟨init, last, rfl⟩
      · obtain ⟨-, hxy⟩ := List.append_inj' hx rfl
        obtain ⟨rfl, -⟩ := List.cons.inj hxy
        obtain rfl : f = e := Option.some.inj (fails'.symm.trans fails)
        exact ⟨rfl, rfl⟩
      · rw [List.concat_eq_append, ← List.cons_append, ← List.append_assoc] at hx
        obtain ⟨rfl, -⟩ := List.append_inj' hx rfl
        exact absurd (untroubled x (by simp) hfail) unspared

theorem Orderly.last {xs : List (Plan.Exchange Host)} {e : HostError}
    (h : Orderly spares xs (.error (.host e) : Except VolumeError α)) :
    ∃ before x, xs = before ++ [x] ∧ failure? x = some e ∧ ¬ spares x := by
  cases h with
  | smooth untroubled own => exact absurd rfl (own e)
  | stopped untroubled fails unspared => exact ⟨_, _, rfl, fails, unspared⟩

def FailsFast (spares : Plan.Exchange Host → Prop) (x : Operation α) : Prop :=
  ∀ xs r, x.run.Transcript xs r → Orderly spares xs r

namespace FailsFast

open Operation

theorem pure (a : α) : FailsFast spares (Pure.pure a : Operation α) := by
  intro xs r h
  cases h
  exact .smooth untroubled_nil nofun

theorem throw {e : VolumeError} (he : ∀ f, e ≠ .host f) :
    FailsFast spares (MonadExcept.throw e : Operation α) := by
  intro xs r h
  cases h
  refine .smooth untroubled_nil fun f hf => ?_
  cases hf
  exact he f rfl

theorem bind {x : Operation α} {f : α → Operation β} (hx : FailsFast spares x)
    (hf : ∀ a, FailsFast spares (f a)) : FailsFast spares (x >>= f) := by
  intro zs r h
  obtain ⟨e, hx', rfl⟩ | ⟨xs, a, ys, hx', hy, rfl⟩ := transcript_bind_cases h
  · cases hx zs _ hx' with
    | smooth untroubled own => exact .smooth untroubled fun f hf => own f (by cases hf; rfl)
    | stopped untroubled fails unspared => exact .stopped untroubled fails unspared
  · cases hx xs _ hx' with
    | smooth untroubled own => exact (hf a ys r hy).append untroubled

theorem attempt {request : Plan Host α}
    (h : ∀ xs a, request.Transcript xs a → Untroubled spares xs) :
    FailsFast spares (Operation.attempt request) := by
  intro xs r hr
  rw [run_attempt] at hr
  obtain ⟨ys, a, zs, hy, hz, rfl⟩ := hr.bind_cases
  cases hz
  rw [List.append_nil]
  exact .smooth (h ys a hy) (by simp)

theorem log (level : LogLevel) (origin : LogOrigin) (message : String) :
    FailsFast spares (Operation.log level origin message) := by
  refine attempt fun xs a h => ?_
  obtain rfl := Host.transcript_ask h
  exact fun x hx hfail => absurd (by rw [List.mem_singleton.1 hx]; rfl) hfail

theorem require {request : Plan Host (Except HostError α)}
    (h : ∀ xs q, request.Transcript xs q →
      ∃ x, xs = [x] ∧ failure? x = failed? q ∧ (failure? x ≠ none → ¬ spares x)) :
    FailsFast spares (Operation.require request) := by
  intro xs r hr
  rw [run_require] at hr
  obtain ⟨ys, q, zs, hy, hz, rfl⟩ := hr.bind_cases
  obtain ⟨x, rfl, hx, hspares⟩ := h ys q hy
  cases hz
  cases q with
  | ok a =>
      refine .smooth (fun y hy hfail => ?_) fun e he => by cases he
      rw [List.append_nil, List.mem_singleton] at hy
      exact absurd (hy ▸ hx) hfail
  | error e =>
      have hfails : failure? x = some e := hx
      exact .at_once hfails (hspares (by simp [hfails]))

end FailsFast

namespace Volume

open Operation

/-- What a cleanup goes on with: the mount at its place is broken. -/
def Broken (p : Path) : Plan.Exchange Host → Prop
  | ⟨.pathExists q, reply⟩ => q = p ∧ ∃ e, reply = .error e ∧ e.isCorruptedMount = true
  | _ => False

theorem failsFast_checkBeforeMount (device : Path) :
    FailsFast (fun _ => False) (checkBeforeMount device) := by
  refine .bind ?_ fun outcome => ?_
  · exact .require fun _ _ h => ⟨_, Host.transcript_ask h, rfl, fun _ => id⟩
  cases outcome with
  | clean => exact .pure ()
  | corrected => exact .log _ _ _
  | uncorrected => exact .throw (by simp)
  | failed code => exact .log _ _ _

theorem failsFast_prepare (device : Path) (fstype : String) (options : MountOptions)
    (content : DiskContent) :
    FailsFast (fun _ => False) (prepare device fstype options content) := by
  cases content with
  | blank =>
      simp only [prepare]
      split
      · exact .throw (by simp)
      · split
        · exact .throw (by simp)
        · refine .bind (.log _ _ _) fun _ => .bind ?_ fun _ => .pure _
          exact .require fun _ _ h => ⟨_, Host.transcript_ask h, rfl, fun _ => id⟩
  | filesystem held =>
      have hnote {p : Prop} [Decidable p] {level : LogLevel} {origin : LogOrigin}
          {message : String} : FailsFast (fun _ => False)
            (if p then Operation.log level origin message >>= fun _ => pure held
              else pure held) := by
        split
        · exact .bind (.log _ _ _) fun _ => .pure held
        · exact .pure held
      simp only [prepare]
      split
      · exact .bind (failsFast_checkBeforeMount device) fun _ => hnote
      · exact hnote
  | partitionTable kind => exact .throw (by simp)

theorem failsFast_formatAndMount (config : Config) (device target : Path) (fstype : String)
    (options : MountOptions) :
    FailsFast (fun _ => False) (formatAndMount config device target fstype options) := by
  refine .bind ?_ fun content => ?_
  · exact .require fun _ _ h => ⟨_, Host.transcript_ask h, rfl, fun _ => id⟩
  refine .bind (failsFast_prepare _ _ _ _) fun held => .bind (.log _ _ _) fun _ => ?_
  exact .require fun _ _ h => ⟨_, Host.transcript_ask h, rfl, fun _ => id⟩

theorem failsFast_deviceAt (p : Path) : FailsFast (fun _ => False) (deviceAt p) := by
  refine .bind ?_ fun entries => ?_
  · exact .require fun _ _ h => ⟨_, Host.transcript_ask h, rfl, fun _ => id⟩
  split <;> exact .pure _

theorem failsFast_grow (device mountPath : Path) :
    FailsFast (fun _ => False) (grow device mountPath) := by
  refine .bind ?_ fun content => ?_
  · exact .require fun _ _ h => ⟨_, Host.transcript_ask h, rfl, fun _ => id⟩
  cases content with
  | filesystem held =>
      dsimp only
      split
      · refine .bind (.log _ _ _) fun _ => ?_
        exact .require fun _ _ h => ⟨_, Host.transcript_ask h, rfl, fun _ => id⟩
      · split
        · refine .bind (.log _ _ _) fun _ => ?_
          exact .require fun _ _ h => ⟨_, Host.transcript_ask h, rfl, fun _ => id⟩
        · exact .throw (by simp)
  | blank | partitionTable => exact .throw (by simp)

theorem failsFast_isMounted (p q : Path) : FailsFast (Broken q) (isMounted p) :=
  .bind (.require fun _ _ h => ⟨_, Host.transcript_ask h, rfl, fun _ => id⟩) fun _ => .pure _

theorem failsFast_standing (p : Path) : FailsFast (Broken p) (standing p) := by
  intro zs r h
  rw [standing, run_attempt_bind] at h
  obtain ⟨reply, ys, hys, rfl⟩ := Host.transcript_ask_bind (.pathExists p) h
  rcases reply with e | _ | _
  case ok.true =>
    cases hys
    exact .smooth (untroubled_singleton fun hfail => absurd rfl hfail) (by simp)
  case ok.false =>
    have hrest : FailsFast (Broken p) (do
        Operation.log .debug .mounting (p.text ++ " does not exist, nothing to clean up")
        pure Standing.absent) := .bind (.log _ _ _) fun _ => .pure _
    exact (hrest ys r hys).append (untroubled_singleton fun hfail => absurd rfl hfail)
  case error =>
    -- here alone a failure is gone on from
    dsimp only at hys
    split at hys
    · next hbroken =>
        have hrest : FailsFast (Broken p) (do
            Operation.log .warn .mounting
              ("Mount point " ++ p.text ++ " is corrupted (" ++ e.message ++ "), unmounting")
            pure Standing.corrupted) := .bind (.log _ _ _) fun _ => .pure _
        have hspared : Broken p ⟨HostCall.pathExists p, .error e⟩ := ⟨rfl, e, rfl, hbroken⟩
        exact (hrest ys r hys).append (untroubled_singleton fun _ => hspared)
    · next hwhole =>
        cases hys
        refine .at_once rfl ?_
        rintro ⟨-, f, hf, hbroken⟩
        cases hf
        exact hwhole hbroken

theorem failsFast_unwind (p q : Path) (rounds : Nat) : FailsFast (Broken q) (unwind p rounds) := by
  induction rounds with
  | zero => exact .bind (failsFast_isMounted p q) fun _ => .pure _
  | succ rounds ih =>
      refine .bind (failsFast_isMounted p q) fun mounted => ?_
      cases mounted with
      | true =>
          refine .bind (.log _ _ _) fun _ => .bind ?_ fun _ => ih
          exact .require fun _ _ h => ⟨_, Host.transcript_ask h, rfl, fun _ => id⟩
      | false => exact .pure true

theorem failsFast_unmountAll (rounds : Nat) (p q : Path) (extensive : Bool) :
    FailsFast (Broken q) (unmountAll rounds p extensive) := by
  refine .bind (.log _ _ _) fun _ => .bind ?_ fun _ => ?_
  · exact .require fun _ _ h => ⟨_, Host.transcript_ask h, rfl, fun _ => id⟩
  · cases extensive with
    | true => exact failsFast_unwind p q rounds
    | false => exact .pure true

theorem failsFast_cleanUp (rounds : Nat) (p : Path) (extensive : Bool) :
    FailsFast (Broken p) (cleanUp rounds p extensive) := by
  rw [cleanUp_eq]
  refine .bind (failsFast_standing p) fun there => ?_
  split
  · exact .pure true
  · have huncover : FailsFast (Broken p) (uncover rounds p extensive there) := by
      have hneeds : FailsFast (Broken p) (needsUnmount p there) := by
        cases there with
        | corrupted => exact .pure true
        | absent | present => exact failsFast_isMounted p p
      refine .bind hneeds fun needed => ?_
      cases needed with
      | true => exact failsFast_unmountAll rounds p p extensive
      | false => exact .bind (.log _ _ _) fun _ => .pure true
    refine .bind huncover fun uncovered => ?_
    cases uncovered with
    | false => exact .pure false
    | true =>
        refine .bind ?_ fun _ => .bind (.log _ _ _) fun _ => .pure true
        exact .require fun _ _ h => ⟨_, Host.transcript_ask h, rfl, fun _ => id⟩

section

variable (config : Config) (token : CancelToken)

abbrev OfRescan (x : Plan.Exchange Host) : Prop := RescanStep config x.1

theorem failsFast_rescan : FailsFast (OfRescan config) (Operation.attempt (rescan config token)) :=
  .attempt fun _ _ h x hx _ => (rescanStep_rescan config token).transcript h x hx

theorem failsFast_giveUp (volume reason : String) :
    FailsFast (OfRescan config) (giveUp volume reason : Operation α) :=
  .bind (.log _ _ _) fun _ => .throw (by simp)

theorem failsFast_firstPresent (ps : List Path) :
    FailsFast (OfRescan config) (firstPresent ps) := by
  induction ps with
  | nil => exact .pure none
  | cons p ps ih =>
      refine .bind ?_ fun there => ?_
      · exact .require fun _ _ h => ⟨_, Host.transcript_ask h, rfl, fun _ => id⟩
      cases there with
      | true => exact .pure _
      | false => exact ih

theorem failsFast_attempt_ask {c : HostCall} (h : ∀ reply, failure? ⟨c, reply⟩ = none) :
    FailsFast spares (Operation.attempt (Host.ask c)) := by
  refine .attempt fun xs reply hx => ?_
  obtain rfl := Host.transcript_ask hx
  exact untroubled_singleton fun hfail => absurd (h reply) hfail

theorem failsFast_tryOnce (volume : String) (made : Nat) :
    FailsFast (OfRescan config) (tryOnce token volume made) := by
  refine .bind (failsFast_attempt_ask fun _ => rfl) fun cancelled => ?_
  cases cancelled with
  | true => exact failsFast_giveUp config volume _
  | false => exact failsFast_firstPresent config _

theorem failsFast_pause (volume : String) (delay : Duration) :
    FailsFast (OfRescan config) (pause config token volume delay) := by
  refine .bind (failsFast_rescan config token) fun _ => .bind (.log _ _ _) fun _ => ?_
  refine .bind (failsFast_attempt_ask fun _ => rfl) fun outcome => ?_
  cases outcome with
  | elapsed => exact .pure ()
  | cancelled => exact failsFast_giveUp config volume _

theorem failsFast_awaitDevice (volume : String) (made : Nat) (delays : List Duration) :
    FailsFast (OfRescan config) (awaitDevice config token volume made delays) := by
  induction delays generalizing made with
  | nil =>
      refine .bind (failsFast_tryOnce config token volume made) fun found => ?_
      cases found with
      | some device => exact .pure device
      | none => exact failsFast_giveUp config volume _
  | cons delay later ih =>
      refine .bind (failsFast_tryOnce config token volume made) fun found => ?_
      cases found with
      | some device => exact .pure device
      | none => exact .bind (failsFast_pause config token volume delay) fun _ => ih (made + 1)

theorem failsFast_findDevice (volume : String) :
    FailsFast (OfRescan config) (findDevice config token volume) := by
  refine .bind (.log _ _ _) fun _ => ?_
  refine .bind (failsFast_awaitDevice config token volume 0 _) fun device => ?_
  have hreport : FailsFast (OfRescan config) (do
      Operation.log .info .lookup
        ("Found device " ++ device.text ++ " for volume " ++ Text.Quoted.encode volume)
      pure device) := .bind (.log _ _ _) fun _ => .pure device
  dsimp only
  split
  · exact .bind (.throw (by simp)) fun _ => hreport
  · exact hreport

end

end Volume

namespace VolumeRequest

def Result : VolumeRequest → Type
  | findDevice .. => Path
  | isPresent _ | cleanUp .. => Bool
  | deviceAt _ => String × Nat
  | rescan .. | makeDirectory _ | makeFile _ | formatAndMount .. | grow .. => Unit

def operation : (r : VolumeRequest) → Operation r.Result
  | findDevice config token volume => Volume.findDevice config token volume
  | rescan config token => Operation.attempt (Volume.rescan config token)
  | makeDirectory p => Volume.makeDirectory p
  | makeFile p => Volume.makeFile p
  | isPresent p => Volume.isPresent p
  | formatAndMount config device target fstype options =>
    Volume.formatAndMount config device target fstype options
  | deviceAt p => Volume.deviceAt p
  | grow device mountPath => Volume.grow device mountPath
  | cleanUp rounds p extensive => Volume.cleanUp rounds p extensive

/-- The failures with which a request goes on: those in a rescan, and the one that says that the
mount to be cleaned up is broken. -/
def Spares : VolumeRequest → Plan.Exchange Host → Prop
  | findDevice config .. | rescan config _ => Volume.OfRescan config
  | cleanUp _ p _ => Volume.Broken p
  | _ => fun _ => False

theorem failsFast (r : VolumeRequest) : FailsFast r.Spares r.operation := by
  cases r with
  | findDevice config token volume => exact Volume.failsFast_findDevice config token volume
  | rescan config token => exact Volume.failsFast_rescan config token
  | makeDirectory p | makeFile p | isPresent p =>
      exact .require fun _ _ h => ⟨_, Host.transcript_ask h, rfl, fun _ => id⟩
  | formatAndMount => exact Volume.failsFast_formatAndMount _ _ _ _ _
  | deviceAt p => exact Volume.failsFast_deviceAt p
  | grow device mountPath => exact Volume.failsFast_grow device mountPath
  | cleanUp rounds p extensive => exact Volume.failsFast_cleanUp rounds p extensive

end VolumeRequest

def Mounts (x : Plan.Exchange Host) : Prop :=
  ∃ device target fstype options, x = ⟨HostCall.mount device target fstype options, .ok ()⟩

namespace Volume

theorem Prepared.not_mounts {device : Path} {fstype : String} {options : MountOptions}
    {content : DiskContent} {xs : List (Plan.Exchange Host)} {r : Except VolumeError String}
    (h : Prepared device fstype options content xs r) : ∀ x ∈ xs, ¬ Mounts x := by
  intro x hx
  cases h with
  | readOnly | unsupported | unchecked | partitioned => cases hx
  | formatted | checked =>
      obtain rfl := List.mem_singleton.1 hx
      rintro ⟨_, _, _, _, hmount⟩
      cases hmount

theorem MountCourse.mounts {device target : Path} {fstype : String} {options : MountOptions}
    {xs : List (Plan.Exchange Host)} {r : Except VolumeError Unit}
    (h : MountCourse device target fstype options xs r) :
    r = .ok () ∧ (∃ held, mounted device target held options (.ok ()) ∈ xs) ∨
      r ≠ .ok () ∧ ∀ x ∈ xs, ¬ Mounts x := by
  have hprobed (reply : Except HostError DiskContent) : ¬ Mounts (probed device reply) := by
    rintro ⟨_, _, _, _, hx⟩
    cases hx
  cases h with
  | unknown e => exact .inr ⟨nofun, fun x hx => by rw [List.mem_singleton.1 hx]; exact hprobed _⟩
  | unready prepared => exact .inr ⟨nofun, List.forall_mem_cons.2 ⟨hprobed _, prepared.not_mounts⟩⟩
  | @ready content xs held prepared reply =>
      cases reply with
      | ok _ => exact .inl ⟨rfl, held, by simp⟩
      | error e =>
          refine .inr ⟨nofun, List.forall_mem_cons.2 ⟨hprobed _, ?_⟩⟩
          refine List.forall_mem_append.2 ⟨prepared.not_mounts, fun x hx => ?_⟩
          rintro ⟨_, _, _, _, rfl⟩
          cases List.mem_singleton.1 hx

theorem formatAndMount_mounts {config : Config} {device target : Path} {fstype : String}
    {options : MountOptions} {xs : List (Plan.Exchange Host)} {r : Except VolumeError Unit}
    (h : (formatAndMount config device target fstype options).run.Transcript xs r) :
    r = .ok () ∧ (∃ held, mounted device target held options (.ok ()) ∈ xs) ∨
      r ≠ .ok () ∧ ∀ x ∈ xs, ¬ Mounts x := by
  rcases (formatAndMount_transcript h).mounts with ⟨hr, held, hmem⟩ | ⟨hr, hnone⟩
  · exact .inl ⟨hr, held, (List.mem_filter.1 hmem).1⟩
  · refine .inr ⟨hr, fun x hx hmounts => hnone x (List.mem_filter.2 ⟨hx, ?_⟩) hmounts⟩
    obtain ⟨_, _, _, _, rfl⟩ := hmounts
    rfl

end Volume

theorem ScriptedHost.mounts_answer {c : HostCall} {s : ScriptedHost}
    (h : ¬ Mounts ⟨c, (answer c s).1⟩) : (answer c s).2.mounts.Sublist s.mounts := by
  cases c with
  | mount device target fstype options => exact absurd ⟨_, _, _, _, rfl⟩ h
  | unmount target =>
      rcases s.unmount_cases target with ⟨rest, hlast, -, hmounts⟩ | ⟨-, -, hmounts⟩
      · rw [hmounts]
        exact (stripped_of_removeLast hlast).sublist
      · exact hmounts ▸ .refl _
  | sleep d token =>
      obtain ⟨signals, -, ⟨hsleep, -⟩ | ⟨hsleep, -⟩⟩ := s.sleep_cases d token
      all_goals
        simp only [answer, hsleep]
        exact .refl _
  | writeFile | removeDirectory => simp only [answer]; split <;> exact .refl _
  | createDirectories p => simp only [answer, foldl_add]; exact .refl _
  | _ => exact .refl _

/-- What every exchange of a kind keeps between the states before and after it, a run of such
exchanges keeps. -/
theorem Plan.record_relates {I : Interface} {α σ : Type} {handle : Handler I σ}
    {Q : Exchange I → Prop} {R : σ → σ → Prop} (hrefl : ∀ s, R s s)
    (htrans : ∀ s t u, R s t → R t u → R s u)
    (hstep : ∀ c s, Q ⟨c, (handle c s).1⟩ → R s (handle c s).2) (p : Plan I α) (s : σ)
    (hp : ∀ x ∈ (p.record handle s).1, Q x) : R s (p.record handle s).2.2 := by
  induction p generalizing s with
  | done a => exact hrefl s
  | call c next ih =>
      obtain ⟨hfirst, hrest⟩ := List.forall_mem_cons.1 hp
      exact htrans _ _ _ (hstep c s hfirst) (ih _ _ hrest)

theorem LiveHost.mounts_answer {c : HostCall} {s : LiveHost}
    (h : ¬ Mounts ⟨c, (answer c s).1⟩) : (answer c s).2.host.mounts.Sublist s.host.mounts := by
  have hmounts : s.proceed.host.mounts = s.host.mounts := by rw [proceed_host]
  rw [← hmounts]
  exact ScriptedHost.mounts_answer h

/-- On every host: the first failure that a request does not spare is that of its last call and is
its result, and a request fails with a failure of the host only if its last call did. A mount
succeeds just when the mount call does, and one that fails adds nothing to the mount table of a
host on which nothing but successful mount calls does, such as a scripted host. -/
theorem first_failure_stops {σ : Type} (handle : Plan.Handler Host σ) (s : σ) :
    (∀ r : VolumeRequest,
      let (xs, result, _) := r.operation.run.record handle s
      (∀ before x after e, xs = before ++ x :: after → failure? x = some e → ¬ r.Spares x →
        after = [] ∧ result = .error (.host e)) ∧
      ∀ e, result = .error (.host e) →
        ∃ before x, xs = before ++ [x] ∧ failure? x = some e ∧ ¬ r.Spares x) ∧
    (∀ config device target fstype options,
      let (xs, result, t) :=
        (Volume.formatAndMount config device target fstype options).run.record handle s
      (result = .ok () ↔ ∃ held, mounted device target held options (.ok ()) ∈ xs) ∧
      (result ≠ .ok () → (∀ x ∈ xs, ¬ Mounts x) ∧
        ∀ table : σ → List MountEntry,
          (∀ c u, ¬ Mounts ⟨c, (handle c u).1⟩ → (table (handle c u).2).Sublist (table u)) →
            (table t).Sublist (table s))) ∧
    ∀ config device target fstype options (live : LiveHost),
      let (_, result, t) :=
        (Volume.formatAndMount config device target fstype options).run.record LiveHost.answer live
      result ≠ .ok () → t.host.mounts.Sublist live.host.mounts := by
  have hkept {τ : Type} (answer : Plan.Handler Host τ) (table : τ → List MountEntry)
      (htable : ∀ c u, ¬ Mounts ⟨c, (answer c u).1⟩ →
        (table (answer c u).2).Sublist (table u))
      (p : Plan Host (Except VolumeError Unit)) (u : τ) :
      (∀ x ∈ (p.record answer u).1, ¬ Mounts x) →
        (table (p.record answer u).2.2).Sublist (table u) :=
    Plan.record_relates (R := fun u v => (table v).Sublist (table u)) (fun _ => .refl _)
      (fun _ _ _ huv hvw => hvw.trans huv) htable p u
  refine ⟨fun r => ?_, fun config device target fstype options => ?_,
    fun config device target fstype options live hfail => ?_⟩
  · have horderly := r.failsFast _ _ (Plan.transcript_record handle _ s)
    exact ⟨fun before x after e hx => horderly.first hx, fun e he => (he ▸ horderly).last⟩
  · have htranscript := Plan.transcript_record handle
      (Volume.formatAndMount config device target fstype options).run s
    rcases Volume.formatAndMount_mounts htranscript with ⟨hr, hmem⟩ | ⟨hr, hnone⟩
    · exact ⟨iff_of_true hr hmem, fun hfail => absurd hr hfail⟩
    · refine ⟨iff_of_false hr ?_, fun _ =>
        ⟨hnone, fun table htable => hkept handle table htable _ s hnone⟩⟩
      rintro ⟨held, hmem⟩
      exact hnone _ hmem ⟨_, _, _, _, rfl⟩
  · have htranscript := Plan.transcript_record LiveHost.answer
      (Volume.formatAndMount config device target fstype options).run live
    rcases Volume.formatAndMount_mounts htranscript with ⟨hr, -⟩ | ⟨-, hnone⟩
    · exact absurd hr hfail
    · exact hkept LiveHost.answer (·.host.mounts) (fun _ _ => LiveHost.mounts_answer) _ live hnone

end BlockVolume
