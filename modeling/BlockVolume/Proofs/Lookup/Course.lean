import BlockVolume.Proofs.Lookup.Candidates
import BlockVolume.Proofs.Lookup.Rescan
import BlockVolume.Volume.Lookup

namespace BlockVolume

def looked (p : Path) (answer : Except HostError Bool) : Plan.Exchange Host :=
  ⟨HostCall.pathExists p, answer⟩

def missing (p : Path) : Plan.Exchange Host := looked p (.ok false)

def waited (d : Duration) (token : CancelToken) (outcome : WaitOutcome) : Plan.Exchange Host :=
  ⟨HostCall.sleep d token, outcome⟩

@[simp]
theorem ofExchange?_looked (p : Path) (answer : Except HostError Bool) :
    HostAction.ofExchange? (looked p answer) = some (.stat p) := rfl

@[simp]
theorem ofExchange?_missing (p : Path) : HostAction.ofExchange? (missing p) = some (.stat p) := rfl

@[simp]
theorem ofExchange?_waited_elapsed (d : Duration) (token : CancelToken) :
    HostAction.ofExchange? (waited d token .elapsed) = some (.sleep d) := rfl

@[simp]
theorem ofExchange?_waited_cancelled (d : Duration) (token : CancelToken) :
    HostAction.ofExchange? (waited d token .cancelled) = none := rfl

@[simp]
theorem filterMap_missing (ps : List Path) :
    ps.filterMap (HostAction.ofExchange? ∘ missing) = ps.map .stat := by
  induction ps with
  | nil => rfl
  | cons p ps ih => simp [ih]

inductive LookupEnd
  | found (device : Path)
  | failed (error : HostError)
  | cancelled
  | exhausted

def LookupEnd.result (volume : String) : LookupEnd → Except VolumeError Path
  | .found device => .ok device
  | .failed e => .error (.host e)
  | .cancelled | .exhausted => .error (.deviceNotFound volume)

namespace Volume

open LiveHost

structure Rescanned (config : Config) (xs : List (Plan.Exchange Host)) (s t : LiveHost) :
    Prop where
  scanned : Scanned s.host.scsiHosts s t
  actions : xs.filterMap HostAction.ofExchange? = rescanActions config s.host.scsiHosts

/-- An attempt on a host looks at the candidates in turn, up to the first at which something is or
which cannot be looked at. -/
inductive Attempt (h : ScriptedHost) (ps : List Path) :
    List (Plan.Exchange Host) → Except HostError (Option Path) → Prop
  | present {higher p lower} (split : ps = higher ++ p :: lower)
      (absent : ∀ q ∈ higher, h.stat q = .ok false) (present : h.stat p = .ok true) :
      Attempt h ps (higher.map missing ++ [looked p (.ok true)]) (.ok (some p))
  | fault {higher p lower e} (split : ps = higher ++ p :: lower)
      (absent : ∀ q ∈ higher, h.stat q = .ok false) (fault : h.stat p = .error e) :
      Attempt h ps (higher.map missing ++ [looked p (.error e)]) (.error e)
  | absent (absent : ∀ q ∈ ps, h.stat q = .ok false) : Attempt h ps (ps.map missing) (.ok none)

theorem Attempt.cons {h : ScriptedHost} {p : Path} {ps : List Path}
    {xs : List (Plan.Exchange Host)} {r : Except HostError (Option Path)}
    (hp : h.stat p = .ok false) (ha : Attempt h ps xs r) :
    Attempt h (p :: ps) (missing p :: xs) r := by
  cases ha with
  | present split absent present =>
      have split : p :: ps = (p :: _) ++ _ :: _ := congrArg (p :: ·) split
      exact .present split (List.forall_mem_cons.2 ⟨hp, absent⟩) present
  | fault split absent fault =>
      have split : p :: ps = (p :: _) ++ _ :: _ := congrArg (p :: ·) split
      exact .fault split (List.forall_mem_cons.2 ⟨hp, absent⟩) fault
  | absent absent => exact .absent (List.forall_mem_cons.2 ⟨hp, absent⟩)

theorem stat_of_scanned {s t : LiveHost} (h : Scanned [] s t) (p : Path) :
    t.host.stat p = s.host.stat p := by
  rw [h.host]
  rfl

theorem Attempt.idle {s t : LiveHost} {ps : List Path} {xs : List (Plan.Exchange Host)}
    {r : Except HostError (Option Path)} (ha : Attempt s.host ps xs r) (h : Scanned [] s t) :
    Attempt t.host ps xs r := by
  cases ha with
  | present split absent present =>
      refine .present split (fun q hq => ?_) ?_
      · rw [stat_of_scanned h, absent q hq]
      · rw [stat_of_scanned h, present]
  | fault split absent fault =>
      refine .fault split (fun q hq => ?_) ?_
      · rw [stat_of_scanned h, absent q hq]
      · rw [stat_of_scanned h, fault]
  | absent absent =>
      refine .absent fun q hq => ?_
      rw [stat_of_scanned h, absent q hq]

/-- From one state to another, a lookup that has the given delays left asks this of the host and
ends so. -/
inductive Course (config : Config) (token : CancelToken) (ps : List Path) :
    List Duration → LiveHost → List (Plan.Exchange Host) → LookupEnd → LiveHost → Prop
  | cancelled {ds s t} (idle : Scanned [] s t) (h : t.host.signals.isCancelled token = true) :
      Course config token ps ds s [] .cancelled t
  | found {ds s t xs p} (live : s.host.signals.isCancelled token = false) (idle : Scanned [] s t)
      (attempt : Attempt t.host ps xs (.ok (some p))) :
      Course config token ps ds s xs (.found p) t
  | failed {ds s t xs e} (live : s.host.signals.isCancelled token = false) (idle : Scanned [] s t)
      (attempt : Attempt t.host ps xs (.error e)) :
      Course config token ps ds s xs (.failed e) t
  | exhausted {s t xs} (live : s.host.signals.isCancelled token = false) (idle : Scanned [] s t)
      (attempt : Attempt t.host ps xs (.ok none)) :
      Course config token ps [] s xs .exhausted t
  | interrupted {d ds s t u v w xs ys} (live : s.host.signals.isCancelled token = false)
      (idle : Scanned [] s t) (attempt : Attempt t.host ps xs (.ok none))
      (rescan : Scanned [] t u ∧ ys = [] ∧ u.host.signals.isCancelled token = true ∨
        Rescanned config ys t u)
      (wait : answer (.sleep d token) u = (.cancelled, v)) (idle' : Scanned [] v w) :
      Course config token ps (d :: ds) s (xs ++ ys ++ [waited d token .cancelled]) .cancelled w
  | again {d ds s t u v w xs ys zs e} (live : s.host.signals.isCancelled token = false)
      (idle : Scanned [] s t) (attempt : Attempt t.host ps xs (.ok none))
      (rescan : Rescanned config ys t u) (wait : answer (.sleep d token) u = (.elapsed, v))
      (rest : Course config token ps ds v zs e w) :
      Course config token ps (d :: ds) s (xs ++ ys ++ waited d token .elapsed :: zs) e w

section

variable {config : Config} {token : CancelToken} {ps : List Path} {ds : List Duration}
  {volume : String} {made : Nat} {s t u : LiveHost} {xs : List (Plan.Exchange Host)} {e : LookupEnd}

theorem Course.idle_left (hst : Scanned [] s t) (h : Course config token ps ds t xs e u) :
    Course config token ps ds s xs e u := by
  cases h with
  | cancelled idle h => exact .cancelled (hst.trans idle) h
  | found live idle attempt => exact .found (hst.not_cancelled live) (hst.trans idle) attempt
  | failed live idle attempt => exact .failed (hst.not_cancelled live) (hst.trans idle) attempt
  | exhausted live idle attempt =>
      exact .exhausted (hst.not_cancelled live) (hst.trans idle) attempt
  | interrupted live idle attempt rescan wait idle' =>
      exact .interrupted (hst.not_cancelled live) (hst.trans idle) attempt rescan wait idle'
  | again live idle attempt rescan wait rest =>
      exact .again (hst.not_cancelled live) (hst.trans idle) attempt rescan wait rest

theorem Course.idle_right (h : Course config token ps ds s xs e t) (htu : Scanned [] t u) :
    Course config token ps ds s xs e u := by
  induction h with
  | cancelled idle h => exact .cancelled (idle.trans htu) (htu.later.isCancelled h)
  | found live idle attempt => exact .found live (idle.trans htu) (attempt.idle htu)
  | failed live idle attempt => exact .failed live (idle.trans htu) (attempt.idle htu)
  | exhausted live idle attempt => exact .exhausted live (idle.trans htu) (attempt.idle htu)
  | interrupted live idle attempt rescan wait idle' =>
      exact .interrupted live idle attempt rescan wait (idle'.trans htu)
  | again live idle attempt rescan wait _ ih =>
      exact .again live idle attempt rescan wait (ih htu)

theorem firstPresent_record {r : Except VolumeError (Option Path)}
    (h : (firstPresent ps).run.record answer s = (xs, r, t)) :
    Scanned [] s t ∧ ∃ q, Attempt t.host ps (asked xs) q ∧ r = q.mapError VolumeError.host := by
  induction ps generalizing s xs with
  | nil =>
      cases h
      exact ⟨.refl _, _, .absent (by simp), rfl⟩
  | cons p ps ih =>
      simp only [firstPresent] at h
      rw [Operation.run_require_bind] at h
      obtain ⟨reply, u, ys, hlook, hu, rfl⟩ := Host.record_ask_bind (.pathExists p) h
      have hs := scanned_answer hlook trivial
      have hreply : u.host.stat p = reply := by
        cases hlook
        rfl
      match reply with
      | .ok true =>
          cases hu
          have split : p :: ps = [] ++ p :: ps := rfl
          exact ⟨hs, _, .present split (by simp) hreply, rfl⟩
      | .ok false =>
          obtain ⟨ht, q, hq, hr⟩ := ih hu
          exact ⟨hs.trans ht, q, hq.cons ((stat_of_scanned ht p).trans hreply), hr⟩
      | .error e =>
          cases hu
          have split : p :: ps = [] ++ p :: ps := rfl
          exact ⟨hs, _, .fault split (by simp) hreply, rfl⟩

theorem giveUp_record {α : Type} {reason : String} {r : Except VolumeError α}
    (h : (giveUp volume reason).run.record answer s = (xs, r, t)) :
    Scanned [] s t ∧ asked xs = [] ∧ r = .error (.deviceNotFound volume) := by
  cases h
  exact ⟨scanned_answer (c := .log _) rfl trivial, rfl, rfl⟩

theorem tryOnce_record {r : Except VolumeError (Option Path)}
    (h : (tryOnce token volume made).run.record answer s = (xs, r, t)) :
    Scanned [] s t ∧
      (asked xs = [] ∧ r = .error (.deviceNotFound volume) ∧
          t.host.signals.isCancelled token = true ∨
        s.host.signals.isCancelled token = false ∧
          ∃ q, Attempt t.host (candidates (serial volume)) (asked xs) q ∧
            r = q.mapError VolumeError.host) := by
  rw [tryOnce, Operation.run_attempt_bind] at h
  obtain ⟨cancelled, u, ys, hlook, hu, rfl⟩ := Host.record_ask_bind (.isCancelled token) h
  have hs := scanned_answer hlook trivial
  cases cancelled with
  | true =>
      obtain ⟨ht, hy, hr⟩ := giveUp_record hu
      exact ⟨hs.trans ht, .inl ⟨hy, hr, ht.later.isCancelled (isCancelled_answer hlook)⟩⟩
  | false =>
      obtain ⟨ht, hq⟩ := firstPresent_record hu
      exact ⟨hs.trans ht, .inr ⟨hs.not_cancelled (isCancelled_answer hlook), hq⟩⟩

theorem not_cancelled_of_elapsed {d : Duration}
    (h : answer (.sleep d token) s = (.elapsed, t)) : s.host.signals.isCancelled token = false := by
  have hl : s.host.signals.Later s.proceed.host.signalsOfSleep :=
    s.later_proceed.trans (ScriptedHost.later_signalsOfSleep _)
  refine Bool.eq_false_iff.2 fun hc => ?_
  obtain ⟨signals, -, ⟨hs, -⟩ | ⟨-, hn⟩⟩ := s.proceed.host.sleep_cases d token
  · simp only [answer, ScriptedHost.answer, hs] at h
    cases h
  · simp [hl.isCancelled hc] at hn

/-- A pause rescans and waits. Where the token was cancelled before the rescan the wait cannot end
as it should. -/
theorem pause_record {d : Duration} {r : Except VolumeError Unit}
    (h : (pause config token volume d).run.record answer s = (xs, r, t)) :
    (∃ ys u, Rescanned config ys s u ∧ answer (.sleep d token) u = (.elapsed, t) ∧
        asked xs = ys ++ [waited d token .elapsed] ∧ r = .ok ()) ∨
      ∃ ys u v, (Scanned [] s u ∧ ys = [] ∧ u.host.signals.isCancelled token = true ∨
          Rescanned config ys s u) ∧
        answer (.sleep d token) u = (.cancelled, v) ∧ Scanned [] v t ∧
        asked xs = ys ++ [waited d token .cancelled] ∧ r = .error (.deviceNotFound volume) := by
  rw [pause, Operation.run_attempt_bind] at h
  obtain ⟨ys, _, u, zs, hscan, hu, rfl⟩ := Plan.record_bind_cases h
  rw [Operation.log, Operation.run_attempt_bind] at hu
  obtain ⟨_, v, as, hlog, hv, rfl⟩ := Host.record_ask_bind (.log _) hu
  rw [Operation.run_attempt_bind] at hv
  obtain ⟨outcome, w, bs, hsleep, hw, rfl⟩ := Host.record_ask_bind (.sleep d token) hv
  have huv := scanned_answer hlog trivial
  have hrescan : Scanned [] s v ∧ asked ys = [] ∧ v.host.signals.isCancelled token = true ∨
      Rescanned config (asked ys) s v := by
    rcases rescan_record hscan with ⟨hs, hy, hc⟩ | ⟨hs, hy⟩
    · exact .inl ⟨hs.trans huv, hy, huv.later.isCancelled hc⟩
    · exact .inr ⟨by simpa using hs.trans huv, hy⟩
  cases outcome with
  | elapsed =>
      cases hw
      rcases hrescan with ⟨-, -, hc⟩ | hrescan
      · exact absurd hc (by simp [not_cancelled_of_elapsed hsleep])
      · exact .inl ⟨_, v, hrescan, hsleep, asked_append .., rfl⟩
  | cancelled =>
      obtain ⟨hwt, hb, hr⟩ := giveUp_record hw
      refine .inr ⟨_, v, w, hrescan, hsleep, hwt, (asked_append ..).trans ?_, hr⟩
      exact congrArg (fun zs => asked ys ++ waited d token .cancelled :: zs) hb

theorem tryOnce_bind_course (config : Config) (ds : List Duration)
    {f : Option Path → Operation Path} (hf : ∀ device, f (some device) = pure device)
    {r : Except VolumeError Path}
    (h : (tryOnce token volume made >>= f).run.record answer s = (xs, r, t)) :
    (∃ e, Course config token (candidates (serial volume)) ds s (asked xs) e t ∧
        r = e.result volume) ∨
      ∃ ys u zs, s.host.signals.isCancelled token = false ∧ Scanned [] s u ∧
        Attempt u.host (candidates (serial volume)) (asked ys) (.ok none) ∧
        (f none).run.record answer u = (zs, r, t) ∧ xs = ys ++ zs := by
  rcases Plan.record_except_cases h with ⟨e, htry, rfl⟩ | ⟨ys, found, u, zs, htry, hrest, rfl⟩
  · obtain ⟨hs, ⟨hx, hr, hc⟩ | ⟨hc, q, hq, hr⟩⟩ := tryOnce_record htry
    · cases hr
      exact .inl ⟨.cancelled, hx ▸ .cancelled hs hc, rfl⟩
    · cases q with
      | ok found => cases hr
      | error e =>
          cases hr
          exact .inl ⟨.failed e, .failed hc hs hq, rfl⟩
  · obtain ⟨hs, ⟨-, hr, -⟩ | ⟨hc, q, hq, hr⟩⟩ := tryOnce_record htry
    · cases hr
    · cases q with
      | error e => cases hr
      | ok found =>
          cases hr
          cases found with
          | none => exact .inr ⟨ys, u, zs, hc, hs, hq, hrest, rfl⟩
          | some device =>
              rw [hf] at hrest
              cases hrest
              exact .inl ⟨.found device, by simpa using .found hc hs hq, rfl⟩

theorem awaitDevice_course {r : Except VolumeError Path}
    (h : (awaitDevice config token volume made ds).run.record answer s = (xs, r, t)) :
    ∃ e, Course config token (candidates (serial volume)) ds s (asked xs) e t ∧
      r = e.result volume := by
  induction ds generalizing made s xs with
  | nil =>
      rcases tryOnce_bind_course config [] (fun _ => rfl) h with
        hend | ⟨ys, u, zs, hc, hs, hq, hrest, rfl⟩
      · exact hend
      · obtain ⟨ht, hz, hr⟩ := giveUp_record hrest
        rw [asked_append, hz, List.append_nil]
        exact ⟨.exhausted, (Course.exhausted hc hs hq).idle_right ht, hr⟩
  | cons d ds ih =>
      rcases tryOnce_bind_course config (d :: ds) (fun _ => rfl) h with
        hend | ⟨ys, u, zs, hc, hs, hq, hrest, rfl⟩
      · exact hend
      · rcases Plan.record_except_cases hrest with
          ⟨e, hpause, rfl⟩ | ⟨as, _, v, bs, hpause, hagain, rfl⟩
        · rcases pause_record hpause with ⟨_, _, -, -, -, hr⟩ | ⟨cs, v, w, hscan, hwait, hw, hz, hr⟩
          · cases hr
          · cases hr
            rw [asked_append, hz, ← List.append_assoc]
            exact ⟨.cancelled, .interrupted hc hs hq hscan hwait hw, rfl⟩
        · rcases pause_record hpause with ⟨cs, w, hscan, hwait, hz, -⟩ | ⟨_, _, _, -, -, -, -, hr⟩
          · obtain ⟨e, hcourse, hr⟩ := ih hagain
            refine ⟨e, ?_, hr⟩
            have := Course.again hc hs hq hscan hwait hcourse
            simpa [asked_append, hz] using this
          · cases hr

theorem Attempt.mem {h : ScriptedHost} {p : Path} (ha : Attempt h ps xs (.ok (some p))) :
    p ∈ ps := by
  cases ha with
  | present split => simp [split]

theorem Course.mem (h : Course config token ps ds s xs e t) {p : Path} (he : e = .found p) :
    p ∈ ps := by
  induction h with
  | found _ _ attempt =>
      cases he
      exact attempt.mem
  | again _ _ _ _ _ _ ih => exact ih he
  | cancelled | failed | exhausted | interrupted => cases he

theorem findDevice_course {r : Except VolumeError Path}
    (h : (findDevice config token volume).run.record answer s = (xs, r, t)) :
    ∃ e, Course config token (candidates (serial volume)) config.retry.schedule.delays s (asked xs)
      e t ∧ r = e.result volume := by
  dsimp only [findDevice] at h
  rw [Operation.log, Operation.run_attempt_bind] at h
  obtain ⟨_, u, ys, hlog, hu, rfl⟩ := Host.record_ask_bind (.log _) h
  have hsu := scanned_answer hlog trivial
  rcases Plan.record_except_cases hu with
    ⟨e, hawait, rfl⟩ | ⟨zs, device, v, as, hawait, hv, rfl⟩
  · obtain ⟨e, hcourse, hr⟩ := awaitDevice_course hawait
    exact ⟨e, hcourse.idle_left hsu, hr⟩
  · obtain ⟨e, hcourse, hr⟩ := awaitDevice_course hawait
    cases e with
    | failed | cancelled | exhausted => cases hr
    | found p =>
        cases hr
        -- candidates have a text, so the last check of a lookup never fails
        have hne := text_ne_empty_of_mem_candidates (hcourse.mem rfl)
        rw [if_neg hne, Operation.log, Operation.run_attempt_bind] at hv
        obtain ⟨_, w, bs, hlog', hw, rfl⟩ := Host.record_ask_bind (.log _) hv
        cases hw
        refine ⟨.found device, ?_, rfl⟩
        have := (hcourse.idle_left hsu).idle_right (scanned_answer hlog' trivial)
        simpa [asked, isAsking] using this

end

end Volume

end BlockVolume
