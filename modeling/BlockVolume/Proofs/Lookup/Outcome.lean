import BlockVolume.Proofs.Lookup.Course

namespace BlockVolume

def slept (actions : List HostAction) : List Duration :=
  actions.filterMap fun
    | .sleep d => some d
    | _ => none

theorem slept_append (as bs : List HostAction) : slept (as ++ bs) = slept as ++ slept bs :=
  List.filterMap_append ..

def RoundBegins (token : CancelToken) (outcomes : List WaitOutcome)
    (xs : List (Plan.Exchange Host)) : Prop :=
  xs = [] ∨ ∃ earlier d, ∃ outcome ∈ outcomes, xs = earlier ++ [waited d token outcome]

/-- The last thing asked is to look at `p`, one of the candidates. In the same round the candidates
before it were looked at in turn, and nothing was there. -/
def EndsAt (token : CancelToken) (ps : List Path) (xs : List (Plan.Exchange Host)) (p : Path)
    (answer : Except HostError Bool) : Prop :=
  ∃ before higher lower, ps = higher ++ p :: lower ∧
    xs = before ++ higher.map missing ++ [looked p answer] ∧ RoundBegins token [.elapsed] before

def Fruitless (xs : List (Plan.Exchange Host)) : Prop :=
  ∀ p answer, looked p answer ∈ xs → answer = .ok false

section

variable {token : CancelToken} {ps : List Path} {xs ys : List (Plan.Exchange Host)}

theorem Fruitless.append (hx : Fruitless xs) (hy : Fruitless ys) : Fruitless (xs ++ ys) := by
  intro p answer h
  rcases List.mem_append.1 h with h | h
  · exact hx p answer h
  · exact hy p answer h

theorem fruitless_waited (d : Duration) (token : CancelToken) (outcome : WaitOutcome) :
    Fruitless [waited d token outcome] := by
  intro p answer h
  cases List.mem_singleton.1 h

theorem Fruitless.round (hx : Fruitless xs) (hy : Fruitless ys) (d : Duration)
    (token : CancelToken) : Fruitless (xs ++ waited d token .elapsed :: ys) :=
  hx.append ((fruitless_waited d token .elapsed).append hy)

theorem looked_inj {p q : Path} {a b : Except HostError Bool} :
    looked p a = looked q b ↔ p = q ∧ a = b := by
  constructor
  · intro h
    cases h
    exact ⟨rfl, rfl⟩
  · rintro ⟨rfl, rfl⟩
    rfl

theorem fruitless_missing (ps : List Path) : Fruitless (ps.map missing) := by
  intro p answer h
  obtain ⟨q, -, hq⟩ := List.mem_map.1 h
  exact (looked_inj.1 hq).2.symm

theorem slept_missing (ps : List Path) :
    slept ((ps.map missing).filterMap HostAction.ofExchange?) = [] := by
  simp [slept]

theorem RoundBegins.after_wait {outcomes : List WaitOutcome} (hy : RoundBegins token outcomes ys)
    (ho : .elapsed ∈ outcomes) (d : Duration) (xs : List (Plan.Exchange Host)) :
    RoundBegins token outcomes (xs ++ waited d token .elapsed :: ys) := by
  rcases hy with rfl | ⟨earlier, e, outcome, hout, rfl⟩
  · exact .inr ⟨xs, d, _, ho, rfl⟩
  · exact .inr ⟨xs ++ waited d token .elapsed :: earlier, e, outcome, hout, by simp⟩

theorem EndsAt.after_wait {p : Path} {answer : Except HostError Bool}
    (h : EndsAt token ps ys p answer) (d : Duration) (xs : List (Plan.Exchange Host)) :
    EndsAt token ps (xs ++ waited d token .elapsed :: ys) p answer := by
  obtain ⟨before, higher, lower, hps, rfl, hbefore⟩ := h
  exact ⟨xs ++ waited d token .elapsed :: before, higher, lower, hps, by simp,
    hbefore.after_wait List.mem_cons_self d xs⟩

/-- What the exchanges of a lookup, and the state that it leaves, say to each of its ends, if it had
the delays `ds`. -/
def LookupEnd.Shown (token : CancelToken) (ps : List Path) (ds : List Duration)
    (xs : List (Plan.Exchange Host)) (t : LiveHost) : LookupEnd → Prop
  | .found p => EndsAt token ps xs p (.ok true) ∧ t.host.stat p = .ok true
  | .failed e => ∃ p, EndsAt token ps xs p (.error e) ∧ t.host.stat p = .error e
  | .cancelled => Fruitless xs ∧ t.host.Over token ∧
      RoundBegins token [.elapsed, .cancelled] xs
  | .exhausted => Fruitless xs ∧ slept (xs.filterMap HostAction.ofExchange?) = ds ∧
      ∃ before, xs = before ++ ps.map missing

theorem LookupEnd.Shown.after_round {ds : List Duration} {t : LiveHost} {e : LookupEnd}
    {d : Duration} (he : e.Shown token ps ds ys t) (hx : Fruitless xs)
    (hs : slept (xs.filterMap HostAction.ofExchange?) = []) :
    e.Shown token ps (d :: ds) (xs ++ waited d token .elapsed :: ys) t := by
  cases e with
  | found p => exact ⟨he.1.after_wait d xs, he.2⟩
  | failed error =>
      obtain ⟨p, hp, hstat⟩ := he
      exact ⟨p, hp.after_wait d xs, hstat⟩
  | cancelled =>
      obtain ⟨hy, hover, hbegins⟩ := he
      exact ⟨hx.round hy d token, hover, hbegins.after_wait List.mem_cons_self d xs⟩
  | exhausted =>
      obtain ⟨hy, hdelays, before, rfl⟩ := he
      refine ⟨hx.round hy d token, ?_, xs ++ waited d token .elapsed :: before, by simp⟩
      rw [List.filterMap_append, slept_append, hs, ← hdelays]
      rfl

end

namespace Volume

open LiveHost

section

variable {config : Config} {token : CancelToken} {ps : List Path} {ds : List Duration}
  {s t : LiveHost} {xs : List (Plan.Exchange Host)} {e : LookupEnd}

theorem Attempt.fruitless {h : ScriptedHost} (ha : Attempt h ps xs (.ok none)) :
    xs = ps.map missing ∧ Fruitless xs := by
  cases ha with
  | absent => exact ⟨rfl, fruitless_missing ps⟩

theorem Rescanned.fruitless (h : Rescanned config xs s t) : Fruitless xs := by
  intro p answer hx
  have hmem : HostAction.stat p ∈ xs.filterMap HostAction.ofExchange? :=
    List.mem_filterMap.2 ⟨_, hx, rfl⟩
  rw [h.actions] at hmem
  simp [rescanActions] at hmem

theorem Rescanned.slept (h : Rescanned config xs s t) :
    slept (xs.filterMap HostAction.ofExchange?) = [] := by
  rw [h.actions]
  simp [BlockVolume.slept, rescanActions]

theorem Attempt.shown_found {p : Path} (ha : Attempt t.host ps xs (.ok (some p)))
    (ds : List Duration) : LookupEnd.Shown token ps ds xs t (.found p) := by
  cases ha with
  | present split absent present => exact ⟨⟨[], _, _, split, rfl, .inl rfl⟩, present⟩

theorem Attempt.shown_failed {error : HostError} (ha : Attempt t.host ps xs (.error error))
    (ds : List Duration) : LookupEnd.Shown token ps ds xs t (.failed error) := by
  cases ha with
  | fault split absent fault => exact ⟨_, ⟨[], _, _, split, rfl, .inl rfl⟩, fault⟩

theorem over_of_cancelled {d : Duration} (h : answer (.sleep d token) s = (.cancelled, t)) :
    t.host.Over token := by
  obtain ⟨signals, -, ⟨hs, hover⟩ | ⟨hs, -⟩⟩ := s.proceed.host.sleep_cases d token
  · simp only [answer, ScriptedHost.answer, hs] at h
    cases h
    exact hover
  · simp only [answer, ScriptedHost.answer, hs] at h
    cases h

theorem Course.shown (h : Course config token ps ds s xs e t) : e.Shown token ps ds xs t := by
  induction h with
  | cancelled idle h => exact ⟨nofun, .inl h, .inl rfl⟩
  | found live idle attempt => exact attempt.shown_found _
  | failed live idle attempt => exact attempt.shown_failed _
  | exhausted live idle attempt =>
      obtain ⟨rfl, hx⟩ := attempt.fruitless
      exact ⟨hx, slept_missing ps, [], rfl⟩
  | interrupted live idle attempt rescan wait idle' =>
      obtain ⟨rfl, hx⟩ := attempt.fruitless
      refine ⟨(hx.append ?_).append (fruitless_waited _ _ _),
        idle'.over (over_of_cancelled wait), ?_⟩
      · rcases rescan with ⟨-, rfl, -⟩ | rescan
        · exact nofun
        · exact rescan.fruitless
      · exact .inr ⟨_, _, _, by simp, rfl⟩
  | again live idle attempt rescan wait rest ih =>
      obtain ⟨rfl, hx⟩ := attempt.fruitless
      refine ih.after_round (hx.append rescan.fruitless) ?_
      rw [List.filterMap_append, slept_append, slept_missing, rescan.slept]
      rfl

theorem Course.of_cancelled (h : Course config token ps ds s xs e t)
    (hs : s.host.signals.isCancelled token = true) :
    xs = [] ∧ e = .cancelled ∧ Scanned [] s t := by
  cases h with
  | cancelled idle _ => exact ⟨rfl, rfl, idle⟩
  | found live | failed live | exhausted live | interrupted live | again live =>
      rw [hs] at live
      cases live

end

/-- A lookup ends in one of four ways. It returns the path at which its last look found something,
where nothing was at the candidates before it; it fails as its last look failed; or it saw nothing
anywhere, and was cancelled or had waited for all its delays. A token that is cancelled at the start
lets it ask nothing of the host. -/
theorem findDevice_outcome (config : Config) (token : CancelToken) (volume : String)
    (s : LiveHost) :
    let (xs, result, t) := (findDevice config token volume).run.record answer s
    t.host.actions = s.host.actions ++ (asked xs).filterMap HostAction.ofExchange? ∧
      (∃ e : LookupEnd, result = e.result volume ∧
        e.Shown token (candidates (serial volume)) config.retry.schedule.delays (asked xs) t) ∧
      (s.host.signals.isCancelled token = true →
        result = .error (.deviceNotFound volume) ∧ asked xs = [] ∧
          ∃ passed, s.ahead = passed ++ t.ahead ∧ t.host = { s.host with
            signals := passed.foldl Signals.after s.host.signals, logged := t.host.logged }) := by
  rcases hrun : (findDevice config token volume).run.record answer s with ⟨xs, result, t⟩
  obtain ⟨e, hcourse, hresult⟩ := findDevice_course hrun
  have hactions := actions_record (findDevice config token volume).run s
  rw [hrun, ← filterMap_asked] at hactions
  refine ⟨hactions, ⟨e, hresult, hcourse.shown⟩, fun hcancelled => ?_⟩
  obtain ⟨hasked, rfl, idle⟩ := hcourse.of_cancelled hcancelled
  obtain ⟨passed, hahead, hsignals⟩ := idle.signals
  refine ⟨hresult, hasked, passed, hahead, ?_⟩
  rw [idle.host, hactions, hasked, hsignals]
  simp [ScriptedHost.scanned]

end Volume

end BlockVolume
