import BlockVolume.Config.Reading
import BlockVolume.Host.Scripted
import BlockVolume.Proofs.Delays
import BlockVolume.Proofs.Lookup.Candidates
import BlockVolume.Proofs.Lookup.Rescan
import BlockVolume.Proofs.Transcripts
import BlockVolume.Volume.Lookup

namespace BlockVolume

namespace Config

theorem problem?_of_read {text : String} {config : Config} (h : read text = .ok config) :
    config.problem? = none := by
  unfold read at h
  split at h
  · cases h
  · split at h
    · cases h
    · next hp =>
        cases h
        exact hp

theorem bounds_of_no_problem {config : Config} (h : config.problem? = none) :
    0 < config.retry.steps ∧ config.retry.steps ≤ maxSteps ∧
      config.retry.schedule.total.nanos ≤ maxWait.nanos := by
  unfold problem? at h
  split at h
  · cases h
  · next hsteps =>
      split at h
      · cases h
      · split at h
        · cases h
        · split at h
          · cases h
          · next htotal => omega

end Config

def looks (xs : List (Plan.Exchange Host)) : List Path :=
  xs.filterMap fun
    | ⟨.pathExists p, _⟩ => some p
    | _ => none

def waits (xs : List (Plan.Exchange Host)) : List Duration :=
  xs.filterMap fun
    | ⟨.sleep d _, _⟩ => some d
    | _ => none

@[simp]
theorem looks_append (xs ys : List (Plan.Exchange Host)) :
    looks (xs ++ ys) = looks xs ++ looks ys :=
  List.filterMap_append ..

@[simp]
theorem waits_append (xs ys : List (Plan.Exchange Host)) :
    waits (xs ++ ys) = waits xs ++ waits ys :=
  List.filterMap_append ..

/-- The looks are made in at most `n` rounds. Each begins with the first of the paths `ps` and goes
on in their order. -/
def InRounds (ps : List Path) (n : Nat) (looked : List Path) : Prop :=
  ∃ rounds : List (List Path), looked = rounds.flatten ∧ rounds.length ≤ n ∧
    ∀ round ∈ rounds, round ≠ [] ∧ round <+: ps

theorem InRounds.nil (ps : List Path) (n : Nat) : InRounds ps n [] := ⟨[], rfl, n.zero_le, nofun⟩

theorem InRounds.append {ps as bs : List Path} {m n : Nat} (ha : InRounds ps m as)
    (hb : InRounds ps n bs) : InRounds ps (m + n) (as ++ bs) := by
  obtain ⟨xss, rfl, hx, hxs⟩ := ha
  obtain ⟨yss, rfl, hy, hys⟩ := hb
  refine ⟨xss ++ yss, List.flatten_append.symm, ?_, ?_⟩
  · rw [List.length_append]
    omega
  · intro round hround
    exact (List.mem_append.1 hround).elim (hxs round) (hys round)

theorem InRounds.mono {ps as : List Path} {m n : Nat} (h : InRounds ps m as) (hmn : m ≤ n) :
    InRounds ps n as := by
  obtain ⟨xss, hx, hm, hxs⟩ := h
  exact ⟨xss, hx, Nat.le_trans hm hmn, hxs⟩

theorem InRounds.one {ps as : List Path} (h : as <+: ps) : InRounds ps 1 as := by
  by_cases ha : as = []
  · exact ha ▸ .nil ps 1
  · exact ⟨[as], by simp, by simp, by simpa using ⟨ha, h⟩⟩

namespace Volume

variable {config : Config} {token : CancelToken} {volume : String}
  {xs : List (Plan.Exchange Host)}

theorem firstPresent_looks {ps : List Path} {r : Except VolumeError (Option Path)}
    (h : (firstPresent ps).run.Transcript xs r) : looks xs <+: ps ∧ waits xs = [] := by
  induction ps generalizing xs with
  | nil =>
      cases h
      exact ⟨List.nil_prefix, rfl⟩
  | cons p ps ih =>
      rw [firstPresent, Operation.run_require_bind] at h
      obtain ⟨reply, ys, hys, rfl⟩ := Host.transcript_ask_bind (.pathExists p) h
      match reply with
      | .ok true | .error _ =>
          cases hys
          exact ⟨⟨ps, rfl⟩, rfl⟩
      | .ok false =>
          obtain ⟨hl, hw⟩ := ih hys
          exact ⟨List.cons_prefix_cons.2 ⟨rfl, hl⟩, hw⟩

theorem looks_of_rescanCalls (h : ∀ x ∈ xs, RescanCall x.1) : looks xs = [] ∧ waits xs = [] := by
  constructor
  all_goals
    refine List.filterMap_eq_nil_iff.2 fun x hx => ?_
    have hcall := h x hx
    obtain ⟨c, reply⟩ := x
    cases c with
    | pathExists | sleep => exact hcall.elim
    | _ => rfl

theorem giveUp_looks {α : Type} {reason : String} {r : Except VolumeError α}
    (h : (giveUp volume reason).run.Transcript xs r) : looks xs = [] ∧ waits xs = [] := by
  cases h with
  | call rest =>
      cases rest
      exact ⟨rfl, rfl⟩

theorem tryOnce_looks {made : Nat} {r : Except VolumeError (Option Path)}
    (h : (tryOnce token volume made).run.Transcript xs r) :
    InRounds (candidates (serial volume)) 1 (looks xs) ∧ waits xs = [] := by
  rw [tryOnce, Operation.run_attempt_bind] at h
  obtain ⟨cancelled, ys, hys, rfl⟩ := Host.transcript_ask_bind (.isCancelled token) h
  cases cancelled with
  | true =>
      obtain ⟨hl, hw⟩ := giveUp_looks hys
      exact ⟨hl ▸ .nil _ _, hw⟩
  | false =>
      obtain ⟨hl, hw⟩ := firstPresent_looks hys
      exact ⟨.one hl, hw⟩

theorem pause_looks {d : Duration} {r : Except VolumeError Unit}
    (h : (pause config token volume d).run.Transcript xs r) : looks xs = [] ∧ waits xs = [d] := by
  rw [pause, Operation.run_attempt_bind] at h
  obtain ⟨ys, _, zs, hscan, hzs, rfl⟩ := h.bind_cases
  obtain ⟨as, has, rfl⟩ := Operation.transcript_log_bind hzs
  rw [Operation.run_attempt_bind] at has
  obtain ⟨outcome, bs, hbs, rfl⟩ := Host.transcript_ask_bind (.sleep d token) has
  obtain ⟨hl, hw⟩ := looks_of_rescanCalls ((rescanCall_rescan config token).transcript hscan)
  rw [looks_append, waits_append, hl, hw]
  cases outcome with
  | elapsed =>
      cases hbs
      exact ⟨rfl, rfl⟩
  | cancelled =>
      obtain ⟨hl', hw'⟩ := giveUp_looks hbs
      exact ⟨hl', congrArg (d :: ·) hw'⟩

theorem awaitDevice_looks {made : Nat} {ds : List Duration} {r : Except VolumeError Path}
    (h : (awaitDevice config token volume made ds).run.Transcript xs r) :
    InRounds (candidates (serial volume)) (ds.length + 1) (looks xs) ∧ waits xs <+: ds := by
  induction ds generalizing made xs with
  | nil =>
      rcases Operation.transcript_bind_cases h with
        ⟨e, htry, -⟩ | ⟨ys, found, zs, htry, hrest, rfl⟩
      · obtain ⟨hl, hw⟩ := tryOnce_looks htry
        exact ⟨hl, hw ▸ List.nil_prefix⟩
      · obtain ⟨hl, hw⟩ := tryOnce_looks htry
        have hzs : looks zs = [] ∧ waits zs = [] := by
          cases found with
          | some device =>
              cases hrest
              exact ⟨rfl, rfl⟩
          | none => exact giveUp_looks hrest
        rw [looks_append, waits_append, hzs.1, hzs.2, hw, List.append_nil]
        exact ⟨hl, List.nil_prefix⟩
  | cons d ds ih =>
      rcases Operation.transcript_bind_cases h with
        ⟨e, htry, -⟩ | ⟨ys, found, zs, htry, hrest, rfl⟩
      · obtain ⟨hl, hw⟩ := tryOnce_looks htry
        exact ⟨hl.mono (by omega), hw ▸ List.nil_prefix⟩
      · obtain ⟨hl, hw⟩ := tryOnce_looks htry
        rw [looks_append, waits_append, hw, List.nil_append]
        cases found with
        | some device =>
            cases hrest
            refine ⟨?_, List.nil_prefix⟩
            exact (hl.append (n := ds.length + 1) (.nil _ _)).mono (by simp; omega)
        | none =>
            rcases Operation.transcript_bind_cases hrest with
              ⟨e, hpause, -⟩ | ⟨as, _, bs, hpause, hagain, rfl⟩
            · obtain ⟨hl', hw'⟩ := pause_looks hpause
              rw [hl', hw', List.append_nil]
              exact ⟨hl.mono (by omega), ds, rfl⟩
            · obtain ⟨hl', hw'⟩ := pause_looks hpause
              obtain ⟨hlooks, hwaits⟩ := ih hagain
              rw [looks_append, waits_append, hl', hw', List.nil_append]
              refine ⟨(hl.append hlooks).mono (by simp; omega), ?_⟩
              exact List.cons_prefix_cons.2 ⟨rfl, hwaits⟩

theorem findDevice_looks {r : Except VolumeError Path}
    (h : (findDevice config token volume).run.Transcript xs r) :
    InRounds (candidates (serial volume)) (config.retry.steps - 1 + 1) (looks xs) ∧
      waits xs <+: config.retry.schedule.delays := by
  rw [findDevice] at h
  obtain ⟨ys, hys, rfl⟩ := Operation.transcript_log_bind h
  have hlength : config.retry.schedule.delays.length = config.retry.steps - 1 :=
    RetrySchedule.length_delays _
  rw [← hlength]
  rcases Operation.transcript_bind_cases hys with
    ⟨e, hawait, -⟩ | ⟨as, device, bs, hawait, hrest, rfl⟩
  · obtain ⟨hl, hw⟩ := awaitDevice_looks hawait
    exact ⟨hl, hw⟩
  · obtain ⟨hl, hw⟩ := awaitDevice_looks hawait
    have hbs : looks bs = [] ∧ waits bs = [] := by
      dsimp only at hrest
      split at hrest
      · cases hrest
        exact ⟨rfl, rfl⟩
      · obtain ⟨cs, hcs, rfl⟩ := Operation.transcript_log_bind hrest
        cases hcs
        exact ⟨rfl, rfl⟩
    have happend : looks (as ++ bs) = looks as ∧ waits (as ++ bs) = waits as := by
      simp [hbs.1, hbs.2]
    exact ⟨happend.1 ▸ hl, happend.2 ▸ hw⟩

/-- With settings that are accepted, be they read from a file or not, a lookup makes at most a
thousand rounds of looks, and the waits that it asks for are together no longer than the schedule
says, which is an hour at most. No sum of them is cut, and none of them is a delay that was. -/
theorem findDevice_budget {config : Config}
    (h : config.problem? = none ∨ ∃ text, Config.read text = .ok config) (token : CancelToken)
    (volume : String) {σ : Type} (handle : Plan.Handler Host σ) (s : σ) :
    let xs := ((findDevice config token volume).run.record handle s).1
    let schedule := config.retry.schedule
    InRounds (candidates (serial volume)) 1000 (looks xs) ∧
      Duration.nanosOfAll (waits xs) ≤ schedule.total.nanos ∧
      schedule.total.nanos ≤ 3600 * 1000000000 ∧
      schedule.total.nanos = Duration.nanosOfAll schedule.delays ∧
      ((waits xs).foldl Duration.add Duration.zero).nanos = Duration.nanosOfAll (waits xs) ∧
      ∀ d ∈ waits xs, d ≠ Duration.longest := by
  intro xs schedule
  have hconfig : config.problem? = none := by
    rcases h with h | ⟨text, h⟩
    · exact h
    · exact Config.problem?_of_read h
  obtain ⟨hpos, hsteps, hwait⟩ := Config.bounds_of_no_problem hconfig
  have hhour : Config.maxWait.nanos = 3600 * 1000000000 := by decide
  have htotal : schedule.total.nanos ≤ 3600 * 1000000000 := hhour ▸ hwait
  obtain ⟨hlooks, hwaits⟩ := findDevice_looks
    (Plan.transcript_record handle (findDevice config token volume).run s)
  have hmax : 3600 * 1000000000 < maxNanos := by decide
  have hexact : schedule.total.nanos = Duration.nanosOfAll schedule.delays := by
    have := Duration.nanos_foldl_add_zero schedule.delays
    change schedule.total.nanos = _ at this
    omega
  have hsum : Duration.nanosOfAll (waits xs) ≤ schedule.total.nanos :=
    hexact ▸ Duration.nanosOfAll_le_of_prefix hwaits
  refine ⟨hlooks.mono (by simp only [Config.maxSteps] at hsteps; omega), hsum, htotal, hexact, ?_,
    fun d hd hlongest => ?_⟩
  · rw [Duration.nanos_foldl_add_zero]
    omega
  · have hd := Duration.nanos_le_of_mem hd
    have hnanos : d.nanos = maxNanos := by rw [hlongest]; rfl
    omega

theorem findDevice_budget_one_hour :
    let config : Config := ⟨"xfs", ⟨3600000, ⟨0x3FF0000000000000⟩, 2⟩, 30⟩
    let xs := ((findDevice config Signals.root "disk").run.record ScriptedHost.answer
      ScriptedHost.empty).1
    config.problem? = none ∧ waits xs = [Duration.ofSecs 3600] ∧
      InRounds (candidates (serial "disk")) 1000 (looks xs) ∧
        Duration.nanosOfAll (waits xs) ≤ 3600 * 1000000000 := by
  intro config xs
  have hconfig : config.problem? = none := by decide +kernel
  obtain ⟨hlooks, hsum, htotal, -⟩ := findDevice_budget (.inl hconfig) Signals.root "disk"
    ScriptedHost.answer ScriptedHost.empty
  exact ⟨hconfig, by decide +kernel, hlooks, Nat.le_trans hsum htotal⟩

end Volume

end BlockVolume
