import BlockVolume.Proofs.Lookup.Countdown
import BlockVolume.Proofs.Lookup.Trace

namespace BlockVolume

namespace HostAction

def isSleep : HostAction → Bool
  | .sleep _ => true
  | _ => false

def isTrigger : HostAction → Bool
  | .command program args _ => program = "udevadm" && args = ["trigger"]
  | _ => false

end HostAction

structure Tally where
  sleeps : Nat
  rescans : Nat
  stats : Nat
  deriving DecidableEq

namespace Tally

def ofActions (actions : List HostAction) : Tally :=
  ⟨actions.countP HostAction.isSleep, actions.countP HostAction.isTrigger,
    actions.countP HostAction.isStat⟩

instance : Add Tally :=
  ⟨fun a b => ⟨a.sleeps + b.sleeps, a.rescans + b.rescans, a.stats + b.stats⟩⟩

theorem add_eq (a b c d e f : Nat) :
    (⟨a, b, c⟩ : Tally) + ⟨d, e, f⟩ = ⟨a + d, b + e, c + f⟩ := rfl

theorem round_add (n sleeps rescans m rest : Nat) :
    (⟨1, 1, n⟩ : Tally) + ⟨sleeps, rescans, n * m + rest⟩ =
      ⟨sleeps + 1, rescans + 1, n * (m + 1) + rest⟩ := by
  rw [add_eq, Nat.mul_succ]
  congr 1 <;> omega

theorem ofActions_append (as bs : List HostAction) :
    ofActions (as ++ bs) = ofActions as + ofActions bs := by
  simp [ofActions, add_eq]

theorem ofActions_stats (ps : List Path) :
    ofActions (ps.map .stat) = ⟨0, 0, ps.length⟩ := by
  induction ps with
  | nil => rfl
  | cons p ps ih =>
      rw [List.map_cons, ← List.singleton_append, ofActions_append, ih, List.length_cons,
        Nat.add_comm ps.length]
      rfl

theorem ofActions_rescan (config : Config) (names : List String) :
    ofActions (Volume.rescanActions config names) = ⟨0, 1, 0⟩ := by
  have hwrites : ofActions (names.map fun name =>
      .writeFile (Volume.scanFile name) Volume.scanRequest) = ⟨0, 0, 0⟩ := by
    induction names with
    | nil => rfl
    | cons name names ih =>
        rw [List.map_cons, ← List.singleton_append, ofActions_append, ih]
        rfl
  rw [Volume.rescanActions_eq, ← List.singleton_append, ofActions_append, ofActions_append, hwrites]
  rfl

theorem ofActions_round (ps : List Path) (config : Config) (names : List String) (d : Duration)
    (as : List HostAction) :
    ofActions (ps.map .stat ++ Volume.rescanActions config names ++ .sleep d :: as) =
      ⟨1, 1, ps.length⟩ + ofActions as := by
  have hsleep : ofActions [.sleep d] = ⟨1, 0, 0⟩ := rfl
  rw [← List.singleton_append, ofActions_append, ofActions_append, ofActions_append,
    ofActions_stats, ofActions_rescan, hsleep]
  rcases ofActions as with ⟨a, b, c⟩
  simp [add_eq]

end Tally

/-- What belongs to each end of a lookup on a host, if it had `n` delays: after how many waits some
candidate is there and at which one the token is cancelled, and how many waits, rescans and looks
were made. -/
def LookupEnd.Due (h : ScriptedHost) (token : CancelToken) (ps : List Path) (n : Nat)
    (tally : Tally) : LookupEnd → Prop
  | .found p => ∃ k higher lower, ps = higher ++ p :: lower ∧
      h.waitsForAny ps = some k ∧ k ≤ n ∧ ¬ Within k (h.cancelIndex token) ∧
        (∀ q ∈ higher, ¬ Within k (h.waitsFor q)) ∧ Within k (h.waitsFor p) ∧
          tally = ⟨k, k, ps.length * k + (higher.length + 1)⟩
  | .failed _ => False
  | .cancelled => ∃ c, h.cancelIndex token = some (c + 1) ∧ c + 1 ≤ n ∧
      ¬ Within c (h.waitsForAny ps) ∧ tally = ⟨c, c + 1, ps.length * (c + 1)⟩
  | .exhausted => ¬ Within n (h.waitsForAny ps) ∧ ¬ Within n (h.cancelIndex token) ∧
      tally = ⟨n, n, ps.length * (n + 1)⟩

theorem LookupEnd.Due.after_round {h t : ScriptedHost} {token : CancelToken} {ps : List Path}
    {n : Nat} {tally : Tally} {e : LookupEnd} (he : e.Due t token ps n tally)
    (hindex : h.cancelIndex token = (t.cancelIndex token).map (· + 1))
    (hwaits : ∀ p ∈ ps, h.waitsFor p = (t.waitsFor p).map (· + 1)) :
    e.Due h token ps (n + 1) (⟨1, 1, ps.length⟩ + tally) := by
  have hany := ScriptedHost.waitsForAny_eq_succ hwaits
  have hcancel (m : Nat) :
      Within (m + 1) (h.cancelIndex token) ↔ Within m (t.cancelIndex token) := by
    rw [hindex, within_succ]
  have hwait (m : Nat) {p : Path} (hp : p ∈ ps) :
      Within (m + 1) (h.waitsFor p) ↔ Within m (t.waitsFor p) := by
    rw [hwaits p hp, within_succ]
  have hwaitAny (m : Nat) : Within (m + 1) (h.waitsForAny ps) ↔ Within m (t.waitsForAny ps) := by
    rw [hany, within_succ]
  cases e with
  | found p =>
      obtain ⟨k, higher, lower, rfl, hk, hkn, hkc, habsent, hpresent, rfl⟩ := he
      refine ⟨k + 1, higher, lower, rfl, by rw [hany, hk]; rfl, Nat.succ_le_succ hkn,
        mt (hcancel k).1 hkc, fun q hq => ?_, (hwait k (by simp)).2 hpresent,
        Tally.round_add ..⟩
      exact mt (hwait k (List.mem_append_left _ hq)).1 (habsent q hq)
  | failed error => exact he
  | cancelled =>
      obtain ⟨c, hc, hcn, hcw, rfl⟩ := he
      exact ⟨c + 1, by rw [hindex, hc]; rfl, Nat.succ_le_succ hcn, mt (hwaitAny c).1 hcw,
        Tally.round_add ps.length c (c + 1) (c + 1) 0⟩
  | exhausted =>
      obtain ⟨hw, hc, rfl⟩ := he
      exact ⟨mt (hwaitAny n).1 hw, mt (hcancel n).1 hc, Tally.round_add ps.length n n (n + 1) 0⟩

namespace Volume

open LiveHost

/-- A host without a clock of its own, on which no SCSI host has a name with a slash and nobody
cancels a token but the wait that is to do so. -/
structure Steady (token : CancelToken) (s : LiveHost) : Prop where
  clock : s.host.realClock = false
  names : ∀ name ∈ s.host.scsiHosts, '/' ∉ name.toList
  ahead : ∀ i ∈ s.ahead, ∀ other ∈ i.cancelled, other.family ≠ token.family

theorem Steady.scanned {token : CancelToken} {s t : LiveHost} (hs : Steady token s)
    {names : List String} (h : Scanned names s t) : Steady token t := by
  obtain ⟨passed, hahead, -⟩ := h.signals
  refine ⟨?_, ?_, fun i hi => hs.ahead i (hahead ▸ List.mem_append_right _ hi)⟩
  · rw [h.host]
    exact hs.clock
  · rw [scsiHosts_of_scanned h]
    exact hs.names

theorem Steady.lowered {token : CancelToken} {s t : LiveHost} (hs : Steady token s)
    {names : List String} (h : Scanned names s t) (hl : token.family ∉ s.host.signals.raised) :
    token.family ∉ t.host.signals.raised := by
  obtain ⟨passed, hahead, hsignals⟩ := h.signals
  have hpassed : ∀ i ∈ passed, ∀ other ∈ i.cancelled, other.family ≠ token.family :=
    fun i hi => hs.ahead i (hahead ▸ List.mem_append_left _ hi)
  rw [hsignals]
  clear hsignals hahead
  generalize s.host.signals = u at hl ⊢
  induction passed generalizing u with
  | nil => exact hl
  | cons i rest ih =>
      obtain ⟨hi, hrest⟩ := List.forall_mem_cons.1 hpassed
      exact ih hrest _ (Signals.not_mem_raised_after hl hi)

/-- A host without a clock of its own, on which the candidates of a serial can be looked at and no
SCSI host has a name with a slash, and on which nobody cancels a token but the wait that is to do
so. -/
structure Undisturbed (serial : String) (token : CancelToken) (s : LiveHost) : Prop where
  clock : s.host.realClock = false
  names : ∀ name ∈ s.host.scsiHosts, '/' ∉ name.toList
  failures : ∀ p ∈ candidates serial, s.host.statFailures.lookup p.components = none
  errnos : ∀ p ∈ candidates serial, s.host.statErrnos.lookup p.components = none
  lowered : token.family ∉ s.host.signals.raised
  ahead : ∀ i ∈ s.ahead, ∀ other ∈ i.cancelled, other.family ≠ token.family

section

variable {serial : String} {token : CancelToken} {s t : LiveHost}

theorem Undisturbed.steady (hs : Undisturbed serial token s) : Steady token s :=
  ⟨hs.clock, hs.names, hs.ahead⟩

theorem Undisturbed.stat (hs : Undisturbed serial token s) {p : Path} (hp : p ∈ candidates serial) :
    s.host.stat p = .ok (s.host.has p) := by
  simp [ScriptedHost.stat, hs.failures p hp, hs.errnos p hp]

theorem Undisturbed.scanned (hs : Undisturbed serial token s) {names : List String}
    (h : Scanned names s t) : Undisturbed serial token t := by
  have ht := hs.steady.scanned h
  refine ⟨ht.clock, ht.names, ?_, ?_, hs.steady.lowered h hs.lowered, ht.ahead⟩
  · rw [h.host]
    exact hs.failures
  · rw [h.host]
    exact hs.errnos

theorem has_of_scanned {names : List String} (hnames : ∀ name ∈ names, '/' ∉ name.toList)
    (h : Scanned names s t) {p : Path} (hp : p ∈ candidates serial) :
    t.host.has p = s.host.has p := by
  have hnot : p.components ∉ s.host.scanned names := by
    intro hmem
    obtain ⟨hmem, -⟩ := List.mem_filter.1 hmem
    obtain ⟨name, hname, hscan⟩ := List.mem_map.1 hmem
    exact scanFile_ne_candidate (hnames name hname) hp hscan
  rw [h.host]
  simp [ScriptedHost.has, hnot]

theorem waitsFor_of_scanned {names : List String} (hnames : ∀ name ∈ names, '/' ∉ name.toList)
    (h : Scanned names s t) {p : Path} (hp : p ∈ candidates serial) :
    t.host.waitsFor p = s.host.waitsFor p := by
  have hpending : t.host.pending = s.host.pending := by rw [h.host]
  rw [ScriptedHost.waitsFor, ScriptedHost.waitsFor, has_of_scanned hnames h hp, hpending]

theorem cancelIndex_of_scanned {names : List String} (h : Scanned names s t) :
    t.host.cancelIndex token = s.host.cancelIndex token := by
  rw [h.host]
  rfl

theorem Steady.elapsed (hs : Steady token s) (hl : token.family ∉ s.host.signals.raised)
    {d : Duration} (h : answer (.sleep d token) s = (.elapsed, t)) :
    Steady token t ∧ token.family ∉ t.host.signals.raised ∧
      s.host.cancelIndex token = (t.host.cancelIndex token).map (· + 1) := by
  have hproceed := scanned_proceed s
  have hu := hs.scanned hproceed
  have hlowered := hs.lowered hproceed hl
  rw [← cancelIndex_of_scanned hproceed]
  simp only [answer, ScriptedHost.answer, ScriptedHost.sleep_of_instant hu.clock] at h
  split at h
  · cases h
  · next hlive =>
      cases h
      have hstill : token.family ∉ s.proceed.host.signalsOfSleep.raised := fun hf =>
        hlive ((Signals.isCancelled_iff _ _).2 (.inl hf))
      have hlater := mt (ScriptedHost.mem_raised_signalsOfSleep hlowered).2 hstill
      exact ⟨⟨hu.clock, hu.names, hu.ahead⟩, hstill,
        ScriptedHost.cancelIndex_eq_succ hlater rfl rfl⟩

theorem Steady.cancelled (hs : Steady token s) (hl : token.family ∉ s.host.signals.raised)
    {d : Duration} (h : answer (.sleep d token) s = (.cancelled, t))
    (hd : t.host.signals.DeadlineAhead token) : s.host.cancelIndex token = some 1 := by
  have hproceed := scanned_proceed s
  have hlowered := hs.lowered hproceed hl
  rw [← cancelIndex_of_scanned hproceed]
  simp only [answer, ScriptedHost.answer,
    ScriptedHost.sleep_of_instant (hs.scanned hproceed).clock] at h
  split at h
  · next hover =>
      cases h
      exact (ScriptedHost.mem_raised_signalsOfSleep hlowered).1 (hd.isCancelled_iff.1 hover)
  · cases h

theorem Undisturbed.elapsed (hs : Undisturbed serial token s) {d : Duration}
    (h : answer (.sleep d token) s = (.elapsed, t)) :
    Undisturbed serial token t ∧
      s.host.cancelIndex token = (t.host.cancelIndex token).map (· + 1) ∧
        ∀ p ∈ candidates serial, s.host.has p = false →
          s.host.waitsFor p = (t.host.waitsFor p).map (· + 1) := by
  obtain ⟨ht, hlowered, hindex⟩ := hs.steady.elapsed hs.lowered h
  obtain ⟨signals, hhost⟩ := host_of_sleep h
  refine ⟨⟨ht.clock, ht.names, ?_, ?_, hlowered, ht.ahead⟩, hindex, fun p hp hh => ?_⟩
  · rw [hhost]
    exact hs.failures
  · rw [hhost]
    exact hs.errnos
  · rw [hhost]
    exact ScriptedHost.waitsFor_comeNearer hh

theorem Undisturbed.has_of_stat (hs : Undisturbed serial token s) (idle : Scanned [] s t)
    {p : Path} (hp : p ∈ candidates serial) {present : Bool}
    (h : t.host.stat p = .ok present) : s.host.has p = present := by
  rw [stat_of_scanned idle, hs.stat hp] at h
  exact Except.ok.inj h

theorem Undisturbed.has_of_attempt (hs : Undisturbed serial token s) (idle : Scanned [] s t)
    {xs : List (Plan.Exchange Host)} (ha : Attempt t.host (candidates serial) xs (.ok none)) :
    ∀ p ∈ candidates serial, s.host.has p = false := by
  cases ha with
  | absent absent => exact fun p hp => hs.has_of_stat idle hp (absent p hp)

theorem Undisturbed.not_within_zero (hs : Undisturbed serial token s) (idle : Scanned [] s t)
    {xs : List (Plan.Exchange Host)} (ha : Attempt t.host (candidates serial) xs (.ok none)) :
    ¬ Within 0 (s.host.waitsForAny (candidates serial)) := by
  rw [ScriptedHost.within_waitsForAny]
  rintro ⟨p, hp, hzero⟩
  have habsent := hs.has_of_attempt idle ha p hp
  rw [ScriptedHost.within_zero_waitsFor.1 hzero] at habsent
  cases habsent

theorem Undisturbed.after_round (hs : Undisturbed serial token s) {config : Config} {d : Duration}
    {u v : LiveHost} {xs ys : List (Plan.Exchange Host)} (idle : Scanned [] s t)
    (attempt : Attempt t.host (candidates serial) xs (.ok none)) (rescan : Rescanned config ys t u)
    (wait : answer (.sleep d token) u = (.elapsed, v)) :
    Undisturbed serial token v ∧
      s.host.cancelIndex token = (v.host.cancelIndex token).map (· + 1) ∧
        ∀ p ∈ candidates serial, s.host.waitsFor p = (v.host.waitsFor p).map (· + 1) := by
  have ht := hs.scanned idle
  have hscan := rescan.scanned
  obtain ⟨hv, hindex, hwaits⟩ := (ht.scanned hscan).elapsed wait
  refine ⟨hv, ?_, fun p hp => ?_⟩
  · rw [← hindex, cancelIndex_of_scanned hscan, cancelIndex_of_scanned idle]
  · have habsent : u.host.has p = false := by
      rw [has_of_scanned ht.names hscan hp, has_of_scanned (by simp) idle hp]
      exact hs.has_of_attempt idle attempt p hp
    rw [← hwaits p hp habsent, waitsFor_of_scanned ht.names hscan hp,
      waitsFor_of_scanned (by simp) idle hp]

theorem Undisturbed.interrupted (hs : Undisturbed serial token s) {config : Config} {d : Duration}
    {u v : LiveHost} {ys : List (Plan.Exchange Host)} (idle : Scanned [] s t)
    (rescan : Scanned [] t u ∧ ys = [] ∧ u.host.signals.isCancelled token = true ∨
      Rescanned config ys t u)
    (wait : answer (.sleep d token) u = (.cancelled, v))
    (hd : v.host.signals.DeadlineAhead token) :
    Rescanned config ys t u ∧ s.host.cancelIndex token = some 1 := by
  have ht := hs.scanned idle
  rcases rescan with ⟨hidle, -, hover⟩ | rescan
  · have hraised := ((later_answer wait).deadlineAhead hd).isCancelled_iff.1 hover
    exact absurd hraised (ht.scanned hidle).lowered
  · refine ⟨rescan, ?_⟩
    rw [← cancelIndex_of_scanned idle, ← cancelIndex_of_scanned rescan.scanned]
    have hu := ht.scanned rescan.scanned
    exact hu.steady.cancelled hu.lowered wait hd

theorem Attempt.due_found {xs : List (Plan.Exchange Host)} {p : Path}
    (ha : Attempt t.host (candidates serial) xs (.ok (some p))) (hs : Undisturbed serial token s)
    (idle : Scanned [] s t) (n : Nat) :
    LookupEnd.Due s.host token (candidates serial) n
      (Tally.ofActions (xs.filterMap HostAction.ofExchange?)) (.found p) := by
  cases ha with
  | @present higher p lower split absent present =>
      have hmem : p ∈ candidates serial := by simp [split]
      have hzero := ScriptedHost.within_zero_waitsFor.2 (hs.has_of_stat idle hmem present)
      have hany := within_zero.1 (ScriptedHost.within_waitsForAny.2 ⟨p, hmem, hzero⟩)
      refine ⟨0, higher, lower, split, hany, Nat.zero_le _, ScriptedHost.one_le_cancelIndex,
        fun q hq => ?_, hzero, ?_⟩
      · have hq' : q ∈ candidates serial := by simp [split, hq]
        rw [ScriptedHost.within_zero_waitsFor, hs.has_of_stat idle hq' (absent q hq)]
        exact Bool.false_ne_true
      · have hactions : (higher.map missing ++ [looked p (.ok true)]).filterMap
            HostAction.ofExchange? = (higher ++ [p]).map .stat := by simp
        rw [hactions, Tally.ofActions_stats]
        simp

theorem Course.due {config : Config} {ds : List Duration} {xs : List (Plan.Exchange Host)}
    {e : LookupEnd} (h : Course config token (candidates serial) ds s xs e t)
    (hs : Undisturbed serial token s) (hd : t.host.signals.DeadlineAhead token) :
    e.Due s.host token (candidates serial) ds.length
      (Tally.ofActions (xs.filterMap HostAction.ofExchange?)) := by
  induction h with
  | cancelled idle hover =>
      have hraised := hd.isCancelled_iff.1 hover
      exact absurd hraised (hs.scanned idle).lowered
  | found live idle attempt => exact attempt.due_found hs idle _
  | failed live idle attempt =>
      cases attempt with
      | @fault higher p lower e split absent fault =>
          rw [stat_of_scanned idle, hs.stat (by simp [split])] at fault
          cases fault
  | exhausted live idle attempt =>
      have hany := hs.not_within_zero idle attempt
      obtain ⟨rfl, -⟩ := attempt.fruitless
      refine ⟨hany, ScriptedHost.one_le_cancelIndex, ?_⟩
      simp [Tally.ofActions_stats]
  | interrupted live idle attempt rescan wait idle' =>
      have hany := hs.not_within_zero idle attempt
      obtain ⟨rescan, hindex⟩ := hs.interrupted idle rescan wait (idle'.later.deadlineAhead hd)
      obtain ⟨rfl, -⟩ := attempt.fruitless
      refine ⟨0, hindex, by simp, hany, ?_⟩
      simp [rescan.actions, List.filterMap_cons, Tally.ofActions_append, Tally.ofActions_stats,
        Tally.ofActions_rescan, Tally.add_eq]
  | @again d ds s t u v w xs ys zs e live idle attempt rescan wait rest ih =>
      obtain ⟨hv, hindex, hwaits⟩ := hs.after_round idle attempt rescan wait
      obtain ⟨rfl, -⟩ := attempt.fruitless
      have hround := (ih hv hd).after_round hindex hwaits
      rw [← Tally.ofActions_round _ config t.host.scsiHosts d] at hround
      simpa [rescan.actions] using hround

end

/-- On a host without a clock of its own, where some candidate is there after `k` waits, the token
is cancelled at the wait `c` and the schedule has `n` delays, a lookup finds the first candidate
that is there after `k` waits, if these are not too many for the schedule and come before the
cancellation. Else it is cancelled at the wait `c`, which is not remembered, if the schedule has so
many, and uses up the schedule if it has not. -/
theorem findDevice_hotPlug (config : Config) (token : CancelToken) (volume : String)
    (s : LiveHost) (hs : Undisturbed (serial volume) token s)
    (hd : ((findDevice config token volume).run.record answer s).2.2.host.signals.DeadlineAhead
      token) :
    let (xs, result, t) := (findDevice config token volume).run.record answer s
    let ks := s.host.waitsForAny (candidates (serial volume))
    let cs := s.host.cancelIndex token
    let n := config.retry.steps - 1
    ∃ done, t.host.actions = s.host.actions ++ done ∧
      done = (asked xs).filterMap HostAction.ofExchange? ∧
      (∀ k ∈ ks, k ≤ n → (∀ c ∈ cs, k < c) →
        ∃ higher p lower, candidates (serial volume) = higher ++ p :: lower ∧ result = .ok p ∧
          (∀ q ∈ higher, ¬ Within k (s.host.waitsFor q)) ∧ Within k (s.host.waitsFor p) ∧
          Tally.ofActions done = ⟨k, k, 3 * k + (higher.length + 1)⟩) ∧
      (∀ c ∈ cs, c ≤ n → (∀ k ∈ ks, c ≤ k) →
        result = .error (.deviceNotFound volume) ∧
          Tally.ofActions done = ⟨c - 1, c, 3 * c⟩) ∧
      ((∀ k ∈ ks, n < k) → (∀ c ∈ cs, n < c) →
        result = .error (.deviceNotFound volume) ∧
          Tally.ofActions done = ⟨n, n, 3 * (n + 1)⟩) := by
  rcases hrun : (findDevice config token volume).run.record answer s with ⟨xs, result, t⟩
  obtain ⟨e, hcourse, hresult⟩ := findDevice_course hrun
  have hactions := actions_record (findDevice config token volume).run s
  rw [hrun, ← filterMap_asked] at hactions
  rw [hrun] at hd
  refine ⟨_, hactions, rfl, ?_⟩
  have hdue := hcourse.due hs hd
  have hdelays : config.retry.schedule.delays.length = config.retry.steps - 1 :=
    RetrySchedule.length_delays _
  rw [hdelays] at hdue
  cases e with
  | failed e => exact hdue.elim
  | found p =>
      obtain ⟨m, higher, lower, hps, hm, hn, hc, hhigher, hp, htally⟩ := hdue
      rw [length_candidates] at htally
      refine ⟨fun k hk _ _ => ?_, fun c hcs _ hks => ?_, fun hks _ => ?_⟩
      · obtain rfl : m = k := Option.some.inj (hm.symm.trans hk)
        exact ⟨higher, p, lower, hps, hresult, hhigher, hp, htally⟩
      · exact absurd ⟨c, hcs, hks m hm⟩ hc
      · exact absurd hn (Nat.not_le.2 (hks m hm))
  | cancelled =>
      obtain ⟨m, hm, hn, hk, htally⟩ := hdue
      rw [length_candidates] at htally
      refine ⟨fun k hks _ hcs => ?_, fun c hc _ _ => ?_, fun _ hcs => ?_⟩
      · exact absurd ⟨k, hks, Nat.le_of_lt_succ (hcs _ hm)⟩ hk
      · obtain rfl : m + 1 = c := Option.some.inj (hm.symm.trans hc)
        exact ⟨hresult, htally⟩
      · exact absurd hn (Nat.not_le.2 (hcs _ hm))
  | exhausted =>
      obtain ⟨hk, hc, htally⟩ := hdue
      rw [length_candidates] at htally
      refine ⟨fun k hks hn _ => ?_, fun c hcs hn _ => ?_, fun _ _ => ⟨hresult, htally⟩⟩
      · exact absurd ⟨k, hks, hn⟩ hk
      · exact absurd ⟨c, hcs, hn⟩ hc

theorem findDevice_hotPlug_second_link :
    let token : CancelToken := ⟨0, some ⟨1000000000000⟩⟩
    let host := (ScriptedHost.empty.addListing scsiHostDirectory ["host0"]).addLater
      ⟨"/dev/disk/by-id/scsi-disk"⟩ 2
    let s : LiveHost := ⟨host, [⟨Duration.ofSecs 1, [⟨1, none⟩]⟩]⟩
    let (_, result, t) := (findDevice Config.standard token "disk").run.record answer s
    Undisturbed (serial "disk") token s ∧ t.host.signals.DeadlineAhead token ∧
      result = .ok ⟨"/dev/disk/by-id/scsi-disk"⟩ ∧
        ∃ done, t.host.actions = s.host.actions ++ done ∧
          Tally.ofActions done = ⟨2, 2, 3 * 2 + 2⟩ := by
  intro token host s
  have hs : Undisturbed (serial "disk") token s :=
    ⟨rfl, by decide, by decide, by decide, by decide, by decide⟩
  have hd : ((findDevice Config.standard token "disk").run.record answer
      s).2.2.host.signals.DeadlineAhead token := by
    intro d hd
    cases hd
    decide
  have hk : s.host.waitsForAny (candidates (serial "disk")) = some 2 := by decide
  have hc : s.host.cancelIndex token = none := rfl
  have hfirst : s.host.waitsFor ⟨"/dev/disk/by-id/virtio-disk"⟩ = none := by decide
  have hsecond : s.host.waitsFor ⟨"/dev/disk/by-id/scsi-disk"⟩ = some 2 := by decide
  have hlinks : candidates (serial "disk") =
      [⟨"/dev/disk/by-id/virtio-disk"⟩, ⟨"/dev/disk/by-id/scsi-disk"⟩,
        ⟨"/dev/disk/by-id/scsi-0QEMU_QEMU_HARDDISK_disk"⟩] := by decide
  clear_value s token
  obtain ⟨done, hdone, -, hfound, -⟩ := findDevice_hotPlug Config.standard token "disk" s hs hd
  obtain ⟨higher, p, lower, hps, hresult, hhigher, hp, htally⟩ :=
    hfound 2 hk (by decide) (by simp [hc])
  rw [hlinks] at hps
  refine ⟨hs, hd, ?_⟩
  match higher with
  | [] =>
      obtain ⟨rfl, -⟩ := List.cons.inj hps
      rw [hfirst] at hp
      exact absurd hp not_within_none
  | [q] =>
      obtain ⟨-, hps⟩ := List.cons.inj hps
      obtain ⟨rfl, -⟩ := List.cons.inj hps
      exact ⟨hresult, done, hdone, htally⟩
  | q :: r :: rest =>
      obtain ⟨-, hps⟩ := List.cons.inj hps
      obtain ⟨rfl, -⟩ := List.cons.inj hps
      have hr := hhigher _ (List.mem_cons_of_mem _ List.mem_cons_self)
      rw [hsecond, within_some] at hr
      exact absurd (Nat.le_refl 2) hr

end Volume

end BlockVolume
