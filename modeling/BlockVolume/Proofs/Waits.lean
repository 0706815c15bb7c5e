import BlockVolume.Proofs.LiveHost

namespace BlockVolume

theorem Instant.after?_eq_some_iff {t w : Instant} {d : Duration} :
    t.after? d = some w ↔ t.nanos + d.nanos < limit ∧ w.nanos = t.nanos + d.nanos := by
  obtain ⟨nanos⟩ := w
  unfold after?
  split
  · next h => simp [h, eq_comm]
  · next h => simp [h]

def CancelToken.looks (token : CancelToken) (moments : List Signals) : List (Instant × Bool) :=
  moments.map fun m => (m.now, m.isRaised token)

namespace Signals

/-- How things stand at the looks of a wait that is called at `s`. Before each of them, also before
the first, time has passed and others have cancelled tokens. -/
def moments (s : Signals) : List Interlude → List Signals
  | [] => []
  | i :: rest => s.after i :: moments (s.after i) rest

/-- By the time `t`, in the course of a wait that is called at `s`, the flag of the family was put
up. -/
def CancelledBy (s : Signals) (gaps : List Interlude) (family : Nat) (t : Instant) : Prop :=
  family ∈ s.raised ∨ ∃ before i after, gaps = before ++ i :: after ∧
    (∃ other ∈ i.cancelled, other.family = family) ∧
    ((before ++ [i]).foldl Signals.after s).now.nanos ≤ t.nanos

inductive EndsWait (s : Signals) (token : CancelToken) (d : Duration) (m : Signals) :
    WaitOutcome → Prop
  | elapsed (shown : s.now.nanos + d.nanos < Instant.limit)
      (late : s.now.nanos + d.nanos ≤ m.now.nanos) (lowered : token.family ∉ m.raised)
      (early : ∀ e ∈ token.deadline, m.now.nanos < e.nanos) : EndsWait s token d m .elapsed
  | cancelled (found : token.family ∈ m.raised ∨ ∃ e ∈ token.deadline, e.nanos ≤ m.now.nanos) :
      EndsWait s token d m .cancelled

variable {s m : Signals} {token : CancelToken} {d : Duration} {outcome : WaitOutcome}
  {gaps : List Interlude}

theorem later_of_mem_moments (h : m ∈ s.moments gaps) : s.Later m := by
  induction gaps generalizing s with
  | nil => cases h
  | cons i rest ih =>
      rcases List.mem_cons.1 h with rfl | h
      · exact later_after s i
      · exact (later_after s i).trans (ih h)

theorem cancelledBy_of_mem_moments {f : Nat} (h : m ∈ s.moments gaps) (hf : f ∈ m.raised) :
    s.CancelledBy gaps f m.now := by
  induction gaps generalizing s with
  | nil => cases h
  | cons i rest ih =>
      have hnow : (s.after i).now.nanos ≤ m.now.nanos := by
        rcases List.mem_cons.1 h with rfl | h
        · exact Nat.le_refl _
        · exact (later_of_mem_moments h).now
      -- who put it up before the first look did so in the first interlude
      have hfirst (hafter : f ∈ (s.after i).raised) : s.CancelledBy (i :: rest) f m.now := by
        by_cases hs : f ∈ s.raised
        · exact .inl hs
        · have hi : ∃ other ∈ i.cancelled, other.family = f := by
            refine Classical.byContradiction fun hnone => not_mem_raised_after hs ?_ hafter
            exact fun other hother heq => hnone ⟨other, hother, heq⟩
          exact .inr ⟨[], i, rest, rfl, hi, hnow⟩
      rcases List.mem_cons.1 h with rfl | h
      · exact hfirst hf
      · rcases ih h with hafter | ⟨before, j, after, rfl, hj, hby⟩
        · exact hfirst hafter
        · exact .inr ⟨i :: before, j, after, rfl, hj, hby⟩

theorem look_ends :
    token.look (s.now.after? d) (m.isRaised token) m.now = .inl outcome ↔
      s.EndsWait token d m outcome := by
  have hcancelled : token.isCancelledAt (m.isRaised token) m.now = true ↔
      token.family ∈ m.raised ∨ ∃ e ∈ token.deadline, e.nanos ≤ m.now.nanos :=
    isCancelled_iff m token
  cases outcome with
  | cancelled =>
      rw [look_eq_cancelled, hcancelled]
      refine ⟨.cancelled, fun h => ?_⟩
      cases h
      assumption
  | elapsed =>
      rw [look_eq_elapsed, ← Bool.not_eq_true, hcancelled, not_or]
      constructor
      · rintro ⟨⟨hlowered, hearly⟩, w, hw, hover⟩
        obtain ⟨hshown, hwake⟩ := Instant.after?_eq_some_iff.1 hw
        refine .elapsed hshown (hwake ▸ hover) hlowered fun e he => Nat.lt_of_not_le fun hpassed => ?_
        exact hearly ⟨e, he, hpassed⟩
      · rintro (⟨hshown, hover, hlowered, hearly⟩)
        refine ⟨⟨hlowered, fun ⟨e, he, hpassed⟩ => ?_⟩, _,
          Instant.after?_eq_some_iff.2 ⟨hshown, rfl⟩, hover⟩
        exact absurd (hearly e he) (Nat.not_lt.2 hpassed)

theorem waitOver_looks_eq_some_iff {ended : Instant} {moments : List Signals} :
    token.waitOver (s.now.after? d) (token.looks moments) = some (outcome, ended) ↔
      ∃ before m after, moments = before ++ m :: after ∧
        (s.EndsWait token d m outcome ∧ m.now = ended) ∧
        ∀ earlier ∈ before, ∀ other, ¬ s.EndsWait token d earlier other := by
  have hends (m : Signals) : (token.look (s.now.after? d) (m.isRaised token) m.now).getLeft?.map
      (·, m.now) = some (outcome, ended) ↔ s.EndsWait token d m outcome ∧ m.now = ended := by
    rw [← look_ends]
    cases token.look (s.now.after? d) (m.isRaised token) m.now <;> simp
  have hgoes (m : Signals) : (token.look (s.now.after? d) (m.isRaised token) m.now).getLeft?.map
      (·, m.now) = none ↔ ∀ other, ¬ s.EndsWait token d m other := by
    simp only [← look_ends]
    cases token.look (s.now.after? d) (m.isRaised token) m.now <;> simp
  rw [waitOver_eq_findSome?, CancelToken.looks, List.findSome?_map, List.findSome?_eq_some_iff]
  simp only [Function.comp_apply, hends, hgoes]

theorem exists_endsWait {ended : Instant}
    (h : token.waitOver (s.now.after? d) (token.looks (s.moments gaps)) = some (outcome, ended)) :
    ∃ m ∈ s.moments gaps, m.now = ended ∧ s.EndsWait token d m outcome := by
  obtain ⟨before, m, after, hmoments, ⟨hends, hnow⟩, -⟩ := waitOver_looks_eq_some_iff.1 h
  exact ⟨m, hmoments ▸ List.mem_append_cons_self, hnow, hends⟩

/-- The outcome of a wait is what the first look finds that can end it, whenever it looks. So its time
is not over if the token was cancelled at the call or its deadline comes no later than the end of
the time, or if the clock cannot show that end; and it is not cancelled if nobody cancels its token
and the deadline has not come. -/
theorem wait_outcome (s : Signals) (token : CancelToken) (d : Duration) (gaps : List Interlude) :
    let moments := s.moments gaps
    let result := token.waitOver (s.now.after? d) (token.looks moments)
    (∀ outcome ended, result = some (outcome, ended) ↔
      ∃ before m after, moments = before ++ m :: after ∧
        (s.EndsWait token d m outcome ∧ m.now = ended) ∧
        ∀ earlier ∈ before, ∀ other, ¬ s.EndsWait token d earlier other) ∧
    (s.isCancelled token = true ∨
        (∃ e ∈ token.deadline, e.nanos ≤ s.now.nanos + d.nanos) ∨ s.now.after? d = none →
      ∀ ended, result ≠ some (.elapsed, ended)) ∧
    ∀ ended, ¬ s.CancelledBy gaps token.family ended →
      (∀ e ∈ token.deadline, ended.nanos < e.nanos) → result ≠ some (.cancelled, ended) := by
  refine ⟨fun _ _ => waitOver_looks_eq_some_iff, fun hbound ended hresult => ?_,
    fun ended huncancelled hearly hresult => ?_⟩
  · obtain ⟨m, hm, rfl, hends⟩ := exists_endsWait hresult
    have hlater : s.Later m := later_of_mem_moments hm
    obtain ⟨hshown, hover, hlowered, hearly⟩ := hends
    rcases hbound with hcancelled | ⟨e, he, hpassed⟩ | hunshown
    · rcases (isCancelled_iff m token).1 (hlater.isCancelled hcancelled) with hraised | ⟨e, he, hpassed⟩
      · exact hlowered hraised
      · exact absurd (hearly e he) (Nat.not_lt.2 hpassed)
    · exact absurd (hearly e he) (Nat.not_lt.2 (Nat.le_trans hpassed hover))
    · rw [Instant.after?, if_pos hshown] at hunshown
      cases hunshown
  · obtain ⟨m, hm, rfl, hends⟩ := exists_endsWait hresult
    cases hends with
    | cancelled found =>
        rcases found with hraised | ⟨e, he, hpassed⟩
        · exact huncancelled (cancelledBy_of_mem_moments hm hraised)
        · exact absurd (hearly e he) (Nat.not_lt.2 hpassed)

example :
    let now : Instant := ⟨0⟩
    let s : Signals := { start with now }
    let second : Interlude := ⟨.ofSecs 1, []⟩
    let result (deadline : Option Instant) :=
      CancelToken.waitOver ⟨0, deadline⟩ (now.after? (.ofSecs 2))
        (CancelToken.looks ⟨0, deadline⟩ (s.moments [second, second, second]))
    result none = some (.elapsed, ⟨2000000000⟩) ∧
      result (some ⟨2000000000⟩) = some (.cancelled, ⟨2000000000⟩) := by
  decide

end Signals

end BlockVolume
