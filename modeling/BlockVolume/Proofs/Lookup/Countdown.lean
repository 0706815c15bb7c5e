import BlockVolume.Proofs.LiveHost

namespace BlockVolume

/-- A count that may be missing is at most `n`. A missing one is beyond every number. -/
def Within (n : Nat) (count : Option Nat) : Prop := ∃ m ∈ count, m ≤ n

theorem within_some {n m : Nat} : Within n (some m) ↔ m ≤ n := by simp [Within]

theorem not_within_none {n : Nat} : ¬ Within n none := by simp [Within]

theorem within_zero {count : Option Nat} : Within 0 count ↔ count = some 0 := by
  cases count <;> simp [Within]

theorem within_merge {n : Nat} {a b : Option Nat} :
    Within n (a.merge min b) ↔ Within n a ∨ Within n b := by
  cases a with
  | none =>
      cases b with
      | none => simp [Within]
      | some b => simp [Within, Option.merge]
  | some a =>
      cases b with
      | none => simp [Within, Option.merge]
      | some b =>
          simp only [Option.merge, within_some]
          omega

theorem within_succ {n : Nat} {a : Option Nat} : Within (n + 1) (a.map (· + 1)) ↔ Within n a := by
  cases a <;> simp [Within]

theorem merge_succ (a b : Option Nat) :
    (a.map (· + 1)).merge min (b.map (· + 1)) = (a.merge min b).map (· + 1) := by
  cases a <;> cases b <;> simp [Option.merge, Nat.add_min_add_right]

theorem eq_succ_of_within {a b : Option Nat} (hb : ¬ Within 0 b)
    (h : ∀ n, Within n a ↔ Within (n + 1) b) : b = a.map (· + 1) := by
  cases b with
  | none =>
      cases a with
      | none => rfl
      | some a => exact absurd ((h a).1 (within_some.2 (Nat.le_refl a))) not_within_none
  | some b =>
      have hne : b ≠ 0 := fun h0 => hb (within_some.2 (Nat.le_of_eq h0))
      obtain ⟨b, rfl⟩ := Nat.exists_eq_succ_of_ne_zero hne
      have hab := (h b).2 (within_some.2 (Nat.le_refl _))
      cases a with
      | none => exact absurd hab not_within_none
      | some a =>
          have hba := within_some.1 ((h a).1 (within_some.2 (Nat.le_refl a)))
          have hab := within_some.1 hab
          rw [Option.map_some, Option.some.injEq]
          omega

namespace ScriptedHost

/-- After how many further waits the first of the pending paths is there that have these steps. A
path that is pending is there after one wait at the earliest. -/
def waitsAmong (steps : List Component) : List (List Component × Nat) → Option Nat
  | [] => none
  | x :: rest =>
    if x.1 = steps then (some (max x.2 1)).merge min (waitsAmong steps rest)
    else waitsAmong steps rest

def waitsFor (h : ScriptedHost) (p : Path) : Option Nat :=
  if h.has p then some 0 else waitsAmong p.components h.pending

def waitsForAny (h : ScriptedHost) (ps : List Path) : Option Nat :=
  (ps.map h.waitsFor).foldr (Option.merge min) none

/-- Which of the next waits, counted from one, is the first to begin with a token's flag being
raised, if any is. -/
def cancelIndex (h : ScriptedHost) (token : CancelToken) : Option Nat :=
  match h.cancelOnSleep with
  | some c => if c.token.family = token.family then some (max (c.nth - h.sleeps) 1) else none
  | none => none

theorem within_waitsAmong {steps : List Component} {pending : List (List Component × Nat)}
    {n : Nat} : Within n (waitsAmong steps pending) ↔
      ∃ x ∈ pending, x.1 = steps ∧ max x.2 1 ≤ n := by
  induction pending with
  | nil => simp [waitsAmong, Within]
  | cons x rest ih =>
      simp only [waitsAmong, List.mem_cons, or_and_right, exists_or, exists_eq_left]
      split
      · next hx => rw [within_merge, within_some, ih, and_iff_right hx]
      · next hx => rw [ih, or_iff_right fun h => hx h.1]

theorem within_waitsFor {h : ScriptedHost} {p : Path} {n : Nat} :
    Within n (h.waitsFor p) ↔
      h.has p = true ∨ ∃ x ∈ h.pending, x.1 = p.components ∧ max x.2 1 ≤ n := by
  unfold waitsFor
  split
  · next hp => simp [hp, within_some]
  · next hp => simp [hp, within_waitsAmong]

theorem within_zero_waitsFor {h : ScriptedHost} {p : Path} :
    Within 0 (h.waitsFor p) ↔ h.has p = true := by
  rw [within_waitsFor, or_iff_left]
  rintro ⟨x, -, -, hx⟩
  omega

theorem has_comeNearer {h : ScriptedHost} {p : Path} :
    h.comeNearer.has p = true ↔
      h.has p = true ∨ ∃ x ∈ h.pending, x.1 = p.components ∧ x.2 ≤ 1 := by
  simp only [has, comeNearer, List.contains_iff_mem, List.mem_append, List.mem_reverse,
    List.mem_map, List.mem_filter, decide_eq_true_eq, or_comm, and_assoc, and_comm]

theorem waitsFor_comeNearer {h : ScriptedHost} {p : Path} (hp : h.has p = false) :
    h.waitsFor p = (h.comeNearer.waitsFor p).map (· + 1) := by
  refine eq_succ_of_within (by simp [within_zero_waitsFor, hp]) fun n => ?_
  rw [within_waitsFor, within_waitsFor, has_comeNearer, or_assoc, hp]
  refine or_congr_right ⟨?_, ?_⟩
  · rintro (⟨x, hx, hsteps, hdue⟩ | ⟨x, hx, hsteps, hn⟩)
    · exact ⟨x, hx, hsteps, by omega⟩
    · simp only [comeNearer, List.mem_map, List.mem_filter, decide_eq_true_eq] at hx
      obtain ⟨y, ⟨hy, -⟩, rfl⟩ := hx
      exact ⟨y, hy, hsteps, by dsimp only at hn; omega⟩
  · rintro ⟨x, hx, hsteps, hn⟩
    by_cases hdue : x.2 ≤ 1
    · exact .inl ⟨x, hx, hsteps, hdue⟩
    · refine .inr ⟨(x.1, x.2 - 1), ?_, hsteps, by dsimp only; omega⟩
      exact List.mem_map.2 ⟨x, List.mem_filter.2 ⟨hx, by simpa using hdue⟩, rfl⟩

theorem waitsForAny_eq_succ {h t : ScriptedHost} {ps : List Path}
    (hps : ∀ p ∈ ps, h.waitsFor p = (t.waitsFor p).map (· + 1)) :
    h.waitsForAny ps = (t.waitsForAny ps).map (· + 1) := by
  induction ps with
  | nil => rfl
  | cons p ps ih =>
      obtain ⟨hp, hps⟩ := List.forall_mem_cons.1 hps
      have ih := ih hps
      simp only [waitsForAny, List.map_cons, List.foldr_cons, hp] at ih ⊢
      rw [ih, merge_succ]

theorem within_waitsForAny {h : ScriptedHost} {ps : List Path} {n : Nat} :
    Within n (h.waitsForAny ps) ↔ ∃ p ∈ ps, Within n (h.waitsFor p) := by
  induction ps with
  | nil => simp [waitsForAny, Within]
  | cons p ps ih =>
      simp only [List.mem_cons, or_and_right, exists_or, exists_eq_left, ← ih]
      exact within_merge

theorem one_le_cancelIndex {h : ScriptedHost} {token : CancelToken} :
    ¬ Within 0 (h.cancelIndex token) := by
  unfold cancelIndex
  split
  · split
    · rw [within_some]
      omega
    · exact not_within_none
  · exact not_within_none

/-- A flag that is not raised is raised by the wait that is to raise it and by no other. -/
theorem mem_raised_signalsOfSleep {h : ScriptedHost} {token : CancelToken}
    (hf : token.family ∉ h.signals.raised) :
    token.family ∈ h.signalsOfSleep.raised ↔ h.cancelIndex token = some 1 := by
  unfold signalsOfSleep cancelIndex
  cases h.cancelOnSleep with
  | none => simp [hf]
  | some c =>
      dsimp only
      by_cases hfamily : c.token.family = token.family
      · rw [if_pos hfamily, Option.some.injEq]
        split
        · next hn =>
            simp only [Signals.mem_raised_cancel, hfamily, true_or, true_iff]
            omega
        · next hn =>
            simp only [hf, false_iff]
            omega
      · rw [if_neg hfamily]
        split
        · simp [Signals.mem_raised_cancel, hf, Ne.symm hfamily]
        · simp [hf]

theorem cancelIndex_eq_succ {h t : ScriptedHost} {token : CancelToken}
    (hc : h.cancelIndex token ≠ some 1) (hcancel : t.cancelOnSleep = h.cancelOnSleep)
    (hsleeps : t.sleeps = h.sleeps + 1) :
    h.cancelIndex token = (t.cancelIndex token).map (· + 1) := by
  unfold cancelIndex at *
  rw [hcancel, hsleeps]
  cases hs : h.cancelOnSleep with
  | none => rfl
  | some c =>
      simp only [hs] at hc ⊢
      split
      · next hfamily =>
          rw [if_pos hfamily, ne_eq, Option.some.injEq] at hc
          rw [Option.map_some, Option.some.injEq]
          omega
      · rfl

theorem sleep_of_instant {h : ScriptedHost} (hclock : h.realClock = false) (d : Duration)
    (token : CancelToken) :
    h.sleep d token =
      let begun := { h with sleeps := h.sleeps + 1, signals := h.signalsOfSleep }
      if h.signalsOfSleep.isCancelled token then (.cancelled, begun)
      else (.elapsed, (begun.remember (.sleep d)).comeNearer) := by
  simp only [sleep, outcomeOfSleep, beginSleep_eq, hclock, Bool.false_eq_true, if_false]
  cases h.signalsOfSleep.isCancelled token <;> rfl

end ScriptedHost

namespace Signals

def DeadlineAhead (s : Signals) (token : CancelToken) : Prop :=
  ∀ d, token.deadline = some d → s.now.nanos < d.nanos

theorem Later.deadlineAhead {s t : Signals} (h : Later s t) {token : CancelToken}
    (ht : t.DeadlineAhead token) : s.DeadlineAhead token :=
  fun d hd => Nat.lt_of_le_of_lt h.now (ht d hd)

theorem DeadlineAhead.isCancelled_iff {s : Signals} {token : CancelToken}
    (h : s.DeadlineAhead token) : s.isCancelled token = true ↔ token.family ∈ s.raised := by
  rw [Signals.isCancelled_iff]
  refine or_iff_left ?_
  rintro ⟨d, hd, hle⟩
  exact absurd (h d hd) (Nat.not_lt.2 hle)

end Signals

end BlockVolume
