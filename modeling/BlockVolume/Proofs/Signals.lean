import BlockVolume.CancelToken

namespace BlockVolume

namespace Signals

structure Later (s t : Signals) : Prop where
  now : s.now.nanos ≤ t.now.nanos
  raised : ∀ f ∈ s.raised, f ∈ t.raised

theorem Later.refl (s : Signals) : Later s s := ⟨Nat.le_refl _, fun _ h => h⟩

theorem Later.trans {s t u : Signals} (hst : Later s t) (htu : Later t u) : Later s u :=
  ⟨Nat.le_trans hst.now htu.now, fun f hf => htu.raised f (hst.raised f hf)⟩

theorem isCancelledAt_iff {token : CancelToken} {raised : Bool} {now : Instant} :
    token.isCancelledAt raised now = true ↔
      raised = true ∨ ∃ d, token.deadline = some d ∧ d.nanos ≤ now.nanos := by
  cases hd : token.deadline <;> simp [CancelToken.isCancelledAt, hd, Instant.le]

theorem isCancelled_iff (s : Signals) (token : CancelToken) :
    s.isCancelled token = true ↔
      token.family ∈ s.raised ∨ ∃ d, token.deadline = some d ∧ d.nanos ≤ s.now.nanos := by
  simp [isCancelled, isRaised, isCancelledAt_iff]

theorem Later.isCancelled {s t : Signals} (h : Later s t) {token : CancelToken}
    (hs : s.isCancelled token = true) : t.isCancelled token = true := by
  rw [isCancelled_iff] at hs ⊢
  rcases hs with hf | ⟨d, hd, hn⟩
  · exact .inl (h.raised _ hf)
  · exact .inr ⟨d, hd, Nat.le_trans hn h.now⟩

theorem mem_raised_cancel {s : Signals} {token : CancelToken} {f : Nat} :
    f ∈ (s.cancel token).raised ↔ f = token.family ∨ f ∈ s.raised := by
  unfold cancel isRaised
  split
  · next h =>
      have : token.family ∈ s.raised := by simpa using h
      constructor
      · exact .inr
      · rintro (rfl | hf) <;> assumption
  · simp

theorem now_cancel (s : Signals) (token : CancelToken) : (s.cancel token).now = s.now := by
  unfold cancel
  split <;> rfl

theorem later_cancel (s : Signals) (token : CancelToken) : Later s (s.cancel token) :=
  ⟨Nat.le_of_eq (congrArg _ (now_cancel s token).symm), fun _ hf => mem_raised_cancel.2 (.inr hf)⟩

theorem later_advanceTo (s : Signals) (t : Instant) : Later s (s.advanceTo t) := by
  refine ⟨?_, fun _ h => h⟩
  simp only [advanceTo, Instant.max]
  split
  · next h => simpa [Instant.le] using h
  · exact Nat.le_refl _

theorem later_wait (s : Signals) (token : CancelToken) (d : Duration) :
    Later s (s.wait token d).2 := later_advanceTo s _

theorem later_cancelAll (tokens : List CancelToken) (s : Signals) :
    Later s (tokens.foldl cancel s) := by
  induction tokens generalizing s with
  | nil => exact .refl s
  | cons token rest ih => exact (later_cancel s token).trans (ih _)

/-- A token is cancelled, or the clock stands where it can show no further point: a wait that ends
there is one that nothing ended. -/
def Over (s : Signals) (token : CancelToken) : Prop :=
  s.isCancelled token = true ∨ Instant.limit ≤ s.now.nanos

theorem le_now_advanceTo (s : Signals) (t : Instant) : t.nanos ≤ (s.advanceTo t).now.nanos := by
  simp only [advanceTo, Instant.max]
  split
  · exact Nat.le_refl _
  · next h =>
      simp only [Instant.le, decide_eq_true_eq, Nat.not_le] at h
      exact Nat.le_of_lt h

/-- A wait during which nobody raises the flag looks at the clock now and later, and sees the flag
as it is now. -/
theorem mem_exactLooks {s : Signals} {token : CancelToken} {wakeAt : Option Instant}
    {look : Instant × Bool} (h : look ∈ s.exactLooks token wakeAt none) :
    s.now.nanos ≤ look.1.nanos ∧ look.2 = s.isRaised token := by
  simp only [exactLooks, List.mem_map, List.mem_mergeSort, List.mem_cons, List.mem_filter] at h
  obtain ⟨x, hx, rfl⟩ := h
  refine ⟨?_, by simp⟩
  rcases hx with rfl | ⟨-, hx⟩
  · exact Nat.le_refl _
  · simpa [Instant.le] using hx

theorem exactLooks_ne_nil (s : Signals) (token : CancelToken) (wakeAt cancelAt : Option Instant) :
    s.exactLooks token wakeAt cancelAt ≠ [] := by
  intro h
  have := congrArg List.length h
  simp [exactLooks] at this

theorem look_eq_cancelled {token : CancelToken} {wakeAt : Option Instant} {raised : Bool}
    {now : Instant} :
    token.look wakeAt raised now = .inl .cancelled ↔ token.isCancelledAt raised now = true := by
  unfold CancelToken.look
  split
  · next h => simp [h]
  · next h =>
      simp only [h, iff_false, Bool.false_eq_true]
      split
      · split <;> simp
      · simp

theorem look_eq_elapsed {token : CancelToken} {wakeAt : Option Instant} {raised : Bool}
    {now : Instant} :
    token.look wakeAt raised now = .inl .elapsed ↔
      token.isCancelledAt raised now = false ∧ ∃ w ∈ wakeAt, w.nanos ≤ now.nanos := by
  unfold CancelToken.look
  cases hcancelled : token.isCancelledAt raised now with
  | true => simp
  | false =>
      cases wakeAt with
      | none => simp
      | some w => simp [Instant.le]

theorem waitOver_eq_findSome? (token : CancelToken) (wakeAt : Option Instant)
    (looks : List (Instant × Bool)) :
    token.waitOver wakeAt looks = looks.findSome? fun look =>
      (token.look wakeAt look.2 look.1).getLeft?.map fun outcome => (outcome, look.1) := by
  induction looks with
  | nil => rfl
  | cons look rest ih =>
      obtain ⟨now, raised⟩ := look
      rw [CancelToken.waitOver, List.findSome?_cons, ih]
      cases token.look wakeAt raised now <;> rfl

theorem waitOver_cancelled {token : CancelToken} {wakeAt : Option Instant} {ended : Instant}
    {looks : List (Instant × Bool)} (h : token.waitOver wakeAt looks = some (.cancelled, ended)) :
    ∃ raised, (ended, raised) ∈ looks ∧ token.isCancelledAt raised ended = true := by
  rw [waitOver_eq_findSome?] at h
  obtain ⟨⟨now, raised⟩, hmem, hlook⟩ := List.exists_of_findSome?_eq_some h
  obtain ⟨outcome, hends, heq⟩ := Option.map_eq_some_iff.1 hlook
  cases heq
  exact ⟨raised, hmem, look_eq_cancelled.1 (Sum.getLeft?_eq_some_iff.1 hends)⟩

theorem wait_cancelled {s t : Signals} {token : CancelToken} {d : Duration}
    (h : s.wait token d = (.cancelled, t)) : t.Over token := by
  simp only [wait, waitUntil, Prod.mk.injEq] at h
  obtain ⟨hout, rfl⟩ := h
  cases hw : token.waitOver (s.now.after? d) (s.exactLooks token (s.now.after? d) none) with
  | none => exact .inr (le_now_advanceTo s _)
  | some e =>
      obtain ⟨outcome, ended⟩ := e
      simp only [hw, Option.getD_some] at hout ⊢
      subst hout
      obtain ⟨raised, hmem, hc⟩ := waitOver_cancelled hw
      obtain ⟨-, rfl⟩ := mem_exactLooks hmem
      have hn := le_now_advanceTo s ended
      refine .inl ((isCancelled_iff _ _).2 ?_)
      rcases isCancelledAt_iff.1 hc with hr | ⟨d, hd, hle⟩
      · exact .inl (by simpa [isRaised, advanceTo] using hr)
      · exact .inr ⟨d, hd, Nat.le_trans hle hn⟩

theorem wait_of_isCancelled {s : Signals} {token : CancelToken} (h : s.isCancelled token = true)
    (d : Duration) : (s.wait token d).1 = .cancelled := by
  simp only [wait, waitUntil]
  generalize s.now.after? d = wakeAt
  have hall : ∀ look ∈ s.exactLooks token wakeAt none,
      token.isCancelledAt look.2 look.1 = true := by
    intro look hl
    obtain ⟨hnow, hr⟩ := mem_exactLooks hl
    rw [isCancelled_iff] at h
    rw [isCancelledAt_iff, hr]
    rcases h with hf | ⟨e, he, hle⟩
    · exact .inl (by simpa [isRaised] using hf)
    · exact .inr ⟨e, he, Nat.le_trans hle hnow⟩
  cases hl : s.exactLooks token wakeAt none with
  | nil => exact absurd hl (exactLooks_ne_nil s token wakeAt none)
  | cons l rest =>
      have hc := hall l (hl ▸ List.mem_cons_self)
      simp [CancelToken.waitOver, look_eq_cancelled.2 hc]

end Signals

end BlockVolume
