import BlockVolume.Proofs.Signals
import Mathlib.Data.ENat.Lattice

namespace BlockVolume

namespace Instant

def orNever : Option Instant → ℕ∞
  | some t => t.nanos
  | none => ⊤

def limitAfter (now : Instant) (timeout : Duration) : ℕ∞ :=
  if now.nanos + timeout.nanos < limit then (now.nanos + timeout.nanos : Nat) else ⊤

theorem orNever_earliest? (a b : Option Instant) :
    orNever (earliest? a b) = Min.min (orNever a) (orNever b) := by
  cases a with
  | none => simp [earliest?, orNever]
  | some a =>
      cases b with
      | none => simp [earliest?, orNever]
      | some b =>
          simp only [earliest?, orNever, Instant.min, le, decide_eq_true_eq]
          split
          · next h => exact (min_eq_left (by exact_mod_cast h)).symm
          · next h => exact (min_eq_right (by exact_mod_cast Nat.le_of_not_le h)).symm

theorem orNever_after? (now : Instant) (timeout : Duration) :
    orNever (now.after? timeout) = now.limitAfter timeout := by
  unfold after? limitAfter
  split <;> rfl

end Instant

namespace CancelToken

def endsAt (t : CancelToken) : ℕ∞ := Instant.orNever t.deadline

theorem endsAt_within (t : CancelToken) (now : Instant) (timeout : Duration) :
    (t.within now timeout).endsAt = min t.endsAt (now.limitAfter timeout) := by
  rw [endsAt, within, Instant.orNever_earliest?, Instant.orNever_after?, endsAt]

end CancelToken

theorem Signals.isCancelled_iff_endsAt {s : Signals} {t : CancelToken} :
    s.isCancelled t = true ↔ t.family ∈ s.raised ∨ t.endsAt ≤ s.now.nanos := by
  rw [Signals.isCancelled_iff, CancelToken.endsAt]
  cases t.deadline <;> simp [Instant.orNever]

inductive TokenEvent
  | create
  | createWithin (timeout : Duration)
  | derive (parent : Nat) (timeout : Duration)
  | clone (original : Nat)
  | cancel (index : Nat)
  | pass (elapsed : Duration)

structure MadeToken where
  token : CancelToken
  origin : Option Nat

structure TokenPool where
  signals : Signals
  made : List MadeToken

namespace TokenPool

def start (now : Instant) : TokenPool := ⟨{ Signals.start with now }, []⟩

def token? (p : TokenPool) (i : Nat) : Option CancelToken := p.made[i]?.map MadeToken.token

def isCancelled (p : TokenPool) (i : Nat) : Bool := (p.token? i).any p.signals.isCancelled

def make (p : TokenPool) (token : CancelToken) (origin : Option Nat) : TokenPool :=
  { p with made := p.made ++ [⟨token, origin⟩] }

/-- What is done with a token that was not made has no effect. -/
def step (p : TokenPool) : TokenEvent → TokenPool
  | .create =>
    let (token, signals) := p.signals.fresh
    make { p with signals } token none
  | .createWithin timeout =>
    let (token, signals) := p.signals.fresh
    make { p with signals } (token.within p.signals.now timeout) none
  | .derive i timeout =>
    match p.token? i with
    | some token => p.make (token.within p.signals.now timeout) (some i)
    | none => p
  | .clone i =>
    match p.token? i with
    | some token => p.make token (some i)
    | none => p
  | .cancel i =>
    match p.token? i with
    | some token => { p with signals := p.signals.cancel token }
    | none => p
  | .pass elapsed => { p with signals := p.signals.advance elapsed }

def run (p : TokenPool) (events : List TokenEvent) : TokenPool := events.foldl step p

/-- The token `i` was derived or cloned, in so many steps, from `r`, which was made anew. -/
inductive From (p : TokenPool) (r : Nat) : Nat → Prop
  | root {x} (made : p.made[r]? = some x) (anew : x.origin = none) : From p r r
  | child {i j x} (made : p.made[j]? = some x) (origin : x.origin = some i) (above : From p r i) :
      From p r j

def SameRoot (p : TokenPool) (i j : Nat) : Prop := ∃ r, From p r i ∧ From p r j

variable {p q : TokenPool} {i j r : Nat} {token : CancelToken}

theorem token?_eq_some : p.token? i = some token ↔ ∃ x, p.made[i]? = some x ∧ x.token = token :=
  Option.map_eq_some_iff

theorem isCancelled_iff :
    p.isCancelled i = true ↔
      ∃ token, p.token? i = some token ∧ p.signals.isCancelled token = true := by
  unfold isCancelled
  cases p.token? i <;> simp

theorem isCancelled_of_token? (h : p.token? i = some token) :
    p.isCancelled i = p.signals.isCancelled token := by
  rw [isCancelled, h]
  rfl

structure Grown (p q : TokenPool) : Prop where
  later : p.signals.Later q.signals
  made : p.made <+: q.made

theorem Grown.refl (p : TokenPool) : Grown p p := ⟨.refl _, List.prefix_refl _⟩

theorem Grown.trans {u : TokenPool} (hpq : Grown p q) (hqu : Grown q u) : Grown p u :=
  ⟨hpq.later.trans hqu.later, hpq.made.trans hqu.made⟩

theorem Grown.made_of (h : Grown p q) {x : MadeToken} (hi : p.made[i]? = some x) :
    q.made[i]? = some x := by
  obtain ⟨rest, hrest⟩ := h.made
  rw [← hrest, List.getElem?_append_left (List.getElem?_eq_some_iff.1 hi).1, hi]

theorem Grown.token? (h : Grown p q) (hi : p.token? i = some token) : q.token? i = some token := by
  obtain ⟨x, hx, ht⟩ := token?_eq_some.1 hi
  exact token?_eq_some.2 ⟨x, h.made_of hx, ht⟩

theorem Grown.isCancelled (h : Grown p q) (hi : p.isCancelled i = true) :
    q.isCancelled i = true := by
  obtain ⟨token, ht, hc⟩ := isCancelled_iff.1 hi
  exact isCancelled_iff.2 ⟨token, h.token? ht, h.later.isCancelled hc⟩

theorem grown_make (p : TokenPool) (token : CancelToken) (origin : Option Nat) :
    Grown p (p.make token origin) :=
  ⟨.refl _, List.prefix_append ..⟩

theorem grown_fresh (p : TokenPool) : Grown p { p with signals := p.signals.fresh.2 } :=
  ⟨⟨Nat.le_refl _, fun _ h => h⟩, List.prefix_refl _⟩

theorem grown_step (p : TokenPool) (event : TokenEvent) : Grown p (p.step event) := by
  cases event with
  | create => exact (grown_fresh p).trans (grown_make _ _ _)
  | createWithin timeout => exact (grown_fresh p).trans (grown_make _ _ _)
  | derive i timeout =>
      simp only [step]
      split
      · exact grown_make _ _ _
      · exact .refl p
  | clone i =>
      simp only [step]
      split
      · exact grown_make _ _ _
      · exact .refl p
  | cancel i =>
      simp only [step]
      split
      · exact ⟨Signals.later_cancel _ _, List.prefix_refl _⟩
      · exact .refl p
  | pass elapsed => exact ⟨Signals.later_advanceTo _ _, List.prefix_refl _⟩

theorem grown_run (p : TokenPool) (events : List TokenEvent) : Grown p (p.run events) := by
  induction events generalizing p with
  | nil => exact .refl p
  | cons event rest ih => exact (grown_step p event).trans (ih _)

theorem run_append (p : TokenPool) (xs ys : List TokenEvent) :
    p.run (xs ++ ys) = (p.run xs).run ys :=
  List.foldl_append

/-- Every token is of the family of the one it comes from, and no two families have one flag. -/
structure WellKept (p : TokenPool) : Prop where
  origin : ∀ (j : Nat) (x : MadeToken) (i : Nat), p.made[j]? = some x → x.origin = some i →
    i < j ∧ ∃ y : MadeToken, p.made[i]? = some y ∧ y.token.family = x.token.family
  roots : ∀ (i j : Nat) (x y : MadeToken), p.made[i]? = some x → p.made[j]? = some y →
    x.origin = none → y.origin = none → x.token.family = y.token.family → i = j
  families : ∀ (i : Nat) (x : MadeToken), p.made[i]? = some x →
    x.token.family < p.signals.families

theorem made_make {origin : Option Nat} {x : MadeToken}
    (h : (p.make token origin).made[i]? = some x) :
    p.made[i]? = some x ∨ i = p.made.length ∧ x = ⟨token, origin⟩ := by
  rcases Nat.lt_trichotomy i p.made.length with hi | rfl | hi
  · rw [make, List.getElem?_append_left hi] at h
    exact .inl h
  · rw [make, List.getElem?_append_right (Nat.le_refl _), Nat.sub_self] at h
    exact .inr ⟨rfl, (Option.some.inj h).symm⟩
  · rw [make, List.getElem?_eq_none (by simpa using hi)] at h
    cases h

theorem lt_of_made {x : MadeToken} (h : p.made[i]? = some x) : i < p.made.length :=
  (List.getElem?_eq_some_iff.1 h).1

theorem not_made_start {now : Instant} {x : MadeToken} : (start now).made[i]? ≠ some x := nofun

theorem wellKept_start (now : Instant) : WellKept (start now) :=
  ⟨fun _ _ _ h => absurd h not_made_start, fun _ _ _ _ h => absurd h not_made_start,
    fun _ _ h => absurd h not_made_start⟩

theorem WellKept.make_root (h : WellKept p) {deadline : Option Instant} :
    WellKept
      (make { p with signals := p.signals.fresh.2 } ⟨p.signals.families, deadline⟩ none) := by
  have hold {i : Nat} {x : MadeToken} (hx : p.made[i]? = some x) :
      x.token.family ≠ p.signals.families := Nat.ne_of_lt (h.families i x hx)
  refine ⟨fun j x i hx hi => ?_, fun i j x y hx hy hxo hyo hf => ?_, fun i x hx => ?_⟩
  · rcases made_make hx with hx | ⟨rfl, rfl⟩
    · obtain ⟨hlt, y, hy, hf⟩ := h.origin j x i hx hi
      exact ⟨hlt, y, ((grown_fresh p).trans (grown_make _ _ _)).made_of hy, hf⟩
    · cases hi
  · rcases made_make hx with hx | ⟨rfl, rfl⟩
    · rcases made_make hy with hy | ⟨rfl, rfl⟩
      · exact h.roots i j x y hx hy hxo hyo hf
      · exact absurd hf (hold hx)
    · rcases made_make hy with hy | ⟨rfl, rfl⟩
      · exact absurd hf.symm (hold hy)
      · rfl
  · rcases made_make hx with hx | ⟨rfl, rfl⟩
    · exact Nat.lt_succ_of_lt (h.families i x hx)
    · exact Nat.lt_succ_self _

theorem WellKept.make_child (h : WellKept p) {parent : CancelToken} (hi : p.token? i = some parent)
    (hfamily : token.family = parent.family) : WellKept (p.make token (some i)) := by
  obtain ⟨y, hy, rfl⟩ := token?_eq_some.1 hi
  refine ⟨fun j x k hx hk => ?_, fun j k x z hx hz hxo hzo hf => ?_, fun j x hx => ?_⟩
  · rcases made_make hx with hx | ⟨rfl, rfl⟩
    · obtain ⟨hlt, z, hz, hf⟩ := h.origin j x k hx hk
      exact ⟨hlt, z, (grown_make _ _ _).made_of hz, hf⟩
    · obtain rfl : i = k := Option.some.inj hk
      exact ⟨lt_of_made hy, y, (grown_make _ _ _).made_of hy, hfamily.symm⟩
  · rcases made_make hx with hx | ⟨rfl, rfl⟩
    · rcases made_make hz with hz | ⟨rfl, rfl⟩
      · exact h.roots j k x z hx hz hxo hzo hf
      · cases hzo
    · cases hxo
  · rcases made_make hx with hx | ⟨rfl, rfl⟩
    · exact h.families j x hx
    · rw [hfamily]
      exact h.families i y hy

theorem wellKept_step (h : WellKept p) (event : TokenEvent) : WellKept (p.step event) := by
  cases event with
  | create => exact h.make_root
  | createWithin timeout => exact h.make_root
  | derive i timeout =>
      simp only [step]
      split
      · next token hi => exact h.make_child hi rfl
      · exact h
  | clone i =>
      simp only [step]
      split
      · next token hi => exact h.make_child hi rfl
      · exact h
  | cancel i =>
      simp only [step]
      split
      · next token hi =>
          refine ⟨h.origin, h.roots, fun j x hx => ?_⟩
          have hfamilies : (p.signals.cancel token).families = p.signals.families := by
            unfold Signals.cancel
            split <;> rfl
          exact hfamilies ▸ h.families j x hx
      · exact h
  | pass elapsed => exact ⟨h.origin, h.roots, h.families⟩

theorem wellKept_run (h : WellKept p) (events : List TokenEvent) : WellKept (p.run events) := by
  induction events generalizing p with
  | nil => exact h
  | cons event rest ih => exact ih (wellKept_step h event)

theorem WellKept.exists_root (h : WellKept p) {x : MadeToken} (hi : p.made[i]? = some x) :
    ∃ r, From p r i := by
  -- a token comes from one that was made before it, so going back ends at a root
  induction i using Nat.strongRecOn generalizing x with
  | ind i ih =>
      cases ho : x.origin with
      | none => exact ⟨i, .root hi ho⟩
      | some k =>
          obtain ⟨hlt, y, hy, -⟩ := h.origin i x k hi ho
          obtain ⟨r, hr⟩ := ih k hlt hy
          exact ⟨r, .child hi ho hr⟩

theorem WellKept.family_of_from (h : WellKept p) (hr : From p r i) :
    ∃ x y, p.made[r]? = some x ∧ x.origin = none ∧ p.made[i]? = some y ∧
      x.token.family = y.token.family := by
  induction hr with
  | root made anew => exact ⟨_, _, made, anew, made, rfl⟩
  | @child i j z made origin above ih =>
      obtain ⟨x, y, hx, hanew, hy, hf⟩ := ih
      obtain ⟨-, y', hy', hf'⟩ := h.origin j z i made origin
      obtain rfl : y = y' := Option.some.inj (hy.symm.trans hy')
      exact ⟨x, z, hx, hanew, made, hf.trans hf'⟩

theorem WellKept.sameRoot_iff (h : WellKept p) :
    SameRoot p i j ↔ ∃ a b, p.token? i = some a ∧ p.token? j = some b ∧ a.family = b.family := by
  constructor
  · rintro ⟨r, hi, hj⟩
    obtain ⟨x, y, hx, -, hy, hxy⟩ := h.family_of_from hi
    obtain ⟨x', z, hx', -, hz, hxz⟩ := h.family_of_from hj
    obtain rfl : x = x' := Option.some.inj (hx.symm.trans hx')
    exact ⟨_, _, token?_eq_some.2 ⟨y, hy, rfl⟩, token?_eq_some.2 ⟨z, hz, rfl⟩, hxy.symm.trans hxz⟩
  · rintro ⟨a, b, ha, hb, hf⟩
    obtain ⟨y, hy, rfl⟩ := token?_eq_some.1 ha
    obtain ⟨z, hz, rfl⟩ := token?_eq_some.1 hb
    obtain ⟨r, hr⟩ := h.exists_root hy
    obtain ⟨s, hs⟩ := h.exists_root hz
    obtain ⟨x, y', hx, hxo, hy', hxy⟩ := h.family_of_from hr
    obtain ⟨w, z', hw, hwo, hz', hwz⟩ := h.family_of_from hs
    obtain rfl : y' = y := Option.some.inj (hy'.symm.trans hy)
    obtain rfl : z' = z := Option.some.inj (hz'.symm.trans hz)
    have hroots : r = s := h.roots r s x w hx hw hxo hwo (hxy.trans (hf.trans hwz.symm))
    exact ⟨r, hr, hroots ▸ hs⟩

theorem cancelled_of_raised {events : List TokenEvent} {f : Nat}
    (h : f ∈ (p.run events).signals.raised) :
    f ∈ p.signals.raised ∨ ∃ before i after token, events = before ++ .cancel i :: after ∧
      (p.run before).token? i = some token ∧ token.family = f := by
  induction events generalizing p with
  | nil => exact .inl h
  | cons event rest ih =>
      rcases ih h with hraised | ⟨before, i, after, token, rfl, hi, hf⟩
      · cases event with
        | create | createWithin | pass => exact .inl hraised
        | derive | clone =>
            simp only [step] at hraised
            split at hraised <;> exact .inl hraised
        | cancel i =>
            simp only [step] at hraised
            split at hraised
            · next token hi =>
                rcases Signals.mem_raised_cancel.1 hraised with hf | hraised
                · exact .inr ⟨[], i, rest, token, rfl, hi, hf.symm⟩
                · exact .inl hraised
            · exact .inl hraised
      · exact .inr ⟨event :: before, i, after, token, rfl, hi, hf⟩

theorem isCancelled_after_cancel (hi : p.token? i = some token) :
    (p.step (.cancel i)).isCancelled j = true ↔
      p.isCancelled j = true ∨ ∃ other, p.token? j = some other ∧ other.family = token.family := by
  have hstep : p.step (.cancel i) = { p with signals := p.signals.cancel token } := by
    simp only [step, hi]
  rw [hstep, isCancelled_iff, isCancelled_iff]
  constructor
  · rintro ⟨other, hj, hc⟩
    rw [Signals.isCancelled_iff, Signals.mem_raised_cancel, Signals.now_cancel] at hc
    rcases hc with (hf | hraised) | hdeadline
    · exact .inr ⟨other, hj, hf⟩
    · exact .inl ⟨other, hj, (Signals.isCancelled_iff _ _).2 (.inl hraised)⟩
    · exact .inl ⟨other, hj, (Signals.isCancelled_iff _ _).2 (.inr hdeadline)⟩
  · rintro (⟨other, hj, hc⟩ | ⟨other, hj, hf⟩)
    · exact ⟨other, hj, (Signals.later_cancel _ _).isCancelled hc⟩
    · have hraised := Signals.mem_raised_cancel (s := p.signals).2 (.inl hf)
      exact ⟨other, hj, (Signals.isCancelled_iff _ _).2 (.inl hraised)⟩

theorem WellKept.cancel_reaches (h : WellKept p) (hi : p.token? i = some token)
    {after : List TokenEvent} (hj : SameRoot ((p.step (.cancel i)).run after) i j) :
    ((p.step (.cancel i)).run after).isCancelled j = true := by
  have hgrown := grown_run (p.step (.cancel i)) after
  obtain ⟨a, b, ha, hb, hf⟩ := (wellKept_run (wellKept_step h _) after).sameRoot_iff.1 hj
  obtain rfl : token = a :=
    Option.some.inj ((((grown_step p _).trans hgrown).token? hi).symm.trans ha)
  have hraised : token.family ∈ (p.step (.cancel i)).signals.raised := by
    simp only [step, hi]
    exact Signals.mem_raised_cancel.2 (.inl rfl)
  have hraised := hgrown.later.raised _ hraised
  rw [isCancelled_of_token? hb, Signals.isCancelled_iff]
  exact .inl (hf ▸ hraised)

theorem WellKept.cancel_spares (h : WellKept p) (hi : p.token? i = some token)
    (hj : ¬ SameRoot p i j) : (p.step (.cancel i)).isCancelled j = p.isCancelled j := by
  rw [Bool.eq_iff_iff, isCancelled_after_cancel hi, or_iff_left]
  rintro ⟨other, hother, hf⟩
  exact hj (h.sameRoot_iff.2 ⟨token, other, hi, hother, hf.symm⟩)

theorem token?_make (p : TokenPool) (token : CancelToken) (origin : Option Nat) :
    (p.make token origin).token? p.made.length = some token := by
  simp [token?, make]

theorem WellKept.sameRoot_make (h : WellKept p) {parent : CancelToken}
    (hi : p.token? i = some parent) (hf : token.family = parent.family) :
    SameRoot (p.make token (some i)) i p.made.length :=
  (h.make_child hi hf).sameRoot_iff.2
    ⟨parent, token, (grown_make ..).token? hi, token?_make .., hf.symm⟩

theorem WellKept.sameRoot_grown (h : WellKept p) (hq : WellKept q) (hpq : Grown p q)
    (hij : SameRoot p i j) : SameRoot q i j := by
  obtain ⟨a, b, ha, hb, hf⟩ := h.sameRoot_iff.1 hij
  exact hq.sameRoot_iff.2 ⟨a, b, hpq.token? ha, hpq.token? hb, hf⟩

theorem isCancelled_iff_endsAt {now : Instant} {events : List TokenEvent}
    (hj : ((start now).run events).token? j = some token)
    (hcancel : ∀ before i after, events = before ++ .cancel i :: after →
      i < ((start now).run before).made.length → ¬ SameRoot ((start now).run events) i j) :
    ((start now).run events).isCancelled j = true ↔
      token.endsAt ≤ ((start now).run events).signals.now.nanos := by
  rw [isCancelled_of_token? hj, Signals.isCancelled_iff_endsAt, or_iff_right]
  -- who raised the flag was of the family, and had been made by then
  intro hraised
  rcases cancelled_of_raised hraised with hnone | ⟨before, i, after, other, hevents, hi, hf⟩
  · cases hnone
  · have hlt : i < ((start now).run before).made.length := by
      obtain ⟨x, hx, -⟩ := token?_eq_some.1 hi
      exact lt_of_made hx
    have hgrown : Grown ((start now).run before) ((start now).run events) := by
      rw [hevents, run_append]
      exact grown_run _ _
    refine hcancel before i after hevents hlt ?_
    exact (wellKept_run (wellKept_start now) events).sameRoot_iff.2
      ⟨other, token, hgrown.token? hi, hj, hf⟩

/-- Whatever was done with tokens before: cancelling one reaches all tokens of its root, those that
come later included, and changes nothing for the others. What is derived from a token ends by itself
at the earlier of that token's end and its own timeout. A cancelled token stays cancelled. And a
token none of whose relatives was cancelled is cancelled just when its own end has come. -/
theorem families_run (now : Instant) (events : List TokenEvent) :
    let p := (start now).run events
    (∀ i token, p.token? i = some token →
      (∀ after j, let q := (p.step (.cancel i)).run after
        SameRoot q i j → q.isCancelled j = true) ∧
      ∀ j, ¬ SameRoot p i j → (p.step (.cancel i)).isCancelled j = p.isCancelled j) ∧
    (∀ i parent, p.token? i = some parent → ∀ after,
      (∀ timeout, let q := (p.step (.derive i timeout)).run after
        let bound := p.signals.now.limitAfter timeout
        ∃ child, q.token? p.made.length = some child ∧ SameRoot q i p.made.length ∧
          child.endsAt ≤ parent.endsAt ∧ child.endsAt ≤ bound ∧
            child.endsAt = min parent.endsAt bound) ∧
      let q := (p.step (.clone i)).run after
      q.token? p.made.length = some parent ∧ SameRoot q i p.made.length) ∧
    (∀ after timeout, ∃ token,
      ((p.step (.createWithin timeout)).run after).token? p.made.length = some token ∧
        token.endsAt = p.signals.now.limitAfter timeout) ∧
    (∀ after, ∃ token, ((p.step .create).run after).token? p.made.length = some token ∧
      token.endsAt = ⊤) ∧
    (∀ after j, p.isCancelled j = true → (p.run after).isCancelled j = true) ∧
    ∀ j token, p.token? j = some token →
      (∀ before i after, events = before ++ .cancel i :: after →
        i < ((start now).run before).made.length → ¬ SameRoot p i j) →
      (p.isCancelled j = true ↔ token.endsAt ≤ p.signals.now.nanos) := by
  intro p
  have hp : WellKept p := wellKept_run (wellKept_start now) events
  refine ⟨fun i token hi => ⟨fun after j => hp.cancel_reaches hi, fun j => hp.cancel_spares hi⟩,
    fun i parent hi after => ⟨fun timeout => ?derive, ?clone⟩, fun after timeout => ?createWithin,
    fun after => ?create, fun after j => (grown_run p after).isCancelled, fun j token hj =>
      isCancelled_iff_endsAt hj⟩
  case derive =>
    have hstep : p.step (.derive i timeout) =
        p.make (parent.within p.signals.now timeout) (some i) := by
      simp only [step, hi]
    have hgrown := grown_run (p.step (.derive i timeout)) after
    have hends := parent.endsAt_within p.signals.now timeout
    refine ⟨_, hgrown.token? (hstep ▸ token?_make ..), ?_, hends ▸ min_le_left _ _,
      hends ▸ min_le_right _ _, hends⟩
    have hq := wellKept_step hp (.derive i timeout)
    exact hq.sameRoot_grown (wellKept_run hq after) hgrown (hstep ▸ hp.sameRoot_make hi rfl)
  case clone =>
    have hstep : p.step (.clone i) = p.make parent (some i) := by
      simp only [step, hi]
    have hgrown := grown_run (p.step (.clone i)) after
    have hq := wellKept_step hp (.clone i)
    exact ⟨hgrown.token? (hstep ▸ token?_make ..),
      hq.sameRoot_grown (wellKept_run hq after) hgrown (hstep ▸ hp.sameRoot_make hi rfl)⟩
  case createWithin =>
    refine ⟨_, (grown_run _ after).token? (token?_make ..), ?_⟩
    rw [CancelToken.endsAt_within]
    exact min_eq_right le_top
  case create => exact ⟨_, (grown_run _ after).token? (token?_make ..), rfl⟩

example :
    let p := (start ⟨0⟩).run [.create, .derive 0 (.ofSecs 5), .create, .pass (.ofSecs 6)]
    (p.isCancelled 1 = true ∧ p.isCancelled 0 = false) ∧
      let q := p.step (.cancel 1)
      q.isCancelled 0 = true ∧ q.isCancelled 2 = false := by
  decide

end TokenPool

end BlockVolume
