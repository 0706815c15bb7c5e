import BlockVolume.Host.Call

namespace BlockVolume

namespace Plan

variable {I : Interface} {α β σ : Type}

/-- Every call that the plan may come to, whatever the answers are, satisfies `P`. -/
def Only (P : I.Call → Prop) : Plan I α → Prop
  | done _ => True
  | call c next => P c ∧ ∀ r, (next r).Only P

theorem Only.bind {P : I.Call → Prop} {p : Plan I α} {f : α → Plan I β} (hp : p.Only P)
    (hf : ∀ a, (f a).Only P) : (p.bind f).Only P := by
  induction p with
  | done a => exact hf a
  | call c next ih => exact ⟨hp.1, fun r => ih r (hp.2 r)⟩

theorem Only.mono {P Q : I.Call → Prop} {p : Plan I α} (hp : p.Only P) (h : ∀ c, P c → Q c) :
    p.Only Q := by
  induction p with
  | done a => trivial
  | call c next ih => exact ⟨h c hp.1, fun r => ih r (hp.2 r)⟩

theorem Only.expand {J : Interface} {P : I.Call → Prop} {Q : J.Call → Prop} {p : Plan I α}
    (hp : p.Only P) {f : (c : I.Call) → Plan J (I.Reply c)} (hf : ∀ c, P c → (f c).Only Q) :
    (p.expand f).Only Q := by
  induction p with
  | done a => trivial
  | call c next ih => exact (hf c hp.1).bind fun r => ih r (hp.2 r)

/-- Every call of the run from `s` is one that the state it is made in allows. -/
def Heeds (handle : Handler I σ) (A : σ → I.Call → Prop) : Plan I α → σ → Prop
  | done _, _ => True
  | call c next, s => A s c ∧ (next (handle c s).1).Heeds handle A (handle c s).2

theorem Only.heeds {P : I.Call → Prop} {p : Plan I α} (hp : p.Only P) {handle : Handler I σ}
    {A : σ → I.Call → Prop} (hA : ∀ s c, P c → A s c) (s : σ) :
    p.Heeds handle A s := by
  induction p generalizing s with
  | done a => trivial
  | call c next ih => exact ⟨hA s c hp.1, ih _ (hp.2 _) _⟩

theorem Heeds.bind {handle : Handler I σ} {A : σ → I.Call → Prop} {p : Plan I α}
    {f : α → Plan I β} {s : σ} (hp : p.Heeds handle A s)
    (hf : (f (p.run handle s).1).Heeds handle A (p.run handle s).2) :
    (p.bind f).Heeds handle A s := by
  induction p generalizing s with
  | done a => exact hf
  | call c next ih => exact ⟨hp.1, ih _ hp.2 hf⟩

theorem Heeds.relates {handle : Handler I σ} {A : σ → I.Call → Prop} {R : σ → σ → Prop}
    (hrefl : ∀ s, R s s) (htrans : ∀ s t u, R s t → R t u → R s u)
    (hstep : ∀ s c, A s c → R s (handle c s).2) {p : Plan I α} {s : σ}
    (hp : p.Heeds handle A s) : R s (p.run handle s).2 := by
  induction p generalizing s with
  | done a => exact hrefl s
  | call c next ih => exact htrans _ _ _ (hstep s c hp.1) (ih _ hp.2)

theorem record_bind (handle : Handler I σ) (p : Plan I α) (f : α → Plan I β) (s : σ) :
    (p.bind f).record handle s =
      ((p.record handle s).1 ++
          ((f (p.record handle s).2.1).record handle (p.record handle s).2.2).1,
        ((f (p.record handle s).2.1).record handle (p.record handle s).2.2).2) := by
  induction p generalizing s with
  | done a => rfl
  | call c next ih => simp only [bind, record, ih, List.cons_append]

theorem record_bind_cases {handle : Handler I σ} {p : Plan I α} {f : α → Plan I β} {s t : σ}
    {zs : List (Exchange I)} {b : β} (h : (p.bind f).record handle s = (zs, b, t)) :
    ∃ xs a u ys, p.record handle s = (xs, a, u) ∧ (f a).record handle u = (ys, b, t) ∧
      zs = xs ++ ys := by
  rw [record_bind, Prod.mk.injEq] at h
  exact ⟨_, _, _, _, rfl, Prod.ext rfl h.2, h.1.symm⟩

theorem record_except_cases {ε : Type} {handle : Handler I σ} {x : ExceptT ε (Plan I) α}
    {f : α → ExceptT ε (Plan I) β} {s t : σ} {zs : List (Exchange I)} {r : Except ε β}
    (h : (x >>= f).run.record handle s = (zs, r, t)) :
    (∃ e, x.run.record handle s = (zs, .error e, t) ∧ r = .error e) ∨
      ∃ xs a u ys, x.run.record handle s = (xs, .ok a, u) ∧
        (f a).run.record handle u = (ys, r, t) ∧ zs = xs ++ ys := by
  obtain ⟨xs, q, u, ys, hx, hy, rfl⟩ := record_bind_cases h
  cases q with
  | ok a => exact .inr ⟨xs, a, u, ys, hx, hy, rfl⟩
  | error e =>
      cases hy
      rw [List.append_nil]
      exact .inl ⟨e, hx, rfl⟩

theorem only_except_bind {ε : Type} {P : I.Call → Prop} {x : ExceptT ε (Plan I) α}
    {f : α → ExceptT ε (Plan I) β} (hx : Only P x.run) (hf : ∀ a, Only P (f a).run) :
    Only P (x >>= f).run := by
  refine Only.bind hx fun r => ?_
  cases r with
  | ok a => exact hf a
  | error e => trivial

end Plan

namespace Host

theorem only_ask {P : HostCall → Prop} {c : HostCall} (h : P c) :
    Plan.Only (I := Host) P (ask c) := ⟨h, fun _ => trivial⟩

theorem record_ask_bind (c : HostCall) {β σ : Type} {handle : Plan.Handler Host σ}
    {f : c.Reply → Plan Host β} {s t : σ} {zs : List (Plan.Exchange Host)} {b : β}
    (h : (ask c >>= f).record handle s = (zs, b, t)) :
    ∃ (reply : c.Reply) (u : σ) (ys : List (Plan.Exchange Host)),
      handle c s = (reply, u) ∧ (f reply).record handle u = (ys, b, t) ∧ zs = ⟨c, reply⟩ :: ys := by
  obtain ⟨xs, reply, u, ys, hask, hys, rfl⟩ := Plan.record_bind_cases h
  simp only [ask, Plan.ask, Plan.record, Prod.mk.injEq] at hask
  obtain ⟨rfl, rfl, rfl⟩ := hask
  exact ⟨_, _, ys, rfl, hys, rfl⟩

end Host

namespace Operation

variable {α β σ : Type} {P : HostCall → Prop} {handle : Plan.Handler Host σ}
  {A : σ → HostCall → Prop}

/-- What an operation goes on with after a part that has a result, and after one that failed. -/
def onward (f : α → Operation β) : Except VolumeError α → Plan Host (Except VolumeError β)
  | .ok a => (f a).run
  | .error e => .done (.error e)

theorem run_bind (x : Operation α) (f : α → Operation β) :
    (x >>= f).run = x.run.bind (onward f) := by
  refine congrArg (Plan.bind x.run) (funext fun r => ?_)
  cases r <;> rfl

theorem run_require (request : Plan Host (Except HostError α)) :
    (require request).run = request.bind fun r => .done (r.mapError VolumeError.host) := rfl

theorem run_attempt (request : Plan Host α) :
    (attempt request).run = request.bind fun a => .done (.ok a) := rfl

theorem run_require_bind (request : Plan Host (Except HostError α)) (f : α → Operation β) :
    (require request >>= f).run = request >>= fun
      | .ok a => (f a).run
      | .error e => Plan.done (.error (.host e)) := by
  rw [run_bind, run_require, Plan.bind_bind]
  refine congrArg (Plan.bind request) (funext fun reply => ?_)
  cases reply <;> rfl

theorem run_attempt_bind (request : Plan Host α) (f : α → Operation β) :
    (attempt request >>= f).run = request >>= fun a => (f a).run := by
  rw [run_bind, run_attempt, Plan.bind_bind]
  rfl

theorem run_run_bind (x : Operation α) (f : α → Operation β) (s : σ) :
    (x >>= f).run.run handle s = match x.run.run handle s with
      | (.ok a, t) => (f a).run.run handle t
      | (.error e, t) => (.error e, t) := by
  rw [run_bind, Plan.run_bind]
  rcases x.run.run handle s with ⟨_ | _, t⟩ <;> rfl

theorem run_bind_ok {x : Operation α} {f : α → Operation β} {s t : σ} {b : β}
    (h : (x >>= f).run.run handle s = (.ok b, t)) :
    ∃ a u, x.run.run handle s = (.ok a, u) ∧ (f a).run.run handle u = (.ok b, t) := by
  rw [run_run_bind] at h
  rcases hx : x.run.run handle s with ⟨e | a, u⟩
  · rw [hx] at h
    cases h
  · rw [hx] at h
    exact ⟨a, u, rfl, h⟩

theorem only_bind {x : Operation α} {f : α → Operation β} (hx : Plan.Only (I := Host) P x.run)
    (hf : ∀ a, Plan.Only (I := Host) P (f a).run) : Plan.Only (I := Host) P (x >>= f).run :=
  Plan.only_except_bind hx hf

theorem only_require {request : Plan Host (Except HostError α)}
    (h : Plan.Only (I := Host) P request) : Plan.Only (I := Host) P (require request).run := by
  rw [run_require]
  exact h.bind fun _ => trivial

theorem only_attempt {request : Plan Host α} (h : Plan.Only (I := Host) P request) :
    Plan.Only (I := Host) P (attempt request).run := by
  rw [run_attempt]
  exact h.bind fun _ => trivial

theorem only_log (h : ∀ r, P (.log r)) (level : LogLevel) (origin : LogOrigin) (message : String) :
    Plan.Only (I := Host) P (log level origin message).run := ⟨h _, fun _ => trivial⟩

theorem heeds_bind {x : Operation α} {f : α → Operation β} {s : σ}
    (hx : x.run.Heeds handle A s)
    (hf : ∀ a, (x.run.run handle s).1 = .ok a →
      (f a).run.Heeds handle A (x.run.run handle s).2) :
    (x >>= f).run.Heeds handle A s := by
  rw [run_bind]
  refine hx.bind ?_
  cases hr : (x.run.run handle s).1 with
  | ok a => exact hf a hr
  | error e => trivial

end Operation

end BlockVolume
