import BlockVolume.Proofs.Calls

namespace BlockVolume

namespace Plan

variable {I J : Interface} {α β σ : Type}

inductive Transcript : Plan I α → List (Exchange I) → α → Prop
  | done (a : α) : Transcript (done a) [] a
  | call {c : I.Call} {next : I.Reply c → Plan I α} {reply : I.Reply c} {xs : List (Exchange I)}
      {a : α} (rest : Transcript (next reply) xs a) : Transcript (call c next) (⟨c, reply⟩ :: xs) a

theorem transcript_record (handle : Handler I σ) (p : Plan I α) (s : σ) :
    p.Transcript (p.record handle s).1 (p.record handle s).2.1 := by
  induction p generalizing s with
  | done a => exact .done a
  | call c next ih => exact .call (ih _ _)

theorem Transcript.bind_cases {p : Plan I α} {f : α → Plan I β} {zs : List (Exchange I)} {b : β}
    (h : (p.bind f).Transcript zs b) :
    ∃ xs a ys, p.Transcript xs a ∧ (f a).Transcript ys b ∧ zs = xs ++ ys := by
  induction p generalizing zs with
  | done a => exact ⟨[], a, zs, .done a, h, rfl⟩
  | call c next ih =>
      rw [bind] at h
      cases h with
      | call rest =>
          obtain ⟨xs, a, ys, hx, hy, rfl⟩ := ih _ rest
          exact ⟨_ :: xs, a, ys, .call hx, hy, rfl⟩

theorem Only.transcript {P : I.Call → Prop} {p : Plan I α} (hp : p.Only P)
    {xs : List (Exchange I)} {a : α} (h : p.Transcript xs a) : ∀ x ∈ xs, P x.1 := by
  induction h with
  | done a => nofun
  | call rest ih => exact List.forall_mem_cons.2 ⟨hp.1, ih (hp.2 _)⟩

theorem Only.of_record {P : I.Call → Prop} {p : Plan I α} (hp : p.Only P) {handle : Handler I σ}
    {s t : σ} {xs : List (Exchange I)} {a : α} (h : p.record handle s = (xs, a, t)) :
    ∀ x ∈ xs, P x.1 := by
  have hxs := transcript_record handle p s
  rw [h] at hxs
  exact hp.transcript hxs

/-- The exchanges `ys` come from the exchanges `xs` with a plan for each call of these in its
place. -/
inductive Expansion (f : (c : I.Call) → Plan J (I.Reply c)) :
    List (Exchange I) → List (Exchange J) → Prop
  | nil : Expansion f [] []
  | cons {c : I.Call} {reply : I.Reply c} {block : List (Exchange J)} {xs : List (Exchange I)}
      {ys : List (Exchange J)} (head : (f c).Transcript block reply) (rest : Expansion f xs ys) :
      Expansion f (⟨c, reply⟩ :: xs) (block ++ ys)

theorem Transcript.expand_cases {f : (c : I.Call) → Plan J (I.Reply c)} {p : Plan I α}
    {ys : List (Exchange J)} {b : α} (h : (p.expand f).Transcript ys b) :
    ∃ xs, p.Transcript xs b ∧ Expansion f xs ys := by
  induction p generalizing ys with
  | done a =>
      cases h
      exact ⟨[], .done _, .nil⟩
  | call c next ih =>
      obtain ⟨block, reply, zs, hblock, hzs, rfl⟩ := bind_cases h
      obtain ⟨xs, hxs, hexp⟩ := ih _ hzs
      exact ⟨_, .call hxs, .cons hblock hexp⟩

end Plan

namespace Host

theorem transcript_ask {c : HostCall} {zs : List (Plan.Exchange Host)} {reply : c.Reply}
    (h : (ask c).Transcript zs reply) : zs = [⟨c, reply⟩] := by
  cases h with
  | call rest =>
      cases rest
      rfl

theorem transcript_ask_bind (c : HostCall) {β : Type} {f : c.Reply → Plan Host β}
    {zs : List (Plan.Exchange Host)} {b : β} (h : (ask c >>= f).Transcript zs b) :
    ∃ (reply : c.Reply) (ys : List (Plan.Exchange Host)),
      (f reply).Transcript ys b ∧ zs = ⟨c, reply⟩ :: ys := by
  obtain ⟨xs, reply, ys, hask, hys, rfl⟩ := Plan.Transcript.bind_cases h
  obtain rfl := transcript_ask hask
  exact ⟨reply, ys, hys, rfl⟩

end Host

namespace Operation

variable {α β : Type}

theorem transcript_bind_cases {x : Operation α} {f : α → Operation β}
    {zs : List (Plan.Exchange Host)} {r : Except VolumeError β}
    (h : (x >>= f).run.Transcript zs r) :
    (∃ e, x.run.Transcript zs (.error e) ∧ r = .error e) ∨
      ∃ xs a ys, x.run.Transcript xs (.ok a) ∧ (f a).run.Transcript ys r ∧ zs = xs ++ ys := by
  rw [run_bind] at h
  obtain ⟨xs, q, ys, hx, hy, rfl⟩ := h.bind_cases
  cases q with
  | ok a => exact .inr ⟨xs, a, ys, hx, hy, rfl⟩
  | error e =>
      cases hy
      exact .inl ⟨e, by rwa [List.append_nil], rfl⟩

theorem transcript_log_bind {level : LogLevel} {origin : LogOrigin} {message : String}
    {f : Unit → Operation β} {zs : List (Plan.Exchange Host)} {r : Except VolumeError β}
    (h : (log level origin message >>= f).run.Transcript zs r) :
    ∃ ys, (f ()).run.Transcript ys r ∧
      zs = ⟨HostCall.log ⟨level, origin, message⟩, ()⟩ :: ys := by
  rw [log, run_attempt_bind] at h
  obtain ⟨⟨⟩, ys, hys, rfl⟩ := Host.transcript_ask_bind (.log _) h
  exact ⟨ys, hys, rfl⟩

theorem transcript_require_bind_cases {request : Plan Host (Except HostError α)}
    {f : α → Operation β} {zs : List (Plan.Exchange Host)} {r : Except VolumeError β}
    (h : (require request >>= f).run.Transcript zs r) :
    (∃ e, request.Transcript zs (.error e) ∧ r = .error (.host e)) ∨
      ∃ xs a ys, request.Transcript xs (.ok a) ∧ (f a).run.Transcript ys r ∧ zs = xs ++ ys := by
  rw [run_require_bind] at h
  obtain ⟨xs, q, ys, hx, hy, rfl⟩ := Plan.Transcript.bind_cases h
  cases q with
  | ok a => exact .inr ⟨xs, a, ys, hx, hy, rfl⟩
  | error e =>
      cases hy
      exact .inl ⟨e, by rwa [List.append_nil], rfl⟩

end Operation

end BlockVolume
