import BlockVolume.Host.Scripted
import BlockVolume.Proofs.Calls
import BlockVolume.Proofs.Signals

namespace BlockVolume

/-- What happens between two calls: time passes, and then others cancel tokens that they hold. -/
structure Interlude where
  elapsed : Duration
  cancelled : List CancelToken

namespace Signals

def after (s : Signals) (i : Interlude) : Signals := i.cancelled.foldl cancel (s.advance i.elapsed)

theorem later_after (s : Signals) (i : Interlude) : Later s (s.after i) :=
  (later_advanceTo s _).trans (later_cancelAll _ _)

theorem not_mem_raised_after {s : Signals} {i : Interlude} {f : Nat} (hs : f ∉ s.raised)
    (hi : ∀ other ∈ i.cancelled, other.family ≠ f) : f ∉ (s.after i).raised := by
  have hcancel (tokens : List CancelToken) (htokens : ∀ other ∈ tokens, other.family ≠ f)
      (u : Signals) (hu : f ∉ u.raised) : f ∉ (tokens.foldl cancel u).raised := by
    induction tokens generalizing u with
    | nil => exact hu
    | cons other rest ih =>
        obtain ⟨hother, hrest⟩ := List.forall_mem_cons.1 htokens
        refine ih hrest _ fun h => ?_
        rcases mem_raised_cancel.1 h with h | h
        · exact hother h.symm
        · exact hu h
  exact hcancel _ hi _ hs

end Signals

/-- A scripted host, and what will happen before each of the next calls. Before the calls after
those nothing happens any more. -/
structure LiveHost where
  host : ScriptedHost
  ahead : List Interlude

namespace LiveHost

def proceed (s : LiveHost) : LiveHost :=
  match s.ahead with
  | [] => s
  | i :: rest => ⟨{ s.host with signals := s.host.signals.after i }, rest⟩

def answer : Plan.Handler Host LiveHost := fun c s =>
  let (reply, host) := ScriptedHost.answer c s.proceed.host
  (reply, ⟨host, s.proceed.ahead⟩)

theorem record_still {α : Type} (p : Plan Host α) (h : ScriptedHost) :
    p.record answer ⟨h, []⟩ =
      ((p.record ScriptedHost.answer h).1, (p.record ScriptedHost.answer h).2.1,
        ⟨(p.record ScriptedHost.answer h).2.2, []⟩) := by
  induction p generalizing h with
  | done a => rfl
  | call c next ih =>
      simp only [Plan.record, answer, proceed, ih]

end LiveHost

def HostAction.ofExchange? : Plan.Exchange Host → Option HostAction
  | ⟨.pathExists p, _⟩ => some (.stat p)
  | ⟨.listDirectory dir, _⟩ => some (.listDirectory dir)
  | ⟨.writeFile p content, _⟩ => some (.writeFile p content)
  | ⟨.createDirectories p, _⟩ => some (.createDirectory p)
  | ⟨.createFile p, _⟩ => some (.createFile p)
  | ⟨.removeDirectory p, _⟩ => some (.removeDirectory p)
  | ⟨.runProgram program args limit, _⟩ => some (.command program args limit.secs)
  | ⟨.requireProgram program args limit, _⟩ => some (.command program args limit.secs)
  | ⟨.sleep d _, .elapsed⟩ => some (.sleep d)
  | ⟨.sleep _ _, .cancelled⟩ => none
  | ⟨.isCancelled _, _⟩ => none
  | ⟨.mount device target fstype options, _⟩ => some (.mount device target fstype options.words)
  | ⟨.unmount target, _⟩ => some (.unmount target)
  | ⟨.mountEntries, _⟩ => none
  | ⟨.probe device, _⟩ => some (.probe device)
  | ⟨.makeFilesystem device fstype _, _⟩ => some (.makeFilesystem device fstype)
  | ⟨.checkFilesystem device, _⟩ => some (.checkFilesystem device)
  | ⟨.growOnDisk device, _⟩ => some (.growOnDisk device)
  | ⟨.growMounted p, _⟩ => some (.growMounted p)
  | ⟨.log _, _⟩ => none

namespace ScriptedHost

theorem foldl_add (h : ScriptedHost) (paths : List (List Component)) :
    paths.foldl add h = { h with present := paths.reverse ++ h.present } := by
  induction paths generalizing h with
  | nil => rfl
  | cons p rest ih => simp [ih, add]

/-- The signals when the next wait begins: the cancellation that is due by then is carried out. -/
def signalsOfSleep (h : ScriptedHost) : Signals :=
  match h.cancelOnSleep with
  | some c => if c.nth ≤ h.sleeps + 1 then h.signals.cancel c.token else h.signals
  | none => h.signals

theorem beginSleep_eq (h : ScriptedHost) :
    h.beginSleep = { h with sleeps := h.sleeps + 1, signals := h.signalsOfSleep } := by
  unfold beginSleep signalsOfSleep
  cases hc : h.cancelOnSleep with
  | none => simp
  | some c => by_cases hn : c.nth ≤ h.sleeps + 1 <;> simp [hn]

theorem later_signalsOfSleep (h : ScriptedHost) : h.signals.Later h.signalsOfSleep := by
  unfold signalsOfSleep
  split
  · split
    · exact Signals.later_cancel _ _
    · exact .refl _
  · exact .refl _

/-- No wait with the token goes on: it is cancelled, or waits take their time and the clock has run
out. -/
def Over (h : ScriptedHost) (token : CancelToken) : Prop :=
  h.signals.isCancelled token = true ∨ h.realClock = true ∧ Instant.limit ≤ h.signals.now.nanos

theorem outcomeOfSleep_cases (h : ScriptedHost) (d : Duration) (token : CancelToken) :
    ∃ signals, h.signals.Later signals ∧
      (h.outcomeOfSleep d token = (.cancelled, signals) ∧ Over { h with signals } token ∨
        h.outcomeOfSleep d token = (.elapsed, signals) ∧ h.signals.isCancelled token = false) := by
  unfold outcomeOfSleep
  split
  · next hclock =>
    rcases hw : h.signals.wait token d with ⟨outcome, signals⟩
    have hl : h.signals.Later signals := by simpa [hw] using Signals.later_wait h.signals token d
    refine ⟨signals, hl, ?_⟩
    cases outcome with
    | cancelled => exact .inl ⟨rfl, (Signals.wait_cancelled hw).imp_right (⟨hclock, ·⟩)⟩
    | elapsed =>
        refine .inr ⟨rfl, Bool.eq_false_iff.2 fun hc => ?_⟩
        simpa [hw] using Signals.wait_of_isCancelled hc d
  · refine ⟨h.signals, .refl _, ?_⟩
    cases hc : h.signals.isCancelled token with
    | true => exact .inl ⟨by simp, .inl hc⟩
    | false => exact .inr ⟨by simp, rfl⟩

theorem sleep_cases (h : ScriptedHost) (d : Duration) (token : CancelToken) :
    ∃ signals, h.signalsOfSleep.Later signals ∧
      (h.sleep d token = (.cancelled, { h with sleeps := h.sleeps + 1, signals }) ∧
          Over { h with sleeps := h.sleeps + 1, signals } token ∨
        h.sleep d token =
            (.elapsed,
              (({ h with sleeps := h.sleeps + 1, signals }).remember (.sleep d)).comeNearer) ∧
          h.signalsOfSleep.isCancelled token = false) := by
  obtain ⟨signals, hl, ⟨ho, hc⟩ | ⟨ho, hc⟩⟩ := h.beginSleep.outcomeOfSleep_cases d token
  all_goals rw [beginSleep_eq] at hl ho hc
  · exact ⟨signals, hl, .inl ⟨by simp [sleep, beginSleep_eq, ho], hc⟩⟩
  · exact ⟨signals, hl, .inr ⟨by simp [sleep, beginSleep_eq, ho], hc⟩⟩

theorem later_answer (c : HostCall) (h : ScriptedHost) :
    h.signals.Later (answer c h).2.signals := by
  cases c with
  | sleep d token =>
      obtain ⟨signals, hl, ⟨hs, -⟩ | ⟨hs, -⟩⟩ := h.sleep_cases d token
      · simpa [answer, hs] using (later_signalsOfSleep h).trans hl
      · simpa [answer, hs, comeNearer, remember] using (later_signalsOfSleep h).trans hl
  | writeFile p content => simp only [answer]; split <;> exact .refl _
  | createDirectories p => simp only [answer, foldl_add]; exact .refl _
  | removeDirectory p => simp only [answer]; split <;> exact .refl _
  | unmount p => simp only [answer]; split <;> exact .refl _
  | _ => exact .refl _

theorem actions_answer (c : HostCall) (h : ScriptedHost) :
    (answer c h).2.actions =
      h.actions ++ (HostAction.ofExchange? ⟨c, (answer c h).1⟩).toList := by
  cases c with
  | sleep d token =>
      obtain ⟨signals, -, ⟨hs, -⟩ | ⟨hs, -⟩⟩ := h.sleep_cases d token
      · simp [answer, hs, HostAction.ofExchange?]
      · simp [answer, hs, HostAction.ofExchange?, comeNearer, remember]
  | writeFile p content => simp only [answer]; split <;> rfl
  | createDirectories p => simp only [answer, foldl_add]; rfl
  | removeDirectory p => simp only [answer]; split <;> rfl
  | unmount p => simp only [answer]; split <;> rfl
  | isCancelled token => simp [answer, HostAction.ofExchange?]
  | mountEntries => simp [answer, HostAction.ofExchange?]
  | log r => simp [answer, HostAction.ofExchange?, log]
  | _ => rfl

end ScriptedHost

namespace LiveHost

theorem proceed_host (s : LiveHost) :
    s.proceed.host = { s.host with signals := s.proceed.host.signals } := by
  unfold proceed
  split <;> rfl

theorem later_proceed (s : LiveHost) : s.host.signals.Later s.proceed.host.signals := by
  unfold proceed
  split
  · exact .refl _
  · exact Signals.later_after _ _

theorem later_answer {c : Host.Call} {reply : Host.Reply c} {s t : LiveHost}
    (h : answer c s = (reply, t)) : s.host.signals.Later t.host.signals := by
  cases h
  exact s.later_proceed.trans (ScriptedHost.later_answer c _)

theorem host_of_sleep {d : Duration} {token : CancelToken} {outcome : WaitOutcome} {s t : LiveHost}
    (h : answer (.sleep d token) s = (outcome, t)) :
    ∃ signals, t.host =
      let begun := { s.host with sleeps := s.host.sleeps + 1, signals }
      match outcome with
      | .cancelled => begun
      | .elapsed => (begun.remember (.sleep d)).comeNearer := by
  obtain ⟨signals, -, ⟨hsleep, -⟩ | ⟨hsleep, -⟩⟩ := s.proceed.host.sleep_cases d token
  all_goals
    simp only [answer, ScriptedHost.answer, hsleep] at h
    cases h
    rw [proceed_host]
    exact ⟨signals, rfl⟩

theorem actions_answer (c : Host.Call) (s : LiveHost) :
    (answer c s).2.host.actions =
      s.host.actions ++ (HostAction.ofExchange? ⟨c, (answer c s).1⟩).toList := by
  have h := ScriptedHost.actions_answer c s.proceed.host
  rwa [show s.proceed.host.actions = s.host.actions by rw [proceed_host]] at h

theorem actions_record {α : Type} (p : Plan Host α) (s : LiveHost) :
    (p.record answer s).2.2.host.actions =
      s.host.actions ++ (p.record answer s).1.filterMap HostAction.ofExchange? := by
  induction p generalizing s with
  | done a => simp [Plan.record]
  | call c next ih =>
      simp only [Plan.record, ih, actions_answer, List.append_assoc, List.filterMap_cons]
      cases HostAction.ofExchange? ⟨c, (answer c s).1⟩ <;> simp

end LiveHost

/-- Whether an exchange asks something of the host, other than to keep a log record or to say
whether a token is cancelled. -/
def isAsking : Plan.Exchange Host → Bool
  | ⟨.log _, _⟩ => false
  | ⟨.isCancelled _, _⟩ => false
  | _ => true

def asked (xs : List (Plan.Exchange Host)) : List (Plan.Exchange Host) := xs.filter isAsking

theorem asked_append (xs ys : List (Plan.Exchange Host)) :
    asked (xs ++ ys) = asked xs ++ asked ys :=
  List.filter_append ..

theorem action_of_not_asking {x : Plan.Exchange Host} (h : isAsking x = false) :
    HostAction.ofExchange? x = none := by
  obtain ⟨c, reply⟩ := x
  cases c with
  | log | isCancelled => rfl
  | _ => cases h

theorem filterMap_asked (xs : List (Plan.Exchange Host)) :
    (asked xs).filterMap HostAction.ofExchange? = xs.filterMap HostAction.ofExchange? := by
  induction xs with
  | nil => rfl
  | cons x xs ih =>
      cases h : isAsking x with
      | true =>
          rw [asked, List.filter_cons_of_pos h, List.filterMap_cons, List.filterMap_cons, ← ih]
          rfl
      | false =>
          rw [asked, List.filter_cons_of_neg (by simp [h]),
            List.filterMap_cons_none (action_of_not_asking h), ← ih]
          rfl

end BlockVolume
