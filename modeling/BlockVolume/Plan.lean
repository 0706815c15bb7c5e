namespace BlockVolume

universe u

structure Interface where
  Call : Type
  Reply : Call → Type

/-- A computation that has a result, or makes a call and goes on with the answer. -/
inductive Plan (I : Interface) (α : Type u) : Type u
  | done (a : α)
  | call (c : I.Call) (next : I.Reply c → Plan I α)

namespace Plan

variable {I J : Interface} {α β σ : Type}

def bind : Plan I α → (α → Plan I β) → Plan I β
  | done a, f => f a
  | call c next, f => call c fun r => (next r).bind f

instance : Monad (Plan I) where
  pure := done
  bind := bind

theorem bind_done (p : Plan I α) : p.bind done = p := by
  induction p with
  | done a => rfl
  | call c next ih => exact congrArg (call c) (funext ih)

theorem bind_bind {γ : Type} (p : Plan I α) (f : α → Plan I β) (g : β → Plan I γ) :
    (p.bind f).bind g = p.bind fun a => (f a).bind g := by
  induction p with
  | done a => rfl
  | call c next ih => exact congrArg (call c) (funext ih)

instance : LawfulMonad (Plan I) :=
  LawfulMonad.mk' (Plan I) bind_done (fun _ _ => rfl) bind_bind

def ask (c : I.Call) : Plan I (I.Reply c) := call c done

/-- What an environment with a state answers to a call, and the state after it. -/
def Handler (I : Interface) (σ : Type) := (c : I.Call) → σ → I.Reply c × σ

def run (handle : Handler I σ) : Plan I α → σ → α × σ
  | done a, s => (a, s)
  | call c next, s =>
    let (reply, s) := handle c s
    (next reply).run handle s

@[simp]
theorem run_done (handle : Handler I σ) (a : α) (s : σ) : (done a).run handle s = (a, s) := rfl

@[simp]
theorem run_ask (handle : Handler I σ) (c : I.Call) (s : σ) :
    (ask c).run handle s = handle c s := rfl

theorem run_bind (handle : Handler I σ) (p : Plan I α) (f : α → Plan I β) (s : σ) :
    (p.bind f).run handle s = (f (p.run handle s).1).run handle (p.run handle s).2 := by
  induction p generalizing s with
  | done a => rfl
  | call c next ih => exact ih _ _

abbrev Exchange (I : Interface) := (c : I.Call) × I.Reply c

def record (handle : Handler I σ) : Plan I α → σ → List (Exchange I) × α × σ
  | done a, s => ([], a, s)
  | call c next, s =>
    let (reply, s) := handle c s
    let (later, result) := (next reply).record handle s
    (⟨c, reply⟩ :: later, result)

theorem record_snd (handle : Handler I σ) (p : Plan I α) (s : σ) :
    (p.record handle s).2 = p.run handle s := by
  induction p generalizing s with
  | done a => rfl
  | call c next ih => exact ih _ _

def expand (f : (c : I.Call) → Plan J (I.Reply c)) : Plan I α → Plan J α
  | done a => done a
  | call c next => (f c).bind fun r => (next r).expand f

theorem run_expand (f : (c : I.Call) → Plan J (I.Reply c)) (handle : Handler J σ) (p : Plan I α)
    (s : σ) : (p.expand f).run handle s = p.run (fun c s => (f c).run handle s) s := by
  induction p generalizing s with
  | done a => rfl
  | call c next ih =>
    rw [expand, run_bind, ih]
    rfl

end Plan

end BlockVolume
