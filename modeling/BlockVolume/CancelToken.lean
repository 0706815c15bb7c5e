import BlockVolume.Duration

namespace BlockVolume

structure Instant where
  nanos : Nat
  deriving DecidableEq

namespace Instant

def limit : Nat := 9223372036854775808 * 1000000000

/-- The point that is `d` later, if the clock can show it. -/
def after? (t : Instant) (d : Duration) : Option Instant :=
  if t.nanos + d.nanos < limit then some ⟨t.nanos + d.nanos⟩ else none

def le (a b : Instant) : Bool := a.nanos ≤ b.nanos

def min (a b : Instant) : Instant := if a.le b then a else b

def max (a b : Instant) : Instant := if a.le b then b else a

def earliest? : Option Instant → Option Instant → Option Instant
  | some a, some b => some (a.min b)
  | some a, none => some a
  | none, b => b

end Instant

structure CancelToken where
  family : Nat
  deadline : Option Instant
  deriving DecidableEq

inductive WaitOutcome
  | elapsed
  | cancelled
  deriving DecidableEq

/-- The clock, the families that are cancelled, and the number of families there are. -/
structure Signals where
  now : Instant
  raised : List Nat
  families : Nat
  deriving DecidableEq

namespace CancelToken

def isCancelledAt (t : CancelToken) (raised : Bool) (now : Instant) : Bool :=
  raised || (match t.deadline with
    | some d => d.le now
    | none => false)

/-- A token of the same family that is cancelled at the latest `timeout` after `now`. A timeout
that the clock cannot show sets no bound. -/
def within (t : CancelToken) (now : Instant) (timeout : Duration) : CancelToken :=
  { t with deadline := Instant.earliest? t.deadline (now.after? timeout) }

/-- What one look at the flag and the clock says to a wait that is to end at `wakeAt`: how it
ended, or until when to wait on. A token that is cancelled by then counts before the wait's own
end; a wait without an end of any kind looks again after an hour. -/
def look (t : CancelToken) (wakeAt : Option Instant) (raised : Bool) (now : Instant) :
    WaitOutcome ⊕ Instant :=
  if t.isCancelledAt raised now then .inl .cancelled
  else match wakeAt, Instant.earliest? wakeAt t.deadline with
    | some w, until? => if w.le now then .inl .elapsed else .inr (until?.getD w)
    | none, until? => .inr (until?.getD ⟨now.nanos + 3600 * 1000000000⟩)

def waitOver (t : CancelToken) (wakeAt : Option Instant) :
    List (Instant × Bool) → Option (WaitOutcome × Instant)
  | [] => none
  | (now, raised) :: looks =>
    match t.look wakeAt raised now with
    | .inl outcome => some (outcome, now)
    | .inr _ => waitOver t wakeAt looks

end CancelToken

namespace Signals

def start : Signals := ⟨⟨0⟩, [], 1⟩

def root : CancelToken := ⟨0, none⟩

def fresh (s : Signals) : CancelToken × Signals :=
  (⟨s.families, none⟩, { s with families := s.families + 1 })

def isRaised (s : Signals) (t : CancelToken) : Bool := s.raised.contains t.family

def cancel (s : Signals) (t : CancelToken) : Signals :=
  if s.isRaised t then s else { s with raised := t.family :: s.raised }

def isCancelled (s : Signals) (t : CancelToken) : Bool := t.isCancelledAt (s.isRaised t) s.now

def advanceTo (s : Signals) (t : Instant) : Signals := { s with now := s.now.max t }

def advance (s : Signals) (d : Duration) : Signals := s.advanceTo ⟨s.now.nanos + d.nanos⟩

/-- The looks of a wait whose timer is exact and which is told when the flag is raised, at
`cancelAt` if ever. -/
def exactLooks (s : Signals) (t : CancelToken) (wakeAt cancelAt : Option Instant) :
    List (Instant × Bool) :=
  let points := s.now :: ([wakeAt, t.deadline, cancelAt].filterMap id).filter s.now.le
  (points.mergeSort Instant.le).map fun x =>
    (x, s.isRaised t || (match cancelAt with
      | some c => c.le x
      | none => false))

/-- Waits for a duration. The clock then stands at the end of the wait; a wait that nothing ends
counts as cancelled when the clock runs out. -/
def waitUntil (s : Signals) (t : CancelToken) (d : Duration) (cancelAt : Option Instant) :
    WaitOutcome × Signals :=
  let wakeAt := s.now.after? d
  let (outcome, ended) :=
    (t.waitOver wakeAt (s.exactLooks t wakeAt cancelAt)).getD (.cancelled, ⟨Instant.limit⟩)
  (outcome, s.advanceTo ended)

def wait (s : Signals) (t : CancelToken) (d : Duration) : WaitOutcome × Signals :=
  s.waitUntil t d none

end Signals

end BlockVolume
