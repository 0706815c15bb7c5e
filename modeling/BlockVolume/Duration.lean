import BlockVolume.Binary64

namespace BlockVolume

def maxNanos : Nat := 18446744073709551616 * 1000000000 - 1

structure Duration where
  nanos : Nat
  le_max : nanos ≤ maxNanos
  deriving DecidableEq

namespace Duration

def ofNanos (n : Nat) : Duration := ⟨min n maxNanos, Nat.min_le_right _ _⟩

def ofMillis (n : Nat) : Duration := ofNanos (n * 1000000)

def ofSecs (n : Nat) : Duration := ofNanos (n * 1000000000)

def zero : Duration := ofNanos 0

def longest : Duration := ofNanos maxNanos

def secs (d : Duration) : Nat := d.nanos / 1000000000

def subsecNanos (d : Duration) : Nat := d.nanos % 1000000000

def add (a b : Duration) : Duration := ofNanos (a.nanos + b.nanos)

/-- A duration as a binary64 number of seconds: whole seconds and the fraction are each rounded,
and then their sum. -/
def seconds64? (d : Duration) : Option Rat := do
  let whole ← Binary64.round? d.secs
  let fraction ← Binary64.round? (mkRat d.subsecNanos 1000000000)
  Binary64.round? (whole + fraction)

/-- The duration nearest to a number of seconds, a tie going to the even nanosecond, unless the
number is negative or 2⁶⁴ and more. -/
def ofSeconds? (q : Rat) : Option Duration :=
  if q < 0 ∨ (18446744073709551616 : Nat) ≤ q then none
  else some (ofNanos (Binary64.roundDiv (q.num.toNat * 1000000000) q.den))

/-- A duration times a factor, in binary64 arithmetic; the longest duration if the product is not
a duration. -/
def scale (d : Duration) (factor : Binary64) : Duration :=
  (do
    let s ← d.seconds64?
    let f ← factor.value?
    ofSeconds? (← Binary64.round? (s * f))).getD longest

def padded (width n : Nat) : List Char :=
  let ds := Nat.toDigits 10 n
  List.replicate (width - ds.length) '0' ++ ds

def withFraction (whole part width : Nat) : String :=
  let ds := ((padded width part).reverse.dropWhile (· = '0')).reverse
  String.ofList (Nat.toDigits 10 whole ++ if ds.isEmpty then [] else '.' :: ds)

def describe (d : Duration) : String :=
  let n := d.nanos
  if 1000000000 ≤ n then withFraction (n / 1000000000) (n % 1000000000) 9 ++ "s"
  else if 1000000 ≤ n then withFraction (n / 1000000) (n % 1000000) 6 ++ "ms"
  else if 1000 ≤ n then withFraction (n / 1000) (n % 1000) 3 ++ "µs"
  else withFraction n 0 0 ++ "ns"

end Duration

/-- A schedule of `attempts` attempts. The next delay is `delay`, each later one `factor` times the
one before it. -/
structure RetrySchedule where
  delay : Duration
  factor : Binary64
  attempts : Nat
  deriving DecidableEq

namespace RetrySchedule

def next (b : RetrySchedule) : Option Duration × RetrySchedule :=
  if b.attempts ≤ 1 then (none, { b with attempts := 0 })
  else (some b.delay, { b with attempts := b.attempts - 1, delay := b.delay.scale b.factor })

def delaysFrom (factor : Binary64) : Nat → Duration → List Duration
  | 0, _ => []
  | n + 1, d => d :: delaysFrom factor n (d.scale factor)

def delays (b : RetrySchedule) : List Duration := delaysFrom b.factor (b.attempts - 1) b.delay

theorem length_delaysFrom (factor : Binary64) (n : Nat) (d : Duration) :
    (delaysFrom factor n d).length = n := by
  induction n generalizing d with
  | zero => rfl
  | succ n ih => exact congrArg (· + 1) (ih _)

theorem length_delays (b : RetrySchedule) : b.delays.length = b.attempts - 1 :=
  length_delaysFrom ..

theorem next_fst (b : RetrySchedule) : b.next.1 = b.delays.head? := by
  obtain ⟨d, f, n⟩ := b
  match n with
  | 0 | 1 | _ + 2 => rfl

theorem delays_next (b : RetrySchedule) : b.next.2.delays = b.delays.tail := by
  obtain ⟨d, f, n⟩ := b
  match n with
  | 0 | 1 | _ + 2 => rfl

def total (b : RetrySchedule) : Duration := b.delays.foldl Duration.add Duration.zero

end RetrySchedule

end BlockVolume
