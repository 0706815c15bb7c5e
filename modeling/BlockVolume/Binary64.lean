namespace BlockVolume

structure Binary64 where
  bits : UInt64
  deriving DecidableEq

namespace Binary64

def twoPow (e : Int) : Rat :=
  if 0 ≤ e then (Nat.pow 2 e.toNat : Nat) else 1 / (Nat.pow 2 (-e).toNat : Rat)

def value? (x : Binary64) : Option Rat :=
  let n := x.bits.toNat
  let field : Nat := n / Nat.pow 2 52 % Nat.pow 2 11
  let fraction : Nat := n % Nat.pow 2 52
  if field = 2047 then none
  else
    let magnitude : Rat :=
      if field = 0 then (fraction : Rat) * twoPow (-1074)
      else ((fraction + Nat.pow 2 52 : Nat) : Rat) * twoPow ((field : Int) - 1075)
    some (if n / Nat.pow 2 63 = 1 then -magnitude else magnitude)

def roundDiv (num den : Nat) : Nat :=
  let q := num / den
  let r := num % den
  if 2 * r < den then q else if den < 2 * r then q + 1 else if q % 2 = 0 then q else q + 1

/-- The exponent of the last of the fifty-three digits kept of a positive number: two to this power
is the distance between the patterns around it. -/
def unitExponent (num den : Nat) : Int :=
  let e : Int := (num.log2 : Int) - den.log2 - 52
  let full :=
    if 0 ≤ e then den * Nat.pow 2 (52 + e.toNat) ≤ num
    else den * Nat.pow 2 52 ≤ num * Nat.pow 2 (-e).toNat
  max (if full then e else e - 1) (-1074)

/-- The bits of the pattern nearest to a number that is not negative; a tie goes to the even one.
Counting units from the smallest exponent up, a rounding carry runs into the exponent by itself. -/
def magnitudeBits (num den : Nat) : Nat :=
  if num = 0 then 0
  else
    let e := unitExponent num den
    let digits :=
      if 0 ≤ e then roundDiv num (den * Nat.pow 2 e.toNat)
      else roundDiv (num * Nat.pow 2 (-e).toNat) den
    min (digits + (e + 1074).toNat * Nat.pow 2 52) (2047 * Nat.pow 2 52)

def ofRat (q : Rat) : Binary64 :=
  let magnitude := magnitudeBits q.num.natAbs q.den
  ⟨UInt64.ofNat (if q.num < 0 then magnitude + Nat.pow 2 63 else magnitude)⟩

def round? (q : Rat) : Option Rat := (ofRat q).value?

def infinity : Binary64 := ⟨0x7FF0000000000000⟩

def notANumber : Binary64 := ⟨0x7FF8000000000000⟩

end Binary64

end BlockVolume
