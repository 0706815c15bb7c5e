import BlockVolume.Text
import BlockVolume.Toml.Reader

namespace BlockVolume.Toml

open Text (isDigit isDigitIn valueOf)

def moreDigits (base : Nat) : Reader (List Char)
  | [] => some ([], [])
  | '_' :: cs =>
    match cs with
    | d :: rest =>
      if isDigitIn base d then (moreDigits base rest).map fun (ds, r) => (d :: ds, r) else none
    | [] => none
  | c :: cs =>
    if isDigitIn base c then (moreDigits base cs).map fun (ds, r) => (c :: ds, r)
    else some ([], c :: cs)

def digits (base : Nat) : Reader (List Char) := do
  let d ← Reader.oneOf (isDigitIn base)
  pure (d :: (← moreDigits base))

def sign : Reader Bool
  | '-' :: cs => some (true, cs)
  | '+' :: cs => some (false, cs)
  | cs => some (false, cs)

def wholePart : Reader (List Char)
  | '0' :: cs => some (['0'], cs)
  | cs => digits 10 cs

def fraction : Reader (List Char) := do
  Reader.char '.'
  digits 10

def exponent : Reader Int := do
  let _ ← Reader.oneOf fun c => c == 'e' || c == 'E'
  let negative ← sign
  let n := valueOf 10 (← digits 10)
  pure (if negative then -(n : Int) else n)

/-- The pattern nearest to `digits · 10 ^ power`. What is surely beyond the largest number or below
half the smallest is not computed. -/
def decimalBits (digits : Nat) (power : Int) : Nat :=
  let places : Int := (Nat.toDigits 10 digits).length + power
  if digits = 0 ∨ places < -400 then 0
  else if 400 < places then Binary64.infinity.bits.toNat
  else if 0 ≤ power then Binary64.magnitudeBits (digits * Nat.pow 10 power.toNat) 1
  else Binary64.magnitudeBits digits (Nat.pow 10 (-power).toNat)

def withSign (negative : Bool) (magnitude : Nat) : Binary64 :=
  ⟨UInt64.ofNat (if negative then magnitude + Nat.pow 2 63 else magnitude)⟩

/-- A float: digits with a fraction, a power of ten, or both. One that is too great is refused, one
that is too small becomes minus infinity. -/
def decimalFloat : Reader Item := do
  let negative ← sign
  let whole ← wholePart
  let point ← Reader.optional fraction
  let power ← match point with
    | none => exponent
    | some _ => do pure ((← Reader.optional exponent).getD 0)
  let part := point.getD []
  let x := withSign negative (decimalBits (valueOf 10 (whole ++ part)) (power - part.length))
  Reader.require (x ≠ Binary64.infinity)
  pure (.float x)

def namedFloat : Reader Item := do
  let negative ← sign
  let c ← Reader.peek
  if c = some 'i' then
    Reader.text "inf".toList
    pure (.float (withSign negative Binary64.infinity.bits.toNat))
  else
    Reader.text "nan".toList
    pure (.float (withSign negative Binary64.notANumber.bits.toNat))

def integerItem (n : Int) : Reader Item := do
  Reader.require (-9223372036854775808 ≤ n && n < 9223372036854775808)
  pure (.integer n)

def markedInteger (base : Nat) : Reader Item := do
  let _ ← Reader.next
  let _ ← Reader.next
  integerItem (valueOf base (← digits base))

def decimalInteger : Reader Item := do
  let negative ← sign
  let n := valueOf 10 (← wholePart)
  integerItem (if negative then -(n : Int) else n)

def integer : Reader Item := fun cs =>
  match cs.take 2 with
  | ['0', 'x'] => markedInteger 16 cs
  | ['0', 'o'] => markedInteger 8 cs
  | ['0', 'b'] => markedInteger 2 cs
  | _ => decimalInteger cs

def fixedDigits : Nat → Reader (List Char)
  | 0 => pure []
  | n + 1 => do
    let d ← Reader.oneOf isDigit
    pure (d :: (← fixedDigits n))

def twoDigits (low high : Nat) : Reader Nat := do
  let n := valueOf 10 (← fixedDigits 2)
  Reader.require (low ≤ n && n ≤ high)
  pure n

def date : Reader Unit := do
  let _ ← fixedDigits 4
  Reader.char '-'
  let _ ← twoDigits 1 12
  Reader.char '-'
  let _ ← twoDigits 1 31

def timeOfDay : Reader Unit := do
  let _ ← twoDigits 0 23
  Reader.char ':'
  let _ ← twoDigits 0 59
  Reader.char ':'
  let _ ← twoDigits 0 60
  let _ ← Reader.optional do
    Reader.char '.'
    let _ ← Reader.oneOf isDigit
    Reader.many isDigit

def offset : Reader Unit := do
  let c ← Reader.next
  if c = 'Z' ∨ c = 'z' then pure ()
  else
    Reader.require (c == '+' || c == '-')
    let _ ← twoDigits 0 23
    Reader.char ':'
    let _ ← twoDigits 0 59

def timeAfterDate : Reader Unit := do
  let _ ← Reader.oneOf fun c => c == 'T' || c == 't' || c == ' '
  timeOfDay
  let _ ← Reader.optional offset

def moment : Reader Item :=
  (do
    date
    let _ ← Reader.optional timeAfterDate
    pure .moment) <|>
  (do
    timeOfDay
    pure .moment)

end BlockVolume.Toml
