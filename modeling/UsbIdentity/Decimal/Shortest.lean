import UsbIdentity.Decimal.Binary64

/-!
# Shortest decimal text

The decimal of a floating-point number has the fewest digits that still read back as that number,
and is the nearest of those.
-/

namespace UsbIdentity.Decimal

/-- The numbers `low / unit` to `high / unit` that round to a significand at its exponent, with the
value itself at `value / unit`. -/
structure Interval where
  low : Nat
  value : Nat
  high : Nat
  unit : Nat
  closed : Bool

def Interval.around (significand : Nat) (exponent : Int) : Interval :=
  let up := Nat.pow 2 exponent.toNat
  let below :=
    if significand = Nat.pow 2 52 ∧ Binary64.leastExponent < exponent then 1 else 2
  { low := (4 * significand - below) * up
    value := 4 * significand * up
    high := (4 * significand + 2) * up
    unit := 4 * Nat.pow 2 (-exponent).toNat
    closed := significand % 2 = 0 }

def decade (numerator denominator : Nat) : Int :=
  if denominator ≤ numerator then (Nat.toDigits 10 (numerator / denominator)).length - 1
  else -((Nat.toDigits 10 ((denominator - 1) / numerator)).length : Int)

def Interval.contains (interval : Interval) (digits : Nat) (exponent : Int) : Bool :=
  let point := digits * Nat.pow 10 exponent.toNat * interval.unit
  let scale := Nat.pow 10 (-exponent).toNat
  let low := interval.low * scale
  let high := interval.high * scale
  if interval.closed then low ≤ point && point ≤ high else low < point && point < high

def Interval.distance (interval : Interval) (digits : Nat) (exponent : Int) : Nat :=
  let point := digits * Nat.pow 10 exponent.toNat * interval.unit
  let value := interval.value * Nat.pow 10 (-exponent).toNat
  (point - value) + (value - point)

def Interval.onGrid? (interval : Interval) (exponent : Int) : Option Nat :=
  let below :=
    interval.value * Nat.pow 10 (-exponent).toNat / (interval.unit * Nat.pow 10 exponent.toNat)
  let above := below + 1
  match interval.contains below exponent, interval.contains above exponent with
  | true, true =>
    let toBelow := interval.distance below exponent
    let toAbove := interval.distance above exponent
    if toBelow < toAbove ∨ (toBelow = toAbove ∧ below % 2 = 0) then some below else some above
  | true, false => some below
  | false, true => some above
  | false, false => none

def searchGrids (interval : Interval) (leading : Int) : Nat → Nat × Int
  | 0 => (interval.value / interval.unit, 0)
  | more + 1 =>
    let exponent := leading - (16 - more)
    match interval.onGrid? exponent with
    | some digits => (digits, exponent)
    | none => searchGrids interval leading more

def shortest (significand : Nat) (exponent : Int) : Nat × Int :=
  let interval := Interval.around significand exponent
  searchGrids interval (decade interval.value interval.unit) 17

structure Layout where
  positional : Int → Bool

def leadingDigits (digits : Nat) (exponent : Int) : List Char × Int :=
  let chars := Nat.toDigits 10 digits
  let kept := (chars.reverse.dropWhile (· = '0')).reverse
  (if kept.isEmpty then ['0'] else kept, exponent + chars.length - 1)

def positionalChars (digits : List Char) (leading : Int) : List Char :=
  if leading < 0 then
    '0' :: '.' :: (List.replicate (leading.natAbs - 1) '0' ++ digits)
  else
    let whole := leading.toNat + 1
    let filled := digits ++ List.replicate (whole - digits.length) '0'
    let fraction := filled.drop whole
    filled.take whole ++ '.' :: (if fraction.isEmpty then ['0'] else fraction)

def exponentialChars (digits : List Char) (leading : Int) : List Char :=
  let fraction := digits.drop 1
  digits.take 1 ++ (if fraction.isEmpty then [] else '.' :: fraction) ++
    'e' :: (if leading < 0 then '-' else '+') :: Nat.toDigits 10 leading.natAbs

def render (layout : Layout) : Binary64 → String
  | .finite negative significand exponent =>
    let (digits, place) := if significand = 0 then (0, 0) else shortest significand exponent
    let (digits, leading) := leadingDigits digits place
    let chars :=
      if layout.positional leading then positionalChars digits leading
      else exponentialChars digits leading
    String.ofList (if negative then '-' :: chars else chars)
  | .infinite negative => if negative then "-inf" else "inf"
  | .notANumber => "NaN"

end UsbIdentity.Decimal
