namespace UsbIdentity

inductive Binary64 where
  | finite (negative : Bool) (significand : Nat) (exponent : Int)
  | infinite (negative : Bool)
  | notANumber
  deriving DecidableEq, Repr

namespace Binary64

def leastExponent : Int := -1074

def greatestExponent : Int := 971

def zero (negative : Bool) : Binary64 :=
  .finite negative 0 leastExponent

def scaled (numerator denominator : Nat) (exponent : Int) : Nat × Nat :=
  if exponent < 0 then (numerator * Nat.pow 2 exponent.natAbs, denominator)
  else (numerator, denominator * Nat.pow 2 exponent.natAbs)

def nearest (numerator denominator : Nat) : Nat :=
  let quotient := numerator / denominator
  let remainder := numerator % denominator
  if 2 * remainder < denominator then quotient
  else if 2 * remainder = denominator ∧ quotient % 2 = 0 then quotient
  else quotient + 1

def exponentOf (numerator denominator : Nat) : Int :=
  let estimate : Int := (numerator.log2 : Int) - denominator.log2 - 52
  let (n, d) := scaled numerator denominator estimate
  max leastExponent (if n / d < Nat.pow 2 52 then estimate - 1 else estimate)

def ofRatio (negative : Bool) (numerator denominator : Nat) : Binary64 :=
  if numerator = 0 then zero negative
  else
    let exponent := exponentOf numerator denominator
    let (n, d) := scaled numerator denominator exponent
    let significand := nearest n d
    let (significand, exponent) :=
      if significand = Nat.pow 2 53 then (Nat.pow 2 52, exponent + 1) else (significand, exponent)
    if greatestExponent < exponent then .infinite negative
    else .finite negative significand exponent

def ofNat (n : Nat) : Binary64 :=
  ofRatio false n 1

def neg : Binary64 → Binary64
  | .finite negative significand exponent => .finite (!negative) significand exponent
  | .infinite negative => .infinite (!negative)
  | .notANumber => .notANumber

def isZero : Binary64 → Bool
  | .finite _ significand _ => significand == 0
  | _ => false

def mul : Binary64 → Binary64 → Binary64
  | .finite n s e, .finite n' s' e' =>
    let (numerator, denominator) := scaled (s * s') 1 (-(e + e'))
    ofRatio (n != n') numerator denominator
  | .infinite n, .finite n' s _ => if s = 0 then .notANumber else .infinite (n != n')
  | .finite n s _, .infinite n' => if s = 0 then .notANumber else .infinite (n != n')
  | .infinite n, .infinite n' => .infinite (n != n')
  | .notANumber, _ => .notANumber
  | _, .notANumber => .notANumber

def div : Binary64 → Binary64 → Binary64
  | .finite n s e, .finite n' s' e' =>
    if s' = 0 then if s = 0 then .notANumber else .infinite (n != n')
    else
      let (numerator, denominator) := scaled s s' (-(e - e'))
      ofRatio (n != n') numerator denominator
  | .infinite n, .finite n' _ _ => .infinite (n != n')
  | .finite n _ _, .infinite n' => zero (n != n')
  | .infinite _, .infinite _ => .notANumber
  | .notANumber, _ => .notANumber
  | _, .notANumber => .notANumber

def tenPower (exponent : Nat) : Binary64 :=
  ofNat (Nat.pow 10 exponent)

/-- The number nearest to `digits * 10 ^ exponent`. Exponents far outside the range of magnitudes
are decided by the count of digits alone. -/
def ofDecimal (negative : Bool) (digits : Nat) (exponent : Int) : Binary64 :=
  let magnitude : Int := (Nat.toDigits 10 digits).length + exponent
  if digits = 0 ∨ magnitude < -400 then zero negative
  else if 400 < magnitude then .infinite negative
  else if exponent < 0 then ofRatio negative digits (Nat.pow 10 exponent.natAbs)
  else ofRatio negative (digits * Nat.pow 10 exponent.natAbs) 1

end Binary64

end UsbIdentity
