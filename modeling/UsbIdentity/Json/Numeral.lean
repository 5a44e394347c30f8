import UsbIdentity.Json.Value
import UsbIdentity.Schema.Draft

/-!
# Numbers in a JSON text

A numeral without a point and an exponent is an integer as long as it fits 64 bits. Any other is a
floating-point number: its digits are gathered as long as they fit an unsigned word of 64 bits,
further digits only count as places, and one power of ten scales the word.
-/

namespace UsbIdentity.Json

structure Numeral where
  negative : Bool
  whole : List Char
  fraction : List Char
  exponent : Option (Bool × List Char)
  deriving DecidableEq, Repr

namespace Numeral

def isDigit (c : Char) : Bool :=
  '0' ≤ c && c ≤ '9'

def digitValue (c : Char) : Nat :=
  c.toNat - 48

def takeDigits (text : List Char) : List Char × List Char :=
  (text.takeWhile isDigit, text.dropWhile isDigit)

def breakAt (rest : List Char) : Break :=
  if rest.isEmpty then ⟨.ended, .malformed⟩ else .malformed

def readExponent (text : List Char) : Except Break ((Bool × List Char) × List Char) :=
  let (negative, text) :=
    match text with
    | '+' :: rest => (false, rest)
    | '-' :: rest => (true, rest)
    | _ => (false, text)
  match takeDigits text with
  | ([], rest) => .error (breakAt rest)
  | (digits, rest) => .ok ((negative, digits), rest)

def readTail (negative : Bool) (whole fraction text : List Char) :
    Except Break (Numeral × List Char) :=
  match text with
  | 'e' :: rest =>
    (readExponent rest).map fun (exponent, rest) => (⟨negative, whole, fraction, exponent⟩, rest)
  | 'E' :: rest =>
    (readExponent rest).map fun (exponent, rest) => (⟨negative, whole, fraction, exponent⟩, rest)
  | _ => .ok (⟨negative, whole, fraction, none⟩, text)

def readRest (negative : Bool) (whole text : List Char) : Except Break (Numeral × List Char) :=
  match text with
  | '.' :: rest =>
    match takeDigits rest with
    | ([], rest) => .error (breakAt rest)
    | (fraction, rest) => readTail negative whole fraction rest
  | _ => readTail negative whole [] text

/-- The numeral at the front of a text that starts with a digit or a minus, and the text after it. A
whole part of several digits does not start with a zero. -/
def read (text : List Char) : Except Break (Numeral × List Char) :=
  let (negative, text) :=
    match text with
    | '-' :: rest => (true, rest)
    | _ => (false, text)
  match takeDigits text with
  | ([], rest) => .error (breakAt rest)
  | (['0'], rest) => readRest negative ['0'] rest
  | ('0' :: _ :: _, _) => .error .malformed
  | (whole, rest) => readRest negative whole rest

def gather (word : Nat) : List Char → Nat × List Char
  | [] => (word, [])
  | digit :: digits =>
    let next := 10 * word + digitValue digit
    if Nat.pow 2 64 ≤ next then (word, digit :: digits) else gather next digits

def greatestPower : Nat := 308

def divideByPower (value : Binary64) (power : Nat) : Binary64 :=
  if power ≤ greatestPower then value.div (.tenPower power)
  else if value.isZero then value
  else divideByPower (value.div (.tenPower greatestPower)) (power - greatestPower)
termination_by power
decreasing_by simp only [greatestPower] at *; omega

def scale? (word : Nat) (power : Int) : Option Binary64 :=
  let value := Binary64.ofNat word
  if power < 0 then some (divideByPower value power.natAbs)
  else if power.natAbs ≤ greatestPower then
    match value.mul (.tenPower power.natAbs) with
    | .infinite _ => none
    | scaled => some scaled
  else if value.isZero then some value
  else none

def magnitude? (numeral : Numeral) : Option Binary64 :=
  let (word, places) := gather 0 numeral.whole
  let (word, dropped) := gather word numeral.fraction
  let power : Int := places.length - ((numeral.fraction.length : Int) - dropped.length)
  match numeral.exponent with
  | none => scale? word power
  | some (negative, digits) =>
    let exponent := digits.foldl (fun n c => 10 * n + digitValue c) 0
    if Nat.pow 2 31 ≤ exponent then
      if word ≠ 0 ∧ !negative then none else some (.zero false)
    else scale? word (if negative then power - exponent else power + exponent)

/-- The number that a numeral writes; nothing if it is too great. Minus zero and integers beyond 64
bits are floating-point numbers. -/
def value? (numeral : Numeral) : Option Number :=
  let float := numeral.magnitude?.map fun magnitude =>
    Number.float (if numeral.negative then magnitude.neg else magnitude)
  if numeral.fraction.isEmpty ∧ numeral.exponent.isNone then
    match gather 0 numeral.whole with
    | (word, []) =>
      if !numeral.negative then some (.integer word)
      else if word ≠ 0 ∧ word ≤ Nat.pow 2 63 then some (.integer (-(word : Int)))
      else float
    | _ => float
  else float

end Numeral

end UsbIdentity.Json
