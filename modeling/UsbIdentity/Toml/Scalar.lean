import UsbIdentity.Text.Hex
import UsbIdentity.Toml.Value

namespace UsbIdentity.Toml

def isDigit (c : Char) : Bool :=
  '0' ≤ c && c ≤ '9'

def isWordChar (c : Char) : Bool :=
  isDigit c || ('a' ≤ c && c ≤ 'z') || ('A' ≤ c && c ≤ 'Z') || c = '+' || c = '-' || c = '_' ||
    c = '.' || c = ':'

def ungroup? (isDigitOf : Char → Bool) : List Char → Option (List Char)
  | [] => none
  | [c] => if isDigitOf c then some [c] else none
  | c :: '_' :: rest =>
    if isDigitOf c then (ungroup? isDigitOf rest).map (c :: ·) else none
  | c :: rest => if isDigitOf c then (ungroup? isDigitOf rest).map (c :: ·) else none

def numberOf (base : Nat) (digits : List Char) : Nat :=
  digits.foldl (fun n c => base * n + (Hex.value? c).getD 0) 0

def integer? (value : Int) : Option Toml :=
  if -(Int.pow 2 63) ≤ value ∧ value < Int.pow 2 63 then some (.integer value) else none

def basedInteger? (base : Nat) (word : List Char) : Option Toml :=
  match ungroup? (fun c => (Hex.value? c).any (· < base)) word with
  | some digits => integer? (numberOf base digits)
  | none => none

def takeSign : List Char → Bool × List Char
  | '+' :: rest => (false, rest)
  | '-' :: rest => (true, rest)
  | word => (false, word)

def wholeDigits? (word : List Char) : Option (List Char) :=
  match ungroup? isDigit word with
  | some ('0' :: _ :: _) => none
  | digits => digits

def decimalInteger? (word : List Char) : Option Toml :=
  let (negative, word) := takeSign word
  match wholeDigits? word with
  | some digits =>
    let magnitude : Int := numberOf 10 digits
    integer? (if negative then -magnitude else magnitude)
  | none => none

def exponent? (word : List Char) : Option Int :=
  let (negative, word) := takeSign word
  (ungroup? isDigit word).map fun digits =>
    let magnitude : Int := numberOf 10 digits
    if negative then -magnitude else magnitude

def splitFloat? (word : List Char) : Option (List Char × List Char × Int) :=
  let mantissa := word.takeWhile fun c => c ≠ 'e' ∧ c ≠ 'E'
  let exponent := word.drop mantissa.length
  let whole := mantissa.takeWhile (· ≠ '.')
  let fraction := mantissa.drop whole.length
  match wholeDigits? whole with
  | none => none
  | some whole =>
    match fraction, exponent with
    | [], [] => none
    | [], _ :: exponent => (exponent? exponent).map fun e => (whole, [], e)
    | _ :: fraction, [] => (ungroup? isDigit fraction).map fun fraction => (whole, fraction, 0)
    | _ :: fraction, _ :: exponent =>
      match ungroup? isDigit fraction, exponent? exponent with
      | some fraction, some e => some (whole, fraction, e)
      | _, _ => none

def float? (word : List Char) : Option Toml :=
  let (negative, word) := takeSign word
  if word = ['i', 'n', 'f'] then some (.float (.infinite negative))
  else if word = ['n', 'a', 'n'] then some (.float .notANumber)
  else
    match splitFloat? word with
    | none => none
    | some (whole, fraction, exponent) =>
      match Binary64.ofDecimal negative (numberOf 10 (whole ++ fraction))
          (exponent - fraction.length) with
      | .infinite false => none
      | value => some (.float value)

def twoDigits? (least greatest : Nat) : List Char → Option (Nat × List Char)
  | a :: b :: rest =>
    let value := numberOf 10 [a, b]
    if isDigit a && isDigit b && least ≤ value && value ≤ greatest then some (value, rest) else none
  | _ => none

def daysOf (year month : Nat) : Nat :=
  if month = 2 then
    if year % 4 = 0 ∧ (year % 100 ≠ 0 ∨ year % 400 = 0) then 29 else 28
  else if month = 4 ∨ month = 6 ∨ month = 9 ∨ month = 11 then 30
  else 31

def afterDate? : List Char → Option (List Char)
  | a :: b :: c :: d :: '-' :: rest =>
    if [a, b, c, d].all isDigit then
      match twoDigits? 1 12 rest with
      | some (month, '-' :: rest) =>
        (twoDigits? 1 (daysOf (numberOf 10 [a, b, c, d]) month) rest).map (·.2)
      | _ => none
    else none
  | _ => none

def afterTime? (word : List Char) : Option (List Char) :=
  match twoDigits? 0 23 word with
  | some (_, ':' :: rest) =>
    match twoDigits? 0 59 rest with
    | some (_, ':' :: rest) =>
      match twoDigits? 0 60 rest with
      | some (_, '.' :: rest) =>
        if (rest.takeWhile isDigit).isEmpty then none else some (rest.dropWhile isDigit)
      | some (_, rest) => some rest
      | none => none
    | _ => none
  | _ => none

def isOffset : List Char → Bool
  | [] => true
  | ['Z'] => true
  | ['z'] => true
  | sign :: rest =>
    (sign = '+' || sign = '-') &&
      match twoDigits? 0 23 rest with
      | some (_, ':' :: rest) => (twoDigits? 0 59 rest).any (·.2.isEmpty)
      | _ => false

def isTimeOfDate (word : List Char) : Bool :=
  (afterTime? word).any isOffset

def isDate (word : List Char) : Bool :=
  (afterDate? word).any (·.isEmpty)

def isMoment (word : List Char) : Bool :=
  match afterDate? word with
  | some [] => true
  | some ('T' :: rest) => isTimeOfDate rest
  | some ('t' :: rest) => isTimeOfDate rest
  | some _ => false
  | none => (afterTime? word).any (·.isEmpty)

def scalar? (word : List Char) : Option Toml :=
  if word = ['t', 'r', 'u', 'e'] then some (.boolean true)
  else if word = ['f', 'a', 'l', 's', 'e'] then some (.boolean false)
  else if isMoment word then some .moment
  else
    match word with
    | '0' :: 'x' :: digits => basedInteger? 16 digits
    | '0' :: 'o' :: digits => basedInteger? 8 digits
    | '0' :: 'b' :: digits => basedInteger? 2 digits
    | _ =>
      match decimalInteger? word with
      | some value => some value
      | none => float? word

end UsbIdentity.Toml
