import UsbIdentity.Json.Numeral
import UsbIdentity.Text.Hex

namespace UsbIdentity.Json

def isBlank (c : Char) : Bool :=
  c = ' ' || c = '\n' || c = '\t' || c = '\r'

def skipBlanks (text : List Char) : List Char :=
  text.dropWhile isBlank

def readWord : List Char → List Char → Except Fault (List Char)
  | [], rest => .ok rest
  | _ :: _, [] => .error .ended
  | expected :: word, c :: rest => if c = expected then readWord word rest else .error .malformed

def simpleEscape? : Char → Option Char
  | '"' => some '"'
  | '\\' => some '\\'
  | '/' => some '/'
  | 'b' => some (Char.ofNat 8)
  | 'f' => some (Char.ofNat 12)
  | 'n' => some '\n'
  | 'r' => some '\r'
  | 't' => some '\t'
  | _ => none

def isLowSurrogate (unit : Nat) : Bool :=
  0xdc00 ≤ unit && unit ≤ 0xdfff

def isHighSurrogate (unit : Nat) : Bool :=
  0xd800 ≤ unit && unit ≤ 0xdbff

def ofSurrogates (high low : Nat) : Char :=
  Char.ofNat (0x10000 + (high - 0xd800) * 0x400 + (low - 0xdc00))

/-- What is known of a string while it is read: its characters, or nothing after an escape that
denotes none, and the text after it. -/
abbrev Scan := Except Break (Option (List Char) × List Char)

namespace Scan

def push (c : Char) (scan : Scan) : Scan :=
  scan.map fun (chars, rest) => (chars.map (c :: ·), rest)

def lose : Scan → Scan
  | .ok (_, rest) => .ok (none, rest)
  | .error stop => .error { stop with reading := .malformed }

end Scan

def shortEscape (rest : List Char) : Break :=
  if (String.ofList rest).utf8ByteSize < 4 then .ended else .malformed

def endsInEscape : List Char → Bool
  | [] => true
  | ['\\'] => true
  | '\\' :: 'u' :: rest => rest.length < 4
  | _ => false

def readString : List Char → Scan
  | [] => .error .ended
  | '"' :: rest => .ok (some [], rest)
  | '\\' :: 'u' :: a :: b :: c :: d :: rest =>
    match Hex.number? [a, b, c, d] with
    | none => .error .malformed
    | some unit =>
      if isLowSurrogate unit then (readString rest).lose
      else if isHighSurrogate unit then
        match rest with
        | '\\' :: 'u' :: e :: f :: g :: h :: more =>
          match Hex.number? [e, f, g, h] with
          | none => .error .malformed
          | some low =>
            if isLowSurrogate low then (readString more).push (ofSurrogates unit low)
            else (readString ('\\' :: 'u' :: e :: f :: g :: h :: more)).lose
        | rest => if endsInEscape rest then readString rest else (readString rest).lose
      else (readString rest).push (Char.ofNat unit)
  | '\\' :: 'u' :: rest => .error (shortEscape rest)
  | '\\' :: c :: rest =>
    match simpleEscape? c with
    | some escaped => (readString rest).push escaped
    | none => .error .malformed
  | ['\\'] => .error .ended
  | c :: rest => if c.toNat < 32 then .error .malformed else (readString rest).push c

abbrev Step (α : Type) := α × Option (List Char)

def wordStep (value : Draft) (word text : List Char) : Step Draft :=
  match readWord word text with
  | .ok rest => (value, some rest)
  | .error fault => (.broken ⟨fault, fault⟩, none)

def numberStep (text : List Char) : Step Draft :=
  match Numeral.read text with
  | .ok (numeral, rest) => (.number numeral.value?, some rest)
  | .error stop => (.broken stop, none)

def stringStep (text : List Char) : Step Draft :=
  match readString text with
  | .ok (chars, rest) => (.string (chars.map String.ofList), some rest)
  | .error stop => (.openString stop, none)

mutual

def readValue : Nat → List Char → Step Draft
  | 0, _ => (.absent, none)
  | bound + 1, text =>
    match skipBlanks text with
    | [] => (.absent, none)
    | 'n' :: rest => wordStep .null ['u', 'l', 'l'] rest
    | 't' :: rest => wordStep (.boolean true) ['r', 'u', 'e'] rest
    | 'f' :: rest => wordStep (.boolean false) ['a', 'l', 's', 'e'] rest
    | '"' :: rest => stringStep rest
    | '[' :: rest =>
      match skipBlanks rest with
      | ']' :: rest => (.array [] none, some rest)
      | [] => (.array [] (some .ended), none)
      | rest =>
        let ((items, stop), rest) := readItems bound rest
        (.array items stop, rest)
    | '\x7b' :: rest =>
      match skipBlanks rest with
      | '\x7d' :: rest => (.object [] none, some rest)
      | [] => (.object [] (some .ended), none)
      | rest =>
        let ((members, stop), rest) := readMembers bound rest
        (.object members stop, rest)
    | c :: rest =>
      if c = '-' ∨ Numeral.isDigit c then numberStep (c :: rest) else (.broken .malformed, none)

def readItems : Nat → List Char → Step (List Draft × Option Break)
  | 0, _ => (([], some .ended), none)
  | bound + 1, text =>
    match readValue bound text with
    | (item, none) => (([item], some .ended), none)
    | (item, some rest) =>
      match skipBlanks rest with
      | ']' :: rest => (([item], none), some rest)
      | ',' :: rest =>
        let ((items, stop), rest) := readItems bound rest
        ((item :: items, stop), rest)
      | [] => (([item], some .ended), none)
      | _ => (([item], some .malformed), none)

def readMembers : Nat → List Char → Step (List (Draft × Draft) × Option Break)
  | 0, _ => (([], some .ended), none)
  | bound + 1, text =>
    match readValue bound text with
    | (.string name, some rest) =>
      match skipBlanks rest with
      | ':' :: rest =>
        match readValue bound rest with
        | (value, none) => (([(.string name, value)], some .ended), none)
        | (value, some rest) =>
          match skipBlanks rest with
          | '\x7d' :: rest => (([(.string name, value)], none), some rest)
          | ',' :: rest =>
            let ((members, stop), rest) := readMembers bound rest
            (((.string name, value) :: members, stop), rest)
          | [] => (([(.string name, value)], some .ended), none)
          | _ => (([(.string name, value)], some .malformed), none)
      | [] => (([(.string name, .absent)], some .ended), none)
      | _ => (([(.string name, .broken .malformed)], some .malformed), none)
    | (name, _) => (([(name, .absent)], some .ended), none)

end

structure Document where
  value : Draft
  trailing : Bool

def Document.ofText (text : String) : Document :=
  let chars := text.toList
  match readValue (2 * chars.length + 2) chars with
  | (value, some rest) => { value, trailing := !(skipBlanks rest).isEmpty }
  | (value, none) => { value, trailing := false }

end UsbIdentity.Json
