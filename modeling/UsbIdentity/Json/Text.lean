import UsbIdentity.Json.Printer
import UsbIdentity.Json.Reader
import UsbIdentity.Schema.Reader

namespace UsbIdentity.Json

open Schema

def readText {α : Type} (reader : Reader α) (text : String) : Except ReadError α := do
  let document := Document.ofText text
  let value ← reader { origin := .text } document.value
  if document.trailing then .error .malformed else .ok value

def ofText (text : String) : Except ReadError Json :=
  readText (fun context draft => keep context.depth draft) text

/-- The value that a JSON value writes. The order of members does not matter, and of two with one
name the last counts. -/
def readArgument {α : Type} (reader : Reader α) (value : Json) : Except ReadError α :=
  reader { origin := .value } (Draft.ofJson value.canonical)

def takePosition? (text : List Char) : Option (List Char) :=
  let (digits, rest) := Numeral.takeDigits text
  if digits.isEmpty then none
  else if Nat.pow 2 64 ≤ digits.foldl (fun n c => 10 * n + Numeral.digitValue c) 0 then none
  else some rest

def dropStart? : List Char → List Char → Option (List Char)
  | [], text => some text
  | c :: start, d :: text => if c = d then dropStart? start text else none
  | _ :: _, [] => none

def isPosition (text : List Char) : Bool :=
  let tail := do
    let text ← dropStart? " at line ".toList text
    let text ← takePosition? text
    let text ← dropStart? " column ".toList text
    takePosition? text
  tail = some []

def dropPosition : List Char → List Char
  | [] => []
  | c :: text => if isPosition (c :: text) then [] else c :: dropPosition text

/-- The report of a mismatch in JSON data. A value that is repeated at the end of a report loses what
looks like a position. -/
def errorText (mismatch : Mismatch) : String :=
  match mismatch with
  | .invalid value => String.ofList (dropPosition value.message.toList)
  | other => other.message floatLayout

end UsbIdentity.Json
