import UsbIdentity.Json.Value

/-!
# Drafts of data

A draft is what a text says as far as it could be followed, with the place where it breaks off. It
lets a reader go through the text in order: data of the wrong type in front of a fault is found
before the fault.

A reader that keeps a value and one that passes over it can see different faults: a string with
half a surrogate pair, or a number too great to represent, is passed over without complaint.
-/

namespace UsbIdentity

inductive Fault where
  | ended
  | malformed
  deriving DecidableEq, Repr

structure Break where
  reading : Fault
  skipping : Fault
  deriving DecidableEq, Repr

namespace Break

def ended : Break := ⟨.ended, .ended⟩

def malformed : Break := ⟨.malformed, .malformed⟩

end Break

inductive Draft where
  | null
  | boolean (value : Bool)
  /-- A number, or nothing if it is too great to represent. -/
  | number (value : Option Json.Number)
  | string (value : Option String)
  | array (items : List Draft) (stop : Option Break)
  | object (members : List (Draft × Draft)) (stop : Option Break)
  | absent
  | openString (stop : Break)
  | broken (stop : Break)

namespace Draft

def ofName (name : String) : Draft :=
  .string (some name)

mutual

def ofJson : Json → Draft
  | .null => .null
  | .boolean value => .boolean value
  | .number value => .number (some value)
  | .string value => .string (some value)
  | .array items => .array (ofItems items) none
  | .object members => .object (ofMembers members) none

def ofItems : List Json → List Draft
  | [] => []
  | item :: items => ofJson item :: ofItems items

def ofMembers : List (String × Json) → List (Draft × Draft)
  | [] => []
  | (name, value) :: members => (ofName name, ofJson value) :: ofMembers members

end

end Draft

end UsbIdentity
