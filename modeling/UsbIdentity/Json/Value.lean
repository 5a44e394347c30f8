import UsbIdentity.Decimal.Binary64

namespace UsbIdentity

inductive Json.Number where
  | integer (value : Int)
  | float (value : Binary64)
  deriving DecidableEq, Repr

inductive Json where
  | null
  | boolean (value : Bool)
  | number (value : Json.Number)
  | string (value : String)
  | array (items : List Json)
  | object (members : List (String × Json))
  deriving Repr

namespace Json

def integer (value : Int) : Json :=
  .number (.integer value)

def natural (value : Nat) : Json :=
  .number (.integer value)

def get? : Json → String → Option Json
  | .object members, name => (members.reverse.find? (·.1 = name)).map (·.2)
  | _, _ => none

def insertMember {α : Type} (name : String) (value : α) : List (String × α) → List (String × α)
  | [] => [(name, value)]
  | (other, kept) :: rest =>
    if name < other then (name, value) :: (other, kept) :: rest
    else if name = other then (name, value) :: rest
    else (other, kept) :: insertMember name value rest

mutual

/-- The value with the members of every object in the order of their names. Of members with one name
the last is kept. -/
def canonical : Json → Json
  | .array items => .array (canonicalItems items)
  | .object members => .object (canonicalMembers members [])
  | other => other

def canonicalItems : List Json → List Json
  | [] => []
  | item :: items => canonical item :: canonicalItems items

def canonicalMembers : List (String × Json) → List (String × Json) → List (String × Json)
  | [], sorted => sorted
  | (name, value) :: members, sorted =>
    canonicalMembers members (insertMember name (canonical value) sorted)

end

end Json

end UsbIdentity
