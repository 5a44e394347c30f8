import UsbIdentity.InterfaceType

namespace UsbIdentity

inductive Target where
  | unknown
  | allow
  | block
  | reject
  deriving DecidableEq, Repr

namespace Target

def all : List Target :=
  [.unknown, .allow, .block, .reject]

def name : Target → String
  | .unknown => "unknown"
  | .allow => "allow"
  | .block => "block"
  | .reject => "reject"

def ofText (text : String) : Except InvalidValue Target :=
  match all.find? (·.name = text) with
  | some target => .ok target
  | none => .error (.target text)

end Target

inductive SetOperator where
  | allOf
  | oneOf
  | noneOf
  | equals
  | equalsOrdered
  | matchAll
  deriving DecidableEq, Repr

namespace SetOperator

def all : List SetOperator :=
  [.allOf, .oneOf, .noneOf, .equals, .equalsOrdered, .matchAll]

def name : SetOperator → String
  | .allOf => "all-of"
  | .oneOf => "one-of"
  | .noneOf => "none-of"
  | .equals => "equals"
  | .equalsOrdered => "equals-ordered"
  | .matchAll => "match-all"

end SetOperator

structure RuleSet (α : Type) where
  operator : SetOperator
  values : List α
  deriving DecidableEq, Repr

namespace RuleSet

def equals {α : Type} (values : List α) : RuleSet α :=
  ⟨.equals, values⟩

def isEmpty {α : Type} (set : RuleSet α) : Bool :=
  set.values.isEmpty

end RuleSet

structure Rule where
  id : UInt32
  target : Target
  vendorId : String := ""
  productId : String := ""
  serialNumber : String := ""
  deviceName : String := ""
  deviceHash : String := ""
  devicePorts : RuleSet String := .equals []
  interfaceTypes : RuleSet InterfaceType := .equals []
  configurationCount : Int32 := -1
  deriving DecidableEq, Repr

def Rule.defaultId : UInt32 := 0xfffffffd

end UsbIdentity
