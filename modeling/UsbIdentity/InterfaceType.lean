import UsbIdentity.DeviceError
import UsbIdentity.Text.Hex
import UsbIdentity.Text.Split

/-!
# Interface types

A type is a class, a subclass and a protocol, written `cc:ss:pp` in hexadecimal. Trailing parts may
be the wildcard `*`, which is stored as zero with its bit of the mask cleared.
-/

namespace UsbIdentity

structure InterfaceType where
  classCode : UInt8
  subclass : UInt8
  protocol : UInt8
  mask : UInt8
  deriving DecidableEq, Repr

namespace InterfaceType

def classBit : UInt8 := 0x80

def subclassBit : UInt8 := 0x40

def protocolBit : UInt8 := 0x20

def exact (classCode subclass protocol : UInt8) : InterfaceType :=
  ⟨classCode, subclass, protocol, classBit ||| subclassBit ||| protocolBit⟩

def ofDescriptor (descriptor : InterfaceDescriptor) : InterfaceType :=
  exact descriptor.classCode descriptor.subclass descriptor.protocol

def appliesTo (type other : InterfaceType) : Bool :=
  (type.mask &&& classBit == 0 || type.classCode == other.classCode) &&
    (type.mask &&& subclassBit == 0 || type.subclass == other.subclass) &&
    (type.mask &&& protocolBit == 0 || type.protocol == other.protocol)

def partChars (type : InterfaceType) (bit value : UInt8) : List Char :=
  if type.mask &&& bit != 0 then Hex.byte value else ['*']

def chars (type : InterfaceType) : List Char :=
  Text.join ':'
    [type.partChars classBit type.classCode, type.partChars subclassBit type.subclass,
      type.partChars protocolBit type.protocol]

def text (type : InterfaceType) : String :=
  String.ofList type.chars

/-- What one part says: `some none` is the wildcard, `none` is not a part at all. -/
def part? (part : List Char) : Option (Option UInt8) :=
  if part = ['*'] then some none else (Hex.byte? part).map some

def ofParts? : List (List Char) → Option InterfaceType
  | [first, second, third] =>
    match part? first, part? second, part? third with
    | some (some classCode), some (some subclass), some (some protocol) =>
      some (exact classCode subclass protocol)
    | some (some classCode), some (some subclass), some none =>
      some ⟨classCode, subclass, 0, classBit ||| subclassBit⟩
    | some (some classCode), some none, some none => some ⟨classCode, 0, 0, classBit⟩
    | _, _, _ => none
  | _ => none

def ofText (text : String) : Except InvalidValue InterfaceType :=
  match ofParts? (Text.splitOn ':' text.toList) with
  | some type => .ok type
  | none => .error (.interfaceType text)

end InterfaceType

end UsbIdentity
