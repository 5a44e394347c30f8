import UsbIdentity.Descriptor

namespace UsbIdentity

inductive Field where
  | name
  | vendorId
  | productId
  | serialNumber
  | port
  deriving DecidableEq, Repr

def Field.label : Field → String
  | .name => "name"
  | .vendorId => "vendor_id"
  | .productId => "product_id"
  | .serialNumber => "serial_number"
  | .port => "port"

def Field.all : List Field :=
  [.name, .vendorId, .productId, .serialNumber, .port]

inductive DeviceError where
  /-- A value of `actual` bytes for a field that holds at most `max`. -/
  | tooLong (field : Field) (max : UInt64) (actual : Nat)
  | duplicateDescriptor (kind : Kind)
  | missingParent (child parent : Kind)
  | identityIncomplete
  | enumerationFailed
  | poisoned
  deriving DecidableEq, Repr

namespace DeviceError

def message : DeviceError → String
  | .tooLong field max actual =>
    s!"Value for {field.label} is {actual} bytes, maximum is {max}"
  | .duplicateDescriptor kind =>
    s!"Invalid descriptor data: multiple {kind.name} descriptors for one device"
  | .missingParent child parent =>
    s!"Invalid descriptor data: missing parent {parent.name} descriptor while loading {child.name}"
  | .identityIncomplete => "Cannot compute device hash: vendor ID and/or product ID empty"
  | .enumerationFailed => "Device enumeration failed, device is not identified"
  | .poisoned => "Device record lock poisoned"

def isStructural : DeviceError → Bool
  | .duplicateDescriptor _ => true
  | .missingParent _ _ => true
  | _ => false

end DeviceError

inductive InvalidValue where
  | target (text : String)
  | interfaceType (text : String)
  deriving DecidableEq, Repr

def InvalidValue.message : InvalidValue → String
  | .target text => "Invalid rule target: " ++ text
  | .interfaceType text => "Invalid interface type: " ++ text

end UsbIdentity
