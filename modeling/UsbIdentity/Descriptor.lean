namespace UsbIdentity

inductive Kind where
  | device
  | configuration
  | interface
  | endpoint
  deriving DecidableEq, Repr

namespace Kind

def all : List Kind :=
  [.device, .configuration, .interface, .endpoint]

def code : Kind → UInt8
  | .device => 1
  | .configuration => 2
  | .interface => 4
  | .endpoint => 5

def ofCode? (code : UInt8) : Option Kind :=
  all.find? (·.code = code)

def parent? : Kind → Option Kind
  | .device => none
  | .configuration => some .device
  | .interface => some .configuration
  | .endpoint => some .interface

def name : Kind → String
  | .device => "device"
  | .configuration => "configuration"
  | .interface => "interface"
  | .endpoint => "endpoint"

end Kind

structure DeviceDescriptor where
  usbVersion : UInt16 := 0
  classCode : UInt8 := 0
  subclass : UInt8 := 0
  protocol : UInt8 := 0
  maxPacketSize : UInt8 := 0
  vendorId : UInt16
  productId : UInt16
  deviceRelease : UInt16 := 0
  configurationCount : UInt8
  deriving DecidableEq, Repr

structure ConfigurationDescriptor where
  totalLength : UInt16 := 0
  interfaceCount : UInt8 := 0
  value : UInt8 := 0
  attributes : UInt8 := 0
  maxPower : UInt8 := 0
  deriving DecidableEq, Repr

structure InterfaceDescriptor where
  number : UInt8 := 0
  alternateSetting : UInt8 := 0
  endpointCount : UInt8 := 0
  classCode : UInt8
  subclass : UInt8
  protocol : UInt8
  deriving DecidableEq, Repr

structure EndpointDescriptor where
  address : UInt8
  attributes : UInt8 := 0
  maxPacketSize : UInt16 := 0
  interval : UInt8 := 0
  deriving DecidableEq, Repr

inductive Descriptor where
  | device (descriptor : DeviceDescriptor)
  | configuration (descriptor : ConfigurationDescriptor)
  | interface (descriptor : InterfaceDescriptor)
  | endpoint (descriptor : EndpointDescriptor)
  deriving DecidableEq, Repr

def Descriptor.kind : Descriptor → Kind
  | .device _ => .device
  | .configuration _ => .configuration
  | .interface _ => .interface
  | .endpoint _ => .endpoint

end UsbIdentity
