import UsbIdentity.Descriptor.Schema
import UsbIdentity.Limits
import UsbIdentity.Trace

namespace UsbIdentity

open Schema

namespace Attributes

def slots : List (Slot Attributes) :=
  [optional "name" string fun v attributes => { attributes with name := v },
    optional "serial_number" string fun v attributes => { attributes with serialNumber := v },
    optional "port" string fun v attributes => { attributes with port := v }]

def reader : Reader Attributes :=
  record "DeviceAttributes" slots {}

def members (attributes : Attributes) : List (String × Json) :=
  [("name", .string attributes.name), ("serial_number", .string attributes.serialNumber),
    ("port", .string attributes.port)]

def toJson (attributes : Attributes) : Json :=
  .object attributes.members

end Attributes

def SessionState.reader : Reader SessionState :=
  variant (SessionState.all.map fun state => (state.name, state))

def SessionState.toJson (state : SessionState) : Json :=
  .string state.name

namespace Trace

def slots : List (Slot Trace) :=
  [optional "device" Attributes.reader fun v trace => { trace with device := v },
    optional "descriptors" (list Descriptor.reader) fun v trace => { trace with descriptors := v }]

def reader : Reader Trace :=
  record "Trace" slots {}

def members (device descriptors : Json) : List (String × Json) :=
  [("device", device), ("descriptors", descriptors)]

def toJson (trace : Trace) : Json :=
  .object (members trace.device.toJson (.array (trace.descriptors.map Descriptor.toJson)))

end Trace

end UsbIdentity
