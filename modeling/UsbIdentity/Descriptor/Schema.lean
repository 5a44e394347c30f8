import UsbIdentity.Descriptor
import UsbIdentity.Schema.Reader

namespace UsbIdentity

open Schema

def Kind.cases : List (String × Kind) :=
  Kind.all.map fun kind => (kind.name, kind)

def Kind.reader : Reader Kind :=
  variant Kind.cases

def Kind.toJson (kind : Kind) : Json :=
  .string kind.name

def Json.ofUInt8 (value : UInt8) : Json :=
  .natural value.toNat

def Json.ofUInt16 (value : UInt16) : Json :=
  .natural value.toNat

namespace DeviceDescriptor

def slots : List (Slot DeviceDescriptor) :=
  [optional "usb_version" uint16 fun v d => { d with usbVersion := v },
    optional "class" uint8 fun v d => { d with classCode := v },
    optional "subclass" uint8 fun v d => { d with subclass := v },
    optional "protocol" uint8 fun v d => { d with protocol := v },
    optional "max_packet_size" uint8 fun v d => { d with maxPacketSize := v },
    required "vendor_id" uint16 fun v d => { d with vendorId := v },
    required "product_id" uint16 fun v d => { d with productId := v },
    optional "device_release" uint16 fun v d => { d with deviceRelease := v },
    required "num_configurations" uint8 fun v d => { d with configurationCount := v }]

def reader : Reader DeviceDescriptor :=
  record "DeviceDescriptor" slots { vendorId := 0, productId := 0, configurationCount := 0 }

def members (d : DeviceDescriptor) : List (String × Json) :=
  [("usb_version", .ofUInt16 d.usbVersion), ("class", .ofUInt8 d.classCode),
    ("subclass", .ofUInt8 d.subclass), ("protocol", .ofUInt8 d.protocol),
    ("max_packet_size", .ofUInt8 d.maxPacketSize), ("vendor_id", .ofUInt16 d.vendorId),
    ("product_id", .ofUInt16 d.productId), ("device_release", .ofUInt16 d.deviceRelease),
    ("num_configurations", .ofUInt8 d.configurationCount)]

end DeviceDescriptor

namespace ConfigurationDescriptor

def slots : List (Slot ConfigurationDescriptor) :=
  [optional "total_length" uint16 fun v d => { d with totalLength := v },
    optional "num_interfaces" uint8 fun v d => { d with interfaceCount := v },
    optional "configuration_value" uint8 fun v d => { d with value := v },
    optional "attributes" uint8 fun v d => { d with attributes := v },
    optional "max_power" uint8 fun v d => { d with maxPower := v }]

def reader : Reader ConfigurationDescriptor :=
  record "ConfigurationDescriptor" slots {}

def members (d : ConfigurationDescriptor) : List (String × Json) :=
  [("total_length", .ofUInt16 d.totalLength), ("num_interfaces", .ofUInt8 d.interfaceCount),
    ("configuration_value", .ofUInt8 d.value), ("attributes", .ofUInt8 d.attributes),
    ("max_power", .ofUInt8 d.maxPower)]

end ConfigurationDescriptor

namespace InterfaceDescriptor

def slots : List (Slot InterfaceDescriptor) :=
  [optional "interface_number" uint8 fun v d => { d with number := v },
    optional "alternate_setting" uint8 fun v d => { d with alternateSetting := v },
    optional "num_endpoints" uint8 fun v d => { d with endpointCount := v },
    required "class" uint8 fun v d => { d with classCode := v },
    required "subclass" uint8 fun v d => { d with subclass := v },
    required "protocol" uint8 fun v d => { d with protocol := v }]

def reader : Reader InterfaceDescriptor :=
  record "InterfaceDescriptor" slots { classCode := 0, subclass := 0, protocol := 0 }

def members (d : InterfaceDescriptor) : List (String × Json) :=
  [("interface_number", .ofUInt8 d.number), ("alternate_setting", .ofUInt8 d.alternateSetting),
    ("num_endpoints", .ofUInt8 d.endpointCount), ("class", .ofUInt8 d.classCode),
    ("subclass", .ofUInt8 d.subclass), ("protocol", .ofUInt8 d.protocol)]

end InterfaceDescriptor

namespace EndpointDescriptor

def slots : List (Slot EndpointDescriptor) :=
  [required "address" uint8 fun v d => { d with address := v },
    optional "attributes" uint8 fun v d => { d with attributes := v },
    optional "max_packet_size" uint16 fun v d => { d with maxPacketSize := v },
    optional "interval" uint8 fun v d => { d with interval := v }]

def reader : Reader EndpointDescriptor :=
  record "EndpointDescriptor" slots { address := 0 }

def members (d : EndpointDescriptor) : List (String × Json) :=
  [("address", .ofUInt8 d.address), ("attributes", .ofUInt8 d.attributes),
    ("max_packet_size", .ofUInt16 d.maxPacketSize), ("interval", .ofUInt8 d.interval)]

end EndpointDescriptor

namespace Descriptor

def bodyReader : Kind → Reader Descriptor
  | .device => fun context draft => (DeviceDescriptor.reader context draft).map .device
  | .configuration => fun context draft =>
    (ConfigurationDescriptor.reader context draft).map .configuration
  | .interface => fun context draft => (InterfaceDescriptor.reader context draft).map .interface
  | .endpoint => fun context draft => (EndpointDescriptor.reader context draft).map .endpoint

def reader : Reader Descriptor :=
  tagged "Descriptor" "type" Kind.cases bodyReader

def members : Descriptor → List (String × Json)
  | .device d => d.members
  | .configuration d => d.members
  | .interface d => d.members
  | .endpoint d => d.members

def toJson (descriptor : Descriptor) : Json :=
  .object (("type", descriptor.kind.toJson) :: descriptor.members)

end Descriptor

end UsbIdentity
