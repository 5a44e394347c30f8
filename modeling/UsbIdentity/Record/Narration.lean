import UsbIdentity.Log
import UsbIdentity.Record

namespace UsbIdentity

def Descriptor.loadedText : Descriptor → String × List (String × String)
  | .device d =>
    ("Loaded device descriptor", [("configurations", toString d.configurationCount.toNat)])
  | .configuration d =>
    ("Loaded configuration descriptor",
      [("value", toString d.value.toNat), ("interfaces", toString d.interfaceCount.toNat)])
  | .interface d =>
    ("Loaded interface descriptor", [("interface", (InterfaceType.ofDescriptor d).text)])
  | .endpoint d => ("Loaded endpoint descriptor", [("address", toString d.address.toNat)])

def Descriptor.loaded (descriptor : Descriptor) : LogEvent where
  level := .trace
  source := "bastion_core::ingest"
  message := descriptor.loadedText.1
  values := descriptor.loadedText.2

def Record.ruleEvents (record : Record) (includePort : Bool) : List LogEvent :=
  if record.failed then []
  else
    [{ level := .trace
       source := "bastion_core::rule"
       message := "Generating device rule"
       values :=
        [("vendor_id", record.vendorId), ("product_id", record.productId), ("port", record.port),
          ("name", record.name), ("include_port", toString includePort)] }]

end UsbIdentity
