import UsbIdentity.Rule
import UsbIdentity.Schema.Reader

namespace UsbIdentity

open Schema

def Target.reader : Reader Target :=
  variant (Target.all.map fun target => (target.name, target))

def Target.toJson (target : Target) : Json :=
  .string target.name

def SetOperator.reader : Reader SetOperator :=
  variant (SetOperator.all.map fun operator => (operator.name, operator))

def SetOperator.toJson (operator : SetOperator) : Json :=
  .string operator.name

def InterfaceType.reader : Reader InterfaceType := fun context draft => do
  let text ← string context draft
  match InterfaceType.ofText text with
  | .ok type => .ok type
  | .error invalid => .error (.mismatch (.invalid invalid))

def InterfaceType.toJson (type : InterfaceType) : Json :=
  .string type.text

namespace RuleSet

variable {α : Type}

def slots (value : Reader α) : List (Slot (RuleSet α)) :=
  [required "operator" SetOperator.reader fun v set => { set with operator := v },
    optional "values" (list value) fun v set => { set with values := v }]

def reader (value : Reader α) : Reader (RuleSet α) :=
  record "RuleSet" (slots value) (.equals [])

def members (json : α → Json) (set : RuleSet α) : List (String × Json) :=
  [("operator", set.operator.toJson), ("values", .array (set.values.map json))]

def toJson (json : α → Json) (set : RuleSet α) : Json :=
  .object (set.members json)

end RuleSet

namespace Rule

def slots : List (Slot Rule) :=
  [required "id" uint32 fun v rule => { rule with id := v },
    required "target" Target.reader fun v rule => { rule with target := v },
    optional "vendor_id" string fun v rule => { rule with vendorId := v },
    optional "product_id" string fun v rule => { rule with productId := v },
    optional "serial_number" string fun v rule => { rule with serialNumber := v },
    optional "device_name" string fun v rule => { rule with deviceName := v },
    optional "device_hash" string fun v rule => { rule with deviceHash := v },
    optional "device_ports" (RuleSet.reader string) fun v rule => { rule with devicePorts := v },
    optional "interface_types" (RuleSet.reader InterfaceType.reader) fun v rule =>
      { rule with interfaceTypes := v },
    optional "device_configurations" int32 fun v rule => { rule with configurationCount := v }]

def reader : Reader Rule :=
  record "Rule" slots { id := defaultId, target := .unknown }

def membersWith (rule : Rule) (ports types : Json) : List (String × Json) :=
  [("id", .natural rule.id.toNat), ("target", rule.target.toJson),
    ("vendor_id", .string rule.vendorId), ("product_id", .string rule.productId),
    ("serial_number", .string rule.serialNumber), ("device_name", .string rule.deviceName),
    ("device_hash", .string rule.deviceHash), ("device_ports", ports), ("interface_types", types),
    ("device_configurations", .integer rule.configurationCount.toInt)]

def toJson (rule : Rule) : Json :=
  .object (rule.membersWith (rule.devicePorts.toJson .string)
    (rule.interfaceTypes.toJson InterfaceType.toJson))

end Rule

end UsbIdentity
