import UsbIdentity.Identity
import UsbIdentity.Limits
import UsbIdentity.Rule

namespace UsbIdentity

structure Record where
  id : UInt32
  target : Target
  name : String
  vendorId : String
  productId : String
  serialNumber : String
  port : String
  interfaceTypes : List InterfaceType
  configurationCount : Int32
  limits : Limits
  failed : Bool
  deriving DecidableEq, Repr

namespace Record

def empty (limits : Limits) : Record where
  id := Rule.defaultId
  target := .unknown
  name := ""
  vendorId := ""
  productId := ""
  serialNumber := ""
  port := ""
  interfaceTypes := []
  configurationCount := -1
  limits := limits
  failed := false

def get (record : Record) : Field → String
  | .name => record.name
  | .vendorId => record.vendorId
  | .productId => record.productId
  | .serialNumber => record.serialNumber
  | .port => record.port

def put (record : Record) (field : Field) (value : String) : Record :=
  match field with
  | .name => { record with name := value }
  | .vendorId => { record with vendorId := value }
  | .productId => { record with productId := value }
  | .serialNumber => { record with serialNumber := value }
  | .port => { record with port := value }

def set (record : Record) (field : Field) (value : String) : Except DeviceError Unit × Record :=
  match record.limits.check field value with
  | .error e => (.error e, record)
  | .ok () => (.ok (), record.put field value)

theorem get_put (record : Record) (field other : Field) (value : String) :
    (record.put field value).get other = if other = field then value else record.get other := by
  cases field <;> cases other <;> rfl

@[simp]
theorem limits_put (record : Record) (field : Field) (value : String) :
    (record.put field value).limits = record.limits := by
  cases field <;> rfl

theorem set_eq_ok_iff {record next : Record} {field : Field} {value : String} :
    record.set field value = (.ok (), next) ↔
      value.utf8ByteSize ≤ (record.limits.maxFor field).toNat ∧ next = record.put field value := by
  rw [← Limits.check_eq_ok_iff, set]
  split
  · next refused => simp [refused]
  · next fits => simp [fits, eq_comm]

def setAll (record : Record) : List (Field × String) → Except DeviceError Unit × Record
  | [] => (.ok (), record)
  | (field, value) :: rest =>
    match record.set field value with
    | (.error e, record) => (.error e, record)
    | (.ok (), record) => record.setAll rest

def markFailed (record : Record) : Record :=
  { record with failed := true }

def hash (record : Record) : Except DeviceError String :=
  Identity.hash record.name record.vendorId record.productId record.serialNumber

def toRule (record : Record) (includePort : Bool) : Except DeviceError Rule :=
  if record.failed then .error .enumerationFailed
  else
    match record.hash with
    | .error e => .error e
    | .ok hash =>
      .ok {
        id := record.id
        target := record.target
        vendorId := record.vendorId
        productId := record.productId
        serialNumber := record.serialNumber
        deviceName := record.name
        deviceHash := hash
        devicePorts := .equals (if includePort then [record.port] else [])
        interfaceTypes := .equals record.interfaceTypes
        configurationCount := record.configurationCount }

/-- The texts of a rule in the order in which they are replayed. A device has one port: the first of
the set, if there is any. -/
def textsOfRule (rule : Rule) : List (Field × String) :=
  [(.name, rule.deviceName), (.vendorId, rule.vendorId), (.productId, rule.productId),
    (.serialNumber, rule.serialNumber)] ++
    rule.devicePorts.values.head?.toList.map fun port => (.port, port)

def ofRule (rule : Rule) (limits : Limits) : Except DeviceError Record :=
  let start := { empty limits with id := rule.id, target := rule.target }
  match start.setAll (textsOfRule rule) with
  | (.error e, _) => .error e
  | (.ok (), record) =>
    .ok { record with
      interfaceTypes := rule.interfaceTypes.values
      configurationCount := rule.configurationCount }

end Record

end UsbIdentity
