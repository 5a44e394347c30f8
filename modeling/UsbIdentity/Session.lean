import UsbIdentity.DescriptorLog
import UsbIdentity.Handle
import UsbIdentity.Text.Hex

/-!
# Enumeration sessions

A session enumerates one attached device: it owns the log of accepted descriptors and shares the
handle of the record. The first refused descriptor ends the session: it accepts no further
descriptor and gives no rule.
-/

namespace UsbIdentity

inductive SessionError where
  | device (error : DeviceError)
  | abandoned
  | incomplete
  deriving DecidableEq, Repr

def SessionError.message : SessionError → String
  | .device error => error.message
  | .abandoned => "Enumeration abandoned after an earlier error"
  | .incomplete => "No device descriptor ingested yet"

inductive SessionState where
  | enumerating
  | failed
  deriving DecidableEq, Repr

namespace SessionState

def all : List SessionState :=
  [.enumerating, .failed]

def name : SessionState → String
  | .enumerating => "enumerating"
  | .failed => "failed"

end SessionState

structure Attributes where
  name : String := ""
  serialNumber : String := ""
  port : String := ""
  deriving DecidableEq, Repr

structure Session where
  device : Handle
  log : DescriptorLog
  state : SessionState
  deriving DecidableEq, Repr

namespace Session

def start (attributes : Attributes) (limits : Limits) : Except DeviceError Session :=
  match (Record.empty limits).setAll
      [(.name, attributes.name), (.serialNumber, attributes.serialNumber),
        (.port, attributes.port)] with
  | (.error e, _) => .error e
  | (.ok (), record) => .ok { device := { record }, log := .empty, state := .enumerating }

def idsOf : Descriptor → List (Field × String)
  | .device device =>
    [(.vendorId, String.ofList (Hex.word device.vendorId)),
      (.productId, String.ofList (Hex.word device.productId))]
  | _ => []

def checkAll (limits : Limits) : List (Field × String) → Except DeviceError Unit
  | [] => .ok ()
  | (field, value) :: rest =>
    match limits.check field value with
    | .error e => .error e
    | .ok () => checkAll limits rest

/-- One descriptor in a record and a log: the ids are checked, the descriptor is loaded, the ids are
stored, and the descriptor is logged. -/
def load (record : Record) (log : DescriptorLog) (descriptor : Descriptor) :
    Except DeviceError Unit × Record × DescriptorLog :=
  match checkAll record.limits (idsOf descriptor) with
  | .error e => (.error e, record, log)
  | .ok () =>
    match record.load log descriptor with
    | (.error e, record, log) => (.error e, record, log)
    | (.ok (), record, log) =>
      match record.setAll (idsOf descriptor) with
      | (.error e, record) => (.error e, record, log)
      | (.ok (), record) => (.ok (), record, log.record descriptor)

/-- One descriptor under the lock; a refused one gives the record up before the lock is released. -/
def apply (device : Handle) (log : DescriptorLog) (descriptor : Descriptor) :
    Except DeviceError Unit × Handle × DescriptorLog :=
  match device.lock with
  | .error e => (.error e, device, log)
  | .ok record =>
    match load record log descriptor with
    | (.error e, record, log) => (.error e, device.withRecord record.markFailed, log)
    | (.ok (), record, log) => (.ok (), device.withRecord record, log)

def ingest (session : Session) (descriptor : Descriptor) : Except SessionError Unit × Session :=
  match session.state with
  | .failed => (.error .abandoned, session)
  | .enumerating =>
    match apply session.device session.log descriptor with
    | (.error e, device, log) => (.error (.device e), { device, log, state := .failed })
    | (.ok (), device, log) => (.ok (), { session with device, log })

def ingestAll (session : Session) : List Descriptor → Except SessionError Nat × Session
  | [] => (.ok 0, session)
  | descriptor :: rest =>
    match session.ingest descriptor with
    | (.error e, session) => (.error e, session)
    | (.ok (), session) =>
      match session.ingestAll rest with
      | (.error e, session) => (.error e, session)
      | (.ok count, session) => (.ok (count + 1), session)

def rule (session : Session) (includePort : Bool) : Except SessionError Rule :=
  match session.state with
  | .failed => .error .abandoned
  | .enumerating =>
    if session.log.has .device then
      match session.device.rule includePort with
      | .error e => .error (.device e)
      | .ok rule => .ok rule
    else .error .incomplete

end Session

end UsbIdentity
