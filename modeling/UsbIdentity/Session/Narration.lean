import UsbIdentity.Record.Narration
import UsbIdentity.Session

namespace UsbIdentity

def DescriptorLog.forgetEvents (log : DescriptorLog) (kind : Kind) : List LogEvent :=
  match log.list? kind with
  | some removed =>
    [{ level := .debug
       source := "bastion_enumerate::parser"
       message := "Discarded descriptor state"
       values := [("kind", kind.name), ("count", toString removed.length)] }]
  | none => []

namespace Session

def source : String :=
  "bastion_enumerate::session"

def started (attributes : Attributes) : LogEvent where
  level := .debug
  source := source
  message := "Started device session"
  values := [("port", attributes.port), ("name", attributes.name)]

def rejected (descriptor : Descriptor) (error : DeviceError) : LogEvent where
  level := .warn
  source := source
  message := "Rejected descriptor, abandoning enumeration"
  values := [("kind", descriptor.kind.name), ("error", error.message)]

def completed (count : Nat) : LogEvent where
  level := .info
  source := source
  message := "Device enumeration complete"
  values := [("descriptors", toString count)]

def acceptedEvents (log : DescriptorLog) (descriptor : Descriptor) : List LogEvent :=
  match descriptor with
  | .configuration _ =>
    log.forgetEvents .interface ++ log.forgetEvents .endpoint ++ [descriptor.loaded]
  | _ => [descriptor.loaded]

def ingestEvents (session : Session) (descriptor : Descriptor) : List LogEvent :=
  match (session.ingest descriptor).1 with
  | .ok () => acceptedEvents session.log descriptor
  | .error (.device e) => [rejected descriptor e]
  | .error _ => []

def ingestAllEvents (session : Session) (count : Nat) : List Descriptor → List LogEvent
  | [] => [completed count]
  | descriptor :: rest =>
    let events := session.ingestEvents descriptor
    match session.ingest descriptor with
    | (.error _, _) => events
    | (.ok (), session) => events ++ session.ingestAllEvents (count + 1) rest

def ruleEvents (session : Session) (includePort : Bool) : List LogEvent :=
  match session.state, session.device.lock with
  | .enumerating, .ok record =>
    if session.log.has .device then record.ruleEvents includePort else []
  | _, _ => []

end Session

end UsbIdentity
