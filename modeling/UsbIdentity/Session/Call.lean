import UsbIdentity.Session

namespace UsbIdentity

inductive RecordCall where
  | setId (id : UInt32)
  | setTarget (target : Target)
  | set (field : Field) (value : String)
  | markFailed
  | hash
  | rule (includePort : Bool)

inductive Reply where
  | done
  | count (accepted : Nat)
  | hash (text : String)
  | rule (rule : Rule)
  | snapshot (record : Record)
  deriving DecidableEq, Repr

def Record.call (record : Record) : RecordCall → Except DeviceError Reply × Record
  | .setId id => (.ok .done, { record with id })
  | .setTarget target => (.ok .done, { record with target })
  | .set field value =>
    match record.set field value with
    | (.error e, record) => (.error e, record)
    | (.ok (), record) => (.ok .done, record)
  | .markFailed => (.ok .done, record.markFailed)
  | .hash => (record.hash.map .hash, record)
  | .rule includePort => ((record.toRule includePort).map .rule, record)

inductive HandleCall where
  | locked (call : RecordCall)
  | snapshot
  | hash
  | rule (includePort : Bool)
  | ingest {σ : Type} [Oracle σ] (oracle : σ) (descriptor : Descriptor)
  | load {σ : Type} [Oracle σ] (oracle : σ) (descriptor : Descriptor)
  | die (left : Record)

def Handle.call (handle : Handle) : HandleCall → Except DeviceError Reply × Handle
  | .locked call => handle.update (·.call call)
  | .snapshot => (handle.snapshot.map .snapshot, handle)
  | .hash => (handle.hash.map .hash, handle)
  | .rule includePort => ((handle.rule includePort).map .rule, handle)
  | @HandleCall.ingest _ _ oracle descriptor =>
    match handle.ingest oracle descriptor with
    | (.error e, handle, _) => (.error e, handle)
    | (.ok (), handle, _) => (.ok .done, handle)
  | @HandleCall.load _ _ oracle descriptor =>
    handle.update fun record =>
      match record.load oracle descriptor with
      | (.error e, record, _) => (.error e, record)
      | (.ok (), record, _) => (.ok .done, record)
  | .die left =>
    match handle.die fun _ => left with
    | (.error e, handle) => (.error e, handle)
    | (.ok (), handle) => (.ok .done, handle)

inductive SessionCall where
  | ingest (descriptor : Descriptor)
  | ingestAll (descriptors : List Descriptor)
  | rule (includePort : Bool)
  | device (call : HandleCall)

namespace Session

def call (session : Session) : SessionCall → Except SessionError Reply × Session
  | .ingest descriptor =>
    match session.ingest descriptor with
    | (.error e, session) => (.error e, session)
    | (.ok (), session) => (.ok .done, session)
  | .ingestAll descriptors =>
    match session.ingestAll descriptors with
    | (.error e, session) => (.error e, session)
    | (.ok count, session) => (.ok (.count count), session)
  | .rule includePort => ((session.rule includePort).map .rule, session)
  | .device call =>
    match session.device.call call with
    | (.error e, device) => (.error (.device e), { session with device })
    | (.ok reply, device) => (.ok reply, { session with device })

def run (session : Session) : List SessionCall → List (Except SessionError Reply) × Session
  | [] => ([], session)
  | call :: calls =>
    let (reply, next) := session.call call
    let (replies, last) := next.run calls
    (reply :: replies, last)

end Session

end UsbIdentity
