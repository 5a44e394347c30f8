import UsbIdentity.Record.KindMemory

/-!
# The shared handle of a device

A record behind a lock. Every operation takes the lock once and holds it to its end. A holder that
dies leaves the lock poisoned: the record may then hold half an event, so it is never read again.
-/

namespace UsbIdentity

structure Handle where
  record : Record
  poisoned : Bool := false
  deriving DecidableEq, Repr

namespace Handle

def lock (handle : Handle) : Except DeviceError Record :=
  if handle.poisoned then .error .poisoned else .ok handle.record

def withRecord (handle : Handle) (record : Record) : Handle :=
  { handle with record }

@[simp]
theorem record_withRecord (handle : Handle) (record : Record) :
    (handle.withRecord record).record = record := rfl

@[simp]
theorem poisoned_withRecord (handle : Handle) (record : Record) :
    (handle.withRecord record).poisoned = handle.poisoned := rfl

def snapshot (handle : Handle) : Except DeviceError Record :=
  handle.lock

def hash (handle : Handle) : Except DeviceError String := do
  (← handle.lock).hash

def rule (handle : Handle) (includePort : Bool) : Except DeviceError Rule := do
  (← handle.lock).toRule includePort

def update {α : Type} (handle : Handle) (change : Record → Except DeviceError α × Record) :
    Except DeviceError α × Handle :=
  match handle.lock with
  | .error e => (.error e, handle)
  | .ok record =>
    let (result, record) := change record
    (result, handle.withRecord record)

/-- Loads one descriptor under the lock. A refused descriptor gives the device up, after which
every further one is refused. -/
def ingest {σ : Type} [Oracle σ] (handle : Handle) (oracle : σ) (descriptor : Descriptor) :
    Except DeviceError Unit × Handle × σ :=
  match handle.lock with
  | .error e => (.error e, handle, oracle)
  | .ok record =>
    if record.failed then (.error .enumerationFailed, handle, oracle)
    else
      match record.load oracle descriptor with
      | (.error e, record, oracle) => (.error e, handle.withRecord record.markFailed, oracle)
      | (.ok (), record, oracle) => (.ok (), handle.withRecord record, oracle)

/-- A holder takes the lock, leaves some record behind and dies. A poisoned lock cannot be taken. -/
def die (handle : Handle) (left : Record → Record) : Except DeviceError Unit × Handle :=
  match handle.lock with
  | .error e => (.error e, handle)
  | .ok record => (.ok (), { record := left record, poisoned := true })

end Handle

end UsbIdentity
