import UsbIdentity.Record

/-!
# Loading descriptors into a record

A descriptor is accepted only below its parent level. Which levels are present is not the record's
own memory: it asks an oracle, and it tells the oracle to forget the interface and endpoint levels
when a configuration starts the hierarchy anew.
-/

namespace UsbIdentity

class Oracle (σ : Type) where
  has : σ → Kind → Bool
  forget : σ → Kind → σ

inductive IngestState where
  | noDevice
  | hasDevice
  | hasConfiguration
  | hasInterface
  | hasEndpoint
  deriving DecidableEq, Repr

namespace IngestState

def name : IngestState → String
  | .noDevice => "NoDevice"
  | .hasDevice => "HasDevice"
  | .hasConfiguration => "HasConfiguration"
  | .hasInterface => "HasInterface"
  | .hasEndpoint => "HasEndpoint"

def observe {σ : Type} [Oracle σ] (oracle : σ) : IngestState :=
  if !Oracle.has oracle .device then .noDevice
  else if !Oracle.has oracle .configuration then .hasDevice
  else if !Oracle.has oracle .interface then .hasConfiguration
  else if !Oracle.has oracle .endpoint then .hasInterface
  else .hasEndpoint

end IngestState

def requireParent {σ : Type} [Oracle σ] (oracle : σ) (child : Kind) : Except DeviceError Unit :=
  match child.parent? with
  | some parent =>
    if Oracle.has oracle parent then .ok () else .error (.missingParent child parent)
  | none => .ok ()

namespace Record

/-- Loads one descriptor. A device starts a new cycle, a configuration restarts the levels below it,
an interface adds its type, and an endpoint is only checked for its place. -/
def load {σ : Type} [Oracle σ] (record : Record) (oracle : σ) (descriptor : Descriptor) :
    Except DeviceError Unit × Record × σ :=
  match descriptor with
  | .device device =>
    if Oracle.has oracle .device then (.error (.duplicateDescriptor .device), record, oracle)
    else
      (.ok (),
        { record with
          configurationCount := Int32.ofNat device.configurationCount.toNat
          interfaceTypes := [] },
        oracle)
  | .configuration _ =>
    match requireParent oracle .configuration with
    | .error e => (.error e, record, oracle)
    | .ok () => (.ok (), record, Oracle.forget (Oracle.forget oracle .interface) .endpoint)
  | .interface interface =>
    match requireParent oracle .interface with
    | .error e => (.error e, record, oracle)
    | .ok () =>
      (.ok (),
        { record with
          interfaceTypes := record.interfaceTypes ++ [InterfaceType.ofDescriptor interface] },
        oracle)
  | .endpoint _ =>
    match requireParent oracle .endpoint with
    | .error e => (.error e, record, oracle)
    | .ok () => (.ok (), record, oracle)

end Record

end UsbIdentity
