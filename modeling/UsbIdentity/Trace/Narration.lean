import UsbIdentity.Session.Narration
import UsbIdentity.Trace

namespace UsbIdentity.Trace

def replayed (count : Nat) (rule : Rule) : LogEvent where
  level := .info
  source := "bastion::trace"
  message := "Replayed descriptor trace"
  values :=
    [("descriptors", toString count), ("vendor_id", rule.vendorId), ("product_id", rule.productId)]

def ruleEvents (session : Session) (count : Nat) (includePort : Bool) : List LogEvent :=
  session.ruleEvents includePort ++
    match session.rule includePort with
    | .ok rule => [replayed count rule]
    | .error _ => []

def replayEvents (trace : Trace) (limits : Limits) (includePort : Bool) : List LogEvent :=
  match Session.start trace.device limits with
  | .error _ => []
  | .ok session =>
    Session.started trace.device :: session.ingestAllEvents 0 trace.descriptors ++
      match session.ingestAll trace.descriptors with
      | (.ok count, session) => ruleEvents session count includePort
      | (.error _, _) => []

end UsbIdentity.Trace
