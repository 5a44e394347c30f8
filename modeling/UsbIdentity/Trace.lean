import UsbIdentity.Session

namespace UsbIdentity

structure Trace where
  device : Attributes := {}
  descriptors : List Descriptor := []
  deriving DecidableEq, Repr

def Trace.replay (trace : Trace) (limits : Limits) (includePort : Bool) :
    Except SessionError Rule :=
  match Session.start trace.device limits with
  | .error e => .error (.device e)
  | .ok session =>
    match session.ingestAll trace.descriptors with
    | (.error e, _) => .error e
    | (.ok _, session) => session.rule includePort

end UsbIdentity
