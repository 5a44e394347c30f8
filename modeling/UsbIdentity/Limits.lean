import UsbIdentity.DeviceError

namespace UsbIdentity

structure Limits where
  /-- Bound for the name and the serial number. -/
  genericString : UInt64 := 126
  vendorId : UInt64 := 4
  productId : UInt64 := 4
  port : UInt64 := 4096
  deriving DecidableEq, Repr

namespace Limits

def maxFor (limits : Limits) : Field → UInt64
  | .name => limits.genericString
  | .vendorId => limits.vendorId
  | .productId => limits.productId
  | .serialNumber => limits.genericString
  | .port => limits.port

def check (limits : Limits) (field : Field) (value : String) : Except DeviceError Unit :=
  let max := limits.maxFor field
  if max.toNat < value.utf8ByteSize then .error (.tooLong field max value.utf8ByteSize)
  else .ok ()

theorem check_eq_ok_iff (limits : Limits) (field : Field) (value : String) :
    limits.check field value = .ok () ↔ value.utf8ByteSize ≤ (limits.maxFor field).toNat := by
  simp only [check]
  split <;> simp <;> omega

end Limits

end UsbIdentity
