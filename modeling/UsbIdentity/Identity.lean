import UsbIdentity.DeviceError
import UsbIdentity.Digest.Sha256
import UsbIdentity.Text.Quoted

namespace UsbIdentity.Identity

def message (name vendorId productId serialNumber : String) : List UInt8 :=
  [name, vendorId, productId, serialNumber].flatMap Text.Quoted.utf8

def hash (name vendorId productId serialNumber : String) : Except DeviceError String :=
  if vendorId = "" ∨ productId = "" then .error .identityIncomplete
  else .ok (String.ofList (Sha256.hexDigest (message name vendorId productId serialNumber)))

theorem hash_eq_ok_iff {name vendorId productId serialNumber text : String} :
    hash name vendorId productId serialNumber = .ok text ↔
      (vendorId ≠ "" ∧ productId ≠ "") ∧
        text = String.ofList (Sha256.hexDigest (message name vendorId productId serialNumber)) := by
  unfold hash
  split
  · next missing => simp [not_and_of_not_or_not, missing]
  · next ids => simp [not_or.1 ids, eq_comm]

theorem exists_hash_iff {name vendorId productId serialNumber : String} :
    (∃ text, hash name vendorId productId serialNumber = .ok text) ↔
      vendorId ≠ "" ∧ productId ≠ "" := by
  simp [hash_eq_ok_iff]

end UsbIdentity.Identity
