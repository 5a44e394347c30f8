import UsbIdentity.Proofs.Delimiting
import UsbIdentity.Proofs.Replay

/-!
# The identity hash separates devices

The four texts of an identity are hashed without anything between them, so bytes can move from one
to the next. The ids of a replay are four digits each, though, so where the names are equally long
the hash tells every two identities apart, as far as SHA-256 tells their bytes apart.
-/

namespace UsbIdentity

namespace Hex

theorem bytes_injective : Function.Injective bytes := by
  intro bs cs same
  induction bs generalizing cs with
  | nil =>
    cases cs with
    | nil => rfl
    | cons c cs => cases same
  | cons b bs ih =>
    cases cs with
    | nil => cases same
    | cons c cs =>
      rw [bytes, bytes, List.flatMap_cons, List.flatMap_cons] at same
      obtain ⟨first, rest⟩ := List.append_inj same rfl
      rw [byte_injective first, ih rest]

end Hex

theorem Sha256.hexDigest_inj {message other : List UInt8} :
    hexDigest message = hexDigest other ↔ digest message = digest other :=
  Hex.bytes_injective.eq_iff

namespace Identity

theorem message_eq (name vendorId productId serialNumber : String) :
    message name vendorId productId serialNumber =
      Text.Quoted.utf8 name ++ (Text.Quoted.utf8 vendorId ++
        (Text.Quoted.utf8 productId ++ Text.Quoted.utf8 serialNumber)) := by
  simp [message]

theorem message_inj {n v p s m w q t : String} (names : n.utf8ByteSize = m.utf8ByteSize)
    (vendors : v.utf8ByteSize = w.utf8ByteSize) (products : p.utf8ByteSize = q.utf8ByteSize) :
    message n v p s = message m w q t ↔ n = m ∧ v = w ∧ p = q ∧ s = t := by
  constructor
  · intro same
    rw [message_eq, message_eq] at same
    obtain ⟨name, same⟩ := List.append_inj same names
    obtain ⟨vendorId, same⟩ := List.append_inj same vendors
    obtain ⟨productId, serialNumber⟩ := List.append_inj same products
    have injective := Text.Quoted.utf8_injective
    exact ⟨injective name, injective vendorId, injective productId, injective serialNumber⟩
  · rintro ⟨rfl, rfl, rfl, rfl⟩
    rfl

theorem hash_digits {name vendorId productId serialNumber text : String}
    (known : hash name vendorId productId serialNumber = .ok text) :
    text.length = 64 ∧ ∀ c ∈ text.toList, Hex.Lowercase c := by
  obtain ⟨_, rfl⟩ := hash_eq_ok_iff.1 known
  have written := Hex.writes_bytes (Sha256.digest (message name vendorId productId serialNumber))
  rw [Sha256.length_digest] at written
  exact ⟨written.length, written.lowercase⟩

end Identity

def Rule.identity (rule : Rule) : List UInt8 :=
  Text.Quoted.utf8 rule.deviceName ++ Text.Quoted.utf8 rule.vendorId ++
    Text.Quoted.utf8 rule.productId ++ Text.Quoted.utf8 rule.serialNumber

namespace Trace

variable {trace other : Trace} {device double : DeviceDescriptor} {includePort withPort : Bool}

theorem deviceHash_ruleOf (trace : Trace) (device : DeviceDescriptor) (includePort : Bool) :
    (trace.ruleOf device includePort).deviceHash =
      String.ofList (Sha256.hexDigest (trace.ruleOf device includePort).identity) := by
  rw [Rule.identity, List.append_assoc, List.append_assoc, ← Identity.message_eq]
  rfl

theorem identity_ruleOf_inj
    (names : trace.device.name.utf8ByteSize = other.device.name.utf8ByteSize) :
    (trace.ruleOf device includePort).identity = (other.ruleOf double withPort).identity ↔
      trace.device.name = other.device.name ∧ device.vendorId = double.vendorId ∧
        device.productId = double.productId ∧
        trace.device.serialNumber = other.device.serialNumber := by
  have width (v w : UInt16) : (String.ofList (Hex.word v)).utf8ByteSize =
      (String.ofList (Hex.word w)).utf8ByteSize := by
    rw [Hex.utf8ByteSize_word, Hex.utf8ByteSize_word]
  have id_inj (v w : UInt16) : String.ofList (Hex.word v) = String.ofList (Hex.word w) ↔ v = w := by
    rw [String.ofList_inj, Hex.word_injective.eq_iff]
  have texts := Identity.message_inj (s := trace.device.serialNumber)
    (t := other.device.serialNumber) names (width device.vendorId double.vendorId)
    (width device.productId double.productId)
  rw [id_inj, id_inj, Identity.message_eq, Identity.message_eq] at texts
  simpa only [Rule.identity, ruleOf, List.append_assoc] using texts

end Trace

/-- Two rules of replays have the same hash exactly if the bytes of their four texts, one after the
other, are the same, unless these bytes are a collision of SHA-256. Where the names take the same
number of bytes, that is exactly if name, both ids and serial number are the same. Every hash there
is has 64 lowercase digits. -/
theorem identity_hash_separates {trace other : Trace} {limits bounds : Limits}
    {includePort withPort : Bool} {rule twin : Rule}
    (replayed : trace.replay limits includePort = .ok rule)
    (again : other.replay bounds withPort = .ok twin)
    (collisionFree : Sha256.digest rule.identity = Sha256.digest twin.identity →
      rule.identity = twin.identity) :
    (rule.deviceHash = twin.deviceHash ↔ rule.identity = twin.identity) ∧
    (∃ device rest double more, trace.descriptors = .device device :: rest ∧
      other.descriptors = .device double :: more ∧
      (trace.device.name.utf8ByteSize = other.device.name.utf8ByteSize →
        (rule.deviceHash = twin.deviceHash ↔
          trace.device.name = other.device.name ∧ device.vendorId = double.vendorId ∧
            device.productId = double.productId ∧
            trace.device.serialNumber = other.device.serialNumber))) ∧
    (∀ name vendorId productId serialNumber hash,
      Identity.hash name vendorId productId serialNumber = .ok hash →
      hash.length = 64 ∧ ∀ c ∈ hash.toList, Hex.Lowercase c) := by
  obtain ⟨device, rest, first, _, rfl⟩ := Trace.exists_device_of_replay replayed
  obtain ⟨double, more, second, _, rfl⟩ := Trace.exists_device_of_replay again
  have bytes : (trace.ruleOf device includePort).deviceHash =
      (other.ruleOf double withPort).deviceHash ↔
      (trace.ruleOf device includePort).identity = (other.ruleOf double withPort).identity := by
    rw [Trace.deviceHash_ruleOf, Trace.deviceHash_ruleOf, String.ofList_inj, Sha256.hexDigest_inj]
    exact ⟨collisionFree, congrArg Sha256.digest⟩
  refine ⟨bytes, ⟨device, rest, double, more, first, second, fun names => ?_⟩, ?_⟩
  · rw [bytes, Trace.identity_ruleOf_inj names]
  · intro name vendorId productId serialNumber hash known
    exact Identity.hash_digits known

theorem identity_hash_separates_keyboard :
    let device (vendorId productId : UInt16) : Descriptor :=
      .device { vendorId, productId, configurationCount := 1 }
    let mouse : Trace := ⟨{ name := "Мышь", port := "1-2" }, [device 0x046d 0xc077]⟩
    let keyboard : Trace := ⟨{ name := "Keyboard", port := "1-2" }, [device 0x046d 0xc077]⟩
    let short : Trace := ⟨{ name := "a", serialNumber := "9" }, [device 0x1234 0x5678]⟩
    let long : Trace := ⟨{ name := "a1" }, [device 0x2345 0x6789]⟩
    (∃ rule twin, mouse.replay {} true = .ok rule ∧ keyboard.replay {} true = .ok twin ∧
      rule.deviceHash ≠ twin.deviceHash) ∧
    (∃ rule twin, short.replay {} true = .ok rule ∧ long.replay {} true = .ok twin ∧
      rule.deviceHash = twin.deviceHash) := by
  intro device mouse keyboard short long
  have ofMouse : mouse.replay {} true = .ok _ := rfl
  have ofKeyboard : keyboard.replay {} true = .ok _ := rfl
  have ofShort : short.replay {} true = .ok _ := rfl
  have ofLong : long.replay {} true = .ok _ := rfl
  constructor
  · refine ⟨_, _, ofMouse, ofKeyboard, fun same => ?_⟩
    obtain ⟨_, ⟨_, _, _, _, _, _, separated⟩, _⟩ := identity_hash_separates ofMouse ofKeyboard
      fun digests => absurd digests (by decide +kernel)
    exact absurd ((separated rfl).1 same).1 (by decide)
  · refine ⟨_, _, ofShort, ofLong, ?_⟩
    exact (identity_hash_separates ofShort ofLong fun _ => by decide).1.2 (by decide)

end UsbIdentity
