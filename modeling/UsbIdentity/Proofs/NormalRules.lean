import UsbIdentity.Identity
import UsbIdentity.Proofs.PolicyReplay

namespace UsbIdentity

namespace Rule

def port (rule : Rule) : String :=
  rule.devicePorts.values.head?.getD ""

/-- The rule for exactly the device and the port that a rule describes, with a given hash. -/
def normal (rule : Rule) (hash : String) : Rule :=
  { rule with
    deviceHash := hash
    devicePorts := .equals [rule.port]
    interfaceTypes := .equals rule.interfaceTypes.values }

def described (rule : Rule) (limits : Limits) : Record where
  id := rule.id
  target := rule.target
  name := rule.deviceName
  vendorId := rule.vendorId
  productId := rule.productId
  serialNumber := rule.serialNumber
  port := rule.port
  interfaceTypes := rule.interfaceTypes.values
  configurationCount := rule.configurationCount
  limits := limits
  failed := false

theorem described_normal (rule : Rule) (hash : String) (limits : Limits) :
    (rule.normal hash).described limits = rule.described limits := rfl

theorem ports_eq_iff (rule : Rule) :
    rule.devicePorts = .equals [rule.port] ↔
      rule.devicePorts.operator = .equals ∧ rule.devicePorts.values.length = 1 := by
  unfold port
  obtain ⟨operator, values⟩ := rule.devicePorts
  constructor
  · intro same
    obtain ⟨rfl, single⟩ := RuleSet.mk.inj same
    exact ⟨rfl, by rw [single]; rfl⟩
  · rintro ⟨rfl, single⟩
    obtain ⟨only, rfl⟩ := List.length_eq_one_iff.1 single
    rfl

theorem types_eq_iff (rule : Rule) :
    rule.interfaceTypes = .equals rule.interfaceTypes.values ↔
      rule.interfaceTypes.operator = .equals := by
  obtain ⟨operator, values⟩ := rule.interfaceTypes
  constructor
  · intro same
    exact (RuleSet.mk.inj same).1
  · rintro rfl
    rfl

theorem normal_eq_self_iff (rule : Rule) (hash : String) :
    rule.normal hash = rule ↔
      rule.deviceHash = hash ∧ rule.devicePorts.operator = .equals ∧
        rule.devicePorts.values.length = 1 ∧ rule.interfaceTypes.operator = .equals := by
  have parts : rule.normal hash = rule ↔
      rule.deviceHash = hash ∧ rule.devicePorts = .equals [rule.port] ∧
        rule.interfaceTypes = .equals rule.interfaceTypes.values := by
    constructor
    · intro same
      exact ⟨(congrArg deviceHash same).symm, (congrArg devicePorts same).symm,
        (congrArg interfaceTypes same).symm⟩
    · rintro ⟨known, ports, types⟩
      rw [normal, ← known, ← ports, ← types]
  rw [parts, ports_eq_iff, types_eq_iff, and_assoc]

end Rule

namespace Record

variable {rule : Rule} {limits : Limits} {record : Record} {hash : String}

theorem ofRule_eq_described (rule : Rule) (limits : Limits) :
    ofRule rule limits =
      match Session.checkAll limits (textsOfRule rule) with
      | .error e => .error e
      | .ok () => .ok (rule.described limits) := by
  rw [ofRule_eq]
  cases Session.checkAll limits (textsOfRule rule) with
  | error e => rfl
  | ok =>
    unfold Rule.described Rule.port textsOfRule
    cases rule.devicePorts.values <;> rfl

theorem ofRule_eq_ok_iff :
    ofRule rule limits = .ok record ↔
      limits.Admit (textsOfRule rule) ∧ record = rule.described limits := by
  rw [ofRule_eq_described, ← Limits.checkAll_eq_ok_iff]
  cases Session.checkAll limits (textsOfRule rule) with
  | error e => simp
  | ok => simp [eq_comm]

theorem ofRule_eq_error_iff {e : DeviceError} :
    ofRule rule limits = .error e ↔ limits.Rejects (textsOfRule rule) e := by
  rw [ofRule_eq_described]
  constructor
  · intro refused
    cases verdict : Session.checkAll limits (textsOfRule rule) with
    | error cause =>
      rw [verdict] at refused
      cases refused
      exact Limits.rejects_of_checkAll verdict
    | ok =>
      rw [verdict] at refused
      cases refused
  · intro rejected
    rw [Limits.checkAll_of_rejects rejected]

theorem admit_textsOfRule_iff :
    limits.Admit (textsOfRule rule) ↔
      rule.deviceName.utf8ByteSize ≤ limits.genericString.toNat ∧
        rule.vendorId.utf8ByteSize ≤ limits.vendorId.toNat ∧
        rule.productId.utf8ByteSize ≤ limits.productId.toNat ∧
        rule.serialNumber.utf8ByteSize ≤ limits.genericString.toNat ∧
        ∀ port ∈ rule.devicePorts.values.head?, port.utf8ByteSize ≤ limits.port.toNat := by
  unfold Limits.Admit textsOfRule
  cases rule.devicePorts.values <;> simp [Limits.maxFor]

theorem admit_textsOfRule_normal (fit : limits.Admit (textsOfRule rule)) (hash : String) :
    limits.Admit (textsOfRule (rule.normal hash)) := by
  obtain ⟨name, vendorId, productId, serialNumber, port⟩ := admit_textsOfRule_iff.1 fit
  refine admit_textsOfRule_iff.2 ⟨name, vendorId, productId, serialNumber, ?_⟩
  intro only first
  cases first
  unfold Rule.port
  cases ports : rule.devicePorts.values with
  | nil => exact Nat.zero_le _
  | cons first others => exact port first (by rw [ports]; rfl)

theorem toRule_described
    (known : Identity.hash rule.deviceName rule.vendorId rule.productId rule.serialNumber =
      .ok hash) :
    (rule.described limits).toRule true = .ok (rule.normal hash) :=
  toRule_eq_ok_iff.2 ⟨rfl, hash, known, rfl⟩

/-- A rule is replayed exactly if its texts fit their bounds, and otherwise the first that does not
is reported. The rule of the replayed record is the normal form of the given one, with the hash of
its own texts. Replaying that gives the same record and the same rule, and it is the given rule
exactly if that had the right hash, one port under `equals` and its types under `equals`. -/
theorem replay_normalizes (rule : Rule) (limits : Limits) :
    let port? := rule.devicePorts.values.head?
    let texts : List (Field × String) :=
      [(.name, rule.deviceName), (.vendorId, rule.vendorId), (.productId, rule.productId),
        (.serialNumber, rule.serialNumber)] ++ port?.toList.map fun port => (.port, port)
    ((∃ record, ofRule rule limits = .ok record) ↔
      rule.deviceName.utf8ByteSize ≤ limits.genericString.toNat ∧
        rule.vendorId.utf8ByteSize ≤ limits.vendorId.toNat ∧
        rule.productId.utf8ByteSize ≤ limits.productId.toNat ∧
        rule.serialNumber.utf8ByteSize ≤ limits.genericString.toNat ∧
        ∀ port ∈ port?, port.utf8ByteSize ≤ limits.port.toNat) ∧
    (∀ e, ofRule rule limits = .error e ↔
      ∃ before field value after, texts = before ++ (field, value) :: after ∧
        (∀ text ∈ before, text.2.utf8ByteSize ≤ (limits.maxFor text.1).toNat) ∧
        (limits.maxFor field).toNat < value.utf8ByteSize ∧
        e = .tooLong field (limits.maxFor field) value.utf8ByteSize) ∧
    ∀ record, ofRule rule limits = .ok record → rule.vendorId ≠ "" → rule.productId ≠ "" →
      ∃ hash,
        Identity.hash rule.deviceName rule.vendorId rule.productId rule.serialNumber = .ok hash ∧
        record.toRule true = .ok (rule.normal hash) ∧
        ofRule (rule.normal hash) limits = .ok record ∧
        (ofRule (rule.normal hash) limits >>= fun again => again.toRule true) =
          .ok (rule.normal hash) ∧
        (rule.normal hash = rule ↔
          rule.deviceHash = hash ∧ rule.devicePorts.operator = .equals ∧
            rule.devicePorts.values.length = 1 ∧ rule.interfaceTypes.operator = .equals) := by
  intro port? texts
  refine ⟨?_, fun e => ofRule_eq_error_iff, ?_⟩
  · rw [← admit_textsOfRule_iff]
    constructor
    · rintro ⟨record, made⟩
      exact (ofRule_eq_ok_iff.1 made).1
    · intro fit
      exact ⟨_, ofRule_eq_ok_iff.2 ⟨fit, rfl⟩⟩
  · intro record made vendorId productId
    obtain ⟨fit, rfl⟩ := ofRule_eq_ok_iff.1 made
    obtain ⟨hash, known⟩ := Identity.exists_hash_iff.2 ⟨vendorId, productId⟩
    have given : (rule.described limits).toRule true = .ok (rule.normal hash) :=
      toRule_described known
    have again : ofRule (rule.normal hash) limits = .ok (rule.described limits) :=
      ofRule_eq_ok_iff.2
        ⟨admit_textsOfRule_normal fit hash, (rule.described_normal hash limits).symm⟩
    refine ⟨hash, known, given, again, ?_, rule.normal_eq_self_iff hash⟩
    rw [again]
    exact given

theorem forged_stick_is_normalized :
    let rule : Rule :=
      { id := 7
        target := .block
        vendorId := "0781"
        productId := "5567"
        deviceName := "Флешка"
        deviceHash := "forged"
        devicePorts := ⟨.oneOf, ["1-2", "1-3"]⟩
        interfaceTypes := ⟨.allOf, [InterfaceType.exact 8 6 0x50]⟩ }
    ofRule rule { vendorId := 2, port := 1 } = .error (.tooLong .vendorId 2 4) ∧
    ∃ record hash, ofRule rule {} = .ok record ∧ record.toRule true = .ok (rule.normal hash) ∧
      ofRule (rule.normal hash) {} = .ok record ∧ rule.normal hash ≠ rule := by
  intro rule
  have refused := (replay_normalizes rule { vendorId := 2, port := 1 }).2.1
  obtain ⟨possible, _, normalizes⟩ := replay_normalizes rule {}
  obtain ⟨record, made⟩ := possible.2 (by decide)
  obtain ⟨hash, _, given, again, _, fixed⟩ := normalizes record made (by decide) (by decide)
  refine ⟨?_, record, hash, made, given, again, ?_⟩
  · exact (refused _).2 ⟨[(.name, "Флешка")], .vendorId, "0781", _, rfl, by decide, by decide, rfl⟩
  · intro same
    cases (fixed.1 same).2.1

end Record

end UsbIdentity
