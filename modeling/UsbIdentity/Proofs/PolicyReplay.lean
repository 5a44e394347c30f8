import UsbIdentity.Proofs.Runs

namespace UsbIdentity

namespace Record

def Bounded (record : Record) : Prop :=
  ∀ field, (record.get field).utf8ByteSize ≤ (record.limits.maxFor field).toNat

variable {record other : Record}

theorem Bounded.congr (bounded : record.Bounded) (limits : other.limits = record.limits)
    (texts : ∀ field, other.get field = record.get field) : other.Bounded := by
  intro field
  rw [texts, limits]
  exact bounded field

theorem bounded_empty (limits : Limits) : (empty limits).Bounded := by
  intro field
  cases field <;> exact Nat.zero_le _

theorem Bounded.put (bounded : record.Bounded) {field : Field} {value : String}
    (fits : value.utf8ByteSize ≤ (record.limits.maxFor field).toNat) :
    (record.put field value).Bounded := by
  intro other
  rw [get_put, limits_put]
  by_cases same : other = field
  · rw [if_pos same, same]
    exact fits
  · rw [if_neg same]
    exact bounded other

theorem Bounded.putAll (bounded : record.Bounded) {texts : List (Field × String)}
    (fit : record.limits.Admit texts) : (record.putAll texts).Bounded := by
  induction texts generalizing record with
  | nil => exact bounded
  | cons text rest ih =>
    obtain ⟨first, fit⟩ := List.forall_mem_cons.1 fit
    apply ih (bounded.put first)
    rw [limits_put]
    exact fit

theorem Bounded.call (bounded : record.Bounded) (call : RecordCall) :
    (record.call call).2.Bounded := by
  cases call with
  | set field value =>
    simp only [Record.call, set]
    cases verdict : record.limits.check field value with
    | error e => exact bounded
    | ok => exact bounded.put ((Limits.check_eq_ok_iff ..).1 verdict)
  | setId id => exact bounded.congr rfl fun field => by cases field <;> rfl
  | setTarget target => exact bounded.congr rfl fun field => by cases field <;> rfl
  | markFailed => exact bounded.congr rfl fun field => by cases field <;> rfl
  | _ => exact bounded

theorem Bounded.markFailed (bounded : record.Bounded) : record.markFailed.Bounded :=
  bounded.congr rfl fun field => by cases field <;> rfl

theorem Bounded.absorb (bounded : record.Bounded) (descriptor : Descriptor) :
    (record.absorb descriptor).Bounded := by
  apply bounded.congr (limits_absorb record descriptor)
  intro field
  cases descriptor <;> cases field <;> rfl

theorem Bounded.load (bounded : record.Bounded) {σ : Type} [Oracle σ] (oracle : σ)
    (descriptor : Descriptor) : (record.load oracle descriptor).2.1.Bounded := by
  rw [load_eq]
  split
  · exact bounded.absorb descriptor
  · exact bounded

end Record

theorem Handle.bounded_ingest {handle : Handle} (bounded : handle.record.Bounded) {σ : Type}
    [Oracle σ] (oracle : σ) (descriptor : Descriptor) :
    (handle.ingest oracle descriptor).2.1.record.Bounded := by
  rw [ingest_eq]
  split
  · exact bounded
  · split
    · exact bounded
    · split
      · exact bounded.absorb descriptor
      · exact bounded.markFailed

theorem Session.bounded_ingest {session : Session} (bounded : session.device.record.Bounded)
    (descriptor : Descriptor) : (session.ingest descriptor).2.device.record.Bounded := by
  rcases session.ingest_cases descriptor with
    ⟨_, outcome⟩ | ⟨_, _, outcome⟩ | ⟨_, _, _, _, outcome⟩ | ⟨_, _, fits, outcome⟩ <;>
    rw [outcome]
  · exact bounded
  · exact bounded
  · exact bounded.markFailed
  · apply (bounded.absorb descriptor).putAll
    rw [Record.limits_absorb]
    exact admit_idsOf_iff.2 fits.1

theorem Session.bounded_of_start {attributes : Attributes} {limits : Limits} {session : Session}
    (started : start attributes limits = .ok session) : session.device.record.Bounded := by
  have texts : checkAll limits attributes.texts = .ok () := by
    rw [start_eq] at started
    split at started
    · cases started
    · assumption
  rw [eq_fresh_of_start started]
  exact (Record.bounded_empty limits).putAll (Limits.checkAll_eq_ok_iff.1 texts)

namespace Record

def ofRuleStart (rule : Rule) (limits : Limits) : Record :=
  { empty limits with id := rule.id, target := rule.target }

theorem ofRule_eq (rule : Rule) (limits : Limits) :
    ofRule rule limits =
      match Session.checkAll limits (textsOfRule rule) with
      | .error e => .error e
      | .ok () =>
        .ok { (ofRuleStart rule limits).putAll (textsOfRule rule) with
          interfaceTypes := rule.interfaceTypes.values
          configurationCount := rule.configurationCount } := by
  have start : { empty limits with id := rule.id, target := rule.target } =
      ofRuleStart rule limits := rfl
  have first : ((ofRuleStart rule limits).setAll (textsOfRule rule)).1 =
      Session.checkAll limits (textsOfRule rule) := setAll_fst _ _
  simp only [ofRule]
  rw [start]
  cases verdict : Session.checkAll limits (textsOfRule rule) with
  | error e =>
    rw [verdict] at first
    generalize (ofRuleStart rule limits).setAll (textsOfRule rule) = stored at first ⊢
    obtain ⟨result, record⟩ := stored
    cases first
    rfl
  | ok =>
    have stored : (ofRuleStart rule limits).setAll (textsOfRule rule) =
        (.ok (), (ofRuleStart rule limits).putAll (textsOfRule rule)) := setAll_of_checkAll verdict
    rw [stored]

theorem eq_putAll_of_ofRule {rule : Rule} {limits : Limits} {record : Record}
    (replayed : ofRule rule limits = .ok record) :
    limits.Admit (textsOfRule rule) ∧
      record = { (ofRuleStart rule limits).putAll (textsOfRule rule) with
        interfaceTypes := rule.interfaceTypes.values
        configurationCount := rule.configurationCount } := by
  rw [ofRule_eq] at replayed
  cases verdict : Session.checkAll limits (textsOfRule rule) with
  | error e =>
    rw [verdict] at replayed
    cases replayed
  | ok =>
    rw [verdict] at replayed
    exact ⟨Limits.checkAll_eq_ok_iff.1 verdict, (Except.ok.inj replayed).symm⟩

theorem bounded_of_ofRule {rule : Rule} {limits : Limits} {record : Record}
    (replayed : ofRule rule limits = .ok record) : record.Bounded := by
  obtain ⟨fit, rfl⟩ := eq_putAll_of_ofRule replayed
  have start : (ofRuleStart rule limits).Bounded :=
    (bounded_empty limits).congr rfl fun field => by cases field <;> rfl
  exact (start.putAll fit).congr rfl fun field => by cases field <;> rfl

def ruleOf (record : Record) (includePort : Bool) (hash : String) : Rule where
  id := record.id
  target := record.target
  vendorId := record.vendorId
  productId := record.productId
  serialNumber := record.serialNumber
  deviceName := record.name
  deviceHash := hash
  devicePorts := .equals (if includePort then [record.port] else [])
  interfaceTypes := .equals record.interfaceTypes
  configurationCount := record.configurationCount

theorem toRule_eq_ok_iff {record : Record} {includePort : Bool} {rule : Rule} :
    record.toRule includePort = .ok rule ↔
      record.failed = false ∧ ∃ hash, record.hash = .ok hash ∧
        rule = record.ruleOf includePort hash := by
  unfold toRule
  cases record.failed with
  | true => simp
  | false =>
    cases record.hash with
    | error e => simp
    | ok hash => simp [ruleOf, eq_comm]

theorem textsOfRule_ruleOf {record : Record} {includePort : Bool} {hash : String}
    {text : Field × String} (member : text ∈ textsOfRule (record.ruleOf includePort hash)) :
    text.2 = record.get text.1 := by
  rcases List.mem_append.1 member with text | port
  · simp only [List.mem_cons, List.not_mem_nil, or_false] at text
    rcases text with rfl | rfl | rfl | rfl <;> rfl
  · cases includePort with
    | true =>
      rw [List.mem_singleton.1 port]
      rfl
    | false => cases port

theorem ofRule_ruleOf {record : Record} (bounded : record.Bounded) (includePort : Bool)
    (hash : String) :
    ofRule (record.ruleOf includePort hash) record.limits =
      .ok { record with port := if includePort then record.port else "", failed := false } := by
  have fit : record.limits.Admit (textsOfRule (record.ruleOf includePort hash)) := by
    intro text member
    rw [textsOfRule_ruleOf member]
    exact bounded text.1
  rw [ofRule_eq, Limits.checkAll_eq_ok_iff.2 fit]
  cases includePort <;> rfl

/-- The records that come about by calls, by descriptors with or without a handle, and in sessions,
from an empty record, the replay of a rule or the start of a session. -/
inductive Reachable : Record → Prop
  | empty (limits : Limits) : Reachable (empty limits)
  | replay {rule : Rule} {limits : Limits} {record : Record}
      (replayed : ofRule rule limits = .ok record) : Reachable record
  | start {attributes : Attributes} {limits : Limits} {session : Session}
      (started : Session.start attributes limits = .ok session) : Reachable session.device.record
  | call {record : Record} (reachable : Reachable record) (call : RecordCall) :
      Reachable (record.call call).2
  | load {record : Record} (reachable : Reachable record) {σ : Type} [Oracle σ] (oracle : σ)
      (descriptor : Descriptor) : Reachable (record.load oracle descriptor).2.1
  | ingest {handle : Handle} (reachable : Reachable handle.record) {σ : Type} [Oracle σ]
      (oracle : σ) (descriptor : Descriptor) :
      Reachable (handle.ingest oracle descriptor).2.1.record
  | enumerate {session : Session} (reachable : Reachable session.device.record)
      (descriptor : Descriptor) : Reachable (session.ingest descriptor).2.device.record

theorem Reachable.bounded {record : Record} (reachable : record.Reachable) : record.Bounded := by
  induction reachable with
  | empty limits => exact bounded_empty limits
  | replay replayed => exact bounded_of_ofRule replayed
  | start started => exact Session.bounded_of_start started
  | call _ call ih => exact ih.call call
  | load _ oracle descriptor ih => exact ih.load oracle descriptor
  | ingest _ oracle descriptor ih => exact Handle.bounded_ingest ih oracle descriptor
  | enumerate _ descriptor ih => exact Session.bounded_ingest ih descriptor

theorem Reachable.ingestAll {session : Session} (reachable : session.device.record.Reachable)
    (descriptors : List Descriptor) :
    (session.ingestAll descriptors).2.device.record.Reachable :=
  Session.ingestAll_keeps (P := fun session => session.device.record.Reachable)
    (fun _ descriptor reachable => reachable.enumerate descriptor) reachable descriptors

/-- Whenever a record that can come about gives a rule, the replay of that rule under the record's
own bounds succeeds and gives the record itself, but for the port if the rule leaves it out. -/
theorem ofRule_toRule {record : Record} (reachable : record.Reachable) {includePort : Bool}
    {rule : Rule} (made : record.toRule includePort = .ok rule) :
    ofRule rule record.limits =
      .ok { record with port := if includePort then record.port else "" } := by
  obtain ⟨unmarked, hash, _, rfl⟩ := toRule_eq_ok_iff.1 made
  rw [ofRule_ruleOf reachable.bounded, ← unmarked]

theorem mouse_replays_from_rule :
    let descriptors : List Descriptor :=
      [.device { vendorId := 0x046d, productId := 0xc077, configurationCount := 1 },
        .configuration { value := 1 }, .interface { classCode := 3, subclass := 1, protocol := 2 }]
    let start := Session.fresh { name := "Мышь", port := "1-2.3" } { genericString := 8 }
    let record := (start.ingestAll descriptors).2.device.record
    record.vendorId = "046d" ∧ ∃ rule, record.toRule false = .ok rule ∧
      ofRule rule { genericString := 8 } = .ok { record with port := "" } := by
  intro descriptors start record
  have started : Session.start { name := "Мышь", port := "1-2.3" } { genericString := 8 } =
      .ok start := rfl
  have reachable : record.Reachable := (Reachable.start started).ingestAll descriptors
  have made : record.toRule false = .ok (record.ruleOf false _) :=
    toRule_eq_ok_iff.2 ⟨rfl, _, rfl, rfl⟩
  exact ⟨by decide, _, made, ofRule_toRule reachable made⟩

end Record

end UsbIdentity
