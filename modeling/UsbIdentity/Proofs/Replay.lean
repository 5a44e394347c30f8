import UsbIdentity.Proofs.HexDigits
import UsbIdentity.Proofs.Hierarchy
import UsbIdentity.Proofs.RowsOfDescriptors
import UsbIdentity.Trace

namespace UsbIdentity

/-! ## Sessions under way -/

namespace Session

structure Follows (limits : Limits) (state : IngestState) (session : Session) : Prop where
  enumerating : session.state = .enumerating
  unlocked : session.device.poisoned = false
  bounded : session.device.record.limits = limits
  shows : session.log.Shows state

theorem follows_fresh (attributes : Attributes) (limits : Limits) :
    (fresh attributes limits).Follows limits .noDevice :=
  ⟨rfl, rfl, rfl, DescriptorLog.shows_empty⟩

variable {limits : Limits} {state : IngestState} {session : Session}

theorem Follows.accept {next : IngestState} {descriptor : Descriptor}
    (follows : session.Follows limits state) (place : state.next? descriptor.kind = some next) :
    (session.accept descriptor).Follows limits next where
  enumerating := follows.enumerating
  unlocked := follows.unlocked
  bounded := (Record.limits_enumerate ..).trans follows.bounded
  shows := follows.shows.accept place

theorem Follows.ingest_of_place {next : IngestState} {descriptor : Descriptor}
    (follows : session.Follows limits state) (place : state.next? descriptor.kind = some next)
    (fit : limits.Admit (idsOf descriptor)) :
    session.ingest descriptor = (.ok (), session.accept descriptor) := by
  apply ingest_of_fits follows.enumerating follows.unlocked
  rw [Descriptor.Fits, follows.shows.placed_eq, place, follows.bounded]
  exact ⟨admit_idsOf_iff.1 fit, rfl⟩

theorem Follows.ingest_of_ids {descriptor : Descriptor} {e : DeviceError}
    (follows : session.Follows limits state) (rejected : limits.Rejects (idsOf descriptor) e) :
    session.ingest descriptor = (.error (.device e), session.abandon) := by
  apply ingest_of_refusal follows.enumerating follows.unlocked
  rw [refusal?, follows.bounded, Limits.checkAll_of_rejects rejected]

theorem Follows.ingest_of_misplaced {descriptor : Descriptor}
    (follows : session.Follows limits state) (misplaced : state.next? descriptor.kind = none)
    (fit : limits.Admit (idsOf descriptor)) :
    session.ingest descriptor =
      (.error (.device descriptor.kind.misplacement), session.abandon) := by
  apply ingest_of_refusal follows.enumerating follows.unlocked
  rw [refusal?, follows.bounded, Limits.checkAll_eq_ok_iff.2 fit]
  simp [follows.shows.placed_eq, misplaced]

theorem Follows.rule_eq (follows : session.Follows limits state) (present : state ≠ .noDevice)
    (includePort : Bool) :
    session.rule includePort =
      match session.device.record.toRule includePort with
      | .error e => .error (.device e)
      | .ok rule => .ok rule := by
  have device : session.log.has .device = true := by
    rw [follows.shows .device]
    cases state <;> first | contradiction | rfl
  have answer := Handle.rule_of_unlocked follows.unlocked includePort
  cases outcome : session.device.record.toRule includePort <;>
    simp [rule, follows.enumerating, device, answer, outcome]

/-! ## Descriptors in a row -/

def acceptAll (session : Session) (descriptors : List Descriptor) : Session :=
  descriptors.foldl accept session

theorem ingestAll_of_walk {last : IngestState} {descriptors : List Descriptor}
    (follows : session.Follows limits state)
    (walked : state.walk? (descriptors.map Descriptor.kind) = some last)
    (fit : ∀ descriptor ∈ descriptors, limits.Admit (idsOf descriptor)) :
    session.ingestAll descriptors = (.ok descriptors.length, session.acceptAll descriptors) ∧
      (session.acceptAll descriptors).Follows limits last := by
  induction descriptors generalizing session state with
  | nil =>
    cases walked
    exact ⟨rfl, follows⟩
  | cons descriptor rest ih =>
    obtain ⟨ids, fit⟩ := List.forall_mem_cons.1 fit
    rw [List.map_cons, IngestState.walk?, List.foldlM_cons] at walked
    cases place : state.next? descriptor.kind with
    | none =>
      rw [place] at walked
      cases walked
    | some next =>
      rw [place] at walked
      obtain ⟨done, followed⟩ := ih (follows.accept place) walked fit
      refine ⟨?_, followed⟩
      simp only [ingestAll, follows.ingest_of_place place ids, done]
      rfl

theorem ingestAll_of_stuck {before : List Descriptor} {count : Nat} {middle last : Session}
    {descriptor : Descriptor} {e : SessionError}
    (accepted : session.ingestAll before = (.ok count, middle))
    (refused : middle.ingest descriptor = (.error e, last)) (after : List Descriptor) :
    session.ingestAll (before ++ descriptor :: after) = (.error e, last) := by
  simp only [ingestAll_append, accepted, ingestAll, refused]

end Session

/-! ## The record of a whole enumeration -/

def Descriptor.interfaceType? : Descriptor → Option InterfaceType
  | .interface announced =>
    some ⟨announced.classCode, announced.subclass, announced.protocol, 0xe0⟩
  | _ => none

theorem InterfaceType.ofDescriptor_eq (announced : InterfaceDescriptor) :
    ofDescriptor announced =
      ⟨announced.classCode, announced.subclass, announced.protocol, 0xe0⟩ :=
  rfl

namespace Record

theorem foldl_absorb_of_no_device (record : Record) {descriptors : List Descriptor}
    (below : .device ∉ descriptors.map Descriptor.kind) :
    descriptors.foldl absorb record =
      { record with
        interfaceTypes :=
          record.interfaceTypes ++ descriptors.filterMap Descriptor.interfaceType? } := by
  induction descriptors generalizing record with
  | nil => simp
  | cons descriptor rest ih =>
    rw [List.map_cons, List.mem_cons, not_or] at below
    obtain ⟨first, below⟩ := below
    rw [List.foldl_cons, ih (record.absorb descriptor) below]
    cases descriptor with
    | device device => exact absurd rfl first
    | _ =>
      simp [absorb, List.filterMap_cons, Descriptor.interfaceType?, InterfaceType.ofDescriptor_eq]

theorem enumerate_of_ne_device (record : Record) {descriptor : Descriptor}
    (below : descriptor.kind ≠ .device) :
    record.enumerate descriptor = record.absorb descriptor := by
  cases descriptor with
  | device device => exact absurd rfl below
  | _ => rfl

theorem foldl_enumerate_of_no_device (record : Record) {descriptors : List Descriptor}
    (below : .device ∉ descriptors.map Descriptor.kind) :
    descriptors.foldl enumerate record =
      { record with
        interfaceTypes :=
          record.interfaceTypes ++ descriptors.filterMap Descriptor.interfaceType? } := by
  rw [← foldl_absorb_of_no_device record below]
  apply List.foldl_ext
  intro reached descriptor member
  refine reached.enumerate_of_ne_device fun device => below ?_
  exact List.mem_map.2 ⟨descriptor, member, device⟩

end Record

theorem Session.record_acceptAll (session : Session) (descriptors : List Descriptor) :
    (session.acceptAll descriptors).device.record =
      descriptors.foldl Record.enumerate session.device.record := by
  induction descriptors generalizing session with
  | nil => rfl
  | cons descriptor rest ih => exact ih (session.accept descriptor)

/-! ## Traces -/

namespace Trace

structure Accepted (limits : Limits) (trace : Trace) : Prop where
  name : trace.device.name.utf8ByteSize ≤ limits.genericString.toNat
  serialNumber : trace.device.serialNumber.utf8ByteSize ≤ limits.genericString.toNat
  port : trace.device.port.utf8ByteSize ≤ limits.port.toNat
  ids : limits.AdmitIds
  order : trace.descriptors.map Descriptor.kind ∈ IngestState.enumeration.matches'

/-- Why a trace gives no rule under given bounds, the first reason first: an attribute is too long,
the ids of the device that comes first do not fit, a descriptor has no place after those before it,
or there is no descriptor at all. -/
inductive Refused (limits : Limits) (trace : Trace) : SessionError → Prop
  | text {e : DeviceError} (rejected : limits.Rejects trace.device.texts e) :
      Refused limits trace (.device e)
  | ids {e : DeviceError} {device : DeviceDescriptor} {rest : List Descriptor}
      (attributes : limits.Admit trace.device.texts)
      (first : trace.descriptors = .device device :: rest)
      (rejected : limits.Rejects (Session.idsOf (.device device)) e) :
      Refused limits trace (.device e)
  | place {kind : Kind} {before after : List Kind}
      (attributes : limits.Admit trace.device.texts)
      (split : trace.descriptors.map Descriptor.kind = before ++ kind :: after)
      (earlier : before = [] ∨ limits.AdmitIds ∧ before ∈ IngestState.enumeration.matches')
      (misplaced : before ++ [kind] ∉ IngestState.enumeration.matches') :
      Refused limits trace (.device kind.misplacement)
  | incomplete (attributes : limits.Admit trace.device.texts) (empty : trace.descriptors = []) :
      Refused limits trace .incomplete

def ruleOf (trace : Trace) (device : DeviceDescriptor) (includePort : Bool) : Rule :=
  let vendorId := String.ofList (Hex.word device.vendorId)
  let productId := String.ofList (Hex.word device.productId)
  let message := Identity.message trace.device.name vendorId productId trace.device.serialNumber
  { id := Rule.defaultId
    target := .unknown
    vendorId
    productId
    serialNumber := trace.device.serialNumber
    deviceName := trace.device.name
    deviceHash := String.ofList (Sha256.hexDigest message)
    devicePorts := .equals (if includePort then [trace.device.port] else [])
    interfaceTypes := .equals (trace.descriptors.filterMap Descriptor.interfaceType?)
    configurationCount := Int32.ofNat device.configurationCount.toNat }

/-- What a rule says of a trace that starts with a device. -/
structure Describes (trace : Trace) (device : DeviceDescriptor) (includePort : Bool)
    (rule : Rule) : Prop where
  id : rule.id = 4294967293
  target : rule.target = .unknown
  deviceName : rule.deviceName = trace.device.name
  serialNumber : rule.serialNumber = trace.device.serialNumber
  vendorId : Hex.Writes 4 rule.vendorId device.vendorId.toNat
  productId : Hex.Writes 4 rule.productId device.productId.toNat
  deviceHash : Hex.Writes 64 rule.deviceHash (Hex.ofBytes (Sha256.digest
    (rule.deviceName ++ rule.vendorId ++ rule.productId ++ rule.serialNumber).toUTF8.data.toList))
  configurationCount : rule.configurationCount.toInt = device.configurationCount.toNat
  interfaceTypes :
    rule.interfaceTypes = .equals (trace.descriptors.filterMap Descriptor.interfaceType?)
  devicePorts : rule.devicePorts = .equals (if includePort then [trace.device.port] else [])

variable {trace : Trace} {limits : Limits}

theorem utf8_identity (name vendorId productId serialNumber : String) :
    (name ++ vendorId ++ productId ++ serialNumber).toUTF8.data.toList =
      Identity.message name vendorId productId serialNumber := by
  simp [Identity.message, Text.Quoted.utf8, String.toByteArray_append]

theorem describes_ruleOf (trace : Trace) (device : DeviceDescriptor) (includePort : Bool) :
    trace.Describes device includePort (trace.ruleOf device includePort) where
  id := rfl
  target := rfl
  deviceName := rfl
  serialNumber := rfl
  vendorId := Hex.writes_word device.vendorId
  productId := Hex.writes_word device.productId
  deviceHash := by
    rw [utf8_identity]
    exact Hex.writes_bytes (Sha256.digest _)
  configurationCount := by
    have bound := device.configurationCount.toNat_lt
    exact Int32.toInt_ofNat_of_lt (by omega)
  interfaceTypes := rfl
  devicePorts := rfl

theorem admit_texts_iff :
    limits.Admit trace.device.texts ↔
      trace.device.name.utf8ByteSize ≤ limits.genericString.toNat ∧
        trace.device.serialNumber.utf8ByteSize ≤ limits.genericString.toNat ∧
        trace.device.port.utf8ByteSize ≤ limits.port.toNat := by
  simp [Limits.Admit, Attributes.texts, Limits.maxFor]

theorem replay_eq (attributes : limits.Admit trace.device.texts) (includePort : Bool) :
    trace.replay limits includePort =
      match (Session.fresh trace.device limits).ingestAll trace.descriptors with
      | (.error e, _) => .error e
      | (.ok _, session) => session.rule includePort := by
  have started := Session.start_eq trace.device limits
  rw [Limits.checkAll_eq_ok_iff.2 attributes] at started
  cases outcome : (Session.fresh trace.device limits).ingestAll trace.descriptors with
  | mk result session => cases result <;> simp [replay, started, outcome]

theorem toRule_eq {device : DeviceDescriptor} {rest : List Descriptor}
    (first : trace.descriptors = .device device :: rest)
    (below : .device ∉ rest.map Descriptor.kind) (includePort : Bool) :
    (trace.descriptors.foldl Record.enumerate
        (Session.fresh trace.device limits).device.record).toRule includePort =
      .ok (trace.ruleOf device includePort) := by
  rw [first, List.foldl_cons, Record.foldl_enumerate_of_no_device _ below]
  simp [Record.toRule, Record.hash, Identity.hash, Record.enumerate, Record.absorb, Record.putAll,
    Record.put, Session.idsOf, Session.fresh, Record.empty, ruleOf, first, List.filterMap_cons,
    Descriptor.interfaceType?]

theorem replay_of_accepted (accepted : trace.Accepted limits) :
    ∃ device rest, trace.descriptors = .device device :: rest ∧
      ∀ includePort, trace.replay limits includePort = .ok (trace.ruleOf device includePort) := by
  obtain ⟨last, walked, present⟩ := (IngestState.mem_enumeration_iff _).1 accepted.order
  have attributes := admit_texts_iff.2 ⟨accepted.name, accepted.serialNumber, accepted.port⟩
  have fit : ∀ descriptor ∈ trace.descriptors, limits.Admit (Session.idsOf descriptor) :=
    fun _ _ => Session.admit_idsOf_iff.2 fun _ => accepted.ids
  obtain ⟨done, followed⟩ :=
    Session.ingestAll_of_walk (Session.follows_fresh trace.device limits) walked fit
  cases descriptors : trace.descriptors with
  | nil =>
    rw [descriptors] at walked
    cases walked
    exact absurd rfl present
  | cons descriptor rest =>
    rw [descriptors, List.map_cons] at walked
    obtain ⟨kind, below, _⟩ := IngestState.walk?_noDevice_cons walked
    cases descriptor with
    | device device =>
      refine ⟨device, rest, rfl, fun includePort => ?_⟩
      rw [replay_eq attributes, done]
      simp only [followed.rule_eq present, Session.record_acceptAll,
        toRule_eq descriptors below includePort]
    | _ => cases kind

theorem replay_of_refused {e : SessionError} (refused : trace.Refused limits e)
    (includePort : Bool) : trace.replay limits includePort = .error e := by
  have start := Session.follows_fresh trace.device limits
  cases refused with
  | text rejected =>
    rw [replay, Session.start_eq, Limits.checkAll_of_rejects rejected]
  | ids attributes first rejected =>
    rw [replay_eq attributes, first]
    simp only [Session.ingestAll, start.ingest_of_ids rejected]
  | incomplete attributes empty =>
    rw [replay_eq attributes, empty]
    rfl
  | @place kind before after attributes split earlier misplaced =>
    have prior := earlier.imp_right And.right
    obtain ⟨reached, walked⟩ := (IngestState.walk?_eq_some_iff before).2 prior
    have stuck := (IngestState.append_not_mem_enumeration_iff walked kind).1 misplaced
    obtain ⟨accepted, tail, descriptors, rfl, kinds⟩ := List.map_eq_append_iff.1 split
    obtain ⟨descriptor, rest, rfl, rfl, rfl⟩ := List.map_eq_cons_iff.1 kinds
    -- Only a device has ids, and a device that comes first is never out of place.
    have ids : ∀ other ∈ descriptor :: accepted, limits.Admit (Session.idsOf other) := by
      intro other member
      rw [Session.admit_idsOf_iff]
      intro device
      rcases earlier with empty | ⟨ids, _⟩
      · rw [List.map_eq_nil_iff] at empty
        subst empty
        cases walked
        cases List.mem_singleton.1 member
        rw [device] at stuck
        cases stuck
      · exact ids
    obtain ⟨own, fit⟩ := List.forall_mem_cons.1 ids
    obtain ⟨done, followed⟩ := Session.ingestAll_of_walk start walked fit
    rw [replay_eq attributes, descriptors,
      Session.ingestAll_of_stuck done (followed.ingest_of_misplaced stuck own)]

theorem accepted_or_misplaced {first : Descriptor} {rest : List Descriptor}
    (attributes : limits.Admit trace.device.texts) (descriptors : trace.descriptors = first :: rest)
    (ids : first.kind = .device → limits.AdmitIds) :
    trace.Accepted limits ∨ ∃ e, trace.Refused limits e := by
  cases walked : IngestState.walk? .noDevice (trace.descriptors.map Descriptor.kind) with
  | some last =>
    rw [descriptors] at walked
    obtain ⟨device, _, present⟩ := IngestState.walk?_noDevice_cons walked
    have order := (IngestState.mem_enumeration_iff _).2 ⟨last, walked, present⟩
    rw [← descriptors] at order
    obtain ⟨name, serialNumber, port⟩ := admit_texts_iff.1 attributes
    exact .inl ⟨name, serialNumber, port, ids device, order⟩
  | none =>
    obtain ⟨before, kind, after, reached, split, walked, stuck⟩ :=
      IngestState.walk?_eq_none_iff.1 walked
    have misplaced := (IngestState.append_not_mem_enumeration_iff walked kind).2 stuck
    refine .inr ⟨_, .place attributes split ?_ misplaced⟩
    cases before with
    | nil => exact .inl rfl
    | cons head before =>
      rw [descriptors] at split
      obtain ⟨rfl, _⟩ := List.cons.inj split
      obtain ⟨device, _, present⟩ := IngestState.walk?_noDevice_cons walked
      exact .inr ⟨ids device, (IngestState.mem_enumeration_iff _).2 ⟨reached, walked, present⟩⟩

theorem accepted_or_refused (trace : Trace) (limits : Limits) :
    trace.Accepted limits ∨ ∃ e, trace.Refused limits e := by
  cases texts : Session.checkAll limits trace.device.texts with
  | error e => exact .inr ⟨_, .text (Limits.rejects_of_checkAll texts)⟩
  | ok =>
    have attributes := Limits.checkAll_eq_ok_iff.1 texts
    cases descriptors : trace.descriptors with
    | nil => exact .inr ⟨_, .incomplete attributes descriptors⟩
    | cons first rest =>
      cases ids : Session.checkAll limits (Session.idsOf first) with
      | ok =>
        have fit := Limits.checkAll_eq_ok_iff.1 ids
        exact accepted_or_misplaced attributes descriptors (Session.admit_idsOf_iff.1 fit)
      | error e =>
        cases first with
        | device device =>
          exact .inr ⟨_, .ids attributes descriptors (Limits.rejects_of_checkAll ids)⟩
        | _ => cases ids

theorem exists_device_of_replay {includePort : Bool} {rule : Rule}
    (replayed : trace.replay limits includePort = .ok rule) :
    ∃ device rest, trace.descriptors = .device device :: rest ∧
      .device ∉ rest.map Descriptor.kind ∧ rule = trace.ruleOf device includePort := by
  rcases trace.accepted_or_refused limits with accepted | ⟨e, refused⟩
  · obtain ⟨device, rest, descriptors, outcome⟩ := replay_of_accepted accepted
    obtain ⟨level, walked, _⟩ := (IngestState.mem_enumeration_iff _).1 accepted.order
    rw [descriptors, List.map_cons] at walked
    exact ⟨device, rest, descriptors, (IngestState.walk?_noDevice_cons walked).2.1,
      Except.ok.inj (replayed.symm.trans (outcome includePort))⟩
  · rw [replay_of_refused refused] at replayed
    cases replayed

theorem replay_eq_ok_iff (trace : Trace) (limits : Limits) (includePort : Bool) (rule : Rule) :
    trace.replay limits includePort = .ok rule ↔
      trace.Accepted limits ∧ ∃ device rest, trace.descriptors = .device device :: rest ∧
        rule = trace.ruleOf device includePort := by
  rcases trace.accepted_or_refused limits with accepted | ⟨cause, refused⟩
  · obtain ⟨device, rest, first, replayed⟩ := replay_of_accepted accepted
    rw [replayed includePort]
    constructor
    · intro same
      cases same
      exact ⟨accepted, device, rest, first, rfl⟩
    · rintro ⟨_, other, _, again, rfl⟩
      rw [first] at again
      cases again
      rfl
  · have outcome := replay_of_refused refused includePort
    refine iff_of_false (by simp [outcome]) fun ⟨accepted, _⟩ => ?_
    obtain ⟨device, rest, first, replayed⟩ := replay_of_accepted accepted
    rw [replayed includePort] at outcome
    cases outcome

theorem replay_eq_error_iff (trace : Trace) (limits : Limits) (includePort : Bool)
    (e : SessionError) :
    trace.replay limits includePort = .error e ↔ trace.Refused limits e := by
  refine ⟨fun failed => ?_, fun refused => replay_of_refused refused includePort⟩
  rcases trace.accepted_or_refused limits with accepted | ⟨cause, refused⟩
  · obtain ⟨device, rest, first, replayed⟩ := replay_of_accepted accepted
    rw [replayed includePort] at failed
    cases failed
  · rw [replay_of_refused refused] at failed
    cases failed
    exact refused

/-- A trace gives a rule exactly when its attributes and its ids fit their bounds and its
descriptors come in the order of the language, and the rule is then the one that the trace itself
spells out: it says of the device and of all interfaces what their descriptors do. Otherwise the
replay reports the first reason against it. -/
theorem replay_spec (trace : Trace) (limits : Limits) (includePort : Bool) :
    (∀ rule, trace.replay limits includePort = .ok rule ↔
      trace.Accepted limits ∧ ∃ device rest, trace.descriptors = .device device :: rest ∧
        rule = trace.ruleOf device includePort) ∧
    (∀ rule, trace.replay limits includePort = .ok rule →
      ∃ device rest, trace.descriptors = .device device :: rest ∧
        trace.Describes device includePort rule) ∧
    (∀ e, trace.replay limits includePort = .error e ↔ trace.Refused limits e) := by
  refine ⟨trace.replay_eq_ok_iff limits includePort, fun rule replayed => ?_,
    trace.replay_eq_error_iff limits includePort⟩
  obtain ⟨_, device, rest, first, rfl⟩ :=
    (trace.replay_eq_ok_iff limits includePort rule).1 replayed
  exact ⟨device, rest, first, trace.describes_ruleOf device includePort⟩

def camera : DeviceDescriptor where
  vendorId := 0x046d
  productId := 0x0825
  configurationCount := 2

def cameraTrace : Trace where
  device := { name := "Камера", serialNumber := "7", port := "1-4" }
  descriptors :=
    [.device camera, .configuration {},
      .interface { classCode := 0x0e, subclass := 1, protocol := 0 }, .endpoint { address := 0x83 },
      .interface { classCode := 1, subclass := 2, protocol := 0 }, .configuration {},
      .interface { classCode := 0x0e, subclass := 1, protocol := 0 }]

theorem camera_replays :
    (∃ rule, cameraTrace.replay {} true = .ok rule ∧ rule.vendorId = "046d" ∧
      rule.productId = "0825" ∧ rule.configurationCount = 2 ∧
      rule.deviceHash = "091f760c00b36c0d9188ea5cda50c494c6c47510b96a5f553b9fa8f0c0f52dd1" ∧
      rule.interfaceTypes =
        .equals [⟨0x0e, 1, 0, 0xe0⟩, ⟨1, 2, 0, 0xe0⟩, ⟨0x0e, 1, 0, 0xe0⟩] ∧
      rule.devicePorts = .equals ["1-4"]) ∧
    cameraTrace.replay { vendorId := 3 } true = .error (.device (.tooLong .vendorId 3 4)) := by
  have order : cameraTrace.descriptors.map Descriptor.kind ∈ IngestState.enumeration.matches' :=
    (IngestState.mem_enumeration_iff _).2 ⟨.hasInterface, by decide, by decide⟩
  have accepted : cameraTrace.Accepted {} :=
    ⟨by decide, by decide, by decide, ⟨by decide, by decide⟩, order⟩
  constructor
  · have replayed := ((replay_spec cameraTrace {} true).1 _).2 ⟨accepted, camera, _, rfl, rfl⟩
    obtain ⟨device, _, first, describes⟩ := (replay_spec cameraTrace {} true).2.1 _ replayed
    cases first
    exact ⟨_, replayed, by decide, by decide, rfl, by decide +kernel, describes.interfaceTypes,
      describes.devicePorts⟩
  · have attributes : Limits.Admit { vendorId := 3 } cameraTrace.device.texts :=
      admit_texts_iff.2 ⟨by decide, by decide, by decide⟩
    have rejected : Limits.Rejects { vendorId := 3 } (Session.idsOf (.device camera))
        (.tooLong .vendorId 3 4) := ⟨[], _, _, _, rfl, nofun, by decide, rfl⟩
    exact ((replay_spec cameraTrace { vendorId := 3 } true).2.2 _).2 (.ids attributes rfl rejected)

end Trace

end UsbIdentity
