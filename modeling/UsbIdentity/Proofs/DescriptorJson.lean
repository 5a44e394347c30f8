import UsbIdentity.Descriptor.Schema
import UsbIdentity.Proofs.RuleJson
import UsbIdentity.Proofs.SchemaRefusals

namespace UsbIdentity

open Schema

/-! ## Readers of single values -/

namespace Schema

theorem uint8_ofUInt8 (context : Context) (value : UInt8) :
    uint8 context (Draft.ofJson (.ofUInt8 value)) = .ok value := by
  have bound := value.toNat_lt
  rw [Json.ofUInt8, uint8, unsigned_natural UInt8.ofNat (by omega), UInt8.ofNat_toNat]

theorem uint16_ofUInt16 (context : Context) (value : UInt16) :
    uint16 context (Draft.ofJson (.ofUInt16 value)) = .ok value := by
  have bound := value.toNat_lt
  rw [Json.ofUInt16, uint16, unsigned_natural UInt16.ofNat (by omega), UInt16.ofNat_toNat]

theorem enter_kept : Context.enter { origin := .kept } = .ok { origin := .kept } :=
  rfl

theorem boundedBy_uint8 {α : Type} {name : String} {required : Bool} (set : UInt8 → α → α) :
    (Slot.ofReader name required uint8 set).BoundedBy 0xff :=
  boundedBy_unsigned UInt8.ofNat set

theorem boundedBy_uint16 {α : Type} {name : String} {required : Bool} (set : UInt16 → α → α) :
    (Slot.ofReader name required uint16 set).BoundedBy 0xffff :=
  boundedBy_unsigned UInt16.ofNat set

end Schema

/-! ## The fields of a kind -/

namespace Kind

def fields : Kind → List (String × Int)
  | .device =>
    [("usb_version", 0xffff), ("class", 0xff), ("subclass", 0xff), ("protocol", 0xff),
      ("max_packet_size", 0xff), ("vendor_id", 0xffff), ("product_id", 0xffff),
      ("device_release", 0xffff), ("num_configurations", 0xff)]
  | .configuration =>
    [("total_length", 0xffff), ("num_interfaces", 0xff), ("configuration_value", 0xff),
      ("attributes", 0xff), ("max_power", 0xff)]
  | .interface =>
    [("interface_number", 0xff), ("alternate_setting", 0xff), ("num_endpoints", 0xff),
      ("class", 0xff), ("subclass", 0xff), ("protocol", 0xff)]
  | .endpoint =>
    [("address", 0xff), ("attributes", 0xff), ("max_packet_size", 0xffff), ("interval", 0xff)]

def requiredFields : Kind → List String
  | .device => ["vendor_id", "product_id", "num_configurations"]
  | .configuration => []
  | .interface => ["class", "subclass", "protocol"]
  | .endpoint => ["address"]

theorem type_not_mem_fields (kind : Kind) : "type" ∉ kind.fields.map (·.1) := by
  cases kind <;> decide

theorem nodup_fields (kind : Kind) : (kind.fields.map (·.1)).Nodup := by
  cases kind <;> decide

theorem caseOf_name (kind : Kind) :
    caseOf cases (.string (some kind.name)) = .ok kind := by
  cases kind <;> rfl

end Kind

structure Kind.Slots {α : Type} (kind : Kind) (slots : List (Slot α)) : Prop where
  bounded : List.Forall₂ (fun slot field => slot.name = field.1 ∧ slot.BoundedBy field.2) slots
    kind.fields
  needed : requiredNames slots = kind.requiredFields

/-! ## The four records -/

namespace DeviceDescriptor

def only (d : DeviceDescriptor) (kept : String → Bool) : DeviceDescriptor where
  usbVersion := if kept "usb_version" then d.usbVersion else 0
  classCode := if kept "class" then d.classCode else 0
  subclass := if kept "subclass" then d.subclass else 0
  protocol := if kept "protocol" then d.protocol else 0
  maxPacketSize := if kept "max_packet_size" then d.maxPacketSize else 0
  vendorId := if kept "vendor_id" then d.vendorId else 0
  productId := if kept "product_id" then d.productId else 0
  deviceRelease := if kept "device_release" then d.deviceRelease else 0
  configurationCount := if kept "num_configurations" then d.configurationCount else 0

theorem names_slots : slots.map (·.name) = (Kind.fields .device).map (·.1) :=
  rfl

theorem slots_ofKind : Kind.device.Slots slots where
  bounded :=
    .cons ⟨rfl, boundedBy_uint16 _⟩ <| .cons ⟨rfl, boundedBy_uint8 _⟩ <|
    .cons ⟨rfl, boundedBy_uint8 _⟩ <| .cons ⟨rfl, boundedBy_uint8 _⟩ <|
    .cons ⟨rfl, boundedBy_uint8 _⟩ <| .cons ⟨rfl, boundedBy_uint16 _⟩ <|
    .cons ⟨rfl, boundedBy_uint16 _⟩ <| .cons ⟨rfl, boundedBy_uint16 _⟩ <|
    .cons ⟨rfl, boundedBy_uint8 _⟩ .nil
  needed := rfl

theorem depicts (d : DeviceDescriptor) (context : Context) :
    Depicts slots context d.only (fun _ => false) .malformed d.members where
  takes := by
    refine .cons (.ofIntact (uint16_ofUInt16 context _) rfl ?_) <|
      .cons (.ofIntact (uint8_ofUInt8 context _) rfl ?_) <|
      .cons (.ofIntact (uint8_ofUInt8 context _) rfl ?_) <|
      .cons (.ofIntact (uint8_ofUInt8 context _) rfl ?_) <|
      .cons (.ofIntact (uint8_ofUInt8 context _) rfl ?_) <|
      .cons (.ofIntact (uint16_ofUInt16 context _) rfl ?_) <|
      .cons (.ofIntact (uint16_ofUInt16 context _) rfl ?_) <|
      .cons (.ofIntact (uint16_ofUInt16 context _) rfl ?_) <|
      .cons (.ofIntact (uint8_ofUInt8 context _) rfl ?_) .nil
    all_goals
      intro read
      simp [only]
  distinct := Kind.nodup_fields .device
  determined first second same := by
    simp only [names_slots, Kind.fields, List.map_cons, List.forall_mem_cons] at same
    simp only [only, same]

end DeviceDescriptor

namespace ConfigurationDescriptor

def only (d : ConfigurationDescriptor) (kept : String → Bool) : ConfigurationDescriptor where
  totalLength := if kept "total_length" then d.totalLength else 0
  interfaceCount := if kept "num_interfaces" then d.interfaceCount else 0
  value := if kept "configuration_value" then d.value else 0
  attributes := if kept "attributes" then d.attributes else 0
  maxPower := if kept "max_power" then d.maxPower else 0

theorem names_slots : slots.map (·.name) = (Kind.fields .configuration).map (·.1) :=
  rfl

theorem slots_ofKind : Kind.configuration.Slots slots where
  bounded :=
    .cons ⟨rfl, boundedBy_uint16 _⟩ <| .cons ⟨rfl, boundedBy_uint8 _⟩ <|
    .cons ⟨rfl, boundedBy_uint8 _⟩ <| .cons ⟨rfl, boundedBy_uint8 _⟩ <|
    .cons ⟨rfl, boundedBy_uint8 _⟩ .nil
  needed := rfl

theorem depicts (d : ConfigurationDescriptor) (context : Context) :
    Depicts slots context d.only (fun _ => false) .malformed d.members where
  takes := by
    refine .cons (.ofIntact (uint16_ofUInt16 context _) rfl ?_) <|
      .cons (.ofIntact (uint8_ofUInt8 context _) rfl ?_) <|
      .cons (.ofIntact (uint8_ofUInt8 context _) rfl ?_) <|
      .cons (.ofIntact (uint8_ofUInt8 context _) rfl ?_) <|
      .cons (.ofIntact (uint8_ofUInt8 context _) rfl ?_) .nil
    all_goals
      intro read
      simp [only]
  distinct := Kind.nodup_fields .configuration
  determined first second same := by
    simp only [names_slots, Kind.fields, List.map_cons, List.forall_mem_cons] at same
    simp only [only, same]

end ConfigurationDescriptor

namespace InterfaceDescriptor

def only (d : InterfaceDescriptor) (kept : String → Bool) : InterfaceDescriptor where
  number := if kept "interface_number" then d.number else 0
  alternateSetting := if kept "alternate_setting" then d.alternateSetting else 0
  endpointCount := if kept "num_endpoints" then d.endpointCount else 0
  classCode := if kept "class" then d.classCode else 0
  subclass := if kept "subclass" then d.subclass else 0
  protocol := if kept "protocol" then d.protocol else 0

theorem names_slots : slots.map (·.name) = (Kind.fields .interface).map (·.1) :=
  rfl

theorem slots_ofKind : Kind.interface.Slots slots where
  bounded :=
    .cons ⟨rfl, boundedBy_uint8 _⟩ <| .cons ⟨rfl, boundedBy_uint8 _⟩ <|
    .cons ⟨rfl, boundedBy_uint8 _⟩ <| .cons ⟨rfl, boundedBy_uint8 _⟩ <|
    .cons ⟨rfl, boundedBy_uint8 _⟩ <| .cons ⟨rfl, boundedBy_uint8 _⟩ .nil
  needed := rfl

theorem depicts (d : InterfaceDescriptor) (context : Context) :
    Depicts slots context d.only (fun _ => false) .malformed d.members where
  takes := by
    refine .cons (.ofIntact (uint8_ofUInt8 context _) rfl ?_) <|
      .cons (.ofIntact (uint8_ofUInt8 context _) rfl ?_) <|
      .cons (.ofIntact (uint8_ofUInt8 context _) rfl ?_) <|
      .cons (.ofIntact (uint8_ofUInt8 context _) rfl ?_) <|
      .cons (.ofIntact (uint8_ofUInt8 context _) rfl ?_) <|
      .cons (.ofIntact (uint8_ofUInt8 context _) rfl ?_) .nil
    all_goals
      intro read
      simp [only]
  distinct := Kind.nodup_fields .interface
  determined first second same := by
    simp only [names_slots, Kind.fields, List.map_cons, List.forall_mem_cons] at same
    simp only [only, same]

end InterfaceDescriptor

namespace EndpointDescriptor

def only (d : EndpointDescriptor) (kept : String → Bool) : EndpointDescriptor where
  address := if kept "address" then d.address else 0
  attributes := if kept "attributes" then d.attributes else 0
  maxPacketSize := if kept "max_packet_size" then d.maxPacketSize else 0
  interval := if kept "interval" then d.interval else 0

theorem names_slots : slots.map (·.name) = (Kind.fields .endpoint).map (·.1) :=
  rfl

theorem slots_ofKind : Kind.endpoint.Slots slots where
  bounded :=
    .cons ⟨rfl, boundedBy_uint8 _⟩ <| .cons ⟨rfl, boundedBy_uint8 _⟩ <|
    .cons ⟨rfl, boundedBy_uint16 _⟩ <| .cons ⟨rfl, boundedBy_uint8 _⟩ .nil
  needed := rfl

theorem depicts (d : EndpointDescriptor) (context : Context) :
    Depicts slots context d.only (fun _ => false) .malformed d.members where
  takes := by
    refine .cons (.ofIntact (uint8_ofUInt8 context _) rfl ?_) <|
      .cons (.ofIntact (uint8_ofUInt8 context _) rfl ?_) <|
      .cons (.ofIntact (uint16_ofUInt16 context _) rfl ?_) <|
      .cons (.ofIntact (uint8_ofUInt8 context _) rfl ?_) .nil
    all_goals
      intro read
      simp [only]
  distinct := Kind.nodup_fields .endpoint
  determined first second same := by
    simp only [names_slots, Kind.fields, List.map_cons, List.forall_mem_cons] at same
    simp only [only, same]

end EndpointDescriptor

/-! ## Descriptors -/

namespace Descriptor

def only (descriptor : Descriptor) (kept : String → Bool) : Descriptor :=
  match descriptor with
  | .device d => .device (d.only kept)
  | .configuration d => .configuration (d.only kept)
  | .interface d => .interface (d.only kept)
  | .endpoint d => .endpoint (d.only kept)

def remains (descriptor : Descriptor) (kept : String → Bool) : Except ReadError Descriptor :=
  requiring ("type" :: descriptor.kind.requiredFields) kept (descriptor.only kept)

def taggedMembers (descriptor : Descriptor) : List (String × Json) :=
  ("type", descriptor.kind.toJson) :: descriptor.members

variable {descriptor : Descriptor} {kept : String → Bool} {given : List (String × Json)}

theorem names_members (descriptor : Descriptor) :
    descriptor.members.map (·.1) = descriptor.kind.fields.map (·.1) := by
  cases descriptor <;> rfl

theorem type_not_mem_members (descriptor : Descriptor) :
    "type" ∉ descriptor.members.map (·.1) := by
  rw [names_members]
  exact Kind.type_not_mem_fields _

theorem only_all (descriptor : Descriptor) : (descriptor.only fun _ => true) = descriptor := by
  cases descriptor <;> rfl

theorem remains_all (descriptor : Descriptor) :
    (descriptor.remains fun _ => true) = .ok descriptor := by
  rw [remains, only_all]
  cases descriptor <;> rfl

theorem natural_of_mem_members {member : String × Json} (inside : member ∈ descriptor.members) :
    ∃ n, member.2 = .natural n ∧ n < 0x10000 := by
  have word (value : UInt16) : ∃ n, Json.ofUInt16 value = .natural n ∧ n < 0x10000 :=
    ⟨value.toNat, rfl, value.toNat_lt⟩
  have byte (value : UInt8) : ∃ n, Json.ofUInt8 value = .natural n ∧ n < 0x10000 :=
    ⟨value.toNat, rfl, Nat.lt_trans value.toNat_lt (by decide)⟩
  have all : ∀ member ∈ descriptor.members, ∃ n, member.2 = .natural n ∧ n < 0x10000 := by
    cases descriptor <;>
      simp only [members, DeviceDescriptor.members, ConfigurationDescriptor.members,
        InterfaceDescriptor.members, EndpointDescriptor.members, List.forall_mem_cons, word, byte,
        List.not_mem_nil, IsEmpty.forall_iff, implies_true, and_self]
  exact all member inside

theorem bodyReader_rearranged (rearranged : Rearranged kept descriptor.members given) :
    bodyReader descriptor.kind { origin := .kept } (Draft.ofJson (.object given)) =
      requiring descriptor.kind.requiredFields kept (descriptor.only kept) := by
  cases descriptor with
  | device d =>
    rw [only, ← map_requiring]
    exact congrArg (Except.map device) ((d.depicts _).record_intact enter_kept rearranged _)
  | configuration d =>
    rw [only, ← map_requiring]
    exact congrArg (Except.map configuration) ((d.depicts _).record_intact enter_kept rearranged _)
  | interface d =>
    rw [only, ← map_requiring]
    exact congrArg (Except.map interface) ((d.depicts _).record_intact enter_kept rearranged _)
  | endpoint d =>
    rw [only, ← map_requiring]
    exact congrArg (Except.map endpoint) ((d.depicts _).record_intact enter_kept rearranged _)

/-- The JSON of a descriptor with members left out, texts under other names added, and all of them
reordered, the kind included. -/
structure Reworking where
  descriptor : Descriptor
  kept : String → Bool
  members : List (String × Json)
  reworked : Json.Reworked kept descriptor.taggedMembers members

namespace Reworking

def json (reworking : Reworking) : Json :=
  .object reworking.members

def result (reworking : Reworking) : Except ReadError Descriptor :=
  reworking.descriptor.remains reworking.kept

def whole (descriptor : Descriptor) : Reworking :=
  ⟨descriptor, fun _ => true, descriptor.taggedMembers, .refl _⟩

theorem result_whole (descriptor : Descriptor) : (whole descriptor).result = .ok descriptor :=
  descriptor.remains_all

theorem plain_or_text (reworking : Reworking) {member : String × Json}
    (inside : member ∈ reworking.members) :
    (∃ n, member.2 = .natural n ∧ n < 0x10000) ∨ ∃ text, member.2 = .string text := by
  rcases reworking.reworked.mem_or_text inside with old | new
  · rcases List.mem_cons.1 old with rfl | field
    · exact .inr ⟨_, rfl⟩
    · exact .inl (natural_of_mem_members field)
  · exact .inr new

theorem plain_json (reworking : Reworking) : reworking.json.Plain := by
  rw [json, Json.Plain, Json.plainMembers_iff]
  intro member inside
  rcases reworking.plain_or_text inside with ⟨n, same, small⟩ | ⟨text, same⟩
  · rw [same]
    constructor <;> omega
  · rw [same]
    trivial

theorem reader_json (reworking : Reworking) (depth : Nat) :
    Descriptor.reader { origin := .text, depth := depth + 1 } (Draft.ofJson reworking.json) =
      reworking.result := by
  obtain ⟨descriptor, kept, given, reworked⟩ := reworking
  have fresh := descriptor.type_not_mem_members
  have distinct : (descriptor.taggedMembers.map (·.1)).Nodup :=
    List.nodup_cons.2 ⟨fresh, names_members descriptor ▸ Kind.nodup_fields _⟩
  have held : ∀ member ∈ given, keep depth (Draft.ofJson member.2) = .ok member.2 := by
    intro member inside
    rcases plain_or_text ⟨descriptor, kept, given, reworked⟩ inside with
      ⟨n, same, _⟩ | ⟨text, same⟩ <;> rw [same] <;> rfl
  rw [result, remains, requiring_cons,
    ← bodyReader_rearranged (reworked.rearranged.tail fresh)]
  exact tagged_eq (enter_text depth) descriptor.kind.caseOf_name distinct reworked.rearranged held
    "Descriptor"

end Reworking

end Descriptor

/-! ## Defective descriptors -/

structure Kind.Admits (kind : Kind) (members : List (String × Json)) : Prop where
  complete : ∀ name ∈ kind.requiredFields, ∃ value, (name, value) ∈ members
  fitting : ∀ field ∈ kind.fields, ∀ value, (field.1, value) ∈ members →
    ∃ n, value = .integer n ∧ 0 ≤ n ∧ n ≤ field.2

theorem Draft.eq_number_of_ofJson {value : Json} {number : Option Json.Number}
    (same : ofJson value = .number number) : ∃ n, number = some n ∧ value = .number n := by
  cases value with
  | number n =>
    cases same
    exact ⟨n, rfl, rfl⟩
  | _ => cases same

namespace Kind.Slots

variable {α : Type} {kind : Kind} {slots : List (Slot α)}

theorem names (ofKind : kind.Slots slots) : slots.map (·.name) = kind.fields.map (·.1) := by
  have named := ofKind.bounded.imp fun _ _ both => both.1
  rw [← List.forall₂_eq_eq_eq]
  exact List.forall₂_map_left_iff.2 (List.forall₂_map_right_iff.2 named)

theorem exists_slot (ofKind : kind.Slots slots) {field : String × Int}
    (known : field ∈ kind.fields) :
    ∃ slot ∈ slots, slot.name = field.1 ∧ slot.BoundedBy field.2 := by
  have bounded := ofKind.bounded
  clear ofKind
  generalize kind.fields = fields at bounded known
  induction bounded with
  | nil => cases known
  | cons here _ ih =>
    rcases List.mem_cons.1 known with rfl | later
    · exact ⟨_, List.mem_cons_self, here⟩
    · obtain ⟨slot, inside, bounded⟩ := ih later
      exact ⟨slot, List.mem_cons_of_mem _ inside, bounded⟩

theorem admits (ofKind : kind.Slots slots) {title : String} {start result : α}
    {members : List (String × Json)}
    (taken : record title slots start { origin := .kept } (Draft.ofJson (.object members)) =
      .ok result) : kind.Admits members := by
  obtain ⟨context, entered, fills⟩ := record_reads taken
  cases entered
  constructor
  · intro name needed
    rw [← ofKind.needed] at needed
    obtain ⟨slot, inside, rfl⟩ := List.mem_map.1 needed
    obtain ⟨inside, needed⟩ := List.mem_filter.1 inside
    rcases fills.complete slot inside needed with before | there
    · cases before
    · exact exists_mem_of_named there
  · intro field known value inside
    obtain ⟨slot, there, named, bounded⟩ := ofKind.exists_slot known
    have distinct : (slots.map (·.name)).Nodup := ofKind.names ▸ kind.nodup_fields
    have found := find?_of_distinct distinct there
    rw [named] at found
    obtain ⟨before, after, filled⟩ := fills.filled _ _ slot (mem_ofMembers inside) found
    obtain ⟨n, same, least, greatest⟩ := bounded _ _ _ _ filled
    obtain ⟨number, is, rfl⟩ := Draft.eq_number_of_ofJson same
    cases is
    exact ⟨n, rfl, least, greatest⟩

end Kind.Slots

theorem Json.eq_of_keep_integerDraft {value n : Int} {depth : Nat}
    (kept : keep depth (integerDraft value) = .ok (.integer n)) : n = value := by
  unfold integerDraft at kept
  cases read : (Numeral.ofInteger value).value? with
  | none =>
    rw [read] at kept
    cases kept
  | some number =>
    rw [read] at kept
    cases kept
    exact Numeral.value?_ofInteger_eq read

namespace Descriptor

/-- Whether no descriptor can be read from members, whatever else there is: their kind is missing,
or a required field of it, or a field of it has an integer that does not fit. -/
inductive Defective (members : List (Draft × Draft)) : Prop where
  | untagged (missing : ¬Named "type" members)
  | incomplete {kind : Kind} {name : String}
      (tagged : (Draft.ofName "type", .string (some kind.name)) ∈ members)
      (needed : name ∈ kind.requiredFields) (missing : ¬Named name members)
  | unfitting {kind : Kind} {field : String × Int} {value : Int}
      (tagged : (Draft.ofName "type", .string (some kind.name)) ∈ members)
      (known : field ∈ kind.fields)
      (there : (Draft.ofName field.1, Json.integerDraft value) ∈ members)
      (unfit : value < 0 ∨ field.2 < value)

theorem admits_of_bodyReader {kind : Kind} {members : List (String × Json)} {result : Descriptor}
    (taken : bodyReader kind { origin := .kept } (Draft.ofJson (.object members)) = .ok result) :
    kind.Admits members := by
  cases kind with
  | device =>
    obtain ⟨_, read, _⟩ := map_eq_ok.1 taken
    exact DeviceDescriptor.slots_ofKind.admits read
  | configuration =>
    obtain ⟨_, read, _⟩ := map_eq_ok.1 taken
    exact ConfigurationDescriptor.slots_ofKind.admits read
  | interface =>
    obtain ⟨_, read, _⟩ := map_eq_ok.1 taken
    exact InterfaceDescriptor.slots_ofKind.admits read
  | endpoint =>
    obtain ⟨_, read, _⟩ := map_eq_ok.1 taken
    exact EndpointDescriptor.slots_ofKind.admits read

theorem reader_of_defective {members : List (Draft × Draft)} (defective : Defective members)
    (stop : Option Break) (outer : Context) (result : Descriptor) :
    Descriptor.reader outer (.object members stop) ≠ .ok result := by
  intro taken
  obtain ⟨context, case, kept, entered, tag, keeps, body⟩ := tagged_reads taken
  have admits := admits_of_bodyReader body
  -- What was read had to be kept first, and what was kept had to fit its field.
  have is {kind : Kind} (tagged : (Draft.ofName "type", .string (some kind.name)) ∈ members) :
      case = kind := by
    obtain ⟨other, read, found⟩ := keeps.tagged _ tagged
    cases found
    exact Except.ok.inj (read.symm.trans kind.caseOf_name)
  cases defective with
  | untagged missing => exact missing tag
  | incomplete tagged needed missing =>
    cases is tagged
    obtain ⟨value, inside⟩ := admits.complete _ needed
    exact missing (keeps.named _ _ inside)
  | @unfitting kind field value tagged known there unfit =>
    cases is tagged
    have away : field.1 ≠ "type" := by
      intro same
      have named := List.mem_map_of_mem (f := (·.1)) known
      exact Kind.type_not_mem_fields _ (same ▸ named)
    obtain ⟨json, keeps, inside⟩ := keeps.others _ _ there away
    obtain ⟨n, rfl, least, greatest⟩ := admits.fitting field known json inside
    cases Json.eq_of_keep_integerDraft keeps
    omega

end Descriptor

end UsbIdentity
