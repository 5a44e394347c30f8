import UsbIdentity.Proofs.Delimiting
import UsbIdentity.Proofs.SchemaRecords
import UsbIdentity.Rule.Schema

namespace UsbIdentity

open Schema

/-! ## Readers of single values -/

namespace Schema

theorem enter_text (depth : Nat) :
    Context.enter { origin := .text, depth := depth + 1 } = .ok { origin := .text, depth } :=
  rfl

theorem mapM_ok {α : Type} (values : List α) :
    (values.mapM fun value => (.ok value : Except ReadError α)) = .ok values :=
  (List.mapM_pure (f := id)).trans (congrArg _ values.map_id)

theorem list_mapM {α β : Type} {item : Reader α} {outer context : Context}
    (entered : outer.enter = .ok context) {json : β → Json} {result : β → Except ReadError α}
    {values : List β}
    (reads : ∀ value ∈ values, item context (Draft.ofJson (json value)) = result value) :
    list item outer (Draft.ofJson (.array (values.map json))) = values.mapM result := by
  have read : readItems item context (Draft.ofItems (values.map json)) = values.mapM result := by
    induction values with
    | nil => rfl
    | cons value values ih =>
      obtain ⟨first, others⟩ := List.forall_mem_cons.1 reads
      rw [List.map_cons, Draft.ofItems, readItems, first, ih others, List.mapM_cons]
      rfl
  simp only [Draft.ofJson, list, entered, bind, Except.bind, read, closed]
  cases values.mapM result <;> rfl

theorem list_map {α : Type} {item : Reader α} {outer context : Context}
    (entered : outer.enter = .ok context) {json : α → Json} {values : List α}
    (reads : ∀ value ∈ values, item context (Draft.ofJson (json value)) = .ok value) :
    list item outer (Draft.ofJson (.array (values.map json))) = .ok values := by
  rw [list_mapM entered reads, mapM_ok]

theorem integerBetween_integer {least greatest value : Int} (low : least ≤ value)
    (high : value ≤ greatest) (expected : String) (context : Context) :
    integerBetween least greatest expected context (Draft.ofJson (.integer value)) = .ok value := by
  rw [Json.integer, Draft.ofJson, integerBetween, if_pos ⟨low, high⟩]

theorem unsigned_natural {β : Type} (ofNat : Nat → β) {greatest : Int} {n : Nat}
    (fits : n ≤ greatest) (expected : String) (context : Context) :
    (integerBetween 0 greatest expected context (Draft.ofJson (.natural n))).map
      (fun value => ofNat value.toNat) = .ok (ofNat n) := by
  rw [Json.natural, ← Json.integer, integerBetween_integer (Int.natCast_nonneg n) fits, Except.map,
    Int.toNat_natCast]

theorem uint32_natural (context : Context) (value : UInt32) :
    uint32 context (Draft.ofJson (.natural value.toNat)) = .ok value := by
  have bound := value.toNat_lt
  rw [uint32, unsigned_natural UInt32.ofNat (by omega), UInt32.ofNat_toNat]

theorem int32_integer (context : Context) (value : Int32) :
    int32 context (Draft.ofJson (.integer value.toInt)) = .ok value := by
  have low := value.le_toInt
  have high := value.toInt_lt
  rw [int32, integerBetween_integer (by omega) (by omega), Except.map, Int32.ofInt_toInt]

end Schema

theorem Target.reader_toJson (context : Context) (target : Target) :
    Target.reader context (Draft.ofJson target.toJson) = .ok target := by
  cases target <;> rfl

theorem SetOperator.reader_toJson (context : Context) (operator : SetOperator) :
    SetOperator.reader context (Draft.ofJson operator.toJson) = .ok operator := by
  cases operator <;> rfl

theorem InterfaceType.Proper.reader_toJson {type : InterfaceType} (proper : type.Proper)
    (context : Context) : InterfaceType.reader context (Draft.ofJson type.toJson) = .ok type := by
  have read := proper.ofText_text
  simp [InterfaceType.reader, InterfaceType.toJson, Draft.ofJson, string, bind, Except.bind, read]

/-! ## Sets -/

namespace RuleSet

variable {α : Type}

def only (set : RuleSet α) (kept : String → Bool) : RuleSet α where
  operator := if kept "operator" then set.operator else .equals
  values := if kept "values" then set.values else []

theorem names_slots (value : Reader α) :
    (slots value).map (·.name) = ["operator", "values"] :=
  rfl

variable {value : Reader α} {json : α → Json} {set : RuleSet α} {outer context inner : Context}

theorem depicts (further : context.enter = .ok inner)
    (reads : ∀ v ∈ set.values, value inner (Draft.ofJson (json v)) = .ok v) (error : ReadError) :
    Depicts (slots value) context set.only (fun _ => false) error (set.members json) where
  takes := by
    refine .cons (.ofIntact (set.operator.reader_toJson context) rfl ?_) <|
      .cons (.ofIntact (list_map further reads) rfl ?_) .nil
    all_goals
      intro read
      simp [only]
  distinct := by
    rw [names_slots]
    decide
  determined first second same := by
    simp only [names_slots, List.forall_mem_cons] at same
    simp only [only, same]

theorem reader_reworked (entered : outer.enter = .ok context) (further : context.enter = .ok inner)
    (reads : ∀ v ∈ set.values, value inner (Draft.ofJson (json v)) = .ok v)
    {kept : String → Bool} {given : List (String × Json)}
    (reworked : Json.Reworked kept (set.members json) given) :
    reader value outer (Draft.ofJson (.object given)) =
      if !kept "operator" then .error (.mismatch (.missingField "operator"))
      else .ok (set.only kept) := by
  have read := (depicts further reads .malformed).record_eq entered reworked.rearranged "RuleSet"
  have result : outcome (slots value) set.only (fun _ => false) .malformed kept =
      if !kept "operator" then .error (.mismatch (.missingField "operator"))
      else .ok (set.only kept) := by
    have needed : requiredNames (slots value) = ["operator"] := rfl
    rw [outcome, names_slots, needed]
    cases keep : kept "operator" <;> simp [keep]
  rw [← result]
  exact read

theorem plain_members (plain : ∀ v, (json v).Plain) :
    ∀ member ∈ set.members json, member.2.Plain := by
  have values : (Json.array (set.values.map json)).Plain := by
    rw [Json.Plain, Json.plainItems_iff]
    intro item inside
    obtain ⟨v, _, rfl⟩ := List.mem_map.1 inside
    exact plain v
  simp only [members, List.forall_mem_cons]
  exact ⟨trivial, values, List.forall_mem_nil _⟩

end RuleSet

/-! ## Rules -/

namespace Rule

/-- Which attributes of a rule are kept, and which members of its two sets. -/
structure Keeping where
  attributes : String → Bool
  ofPorts : String → Bool
  ofTypes : String → Bool

namespace Keeping

def all : Keeping :=
  ⟨fun _ => true, fun _ => true, fun _ => true⟩

def faulty (keeping : Keeping) (name : String) : Bool :=
  name == "device_ports" && !keeping.ofPorts "operator" ||
    name == "interface_types" && !keeping.ofTypes "operator"

/-- The first name that is missed. The operator of a set that is there is missed at once, the id and
the target only at the end of the rule. -/
def missing? (keeping : Keeping) : Option String :=
  if ["device_ports", "interface_types"].any fun name =>
      keeping.attributes name && keeping.faulty name then some "operator"
  else ["id", "target"].find? fun name => !keeping.attributes name

end Keeping

def only (rule : Rule) (kept : String → Bool) : Rule where
  id := if kept "id" then rule.id else defaultId
  target := if kept "target" then rule.target else .unknown
  vendorId := if kept "vendor_id" then rule.vendorId else ""
  productId := if kept "product_id" then rule.productId else ""
  serialNumber := if kept "serial_number" then rule.serialNumber else ""
  deviceName := if kept "device_name" then rule.deviceName else ""
  deviceHash := if kept "device_hash" then rule.deviceHash else ""
  devicePorts := if kept "device_ports" then rule.devicePorts else .equals []
  interfaceTypes := if kept "interface_types" then rule.interfaceTypes else .equals []
  configurationCount := if kept "device_configurations" then rule.configurationCount else -1

def narrowSets (rule : Rule) (keeping : Keeping) : Rule :=
  { rule with
    devicePorts := rule.devicePorts.only keeping.ofPorts
    interfaceTypes := rule.interfaceTypes.only keeping.ofTypes }

def keep (rule : Rule) (keeping : Keeping) : Rule :=
  (rule.narrowSets keeping).only keeping.attributes

def remains (rule : Rule) (keeping : Keeping) : Except ReadError Rule :=
  match keeping.missing? with
  | some name => .error (.mismatch (.missingField name))
  | none => .ok (rule.keep keeping)

/-- Whether a value is the JSON of a rule with members of its three objects left out, added and
reordered. -/
def Reworked (rule : Rule) (keeping : Keeping) (json : Json) : Prop :=
  ∃ ports types given,
    Json.Reworked keeping.ofPorts (rule.devicePorts.members .string) ports ∧
    Json.Reworked keeping.ofTypes (rule.interfaceTypes.members InterfaceType.toJson) types ∧
    Json.Reworked keeping.attributes (rule.membersWith (.object ports) (.object types)) given ∧
    json = .object given

theorem reworked_toJson (rule : Rule) : rule.Reworked .all rule.toJson :=
  ⟨_, _, _, .refl _, .refl _, .refl _, rfl⟩

theorem remains_all (rule : Rule) : rule.remains .all = .ok rule :=
  rfl

theorem names_slots : slots.map (·.name) =
    ["id", "target", "vendor_id", "product_id", "serial_number", "device_name", "device_hash",
      "device_ports", "interface_types", "device_configurations"] :=
  rfl

variable {rule : Rule} {keeping : Keeping}

theorem depicts {ports types : Json} {context : Context}
    (readPorts : RuleSet.reader string context (Draft.ofJson ports) =
      if !keeping.ofPorts "operator" then .error (.mismatch (.missingField "operator"))
      else .ok (rule.devicePorts.only keeping.ofPorts))
    (readTypes : RuleSet.reader InterfaceType.reader context (Draft.ofJson types) =
      if !keeping.ofTypes "operator" then .error (.mismatch (.missingField "operator"))
      else .ok (rule.interfaceTypes.only keeping.ofTypes)) :
    Depicts slots context (rule.narrowSets keeping).only keeping.faulty
      (.mismatch (.missingField "operator")) (rule.membersWith ports types) where
  takes := by
    refine .cons (.ofIntact (uint32_natural context _) rfl ?_) <|
      .cons (.ofIntact (rule.target.reader_toJson context) rfl ?_) <|
      .cons (.ofIntact rfl rfl ?_) <| .cons (.ofIntact rfl rfl ?_) <|
      .cons (.ofIntact rfl rfl ?_) <| .cons (.ofIntact rfl rfl ?_) <|
      .cons (.ofIntact rfl rfl ?_) <|
      .cons (.ofReader (by simpa [Keeping.faulty] using readPorts) ?_) <|
      .cons (.ofReader (by simpa [Keeping.faulty] using readTypes) ?_) <|
      .cons (.ofIntact (int32_integer context _) rfl ?_) .nil
    all_goals
      intro read
      simp [only, narrowSets]
  distinct := by
    rw [names_slots]
    decide
  determined first second same := by
    simp only [names_slots, List.forall_mem_cons] at same
    simp only [only, same]

theorem outcome_eq :
    outcome slots (rule.narrowSets keeping).only keeping.faulty
        (.mismatch (.missingField "operator")) keeping.attributes = rule.remains keeping := by
  have needed : requiredNames slots = ["id", "target"] := rfl
  have sets :
      ((slots.map (·.name)).any fun name => keeping.attributes name && keeping.faulty name) =
        ["device_ports", "interface_types"].any fun name =>
          keeping.attributes name && keeping.faulty name := by
    simp [names_slots, Keeping.faulty]
  rw [outcome, needed, sets, remains, Keeping.missing?]
  split <;> rfl

theorem reader_reworked (proper : ∀ type ∈ rule.interfaceTypes.values, type.Proper) {json : Json}
    (reworked : rule.Reworked keeping json) (depth : Nat) :
    reader { origin := .text, depth := depth + 3 } (Draft.ofJson json) = rule.remains keeping := by
  obtain ⟨ports, types, given, portsReworked, typesReworked, reworked, rfl⟩ := reworked
  have texts (inner : Context) :
      ∀ port ∈ rule.devicePorts.values, string inner (Draft.ofJson (.string port)) = .ok port :=
    fun _ _ => rfl
  have readPorts := RuleSet.reader_reworked (enter_text (depth + 1)) (enter_text depth) (texts _)
    portsReworked
  have readTypes := RuleSet.reader_reworked (enter_text (depth + 1)) (enter_text depth)
    (fun type inside => (proper type inside).reader_toJson _) typesReworked
  rw [← outcome_eq]
  exact (depicts readPorts readTypes).record_eq (enter_text (depth + 2)) reworked.rearranged "Rule"

theorem Reworked.plain {json : Json} (reworked : rule.Reworked keeping json) : json.Plain := by
  obtain ⟨ports, types, given, portsReworked, typesReworked, reworked, rfl⟩ := reworked
  have id : Json.Fits rule.id.toNat := by
    have bound := rule.id.toNat_lt
    constructor <;> omega
  have count : Json.Fits rule.configurationCount.toInt := by
    have low := rule.configurationCount.le_toInt
    have high := rule.configurationCount.toInt_lt
    constructor <;> omega
  have portsPlain := portsReworked.plain (RuleSet.plain_members fun _ => trivial)
  have typesPlain := typesReworked.plain (RuleSet.plain_members fun _ => trivial)
  refine reworked.plain ?_
  simp only [membersWith, List.forall_mem_cons]
  exact ⟨id, trivial, trivial, trivial, trivial, trivial, trivial, portsPlain, typesPlain, count,
    List.forall_mem_nil _⟩

theorem readText_of_writes (proper : ∀ type ∈ rule.interfaceTypes.values, type.Proper)
    {json : Json} (reworked : rule.Reworked keeping json) {text : String}
    (written : Json.Writes json text.toList) :
    Json.readText reader text = rule.remains keeping := by
  rw [written.readText]
  exact reader_reworked proper reworked 124

/-- Whatever members are left out, added or reordered, the text of the JSON of a rule is read back
as the rule with what was left out at its default, unless something is missed. -/
theorem json_reworked (proper : ∀ type ∈ rule.interfaceTypes.values, type.Proper) {json : Json}
    (reworked : rule.Reworked keeping json) :
    (∀ text : String, text = json.compact ∨ text = json.pretty ∨ Json.Writes json text.toList →
      Json.readText reader text = rule.remains keeping) ∧
    ∀ text : String, text = rule.toJson.compact ∨ text = rule.toJson.pretty →
      Json.readText reader text = .ok rule := by
  have whole := rule.reworked_toJson
  constructor
  · rintro text (rfl | rfl | written)
    · exact readText_of_writes proper reworked (Json.writes_compact reworked.plain)
    · exact readText_of_writes proper reworked (Json.writes_pretty reworked.plain)
    · exact readText_of_writes proper reworked written
  · rw [← remains_all]
    rintro text (rfl | rfl)
    · exact readText_of_writes proper whole (Json.writes_compact whole.plain)
    · exact readText_of_writes proper whole (Json.writes_pretty whole.plain)

def storage : Rule :=
  { id := 7
    target := .block
    vendorId := "0781"
    deviceName := "Stick \"A\"\n"
    devicePorts := ⟨.oneOf, ["1-2", "1-3"]⟩
    interfaceTypes := .equals [⟨8, 0, 0, InterfaceType.classBit⟩]
    configurationCount := 1 }

def storageKeeping : Keeping where
  attributes := ["id", "target", "device_name", "device_ports", "interface_types"].contains
  ofPorts := ["operator"].contains
  ofTypes _ := true

def storageJson : Json :=
  .object
    [("note", .string "from the back"),
      ("interface_types", .object
        [("values", .array [.string "08:*:*"]), ("operator", .string "equals")]),
      ("device_ports", .object [("note", .string "any"), ("operator", .string "one-of")]),
      ("device_name", .string "Stick \"A\"\n"), ("target", .string "block"), ("id", .natural 7)]

theorem storage_reads_back_from_the_back :
    (∀ type ∈ storage.interfaceTypes.values, type.Proper) ∧
    storage.Reworked storageKeeping storageJson ∧
    Json.readText reader storageJson.compact =
      .ok { storage with vendorId := "", devicePorts := ⟨.oneOf, []⟩, configurationCount := -1 } ∧
    Json.readText reader storage.toJson.pretty = .ok storage := by
  have proper : ∀ type ∈ storage.interfaceTypes.values, type.Proper := by
    intro type inside
    cases List.mem_singleton.1 inside
    exact .inr ⟨"08:*:*", by decide⟩
  have reworked : storage.Reworked storageKeeping storageJson :=
    ⟨_, _, _, ⟨[("note", "any")], by decide, .swap _ _ _⟩, ⟨[], nofun, .swap _ _ _⟩,
      ⟨[("note", "from the back")], by decide, List.reverse_perm _⟩, rfl⟩
  obtain ⟨read, whole⟩ := json_reworked proper reworked
  exact ⟨proper, reworked, read _ (.inl rfl), whole _ (.inr rfl)⟩

end Rule

end UsbIdentity
