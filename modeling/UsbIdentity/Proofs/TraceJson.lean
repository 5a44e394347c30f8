import UsbIdentity.Proofs.DescriptorJson
import UsbIdentity.Trace.File

namespace UsbIdentity

open Schema

/-! ## Texts -/

/-- Whether a text is a value in compact or pretty layout or writes it in another one. -/
def Json.WrittenIn (value : Json) (text : String) : Prop :=
  text = value.compact ∨ text = value.pretty ∨ Writes value text.toList

theorem Json.WrittenIn.readText {value : Json} {text : String} (written : value.WrittenIn text)
    (plain : value.Plain) {α : Type} (reader : Reader α) :
    readText reader text = reader { origin := .text } (Draft.ofJson value) := by
  rcases written with rfl | rfl | written
  · exact (writes_compact plain).readText reader
  · exact (writes_pretty plain).readText reader
  · exact written.readText reader

theorem Json.readText_of_refused {α : Type} {reader : Reader α} {text : String}
    (refused : ∀ result, reader { origin := .text } (Document.ofText text).value ≠ .ok result) :
    ∃ e, readText reader text = .error e := by
  cases read : reader { origin := .text } (Document.ofText text).value with
  | ok result => exact absurd read (refused result)
  | error e => exact ⟨e, by simp only [readText, read, bind, Except.bind]⟩

/-! ## Attributes of the device -/

namespace Attributes

def only (attributes : Attributes) (kept : String → Bool) : Attributes where
  name := if kept "name" then attributes.name else ""
  serialNumber := if kept "serial_number" then attributes.serialNumber else ""
  port := if kept "port" then attributes.port else ""

theorem names_slots : slots.map (·.name) = ["name", "serial_number", "port"] :=
  rfl

theorem depicts (attributes : Attributes) (context : Context) :
    Depicts slots context attributes.only (fun _ => false) .malformed attributes.members where
  takes := by
    refine .cons (.ofIntact rfl rfl ?_) <| .cons (.ofIntact rfl rfl ?_) <|
      .cons (.ofIntact rfl rfl ?_) .nil
    all_goals
      intro read
      simp [only]
  distinct := by
    rw [names_slots]
    decide
  determined first second same := by
    simp only [names_slots, List.forall_mem_cons] at same
    simp only [only, same]

structure Reworking where
  attributes : Attributes
  kept : String → Bool
  members : List (String × Json)
  reworked : Json.Reworked kept attributes.members members

namespace Reworking

def json (reworking : Reworking) : Json :=
  .object reworking.members

def result (reworking : Reworking) : Attributes :=
  reworking.attributes.only reworking.kept

def whole (attributes : Attributes) : Reworking :=
  ⟨attributes, fun _ => true, attributes.members, .refl _⟩

theorem plain_json (reworking : Reworking) : reworking.json.Plain := by
  refine reworking.reworked.plain ?_
  simp only [Attributes.members, List.forall_mem_cons]
  exact ⟨trivial, trivial, trivial, List.forall_mem_nil _⟩

theorem reader_json (reworking : Reworking) (depth : Nat) :
    Attributes.reader { origin := .text, depth := depth + 1 } (Draft.ofJson reworking.json) =
      .ok reworking.result :=
  (reworking.attributes.depicts _).record_intact (enter_text depth) reworking.reworked.rearranged
    "DeviceAttributes"

end Reworking

end Attributes

/-! ## Traces -/

namespace Trace

def only (trace : Trace) (kept : String → Bool) : Trace where
  device := if kept "device" then trace.device else {}
  descriptors := if kept "descriptors" then trace.descriptors else []

theorem names_slots : slots.map (·.name) = ["device", "descriptors"] :=
  rfl

theorem depicts {trace : Trace} {context : Context} {device descriptors : Json}
    {faulty : String → Bool} {error : ReadError} (intact : faulty "device" = false)
    (readDevice : Attributes.reader context (Draft.ofJson device) = .ok trace.device)
    (readDescriptors : list Descriptor.reader context (Draft.ofJson descriptors) =
      if faulty "descriptors" then .error error else .ok trace.descriptors) :
    Depicts slots context trace.only faulty error (members device descriptors) where
  takes := by
    refine .cons (.ofIntact readDevice intact ?_) <| .cons (.ofReader readDescriptors ?_) .nil
    all_goals
      intro read
      simp [only]
  distinct := by
    rw [names_slots]
    decide
  determined first second same := by
    simp only [names_slots, List.forall_mem_cons] at same
    simp only [only, same]

theorem reader_rearranged {outer context : Context} {device descriptors : Json}
    {attributes : Attributes} {captured : Except ReadError (List Descriptor)}
    {kept : String → Bool} {given : List (String × Json)} (entered : outer.enter = .ok context)
    (readDevice : Attributes.reader context (Draft.ofJson device) = .ok attributes)
    (readDescriptors : list Descriptor.reader context (Draft.ofJson descriptors) = captured)
    (rearranged : Rearranged kept (members device descriptors) given) :
    reader outer (Draft.ofJson (.object given)) =
      (if kept "descriptors" then captured else .ok []).map fun descriptors =>
        { device := if kept "device" then attributes else {}, descriptors } := by
  have needed : requiredNames slots = [] := rfl
  -- The device is always read. Descriptors that are not read are a faulty field.
  cases captured with
  | ok values =>
    let trace : Trace := { device := attributes, descriptors := values }
    have depicts : Depicts slots context trace.only (fun _ => false) .malformed
        (members device descriptors) := depicts rfl readDevice readDescriptors
    refine (depicts.record_intact entered rearranged "Trace").trans ?_
    rw [needed, requiring_nil, only]
    cases kept "descriptors" <;> rfl
  | error e =>
    let trace : Trace := { device := attributes }
    have depicts : Depicts slots context trace.only (· == "descriptors") e
        (members device descriptors) := depicts rfl readDevice readDescriptors
    refine (depicts.record_eq entered rearranged "Trace").trans ?_
    rw [outcome, names_slots, needed, only]
    cases keep : kept "descriptors" <;> simp [keep, Except.map, trace]

structure Reworking where
  device : Attributes.Reworking
  descriptors : List Descriptor.Reworking
  kept : String → Bool
  members : List (String × Json)
  reworked : Json.Reworked kept
    (Trace.members device.json (.array (descriptors.map (·.json)))) members

namespace Reworking

def json (reworking : Reworking) : Json :=
  .object reworking.members

def captured (reworking : Reworking) : Except ReadError (List Descriptor) :=
  reworking.descriptors.mapM (·.result)

def result (reworking : Reworking) : Except ReadError Trace :=
  (if reworking.kept "descriptors" then reworking.captured else .ok []).map fun descriptors =>
    { device := if reworking.kept "device" then reworking.device.result else {}, descriptors }

def whole (trace : Trace) : Reworking where
  device := .whole trace.device
  descriptors := trace.descriptors.map .whole
  kept _ := true
  members := _
  reworked := .refl _

theorem json_whole (trace : Trace) : (whole trace).json = trace.toJson := by
  have descriptors : (trace.descriptors.map Descriptor.Reworking.whole).map (·.json) =
      trace.descriptors.map Descriptor.toJson := List.map_map
  rw [toJson, ← descriptors]
  rfl

theorem result_whole (trace : Trace) : (whole trace).result = .ok trace := by
  have captured : (whole trace).captured = .ok trace.descriptors := by
    rw [captured, whole, List.mapM_map, Function.comp_def]
    simp only [Descriptor.Reworking.result_whole]
    exact mapM_ok trace.descriptors
  rw [result, captured]
  rfl

theorem plain_json (reworking : Reworking) : reworking.json.Plain := by
  refine reworking.reworked.plain ?_
  have descriptors : (Json.array (reworking.descriptors.map (·.json))).Plain := by
    rw [Json.Plain, Json.plainItems_iff]
    intro item inside
    obtain ⟨descriptor, _, rfl⟩ := List.mem_map.1 inside
    exact descriptor.plain_json
  simp only [Trace.members, List.forall_mem_cons]
  exact ⟨reworking.device.plain_json, descriptors, List.forall_mem_nil _⟩

theorem reader_json (reworking : Reworking) (depth : Nat) :
    Trace.reader { origin := .text, depth := depth + 3 } (Draft.ofJson reworking.json) =
      reworking.result := by
  obtain ⟨device, descriptors, kept, given, reworked⟩ := reworking
  have readDevice := device.reader_json (depth + 1)
  have readList : list Descriptor.reader { origin := .text, depth := depth + 2 }
      (Draft.ofJson (.array (descriptors.map (·.json)))) = descriptors.mapM (·.result) :=
    list_mapM (enter_text (depth + 1)) fun descriptor _ => descriptor.reader_json depth
  exact reader_rearranged (enter_text (depth + 2)) readDevice readList reworked.rearranged

end Reworking

/-! ## Defective traces -/

/-- Whether one of the descriptors of a trace is defective, whatever else there is. -/
def Defective (members : List (Draft × Draft)) : Prop :=
  ∃ items stop fields broken, (Draft.ofName "descriptors", .array items stop) ∈ members ∧
    .object fields broken ∈ items ∧ Descriptor.Defective fields

theorem reader_of_defective {members : List (Draft × Draft)} (defective : Defective members)
    (stop : Option Break) (outer : Context) (result : Trace) :
    reader outer (.object members stop) ≠ .ok result := by
  intro taken
  obtain ⟨items, closing, fields, broken, listed, one, defective⟩ := defective
  obtain ⟨context, _, fills⟩ := record_reads taken
  obtain ⟨before, after, filled⟩ := fills.filled "descriptors" _ _ listed rfl
  obtain ⟨values, read⟩ := Slot.ofReader_reads filled
  obtain ⟨inner, _, each⟩ := list_reads read
  obtain ⟨descriptor, read⟩ := each _ one
  exact Descriptor.reader_of_defective defective broken inner descriptor read

/-- A text of the JSON of a trace is read back as the trace, and one of reworked JSON as what is
kept of it. A text with a defective descriptor among its descriptors is not read at all. Alike for
the texts of single descriptors. -/
theorem json_reads_back_or_fails :
    (∀ (trace : Trace) (text : String), trace.toJson.WrittenIn text → ofText text = .ok trace) ∧
    (∀ (reworking : Reworking) (text : String), reworking.json.WrittenIn text →
      ofText text = reworking.result) ∧
    (∀ (text : String) (members : List (Draft × Draft)) (stop : Option Break),
      (Json.Document.ofText text).value = .object members stop → Defective members →
      ∃ e, ofText text = .error e) ∧
    (∀ (reworking : Descriptor.Reworking) (text : String), reworking.json.WrittenIn text →
      Json.readText Descriptor.reader text = reworking.result) ∧
    ∀ (text : String) (members : List (Draft × Draft)) (stop : Option Break),
      (Json.Document.ofText text).value = .object members stop → Descriptor.Defective members →
      ∃ e, Json.readText Descriptor.reader text = .error e := by
  have reworked (reworking : Reworking) (text : String) (written : reworking.json.WrittenIn text) :
      ofText text = reworking.result :=
    (written.readText reworking.plain_json reader).trans (reworking.reader_json 124)
  refine ⟨?_, reworked, ?_, ?_, ?_⟩
  · intro trace text written
    rw [← Reworking.json_whole] at written
    rw [reworked _ _ written, Reworking.result_whole]
  · intro text members stop document defective
    refine Json.readText_of_refused fun result => ?_
    rw [document]
    exact reader_of_defective defective stop _ result
  · intro reworking text written
    exact (written.readText reworking.plain_json _).trans (reworking.reader_json 126)
  · intro text members stop document defective
    refine Json.readText_of_refused fun result => ?_
    rw [document]
    exact Descriptor.reader_of_defective defective stop _ result

def shuffled : Reworking where
  device := .whole {}
  descriptors :=
    [{ descriptor := .configuration { maxPower := 50 }
       kept := fun name => name == "type" || name == "max_power"
       members :=
        [("max_power", .natural 50), ("note", .string "bus"), ("type", .string "configuration")]
       reworked :=
        ⟨[("note", "bus")], by decide, (List.Perm.swap _ _ _).cons _ |>.trans (.swap _ _ _)⟩ }]
  kept name := name == "descriptors"
  members := _
  reworked := ⟨[], nofun, .refl _⟩

def overflowing : Json :=
  .object [("descriptors", .array [.object
    [("type", .string "endpoint"), ("address", .natural 256)]])]

theorem shuffled_configuration_is_read :
    ofText shuffled.json.compact = .ok { descriptors := [.configuration { maxPower := 50 }] } ∧
      ∃ e, ofText overflowing.compact = .error e := by
  obtain ⟨_, reworked, fails, _⟩ := json_reads_back_or_fails
  refine ⟨(reworked shuffled _ (.inl rfl)).trans rfl, ?_⟩
  have fits : Json.Fits 256 := ⟨by decide, by decide⟩
  have plain : overflowing.Plain := by
    simp [overflowing, Json.natural, Json.Plain, Json.PlainMembers, Json.PlainItems, fits]
  have document := congrArg Json.Document.value (Json.writes_compact plain).ofText
  have address : ("address", 0xff) ∈ Kind.endpoint.fields := List.mem_cons_self
  have defective : Descriptor.Defective [(.ofName "type", .string (some "endpoint")),
      (.ofName "address", Json.integerDraft 256)] :=
    .unfitting List.mem_cons_self address (List.mem_cons_of_mem _ List.mem_cons_self)
      (.inr (by decide))
  rw [fits.integerDraft_eq] at defective
  exact fails _ _ _ document ⟨_, _, _, _, List.mem_cons_self, List.mem_cons_self, defective⟩

end Trace

end UsbIdentity