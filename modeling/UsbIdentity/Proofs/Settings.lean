import Mathlib
import UsbIdentity.Proofs.CommandLine
import UsbIdentity.Proofs.SchemaRecords
import UsbIdentity.Proofs.SchemaRefusals

/-!
# What a settings file sets

A settings file replaces the settings that it names. All others keep their default, whether their
key or their whole table is missing, and neither the order of tables and keys nor unknown ones
matter. So a file that sets every default is as good as none.
-/

namespace UsbIdentity

open Schema

/-! ## Tables as data -/

namespace Toml

mutual

def json : Toml → Json
  | .boolean value => .boolean value
  | .integer value => .integer value
  | .float value => .number (.float value)
  | .string value => .string value
  | .moment => .object [("date", .null), ("time", .null)]
  | .array items => .array (itemJsons items)
  | .table entries => .object (entryJsons entries)

def itemJsons : List Toml → List Json
  | [] => []
  | item :: items => json item :: itemJsons items

def entryJsons : List (String × Toml) → List (String × Json)
  | [] => []
  | (key, value) :: entries => (key, json value) :: entryJsons entries

end

mutual

theorem draft_eq : ∀ value : Toml, value.draft = Draft.ofJson value.json
  | .boolean _ => rfl
  | .integer _ => rfl
  | .float _ => rfl
  | .string _ => rfl
  | .moment => rfl
  | .array items => by rw [draft, json, Draft.ofJson, itemDrafts_eq items]
  | .table entries => by rw [draft, json, Draft.ofJson, entryDrafts_eq entries]

theorem itemDrafts_eq : ∀ items, itemDrafts items = Draft.ofItems (itemJsons items)
  | [] => rfl
  | item :: items => by
    rw [itemDrafts, itemJsons, Draft.ofItems, draft_eq item, itemDrafts_eq items]

theorem entryDrafts_eq : ∀ entries, entryDrafts entries = Draft.ofMembers (entryJsons entries)
  | [] => rfl
  | (_, value) :: entries => by
    rw [entryDrafts, entryJsons, Draft.ofMembers, draft_eq value, entryDrafts_eq entries]

end

theorem entryJsons_eq (entries : List (String × Toml)) :
    entryJsons entries = entries.map fun entry => (entry.1, entry.2.json) := by
  induction entries with
  | nil => rfl
  | cons entry entries ih => rw [List.map_cons, entryJsons, ih]

theorem mem_entryDrafts {entries : List (String × Toml)} {key : String} {value : Toml}
    (inside : (key, value) ∈ entries) : (Draft.ofName key, value.draft) ∈ entryDrafts entries := by
  have there := List.mem_map_of_mem (f := fun entry => (entry.1, entry.2.json)) inside
  rw [← entryJsons_eq] at there
  rw [entryDrafts_eq, draft_eq]
  exact mem_ofMembers there

end Toml

/-! ## Readers of single values -/

abbrev Schema.settings : Context :=
  { origin := .settings }

theorem Schema.size_natural (context : Context) (value : UInt64) :
    size context (Draft.ofJson (.natural value.toNat)) = .ok value := by
  have bound := value.toNat_lt
  rw [size, unsigned_natural UInt64.ofNat (by omega), UInt64.ofNat_toNat]

theorem OutputFormat.reader_name (format : OutputFormat) :
    OutputFormat.reader settings (Draft.ofJson (.string format.name)) = .ok format := by
  cases format <;> rfl

theorem Schema.Depicts.record_table {α : Type} {slots : List (Slot α)}
    {view : (String → Bool) → α} {members given : List (String × Toml)} {kept : String → Bool}
    (depicts : Depicts slots settings view (fun _ => false) .malformed
      (members.map fun entry => (entry.1, entry.2.json)))
    (optional : requiredNames slots = []) (rearranged : Rearranged kept members given)
    (title : String) :
    record title slots (view fun _ => false) settings (Toml.table given).draft =
      .ok (view kept) := by
  have entered : settings.enter = .ok settings := rfl
  have read := depicts.record_intact entered (rearranged.map Toml.json) title
  rw [optional, requiring_nil, ← Toml.entryJsons_eq] at read
  rw [Toml.draft_eq]
  exact read

/-! ## Settings -/

namespace Limits

def entries (limits : Limits) : List (String × Toml) :=
  limits.members.map fun entry => (entry.1, .integer entry.2.toNat)

def only (limits : Limits) (chosen : String → Bool) : Limits where
  genericString := (if chosen "generic_string" then limits else {}).genericString
  vendorId := (if chosen "vendor_id" then limits else {}).vendorId
  productId := (if chosen "product_id" then limits else {}).productId
  port := (if chosen "port" then limits else {}).port

theorem names_slots : slots.map (·.name) = ["generic_string", "vendor_id", "product_id", "port"] :=
  rfl

theorem depicts (limits : Limits) :
    Depicts slots settings limits.only (fun _ => false) .malformed
      (limits.entries.map fun entry => (entry.1, entry.2.json)) where
  takes := by
    refine .cons (.ofIntact (size_natural settings _) rfl ?_) <|
      .cons (.ofIntact (size_natural settings _) rfl ?_) <|
      .cons (.ofIntact (size_natural settings _) rfl ?_) <|
      .cons (.ofIntact (size_natural settings _) rfl ?_) .nil
    all_goals
      intro read
      simp [only]
  distinct := by
    rw [names_slots]
    decide
  determined first second same := by
    simp only [names_slots, List.forall_mem_cons] at same
    simp only [only, same]

theorem reader_table {limits : Limits} {chosen : String → Bool} {given : List (String × Toml)}
    (rearranged : Rearranged chosen limits.entries given) :
    reader settings (Toml.table given).draft = .ok (limits.only chosen) :=
  limits.depicts.record_table rfl rearranged "FieldLimits"

end Limits

namespace RuleSettings

def entries (rules : RuleSettings) : List (String × Toml) :=
  [("include_port", .boolean rules.includePort), ("format", .string rules.format.name)]

def only (rules : RuleSettings) (chosen : String → Bool) : RuleSettings where
  includePort := (if chosen "include_port" then rules else {}).includePort
  format := (if chosen "format" then rules else {}).format

theorem names_slots : slots.map (·.name) = ["include_port", "format"] :=
  rfl

theorem depicts (rules : RuleSettings) :
    Depicts slots settings rules.only (fun _ => false) .malformed
      (rules.entries.map fun entry => (entry.1, entry.2.json)) where
  takes := by
    refine .cons (.ofIntact rfl rfl ?_) <|
      .cons (.ofIntact rules.format.reader_name rfl ?_) .nil
    all_goals
      intro read
      simp [only]
  distinct := by
    rw [names_slots]
    decide
  determined first second same := by
    simp only [names_slots, List.forall_mem_cons] at same
    simp only [only, same]

theorem reader_table {rules : RuleSettings} {chosen : String → Bool}
    {given : List (String × Toml)} (rearranged : Rearranged chosen rules.entries given) :
    reader settings (Toml.table given).draft = .ok (rules.only chosen) :=
  rules.depicts.record_table rfl rearranged "RulesConfig"

end RuleSettings

namespace LogSettings

def entries (logging : LogSettings) : List (String × Toml) :=
  [("level", .string logging.level)]

def only (logging : LogSettings) (chosen : String → Bool) : LogSettings where
  level := (if chosen "level" then logging else {}).level

theorem names_slots : slots.map (·.name) = ["level"] :=
  rfl

theorem depicts (logging : LogSettings) :
    Depicts slots settings logging.only (fun _ => false) .malformed
      (logging.entries.map fun entry => (entry.1, entry.2.json)) where
  takes := .cons (.ofIntact rfl rfl fun read => by simp [only]) .nil
  distinct := by
    rw [names_slots]
    decide
  determined first second same := by
    simp only [names_slots, List.forall_mem_cons] at same
    simp only [only, same]

theorem reader_table {logging : LogSettings} {chosen : String → Bool}
    {given : List (String × Toml)} (rearranged : Rearranged chosen logging.entries given) :
    reader settings (Toml.table given).draft = .ok (logging.only chosen) :=
  logging.depicts.record_table rfl rearranged "LoggingConfig"

end LogSettings

namespace Config

def entries (limits rules logging : List (String × Toml)) : List (String × Toml) :=
  [("limits", .table limits), ("rules", .table rules), ("logging", .table logging)]

def within (config : Config) (present : String → Bool) : Config where
  limits := if present "limits" then config.limits else {}
  rules := if present "rules" then config.rules else {}
  logging := if present "logging" then config.logging else {}

def only (config : Config) (chosen : String → String → Bool) : Config where
  limits := config.limits.only (chosen "limits")
  rules := config.rules.only (chosen "rules")
  logging := config.logging.only (chosen "logging")

/-- Whether the entries of a document set just the chosen settings: each stands in its table, and
every table may hold other keys and every document other tables, in any order. -/
def SetBy (config : Config) (chosen : String → String → Bool)
    (document : List (String × Toml)) : Prop :=
  ∃ limits rules logging present,
    (∀ table key, chosen table key = true → present table = true) ∧
    Rearranged (chosen "limits") config.limits.entries limits ∧
    Rearranged (chosen "rules") config.rules.entries rules ∧
    Rearranged (chosen "logging") config.logging.entries logging ∧
    Rearranged present (entries limits rules logging) document

theorem names_slots : slots.map (·.name) = ["limits", "rules", "logging"] :=
  rfl

theorem depicts {config : Config} {limits rules logging : List (String × Toml)}
    (readLimits : Limits.reader settings (Toml.table limits).draft = .ok config.limits)
    (readRules : RuleSettings.reader settings (Toml.table rules).draft = .ok config.rules)
    (readLogging : LogSettings.reader settings (Toml.table logging).draft = .ok config.logging) :
    Depicts slots settings config.within (fun _ => false) .malformed
      ((entries limits rules logging).map fun entry => (entry.1, entry.2.json)) where
  takes := by
    rw [Toml.draft_eq] at readLimits readRules readLogging
    refine .cons (.ofIntact readLimits rfl ?_) <| .cons (.ofIntact readRules rfl ?_) <|
      .cons (.ofIntact readLogging rfl ?_) .nil
    all_goals
      intro read
      simp [within]
  distinct := by
    rw [names_slots]
    decide
  determined first second same := by
    simp only [names_slots, List.forall_mem_cons] at same
    simp only [within, same]

theorem within_only {config : Config} {chosen : String → String → Bool} {present : String → Bool}
    (there : ∀ table key, chosen table key = true → present table = true) :
    (config.only chosen).within present = config.only chosen := by
  have nothing {table : String} (missing : ¬present table = true) :
      chosen table = fun _ => false := by
    funext key
    exact Bool.eq_false_iff.2 fun set => missing (there table key set)
  have limits : (if present "limits" then config.limits.only (chosen "limits") else {}) =
      config.limits.only (chosen "limits") := by
    split
    · rfl
    · next missing => rw [nothing missing]; rfl
  have rules : (if present "rules" then config.rules.only (chosen "rules") else {}) =
      config.rules.only (chosen "rules") := by
    split
    · rfl
    · next missing => rw [nothing missing]; rfl
  have logging : (if present "logging" then config.logging.only (chosen "logging") else {}) =
      config.logging.only (chosen "logging") := by
    split
    · rfl
    · next missing => rw [nothing missing]; rfl
  simp only [within, only, limits, rules, logging]

theorem reader_table {config : Config} {chosen : String → String → Bool}
    {document : List (String × Toml)} (sets : config.SetBy chosen document) :
    reader settings (Toml.table document).draft = .ok (config.only chosen) := by
  obtain ⟨limits, rules, logging, present, there, ofLimits, ofRules, ofLogging, whole⟩ := sets
  have depicts : Depicts slots settings (config.only chosen).within (fun _ => false) .malformed
      ((entries limits rules logging).map fun entry => (entry.1, entry.2.json)) :=
    depicts (Limits.reader_table ofLimits) (RuleSettings.reader_table ofRules)
      (LogSettings.reader_table ofLogging)
  rw [← within_only there]
  exact depicts.record_table rfl whole "Config"

/-! ## Values that spoil a file -/

/-- Whether a document has a negative bound or a format that is none, whatever else it has. -/
inductive Spoils (document : List (String × Toml)) : Prop where
  | bound {limits : List (String × Toml)} {key : String} {value : Int}
      (table : ("limits", .table limits) ∈ document) (known : key ∈ Limits.slots.map (·.name))
      (entry : (key, .integer value) ∈ limits) (negative : value < 0)
  | format {rules : List (String × Toml)} {name : String}
      (table : ("rules", .table rules) ∈ document) (entry : ("format", .string name) ∈ rules)
      (unknown : name ∉ OutputFormat.all.map (·.name))

theorem fills_of_table {α : Type} {title : String} {slots : List (Slot α)} {start result : α}
    {entries : List (String × Toml)}
    (taken : record title slots start settings (Toml.table entries).draft = .ok result) :
    Fills slots settings (Toml.entryDrafts entries) [] := by
  rw [Toml.draft] at taken
  obtain ⟨context, entered, fills⟩ := record_reads taken
  cases entered
  exact fills

theorem fill_of_entry {α : Type} {slots : List (Slot α)} {entries : List (String × Toml)}
    {key : String} {value : Toml} {slot : Slot α}
    (fills : Fills slots settings (Toml.entryDrafts entries) []) (entry : (key, value) ∈ entries)
    (found : slots.find? (·.name = key) = some slot) :
    ∃ before after, slot.fill settings value.draft before = .ok after :=
  fills.filled key _ slot (Toml.mem_entryDrafts entry) found

theorem nonnegative_of_reads {limits : List (String × Toml)} {key : String} {value : Int}
    {result : Limits} (taken : Limits.reader settings (Toml.table limits).draft = .ok result)
    (known : key ∈ Limits.slots.map (·.name)) (entry : (key, .integer value) ∈ limits) :
    0 ≤ value := by
  have fills : Fills Limits.slots settings (Toml.entryDrafts limits) [] := fills_of_table taken
  have sized {set : UInt64 → Limits → Limits}
      (found : Limits.slots.find? (·.name = key) = some (optional key size set)) : 0 ≤ value := by
    obtain ⟨before, after, filled⟩ := fill_of_entry fills entry found
    obtain ⟨number, same, least, _⟩ := boundedBy_unsigned UInt64.ofNat set _ _ _ _ filled
    cases same
    exact least
  simp only [Limits.names_slots, List.mem_cons, List.not_mem_nil, or_false] at known
  rcases known with rfl | rfl | rfl | rfl <;> exact sized rfl

theorem known_of_reads {rules : List (String × Toml)} {name : String} {result : RuleSettings}
    (taken : RuleSettings.reader settings (Toml.table rules).draft = .ok result)
    (entry : ("format", .string name) ∈ rules) : name ∈ OutputFormat.all.map (·.name) := by
  have fills : Fills RuleSettings.slots settings (Toml.entryDrafts rules) [] := fills_of_table taken
  obtain ⟨before, after, filled⟩ := fill_of_entry fills entry rfl
  obtain ⟨format, read⟩ := Slot.ofReader_reads filled
  have named := List.mem_map_of_mem (f := (·.1)) (caseNamed_reads read)
  rwa [List.map_map] at named

theorem reader_of_spoils {document : List (String × Toml)} (spoils : Spoils document)
    (config : Config) : reader settings (Toml.table document).draft ≠ .ok config := by
  intro taken
  have fills : Fills slots settings (Toml.entryDrafts document) [] := fills_of_table taken
  cases spoils with
  | bound table known entry negative =>
    obtain ⟨before, after, filled⟩ := fill_of_entry fills table rfl
    obtain ⟨limits, read⟩ := Slot.ofReader_reads filled
    exact absurd (nonnegative_of_reads read known entry) (by omega)
  | format table entry unknown =>
    obtain ⟨before, after, filled⟩ := fill_of_entry fills table rfl
    obtain ⟨rules, read⟩ := Slot.ofReader_reads filled
    exact unknown (known_of_reads read entry)

/-! ## Files -/

def Stands (files : Files) (path : String) (document : List (String × Toml)) : Prop :=
  ∃ text, files.readText path = .ok text ∧ Toml.ofText? text = some (.table document)

variable {files : Files} {path : String} {document : List (String × Toml)}

theorem load_of_setBy {config : Config} {chosen : String → String → Bool}
    (stands : Stands files path document) (sets : config.SetBy chosen document) :
    load files path = .ok (config.only chosen) := by
  obtain ⟨text, there, denotes⟩ := stands
  exact load_eq_ok_iff.2 (.document there denotes (reader_table sets))

theorem load_of_spoils (stands : Stands files path document) (spoils : Spoils document) :
    ∃ e, load files path = .error (.unparsable e) := by
  obtain ⟨text, there, denotes⟩ := stands
  have present := files.isPresent_of_readText there
  cases read : reader settings (Toml.table document).draft with
  | ok config => exact absurd read (reader_of_spoils spoils config)
  | error e => exact ⟨e, by simp only [load, present, if_true, there, ofDocument, denotes, read]⟩

theorem load_of_defaults (there : files.readText path = .ok (Config.document {})) :
    load files path = .ok {} := by
  -- The document is one fixed text, so that it reads back can be computed.
  have back : ofDocument (Config.document {}) = .ok {} := by decide +kernel
  have present := files.isPresent_of_readText there
  simp only [load, present, if_true, there, back]

end Config

/-! ## Runs with the file of default settings -/

namespace Cli

/-- Whether a view of the files differs from another one at most by having a text where the other
has nothing. -/
structure Gains (bare saved : Files) (text : String) : Prop where
  reads : ∀ path,
    saved.isPresent path = bare.isPresent path ∧ saved.readText path = bare.readText path ∨
      bare.isPresent path = false ∧ saved.readText path = .ok text
  writable : saved.writable = bare.writable

variable {bare saved : Files} {path : String}

theorem written_eq {file text : String} {arguments : List String}
    (written : (run bare arguments).written = some (file, text)) : text = Config.document {} := by
  cases asked : Invocation.ofArguments arguments with
  | replay path options =>
    rw [(run_ends asked).1] at written
    cases written
  | writeDefaults path =>
    rw [run, asked, perform, writeDefaults] at written
    split at written <;> cases written
    rfl
  | help =>
    rw [run, asked] at written
    cases written
  | version =>
    rw [run, asked] at written
    cases written
  | misuse =>
    rw [run, asked] at written
    cases written

theorem load_of_gains (gains : Gains bare saved (Config.document {})) (path : String) :
    Config.load saved path = Config.load bare path := by
  rcases gains.reads path with ⟨present, same⟩ | ⟨absent, there⟩
  · rw [Config.load, Config.load, present, same]
  · rw [Config.load_of_defaults there, Config.load_eq_ok_iff.2 (.nothing absent)]

theorem run_of_gains (gains : Gains bare saved (Config.document {})) {arguments : List String}
    (traces : ∀ path options, Invocation.ofArguments arguments = .replay path options →
      saved.readText path = bare.readText path) :
    run saved arguments = run bare arguments := by
  unfold run
  cases asked : Invocation.ofArguments arguments with
  | replay path options =>
    have capture : Trace.load saved path = Trace.load bare path := by
      rw [Trace.load, Trace.load, traces path options asked]
    simp only [perform, replay, load_of_gains gains, capture]
  | writeDefaults path => simp only [perform, writeDefaults, gains.writable]
  | help => rfl
  | version => rfl
  | misuse => rfl

/-- A settings file with tables that set some settings, in any order and among any others, loads as
the default settings with just these replaced. With a negative bound or an unknown format it does
not load. So no run whose trace reads the same tells a file of default settings that some run wrote
from no file at all. -/
theorem settings_replace_defaults :
    (∀ {files : Files} {path : String} {document : List (String × Toml)},
      Config.Stands files path document →
        (∀ (config : Config) (chosen : String → String → Bool), config.SetBy chosen document →
          Config.load files path = .ok (config.only chosen)) ∧
        (Config.Spoils document → ∃ e, Config.load files path = .error (.unparsable e))) ∧
      ∀ {earlier bare saved : Files} {file text : String} {asking arguments : List String},
        (run earlier asking).written = some (file, text) → Gains bare saved text →
        (∀ path options, Invocation.ofArguments arguments = .replay path options →
          saved.readText path = bare.readText path) →
        run saved arguments = run bare arguments := by
  refine ⟨fun stands => ⟨fun config chosen sets => ?_, fun spoils => ?_⟩, ?_⟩
  · exact Config.load_of_setBy stands sets
  · exact Config.load_of_spoils stands spoils
  · intro earlier bare saved file text asking arguments written gains traces
    cases written_eq written
    exact run_of_gains gains traces

def patchyText : String :=
  "[logging]\ncolor = true\nlevel = \"WARN\"\n\n[owner]\nname = \"x\"\n\n[limits]\nport = 0x10\n"

def patchyDocument : List (String × Toml) :=
  [("logging", .table [("color", .boolean true), ("level", .string "WARN")]),
    ("owner", .table [("name", .string "x")]), ("limits", .table [("port", .integer 16)])]

def spoiltText : String :=
  "[limits]\nport = -1\n"

def patchyTexts : List (String × String) :=
  [("patchy.toml", patchyText), ("spoilt.toml", spoiltText), ("mouse.json", mouseJson.compact)]

def bareFiles : Files :=
  textFiles patchyTexts

def savedFiles : Files :=
  textFiles ((defaultConfig, Config.document {}) :: patchyTexts)

theorem stands_patchy : Config.Stands bareFiles "patchy.toml" patchyDocument := by
  have denotes : Toml.ofText? patchyText = some (.table patchyDocument) := by cbv
  exact ⟨patchyText, readText_textFiles rfl, denotes⟩

theorem stands_spoilt :
    Config.Stands bareFiles "spoilt.toml" [("limits", .table [("port", .integer (-1))])] := by
  have denotes : Toml.ofText? spoiltText =
      some (.table [("limits", .table [("port", .integer (-1))])]) := by cbv
  exact ⟨spoiltText, readText_textFiles rfl, denotes⟩

theorem lookup_saved {path : String} (other : path ≠ defaultConfig) :
    ((defaultConfig, Config.document {}) :: patchyTexts).lookup path = patchyTexts.lookup path := by
  rw [List.lookup_cons, beq_false_of_ne other]

theorem readText_saved {path : String} (other : path ≠ defaultConfig) :
    savedFiles.readText path = bareFiles.readText path := by
  simp only [Files.readText, savedFiles, bareFiles, textFiles, lookup_saved other]

theorem gains_saved : Gains bareFiles savedFiles (Config.document {}) where
  reads path := by
    by_cases usual : path = defaultConfig
    · subst usual
      exact .inr ⟨rfl, readText_textFiles rfl⟩
    · refine .inl ⟨?_, readText_saved usual⟩
      simp only [savedFiles, bareFiles, textFiles, lookup_saved usual]
  writable := rfl

theorem patchy_settings_replace_defaults :
    let config : Config := { limits := { port := 16 }, logging := { level := "WARN" } }
    Config.load bareFiles "patchy.toml" = .ok config ∧
      (∃ e, Config.load bareFiles "spoilt.toml" = .error (.unparsable e)) ∧
      run savedFiles ["mouse.json"] = run bareFiles ["mouse.json"] := by
  intro config
  obtain ⟨load, same⟩ := settings_replace_defaults
  refine ⟨?_, ?_, ?_⟩
  · have sets : config.SetBy (fun table key =>
        table == "limits" && key == "port" || table == "logging" && key == "level")
        patchyDocument := by
      refine ⟨[("port", .integer 16)], [], [("color", .boolean true), ("level", .string "WARN")],
        fun table => table == "limits" || table == "logging", ?_, ?_, ?_, ?_, ?_⟩
      · intro table key chosen
        simp only [Bool.or_eq_true, Bool.and_eq_true] at chosen ⊢
        exact chosen.imp And.left And.left
      · exact ⟨[], nofun, .refl _⟩
      · exact ⟨[], nofun, .refl _⟩
      · exact ⟨[("color", .boolean true)], by decide, .swap _ _ _⟩
      · refine ⟨[("owner", .table [("name", .string "x")])], by decide, ?_⟩
        exact (List.Perm.swap _ _ _).symm.cons _ |>.trans (.swap _ _ _)
    exact (load stands_patchy).1 config _ sets
  · exact (load stands_spoilt).2 (.bound List.mem_cons_self (by decide) List.mem_cons_self
      (by decide))
  · have written : (run bareFiles ["--init-config"]).written =
        some (defaultConfig, Config.document {}) := rfl
    refine same written gains_saved fun path options asked => ?_
    have given : Invocation.ofArguments ["mouse.json"] = .replay "mouse.json" {} := rfl
    cases given.symm.trans asked
    exact readText_saved (by decide)

end Cli

end UsbIdentity
