import Mathlib.Data.List.Permutation
import UsbIdentity.Cli.Run
import UsbIdentity.Proofs.Arguments
import UsbIdentity.Proofs.Replay
import UsbIdentity.Proofs.RuleJson

namespace UsbIdentity

/-! ## What stands in files -/

/-- Which settings are in force under a path: those of the document there, or the default ones where
nothing is found. -/
inductive Config.StandsAt (files : Files) (path : String) : Config → Prop
  | nothing (absent : files.isPresent path = false) : StandsAt files path {}
  | document {text : String} {table : Toml} {config : Config}
      (there : files.readText path = .ok text) (denotes : Toml.ofText? text = some table)
      (reads : reader { origin := .settings } table.draft = .ok config) :
      StandsAt files path config

theorem Config.load_eq_ok_iff {files : Files} {path : String} {config : Config} :
    Config.load files path = .ok config ↔ Config.StandsAt files path config := by
  constructor
  · intro load
    unfold Config.load at load
    split at load
    · split at load
      · cases load
      next text there =>
      split at load
      · cases load
      next read =>
      cases load
      unfold ofDocument at read
      split at read
      · cases read
      next denotes => exact .document there denotes read
    · next absent =>
      cases load
      exact .nothing (Bool.eq_false_iff.2 absent)
  · intro stands
    cases stands with
    | nothing absent =>
      rw [Config.load, absent]
      rfl
    | document there denotes reads =>
      have present := files.isPresent_of_readText there
      simp only [Config.load, present, if_true, there, ofDocument, denotes, reads]

def Trace.StandsAt (files : Files) (path : String) (trace : Trace) : Prop :=
  ∃ text, files.readText path = .ok text ∧ Json.readText Trace.reader text = .ok trace

theorem Trace.load_eq_ok_iff {files : Files} {path : String} {trace : Trace} :
    Trace.load files path = .ok trace ↔ Trace.StandsAt files path trace := by
  constructor
  · intro load
    unfold Trace.load at load
    split at load
    · cases load
    next text there =>
    split at load
    · cases load
    next read =>
    cases load
    exact ⟨text, there, read⟩
  · rintro ⟨text, there, read⟩
    simp only [Trace.load, there, Trace.ofText, read]

end UsbIdentity

namespace UsbIdentity.Cli

/-! ## Runs -/

structure Yields (files : Files) (path : String) (options : Options) (config : Config)
    (trace : Trace) (rule : Rule) : Prop where
  settings : Config.StandsAt files options.config config
  capture : Trace.StandsAt files path trace
  made : trace.replay config.limits (options.includePort || config.rules.includePort) = .ok rule

variable {files : Files} {arguments : List String} {path : String} {options : Options}
  {config : Config} {trace : Trace} {rule : Rule}

theorem run_of_yields (asked : Invocation.ofArguments arguments = .replay path options)
    (yields : Yields files path options config trace rule) :
    (run files arguments).exitCode = 0 ∧
      (run files arguments).output =
        printRule (if options.json then .json else config.rules.format) rule ++ "\n" ∧
      (run files arguments).written = none := by
  have settings := Config.load_eq_ok_iff.2 yields.settings
  have capture := Trace.load_eq_ok_iff.2 yields.capture
  simp [run, asked, perform, replay, settings, capture, yields.made]

theorem run_of_no_yield (asked : Invocation.ofArguments arguments = .replay path options)
    (barren : ¬∃ config trace rule, Yields files path options config trace rule) :
    (run files arguments).exitCode = 1 ∧ (run files arguments).output = "" ∧
      (run files arguments).written = none := by
  unfold run
  rw [asked, perform]
  cases settings : Config.load files options.config with
  | error e => exact ⟨rfl, rfl, rfl⟩
  | ok config =>
    simp only [replay]
    cases capture : Trace.load files path with
    | error e => exact ⟨rfl, rfl, rfl⟩
    | ok trace =>
      dsimp only
      cases made : trace.replay config.limits (options.includePort || config.rules.includePort) with
      | error e => exact ⟨rfl, rfl, rfl⟩
      | ok rule =>
        exact absurd ⟨config, trace, rule, Config.load_eq_ok_iff.1 settings,
          Trace.load_eq_ok_iff.1 capture, made⟩ barren

theorem run_ends (asked : Invocation.ofArguments arguments = .replay path options) :
    (run files arguments).written = none ∧
      ((∃ config trace rule, Yields files path options config trace rule) ∧
          (run files arguments).exitCode = 0 ∨
        (¬∃ config trace rule, Yields files path options config trace rule) ∧
          (run files arguments).exitCode = 1 ∧ (run files arguments).output = "") := by
  by_cases yields : ∃ config trace rule, Yields files path options config trace rule
  · obtain ⟨config, trace, rule, made⟩ := yields
    obtain ⟨exitCode, _, written⟩ := run_of_yields asked made
    exact ⟨written, .inl ⟨⟨config, trace, rule, made⟩, exitCode⟩⟩
  · obtain ⟨exitCode, output, written⟩ := run_of_no_yield asked yields
    exact ⟨written, .inr ⟨yields, exitCode, output⟩⟩

/-! ## Formats -/

theorem printRule_of_json (json : options.json = true ∨ config.rules.format = .json) :
    printRule (if options.json then .json else config.rules.format) rule = rule.toJson.pretty := by
  rcases json with given | set
  · rw [given]
    rfl
  · rw [set, ite_self]
    rfl

theorem printRule_of_text (text : ¬(options.json = true ∨ config.rules.format = .json)) :
    printRule (if options.json then .json else config.rules.format) rule = rule.text := by
  obtain ⟨given, set⟩ := not_or.1 text
  rw [if_neg given]
  cases format : config.rules.format with
  | text => rfl
  | json => exact absurd format set

theorem Yields.readText_pretty (yields : Yields files path options config trace rule) :
    Json.readText Rule.reader rule.toJson.pretty = .ok rule := by
  have proper : ∀ type ∈ rule.interfaceTypes.values, type.Proper := by
    obtain ⟨device, _, _, _, rfl⟩ := Trace.exists_device_of_replay yields.made
    intro type member
    obtain ⟨descriptor, _, announces⟩ := List.mem_filterMap.1 member
    cases descriptor <;> cases announces
    exact .inl ⟨_, _, _, rfl⟩
  have whole := rule.reworked_toJson
  exact Rule.readText_of_writes proper whole (Json.writes_pretty whole.plain)

/-! ## How much is logged -/

/-- Whether the same settings are in force under a path of two views of the files, apart from how
much is logged. -/
def SettingsAgree (relogged files : Files) (path : String) : Prop :=
  ∀ config : Config, (∃ logging, Config.StandsAt relogged path { config with logging }) ↔
    ∃ logging, Config.StandsAt files path { config with logging }

def TracesAgree (relogged files : Files) (path : String) : Prop :=
  ∀ trace, Trace.StandsAt relogged path trace ↔ Trace.StandsAt files path trace

theorem Yields.relogged {relogged : Files} (yields : Yields files path options config trace rule)
    (settings : SettingsAgree relogged files options.config)
    (captures : TracesAgree relogged files path) (level : Option String) :
    ∃ logging, Yields relogged path { options with logLevel := level }
      { config with logging } trace rule := by
  obtain ⟨logging, stands⟩ := (settings config).2 ⟨config.logging, yields.settings⟩
  exact ⟨logging, stands, (captures trace).2 yields.capture, yields.made⟩

theorem run_of_relogged {relogged : Files} {others : List String} {level : Option String}
    (asked : Invocation.ofArguments arguments = .replay path options)
    (again : Invocation.ofArguments others = .replay path { options with logLevel := level })
    (settings : SettingsAgree relogged files options.config)
    (captures : TracesAgree relogged files path) :
    (run relogged others).output = (run files arguments).output ∧
      (run relogged others).exitCode = (run files arguments).exitCode := by
  rcases (run_ends asked).2 with ⟨⟨config, trace, rule, yields⟩, _⟩ | ⟨barren, exitCode, output⟩
  · obtain ⟨logging, alike⟩ := yields.relogged settings captures level
    obtain ⟨exitCode, output, _⟩ := run_of_yields asked yields
    obtain ⟨exitCodeAgain, outputAgain, _⟩ := run_of_yields again alike
    rw [exitCode, output]
    exact ⟨outputAgain, exitCodeAgain⟩
  · rcases (run_ends again).2 with
      ⟨⟨config, trace, rule, alike⟩, _⟩ | ⟨_, exitCodeAgain, outputAgain⟩
    -- Being logged differently is symmetric, so a rule on either side gives one on the other.
    · obtain ⟨logging, yields⟩ := alike.relogged (fun config => (settings config).symm)
        (fun trace => (captures trace).symm) options.logLevel
      exact absurd ⟨_, _, _, yields⟩ barren
    · rw [exitCode, output]
      exact ⟨outputAgain, exitCodeAgain⟩

/-! ## Whole runs -/

/-- Exactly the arguments that ask for the replay of a trace by the grammar are taken for one. Such a
run ends well exactly if its settings and its trace stand in the files and the replay gives a rule.
It prints the rule as text or, if it is told to, as JSON, which reads back as the rule that the same
inputs print in text mode. Any other ending is 1, and nothing is printed. No file is written, and
how much is logged decides nothing else. -/
theorem run_prints_rule (files : Files) {arguments : List String} {path : String}
    {options : Options} (asked : Asks arguments path options) :
    let outcome := run files arguments
    (∀ list trace given,
      Invocation.ofArguments list = .replay trace given ↔ Asks list trace given) ∧
    (options.json = true ↔ "--json" ∈ beforeDashes arguments) ∧
    (options.includePort = true ↔ "--include-port" ∈ beforeDashes arguments) ∧
    (outcome.exitCode = 0 ↔
      ∃ config trace rule, Yields files path options config trace rule) ∧
    (∀ config trace rule, Yields files path options config trace rule →
      (¬(options.json = true ∨ config.rules.format = .json) →
        outcome.output = rule.text ++ "\n") ∧
      (options.json = true ∨ config.rules.format = .json →
        outcome.output = rule.toJson.pretty ++ "\n" ∧
        Json.readText Rule.reader rule.toJson.pretty = .ok rule ∧
        ∀ plain others,
          Asks others path { options with json := false } →
          Config.StandsAt plain options.config
            { config with rules := { config.rules with format := .text } } →
          Trace.StandsAt plain path trace →
          (run plain others).output = rule.text ++ "\n")) ∧
    (outcome.exitCode ≠ 0 → outcome.exitCode = 1 ∧ outcome.output = "") ∧
    outcome.written = none ∧
    ∀ relogged others level,
      Asks others path { options with logLevel := level } →
      SettingsAgree relogged files options.config →
      TracesAgree relogged files path →
      (run relogged others).output = outcome.output ∧
        (run relogged others).exitCode = outcome.exitCode := by
  intro outcome
  have replays := ofArguments_eq_replay_iff.2 asked
  obtain ⟨words, spells, fits⟩ := asked
  obtain ⟨written, ending⟩ := run_ends replays
  refine ⟨fun _ _ _ => ofArguments_eq_replay_iff, ?_, ?_, ?_, ?_, ?_, written, ?_⟩
  · exact fits.json.trans (spells.mem_switch_iff .json)
  · exact fits.includePort.trans (spells.mem_switch_iff .includePort)
  · rcases ending with ⟨yields, exitCode⟩ | ⟨barren, exitCode, _⟩
    · exact iff_of_true exitCode yields
    · refine iff_of_false ?_ barren
      show outcome.exitCode ≠ 0
      rw [exitCode]
      decide
  · intro config trace rule yields
    obtain ⟨_, output, _⟩ := run_of_yields replays yields
    constructor
    · intro text
      rw [output, printRule_of_text text]
    · intro json
      refine ⟨by rw [output, printRule_of_json json], yields.readText_pretty, ?_⟩
      intro plain others again settings capture
      have alike : Yields plain path { options with json := false }
          { config with rules := { config.rules with format := .text } } trace rule :=
        ⟨settings, capture, yields.made⟩
      exact (run_of_yields (ofArguments_eq_replay_iff.2 again) alike).2.1
  · intro failed
    rcases ending with ⟨_, exitCode⟩ | ⟨_, silent⟩
    · exact absurd exitCode failed
    · exact silent
  · intro relogged others level again settings captures
    exact run_of_relogged replays (ofArguments_eq_replay_iff.2 again) settings captures

def textFiles (texts : List (String × String)) : Files where
  isPresent path := (texts.lookup path).isSome
  read path :=
    match texts.lookup path with
    | none => .error .notFound
    | some text => .ok text.toUTF8
  isPresent_of_read {path} _ read := by
    cases found : texts.lookup path with
    | none =>
      rw [found] at read
      cases read
    | some text => rfl
  writable _ := .ok ()

theorem readText_textFiles {texts : List (String × String)} {path text : String}
    (found : texts.lookup path = some text) : (textFiles texts).readText path = .ok text := by
  have decoded : String.fromUTF8? text.toUTF8 = some text := dif_pos text.isValidUTF8
  simp only [Files.readText, textFiles, found, decoded]

def mouse : DeviceDescriptor where
  vendorId := 0x046d
  productId := 0xc077
  configurationCount := 1

def mouseTrace : Trace where
  device := { name := "Maus", port := "1-2" }
  descriptors := [.device mouse]

def mouseJson : Json :=
  .object
    [("device", .object [("name", .string "Maus"), ("port", .string "1-2")]),
      ("descriptors", .array
        [.object
          [("type", .string "device"), ("vendor_id", .natural 0x046d),
            ("product_id", .natural 0xc077), ("num_configurations", .natural 1)]])]

def portsText : String :=
  "[rules]\nformat = \"json\"\ninclude_port = true\n"

def mouseFiles : Files :=
  textFiles [("mouse.json", mouseJson.compact), ("ports.toml", portsText)]

theorem standsAt_mouseTrace : Trace.StandsAt mouseFiles "mouse.json" mouseTrace := by
  have plain : mouseJson.Plain := by
    simp [mouseJson, Json.natural, Json.Plain, Json.PlainMembers, Json.PlainItems, Json.Fits]
  refine ⟨mouseJson.compact, readText_textFiles rfl, ?_⟩
  rw [(Json.writes_compact plain).readText]
  rfl

theorem standsAt_portsText :
    Config.StandsAt mouseFiles "ports.toml"
      { rules := { includePort := true, format := .json } } := by
  have denotes : Toml.ofText? portsText = some (.table
      [("rules", .table [("format", .string "json"), ("include_port", .boolean true)])]) := by cbv
  exact .document (readText_textFiles rfl) denotes rfl

theorem mouse_prints_as_json :
    let arguments := ["--json", "-l", "debug", "mouse.json"]
    let rule := mouseTrace.ruleOf mouse false
    Invocation.ofArguments arguments =
        .replay "mouse.json" { json := true, logLevel := some "debug" } ∧
      (run mouseFiles arguments).exitCode = 0 ∧
      (run mouseFiles arguments).output = rule.toJson.pretty ++ "\n" ∧
      Json.readText Rule.reader rule.toJson.pretty = .ok rule ∧
      (run mouseFiles ["mouse.json", "--log-level=debug"]).output = rule.text ++ "\n" ∧
      rule.text = "unknown id 046d:c077 name \"Maus\" " ++
        "hash \"da6745c9a7b804a70f71c1a5e78cd8ca755473ff30ae6397bfe3e332ee396a7e\"" ∧
      (run mouseFiles ["--json", "mouse.json"]).output = rule.toJson.pretty ++ "\n" ∧
      (run mouseFiles ["-c=ports.toml", "--", "mouse.json"]).output =
        (mouseTrace.ruleOf mouse true).toJson.pretty ++ "\n" := by
  intro arguments rule
  have asked : Asks arguments "mouse.json" { json := true, logLevel := some "debug" } :=
    ofArguments_eq_replay_iff.1 rfl
  have yields : Yields mouseFiles "mouse.json" { json := true, logLevel := some "debug" } {}
      mouseTrace rule := ⟨.nothing rfl, standsAt_mouseTrace, rfl⟩
  obtain ⟨replays, _, _, exitCode, printed, _, _, muted⟩ := run_prints_rule mouseFiles asked
  obtain ⟨output, reads, plain⟩ := (printed _ _ _ yields).2 (.inl rfl)
  refine ⟨(replays _ _ _).2 asked, exitCode.2 ⟨_, _, _, yields⟩, output, reads, ?_,
    by decide +kernel, ?_, ?_⟩
  · exact plain mouseFiles _ ((replays _ _ _).1 rfl) (.nothing rfl) standsAt_mouseTrace
  · rw [← output]
    exact (muted mouseFiles _ none ((replays _ _ _).1 rfl) (fun _ => .rfl) fun _ => .rfl).1
  · have ported : Yields mouseFiles "mouse.json" { config := "ports.toml" }
        { rules := { includePort := true, format := .json } } mouseTrace
        (mouseTrace.ruleOf mouse true) := ⟨standsAt_portsText, standsAt_mouseTrace, rfl⟩
    obtain ⟨_, _, _, _, printed, _⟩ := run_prints_rule mouseFiles ((replays
      ["-c=ports.toml", "--", "mouse.json"] "mouse.json" { config := "ports.toml" }).1 rfl)
    exact ((printed _ _ _ ported).2 (.inr rfl)).1

end UsbIdentity.Cli
