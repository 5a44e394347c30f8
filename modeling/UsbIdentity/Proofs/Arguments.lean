import Mathlib.Data.List.Nodup
import UsbIdentity.Proofs.ArgumentGrammar

namespace UsbIdentity.Cli

namespace Word

def subject : Word → Option (Setting ⊕ Switch)
  | .trace _ => none
  | .value setting _ => some (.inl setting)
  | .switch named => some (.inr named)

def IsSayable : Word → Prop
  | .trace path => path ≠ ""
  | .value .config path => path ≠ ""
  | .value .logLevel _ => True
  | .switch named => named ≠ .help ∧ named ≠ .version

end Word

namespace Given

def Holds (given : Given) : Word → Prop
  | .trace path => given.trace = some path
  | .value .config path => given.config = some path
  | .value .logLevel level => given.logLevel = some level
  | .switch .includePort => given.includePort = true
  | .switch .json => given.json = true
  | .switch .initConfig => given.initConfig = true
  | .switch .help => False
  | .switch .version => False

def Lacks (given : Given) (word : Word) : Prop :=
  ∀ other, given.Holds other → other.subject ≠ word.subject

variable {given next last : Given} {word : Word} {words : List Word}

theorem holds_of_take (taken : given.take word = .ok next) :
    word.IsSayable ∧ given.Lacks word ∧
      ∀ other, next.Holds other ↔ word = other ∨ given.Holds other := by
  obtain path | ⟨_ | _, text⟩ | (_ | _ | _ | _ | _) := word
  all_goals
    simp only [take, putTrace, put, turnOn] at taken
  case switch.help => cases taken
  case switch.version => cases taken
  all_goals
    split at taken
    · cases taken
    next free =>
    cases taken
    simp only [Bool.or_eq_true, not_or, Bool.not_eq_true, Option.isSome_eq_false_iff,
      Option.isNone_iff_eq_none, beq_eq_false_iff_ne] at free
    refine ⟨by simp [Word.IsSayable, free], fun other => ?_, fun other => ?_⟩
    all_goals
      obtain path | ⟨_ | _, text⟩ | (_ | _ | _ | _ | _) := other
      all_goals simp [Holds, Word.subject, free]

theorem exists_take (sayable : word.IsSayable) (lacks : given.Lacks word) :
    ∃ next, given.take word = .ok next := by
  obtain path | ⟨_ | _, text⟩ | (_ | _ | _ | _ | _) := word
  case trace =>
    have free : given.trace = none :=
      Option.eq_none_iff_forall_ne_some.2 fun other holds => lacks (.trace other) holds rfl
    have named : path ≠ "" := sayable
    simp [take, putTrace, free, named]
  case value.config =>
    have free : given.config = none :=
      Option.eq_none_iff_forall_ne_some.2 fun other holds => lacks (.value .config other) holds rfl
    have named : text ≠ "" := sayable
    simp [take, put, free, named]
  case value.logLevel =>
    have free : given.logLevel = none :=
      Option.eq_none_iff_forall_ne_some.2 fun other holds =>
        lacks (.value .logLevel other) holds rfl
    simp [take, put, free]
  case switch.includePort =>
    have free : given.includePort = false :=
      Bool.eq_false_iff.2 fun holds => lacks (.switch .includePort) holds rfl
    simp [take, turnOn, free]
  case switch.json =>
    have free : given.json = false :=
      Bool.eq_false_iff.2 fun holds => lacks (.switch .json) holds rfl
    simp [take, turnOn, free]
  case switch.initConfig =>
    have free : given.initConfig = false :=
      Bool.eq_false_iff.2 fun holds => lacks (.switch .initConfig) holds rfl
    simp [take, turnOn, free]
  case switch.help => exact absurd rfl sayable.1
  case switch.version => exact absurd rfl sayable.2

theorem holds_of_takeAll (taken : given.takeAll words = .ok last) :
    (∀ word ∈ words, word.IsSayable) ∧ (words.map Word.subject).Nodup ∧
      (∀ word ∈ words, given.Lacks word) ∧
      ∀ other, last.Holds other ↔ other ∈ words ∨ given.Holds other := by
  induction words generalizing given with
  | nil =>
    cases taken
    simp
  | cons word words ih =>
    obtain ⟨next, first, others⟩ := takeAll_cons.1 taken
    obtain ⟨sayable, lacks, holds⟩ := holds_of_take first
    obtain ⟨sayables, once, lackings, held⟩ := ih others
    refine ⟨List.forall_mem_cons.2 ⟨sayable, sayables⟩, ?_, ?_, ?_⟩
    · rw [List.map_cons, List.nodup_cons]
      refine ⟨?_, once⟩
      rw [List.mem_map]
      rintro ⟨later, inside, same⟩
      exact lackings later inside word ((holds word).2 (.inl rfl)) same.symm
    · refine List.forall_mem_cons.2 ⟨lacks, fun later inside other holding => ?_⟩
      exact lackings later inside other ((holds other).2 (.inr holding))
    · intro other
      rw [held, holds, List.mem_cons, eq_comm]
      tauto

theorem exists_takeAll (sayable : ∀ word ∈ words, word.IsSayable)
    (once : (words.map Word.subject).Nodup) (lacks : ∀ word ∈ words, given.Lacks word) :
    ∃ last, given.takeAll words = .ok last := by
  induction words generalizing given with
  | nil => exact ⟨given, rfl⟩
  | cons word words ih =>
    rw [List.forall_mem_cons] at sayable lacks
    rw [List.map_cons, List.nodup_cons] at once
    obtain ⟨next, first⟩ := exists_take sayable.1 lacks.1
    obtain ⟨_, _, holds⟩ := holds_of_take first
    have lackings : ∀ later ∈ words, next.Lacks later := by
      intro later inside other holding
      rcases (holds other).1 holding with rfl | holding
      · exact fun same => once.1 (same ▸ List.mem_map_of_mem inside)
      · exact lacks.2 later inside other holding
    obtain ⟨last, others⟩ := ih sayable.2 once.2 lackings
    exact ⟨last, takeAll_cons.2 ⟨next, first, others⟩⟩

theorem not_holds_empty (word : Word) : ¬({} : Given).Holds word := by
  obtain path | ⟨_ | _, text⟩ | (_ | _ | _ | _ | _) := word
  all_goals simp [Holds]

theorem holds_iff_mem (taken : ({} : Given).takeAll words = .ok last) (word : Word) :
    last.Holds word ↔ word ∈ words := by
  rw [(holds_of_takeAll taken).2.2.2, or_iff_left (not_holds_empty word)]

end Given

/-- The trace and the options of the replay that words ask for. -/
structure Options.Matches (options : Options) (path : String) (words : List Word) : Prop where
  once : (words.map Word.subject).Nodup
  trace : .trace path ∈ words ∧ path ≠ ""
  config : .value .config options.config ∈ words ∧ options.config ≠ "" ∨
    options.config = defaultConfig ∧ ∀ named, .value .config named ∉ words
  logLevel : ∀ level, options.logLevel = some level ↔ .value .logLevel level ∈ words
  json : options.json = true ↔ .switch .json ∈ words
  includePort : options.includePort = true ↔ .switch .includePort ∈ words
  initConfig : .switch .initConfig ∉ words
  help : .switch .help ∉ words
  version : .switch .version ∉ words

def Asks (arguments : List String) (path : String) (options : Options) : Prop :=
  ∃ words, Spells words arguments ∧ options.Matches path words

variable {path : String} {options : Options} {words : List Word} {last : Given}

theorem matches_of_takeAll (taken : ({} : Given).takeAll words = .ok last)
    (invoked : last.invocation = .replay path options) : options.Matches path words := by
  obtain ⟨sayable, once, _⟩ := Given.holds_of_takeAll taken
  have said := Given.holds_iff_mem taken
  unfold Given.invocation at invoked
  split at invoked
  · cases invoked
  next initConfig =>
  split at invoked
  · cases invoked
  next trace named =>
  cases invoked
  have traced := (said (.trace path)).1 named
  refine ⟨once, ⟨traced, sayable _ traced⟩, ?_, fun level => said (.value .logLevel level),
    said (.switch .json), said (.switch .includePort), ?_, ?_, ?_⟩
  · cases config : last.config with
    | none =>
      refine .inr ⟨rfl, fun named inside => ?_⟩
      have holds : last.config = some named := (said (.value .config named)).2 inside
      rw [config] at holds
      cases holds
    | some named =>
      have inside := (said (.value .config named)).1 config
      exact .inl ⟨inside, sayable _ inside⟩
  · exact fun inside => initConfig ((said (.switch .initConfig)).2 inside)
  · exact fun inside => (sayable _ inside).1 rfl
  · exact fun inside => (sayable _ inside).2 rfl

theorem Options.Matches.sayable (fits : options.Matches path words) :
    ∀ word ∈ words, word.IsSayable := by
  have alone {word other : Word} (inside : word ∈ words) (also : other ∈ words)
      (same : word.subject = other.subject) : word = other :=
    List.inj_on_of_nodup_map fits.once inside also same
  intro word inside
  obtain named | ⟨_ | _, text⟩ | switch := word
  · cases alone inside fits.trace.1 rfl
    exact fits.trace.2
  · rcases fits.config with ⟨given, nonempty⟩ | ⟨_, nothing⟩
    · cases alone inside given rfl
      exact nonempty
    · exact absurd inside (nothing text)
  · trivial
  · constructor
    · rintro rfl
      exact fits.help inside
    · rintro rfl
      exact fits.version inside

theorem exists_given_of_matches (fits : options.Matches path words) :
    ∃ last, ({} : Given).takeAll words = .ok last ∧ last.invocation = .replay path options := by
  obtain ⟨last, taken⟩ := Given.exists_takeAll fits.sayable fits.once
    fun _ _ other holds => absurd holds (Given.not_holds_empty other)
  refine ⟨last, taken, ?_⟩
  have said := Given.holds_iff_mem taken
  have trace : last.trace = some path := (said (.trace path)).2 fits.trace.1
  have initConfig : last.initConfig = false :=
    Bool.eq_false_iff.2 fun on => fits.initConfig ((said (.switch .initConfig)).1 on)
  have json : last.json = options.json :=
    Bool.eq_iff_iff.2 ((said (.switch .json)).trans fits.json.symm)
  have includePort : last.includePort = options.includePort :=
    Bool.eq_iff_iff.2 ((said (.switch .includePort)).trans fits.includePort.symm)
  have logLevel : last.logLevel = options.logLevel :=
    Option.ext fun level => (said (.value .logLevel level)).trans (fits.logLevel level).symm
  have config : last.config.getD defaultConfig = options.config := by
    rcases fits.config with ⟨inside, _⟩ | ⟨usual, nothing⟩
    · have named : last.config = some options.config := (said (.value .config _)).2 inside
      rw [named]
      rfl
    · have unnamed : last.config = none := Option.eq_none_iff_forall_ne_some.2 fun named holds =>
        nothing named ((said (.value .config named)).1 holds)
      rw [unnamed, usual]
      rfl
  simp only [Given.invocation, initConfig, trace, json, includePort, logLevel, config]
  rfl

theorem ofArguments_eq_replay_iff {arguments : List String} :
    Invocation.ofArguments arguments = .replay path options ↔ Asks arguments path options := by
  rw [ofArguments_eq_replay_iff_words]
  constructor
  · rintro ⟨words, last, spells, taken, invoked⟩
    exact ⟨words, spells, matches_of_takeAll taken invoked⟩
  · rintro ⟨words, spells, fits⟩
    obtain ⟨last, taken, invoked⟩ := exists_given_of_matches fits
    exact ⟨words, last, spells, taken, invoked⟩

end UsbIdentity.Cli
