import Mathlib.Data.String.Basic
import UsbIdentity.Cli.Arguments

namespace UsbIdentity.Cli

/-! ## What arguments say -/

namespace Setting

def name : Setting → String
  | .config => "config"
  | .logLevel => "log-level"

def letter : Setting → Char
  | .config => 'c'
  | .logLevel => 'l'

def Opens (setting : Setting) (argument : String) : Prop :=
  argument = "--" ++ setting.name ∨ argument = String.ofList ['-', setting.letter]

end Setting

namespace Switch

def name : Switch → String
  | .includePort => "include-port"
  | .json => "json"
  | .initConfig => "init-config"
  | .help => "help"
  | .version => "version"

def flag (switch : Switch) : String :=
  "--" ++ switch.name

theorem flag_inj {switch other : Switch} : switch.flag = other.flag ↔ switch = other := by
  cases switch <;> cases other <;> decide

theorem flag_ne_dashes (switch : Switch) : switch.flag ≠ "--" := by
  cases switch <;> decide

end Switch

inductive Word where
  | trace (path : String)
  | value (setting : Setting) (text : String)
  | switch (switch : Switch)

/-- Whether an argument cannot be taken for an option. A lone dash cannot. -/
def IsOperand (argument : String) : Prop :=
  ∀ c rest, argument.toList ≠ '-' :: c :: rest

/-- Which words a list of arguments says, help and version by their letters apart. The value of a
setting stands by itself, after an equals sign, or right after the letter. -/
inductive Spells : List Word → List String → Prop
  | done : Spells [] []
  | traces (paths : List String) : Spells (paths.map .trace) ("--" :: paths)
  | trace {path words arguments} (operand : IsOperand path) (rest : Spells words arguments) :
      Spells (.trace path :: words) (path :: arguments)
  | flag {words arguments} (switch : Switch) (rest : Spells words arguments) :
      Spells (.switch switch :: words) (switch.flag :: arguments)
  | apart {setting opening text words arguments} (opens : Setting.Opens setting opening)
      (operand : IsOperand text) (rest : Spells words arguments) :
      Spells (.value setting text :: words) (opening :: text :: arguments)
  | equals {setting opening words arguments} (opens : Setting.Opens setting opening)
      (text : String) (rest : Spells words arguments) :
      Spells (.value setting text :: words) ((opening ++ "=" ++ text) :: arguments)
  | joined {text c tail words arguments} (setting : Setting) (starts : text.toList = c :: tail)
      (other : c ≠ '=') (rest : Spells words arguments) :
      Spells (.value setting text :: words)
        ((String.ofList ['-', setting.letter] ++ text) :: arguments)

namespace Given

def take (given : Given) : Word → Except Invocation Given
  | .trace path => given.putTrace path
  | .value setting text => given.put text setting
  | .switch switch => given.turnOn switch

def takeAll (given : Given) (words : List Word) : Except Invocation Given :=
  words.foldlM take given

variable {given last : Given} {word : Word} {words : List Word}

theorem takeAll_cons :
    given.takeAll (word :: words) = .ok last ↔
      ∃ next, given.take word = .ok next ∧ next.takeAll words = .ok last := by
  rw [takeAll, List.foldlM_cons]
  cases given.take word with
  | error e => simp [bind, Except.bind]
  | ok next => simp [bind, Except.bind, takeAll]

theorem takeAll_singleton : given.takeAll [word] = given.take word := by
  rw [takeAll, List.foldlM_cons]
  cases given.take word <;> rfl

end Given

variable {given next last : Given} {expected after : Expected} {argument path : String}
  {arguments : List String} {words : List Word} {options : Options}

/-! ## What is spelt is read -/

theorem Setting.lookup_name (setting : Setting) :
    longNames.lookup setting.name = some (.inl setting) := by
  cases setting <;> rfl

theorem Setting.lookup_letter (setting : Setting) :
    letters.lookup setting.letter = some (.inl setting) := by
  cases setting <;> rfl

theorem Setting.letter_ne_dash (setting : Setting) : setting.letter ≠ '-' := by
  cases setting <;> decide

theorem Setting.splitValue_name (setting : Setting) (value : List Char) :
    splitValue (setting.name.toList ++ '=' :: value) = (setting.name.toList, some value) := by
  cases setting <;> rfl

theorem readArgument_operand (operand : IsOperand argument) (given : Given) :
    readArgument given .argument argument =
      (given.putTrace argument).map fun given => (given, .argument) := by
  unfold readArgument
  split
  · contradiction
  · contradiction
  · contradiction
  · next dashes => exact absurd dashes (operand _ _)
  · next long => exact absurd long (operand _ _)
  · next letters => exact absurd letters (operand _ _)
  · rfl

theorem readArgument_value (operand : IsOperand argument) (given : Given) (setting : Setting) :
    readArgument given (.value setting) argument =
      (given.put argument setting).map fun given => (given, .argument) := by
  unfold readArgument
  split
  · contradiction
  · next option => exact absurd option (operand _ _)
  · next same _ =>
    cases same
    rfl
  all_goals contradiction

theorem readArgument_flag (switch : Switch) (given : Given) :
    readArgument given .argument switch.flag =
      (given.turnOn switch).map fun given => (given, .argument) := by
  cases switch <;> rfl

theorem readArgument_opens {setting : Setting} (opens : setting.Opens argument) (given : Given) :
    readArgument given .argument argument = .ok (given, .value setting) := by
  rcases opens with rfl | rfl <;> cases setting <;> rfl

theorem readArgument_long {c : Char} {text : List Char}
    (long : argument.toList = '-' :: '-' :: c :: text) (given : Given) :
    readArgument given .argument argument = readLong given (c :: text) := by
  simp only [readArgument, long]

theorem readArgument_letters {c : Char} {text : List Char}
    (letters : argument.toList = '-' :: c :: text) (short : c ≠ '-') (given : Given) :
    readArgument given .argument argument = readLetters given (c :: text) := by
  unfold readArgument
  rw [letters]
  split <;> simp_all

theorem readArgument_equals {setting : Setting} (opens : setting.Opens argument) (given : Given)
    (text : String) :
    readArgument given .argument (argument ++ "=" ++ text) =
      (given.put text setting).map fun given => (given, .argument) := by
  rcases opens with rfl | rfl
  · have long : ("--" ++ setting.name ++ "=" ++ text).toList =
        '-' :: '-' :: (setting.name.toList ++ '=' :: text.toList) := by simp
    have read : readLong given (setting.name.toList ++ '=' :: text.toList) =
        (given.put text setting).map fun given => (given, .argument) := by
      simp only [readLong, setting.splitValue_name, String.ofList_toList, setting.lookup_name]
    rw [← read]
    cases setting <;> exact readArgument_long long given
  · have letters : (String.ofList ['-', setting.letter] ++ "=" ++ text).toList =
        '-' :: setting.letter :: '=' :: text.toList := by simp
    rw [readArgument_letters letters setting.letter_ne_dash]
    unfold readLetters
    simp only [setting.lookup_letter, String.ofList_toList]

theorem readArgument_joined {c : Char} {text : String} {tail : List Char} (setting : Setting)
    (starts : text.toList = c :: tail) (other : c ≠ '=') (given : Given) :
    readArgument given .argument (String.ofList ['-', setting.letter] ++ text) =
      (given.put text setting).map fun given => (given, .argument) := by
  have letters : (String.ofList ['-', setting.letter] ++ text).toList =
      '-' :: setting.letter :: c :: tail := by simp [starts]
  have whole : String.ofList (c :: tail) = text := by rw [← starts, String.ofList_toList]
  rw [readArgument_letters letters setting.letter_ne_dash]
  unfold readLetters
  simp [setting.lookup_letter, other, whole]

theorem readArguments_cons (read : readArgument given expected argument = .ok (next, after)) :
    readArguments given expected (argument :: arguments) = readArguments next after arguments := by
  rw [readArguments, read]

theorem readArguments_said {word : Word}
    (read : readArgument given expected argument =
      (given.take word).map fun given => (given, .argument))
    (taken : given.take word = .ok next) :
    readArguments given expected (argument :: arguments) =
      readArguments next .argument arguments := by
  rw [taken] at read
  exact readArguments_cons read

theorem readArguments_traces (taken : given.takeAll (arguments.map .trace) = .ok last) :
    readArguments given .trace arguments = last.invocation := by
  induction arguments generalizing given with
  | nil =>
    cases taken
    rfl
  | cons path paths ih =>
    obtain ⟨next, first, others⟩ := Given.takeAll_cons.1 taken
    have read : readArgument given .trace path = .ok (next, .trace) := by
      rw [readArgument, show given.putTrace path = .ok next from first]
      rfl
    rw [readArguments_cons read, ih others]

theorem readArguments_of_spells (spells : Spells words arguments)
    (taken : given.takeAll words = .ok last) :
    readArguments given .argument arguments = last.invocation := by
  induction spells generalizing given with
  | done =>
    cases taken
    rfl
  | traces paths =>
    rw [readArguments_cons rfl]
    exact readArguments_traces taken
  | trace operand _ ih =>
    obtain ⟨next, first, others⟩ := Given.takeAll_cons.1 taken
    rw [readArguments_said (readArgument_operand operand given) first, ih others]
  | flag switch _ ih =>
    obtain ⟨next, first, others⟩ := Given.takeAll_cons.1 taken
    rw [readArguments_said (readArgument_flag switch given) first, ih others]
  | apart opens operand _ ih =>
    obtain ⟨next, first, others⟩ := Given.takeAll_cons.1 taken
    rw [readArguments_cons (readArgument_opens opens given),
      readArguments_said (readArgument_value operand given _) first, ih others]
  | equals opens text _ ih =>
    obtain ⟨next, first, others⟩ := Given.takeAll_cons.1 taken
    rw [readArguments_said (readArgument_equals opens given text) first, ih others]
  | joined setting starts other _ ih =>
    obtain ⟨next, first, others⟩ := Given.takeAll_cons.1 taken
    rw [readArguments_said (readArgument_joined setting starts other given) first, ih others]

/-! ## What is read is spelt -/

theorem mem_of_lookup {α β : Type} [DecidableEq α] {key : α} {value : β} {entries : List (α × β)}
    (found : entries.lookup key = some value) : (key, value) ∈ entries := by
  obtain ⟨before, after, rfl, _⟩ := List.lookup_eq_some_iff.1 found
  exact List.mem_append_right before List.mem_cons_self

theorem Setting.eq_name_of_lookup {setting : Setting} {name : String}
    (found : longNames.lookup name = some (.inl setting)) : name = setting.name := by
  have member := mem_of_lookup found
  cases setting <;> simpa [longNames, Setting.name] using member

theorem Setting.eq_letter_of_lookup {setting : Setting} {letter : Char}
    (found : letters.lookup letter = some (.inl setting)) : letter = setting.letter := by
  have member := mem_of_lookup found
  cases setting <;> simpa [letters, Setting.letter] using member

theorem Switch.eq_name_of_lookup {switch : Switch} {name : String}
    (found : longNames.lookup name = some (.inr switch)) : name = switch.name := by
  have member := mem_of_lookup found
  cases switch <;> simpa [longNames, Switch.name] using member

theorem Switch.eq_help_or_version_of_lookup {switch : Switch} {letter : Char}
    (found : letters.lookup letter = some (.inr switch)) : switch = .help ∨ switch = .version := by
  have member := mem_of_lookup found
  cases switch <;> simp [letters] at member ⊢

theorem eq_append_of_splitValue {text name : List Char} {value : Option (List Char)}
    (split : splitValue text = (name, value)) :
    text = name ++ value.elim [] fun value => '=' :: value := by
  induction text generalizing name with
  | nil =>
    cases split
    rfl
  | cons c rest ih =>
    rw [splitValue] at split
    split at split
    · next equals =>
      cases split
      rw [equals]
      rfl
    · cases tail : splitValue rest with
      | mk start value =>
        rw [tail] at split
        cases split
        rw [List.cons_append, ← ih tail]

theorem eq_ok_of_map {result : Except Invocation Given} {following : Expected}
    (mapped : (result.map fun given => (given, following)) = .ok (next, after)) :
    result = .ok next ∧ after = following := by
  cases result with
  | error e => cases mapped
  | ok given =>
    cases mapped
    exact ⟨rfl, rfl⟩

/-- Which words arguments say where a value is due, or only traces are, before them. -/
def SpellsFrom : Expected → List Word → List String → Prop
  | .argument, words, arguments => Spells words arguments
  | .value setting, words, arguments =>
    ∃ text later rest, words = .value setting text :: later ∧ arguments = text :: rest ∧
      IsOperand text ∧ Spells later rest
  | .trace, words, arguments => words = arguments.map .trace

def Says (argument : String) (given next : Given) (expected after : Expected) : Prop :=
  ∃ said, given.takeAll said = .ok next ∧
    ∀ words arguments, SpellsFrom after words arguments →
      SpellsFrom expected (said ++ words) (argument :: arguments)

theorem Says.word (word : Word) (taken : given.take word = .ok next)
    (spells : ∀ words arguments, Spells words arguments →
      SpellsFrom expected (word :: words) (argument :: arguments)) :
    Says argument given next expected .argument :=
  ⟨[word], Given.takeAll_singleton.trans taken, spells⟩

theorem Says.opens {setting : Setting} (opens : setting.Opens argument) :
    Says argument given given .argument (.value setting) := by
  refine ⟨[], rfl, ?_⟩
  rintro words arguments ⟨text, later, rest, rfl, rfl, operand, spells⟩
  exact .apart opens operand spells

theorem says_of_readLong {text : List Char} (long : argument.toList = '-' :: '-' :: text)
    (read : readLong given text = .ok (next, after)) :
    Says argument given next .argument after := by
  have whole : argument = "--" ++ String.ofList text := by
    rw [← String.toList_inj, long]
    simp
  unfold readLong at read
  split at read
  next name value parts =>
  have parted := eq_append_of_splitValue parts
  split at read
  · next setting value found =>
    obtain ⟨taken, rfl⟩ := eq_ok_of_map read
    refine .word (.value setting (String.ofList value)) taken fun words arguments rest => ?_
    have spelt : argument = "--" ++ setting.name ++ "=" ++ String.ofList value := by
      rw [whole, parted, ← Setting.eq_name_of_lookup found, ← String.toList_inj]
      simp
    rw [spelt]
    exact .equals (.inl rfl) _ rest
  · next setting found =>
    cases read
    refine .opens (.inl ?_)
    rw [whole, parted, ← Setting.eq_name_of_lookup found]
    simp
  · next switch found =>
    obtain ⟨taken, rfl⟩ := eq_ok_of_map read
    refine .word (.switch switch) taken fun words arguments rest => ?_
    have spelt : argument = switch.flag := by
      rw [whole, parted, Switch.flag, ← Switch.eq_name_of_lookup found]
      simp
    rw [spelt]
    exact .flag switch rest
  · cases read
  · cases read

theorem says_of_readLetters {c : Char} {text : List Char}
    (letters : argument.toList = '-' :: c :: text)
    (read : readLetters given (c :: text) = .ok (next, after)) :
    Says argument given next .argument after := by
  have whole : argument = String.ofList ('-' :: c :: text) := by
    rw [← letters, String.ofList_toList]
  unfold readLetters at read
  split at read
  · next setting found =>
    cases read
    refine .opens (.inr ?_)
    rw [whole, Setting.eq_letter_of_lookup found]
  · next setting value found =>
    obtain ⟨taken, rfl⟩ := eq_ok_of_map read
    refine .word (.value setting (String.ofList value)) taken fun words arguments rest => ?_
    have spelt : argument =
        String.ofList ['-', setting.letter] ++ "=" ++ String.ofList value := by
      rw [whole, Setting.eq_letter_of_lookup found, ← String.toList_inj]
      simp
    rw [spelt]
    exact .equals (.inr rfl) _ rest
  · next value _ _ setting found nonempty other =>
    obtain ⟨taken, rfl⟩ := eq_ok_of_map read
    refine .word (.value setting (String.ofList value)) taken fun words arguments rest => ?_
    have spelt : argument = String.ofList ['-', setting.letter] ++ String.ofList value := by
      rw [whole, Setting.eq_letter_of_lookup found, ← String.toList_inj]
      simp
    rw [spelt]
    cases value with
    | nil => exact absurd rfl nonempty
    | cons c tail =>
      have starts : (String.ofList (c :: tail)).toList = c :: tail := String.toList_ofList
      exact .joined setting starts (fun same => other tail (by rw [same])) rest
  · next switch found =>
    -- The switches with a letter end the reading.
    rcases Switch.eq_help_or_version_of_lookup found with rfl | rfl <;> cases read
  · cases read

theorem says_of_readArgument (read : readArgument given expected argument = .ok (next, after)) :
    Says argument given next expected after := by
  unfold readArgument at read
  split at read
  · obtain ⟨taken, rfl⟩ := eq_ok_of_map read
    refine ⟨[.trace argument], Given.takeAll_singleton.trans taken, ?_⟩
    rintro words arguments rfl
    rfl
  · cases read
  · next setting option =>
    obtain ⟨taken, rfl⟩ := eq_ok_of_map read
    refine .word (.value setting argument) taken fun words arguments rest => ?_
    exact ⟨argument, words, arguments, rfl, rfl, option, rest⟩
  · next dashes =>
    cases read
    obtain rfl : argument = "--" := String.toList_injective dashes
    refine ⟨[], rfl, ?_⟩
    rintro words arguments rfl
    exact .traces arguments
  · next long => exact says_of_readLong long read
  · next letters => exact says_of_readLetters letters read
  · next dashes long letters =>
    obtain ⟨taken, rfl⟩ := eq_ok_of_map read
    refine .word (.trace argument) taken fun words arguments rest => ?_
    exact .trace letters rest

-- An argument can end the reading, but never with a replay.

theorem Given.take_ne_replay (given : Given) (word : Word) :
    given.take word ≠ .error (.replay path options) := by
  cases word with
  | trace text =>
    simp only [take, putTrace]
    split <;> nofun
  | value setting text =>
    cases setting
    all_goals
      simp only [take, put]
      split <;> nofun
  | switch switch =>
    cases switch with
    | help => nofun
    | version => nofun
    | _ =>
      simp only [take, turnOn]
      split <;> nofun

theorem map_ne_replay {α β : Type} {result : Except Invocation α} {f : α → β}
    (other : result ≠ .error (.replay path options)) :
    result.map f ≠ .error (.replay path options) := by
  cases result with
  | ok => nofun
  | error e => simpa [Except.map] using other

theorem readLong_ne_replay (given : Given) (text : List Char) :
    readLong given text ≠ .error (.replay path options) := by
  unfold readLong
  split
  split
  · exact map_ne_replay (given.take_ne_replay (.value _ _))
  · nofun
  · exact map_ne_replay (given.take_ne_replay (.switch _))
  · nofun
  · nofun

theorem readLetters_ne_replay (given : Given) (text : List Char) :
    readLetters given text ≠ .error (.replay path options) := by
  induction text generalizing given with
  | nil => nofun
  | cons letter rest ih =>
    unfold readLetters
    split
    · nofun
    · exact map_ne_replay (given.take_ne_replay (.value _ _))
    · exact map_ne_replay (given.take_ne_replay (.value _ _))
    · next switch _ =>
      have other : given.turnOn switch ≠ .error (.replay path options) :=
        given.take_ne_replay (.switch switch)
      split
      · next refused =>
        rw [refused] at other
        exact fun same => other (by cases same; rfl)
      · exact ih _
    · nofun

theorem readArgument_ne_replay (given : Given) (expected : Expected) (argument : String) :
    readArgument given expected argument ≠ .error (.replay path options) := by
  unfold readArgument
  split
  · exact map_ne_replay (given.take_ne_replay (.trace _))
  · nofun
  · exact map_ne_replay (given.take_ne_replay (.value _ _))
  · nofun
  · exact readLong_ne_replay given _
  · exact readLetters_ne_replay given _
  · exact map_ne_replay (given.take_ne_replay (.trace _))

/-! ## All arguments -/

theorem Given.takeAll_append {said : List Word} (first : given.takeAll said = .ok next)
    (words : List Word) : given.takeAll (said ++ words) = next.takeAll words := by
  rw [takeAll] at first
  rw [takeAll, List.foldlM_append, first]
  rfl

theorem exists_words_of_replay
    (asked : readArguments given expected arguments = .replay path options) :
    ∃ words last, SpellsFrom expected words arguments ∧ given.takeAll words = .ok last ∧
      last.invocation = .replay path options := by
  -- An argument may announce a value only, so the words come of what follows it as well.
  induction arguments generalizing given expected with
  | nil =>
    cases expected with
    | argument => exact ⟨[], given, .done, rfl, asked⟩
    | value setting => cases asked
    | trace => exact ⟨[], given, rfl, rfl, asked⟩
  | cons argument rest ih =>
    unfold readArguments at asked
    split at asked
    · next refused =>
      exact absurd (asked ▸ refused) (readArgument_ne_replay given expected argument)
    · next next after read =>
      obtain ⟨words, last, spells, taken, invoked⟩ := ih asked
      obtain ⟨said, first, spelt⟩ := says_of_readArgument read
      exact ⟨said ++ words, last, spelt words rest spells,
        (Given.takeAll_append first words).trans taken, invoked⟩

theorem ofArguments_eq_replay_iff_words :
    Invocation.ofArguments arguments = .replay path options ↔
      ∃ words last, Spells words arguments ∧ ({} : Given).takeAll words = .ok last ∧
        last.invocation = .replay path options := by
  refine ⟨exists_words_of_replay, ?_⟩
  rintro ⟨words, last, spells, taken, invoked⟩
  exact (readArguments_of_spells spells taken).trans invoked

/-! ## Flags -/

def beforeDashes (arguments : List String) : List String :=
  arguments.takeWhile (· ≠ "--")

def IsForeign (argument : String) : Prop :=
  argument ≠ "--" ∧ ∀ switch : Switch, argument ≠ switch.flag

theorem IsForeign.mem_beforeDashes_iff (foreign : IsForeign argument) (switch : Switch) :
    switch.flag ∈ beforeDashes (argument :: arguments) ↔ switch.flag ∈ beforeDashes arguments := by
  obtain ⟨dashes, flags⟩ := foreign
  simp [beforeDashes, dashes, (flags switch).symm]

theorem IsForeign.of_short (short : ∀ text, argument.toList ≠ '-' :: '-' :: text) :
    IsForeign argument := by
  refine ⟨?_, fun switch => ?_⟩
  · rintro rfl
    exact short [] rfl
  · rintro rfl
    cases switch <;> exact short _ rfl

theorem IsOperand.isForeign (operand : IsOperand argument) : IsForeign argument :=
  .of_short fun text => operand '-' text

theorem Setting.Opens.isForeign {setting : Setting} (opens : setting.Opens argument) :
    IsForeign argument := by
  rcases opens with rfl | rfl <;> cases setting
  all_goals
    refine ⟨by decide, fun switch => ?_⟩
    cases switch <;> decide

theorem IsForeign.of_equals (equals : '=' ∈ argument.toList) : IsForeign argument := by
  refine ⟨?_, fun switch => ?_⟩
  · rintro rfl
    revert equals
    decide
  · rintro rfl
    revert equals
    cases switch <;> decide

theorem IsForeign.of_joined (setting : Setting) (text : String) :
    IsForeign (String.ofList ['-', setting.letter] ++ text) := by
  refine .of_short fun tail => ?_
  simp [setting.letter_ne_dash]

theorem Spells.mem_switch_iff (spells : Spells words arguments) (switch : Switch) :
    .switch switch ∈ words ↔ switch.flag ∈ beforeDashes arguments := by
  induction spells with
  | done => simp [beforeDashes]
  | traces paths => simp [beforeDashes]
  | trace operand _ ih =>
    rw [operand.isForeign.mem_beforeDashes_iff, ← ih]
    simp
  | flag other _ ih =>
    simp [beforeDashes, other.flag_ne_dashes, Switch.flag_inj, ih]
  | apart opens operand _ ih =>
    rw [opens.isForeign.mem_beforeDashes_iff, operand.isForeign.mem_beforeDashes_iff, ← ih]
    simp
  | equals opens text _ ih =>
    rw [IsForeign.mem_beforeDashes_iff (.of_equals (by simp)), ← ih]
    simp
  | joined setting _ _ _ ih =>
    rw [IsForeign.mem_beforeDashes_iff (.of_joined setting _), ← ih]
    simp

end UsbIdentity.Cli
