namespace UsbIdentity.Cli

def defaultConfig : String :=
  "bastion.toml"

structure Options where
  config : String := defaultConfig
  logLevel : Option String := none
  includePort : Bool := false
  json : Bool := false
  deriving DecidableEq, Repr

inductive Invocation where
  | replay (trace : String) (options : Options)
  | writeDefaults (path : String)
  | help
  | version
  | misuse
  deriving DecidableEq, Repr

inductive Setting where
  | config
  | logLevel
  deriving DecidableEq, Repr

inductive Switch where
  | includePort
  | json
  | initConfig
  | help
  | version
  deriving DecidableEq, Repr

def longNames : List (String × (Setting ⊕ Switch)) :=
  [("config", .inl .config), ("log-level", .inl .logLevel), ("include-port", .inr .includePort),
    ("json", .inr .json), ("init-config", .inr .initConfig), ("help", .inr .help),
    ("version", .inr .version)]

def letters : List (Char × (Setting ⊕ Switch)) :=
  [('c', .inl .config), ('l', .inl .logLevel), ('h', .inr .help), ('V', .inr .version)]

structure Given where
  trace : Option String := none
  config : Option String := none
  logLevel : Option String := none
  includePort : Bool := false
  json : Bool := false
  initConfig : Bool := false
  deriving DecidableEq, Repr

namespace Given

def putTrace (given : Given) (path : String) : Except Invocation Given :=
  if given.trace.isSome || path == "" then .error .misuse
  else .ok { given with trace := some path }

def put (given : Given) (value : String) : Setting → Except Invocation Given
  | .config =>
    if given.config.isSome || value == "" then .error .misuse
    else .ok { given with config := some value }
  | .logLevel =>
    if given.logLevel.isSome then .error .misuse
    else .ok { given with logLevel := some value }

def turnOn (given : Given) : Switch → Except Invocation Given
  | .includePort =>
    if given.includePort then .error .misuse else .ok { given with includePort := true }
  | .json => if given.json then .error .misuse else .ok { given with json := true }
  | .initConfig =>
    if given.initConfig then .error .misuse else .ok { given with initConfig := true }
  | .help => .error .help
  | .version => .error .version

def invocation (given : Given) : Invocation :=
  let config := given.config.getD defaultConfig
  if given.initConfig then .writeDefaults config
  else
    match given.trace with
    | none => .misuse
    | some trace =>
      .replay trace
        { config, logLevel := given.logLevel, includePort := given.includePort, json := given.json }

end Given

inductive Expected where
  | argument
  | value (setting : Setting)
  | trace
  deriving DecidableEq, Repr

def splitValue : List Char → List Char × Option (List Char)
  | [] => ([], none)
  | c :: rest =>
    if c = '=' then ([], some rest)
    else
      let (name, value) := splitValue rest
      (c :: name, value)

def readLong (given : Given) (text : List Char) : Except Invocation (Given × Expected) :=
  let (name, value) := splitValue text
  match longNames.lookup (String.ofList name), value with
  | some (.inl setting), some value =>
    (given.put (String.ofList value) setting).map fun given => (given, .argument)
  | some (.inl setting), none => .ok (given, .value setting)
  | some (.inr switch), none => (given.turnOn switch).map fun given => (given, .argument)
  | some (.inr _), some _ => .error .misuse
  | none, _ => .error .misuse

/-- Reads letters after one dash. What follows the letter of an option with a value is the value. -/
def readLetters (given : Given) : List Char → Except Invocation (Given × Expected)
  | [] => .ok (given, .argument)
  | c :: rest =>
    match letters.lookup c, rest with
    | some (.inl setting), [] => .ok (given, .value setting)
    | some (.inl setting), '=' :: value =>
      (given.put (String.ofList value) setting).map fun given => (given, .argument)
    | some (.inl setting), value =>
      (given.put (String.ofList value) setting).map fun given => (given, .argument)
    | some (.inr switch), rest =>
      match given.turnOn switch with
      | .error e => .error e
      | .ok given => readLetters given rest
    | none, _ => .error .misuse

def readArgument (given : Given) (expected : Expected) (argument : String) :
    Except Invocation (Given × Expected) :=
  match expected, argument.toList with
  | .trace, _ => (given.putTrace argument).map fun given => (given, .trace)
  | .value _, '-' :: _ :: _ => .error .misuse
  | .value setting, _ => (given.put argument setting).map fun given => (given, .argument)
  | .argument, ['-', '-'] => .ok (given, .trace)
  | .argument, '-' :: '-' :: text => readLong given text
  | .argument, '-' :: c :: text => readLetters given (c :: text)
  | .argument, _ => (given.putTrace argument).map fun given => (given, .argument)

def readArguments (given : Given) (expected : Expected) : List String → Invocation
  | [] =>
    match expected with
    | .value _ => .misuse
    | _ => given.invocation
  | argument :: rest =>
    match readArgument given expected argument with
    | .error invocation => invocation
    | .ok (given, expected) => readArguments given expected rest

def Invocation.ofArguments (arguments : List String) : Invocation :=
  readArguments {} .argument arguments

end UsbIdentity.Cli
