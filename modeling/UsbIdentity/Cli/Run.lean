import UsbIdentity.Cli.Arguments
import UsbIdentity.Config.File
import UsbIdentity.Rule.Schema
import UsbIdentity.Rule.Text
import UsbIdentity.Trace.File
import UsbIdentity.Trace.Narration

namespace UsbIdentity.Cli

inductive RunError where
  | config (error : ConfigFileError)
  | trace (path : String) (error : TraceFileError)
  | session (error : SessionError)
  | write (error : FileError)
  deriving DecidableEq, Repr

def RunError.message : RunError → String
  | .config error => error.message
  | .trace path error => error.message path
  | .session error => error.message
  | .write error => error.message

structure Outcome where
  exitCode : UInt8
  output : String := ""
  log : List LogEvent := []
  error : Option RunError := none
  written : Option (String × String) := none
  deriving DecidableEq, Repr

def version : String :=
  "0.1.0"

def greeting : LogEvent where
  level := .info
  source := "bastion"
  message := "Bastion v" ++ version

def help : List String :=
  ["Generate USB device authorization rules from descriptor traces",
    "",
    "Usage: bastion [OPTIONS] [TRACE]",
    "",
    "Arguments:",
    "  [TRACE]  Descriptor trace (JSON) to replay",
    "",
    "Options:",
    "  -c, --config <CONFIG>        Path to configuration file [default: bastion.toml]",
    "  -l, --log-level <LOG_LEVEL>  Log level (trace, debug, info, warn, error); overrides the config file",
    "      --include-port           Pin the rule to the port the device was seen on",
    "      --json                   Print the rule as JSON instead of rule text",
    "      --init-config            Write a default configuration file and exit",
    "  -h, --help                   Print help",
    "  -V, --version                Print version"]

def printRule (format : OutputFormat) (rule : Rule) : String :=
  match format with
  | .text => rule.text
  | .json => rule.toJson.pretty

def fail (error : RunError) (log : List LogEvent) : Outcome :=
  { exitCode := 1, log, error := some error }

def writeDefaults (files : Files) (path : String) : Outcome :=
  match files.writable path with
  | .error e => fail (.write e) []
  | .ok () =>
    { exitCode := 0
      output := "Wrote default configuration to " ++ path ++ "\n"
      written := some (path, Config.document {}) }

def replay (files : Files) (path : String) (options : Options) (config : Config) : Outcome :=
  let level := LogLevel.ofText (options.logLevel.getD config.logging.level)
  let includePort := options.includePort || config.rules.includePort
  let format := if options.json then .json else config.rules.format
  match Trace.load files path with
  | .error e => fail (.trace path e) (level.select [greeting])
  | .ok trace =>
    let log := level.select (greeting :: trace.replayEvents config.limits includePort)
    match trace.replay config.limits includePort with
    | .error e => fail (.session e) log
    | .ok rule => { exitCode := 0, output := printRule format rule ++ "\n", log }

def perform (files : Files) : Invocation → Outcome
  | .help => { exitCode := 0, output := String.join (help.map (· ++ "\n")) }
  | .version => { exitCode := 0, output := "bastion " ++ version ++ "\n" }
  | .misuse => { exitCode := 2 }
  | .writeDefaults path => writeDefaults files path
  | .replay path options =>
    match Config.load files options.config with
    | .error e => fail (.config e) []
    | .ok config => replay files path options config

def run (files : Files) (arguments : List String) : Outcome :=
  perform files (.ofArguments arguments)

end UsbIdentity.Cli
