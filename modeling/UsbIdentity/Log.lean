namespace UsbIdentity

inductive LogLevel where
  | trace
  | debug
  | info
  | warn
  | error
  deriving DecidableEq, Repr

namespace LogLevel

def all : List LogLevel :=
  [.trace, .debug, .info, .warn, .error]

def name : LogLevel → String
  | .trace => "trace"
  | .debug => "debug"
  | .info => "info"
  | .warn => "warn"
  | .error => "error"

def label : LogLevel → String
  | .trace => "TRACE"
  | .debug => "DEBUG"
  | .info => "INFO"
  | .warn => "WARN"
  | .error => "ERROR"

def rank : LogLevel → Nat
  | .trace => 0
  | .debug => 1
  | .info => 2
  | .warn => 3
  | .error => 4

def ofText (text : String) : LogLevel :=
  let lower := text.toList.map Char.toLower
  (all.find? fun level => level.name.toList == lower).getD .info

def shows (threshold level : LogLevel) : Bool :=
  threshold.rank ≤ level.rank

end LogLevel

structure LogEvent where
  level : LogLevel
  source : String
  message : String
  values : List (String × String) := []
  deriving DecidableEq, Repr

namespace LogEvent

def line (event : LogEvent) : String :=
  event.level.label ++ " " ++ event.source ++ ": " ++ event.message ++
    String.join (event.values.map fun (name, value) => " " ++ name ++ "=" ++ value)

end LogEvent

namespace LogLevel

def select (threshold : LogLevel) (events : List LogEvent) : List LogEvent :=
  events.filter fun event => threshold.shows event.level

end LogLevel

end UsbIdentity
