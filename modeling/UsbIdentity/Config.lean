import UsbIdentity.Limits
import UsbIdentity.Schema.Reader

namespace UsbIdentity

open Schema

def Field.reader : Reader Field :=
  variant (Field.all.map fun field => (field.label, field))

def Field.toJson (field : Field) : Json :=
  .string field.label

namespace Limits

def slots : List (Slot Limits) :=
  [optional "generic_string" size fun v limits => { limits with genericString := v },
    optional "vendor_id" size fun v limits => { limits with vendorId := v },
    optional "product_id" size fun v limits => { limits with productId := v },
    optional "port" size fun v limits => { limits with port := v }]

def reader : Reader Limits :=
  record "FieldLimits" slots {}

def members (limits : Limits) : List (String × UInt64) :=
  [("generic_string", limits.genericString), ("vendor_id", limits.vendorId),
    ("product_id", limits.productId), ("port", limits.port)]

def toJson (limits : Limits) : Json :=
  .object (limits.members.map fun (name, value) => (name, .natural value.toNat))

end Limits

inductive OutputFormat where
  | text
  | json
  deriving DecidableEq, Repr

namespace OutputFormat

def all : List OutputFormat :=
  [.text, .json]

def name : OutputFormat → String
  | .text => "text"
  | .json => "json"

def reader : Reader OutputFormat :=
  variant (all.map fun format => (format.name, format))

end OutputFormat

structure RuleSettings where
  includePort : Bool := false
  format : OutputFormat := .text
  deriving DecidableEq, Repr

namespace RuleSettings

def slots : List (Slot RuleSettings) :=
  [optional "include_port" boolean fun v settings => { settings with includePort := v },
    optional "format" OutputFormat.reader fun v settings => { settings with format := v }]

def reader : Reader RuleSettings :=
  record "RulesConfig" slots {}

def toJson (settings : RuleSettings) : Json :=
  .object [("include_port", .boolean settings.includePort),
    ("format", .string settings.format.name)]

end RuleSettings

structure LogSettings where
  level : String := "info"
  deriving DecidableEq, Repr

namespace LogSettings

def slots : List (Slot LogSettings) :=
  [optional "level" string fun v settings => { settings with level := v }]

def reader : Reader LogSettings :=
  record "LoggingConfig" slots {}

def toJson (settings : LogSettings) : Json :=
  .object [("level", .string settings.level)]

end LogSettings

structure Config where
  limits : Limits := {}
  rules : RuleSettings := {}
  logging : LogSettings := {}
  deriving DecidableEq, Repr

namespace Config

def slots : List (Slot Config) :=
  [optional "limits" Limits.reader fun v config => { config with limits := v },
    optional "rules" RuleSettings.reader fun v config => { config with rules := v },
    optional "logging" LogSettings.reader fun v config => { config with logging := v }]

def reader : Reader Config :=
  record "Config" slots {}

def toJson (config : Config) : Json :=
  .object [("limits", config.limits.toJson), ("rules", config.rules.toJson),
    ("logging", config.logging.toJson)]

end Config

end UsbIdentity
