import UsbIdentity.Decimal.Shortest
import UsbIdentity.DeviceError
import UsbIdentity.Text.Literal

namespace UsbIdentity.Schema

inductive Found where
  | null
  | boolean (value : Bool)
  | integer (value : Int)
  | float (value : Binary64)
  | string (value : String)
  | sequence
  | map
  deriving DecidableEq, Repr

def Found.describe (floats : Decimal.Layout) : Found → String
  | .null => "null"
  | .boolean value => if value then "boolean `true`" else "boolean `false`"
  | .integer value => s!"integer `{value}`"
  | .float value => s!"floating point `{Decimal.render floats value}`"
  | .string value => s!"string {Text.literal value}"
  | .sequence => "sequence"
  | .map => "map"

inductive Mismatch where
  | wrongType (found : Found) (expected : String)
  | wrongValue (found : Found) (expected : String)
  | wrongLength (length : Nat) (expected : String)
  | missingField (name : String)
  | duplicateField (name : String)
  | unknownVariant (name : String) (known : List String)
  | invalid (value : InvalidValue)
  deriving DecidableEq, Repr

def listNames : List String → String
  | [] => ""
  | [name] => s!"`{name}`"
  | name :: names => s!"`{name}`, " ++ listNames names

def oneOf : List String → String
  | [] => "there are no variants"
  | [name] => s!"expected `{name}`"
  | [first, second] => s!"expected `{first}` or `{second}`"
  | names => "expected one of " ++ listNames names

def Mismatch.message (floats : Decimal.Layout) : Mismatch → String
  | .wrongType found expected => s!"invalid type: {found.describe floats}, expected {expected}"
  | .wrongValue found expected => s!"invalid value: {found.describe floats}, expected {expected}"
  | .wrongLength length expected => s!"invalid length {length}, expected {expected}"
  | .missingField name => s!"missing field `{name}`"
  | .duplicateField name => s!"duplicate field `{name}`"
  | .unknownVariant name known => s!"unknown variant `{name}`, " ++ oneOf known
  | .invalid value => value.message

end UsbIdentity.Schema
