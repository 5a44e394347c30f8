import UsbIdentity.Schema.Draft

namespace UsbIdentity

inductive Toml where
  | boolean (value : Bool)
  | integer (value : Int)
  | float (value : Binary64)
  | string (value : String)
  | moment
  | array (items : List Toml)
  | table (entries : List (String × Toml))

namespace Toml

mutual

def draft : Toml → Draft
  | .boolean value => .boolean value
  | .integer value => .number (some (.integer value))
  | .float value => .number (some (.float value))
  | .string value => .string (some value)
  | .moment => .object [(.ofName "date", .null), (.ofName "time", .null)] none
  | .array items => .array (itemDrafts items) none
  | .table entries => .object (entryDrafts entries) none

def itemDrafts : List Toml → List Draft
  | [] => []
  | item :: items => draft item :: itemDrafts items

def entryDrafts : List (String × Toml) → List (Draft × Draft)
  | [] => []
  | (key, value) :: entries => (.ofName key, draft value) :: entryDrafts entries

end

end Toml

end UsbIdentity
