import UsbIdentity.Config
import UsbIdentity.Toml.Reader

namespace UsbIdentity.Config

open Schema

def ofDocument (text : String) : Except ReadError Config :=
  match Toml.ofText? text with
  | none => .error .malformed
  | some table => reader { origin := .settings } table.draft

def floatLayout : Decimal.Layout where
  positional _ := true

def errorText (mismatch : Mismatch) : String :=
  mismatch.message floatLayout

def escape (c : Char) : List Char :=
  if c = '"' then ['\\', '"']
  else if c = '\\' then ['\\', '\\']
  else if c.toNat < 0x20 ∨ c.toNat = 0x7f then
    '\\' :: 'u' :: '0' :: '0' :: Hex.byte (UInt8.ofNat c.toNat)
  else [c]

def quoted (text : String) : String :=
  String.ofList ('"' :: (text.toList.flatMap escape ++ ['"']))

def lines (config : Config) : List String :=
  ["[limits]"] ++
    config.limits.members.map (fun (key, value) => s!"{key} = {value}") ++
    ["", "[rules]", s!"include_port = {config.rules.includePort}",
      s!"format = {quoted config.rules.format.name}", "", "[logging]",
      s!"level = {quoted config.logging.level}"]

def document (config : Config) : String :=
  String.join (config.lines.map (· ++ "\n"))

end UsbIdentity.Config
