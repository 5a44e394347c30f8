import UsbIdentity.Config.Document
import UsbIdentity.Files

namespace UsbIdentity

open Schema

inductive ConfigFileError where
  | unreadable (error : FileError)
  | unparsable (error : ReadError)
  deriving DecidableEq, Repr

def ConfigFileError.message : ConfigFileError → String
  | .unreadable error => error.message
  | .unparsable _ => "TOML parse error"

def Config.load (files : Files) (path : String) : Except ConfigFileError Config :=
  if files.isPresent path then
    match files.readText path with
    | .error e => .error (.unreadable e)
    | .ok text =>
      match Config.ofDocument text with
      | .error e => .error (.unparsable e)
      | .ok config => .ok config
  else .ok {}

end UsbIdentity
