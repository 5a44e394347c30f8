import UsbIdentity.Files
import UsbIdentity.Json.Text
import UsbIdentity.Trace.Schema

namespace UsbIdentity

open Schema

inductive TraceFileError where
  | unreadable (error : FileError)
  | unparsable (error : ReadError)
  deriving DecidableEq, Repr

def TraceFileError.message (path : String) : TraceFileError → String
  | .unreadable _ => "Failed to read trace " ++ path
  | .unparsable _ => "Failed to parse trace " ++ path

def Trace.ofText (text : String) : Except ReadError Trace :=
  Json.readText Trace.reader text

def Trace.load (files : Files) (path : String) : Except TraceFileError Trace :=
  match files.readText path with
  | .error e => .error (.unreadable e)
  | .ok text =>
    match Trace.ofText text with
    | .error e => .error (.unparsable e)
    | .ok trace => .ok trace

end UsbIdentity
