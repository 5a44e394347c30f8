import UsbIdentity.Cli.Run

namespace UsbIdentity.Cli

def errorNumber (code : UInt32) : UInt32 :=
  if code < 0x80000000 then code else 0 - code

def fileError : IO.Error → FileError
  | .noFileOrDirectory .. => .notFound
  | .inappropriateType _ code _ => if errorNumber code = 21 then .isDirectory else .notDirectory
  | e@(.invalidArgument _ code _) =>
    if errorNumber code = 36 then .nameTooLong
    else if errorNumber code = 40 then .other "Too many levels of symbolic links (os error 40)"
    else .other (toString e)
  | .permissionDenied .. => .other "Permission denied (os error 13)"
  | e => .other (toString e)

def attempt {α : Type} (action : IO α) : IO (Except FileError α) := do
  try
    return .ok (← action)
  catch e =>
    return .error (fileError e)

structure Sighting where
  present : List String := []
  contents : List (String × Except FileError ByteArray) := []

namespace Sighting

def read (sighting : Sighting) (path : String) : Except FileError ByteArray :=
  (sighting.contents.lookup path).getD (.error .notFound)

/-- The view of the files. What was read was there, even if it came only after the look at it. -/
def files (sighting : Sighting) (writable : Except FileError Unit) : Files where
  isPresent path := sighting.present.contains path || (sighting.read path).isOk
  read := sighting.read
  isPresent_of_read read := by
    rw [read]
    exact Bool.or_true _
  writable _ := writable

end Sighting

def look (paths : List String) : IO Sighting := do
  let present ← paths.filterM fun (path : String) => do
    return (← attempt (IO.FS.realPath path)).isOk
  let contents ← paths.mapM fun (path : String) => do
    return (path, ← attempt (IO.FS.readBinFile path))
  return { present, contents }

def survey : Invocation → IO Files
  | .replay trace options => return (← look [options.config, trace]).files (.error .notFound)
  | .writeDefaults path => do
    let opened ← attempt (IO.FS.Handle.mk path .append)
    return Sighting.files {} (opened.map fun _ => ())
  | _ => return Sighting.files {} (.error .notFound)

def execute (arguments : List String) : IO UInt32 := do
  let invocation := Invocation.ofArguments arguments
  let outcome := perform (← survey invocation) invocation
  if let some (path, text) := outcome.written then
    IO.FS.writeFile path text
  IO.print outcome.output
  for event in outcome.log do
    IO.eprintln event.line
  if let some error := outcome.error then
    IO.eprintln ("Error: " ++ error.message)
  return outcome.exitCode.toUInt32

end UsbIdentity.Cli

def main (arguments : List String) : IO UInt32 :=
  UsbIdentity.Cli.execute arguments
