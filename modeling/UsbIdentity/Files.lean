/-!
# Files by their paths

A run reads at most two files and writes at most one. What it needs of the surrounding file system
is a view: whether anything is found under a path, what reading it gives, and whether it can be
written. What cannot be read may still be found, as a directory is; nothing is found where a path
leads through a directory that may not be searched or goes around in links.
-/

namespace UsbIdentity

inductive FileError where
  | notFound
  | notDirectory
  | isDirectory
  | nameTooLong
  | notUtf8
  | other (reason : String)
  deriving DecidableEq, Repr

namespace FileError

def message : FileError → String
  | .notFound => "No such file or directory (os error 2)"
  | .notDirectory => "Not a directory (os error 20)"
  | .isDirectory => "Is a directory (os error 21)"
  | .nameTooLong => "File name too long (os error 36)"
  | .notUtf8 => "stream did not contain valid UTF-8"
  | .other reason => reason

end FileError

structure Files where
  isPresent : String → Bool
  read : String → Except FileError ByteArray
  isPresent_of_read {path : String} {bytes : ByteArray} :
    read path = .ok bytes → isPresent path = true
  writable : String → Except FileError Unit

namespace Files

def readText (files : Files) (path : String) : Except FileError String :=
  match files.read path with
  | .error e => .error e
  | .ok bytes =>
    match String.fromUTF8? bytes with
    | some text => .ok text
    | none => .error .notUtf8

theorem isPresent_of_readText {files : Files} {path text : String}
    (readable : files.readText path = .ok text) : files.isPresent path = true := by
  unfold readText at readable
  split at readable
  · cases readable
  · next read => exact files.isPresent_of_read read

end Files

end UsbIdentity
