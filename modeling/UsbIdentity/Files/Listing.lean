import UsbIdentity.Files
import UsbIdentity.Text.Split

/-!
# Directories by their listings

A directory whose content is known: every file with its bytes, and directories with nothing, each
under its path. A directory also exists where a listed path leads through it. Around it are the
directories above, whose names are not known, and the root of the file system, which holds what is
listed under an absolute path.
-/

namespace UsbIdentity

inductive Base where
  | here
  | above
  | root
  deriving DecidableEq, Repr

structure Location where
  base : Base
  names : List String := []
  deriving DecidableEq, Repr

namespace Location

def child (location : Location) (name : String) : Location :=
  { location with names := name :: location.names }

def parent : Location → Location
  | ⟨base, _ :: names⟩ => ⟨base, names⟩
  | ⟨.root, []⟩ => ⟨.root, []⟩
  | ⟨_, []⟩ => ⟨.above, []⟩

def isWithin (inner outer : Location) : Bool :=
  inner.base == outer.base && outer.names.isSuffixOf inner.names

end Location

/-- What a listed path names: a file with its bytes, or a directory. -/
abbrev Listing := List (String × Option ByteArray)

inductive Entry where
  | file (bytes : ByteArray)
  | directory
  | nothing

namespace Listing

def greatestPath : Nat := 4095

def greatestName : Nat := 255

def base (path : String) : Base :=
  if path.toList.head? == some '/' then .root else .here

def components (path : String) : List String :=
  (Text.splitOn '/' path.toList).map String.ofList

def locate (path : String) : Location :=
  ⟨base path, ((components path).filter (· != "")).reverse⟩

def entry (listing : Listing) (location : Location) : Entry :=
  if location.names.isEmpty then .directory
  else
    match listing.find? fun (path, _) => locate path == location with
    | some (_, some bytes) => .file bytes
    | some (_, none) => .directory
    | none =>
      if listing.any fun (path, _) => (locate path).isWithin location then .directory
      else .nothing

def isStep (component : String) : Bool :=
  component == "" || component == "." || component == ".."

def lookUp (location : Location) (name : String) : Except FileError Location :=
  if greatestName < name.utf8ByteSize then .error .nameTooLong
  else .ok (location.child name)

def step (location : Location) (component : String) : Except FileError Location :=
  if component == "" || component == "." then .ok location
  else if component == ".." then .ok location.parent
  else lookUp location component

def walk (listing : Listing) (location : Location) : List String → Except FileError Location
  | [] => .ok location
  | component :: rest =>
    match listing.entry location with
    | .nothing => .error .notFound
    | .file _ => .error .notDirectory
    | .directory =>
      match step location component with
      | .error e => .error e
      | .ok next => listing.walk next rest

def start (path : String) : Except FileError Location :=
  if path == "" then .error .notFound
  else if greatestPath < path.utf8ByteSize then .error .nameTooLong
  else .ok ⟨base path, []⟩

def resolve (listing : Listing) (path : String) : Except FileError Location :=
  match start path with
  | .error e => .error e
  | .ok first => listing.walk first (components path)

def entryAt (listing : Listing) (path : String) : Except FileError Entry :=
  (listing.resolve path).map listing.entry

def isPresent (listing : Listing) (path : String) : Bool :=
  match listing.entryAt path with
  | .error _ => false
  | .ok .nothing => false
  | .ok _ => true

def read (listing : Listing) (path : String) : Except FileError ByteArray :=
  match listing.entryAt path with
  | .error e => .error e
  | .ok (.file bytes) => .ok bytes
  | .ok .directory => .error .isDirectory
  | .ok .nothing => .error .notFound

theorem isPresent_of_read {listing : Listing} {path : String} {bytes : ByteArray}
    (read : listing.read path = .ok bytes) : listing.isPresent path = true := by
  unfold Listing.read at read
  split at read
  · cases read
  · next found => rw [isPresent, found]
  · cases read
  · cases read

def destinationIn (listing : Listing) (parent : Location) (name : String) :
    Except FileError Location :=
  if isStep name then .error .isDirectory
  else
    match lookUp parent name with
    | .error e => .error e
    | .ok location =>
      match listing.entry location with
      | .directory => .error .isDirectory
      | _ => .ok location

/-- The location that writing to a path makes or replaces. A path that ends in a slash asks for a
directory. -/
def destination (listing : Listing) (path : String) : Except FileError Location :=
  let written := (components path).reverse
  let named := written.dropWhile (· == "")
  match start path with
  | .error e => .error e
  | .ok first =>
    match listing.walk first named.tail.reverse with
    | .error e => .error e
    | .ok parent =>
      match listing.entry parent, named with
      | .nothing, _ => .error .notFound
      | .file _, _ => .error .notDirectory
      | .directory, [] => .error .isDirectory
      | .directory, name :: _ =>
        if named.length < written.length then .error .isDirectory
        else listing.destinationIn parent name

def files (listing : Listing) : Files where
  isPresent := listing.isPresent
  read := listing.read
  isPresent_of_read := isPresent_of_read
  writable path := (listing.destination path).map fun _ => ()

def created? (listing : Listing) (path : String) : Option String :=
  match listing.destination path with
  | .ok ⟨.here, [name]⟩ =>
    match listing.entry ⟨.here, [name]⟩ with
    | .nothing => some name
    | _ => none
  | _ => none

end Listing

end UsbIdentity
