import UsbIdentity.Schema.Draft
import UsbIdentity.Schema.Mismatch

namespace UsbIdentity.Schema

inductive ReadError where
  | fault (fault : Fault)
  | mismatch (mismatch : Mismatch)
  deriving DecidableEq, Repr

/-- Where a draft comes from. The same data is held to slightly different rules. -/
inductive Origin where
  | text
  | kept
  | value
  | settings
  deriving DecidableEq, Repr

def greatestDepth : Nat := 127

structure Context where
  origin : Origin
  depth : Nat := greatestDepth

abbrev Reader (α : Type) := Context → Draft → Except ReadError α

def ReadError.malformed : ReadError :=
  .fault .malformed

def Context.enter (context : Context) : Except ReadError Context :=
  if context.origin = .text then
    match context.depth with
    | 0 => .error .malformed
    | depth + 1 => .ok { context with depth }
  else .ok context

def closed : Option Break → Except ReadError Unit
  | none => .ok ()
  | some stop => .error (.fault stop.reading)

/-- The error of a draft that is not what is expected. A number that cannot be represented, a string
that denotes no text and a value that breaks off are faults first. -/
def wrongType (expected : String) : Draft → ReadError
  | .null => .mismatch (.wrongType .null expected)
  | .boolean value => .mismatch (.wrongType (.boolean value) expected)
  | .number (some (.integer value)) => .mismatch (.wrongType (.integer value) expected)
  | .number (some (.float value)) => .mismatch (.wrongType (.float value) expected)
  | .number none => .malformed
  | .string (some value) => .mismatch (.wrongType (.string value) expected)
  | .string none => .malformed
  | .array _ _ => .mismatch (.wrongType .sequence expected)
  | .object _ _ => .mismatch (.wrongType .map expected)
  | .absent => .fault .ended
  | .openString stop => .fault stop.reading
  | .broken stop => .fault stop.reading

def memberName : Draft → Except ReadError String
  | .string (some name) => .ok name
  | .absent => .error (.fault .ended)
  | .openString stop => .error (.fault stop.reading)
  | _ => .error .malformed

def skipName : Draft → Except ReadError Unit
  | .string _ => .ok ()
  | .absent => .error (.fault .ended)
  | .openString stop => .error (.fault stop.skipping)
  | _ => .error .malformed

mutual

def skip : Draft → Except ReadError Unit
  | .array items stop => do
    skipItems items
    match stop with
    | none => .ok ()
    | some stop => .error (.fault stop.skipping)
  | .object members stop => do
    skipMembers members
    match stop with
    | none => .ok ()
    | some stop => .error (.fault stop.skipping)
  | .absent => .error (.fault .ended)
  | .openString stop => .error (.fault stop.skipping)
  | .broken stop => .error (.fault stop.skipping)
  | _ => .ok ()

def skipItems : List Draft → Except ReadError Unit
  | [] => .ok ()
  | item :: items => do
    skip item
    skipItems items

def skipMembers : List (Draft × Draft) → Except ReadError Unit
  | [] => .ok ()
  | (name, value) :: members => do
    skipName name
    skip value
    skipMembers members

end

mutual

def keep (depth : Nat) : Draft → Except ReadError Json
  | .null => .ok .null
  | .boolean value => .ok (.boolean value)
  | .number (some value) => .ok (.number value)
  | .number none => .error .malformed
  | .string (some value) => .ok (.string value)
  | .string none => .error .malformed
  | .array items stop =>
    if depth = 0 then .error .malformed
    else do
      let items ← keepItems (depth - 1) items
      closed stop
      .ok (.array items)
  | .object members stop =>
    if depth = 0 then .error .malformed
    else do
      let members ← keepMembers (depth - 1) members
      closed stop
      .ok (.object members)
  | .absent => .error (.fault .ended)
  | .openString stop => .error (.fault stop.reading)
  | .broken stop => .error (.fault stop.reading)

def keepItems (depth : Nat) : List Draft → Except ReadError (List Json)
  | [] => .ok []
  | item :: items => do
    let item ← keep depth item
    let items ← keepItems depth items
    .ok (item :: items)

def keepMembers (depth : Nat) : List (Draft × Draft) → Except ReadError (List (String × Json))
  | [] => .ok []
  | (name, value) :: members => do
    let name ← memberName name
    let value ← keep depth value
    let members ← keepMembers depth members
    .ok ((name, value) :: members)

end

def integerBetween (least greatest : Int) (expected : String) : Reader Int
  | _, .number (some (.integer value)) =>
    if least ≤ value ∧ value ≤ greatest then .ok value
    else .error (.mismatch (.wrongValue (.integer value) expected))
  | _, draft => .error (wrongType expected draft)

def uint8 : Reader UInt8 := fun context draft =>
  (integerBetween 0 0xff "u8" context draft).map fun value => UInt8.ofNat value.toNat

def uint16 : Reader UInt16 := fun context draft =>
  (integerBetween 0 0xffff "u16" context draft).map fun value => UInt16.ofNat value.toNat

def uint32 : Reader UInt32 := fun context draft =>
  (integerBetween 0 0xffffffff "u32" context draft).map fun value => UInt32.ofNat value.toNat

def size : Reader UInt64 := fun context draft =>
  (integerBetween 0 0xffffffffffffffff "usize" context draft).map fun value =>
    UInt64.ofNat value.toNat

def int32 : Reader Int32 := fun context draft =>
  (integerBetween (-0x80000000) 0x7fffffff "i32" context draft).map Int32.ofInt

def boolean : Reader Bool
  | _, .boolean value => .ok value
  | _, draft => .error (wrongType "a boolean" draft)

def string : Reader String
  | _, .string (some value) => .ok value
  | _, draft => .error (wrongType "a string" draft)

def readItems {α : Type} (item : Reader α) (context : Context) :
    List Draft → Except ReadError (List α)
  | [] => .ok []
  | draft :: drafts => do
    let first ← item context draft
    let rest ← readItems item context drafts
    .ok (first :: rest)

def list {α : Type} (item : Reader α) : Reader (List α)
  | context, .array items stop => do
    let context ← context.enter
    let items ← readItems item context items
    closed stop
    .ok items
  | _, draft => .error (wrongType "a sequence" draft)

def caseNamed {α : Type} (cases : List (String × α)) (name : String) : Except ReadError α :=
  match cases.find? (·.1 = name) with
  | some (_, value) => .ok value
  | none => .error (.mismatch (.unknownVariant name (cases.map (·.1))))

def caseOf {α : Type} (cases : List (String × α)) : Draft → Except ReadError α
  | .string (some name) => caseNamed cases name
  | draft => .error (wrongType "variant identifier" draft)

def readUnit : Draft → Except ReadError Unit
  | .null => .ok ()
  | draft => .error (wrongType "unit" draft)

def hasNoParts : Draft → Bool
  | .array [] _ => true
  | .object [] _ => true
  | _ => false

def caseOfText {α : Type} (cases : List (String × α)) (members : List (Draft × Draft))
    (stop : Option Break) : Except ReadError α :=
  match members with
  | [] => do
    closed stop
    .error .malformed
  | (name, value) :: others => do
    let name ← memberName name
    let found ← caseNamed cases name
    readUnit value
    if others.isEmpty then
      closed stop
      .ok found
    else .error .malformed

def variant {α : Type} (cases : List (String × α)) : Reader α
  | _, .string (some name) => caseNamed cases name
  | context, .object members stop =>
    match context.origin with
    | .text => do
      let _ ← context.enter
      caseOfText cases members stop
    | .settings =>
      match members with
      | [(name, value)] => do
        let found ← caseOf cases name
        if hasNoParts value then .ok found else .error .malformed
      | _ => .error .malformed
    | _ =>
      match members with
      | [(name, value)] => do
        let found ← caseOf cases name
        readUnit value
        .ok found
      | _ => .error (.mismatch (.wrongValue .map "map with a single key"))
  | context, draft =>
    match context.origin, draft with
    | .text, .absent => .error (.fault .ended)
    | .text, .openString stop => .error (.fault stop.reading)
    | .text, _ => .error .malformed
    | .settings, _ => .error .malformed
    | _, draft => .error (wrongType "string or map" draft)

structure Slot (α : Type) where
  name : String
  required : Bool
  fill : Context → Draft → α → Except ReadError α

def Slot.ofReader {α β : Type} (name : String) (required : Bool) (reader : Reader β)
    (set : β → α → α) : Slot α where
  name := name
  required := required
  fill context draft record := do
    let value ← reader context draft
    .ok (set value record)

def optional {α β : Type} (name : String) (reader : Reader β) (set : β → α → α) : Slot α :=
  .ofReader name false reader set

def required {α β : Type} (name : String) (reader : Reader β) (set : β → α → α) : Slot α :=
  .ofReader name true reader set

def firstMissing? {α : Type} (slots : List (Slot α)) (read : List String) : Option String :=
  (slots.find? fun slot => slot.required && !read.contains slot.name).map (·.name)

def countOf (count : Nat) (thing : String) : String :=
  if count = 1 then s!"1 {thing}" else s!"{count} {thing}s"

/-- Reads members in the order of the text into a record; `read` lists the fields that were read.
Members without a slot are passed over. -/
def readMembers {α : Type} (slots : List (Slot α)) (context : Context) (stop : Option Break) :
    List (Draft × Draft) → List String → α → Except ReadError α
  | [], read, record => do
    closed stop
    match firstMissing? slots read with
    | some name => .error (.mismatch (.missingField name))
    | none => .ok record
  | (name, value) :: members, read, record => do
    let name ← memberName name
    match slots.find? (·.name = name) with
    | some slot =>
      if read.contains name then .error (.mismatch (.duplicateField name))
      else
        let record ← slot.fill context value record
        readMembers slots context stop members (name :: read) record
    | none =>
      skip value
      readMembers slots context stop members read record

def surplus (context : Context) (stop : Option Break) (fields : Nat) (items : List Draft) :
    Except ReadError Unit :=
  if items.isEmpty then closed stop
  else
    match context.origin with
    | .text => .error .malformed
    | .kept =>
      .error (.mismatch (.wrongLength (fields + items.length)
        (countOf fields "element" ++ " in sequence")))
    | .value =>
      .error (.mismatch (.wrongLength (fields + items.length) "fewer elements in array"))
    | .settings => .ok ()

def readSequence {α : Type} (expected : String) (context : Context) (stop : Option Break)
    (index : Nat) : List (Slot α) → List Draft → α → Except ReadError α
  | [], items, record => do
    surplus context stop index items
    .ok record
  | slot :: slots, item :: items, record => do
    let record ← slot.fill context item record
    readSequence expected context stop (index + 1) slots items record
  | slot :: slots, [], record => do
    closed stop
    if slot.required then .error (.mismatch (.wrongLength index expected))
    else readSequence expected context stop (index + 1) slots [] record

def record {α : Type} (name : String) (slots : List (Slot α)) (start : α) : Reader α
  | context, .object members stop => do
    let context ← context.enter
    readMembers slots context stop members [] start
  | context, .array items stop => do
    let context ← context.enter
    let expected := "struct " ++ name ++ " with " ++ countOf slots.length "element"
    readSequence expected context stop 0 slots items start
  | _, draft => .error (wrongType ("struct " ++ name) draft)

def keepTagged {β : Type} (tag : String) (cases : List (String × β)) (depth : Nat)
    (stop : Option Break) :
    List (Draft × Draft) → Option β → Except ReadError (Option β × List (String × Json))
  | [], found => do
    closed stop
    .ok (found, [])
  | (name, value) :: members, found => do
    let name ← memberName name
    if name = tag then
      if found.isSome then .error (.mismatch (.duplicateField tag))
      else
        let case ← caseOf cases value
        keepTagged tag cases depth stop members (some case)
    else
      let value ← keep depth value
      let (found, members) ← keepTagged tag cases depth stop members found
      .ok (found, (name, value) :: members)

/-- A value whose type depends on the member `tag`, wherever it stands. As a sequence the tag comes
first. All other data is kept until the type is known, so faults in it come first. -/
def tagged {β α : Type} (name tag : String) (cases : List (String × β)) (body : β → Reader α) :
    Reader α
  | context, .object members stop => do
    let context ← context.enter
    let (found, members) ← keepTagged tag cases context.depth stop members none
    match found with
    | none => .error (.mismatch (.missingField tag))
    | some case => body case { origin := .kept } (Draft.ofJson (.object members))
  | context, .array items stop => do
    let context ← context.enter
    match items with
    | [] =>
      closed stop
      .error (.mismatch (.missingField tag))
    | item :: items =>
      let case ← caseOf cases item
      let items ← keepItems context.depth items
      closed stop
      body case { origin := .kept } (Draft.ofJson (.array items))
  | _, draft => .error (wrongType ("internally tagged enum " ++ name) draft)

end UsbIdentity.Schema
