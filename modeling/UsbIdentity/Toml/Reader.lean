import UsbIdentity.Toml.Quoted
import UsbIdentity.Toml.Scalar
import UsbIdentity.Toml.Tree

namespace UsbIdentity.Toml

def skipBlanks (text : List Char) : List Char :=
  text.dropWhile fun c => c = ' ' || c = '\t'

def lineEnd? : List Char → Option (List Char)
  | [] => some []
  | '\n' :: rest => some rest
  | '\r' :: '\n' :: rest => some rest
  | _ => none

def restOfLine? (text : List Char) : Option (List Char) :=
  match skipBlanks text with
  | '#' :: rest => lineEnd? (rest.dropWhile isTextChar)
  | rest => lineEnd? rest

def skipFiller (inComment : Bool) : List Char → List Char
  | [] => []
  | '\n' :: rest => skipFiller false rest
  | '\r' :: '\n' :: rest => skipFiller false rest
  | c :: rest =>
    if inComment then if isTextChar c then skipFiller true rest else c :: rest
    else if c = ' ' || c = '\t' then skipFiller false rest
    else if c = '#' then skipFiller true rest
    else c :: rest

def isKeyChar (c : Char) : Bool :=
  isDigit c || ('a' ≤ c && c ≤ 'z') || ('A' ≤ c && c ≤ 'Z') || c = '_' || c = '-'

def readKeyPart (text : List Char) : Option (String × List Char) :=
  match text with
  | '"' :: rest => (readBasic rest).map fun (chars, rest) => (String.ofList chars, rest)
  | '\x27' :: rest => (readLiteral rest).map fun (chars, rest) => (String.ofList chars, rest)
  | _ =>
    let bare := text.takeWhile isKeyChar
    if bare.isEmpty then none else some (String.ofList bare, text.drop bare.length)

def depthLimit : Nat := 80

def readKeyParts : Nat → List Char → Option (List String × List Char)
  | 0, _ => none
  | bound + 1, text => do
    let (part, rest) ← readKeyPart (skipBlanks text)
    match skipBlanks rest with
    | '.' :: rest =>
      let (parts, rest) ← readKeyParts bound rest
      some (part :: parts, rest)
    | rest => some ([part], rest)

def readKey (text : List Char) : Option ((List String × String) × List Char) := do
  let (parts, rest) ← readKeyParts (depthLimit - 1) text
  let last ← parts.getLast?
  some ((parts.dropLast, last), rest)

def readWord (text : List Char) : Option (Toml × List Char) := do
  let word := text.takeWhile isWordChar
  let rest := text.drop word.length
  match rest with
  | ' ' :: more =>
    let time := more.takeWhile isWordChar
    if isDate word && isTimeOfDate time then some (.moment, more.drop time.length)
    else (scalar? word).map (·, rest)
  | _ => (scalar? word).map (·, rest)

mutual

def readValue : Nat → Nat → List Char → Option (Toml × List Char)
  | 0, _, _ => none
  | bound + 1, depth, text =>
    match text with
    | '[' :: rest =>
      if depth = 0 then none
      else do
        let (items, rest) ← readItems bound (depth - 1) rest
        some (.array items, rest)
    | '\x7b' :: rest =>
      if depth = 0 then none
      else
        match skipBlanks rest with
        | '\x7d' :: rest => some (.table [], rest)
        | rest => do
          let (tree, rest) ← readEntries bound (depth - 1) (.defined []) rest
          some (tree.toValue, rest)
    | c :: rest =>
      if c = '"' || c = apostrophe then
        (readQuoted? (c :: rest)).map fun (chars, rest) => (.string (String.ofList chars), rest)
      else readWord (c :: rest)
    | [] => none

def readItems : Nat → Nat → List Char → Option (List Toml × List Char)
  | 0, _, _ => none
  | bound + 1, depth, text =>
    match skipFiller false text with
    | ']' :: rest => some ([], rest)
    | rest => do
      let (item, rest) ← readValue bound depth rest
      match skipFiller false rest with
      | ']' :: rest => some ([item], rest)
      | ',' :: rest =>
        let (items, rest) ← readItems bound depth rest
        some (item :: items, rest)
      | _ => none

def readEntries : Nat → Nat → Tree → List Char → Option (Tree × List Char)
  | 0, _, _, _ => none
  | bound + 1, depth, tree, text => do
    let ((path, key), rest) ← readKey text
    match rest with
    | '=' :: rest =>
      let (value, rest) ← readValue bound depth (skipBlanks rest)
      let tree ← tree.insert? path key value
      match skipBlanks rest with
      | '\x7d' :: rest => some (tree, rest)
      | ',' :: rest => readEntries bound depth tree rest
      | _ => none
    | _ => none

end

def boundFor (text : List Char) : Nat :=
  2 * text.length + 2

def readHeader (text : List Char) : Option ((Bool × List String × String) × List Char) :=
  match text with
  | '[' :: rest => do
    let ((path, key), rest) ← readKey rest
    match rest with
    | ']' :: ']' :: rest => some ((true, path, key), rest)
    | _ => none
  | _ => do
    let ((path, key), rest) ← readKey text
    match rest with
    | ']' :: rest => some ((false, path, key), rest)
    | _ => none

def readLines : Nat → List Char → Assembly → Option Assembly
  | 0, _, _ => none
  | bound + 1, text, assembly =>
    match skipBlanks text with
    | [] => some assembly
    | '[' :: rest => do
      let ((isElement, path, key), rest) ← readHeader rest
      let rest ← restOfLine? rest
      let assembly ←
        if isElement then assembly.startElement? path key else assembly.startTable? path key
      readLines bound rest assembly
    | c :: rest =>
      if c = '#' || c = '\n' || c = '\r' then do
        let rest ← restOfLine? (c :: rest)
        readLines bound rest assembly
      else do
        let ((path, key), rest) ← readKey (c :: rest)
        match rest with
        | '=' :: rest =>
          let (value, rest) ← readValue (boundFor rest) (depthLimit - 1) (skipBlanks rest)
          let rest ← restOfLine? rest
          let assembly ← assembly.define? path key value
          readLines bound rest assembly
        | _ => none

def dropMark : List Char → List Char
  | '\uFEFF' :: rest => rest
  | text => text

def ofText? (text : String) : Option Toml := do
  let chars := dropMark text.toList
  let assembly ← readLines (chars.length + 1) chars {}
  let root ← assembly.finish?
  some root.toValue

end UsbIdentity.Toml
