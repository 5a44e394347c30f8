import UsbIdentity.Decimal.Shortest
import UsbIdentity.Json.Value
import UsbIdentity.Text.Hex

namespace UsbIdentity.Json

def floatLayout : Decimal.Layout where
  positional leading := -5 ≤ leading && leading ≤ 15

def Number.chars : Number → List Char
  | .integer value => (toString value).toList
  | .float value => (Decimal.render floatLayout value).toList

def escape (c : Char) : List Char :=
  if c = '"' then ['\\', '"']
  else if c = '\\' then ['\\', '\\']
  else if c.toNat = 8 then ['\\', 'b']
  else if c.toNat = 9 then ['\\', 't']
  else if c.toNat = 10 then ['\\', 'n']
  else if c.toNat = 12 then ['\\', 'f']
  else if c.toNat = 13 then ['\\', 'r']
  else if c.toNat < 32 then '\\' :: 'u' :: '0' :: '0' :: Hex.byte (UInt8.ofNat c.toNat)
  else [c]

def stringChars (value : String) : List Char :=
  '"' :: (value.toList.flatMap escape ++ ['"'])

def scalarChars : Json → List Char
  | .boolean value => if value then "true".toList else "false".toList
  | .number value => value.chars
  | .string value => stringChars value
  | _ => "null".toList

mutual

def compactChars : Json → List Char
  | .array items => '[' :: compactItems items
  | .object members => '\x7b' :: compactMembers members
  | value => scalarChars value

def compactItems : List Json → List Char
  | [] => [']']
  | [item] => compactChars item ++ [']']
  | item :: items => compactChars item ++ ',' :: compactItems items

def compactMembers : List (String × Json) → List Char
  | [] => ['\x7d']
  | [(name, value)] => stringChars name ++ ':' :: compactChars value ++ ['\x7d']
  | (name, value) :: members =>
    stringChars name ++ ':' :: compactChars value ++ ',' :: compactMembers members

end

def newLine (level : Nat) : List Char :=
  '\n' :: List.replicate (2 * level) ' '

mutual

def prettyChars (level : Nat) : Json → List Char
  | .array [] => ['[', ']']
  | .array items => '[' :: prettyItems (level + 1) items ++ newLine level ++ [']']
  | .object [] => ['\x7b', '\x7d']
  | .object members => '\x7b' :: prettyMembers (level + 1) members ++ newLine level ++ ['\x7d']
  | value => scalarChars value

def prettyItems (level : Nat) : List Json → List Char
  | [] => []
  | [item] => newLine level ++ prettyChars level item
  | item :: items => newLine level ++ prettyChars level item ++ ',' :: prettyItems level items

def prettyMembers (level : Nat) : List (String × Json) → List Char
  | [] => []
  | [(name, value)] => newLine level ++ stringChars name ++ ':' :: ' ' :: prettyChars level value
  | (name, value) :: members =>
    newLine level ++ stringChars name ++ ':' :: ' ' :: prettyChars level value ++
      ',' :: prettyMembers level members

end

def compact (value : Json) : String :=
  String.ofList value.compactChars

def pretty (value : Json) : String :=
  String.ofList (prettyChars 0 value)

end UsbIdentity.Json
