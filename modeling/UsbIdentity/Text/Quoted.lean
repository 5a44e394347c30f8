import UsbIdentity.Text.Hex

/-!
# Quoted text of a rule

A value stands between double quotes. Its UTF-8 bytes are written one by one: a quote or a
backslash after a backslash, another printable ASCII byte as itself, and every other byte as `\xhh`.
So whatever a device reports as its name stays inside its quotes and on its line.
-/

namespace UsbIdentity.Text.Quoted

def utf8 (text : String) : List UInt8 :=
  text.toUTF8.data.toList

def escape (b : UInt8) : List Char :=
  if b = 0x22 then ['\\', '"']
  else if b = 0x5c then ['\\', '\\']
  else if 0x20 ≤ b ∧ b ≤ 0x7e then [Char.ofNat b.toNat]
  else '\\' :: 'x' :: Hex.byte b

def encode (text : String) : List Char :=
  '"' :: ((utf8 text).flatMap escape ++ ['"'])

/-- A backslash that starts no escape stands for itself, like any other character. -/
def decodeBody : List Char → Option (List UInt8 × List Char)
  | [] => none
  | '"' :: rest => some ([], rest)
  | '\\' :: '"' :: rest => (decodeBody rest).map fun (bytes, after) => (0x22 :: bytes, after)
  | '\\' :: '\\' :: rest => (decodeBody rest).map fun (bytes, after) => (0x5c :: bytes, after)
  | '\\' :: 'x' :: high :: low :: rest =>
    match Hex.byte? [high, low] with
    | some b => (decodeBody rest).map fun (bytes, after) => (b :: bytes, after)
    | none =>
      (decodeBody ('x' :: high :: low :: rest)).map fun (bytes, after) => (0x5c :: bytes, after)
  | c :: rest =>
    (decodeBody rest).map fun (bytes, after) => (String.utf8EncodeChar c ++ bytes, after)

def decode : List Char → Option (List UInt8 × List Char)
  | '"' :: rest => decodeBody rest
  | _ => none

end UsbIdentity.Text.Quoted
