namespace UsbIdentity.Hex

def digit (n : Nat) : Char :=
  if n < 10 then Char.ofNat (48 + n) else Char.ofNat (87 + n)

def value? (c : Char) : Option Nat :=
  if '0' ≤ c ∧ c ≤ '9' then some (c.toNat - 48)
  else if 'a' ≤ c ∧ c ≤ 'f' then some (c.toNat - 87)
  else if 'A' ≤ c ∧ c ≤ 'F' then some (c.toNat - 55)
  else none

def byte (b : UInt8) : List Char :=
  [digit (b.toNat / 16), digit (b.toNat % 16)]

def word (w : UInt16) : List Char :=
  [digit (w.toNat / 4096), digit (w.toNat / 256 % 16), digit (w.toNat / 16 % 16),
    digit (w.toNat % 16)]

def bytes (bs : List UInt8) : List Char :=
  bs.flatMap byte

def byte? : List Char → Option UInt8
  | [high, low] =>
    match value? high, value? low with
    | some h, some l => some (UInt8.ofNat (16 * h + l))
    | _, _ => none
  | _ => none

def number? (digits : List Char) : Option Nat :=
  digits.foldlM (fun n c => (value? c).map (16 * n + ·)) 0

theorem value?_digit : ∀ n < 16, value? (digit n) = some n := by
  decide

theorem byte?_byte (b : UInt8) : byte? (byte b) = some b := by
  have bound := b.toNat_lt
  simp only [byte, byte?, value?_digit _ (show b.toNat / 16 < 16 by omega),
    value?_digit _ (show b.toNat % 16 < 16 by omega)]
  rw [Nat.div_add_mod, UInt8.ofNat_toNat]

theorem utf8Size_digit : ∀ n < 16, (digit n).utf8Size = 1 := by
  decide

theorem utf8ByteSize_word (w : UInt16) : (String.ofList (word w)).utf8ByteSize = 4 := by
  have bound := w.toNat_lt
  simp only [word, String.ofList_cons, String.ofList_nil, String.utf8ByteSize_append,
    String.utf8ByteSize_singleton, String.utf8ByteSize_empty]
  rw [utf8Size_digit _ (by omega), utf8Size_digit _ (by omega), utf8Size_digit _ (by omega),
    utf8Size_digit _ (by omega)]

@[simp]
theorem word_ne_nil (w : UInt16) : word w ≠ [] :=
  List.cons_ne_nil _ _

end UsbIdentity.Hex
