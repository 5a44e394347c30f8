import Mathlib.Data.List.Basic
import UsbIdentity.Text.Hex

namespace UsbIdentity.Hex

def alphabet : List Char :=
  ['0', '1', '2', '3', '4', '5', '6', '7', '8', '9', 'a', 'b', 'c', 'd', 'e', 'f']

def Lowercase (c : Char) : Prop :=
  '0' ≤ c ∧ c ≤ '9' ∨ 'a' ≤ c ∧ c ≤ 'f'

instance (c : Char) : Decidable (Lowercase c) :=
  inferInstanceAs (Decidable ('0' ≤ c ∧ c ≤ '9' ∨ 'a' ≤ c ∧ c ≤ 'f'))

/-- The number that digits write, each of which counts by its place in the alphabet. -/
def number (digits : List Char) : Nat :=
  digits.foldl (fun n c => 16 * n + alphabet.idxOf c) 0

def ofBytes (bs : List UInt8) : Nat :=
  bs.foldl (fun n b => 256 * n + b.toNat) 0

/-- Whether a text writes a number with so many lowercase digits. -/
structure Writes (width : Nat) (text : String) (n : Nat) : Prop where
  length : text.length = width
  lowercase : ∀ c ∈ text.toList, Lowercase c
  number : number text.toList = n

theorem getElem?_alphabet : ∀ n < 16, alphabet[n]? = some (digit n) := by
  decide

theorem idxOf_digit : ∀ n < 16, alphabet.idxOf (digit n) = n := by
  decide

theorem lowercase_digit : ∀ n < 16, Lowercase (digit n) := by
  decide

theorem mem_byte {b : UInt8} {c : Char} (member : c ∈ byte b) : ∃ n < 16, c = digit n := by
  have bound := b.toNat_lt
  simp only [byte, List.mem_cons, List.not_mem_nil, or_false] at member
  rcases member with high | low
  · exact ⟨_, by omega, high⟩
  · exact ⟨_, by omega, low⟩

theorem number_word (w : UInt16) : number (word w) = w.toNat := by
  have bound := w.toNat_lt
  simp only [number, word, List.foldl_cons, List.foldl_nil,
    idxOf_digit _ (show w.toNat / 4096 < 16 by omega),
    idxOf_digit _ (show w.toNat / 256 % 16 < 16 by omega),
    idxOf_digit _ (show w.toNat / 16 % 16 < 16 by omega),
    idxOf_digit _ (show w.toNat % 16 < 16 by omega)]
  omega

theorem word_injective : Function.Injective word := by
  intro v w same
  have numbers := congrArg number same
  rw [number_word, number_word] at numbers
  exact UInt16.toNat_inj.1 numbers

theorem lowercase_of_mem_word {w : UInt16} {c : Char} (member : c ∈ word w) : Lowercase c := by
  have bound := w.toNat_lt
  simp only [word, List.mem_cons, List.not_mem_nil, or_false] at member
  rcases member with rfl | rfl | rfl | rfl <;> exact lowercase_digit _ (by omega)

theorem writes_word (w : UInt16) : Writes 4 (String.ofList (word w)) w.toNat where
  length := String.length_ofList
  lowercase c member := by
    rw [String.toList_ofList] at member
    exact lowercase_of_mem_word member
  number := by rw [String.toList_ofList, number_word]

theorem foldl_byte (n : Nat) (b : UInt8) :
    (byte b).foldl (fun n c => 16 * n + alphabet.idxOf c) n = 256 * n + b.toNat := by
  have bound := b.toNat_lt
  simp only [byte, List.foldl_cons, List.foldl_nil,
    idxOf_digit _ (show b.toNat / 16 < 16 by omega),
    idxOf_digit _ (show b.toNat % 16 < 16 by omega)]
  omega

theorem number_bytes (bs : List UInt8) : number (bytes bs) = ofBytes bs := by
  rw [number, bytes, List.foldl_flatMap]
  exact List.foldl_ext _ _ _ fun n b _ => foldl_byte n b

theorem length_bytes (bs : List UInt8) : (bytes bs).length = 2 * bs.length := by
  induction bs with
  | nil => rfl
  | cons b bs ih =>
    rw [bytes, List.flatMap_cons, List.length_append, ← bytes, ih, List.length_cons,
      Nat.mul_add_one, Nat.add_comm]
    rfl

theorem writes_bytes (bs : List UInt8) :
    Writes (2 * bs.length) (String.ofList (bytes bs)) (ofBytes bs) where
  length := by rw [String.length_ofList, length_bytes]
  lowercase c member := by
    rw [String.toList_ofList] at member
    obtain ⟨b, _, inside⟩ := List.mem_flatMap.1 member
    obtain ⟨n, bound, rfl⟩ := mem_byte inside
    exact lowercase_digit n bound
  number := by rw [String.toList_ofList, number_bytes]

end UsbIdentity.Hex
