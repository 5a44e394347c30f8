import Mathlib.Data.List.Basic
import UsbIdentity.InterfaceType
import UsbIdentity.Proofs.HexDigits
import UsbIdentity.Text.Quoted

namespace UsbIdentity

namespace Text

/-! ## Separators -/

def Next (separator : Char) (text : List Char) : Prop :=
  ∀ c ∈ text.head?, c = separator

theorem next_nil (separator : Char) : Next separator [] := by
  simp [Next]

theorem next_cons (separator : Char) (text : List Char) : Next separator (separator :: text) := by
  simp [Next]

theorem append_inj_of_separator {separator : Char} {first second u v : List Char}
    (inFirst : separator ∉ first) (inSecond : separator ∉ second) (afterFirst : Next separator u)
    (afterSecond : Next separator v) (same : first ++ u = second ++ v) :
    first = second ∧ u = v := by
  induction first generalizing second with
  | nil =>
    cases second with
    | nil => exact ⟨rfl, same⟩
    | cons c second =>
      rw [List.nil_append] at same
      subst same
      have here := afterFirst c rfl
      rw [here] at inSecond
      exact absurd List.mem_cons_self inSecond
  | cons c first ih =>
    cases second with
    | nil =>
      rw [List.nil_append] at same
      subst same
      have here := afterSecond c rfl
      rw [here] at inFirst
      exact absurd List.mem_cons_self inFirst
    | cons d second =>
      rw [List.mem_cons, not_or] at inFirst inSecond
      obtain ⟨rfl, rest⟩ := List.cons.inj same
      obtain ⟨rfl, after⟩ := ih inFirst.2 inSecond.2 rest
      exact ⟨rfl, after⟩

/-! ## Characters of a line -/

def Printable (c : Char) : Prop :=
  0x20 ≤ c.toNat ∧ c.toNat ≤ 0x7e

instance (c : Char) : Decidable (Printable c) :=
  inferInstanceAs (Decidable (0x20 ≤ c.toNat ∧ c.toNat ≤ 0x7e))

def Line (text : List Char) : Prop :=
  ∀ c ∈ text, Printable c

-- There are finitely many characters, but the ones to look at are those of the text.
instance (text : List Char) : Decidable (Line text) :=
  List.decidableBAll Printable text

theorem line_nil : Line [] :=
  List.forall_mem_nil Printable

theorem line_cons {c : Char} {text : List Char} : Line (c :: text) ↔ Printable c ∧ Line text :=
  List.forall_mem_cons

theorem line_append {first second : List Char} :
    Line (first ++ second) ↔ Line first ∧ Line second :=
  List.forall_mem_append

theorem line_flatMap {α : Type} {render : α → List Char} (shown : ∀ value, Line (render value))
    (values : List α) : Line (values.flatMap render) := by
  induction values with
  | nil => exact line_nil
  | cons value values ih =>
    rw [List.flatMap_cons, line_append]
    exact ⟨shown value, ih⟩

end Text

namespace Hex

theorem printable_digit : ∀ n < 16, Text.Printable (digit n) := by
  decide

theorem not_mem_byte {c : Char} (other : ∀ n < 16, c ≠ digit n) (b : UInt8) : c ∉ byte b := by
  intro member
  obtain ⟨n, bound, same⟩ := mem_byte member
  exact other n bound same

theorem line_byte (b : UInt8) : Text.Line (byte b) := by
  intro c member
  obtain ⟨n, bound, rfl⟩ := mem_byte member
  exact printable_digit n bound

theorem byte_injective : Function.Injective byte := by
  intro a b same
  have read := congrArg byte? same
  rw [byte?_byte, byte?_byte] at read
  exact Option.some.inj read

end Hex

/-! ## Quoted texts -/

namespace Text.Quoted

theorem utf8_injective : Function.Injective utf8 := by
  intro s t same
  apply String.toByteArray_inj.1
  apply ByteArray.ext
  exact Array.toList_inj.1 same

theorem decodeBody_cons {c : Char} (quote : c ≠ '"') (backslash : c ≠ '\\') (rest : List Char) :
    decodeBody (c :: rest) =
      (decodeBody rest).map fun (bytes, after) => (String.utf8EncodeChar c ++ bytes, after) := by
  rw [decodeBody.eq_def]
  split <;> simp_all

theorem utf8EncodeChar_of_printable {c : Char} (printable : Printable c) :
    String.utf8EncodeChar c = [UInt8.ofNat c.toNat] :=
  if_pos (Nat.le_succ_of_le printable.2)

theorem toNat_ofNat_toNat (b : UInt8) : (Char.ofNat b.toNat).toNat = b.toNat := by
  have valid : b.toNat.isValidChar := .inl (Nat.lt_trans b.toNat_lt (by decide))
  rw [Char.ofNat, dif_pos valid]
  exact UInt32.toNat_ofNatLT

theorem escape_cases (b : UInt8) :
    (b = 0x22 ∧ escape b = ['\\', '"']) ∨ (b = 0x5c ∧ escape b = ['\\', '\\']) ∨
    (∃ c, c.toNat = b.toNat ∧ Printable c ∧ c ≠ '"' ∧ c ≠ '\\' ∧ escape b = [c]) ∨
    escape b = '\\' :: 'x' :: Hex.byte b := by
  unfold escape
  by_cases quote : b = 0x22
  · exact .inl ⟨quote, if_pos quote⟩
  by_cases backslash : b = 0x5c
  · exact .inr (.inl ⟨backslash, by rw [if_neg quote, if_pos backslash]⟩)
  rw [if_neg quote, if_neg backslash]
  by_cases shown : 0x20 ≤ b ∧ b ≤ 0x7e
  · have code := toNat_ofNat_toNat b
    refine .inr (.inr (.inl ⟨_, code, ?_, ?_, ?_, if_pos shown⟩))
    · rw [Printable, code]
      exact shown
    · intro same
      rw [same] at code
      exact quote (UInt8.toNat_inj.1 code.symm)
    · intro same
      rw [same] at code
      exact backslash (UInt8.toNat_inj.1 code.symm)
  · exact .inr (.inr (.inr (if_neg shown)))

theorem decodeBody_escape (b : UInt8) (rest : List Char) :
    decodeBody (escape b ++ rest) =
      (decodeBody rest).map fun (bytes, after) => (b :: bytes, after) := by
  rcases escape_cases b with
    ⟨rfl, written⟩ | ⟨rfl, written⟩ | ⟨c, code, printable, quote, backslash, written⟩ | written <;>
    rw [written]
  · rfl
  · rfl
  · rw [List.singleton_append, decodeBody_cons quote backslash,
      utf8EncodeChar_of_printable printable, code, UInt8.ofNat_toNat]
    rfl
  · have read := Hex.byte?_byte b
    simp only [Hex.byte] at read ⊢
    simp only [List.cons_append, List.nil_append, decodeBody, read]

theorem decodeBody_flatMap_escape (bytes : List UInt8) (rest : List Char) :
    decodeBody (bytes.flatMap escape ++ '"' :: rest) = some (bytes, rest) := by
  induction bytes with
  | nil => rfl
  | cons b bytes ih =>
    rw [List.flatMap_cons, List.append_assoc, decodeBody_escape, ih]
    rfl

theorem decode_encode_append (text : String) (rest : List Char) :
    decode (encode text ++ rest) = some (utf8 text, rest) := by
  rw [encode, List.cons_append, List.append_assoc]
  exact decodeBody_flatMap_escape (utf8 text) rest

theorem encode_append_inj {s t : String} {u v : List Char}
    (same : encode s ++ u = encode t ++ v) : s = t ∧ u = v := by
  have read := congrArg decode same
  rw [decode_encode_append, decode_encode_append] at read
  obtain ⟨bytes, after⟩ := Prod.mk.inj (Option.some.inj read)
  exact ⟨utf8_injective bytes, after⟩

theorem line_escape (b : UInt8) : Line (escape b) := by
  rcases escape_cases b with
    ⟨_, written⟩ | ⟨_, written⟩ | ⟨c, _, printable, _, _, written⟩ | written <;>
    rw [written]
  · decide
  · decide
  · exact line_cons.2 ⟨printable, line_nil⟩
  · rw [line_cons, line_cons]
    exact ⟨by decide, by decide, Hex.line_byte b⟩

theorem line_encode (text : String) : Line (encode text) := by
  rw [encode, line_cons, line_append]
  exact ⟨by decide, line_flatMap line_escape (utf8 text), by decide⟩

end Text.Quoted

/-! ## Interface types -/

namespace InterfaceType

def part (type : InterfaceType) (bit value : UInt8) : Option UInt8 :=
  if type.mask &&& bit != 0 then some value else none

def parts (type : InterfaceType) : Option UInt8 × Option UInt8 × Option UInt8 :=
  (type.part classBit type.classCode, type.part subclassBit type.subclass,
    type.part protocolBit type.protocol)

def charsOfPart : Option UInt8 → List Char
  | none => ['*']
  | some value => Hex.byte value

theorem charsOfPart_injective : Function.Injective charsOfPart := by
  intro first second same
  cases first with
  | none =>
    cases second with
    | none => rfl
    | some value => cases congrArg List.length same
  | some value =>
    cases second with
    | none => cases congrArg List.length same
    | some other => rw [Hex.byte_injective same]

theorem mem_charsOfPart {part : Option UInt8} {c : Char} (member : c ∈ charsOfPart part) :
    c = '*' ∨ ∃ n < 16, c = Hex.digit n := by
  cases part with
  | none => exact .inl (List.mem_singleton.1 member)
  | some value => exact .inr (Hex.mem_byte member)

theorem chars_eq (type : InterfaceType) :
    type.chars = charsOfPart type.parts.1 ++
      ':' :: (charsOfPart type.parts.2.1 ++ ':' :: charsOfPart type.parts.2.2) := by
  have written (bit value : UInt8) :
      type.partChars bit value = charsOfPart (type.part bit value) := by
    simp only [partChars, part]
    split <;> rfl
  simp only [chars, Text.join, written, parts]

theorem colon_not_mem_charsOfPart (part : Option UInt8) : ':' ∉ charsOfPart part := by
  cases part with
  | none => decide
  | some value => exact Hex.not_mem_byte (by decide) value

theorem parts_eq_of_chars_eq {type other : InterfaceType} (same : type.chars = other.chars) :
    type.parts = other.parts := by
  have noColon := colon_not_mem_charsOfPart
  rw [chars_eq, chars_eq] at same
  obtain ⟨first, rest⟩ := Text.append_inj_of_separator (noColon _) (noColon _)
    (Text.next_cons _ _) (Text.next_cons _ _) same
  obtain ⟨second, third⟩ := Text.append_inj_of_separator (noColon _) (noColon _)
    (Text.next_cons _ _) (Text.next_cons _ _) (List.cons.inj rest).2
  exact Prod.ext (charsOfPart_injective first) (Prod.ext (charsOfPart_injective second)
    (charsOfPart_injective (List.cons.inj third).2))

/-- Whether a type is fully specified or comes of a text. -/
def Proper (type : InterfaceType) : Prop :=
  (∃ classCode subclass protocol, type = exact classCode subclass protocol) ∨
    ∃ text, ofText text = .ok type

def ofParts : Option UInt8 × Option UInt8 × Option UInt8 → InterfaceType
  | (first, second, third) =>
    ⟨first.getD 0, second.getD 0, third.getD 0,
      (if first.isSome then classBit else 0) ||| (if second.isSome then subclassBit else 0) |||
        (if third.isSome then protocolBit else 0)⟩

theorem ofParts_parts_exact (classCode subclass protocol : UInt8) :
    ofParts (exact classCode subclass protocol).parts = exact classCode subclass protocol := by
  simp +decide [ofParts, parts, part, exact]

theorem Proper.cases {type : InterfaceType} (proper : type.Proper) :
    (∃ classCode subclass protocol, type = exact classCode subclass protocol) ∨
    (∃ classCode subclass, type = ⟨classCode, subclass, 0, classBit ||| subclassBit⟩) ∨
    ∃ classCode, type = ⟨classCode, 0, 0, classBit⟩ := by
  rcases proper with full | ⟨text, read⟩
  · exact .inl full
  · unfold ofText at read
    split at read
    · next found =>
      cases read
      unfold ofParts? at found
      split at found
      · split at found <;> cases found
        · exact .inl ⟨_, _, _, rfl⟩
        · exact .inr (.inl ⟨_, _, rfl⟩)
        · exact .inr (.inr ⟨_, rfl⟩)
      · cases found
    · cases read

theorem Proper.ofParts_parts {type : InterfaceType} (proper : type.Proper) :
    ofParts type.parts = type := by
  rcases proper.cases with ⟨classCode, subclass, protocol, rfl⟩ | ⟨classCode, subclass, rfl⟩ |
    ⟨classCode, rfl⟩
  · exact ofParts_parts_exact classCode subclass protocol
  · simp +decide [ofParts, parts, part]
  · simp +decide [ofParts, parts, part]

theorem Proper.eq_of_chars_eq {type other : InterfaceType} (proper : type.Proper)
    (alike : other.Proper) (same : type.chars = other.chars) : type = other := by
  rw [← proper.ofParts_parts, ← alike.ofParts_parts, parts_eq_of_chars_eq same]

theorem part?_charsOfPart (part : Option UInt8) : part? (charsOfPart part) = some part := by
  cases part with
  | none => rfl
  | some value =>
    have digits : Hex.byte value ≠ ['*'] := fun same => by cases congrArg List.length same
    rw [part?, charsOfPart, if_neg digits, Hex.byte?_byte]
    rfl

theorem Proper.ofText_text {type : InterfaceType} (proper : type.Proper) :
    ofText type.text = .ok type := by
  have free := colon_not_mem_charsOfPart
  rw [ofText, text, String.toList_ofList, chars_eq, Text.splitOn_append (free _),
    Text.splitOn_append (free _), Text.splitOn_of_not_mem (free _)]
  simp only [ofParts?, part?_charsOfPart]
  rcases proper.cases with ⟨classCode, subclass, protocol, rfl⟩ | ⟨classCode, subclass, rfl⟩ |
    ⟨classCode, rfl⟩ <;> simp +decide [parts, part, exact]

theorem mem_chars {type : InterfaceType} {c : Char} (member : c ∈ type.chars) :
    c = ':' ∨ c = '*' ∨ ∃ n < 16, c = Hex.digit n := by
  rw [chars_eq, List.mem_append, List.mem_cons, List.mem_append, List.mem_cons] at member
  rcases member with part | colon | part | colon | part
  · exact .inr (mem_charsOfPart part)
  · exact .inl colon
  · exact .inr (mem_charsOfPart part)
  · exact .inl colon
  · exact .inr (mem_charsOfPart part)

end InterfaceType

end UsbIdentity
