import UsbIdentity.Proofs.Delimiting

namespace UsbIdentity

namespace Hex

/-- Whether a character is the digit for a number, in either case. -/
def Digit (c : Char) (n : Nat) : Prop :=
  alphabet[n]? = some c.toLower

instance (c : Char) (n : Nat) : Decidable (Digit c n) :=
  inferInstanceAs (Decidable (alphabet[n]? = some c.toLower))

theorem toNat_lt_of_toLower {c : Char} (lower : c.toLower.toNat < 103) : c.toNat < 103 := by
  unfold Char.toLower at lower
  split at lower
  · next upper =>
    have last : c.toNat ≤ 90 := upper.2
    omega
  · exact lower

theorem Digit.bounds {c : Char} {n : Nat} (digit : Digit c n) : n < 16 ∧ c.toNat < 103 := by
  obtain ⟨bound, shown⟩ := List.getElem?_eq_some_iff.1 digit
  have listed : ∀ d ∈ alphabet, d.toNat < 103 := by simp [alphabet]
  exact ⟨bound, toNat_lt_of_toLower (listed _ (shown ▸ List.getElem_mem bound))⟩

theorem bounds_of_value? {c : Char} {n : Nat} (read : value? c = some n) :
    n < 16 ∧ c.toNat < 103 := by
  unfold value? at read
  split at read
  · next decimal =>
    have range : 48 ≤ c.toNat ∧ c.toNat ≤ 57 := decimal
    cases read
    omega
  · split at read
    · next lower =>
      have range : 97 ≤ c.toNat ∧ c.toNat ≤ 102 := lower
      cases read
      omega
    · split at read
      · next upper =>
        have range : 65 ≤ c.toNat ∧ c.toNat ≤ 70 := upper
        cases read
        omega
      · cases read

theorem value?_ofNat_eq_some_iff :
    ∀ k < 103, ∀ n < 16, value? (Char.ofNat k) = some n ↔ Digit (Char.ofNat k) n := by
  decide +kernel

theorem value?_eq_some_iff {c : Char} {n : Nat} : value? c = some n ↔ Digit c n := by
  have small := value?_ofNat_eq_some_iff c.toNat
  rw [Char.ofNat_toNat] at small
  constructor
  · intro read
    obtain ⟨number, code⟩ := bounds_of_value? read
    exact (small code n number).1 read
  · intro digit
    obtain ⟨number, code⟩ := digit.bounds
    exact (small code n number).2 digit

theorem digit_eq_toLower {c : Char} {n : Nat} (digit : Digit c n) : Hex.digit n = c.toLower := by
  exact Option.some.inj ((getElem?_alphabet n digit.bounds.1).symm.trans digit)

def Pair (text : List Char) (b : UInt8) : Prop :=
  ∃ high low h l, text = [high, low] ∧ Digit high h ∧ Digit low l ∧ b.toNat = 16 * h + l

theorem byte?_eq_some_iff {text : List Char} {b : UInt8} : byte? text = some b ↔ Pair text b := by
  constructor
  · intro read
    unfold byte? at read
    split at read
    · next high low =>
      split at read
      · next h l first second =>
        cases read
        have first := value?_eq_some_iff.1 first
        have second := value?_eq_some_iff.1 second
        have small : 16 * h + l < 256 := by
          have := first.bounds
          have := second.bounds
          omega
        exact ⟨high, low, h, l, rfl, first, second, UInt8.toNat_ofNat_of_lt small⟩
      · cases read
    · cases read
  · rintro ⟨high, low, h, l, rfl, first, second, value⟩
    simp only [byte?, value?_eq_some_iff.2 first, value?_eq_some_iff.2 second]
    rw [← value, UInt8.ofNat_toNat]

theorem Pair.byte_eq {text : List Char} {b : UInt8} (pair : Pair text b) :
    byte b = text.map Char.toLower := by
  obtain ⟨high, low, h, l, rfl, first, second, value⟩ := pair
  have bound := second.bounds.1
  have quotient : b.toNat / 16 = h := by omega
  have remainder : b.toNat % 16 = l := by omega
  rw [byte, quotient, remainder, digit_eq_toLower first, digit_eq_toLower second]
  rfl

end Hex

theorem Text.splitOn_join {separator : Char} {parts : List (List Char)} (some : parts ≠ [])
    (free : ∀ part ∈ parts, separator ∉ part) :
    splitOn separator (join separator parts) = parts := by
  induction parts with
  | nil => exact absurd rfl some
  | cons part parts ih =>
    obtain ⟨here, free⟩ := List.forall_mem_cons.1 free
    cases parts with
    | nil => exact splitOn_of_not_mem here
    | cons next parts => rw [join, splitOn_append here, ih (List.cons_ne_nil _ _) free]

namespace InterfaceType

/-- Whether a part of a text stands for a byte, or for anything at all. -/
def Means (part : List Char) : Option UInt8 → Prop
  | some value => Hex.Pair part value
  | none => part = ['*']

variable {part text : List Char} {said : Option UInt8}
  {parts : Option UInt8 × Option UInt8 × Option UInt8}

theorem part?_eq_some_iff : part? part = some said ↔ Means part said := by
  unfold part?
  split
  · next star =>
    subst star
    cases said with
    | none => simp [Means]
    | some value => simp [Means, ← Hex.byte?_eq_some_iff, Hex.byte?]
  · next digits =>
    cases said with
    | none => simp [Means, digits]
    | some value => simp [Means, ← Hex.byte?_eq_some_iff]

theorem charsOfPart_of_means (means : Means part said) :
    charsOfPart said = part.map Char.toLower := by
  cases said with
  | some value => exact Hex.Pair.byte_eq means
  | none =>
    rw [show part = ['*'] from means]
    rfl

theorem colon_not_mem_of_means (means : Means part said) : ':' ∉ part := by
  intro member
  have lower : ':' ∈ part.map Char.toLower := List.mem_map_of_mem member
  rw [← charsOfPart_of_means means] at lower
  exact colon_not_mem_charsOfPart said lower

/-- What a text of three parts gives as class, subclass and protocol. -/
inductive Spells : List Char → Option UInt8 × Option UInt8 × Option UInt8 → Prop
  | full {first second third : List Char} {classCode subclass protocol : UInt8}
      (hasClass : Hex.Pair first classCode) (hasSubclass : Hex.Pair second subclass)
      (hasProtocol : Hex.Pair third protocol) :
      Spells (Text.join ':' [first, second, third]) (some classCode, some subclass, some protocol)
  | anyProtocol {first second : List Char} {classCode subclass : UInt8}
      (hasClass : Hex.Pair first classCode) (hasSubclass : Hex.Pair second subclass) :
      Spells (Text.join ':' [first, second, ['*']]) (some classCode, some subclass, none)
  | anySubclass {first : List Char} {classCode : UInt8} (hasClass : Hex.Pair first classCode) :
      Spells (Text.join ':' [first, ['*'], ['*']]) (some classCode, none, none)

theorem Spells.parts_mean (spells : Spells text parts) :
    ∃ first second third, text = Text.join ':' [first, second, third] ∧
      Means first parts.1 ∧ Means second parts.2.1 ∧ Means third parts.2.2 := by
  cases spells with
  | full hasClass hasSubclass hasProtocol =>
    exact ⟨_, _, _, rfl, hasClass, hasSubclass, hasProtocol⟩
  | anyProtocol hasClass hasSubclass => exact ⟨_, _, _, rfl, hasClass, hasSubclass, rfl⟩
  | anySubclass hasClass => exact ⟨_, _, _, rfl, hasClass, rfl, rfl⟩

theorem parts_ofParts (parts : Option UInt8 × Option UInt8 × Option UInt8) :
    (ofParts parts).parts = parts := by
  obtain ⟨_ | classCode, _ | subclass, _ | protocol⟩ := parts <;>
    simp +decide [ofParts, InterfaceType.parts, InterfaceType.part]

theorem Spells.chars_ofParts (spells : Spells text parts) :
    (ofParts parts).chars = text.map Char.toLower := by
  obtain ⟨first, second, third, rfl, one, two, three⟩ := spells.parts_mean
  rw [chars_eq, parts_ofParts, charsOfPart_of_means one, charsOfPart_of_means two,
    charsOfPart_of_means three]
  simp [Text.join]

theorem Spells.ofParts?_splitOn (spells : Spells text parts) :
    ofParts? (Text.splitOn ':' text) = some (ofParts parts) := by
  obtain ⟨first, second, third, shape, one, two, three⟩ := spells.parts_mean
  have free : ∀ part ∈ [first, second, third], ':' ∉ part := by
    simp [colon_not_mem_of_means one, colon_not_mem_of_means two, colon_not_mem_of_means three]
  rw [shape, Text.splitOn_join (List.cons_ne_nil _ _) free]
  simp only [ofParts?, part?_eq_some_iff.2 one, part?_eq_some_iff.2 two,
    part?_eq_some_iff.2 three]
  cases spells <;> simp +decide [ofParts, exact]

theorem spells_of_ofParts? {type : InterfaceType}
    (read : ofParts? (Text.splitOn ':' text) = some type) :
    ∃ parts, Spells text parts ∧ type = ofParts parts := by
  rw [← Text.join_splitOn ':' text]
  unfold ofParts? at read
  split at read
  · next first second third shape =>
    rw [shape]
    split at read <;> cases read
    · next classCode subclass protocol one two three =>
      exact ⟨_, .full (part?_eq_some_iff.1 one) (part?_eq_some_iff.1 two)
        (part?_eq_some_iff.1 three), by simp +decide [ofParts, exact]⟩
    · next classCode subclass one two three =>
      rw [part?_eq_some_iff.1 three]
      exact ⟨_, .anyProtocol (part?_eq_some_iff.1 one) (part?_eq_some_iff.1 two),
        by simp +decide [ofParts]⟩
    · next classCode one two three =>
      rw [part?_eq_some_iff.1 two, part?_eq_some_iff.1 three]
      exact ⟨_, .anySubclass (part?_eq_some_iff.1 one), by simp +decide [ofParts]⟩
  · cases read

theorem ofText_eq_ok_iff {text : String} {type : InterfaceType} :
    ofText text = .ok type ↔ ∃ parts, Spells text.toList parts ∧ type = ofParts parts := by
  have inverted : ofText text = .ok type ↔
      ofParts? (Text.splitOn ':' text.toList) = some type := by
    unfold ofText
    cases ofParts? (Text.splitOn ':' text.toList) <;> simp
  rw [inverted]
  constructor
  · exact spells_of_ofParts?
  · rintro ⟨parts, spells, rfl⟩
    exact spells.ofParts?_splitOn

theorem ofText_eq_error_iff {text : String} {e : InvalidValue} :
    ofText text = .error e ↔
      (∀ parts, ¬Spells text.toList parts) ∧ e = .interfaceType text := by
  constructor
  · intro refused
    refine ⟨fun parts spells => ?_, ?_⟩
    · rw [ofText_eq_ok_iff.2 ⟨parts, spells, rfl⟩] at refused
      cases refused
    · unfold ofText at refused
      split at refused <;> cases refused
      rfl
  · rintro ⟨unwritten, rfl⟩
    unfold ofText
    split
    · next read =>
      obtain ⟨parts, spells, _⟩ := spells_of_ofParts? read
      exact absurd spells (unwritten parts)
    · rfl

/-- A text is read exactly if it is of one of the three forms, and then as the type of its parts,
which is written as the text in lowercase. A text of no such form is refused and reported as it is.
A type that is fully specified, or was read, is read back from what is written of it. -/
theorem reads_grammar (text : String) :
    (∀ type, ofText text = .ok type ↔ ∃ parts, Spells text.toList parts ∧ type = ofParts parts) ∧
    (∀ type, ofText text = .ok type → type.text = text.toLower) ∧
    (∀ e, ofText text = .error e ↔
      (∀ parts, ¬Spells text.toList parts) ∧ e = .interfaceType text) ∧
    (∀ type, (∃ classCode subclass protocol, type = exact classCode subclass protocol) ∨
      ofText text = .ok type → ofText type.text = .ok type) := by
  refine ⟨fun type => ofText_eq_ok_iff, ?_, fun e => ofText_eq_error_iff, ?_⟩
  · intro type read
    obtain ⟨parts, spells, rfl⟩ := ofText_eq_ok_iff.1 read
    rw [InterfaceType.text, spells.chars_ofParts]
    apply String.toList_inj.1
    rw [String.toList_ofList]
    exact String.toList_map.symm
  · intro type origin
    have proper : type.Proper := origin.imp_right fun read => ⟨text, read⟩
    exact proper.ofText_text

theorem mixed_case_type_is_read :
    let type : InterfaceType := ⟨0x0e, 0xfa, 0, classBit ||| subclassBit⟩
    ofText "0E:fA:*" = .ok type ∧ type.text = "0E:fA:*".toLower ∧ ofText type.text = .ok type ∧
    ofText "0e:*:fa" = .error (.interfaceType "0e:*:fa") := by
  intro type
  obtain ⟨reads, lower, _, back⟩ := reads_grammar "0E:fA:*"
  obtain ⟨_, _, refuses, _⟩ := reads_grammar "0e:*:fa"
  have spells : Spells "0E:fA:*".toList (some 0x0e, some 0xfa, none) :=
    show Spells (Text.join ':' [['0', 'E'], ['f', 'A'], ['*']]) _ from
      .anyProtocol ⟨'0', 'E', 0, 14, rfl, by decide, by decide, rfl⟩
        ⟨'f', 'A', 15, 10, rfl, by decide, by decide, rfl⟩
  have read : ofText "0E:fA:*" = .ok type := (reads type).2 ⟨_, spells, by decide⟩
  refine ⟨read, lower type read, back type (.inr read), (refuses _).2 ⟨?_, rfl⟩⟩
  intro parts spells
  have unread : ofParts? (Text.splitOn ':' "0e:*:fa".toList) = none := by decide
  cases spells.ofParts?_splitOn.symm.trans unread

end InterfaceType

end UsbIdentity
