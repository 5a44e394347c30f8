import UsbIdentity.Proofs.Delimiting

/-!
# What an interface type applies to

A type should apply to another exactly if it covers it: if it applies to every fully specified type
that the other applies to. A wildcard of the other type is stored as zero, though, and `appliesTo`
looks at what is stored. So a type that asks for zero also applies where the other leaves the part
open. Apart from that, application is coverage, and an order.
-/

namespace UsbIdentity.InterfaceType

def Admits (part : Option UInt8) (value : UInt8) : Prop :=
  ∀ v ∈ part, v = value

variable {part otherPart : Option UInt8}

@[simp]
theorem admits_none (value : UInt8) : Admits none value := by
  simp [Admits]

@[simp]
theorem admits_some {v value : UInt8} : Admits (some v) value ↔ v = value := by
  simp [Admits]

theorem admits_getD (part : Option UInt8) : Admits part (part.getD 0) := by
  cases part <;> simp

theorem forall_admits_iff :
    (∀ value, Admits otherPart value → Admits part value) ↔ part = none ∨ part = otherPart := by
  constructor
  · intro wider
    cases part with
    | none => exact .inl rfl
    | some v =>
      have exact := wider _ (admits_getD otherPart)
      cases otherPart with
      | none =>
        have next : v = v + 1 := by simpa using wider (v + 1) (admits_none _)
        simp at next
      | some w => exact .inr (congrArg some (admits_some.1 exact))
  · rintro (rfl | rfl)
    · simp
    · exact fun _ admitted => admitted

theorem admits_stored_iff :
    part = none ∨ part = otherPart ↔
      Admits part (otherPart.getD 0) ∧ ¬(part = some 0 ∧ otherPart = none) := by
  cases part <;> cases otherPart <;> simp

variable {type other : InterfaceType}

theorem appliesTo_iff :
    type.appliesTo other ↔
      Admits type.parts.1 other.classCode ∧ Admits type.parts.2.1 other.subclass ∧
        Admits type.parts.2.2 other.protocol := by
  have one (bit value found : UInt8) :
      (type.mask &&& bit == 0 || value == found) = true ↔ Admits (type.part bit value) found := by
    unfold part
    by_cases out : type.mask &&& bit = 0 <;> simp [out]
  simp only [appliesTo, Bool.and_eq_true, one, parts, and_assoc]

theorem appliesTo_exact_iff {classCode subclass protocol : UInt8} :
    type.appliesTo (exact classCode subclass protocol) ↔
      Admits type.parts.1 classCode ∧ Admits type.parts.2.1 subclass ∧
        Admits type.parts.2.2 protocol :=
  appliesTo_iff

theorem appliesTo_self (type : InterfaceType) : type.appliesTo type := by
  have one (bit value : UInt8) : Admits (type.part bit value) value := by
    unfold part
    split <;> simp
  exact appliesTo_iff.2 ⟨one _ _, one _ _, one _ _⟩

/-- Whether every fully specified type that another type applies to is one that this applies to. -/
def Covers (type other : InterfaceType) : Prop :=
  ∀ classCode subclass protocol, other.appliesTo (exact classCode subclass protocol) →
    type.appliesTo (exact classCode subclass protocol)

theorem covers_iff :
    type.Covers other ↔
      (type.parts.1 = none ∨ type.parts.1 = other.parts.1) ∧
        (type.parts.2.1 = none ∨ type.parts.2.1 = other.parts.2.1) ∧
        (type.parts.2.2 = none ∨ type.parts.2.2 = other.parts.2.2) := by
  simp only [Covers, appliesTo_exact_iff, ← forall_admits_iff]
  -- The parts are independent: the other two can be what is stored of them.
  have first := admits_getD other.parts.1
  have second := admits_getD other.parts.2.1
  have third := admits_getD other.parts.2.2
  constructor
  · intro wider
    exact ⟨fun value admitted => (wider value _ _ ⟨admitted, second, third⟩).1,
      fun value admitted => (wider _ value _ ⟨first, admitted, third⟩).2.1,
      fun value admitted => (wider _ _ value ⟨first, second, admitted⟩).2.2⟩
  · rintro ⟨classes, subclasses, protocols⟩ classCode subclass protocol ⟨one, two, three⟩
    exact ⟨classes _ one, subclasses _ two, protocols _ three⟩

/-- Whether a type asks for zero in a part that another type leaves open. -/
def ZeroForOpen (type other : InterfaceType) : Prop :=
  type.parts.1 = some 0 ∧ other.parts.1 = none ∨
    type.parts.2.1 = some 0 ∧ other.parts.2.1 = none ∨
    type.parts.2.2 = some 0 ∧ other.parts.2.2 = none

instance (type other : InterfaceType) : Decidable (type.ZeroForOpen other) :=
  inferInstanceAs (Decidable (_ ∨ _))

theorem Proper.appliesTo_iff_parts (proper : other.Proper) :
    type.appliesTo other ↔
      Admits type.parts.1 (other.parts.1.getD 0) ∧ Admits type.parts.2.1 (other.parts.2.1.getD 0) ∧
        Admits type.parts.2.2 (other.parts.2.2.getD 0) := by
  have stored := proper.ofParts_parts.symm
  have first : other.classCode = other.parts.1.getD 0 := congrArg classCode stored
  have second : other.subclass = other.parts.2.1.getD 0 := congrArg subclass stored
  have third : other.protocol = other.parts.2.2.getD 0 := congrArg protocol stored
  rw [appliesTo_iff, first, second, third]

theorem covers_iff_appliesTo (proper : other.Proper) :
    type.Covers other ↔ type.appliesTo other ∧ ¬type.ZeroForOpen other := by
  rw [covers_iff, proper.appliesTo_iff_parts, ZeroForOpen]
  simp only [admits_stored_iff]
  tauto

theorem not_zeroForOpen_exact (type : InterfaceType) (classCode subclass protocol : UInt8) :
    ¬type.ZeroForOpen (exact classCode subclass protocol) := by
  simp +decide [ZeroForOpen, parts, part, exact]

theorem Covers.appliesTo {third : InterfaceType} (covers : type.Covers other)
    (applies : other.appliesTo third) : type.appliesTo third :=
  covers third.classCode third.subclass third.protocol applies

theorem Covers.antisymm (proper : type.Proper) (alike : other.Proper) (covers : type.Covers other)
    (covered : other.Covers type) : type = other := by
  have same {p q : Option UInt8} (one : p = none ∨ p = q) (two : q = none ∨ q = p) : p = q := by
    rcases one with rfl | same
    · exact (or_self_iff.1 two).symm
    · exact same
  obtain ⟨first, second, third⟩ := covers_iff.1 covers
  obtain ⟨first', second', third'⟩ := covers_iff.1 covered
  rw [← proper.ofParts_parts, ← alike.ofParts_parts]
  exact congrArg ofParts
    (Prod.ext (same first first') (Prod.ext (same second second') (same third third')))

/-- A type covers another exactly if it applies to it and asks for no zero where the other is open;
nothing is open in a fully specified type. Every type applies to itself. Where no zero is asked of
an open part, application is transitive, and types that apply to each other are equal. -/
theorem application_orders (proper : type.Proper) (alike : other.Proper) :
    (type.Covers other ↔ type.appliesTo other ∧ ¬type.ZeroForOpen other) ∧
    (∀ classCode subclass protocol,
      ¬type.ZeroForOpen (exact classCode subclass protocol)) ∧
    type.appliesTo type ∧
    (∀ third : InterfaceType, type.appliesTo other → ¬type.ZeroForOpen other →
      other.appliesTo third → type.appliesTo third) ∧
    (type.appliesTo other → ¬type.ZeroForOpen other → other.appliesTo type →
      ¬other.ZeroForOpen type → type = other) := by
  have covers : type.Covers other ↔ _ := covers_iff_appliesTo alike
  have covered : other.Covers type ↔ _ := covers_iff_appliesTo proper
  refine ⟨covers, type.not_zeroForOpen_exact, type.appliesTo_self, ?_, ?_⟩
  · intro third applies noZero further
    exact (covers.2 ⟨applies, noZero⟩).appliesTo further
  · intro applies noZero back noZeroBack
    exact (covers.2 ⟨applies, noZero⟩).antisymm proper alike (covered.2 ⟨back, noZeroBack⟩)

theorem any_input_device_covers_mouse :
    let inputs : InterfaceType := ⟨3, 0, 0, classBit⟩
    let pointers : InterfaceType := ⟨3, 1, 0, classBit ||| subclassBit⟩
    inputs.Proper ∧ pointers.Proper ∧ inputs.Covers pointers ∧ ¬pointers.Covers inputs ∧
      inputs.appliesTo (exact 3 1 2) := by
  intro inputs pointers
  have proper : inputs.Proper := .inr ⟨"03:*:*", by decide⟩
  have alike : pointers.Proper := .inr ⟨"03:01:*", by decide⟩
  obtain ⟨covers, _, _, further, _⟩ := application_orders proper alike
  obtain ⟨covered, _⟩ := application_orders alike proper
  have applies : inputs.appliesTo pointers := by decide
  have noZero : ¬inputs.ZeroForOpen pointers := by decide
  refine ⟨proper, alike, covers.2 ⟨applies, noZero⟩, ?_, ?_⟩
  · rw [covered]
    decide
  · exact further (exact 3 1 2) applies noZero (by decide)

/-- A type that asks for subclass zero applies to one that leaves the subclass open. It does not
cover it, the two apply to each other without being equal, and what the open one applies to need
not be one that the other applies to. -/
theorem zero_subclass_applies_to_any_subclass :
    let zeroSubclass : InterfaceType := ⟨8, 0, 0, classBit ||| subclassBit⟩
    let anySubclass : InterfaceType := ⟨8, 0, 0, classBit⟩
    ofText "08:00:*" = .ok zeroSubclass ∧ ofText "08:*:*" = .ok anySubclass ∧
      zeroSubclass.appliesTo anySubclass ∧ ¬zeroSubclass.Covers anySubclass ∧
      anySubclass.appliesTo zeroSubclass ∧ zeroSubclass ≠ anySubclass ∧
      anySubclass.appliesTo (exact 8 6 0x50) ∧ ¬zeroSubclass.appliesTo (exact 8 6 0x50) := by
  intro zeroSubclass anySubclass
  refine ⟨by decide, by decide, by decide, fun covers => ?_, by decide, by decide, by decide,
    by decide⟩
  exact absurd (covers 8 6 0x50 (by decide)) (by decide)

end UsbIdentity.InterfaceType
