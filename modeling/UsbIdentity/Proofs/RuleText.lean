import UsbIdentity.Proofs.Delimiting
import UsbIdentity.Rule.Text

namespace UsbIdentity

open Text

/-! ## Attributes -/

namespace Text

def Opens (letters : List Char) (text : List Char) : Prop :=
  text = [] ∨ ∃ letter ∈ letters, ∃ rest, text = ' ' :: letter :: rest

variable {letter : Char} {letters : List Char} {first second u v : List Char}

theorem opens_nil (letters : List Char) : Opens letters [] :=
  .inl rfl

theorem Opens.next (opens : Opens letters u) : Next ' ' u := by
  rcases opens with rfl | ⟨letter, _, rest, rfl⟩
  · exact next_nil ' '
  · exact next_cons ' ' _

theorem Opens.append (opens : Opens [letter] first) (after : Opens letters u) :
    Opens (letter :: letters) (first ++ u) := by
  rcases opens with rfl | ⟨other, own, rest, rfl⟩
  · rcases after with rfl | ⟨later, member, rest, rfl⟩
    · exact .inl rfl
    · exact .inr ⟨later, List.mem_cons_of_mem _ member, rest, rfl⟩
  · cases List.mem_singleton.1 own
    exact .inr ⟨letter, List.mem_cons_self, rest ++ u, rfl⟩

theorem Opens.eq_nil_iff (own : Opens [letter] first) (alike : Opens [letter] second)
    (other : letter ∉ letters) (after : Opens letters u) (later : Opens letters v)
    (same : first ++ u = second ++ v) : first = [] ↔ second = [] := by
  have absent {first second u v : List Char} (alike : Opens [letter] second)
      (after : Opens letters u) (same : first ++ u = second ++ v) (empty : first = []) :
      second = [] := by
    rcases alike with missing | ⟨start, member, rest, rfl⟩
    · exact missing
    · cases List.mem_singleton.1 member
      subst empty
      rcases after with rfl | ⟨start, elsewhere, more, rfl⟩
      · cases same
      · obtain ⟨rfl, _⟩ := List.cons.inj (List.cons.inj same).2
        exact absurd elsewhere other
  exact ⟨absent alike after same, absent own later same.symm⟩

end Text

/-! ## Sets of values -/

namespace SetOperator

theorem name_injective : Function.Injective name := by
  intro operator other
  cases operator <;> cases other <;> decide

theorem line_name (operator : SetOperator) : Line operator.name.toList := by
  cases operator <;> decide

theorem blank_not_mem_name (operator : SetOperator) : ' ' ∉ operator.name.toList := by
  cases operator <;> decide

theorem quote_not_mem_name (operator : SetOperator) : '"' ∉ operator.name.toList := by
  cases operator <;> decide

theorem colon_not_mem_name (operator : SetOperator) : ':' ∉ operator.name.toList := by
  cases operator <;> decide

theorem name_ne_nil (operator : SetOperator) : operator.name.toList ≠ [] := by
  cases operator <;> decide

end SetOperator

namespace RuleSet

variable {α : Type} {written : α → Prop} {render : α → List Char} {u v : List Char}

structure Renders (written : α → Prop) (render : α → List Char) : Prop where
  append_inj : ∀ {a b u v}, written a → written b → Next ' ' u → Next ' ' v →
    render a ++ u = render b ++ v → a = b ∧ u = v
  ne_operator : ∀ {a u v} (operator : SetOperator), written a → Next ' ' u →
    render a ++ u ≠ operator.name.toList ++ ' ' :: v
  ne_brace : ∀ {a u v}, written a → render a ++ u ≠ '\x7d' :: v

def braced (render : α → List Char) (values : List α) : List Char :=
  values.flatMap (fun value => ' ' :: render value) ++ [' ', '\x7d']

theorem braced_nil_append (render : α → List Char) (u : List Char) :
    braced render [] ++ u = ' ' :: '\x7d' :: u := rfl

theorem braced_cons_append (render : α → List Char) (value : α) (values : List α)
    (u : List Char) :
    braced render (value :: values) ++ u = ' ' :: (render value ++ (braced render values ++ u)) := by
  simp only [braced, List.flatMap_cons, List.cons_append, List.append_assoc]

theorem next_braced (render : α → List Char) (values : List α) (u : List Char) :
    Next ' ' (braced render values ++ u) := by
  cases values with
  | nil => exact next_cons ' ' _
  | cons value values => exact next_cons ' ' _

theorem braced_append_inj (renders : Renders written render) {values others : List α}
    (proper : ∀ value ∈ values, written value) (alike : ∀ value ∈ others, written value)
    (same : braced render values ++ u = braced render others ++ v) :
    values = others ∧ u = v := by
  induction values generalizing others with
  | nil =>
    cases others with
    | nil => exact ⟨rfl, (List.cons.inj (List.cons.inj same).2).2⟩
    | cons other others =>
      rw [braced_nil_append, braced_cons_append] at same
      exact absurd (List.cons.inj same).2.symm (renders.ne_brace (alike other List.mem_cons_self))
  | cons value values ih =>
    obtain ⟨this, proper⟩ := List.forall_mem_cons.1 proper
    cases others with
    | nil =>
      rw [braced_cons_append, braced_nil_append] at same
      exact absurd (List.cons.inj same).2 (renders.ne_brace this)
    | cons other others =>
      obtain ⟨that, remaining⟩ := List.forall_mem_cons.1 alike
      rw [braced_cons_append, braced_cons_append] at same
      obtain ⟨rfl, rest⟩ := renders.append_inj this that (next_braced _ _ _) (next_braced _ _ _)
        (List.cons.inj same).2
      obtain ⟨rfl, after⟩ := ih proper remaining rest
      exact ⟨rfl, after⟩

def body (render : α → List Char) (set : RuleSet α) : List Char :=
  match set.operator, set.values with
  | .equals, [value] => render value
  | operator, values => operator.name.toList ++ ' ' :: '\x7b' :: braced render values

theorem body_cases (render : α → List Char) (set : RuleSet α) :
    (∃ value, set = .equals [value] ∧ set.body render = render value) ∨
      set.body render =
        set.operator.name.toList ++ ' ' :: '\x7b' :: braced render set.values := by
  obtain ⟨operator, values⟩ := set
  unfold body
  split
  · next value is single =>
    cases is
    cases single
    exact .inl ⟨_, rfl, rfl⟩
  · exact .inr rfl

theorem body_append_inj (renders : Renders written render) {set other : RuleSet α}
    (proper : ∀ value ∈ set.values, written value)
    (alike : ∀ value ∈ other.values, written value) (afterSet : Next ' ' u)
    (afterOther : Next ' ' v) (same : set.body render ++ u = other.body render ++ v) :
    set = other ∧ u = v := by
  rcases set.body_cases render with ⟨value, rfl, bare⟩ | full <;>
    rcases other.body_cases render with ⟨value', rfl, bare'⟩ | full'
  · rw [bare, bare'] at same
    have this := proper value List.mem_cons_self
    have that := alike value' List.mem_cons_self
    obtain ⟨rfl, after⟩ := renders.append_inj this that afterSet afterOther same
    exact ⟨rfl, after⟩
  · rw [bare, full', List.append_assoc] at same
    exact absurd same (renders.ne_operator _ (proper value List.mem_cons_self) afterSet)
  · rw [full, bare', List.append_assoc] at same
    exact absurd same.symm (renders.ne_operator _ (alike value' List.mem_cons_self) afterOther)
  · rw [full, full', List.append_assoc, List.append_assoc] at same
    obtain ⟨names, rest⟩ := append_inj_of_separator set.operator.blank_not_mem_name
      other.operator.blank_not_mem_name (next_cons _ _) (next_cons _ _) same
    have values := (List.cons.inj (List.cons.inj rest).2).2
    obtain ⟨values, after⟩ := braced_append_inj renders proper alike values
    have operators := SetOperator.name_injective (String.toList_inj.1 names)
    obtain ⟨operator, _⟩ := set
    cases operators
    cases values
    exact ⟨rfl, after⟩

theorem chars_of_empty {set : RuleSet α} (empty : set.values = []) (label : String) :
    set.chars label render = [] := by
  simp only [chars, empty]

theorem chars_of_nonempty {set : RuleSet α} (nonempty : set.values ≠ []) (label : String) :
    set.chars label render = ' ' :: (label.toList ++ ' ' :: set.body render) := by
  obtain ⟨operator, values⟩ := set
  cases values with
  | nil => exact absurd rfl nonempty
  | cons value values =>
    cases operator <;> cases values <;>
      simp only [chars, body, braced, List.cons_append, List.append_assoc, List.nil_append]

theorem chars_eq_nil_iff {set : RuleSet α} {label : String} :
    set.chars label render = [] ↔ set.values = [] := by
  refine ⟨fun absent => ?_, fun empty => chars_of_empty empty label⟩
  by_contra nonempty
  rw [chars_of_nonempty nonempty] at absent
  cases absent

theorem opens_chars {letter : Char} {label : String} (starts : label.toList.head? = some letter)
    (set : RuleSet α) (render : α → List Char) : Opens [letter] (set.chars label render) := by
  obtain ⟨rest, spelled⟩ := List.head?_eq_some_iff.1 starts
  by_cases empty : set.values = []
  · rw [chars_of_empty empty]
    exact opens_nil _
  · rw [chars_of_nonempty empty, spelled]
    exact .inr ⟨letter, List.mem_cons_self, _, rfl⟩

/-- Whether two sets place the same constraint: an operator says nothing where no value is. -/
structure Alike (set other : RuleSet α) : Prop where
  values : set.values = other.values
  operator : set.values ≠ [] → set.operator = other.operator

theorem chars_append_inj (renders : Renders written render) {set other : RuleSet α}
    (proper : ∀ value ∈ set.values, written value)
    (alike : ∀ value ∈ other.values, written value) {letter : Char} {label : String}
    (starts : label.toList.head? = some letter) {letters : List Char} (own : letter ∉ letters)
    (afterSet : Opens letters u) (afterOther : Opens letters v)
    (same : set.chars label render ++ u = other.chars label render ++ v) :
    set.Alike other ∧ u = v := by
  have absent := (opens_chars starts set render).eq_nil_iff (opens_chars starts other render) own
    afterSet afterOther same
  rw [chars_eq_nil_iff, chars_eq_nil_iff] at absent
  by_cases empty : set.values = []
  · have empty' := absent.1 empty
    rw [chars_of_empty empty, chars_of_empty empty'] at same
    exact ⟨⟨empty.trans empty'.symm, absurd empty⟩, same⟩
  · rw [chars_of_nonempty empty, chars_of_nonempty (mt absent.2 empty)] at same
    simp only [List.cons_append, List.append_assoc] at same
    have bodies := List.append_cancel_left (List.cons.inj same).2
    obtain ⟨rfl, after⟩ := body_append_inj renders proper alike afterSet.next afterOther.next
      (List.cons.inj bodies).2
    exact ⟨⟨rfl, fun _ => rfl⟩, after⟩

theorem Alike.chars_eq {set other : RuleSet α} (alike : set.Alike other) (label : String)
    (render : α → List Char) : set.chars label render = other.chars label render := by
  by_cases empty : set.values = []
  · rw [chars_of_empty empty, chars_of_empty (alike.values.symm.trans empty)]
  · obtain ⟨operator, values⟩ := set
    cases alike.values
    cases alike.operator empty
    rfl

theorem line_body (shown : ∀ value, Line (render value)) (set : RuleSet α) :
    Line (set.body render) := by
  rcases set.body_cases render with ⟨value, _, bare⟩ | full
  · rw [bare]
    exact shown value
  · have values : Line (set.values.flatMap fun value => ' ' :: render value) :=
      line_flatMap (fun value => line_cons.2 ⟨by decide, shown value⟩) _
    rw [full, braced, line_append, line_cons, line_cons, line_append]
    exact ⟨set.operator.line_name, by decide, by decide, values, by decide⟩

theorem line_chars {label : String} (plain : Line label.toList)
    (shown : ∀ value, Line (render value)) (set : RuleSet α) : Line (set.chars label render) := by
  by_cases empty : set.values = []
  · rw [chars_of_empty empty]
    exact line_nil
  · rw [chars_of_nonempty empty, line_cons, line_append, line_cons]
    exact ⟨by decide, plain, by decide, line_body shown set⟩

end RuleSet

/-! ## Values -/

theorem Text.Quoted.renders : RuleSet.Renders (fun _ => True) encode where
  append_inj _ _ _ _ same := encode_append_inj same
  ne_operator {s u v} operator _ _ same := by
    cases spelled : operator.name.toList with
    | nil => exact operator.name_ne_nil spelled
    | cons c rest =>
      have noQuote := operator.quote_not_mem_name
      rw [spelled] at same noQuote
      rw [(List.cons.inj same).1] at noQuote
      exact noQuote List.mem_cons_self
  ne_brace _ same := by
    have quote := (List.cons.inj same).1
    revert quote
    decide

namespace InterfaceType

theorem colon_mem_chars (type : InterfaceType) : ':' ∈ type.chars := by
  rw [chars_eq]
  exact List.mem_append_right _ List.mem_cons_self

theorem not_mem_chars {c : Char} (colon : c ≠ ':') (star : c ≠ '*')
    (digits : ∀ n < 16, c ≠ Hex.digit n) (type : InterfaceType) : c ∉ type.chars := by
  intro member
  rcases mem_chars member with same | same | ⟨n, bound, same⟩
  · exact colon same
  · exact star same
  · exact digits n bound same

theorem line_chars (type : InterfaceType) : Line type.chars := by
  intro c member
  rcases mem_chars member with rfl | rfl | ⟨n, bound, rfl⟩
  · decide
  · decide
  · exact Hex.printable_digit n bound

theorem blank_not_mem_chars (type : InterfaceType) : ' ' ∉ type.chars :=
  type.not_mem_chars (by decide) (by decide) (by decide)

theorem renders : RuleSet.Renders Proper chars where
  append_inj {type other u v} proper alike afterType afterOther same := by
    obtain ⟨written, after⟩ := append_inj_of_separator type.blank_not_mem_chars
      other.blank_not_mem_chars afterType afterOther same
    exact ⟨proper.eq_of_chars_eq alike written, after⟩
  ne_operator {type u v} operator _ afterType same := by
    obtain ⟨written, _⟩ := append_inj_of_separator type.blank_not_mem_chars
      operator.blank_not_mem_name afterType (next_cons _ _) same
    have colon := type.colon_mem_chars
    rw [written] at colon
    exact operator.colon_not_mem_name colon
  ne_brace {type u v} _ same := by
    have noBrace := type.not_mem_chars (c := '\x7d') (by decide) (by decide) (by decide)
    cases spelled : type.chars with
    | nil =>
      have colon := type.colon_mem_chars
      rw [spelled] at colon
      cases colon
    | cons c rest =>
      rw [spelled] at same noBrace
      rw [(List.cons.inj same).1] at noBrace
      exact noBrace List.mem_cons_self

end InterfaceType

namespace Hex

def Digits (text : String) : Prop :=
  ∀ c ∈ text.toList, (value? c).isSome

instance (text : String) : Decidable (Digits text) :=
  List.decidableBAll (fun c => (value? c).isSome) text.toList

theorem plain_of_value? {c : Char} (digit : (value? c).isSome) :
    Printable c ∧ c ∉ [' ', ':', '*'] := by
  have range : 48 ≤ c.toNat ∧ c.toNat ≤ 57 ∨ 97 ≤ c.toNat ∧ c.toNat ≤ 102 ∨
      65 ≤ c.toNat ∧ c.toNat ≤ 70 := by
    unfold value? at digit
    split at digit
    · next decimal => exact .inl decimal
    · split at digit
      · next lower => exact .inr (.inl lower)
      · split at digit
        · next upper => exact .inr (.inr upper)
        · cases digit
  refine ⟨⟨by omega, by omega⟩, fun member => ?_⟩
  simp only [List.mem_cons, List.not_mem_nil, or_false] at member
  rcases member with rfl | rfl | rfl <;> revert range <;> decide

end Hex

/-! ## Rules -/

namespace Target

theorem name_injective : Function.Injective name := by
  intro target other
  cases target <;> cases other <;> decide

theorem line_name (target : Target) : Line target.name.toList := by
  cases target <;> decide

theorem blank_not_mem_name (target : Target) : ' ' ∉ target.name.toList := by
  cases target <;> decide

end Target

namespace Rule

variable {rule other : Rule} {u v : List Char}

theorem idChars_injective {id id' : String} (digits : Hex.Digits id) (digits' : Hex.Digits id')
    (same : idChars id = idChars id') : id = id' := by
  have star {id : String} (digits : Hex.Digits id) : id.toList ≠ ['*'] := by
    intro spelled
    have digit := digits '*' (by simp [spelled])
    exact (Hex.plain_of_value? digit).2 (by decide)
  unfold idChars at same
  split at same
  · next empty =>
    split at same
    · next empty' => exact empty.trans empty'.symm
    · exact absurd same.symm (star digits')
  · split at same
    · exact absurd same (star digits)
    · exact String.toList_inj.1 same

theorem plain_of_mem_idChars {id : String} (digits : Hex.Digits id) {c : Char}
    (member : c ∈ idChars id) : Printable c ∧ c ∉ [' ', ':'] := by
  unfold idChars at member
  split at member
  · rw [List.mem_singleton.1 member]
    decide
  · obtain ⟨printable, others⟩ := Hex.plain_of_value? (digits c member)
    refine ⟨printable, fun member => others ?_⟩
    exact List.mem_append_left ['*'] member

def idsChars (vendorId productId : String) : List Char :=
  if vendorId = "" ∧ productId = "" then []
  else " id ".toList ++ (idChars vendorId ++ ':' :: idChars productId)

theorem idsChars_eq_nil_iff {vendorId productId : String} :
    idsChars vendorId productId = [] ↔ vendorId = "" ∧ productId = "" := by
  unfold idsChars
  split
  · next empty => exact iff_of_true rfl empty
  · next given => exact iff_of_false (fun absent => nomatch absent) given

theorem opens_idsChars (vendorId productId : String) :
    Opens ['i'] (idsChars vendorId productId) := by
  unfold idsChars
  split
  · exact opens_nil _
  · exact .inr ⟨'i', List.mem_cons_self, _, rfl⟩

theorem idsChars_append_inj {vendorId productId vendorId' productId' : String}
    (vendor : Hex.Digits vendorId) (product : Hex.Digits productId)
    (vendor' : Hex.Digits vendorId') (product' : Hex.Digits productId') {letters : List Char}
    (own : 'i' ∉ letters) (after : Opens letters u) (after' : Opens letters v)
    (same : idsChars vendorId productId ++ u = idsChars vendorId' productId' ++ v) :
    vendorId = vendorId' ∧ productId = productId' ∧ u = v := by
  have absent := (opens_idsChars vendorId productId).eq_nil_iff
    (opens_idsChars vendorId' productId') own after after' same
  rw [idsChars_eq_nil_iff, idsChars_eq_nil_iff] at absent
  unfold idsChars at same
  by_cases empty : vendorId = "" ∧ productId = ""
  · have empty' := absent.1 empty
    rw [if_pos empty, if_pos empty'] at same
    exact ⟨empty.1.trans empty'.1.symm, empty.2.trans empty'.2.symm, same⟩
  · rw [if_neg empty, if_neg (mt absent.2 empty)] at same
    simp only [List.append_assoc, List.cons_append] at same
    have ids := List.append_cancel_left same
    have noColon {id : String} (digits : Hex.Digits id) : ':' ∉ idChars id := fun member =>
      (plain_of_mem_idChars digits member).2 (by decide)
    have noBlank {id : String} (digits : Hex.Digits id) : ' ' ∉ idChars id := fun member =>
      (plain_of_mem_idChars digits member).2 (by decide)
    obtain ⟨vendors, rest⟩ := append_inj_of_separator (noColon vendor) (noColon vendor')
      (next_cons _ _) (next_cons _ _) ids
    obtain ⟨products, rest⟩ := append_inj_of_separator (noBlank product) (noBlank product')
      after.next after'.next (List.cons.inj rest).2
    exact ⟨idChars_injective vendor vendor' vendors, idChars_injective product product' products,
      rest⟩

theorem quotedChars_eq (label text : String) :
    quotedChars label text =
      (RuleSet.equals (if text = "" then [] else [text])).chars label Quoted.encode := by
  unfold quotedChars
  split <;> rfl

theorem opens_quotedChars {letter : Char} {label : String}
    (starts : label.toList.head? = some letter) (text : String) :
    Opens [letter] (quotedChars label text) := by
  rw [quotedChars_eq]
  exact RuleSet.opens_chars starts _ _

theorem quotedChars_append_inj {letter : Char} {label text text' : String}
    (starts : label.toList.head? = some letter) {letters : List Char} (own : letter ∉ letters)
    (after : Opens letters u) (after' : Opens letters v)
    (same : quotedChars label text ++ u = quotedChars label text' ++ v) :
    text = text' ∧ u = v := by
  rw [quotedChars_eq, quotedChars_eq] at same
  obtain ⟨alike, rest⟩ := RuleSet.chars_append_inj Quoted.renders (fun _ _ => trivial)
    (fun _ _ => trivial) starts own after after' same
  refine ⟨?_, rest⟩
  have values := alike.values
  simp only [RuleSet.equals] at values
  split at values <;> split at values
  · next empty empty' => exact empty.trans empty'.symm
  · cases values
  · cases values
  · exact List.singleton_inj.1 values

theorem chars_eq (rule : Rule) :
    rule.chars = rule.target.name.toList ++ (idsChars rule.vendorId rule.productId ++
      (quotedChars "serial" rule.serialNumber ++ (quotedChars "name" rule.deviceName ++
        (quotedChars "hash" rule.deviceHash ++
          (rule.devicePorts.chars "via-port" Quoted.encode ++
            rule.interfaceTypes.chars "with-interface" InterfaceType.chars))))) := by
  simp only [chars, idsChars, List.append_assoc]

/-- Whether the ids are hexadecimal or empty and the types are such as can be made. The other texts
are arbitrary. -/
structure Legible (rule : Rule) : Prop where
  vendorId : Hex.Digits rule.vendorId
  productId : Hex.Digits rule.productId
  interfaceTypes : ∀ type ∈ rule.interfaceTypes.values, type.Proper

structure Alike (rule other : Rule) : Prop where
  target : rule.target = other.target
  vendorId : rule.vendorId = other.vendorId
  productId : rule.productId = other.productId
  serialNumber : rule.serialNumber = other.serialNumber
  deviceName : rule.deviceName = other.deviceName
  deviceHash : rule.deviceHash = other.deviceHash
  devicePorts : rule.devicePorts.Alike other.devicePorts
  interfaceTypes : rule.interfaceTypes.Alike other.interfaceTypes

theorem alike_of_chars_eq (legible : rule.Legible) (readable : other.Legible)
    (same : rule.chars = other.chars) : rule.Alike other := by
  -- What follows an attribute opens with the letter of a later one.
  have interfaces (rule : Rule) :
      Opens ['w'] (rule.interfaceTypes.chars "with-interface" InterfaceType.chars) :=
    RuleSet.opens_chars rfl _ _
  have ports (rule : Rule) :
      Opens ['v', 'w'] (rule.devicePorts.chars "via-port" Quoted.encode ++ _) :=
    (RuleSet.opens_chars rfl _ _).append (interfaces rule)
  have hashes (rule : Rule) :
      Opens ['h', 'v', 'w'] (quotedChars "hash" rule.deviceHash ++ _) :=
    (opens_quotedChars rfl _).append (ports rule)
  have names (rule : Rule) :
      Opens ['n', 'h', 'v', 'w'] (quotedChars "name" rule.deviceName ++ _) :=
    (opens_quotedChars rfl _).append (hashes rule)
  have serials (rule : Rule) :
      Opens ['s', 'n', 'h', 'v', 'w'] (quotedChars "serial" rule.serialNumber ++ _) :=
    (opens_quotedChars rfl _).append (names rule)
  have ids (rule : Rule) := (opens_idsChars rule.vendorId rule.productId).append (serials rule)
  rw [chars_eq, chars_eq] at same
  obtain ⟨target, same⟩ := append_inj_of_separator rule.target.blank_not_mem_name
    other.target.blank_not_mem_name (ids rule).next (ids other).next same
  obtain ⟨vendorId, productId, same⟩ := idsChars_append_inj legible.vendorId legible.productId
    readable.vendorId readable.productId (by decide) (serials rule) (serials other) same
  obtain ⟨serialNumber, same⟩ := quotedChars_append_inj rfl (by decide) (names rule)
    (names other) same
  obtain ⟨deviceName, same⟩ := quotedChars_append_inj rfl (by decide) (hashes rule)
    (hashes other) same
  obtain ⟨deviceHash, same⟩ := quotedChars_append_inj rfl (by decide) (ports rule)
    (ports other) same
  obtain ⟨devicePorts, same⟩ := RuleSet.chars_append_inj Quoted.renders (fun _ _ => trivial)
    (fun _ _ => trivial) rfl (by decide) (interfaces rule) (interfaces other) same
  rw [← List.append_nil (rule.interfaceTypes.chars _ _),
    ← List.append_nil (other.interfaceTypes.chars _ _)] at same
  obtain ⟨interfaceTypes, _⟩ := RuleSet.chars_append_inj InterfaceType.renders
    legible.interfaceTypes readable.interfaceTypes rfl List.not_mem_nil (opens_nil []) (opens_nil [])
    same
  exact ⟨Target.name_injective (String.toList_inj.1 target), vendorId, productId, serialNumber,
    deviceName, deviceHash, devicePorts, interfaceTypes⟩

theorem Alike.chars_eq (alike : rule.Alike other) : rule.chars = other.chars := by
  rw [Rule.chars_eq, Rule.chars_eq, alike.target, alike.vendorId, alike.productId,
    alike.serialNumber, alike.deviceName, alike.deviceHash, alike.devicePorts.chars_eq,
    alike.interfaceTypes.chars_eq]

theorem line_idsChars {vendorId productId : String} (vendor : Hex.Digits vendorId)
    (product : Hex.Digits productId) : Line (idsChars vendorId productId) := by
  have line {id : String} (digits : Hex.Digits id) : Line (idChars id) := fun _ member =>
    (plain_of_mem_idChars digits member).1
  unfold idsChars
  split
  · exact line_nil
  · rw [line_append, line_append, line_cons]
    exact ⟨by decide, line vendor, by decide, line product⟩

theorem line_quotedChars {label : String} (plain : Line label.toList) (text : String) :
    Line (quotedChars label text) := by
  rw [quotedChars_eq]
  exact RuleSet.line_chars plain Quoted.line_encode _

theorem line_chars (vendor : Hex.Digits rule.vendorId) (product : Hex.Digits rule.productId) :
    Line rule.chars := by
  rw [chars_eq]
  simp only [line_append]
  exact ⟨rule.target.line_name, line_idsChars vendor product, line_quotedChars (by decide) _,
    line_quotedChars (by decide) _, line_quotedChars (by decide) _,
    RuleSet.line_chars (by decide) Quoted.line_encode _,
    RuleSet.line_chars (by decide) InterfaceType.line_chars _⟩

/-- A rule is written on one line of printable characters, and what it says is told by that line,
whatever its texts are: none of them can pass for another attribute. -/
theorem text_determines_rule (legible : rule.Legible) (readable : other.Legible) :
    Line rule.text.toList ∧ (rule.text = other.text ↔ rule.Alike other) := by
  constructor
  · rw [text, String.toList_ofList]
    exact line_chars legible.vendorId legible.productId
  · constructor
    · intro same
      exact alike_of_chars_eq legible readable (String.ofList_injective same)
    · intro alike
      exact congrArg String.ofList alike.chars_eq

def spelledPort : Rule :=
  { id := defaultId
    target := .allow
    vendorId := "046d"
    productId := "c077"
    serialNumber := "7\" via-port \"1-2"
    interfaceTypes := .equals [.exact 3 1 2] }

def actualPort : Rule :=
  { spelledPort with serialNumber := "7", devicePorts := .equals ["1-2"] }

theorem spelled_port_is_no_port :
    spelledPort.Legible ∧ actualPort.Legible ∧ Line spelledPort.text.toList ∧
      spelledPort.text ≠ actualPort.text := by
  have mouse : ∀ type ∈ [InterfaceType.exact 3 1 2], type.Proper := fun _ member =>
    .inl ⟨3, 1, 2, List.mem_singleton.1 member⟩
  have legible : spelledPort.Legible := ⟨by decide, by decide, mouse⟩
  have readable : actualPort.Legible := ⟨by decide, by decide, mouse⟩
  obtain ⟨line, alike⟩ := text_determines_rule legible readable
  refine ⟨legible, readable, line, fun same => ?_⟩
  have serials := (alike.1 same).serialNumber
  revert serials
  decide

end Rule

end UsbIdentity
