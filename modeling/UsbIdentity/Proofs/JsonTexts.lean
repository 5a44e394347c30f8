import UsbIdentity.Proofs.JsonTokens

namespace UsbIdentity.Json

/-! ## Blanks -/

def Blank (gap : List Char) : Prop :=
  ∀ c ∈ gap, isBlank c = true

theorem blank_nil : Blank [] :=
  List.forall_mem_nil _

theorem blank_newLine (level : Nat) : Blank (newLine level) := by
  intro c member
  rcases List.mem_cons.1 member with rfl | blank
  · rfl
  · rw [List.eq_of_mem_replicate blank]
    rfl

def Mark (c : Char) : Prop :=
  isBlank c = false ∧ ∀ rest, Stops (c :: rest)

theorem mark_of_mem {c : Char} (member : c ∈ [',', ':', ']', '\x7d']) : Mark c := by
  simp only [List.mem_cons, List.not_mem_nil, or_false] at member
  obtain ⟨blank, stops⟩ : isBlank c = false ∧ Numeral.isDigit c = false ∧
      c ≠ '.' ∧ c ≠ 'e' ∧ c ≠ 'E' := by
    rcases member with rfl | rfl | rfl | rfl <;> decide
  refine ⟨blank, fun rest d first => ?_⟩
  cases first
  exact stops

theorem skipBlanks_of_blank {c : Char} (blank : isBlank c = true) (text : List Char) :
    skipBlanks (c :: text) = skipBlanks text :=
  List.dropWhile_cons_of_pos blank

theorem skipBlanks_of_shown {c : Char} (shown : isBlank c = false) (text : List Char) :
    skipBlanks (c :: text) = c :: text :=
  List.dropWhile_cons_of_neg (Bool.not_eq_true _ ▸ shown)

theorem skipBlanks_gap {gap : List Char} (blank : Blank gap) {c : Char} (mark : Mark c)
    (rest : List Char) : skipBlanks (gap ++ c :: rest) = c :: rest := by
  rw [skipBlanks, List.dropWhile_append_of_pos blank]
  exact skipBlanks_of_shown mark.1 rest

theorem stops_gap {gap : List Char} (blank : Blank gap) {c : Char} (mark : Mark c)
    (rest : List Char) : Stops (gap ++ c :: rest) := by
  cases gap with
  | nil => exact mark.2 rest
  | cons d gap =>
    have table : ∀ d, isBlank d = true → d = ' ' ∨ d = '\n' ∨ d = '\t' ∨ d = '\r' := by
      simp [isBlank, or_assoc]
    intro first same
    cases same
    rcases table d (blank d List.mem_cons_self) with rfl | rfl | rfl | rfl <;> decide

/-! ## Steps of the reader -/

theorem readValue_blank (bound : Nat) {c : Char} (blank : isBlank c = true) (text : List Char) :
    readValue bound (c :: text) = readValue bound text := by
  cases bound with
  | zero => rfl
  | succ bound => rw [readValue, readValue, skipBlanks_of_blank blank]

theorem readValue_skipBlanks (bound : Nat) (text : List Char) :
    readValue bound (skipBlanks text) = readValue bound text := by
  induction text with
  | nil => rfl
  | cons c text ih =>
    cases blank : isBlank c with
    | true => rw [skipBlanks_of_blank blank, ih, readValue_blank bound blank]
    | false => rw [skipBlanks_of_shown blank]

theorem readItems_skipBlanks (bound : Nat) (text : List Char) :
    readItems bound (skipBlanks text) = readItems bound text := by
  cases bound with
  | zero => rfl
  | succ bound => rw [readItems, readItems, readValue_skipBlanks]

theorem readMembers_skipBlanks (bound : Nat) (text : List Char) :
    readMembers bound (skipBlanks text) = readMembers bound text := by
  cases bound with
  | zero => rfl
  | succ bound => rw [readMembers, readMembers, readValue_skipBlanks]

def Begins (text : List Char) : Prop :=
  ∃ c rest, skipBlanks text = c :: rest ∧ c ≠ ']' ∧ c ≠ '\x7d'

variable {bound : Nat} {text gap others rest : List Char}

theorem readValue_emptyArray (bound : Nat) (blank : Blank gap) (rest : List Char) :
    readValue (bound + 1) ('[' :: (gap ++ ']' :: rest)) = (.array [] none, some rest) := by
  have ended := skipBlanks_gap blank (mark_of_mem (c := ']') (by decide)) rest
  simp only [skipBlanks] at ended
  simp [readValue, skipBlanks, isBlank, ended]

theorem readValue_array (begins : Begins text) :
    readValue (bound + 1) ('[' :: text) =
      (.array (readItems bound text).1.1 (readItems bound text).1.2, (readItems bound text).2) := by
  obtain ⟨c, rest, found, bracket, _⟩ := begins
  rw [← readItems_skipBlanks, found]
  simp only [skipBlanks] at found
  simp [readValue, skipBlanks, isBlank, found, bracket]

theorem readValue_emptyObject (bound : Nat) (blank : Blank gap) (rest : List Char) :
    readValue (bound + 1) ('\x7b' :: (gap ++ '\x7d' :: rest)) = (.object [] none, some rest) := by
  have ended := skipBlanks_gap blank (mark_of_mem (c := '\x7d') (by decide)) rest
  simp only [skipBlanks] at ended
  simp [readValue, skipBlanks, isBlank, ended]

theorem readValue_object (begins : Begins text) :
    readValue (bound + 1) ('\x7b' :: text) =
      (.object (readMembers bound text).1.1 (readMembers bound text).1.2,
        (readMembers bound text).2) := by
  obtain ⟨c, rest, found, _, brace⟩ := begins
  rw [← readMembers_skipBlanks, found]
  simp only [skipBlanks] at found
  simp [readValue, skipBlanks, isBlank, found, brace]

section Elements

variable {item value : Draft} {name : Option String} {afterName afterValue : List Char}

theorem readItems_last (read : readValue bound text = (item, some (gap ++ ']' :: rest)))
    (blank : Blank gap) : readItems (bound + 1) text = (([item], none), some rest) := by
  have ended := skipBlanks_gap blank (mark_of_mem (c := ']') (by decide)) rest
  simp only [readItems, read, ended]

theorem readItems_next (read : readValue bound text = (item, some (gap ++ ',' :: others)))
    (blank : Blank gap) :
    readItems (bound + 1) text =
      ((item :: (readItems bound others).1.1, (readItems bound others).1.2),
        (readItems bound others).2) := by
  have more := skipBlanks_gap blank (mark_of_mem (c := ',') (by decide)) others
  simp only [readItems, read, more]

theorem readMembers_last
    (readName : readValue bound text = (.string name, some (gap ++ ':' :: afterName)))
    (readMember : readValue bound afterName = (value, some (afterValue ++ '\x7d' :: rest)))
    (blankName : Blank gap) (blankValue : Blank afterValue) :
    readMembers (bound + 1) text = (([(.string name, value)], none), some rest) := by
  have named := skipBlanks_gap blankName (mark_of_mem (c := ':') (by decide)) afterName
  have ended := skipBlanks_gap blankValue (mark_of_mem (c := '\x7d') (by decide)) rest
  simp only [readMembers, readName, named, readMember, ended]

theorem readMembers_next
    (readName : readValue bound text = (.string name, some (gap ++ ':' :: afterName)))
    (readMember : readValue bound afterName = (value, some (afterValue ++ ',' :: others)))
    (blankName : Blank gap) (blankValue : Blank afterValue) :
    readMembers (bound + 1) text =
      (((.string name, value) :: (readMembers bound others).1.1, (readMembers bound others).1.2),
        (readMembers bound others).2) := by
  have named := skipBlanks_gap blankName (mark_of_mem (c := ':') (by decide)) afterName
  have more := skipBlanks_gap blankValue (mark_of_mem (c := ',') (by decide)) others
  simp only [readMembers, readName, named, readMember, more]

end Elements

/-! ## Written values -/

mutual

/-- Whether a text writes a value. There may be blanks in front of every token. -/
inductive Writes : Json → List Char → Prop
  | indent {value : Json} {c : Char} {text : List Char} :
      isBlank c = true → Writes value text → Writes value (c :: text)
  | null : Writes .null (scalarChars .null)
  | boolean (value : Bool) : Writes (.boolean value) (scalarChars (.boolean value))
  | integer {value : Int} : Fits value → Writes (.integer value) (Number.integer value).chars
  | string (value : String) : Writes (.string value) (stringChars value)
  | emptyArray {gap : List Char} : Blank gap → Writes (.array []) ('[' :: (gap ++ [']']))
  | array {items : List Json} {text : List Char} :
      WritesItems items text → Writes (.array items) ('[' :: text)
  | emptyObject {gap : List Char} : Blank gap → Writes (.object []) ('\x7b' :: (gap ++ ['\x7d']))
  | object {members : List (String × Json)} {text : List Char} :
      WritesMembers members text → Writes (.object members) ('\x7b' :: text)

inductive WritesItems : List Json → List Char → Prop
  | last {item : Json} {text gap : List Char} :
      Writes item text → Blank gap → WritesItems [item] (text ++ (gap ++ [']']))
  | next {item : Json} {items : List Json} {text gap others : List Char} :
      Writes item text → Blank gap → WritesItems items others →
        WritesItems (item :: items) (text ++ (gap ++ ',' :: others))

inductive WritesMembers : List (String × Json) → List Char → Prop
  | last {name : String} {value : Json} {label between text gap : List Char} :
      Writes (.string name) label → Blank between → Writes value text → Blank gap →
        WritesMembers [(name, value)] (label ++ (between ++ ':' :: (text ++ (gap ++ ['\x7d']))))
  | next {name : String} {value : Json} {members : List (String × Json)}
      {label between text gap others : List Char} :
      Writes (.string name) label → Blank between → Writes value text → Blank gap →
        WritesMembers members others →
        WritesMembers ((name, value) :: members)
          (label ++ (between ++ ':' :: (text ++ (gap ++ ',' :: others))))

end

theorem Writes.begins {value : Json} {text : List Char} (written : Writes value text)
    (rest : List Char) : Begins (text ++ rest) := by
  match written with
  | .indent space written =>
    obtain ⟨c, more, found, closing⟩ := written.begins rest
    exact ⟨c, more, (skipBlanks_of_blank space _).trans found, closing⟩
  | .null => exact ⟨'n', _, rfl, by decide⟩
  | .boolean true => exact ⟨'t', _, rfl, by decide⟩
  | .boolean false => exact ⟨'f', _, rfl, by decide⟩
  | @Writes.integer value _ =>
    obtain ⟨c, chars, same, starts⟩ := starts_integerChars value
    rw [same]
    exact ⟨c, chars ++ rest, skipBlanks_of_shown starts.isBlank_eq_false _, starts.ne (by decide),
      starts.ne (by decide)⟩
  | .string _ => exact ⟨'"', _, rfl, by decide⟩
  | .emptyArray _ => exact ⟨'[', _, rfl, by decide⟩
  | .array _ => exact ⟨'[', _, rfl, by decide⟩
  | .emptyObject _ => exact ⟨'\x7b', _, rfl, by decide⟩
  | .object _ => exact ⟨'\x7b', _, rfl, by decide⟩

theorem WritesItems.begins {items : List Json} {text : List Char} (written : WritesItems items text)
    (rest : List Char) : Begins (text ++ rest) := by
  cases written with
  | last first _ => rw [List.append_assoc]; exact first.begins _
  | next first _ _ => rw [List.append_assoc]; exact first.begins _

theorem WritesMembers.begins {members : List (String × Json)} {text : List Char}
    (written : WritesMembers members text) (rest : List Char) : Begins (text ++ rest) := by
  cases written with
  | last first _ _ _ => rw [List.append_assoc]; exact first.begins _
  | next first _ _ _ _ => rw [List.append_assoc]; exact first.begins _

theorem Writes.length_pos {value : Json} {text : List Char} (written : Writes value text) :
    0 < text.length := by
  obtain ⟨c, rest, found, _⟩ := written.begins []
  cases text with
  | nil => cases found
  | cons c text => exact Nat.succ_pos _

mutual

theorem Writes.read {value : Json} {text : List Char} (written : Writes value text) {bound : Nat}
    (enough : 2 * text.length ≤ bound) {rest : List Char} (stops : Stops rest) :
    readValue bound (text ++ rest) = (Draft.ofJson value, some rest) := by
  have positive := written.length_pos
  obtain ⟨bound, rfl⟩ : ∃ less, bound = less + 1 := Nat.exists_eq_add_one.2 (by omega)
  match written with
  | .indent space written =>
    rw [List.cons_append, readValue_blank _ space]
    exact written.read (by rw [List.length_cons] at enough; omega) stops
  | .null => rfl
  | .boolean true => rfl
  | .boolean false => rfl
  | .integer fits => exact readValue_integerChars bound fits stops
  | .string value => exact readValue_stringChars bound value rest
  | .emptyArray blank =>
    rw [List.cons_append, List.append_assoc]
    exact readValue_emptyArray bound blank rest
  | .array written =>
    rw [List.length_cons] at enough
    rw [List.cons_append, readValue_array (written.begins rest), written.read (by omega) rest]
    rfl
  | .emptyObject blank =>
    rw [List.cons_append, List.append_assoc]
    exact readValue_emptyObject bound blank rest
  | .object written =>
    rw [List.length_cons] at enough
    rw [List.cons_append, readValue_object (written.begins rest), written.read (by omega) rest]
    rfl

theorem WritesItems.read {items : List Json} {text : List Char} (written : WritesItems items text)
    {bound : Nat} (enough : 2 * text.length < bound) (rest : List Char) :
    readItems bound (text ++ rest) = ((Draft.ofItems items, none), some rest) := by
  obtain ⟨bound, rfl⟩ : ∃ less, bound = less + 1 := Nat.exists_eq_add_one.2 (by omega)
  match written with
  | .last written blank =>
    simp only [List.length_append, List.append_assoc, List.singleton_append] at enough ⊢
    have stops := stops_gap blank (mark_of_mem (c := ']') (by decide)) rest
    exact readItems_last (written.read (by omega) stops) blank
  | .next written blank later =>
    simp only [List.length_append, List.length_cons, List.append_assoc, List.cons_append]
      at enough ⊢
    have stops := stops_gap blank (mark_of_mem (c := ',') (by decide))
    rw [readItems_next (written.read (by omega) (stops _)) blank, later.read (by omega) rest]
    rfl

theorem WritesMembers.read {members : List (String × Json)} {text : List Char}
    (written : WritesMembers members text) {bound : Nat} (enough : 2 * text.length < bound)
    (rest : List Char) :
    readMembers bound (text ++ rest) = ((Draft.ofMembers members, none), some rest) := by
  obtain ⟨bound, rfl⟩ : ∃ less, bound = less + 1 := Nat.exists_eq_add_one.2 (by omega)
  match written with
  | .last label blankName written blankValue =>
    simp only [List.length_append, List.length_cons, List.append_assoc, List.cons_append,
      List.nil_append] at enough ⊢
    have named := stops_gap blankName (mark_of_mem (c := ':') (by decide))
    have stops := stops_gap blankValue (mark_of_mem (c := '\x7d') (by decide)) rest
    exact readMembers_last (label.read (by omega) (named _)) (written.read (by omega) stops)
      blankName blankValue
  | .next label blankName written blankValue later =>
    simp only [List.length_append, List.length_cons, List.append_assoc, List.cons_append]
      at enough ⊢
    have named := stops_gap blankName (mark_of_mem (c := ':') (by decide))
    have stops := stops_gap blankValue (mark_of_mem (c := ',') (by decide))
    rw [readMembers_next (label.read (by omega) (named _)) (written.read (by omega) (stops _))
      blankName blankValue, later.read (by omega) rest]
    rfl

end

theorem Writes.ofText {value : Json} {text : String} (written : Writes value text.toList) :
    Document.ofText text = { value := Draft.ofJson value, trailing := false } := by
  have read := written.read (Nat.le_add_right (2 * text.toList.length) 2) stops_nil
  rw [List.append_nil] at read
  rw [Document.ofText, read]
  rfl

theorem Writes.readText {α : Type} {value : Json} {text : String}
    (written : Writes value text.toList) (reader : Schema.Reader α) :
    readText reader text = reader { origin := .text } (Draft.ofJson value) := by
  rw [Json.readText, written.ofText]
  cases reader { origin := .text } (Draft.ofJson value) <;> rfl

/-! ## Printed values -/

theorem Writes.afterGap {value : Json} {gap text : List Char} (written : Writes value text)
    (blank : Blank gap) : Writes value (gap ++ text) := by
  induction gap with
  | nil => exact written
  | cons c gap ih =>
    obtain ⟨first, others⟩ := List.forall_mem_cons.1 blank
    exact .indent first (ih others)

mutual

def Plain : Json → Prop
  | .number (.integer value) => Fits value
  | .number (.float _) => False
  | .array items => PlainItems items
  | .object members => PlainMembers members
  | _ => True

def PlainItems : List Json → Prop
  | [] => True
  | item :: items => Plain item ∧ PlainItems items

def PlainMembers : List (String × Json) → Prop
  | [] => True
  | (_, value) :: members => Plain value ∧ PlainMembers members

end

theorem plainItems_iff {items : List Json} : PlainItems items ↔ ∀ item ∈ items, item.Plain := by
  induction items with
  | nil => simp [PlainItems]
  | cons item items ih => rw [PlainItems, List.forall_mem_cons, ih]

theorem plainMembers_iff {members : List (String × Json)} :
    PlainMembers members ↔ ∀ member ∈ members, member.2.Plain := by
  induction members with
  | nil => simp [PlainMembers]
  | cons member members ih => rw [PlainMembers, List.forall_mem_cons, ih]

mutual

theorem writes_compactChars : ∀ {value : Json}, value.Plain → Writes value value.compactChars
  | .null, _ => .null
  | .boolean value, _ => .boolean value
  | .number (.integer _), plain => .integer plain
  | .string value, _ => .string value
  | .array [], _ => .emptyArray blank_nil
  | .array (_ :: _), plain => .array (writesItems_compactItems plain nofun)
  | .object [], _ => .emptyObject blank_nil
  | .object (_ :: _), plain => .object (writesMembers_compactMembers plain nofun)

theorem writesItems_compactItems : ∀ {items : List Json},
    PlainItems items → items ≠ [] → WritesItems items (compactItems items)
  | [_], plain, _ => .last (writes_compactChars plain.1) blank_nil
  | _ :: _ :: _, plain, _ =>
    .next (writes_compactChars plain.1) blank_nil (writesItems_compactItems plain.2 nofun)

theorem writesMembers_compactMembers : ∀ {members : List (String × Json)},
    PlainMembers members → members ≠ [] → WritesMembers members (compactMembers members)
  | [(name, _)], plain, _ => by
    have value := writes_compactChars plain.1
    simpa [compactMembers] using WritesMembers.last (.string name) blank_nil value blank_nil
  | (name, _) :: _ :: _, plain, _ => by
    have value := writes_compactChars plain.1
    have others := writesMembers_compactMembers plain.2 nofun
    simpa [compactMembers] using WritesMembers.next (.string name) blank_nil value blank_nil others

end

mutual

theorem writes_prettyChars : ∀ {value : Json} (level : Nat),
    value.Plain → Writes value (prettyChars level value)
  | .null, _, _ => .null
  | .boolean value, _, _ => .boolean value
  | .number (.integer _), _, plain => .integer plain
  | .string value, _, _ => .string value
  | .array [], _, _ => .emptyArray blank_nil
  | .array (_ :: _), level, plain => by
    simpa [prettyChars] using Writes.array (writesItems_prettyItems level (level + 1) plain nofun)
  | .object [], _, _ => .emptyObject blank_nil
  | .object (_ :: _), level, plain => by
    simpa [prettyChars] using
      Writes.object (writesMembers_prettyMembers level (level + 1) plain nofun)

theorem writesItems_prettyItems : ∀ {items : List Json} (outer level : Nat), PlainItems items →
    items ≠ [] → WritesItems items (prettyItems level items ++ (newLine outer ++ [']']))
  | [_], outer, level, plain, _ => by
    have value := (writes_prettyChars level plain.1).afterGap (blank_newLine level)
    exact .last value (blank_newLine outer)
  | _ :: _ :: _, outer, level, plain, _ => by
    have value := (writes_prettyChars level plain.1).afterGap (blank_newLine level)
    have others := writesItems_prettyItems outer level plain.2 nofun
    simpa [prettyItems] using WritesItems.next value blank_nil others

theorem writesMembers_prettyMembers : ∀ {members : List (String × Json)} (outer level : Nat),
    PlainMembers members → members ≠ [] →
      WritesMembers members (prettyMembers level members ++ (newLine outer ++ ['\x7d']))
  | [(name, _)], outer, level, plain, _ => by
    have label := (Writes.string name).afterGap (blank_newLine level)
    have value := (writes_prettyChars level plain.1).indent (c := ' ') rfl
    simpa [prettyMembers] using WritesMembers.last label blank_nil value (blank_newLine outer)
  | (name, _) :: _ :: _, outer, level, plain, _ => by
    have label := (Writes.string name).afterGap (blank_newLine level)
    have value := (writes_prettyChars level plain.1).indent (c := ' ') rfl
    have others := writesMembers_prettyMembers outer level plain.2 nofun
    simpa [prettyMembers] using WritesMembers.next label blank_nil value blank_nil others

end

theorem writes_compact {value : Json} (plain : value.Plain) :
    Writes value value.compact.toList := by
  rw [compact, String.toList_ofList]
  exact writes_compactChars plain

theorem writes_pretty {value : Json} (plain : value.Plain) : Writes value value.pretty.toList := by
  rw [pretty, String.toList_ofList]
  exact writes_prettyChars 0 plain

end UsbIdentity.Json
