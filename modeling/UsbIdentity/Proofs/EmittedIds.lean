import UsbIdentity.Proofs.NormalRules
import UsbIdentity.Proofs.RuleText

/-!
# Ids in the text of a replayed rule

The ids of a rule are written as they stand, without quotes. A session only makes hexadecimal ids,
but a replay takes any texts that fit their bounds, and the rule that it emits can break its line or
read like the rule of another device.
-/

namespace UsbIdentity

open Text

namespace Rule

variable {rule other emitted issued : Rule}

theorem line_idChars_iff {id : String} : Line (idChars id) ↔ Line id.toList := by
  unfold idChars
  split
  · next empty =>
    subst empty
    decide
  · rfl

theorem line_idsChars_iff {vendorId productId : String} :
    Line (idsChars vendorId productId) ↔ Line vendorId.toList ∧ Line productId.toList := by
  unfold idsChars
  split
  · next empty =>
    rw [empty.1, empty.2]
    decide
  · have start : Line " id ".toList := by decide
    have colon : Printable ':' := by decide
    rw [line_append, line_append, line_cons, line_idChars_iff, line_idChars_iff]
    tauto

theorem line_chars_iff :
    Line rule.chars ↔ Line rule.vendorId.toList ∧ Line rule.productId.toList := by
  have target := rule.target.line_name
  have serial : Line (quotedChars "serial" rule.serialNumber) := line_quotedChars (by decide) _
  have name : Line (quotedChars "name" rule.deviceName) := line_quotedChars (by decide) _
  have hash : Line (quotedChars "hash" rule.deviceHash) := line_quotedChars (by decide) _
  have ports : Line (rule.devicePorts.chars "via-port" Quoted.encode) :=
    RuleSet.line_chars (by decide) Quoted.line_encode _
  have types : Line (rule.interfaceTypes.chars "with-interface" InterfaceType.chars) :=
    RuleSet.line_chars (by decide) InterfaceType.line_chars _
  rw [chars_eq]
  simp [line_append, line_idsChars_iff, target, serial, name, hash, ports, types]

def writtenIds (rule : Rule) : String :=
  rule.vendorId ++ ":" ++ rule.productId

def charsAfterIds (rule : Rule) : List Char :=
  quotedChars "serial" rule.serialNumber ++ (quotedChars "name" rule.deviceName ++
    (quotedChars "hash" rule.deviceHash ++ (rule.devicePorts.chars "via-port" Quoted.encode ++
      rule.interfaceTypes.chars "with-interface" InterfaceType.chars)))

theorem next_charsAfterIds (rule : Rule) : Next ' ' rule.charsAfterIds := by
  have serial : Opens ['s'] (quotedChars "serial" rule.serialNumber) := opens_quotedChars rfl _
  have name : Opens ['n'] (quotedChars "name" rule.deviceName) := opens_quotedChars rfl _
  have hash : Opens ['h'] (quotedChars "hash" rule.deviceHash) := opens_quotedChars rfl _
  have ports : Opens ['v'] (rule.devicePorts.chars "via-port" Quoted.encode) :=
    RuleSet.opens_chars rfl _ _
  have types : Opens ['w'] (rule.interfaceTypes.chars "with-interface" InterfaceType.chars) :=
    RuleSet.opens_chars rfl _ _
  exact (serial.append (name.append (hash.append (ports.append types)))).next

theorem chars_of_ids (vendorId : rule.vendorId ≠ "") (productId : rule.productId ≠ "") :
    rule.chars = rule.target.name.toList ++
      ' ' :: 'i' :: 'd' :: ' ' :: (rule.writtenIds.toList ++ rule.charsAfterIds) := by
  have some : ¬(rule.vendorId = "" ∧ rule.productId = "") := fun none => vendorId none.1
  rw [chars_eq, idsChars, if_neg some, idChars, if_neg vendorId, idChars, if_neg productId]
  simp [writtenIds, charsAfterIds]

/-- Whether the replay of a rule under some bounds gives a rule. -/
def Emits (rule : Rule) (limits : Limits) (includePort : Bool) (emitted : Rule) : Prop :=
  ∃ record, Record.ofRule rule limits = .ok record ∧ record.toRule includePort = .ok emitted

def hashText (rule : Rule) : String :=
  String.ofList (Sha256.hexDigest
    (Identity.message rule.deviceName rule.vendorId rule.productId rule.serialNumber))

theorem emits_iff {limits : Limits} {includePort : Bool} :
    rule.Emits limits includePort emitted ↔
      limits.Admit (Record.textsOfRule rule) ∧ (rule.vendorId ≠ "" ∧ rule.productId ≠ "") ∧
        emitted = (rule.described limits).ruleOf includePort rule.hashText := by
  simp only [Emits, Record.ofRule_eq_ok_iff, Record.toRule_eq_ok_iff, Record.hash,
    Identity.hash_eq_ok_iff]
  constructor
  · rintro ⟨record, ⟨fit, rfl⟩, _, hash, ⟨ids, rfl⟩, rfl⟩
    exact ⟨fit, ids, rfl⟩
  · rintro ⟨fit, ids, rfl⟩
    exact ⟨_, ⟨fit, rfl⟩, rfl, _, ⟨ids, rfl⟩, rfl⟩

theorem Emits.ids {limits : Limits} {includePort : Bool}
    (emits : rule.Emits limits includePort emitted) :
    (emitted.vendorId = rule.vendorId ∧ emitted.productId = rule.productId) ∧
      emitted.vendorId ≠ "" ∧ emitted.productId ≠ "" := by
  obtain ⟨_, ids, rfl⟩ := emits_iff.1 emits
  exact ⟨⟨rfl, rfl⟩, ids⟩

theorem Emits.rest_eq_of_text_eq {limits limits' : Limits} {includePort includePort' : Bool}
    (emits : rule.Emits limits includePort emitted)
    (issues : other.Emits limits' includePort' issued) (same : emitted.text = issued.text) :
    rule.writtenIds.toList ++ emitted.charsAfterIds =
      other.writtenIds.toList ++ issued.charsAfterIds := by
  obtain ⟨⟨vendor, product⟩, vendorId, productId⟩ := emits.ids
  obtain ⟨⟨vendor', product'⟩, vendorId', productId'⟩ := issues.ids
  have chars : emitted.chars = issued.chars := String.ofList_injective same
  rw [chars_of_ids vendorId productId, chars_of_ids vendorId' productId'] at chars
  have afterTarget := (append_inj_of_separator emitted.target.blank_not_mem_name
    issued.target.blank_not_mem_name (next_cons _ _) (next_cons _ _) chars).2
  simpa [writtenIds, vendor, product, vendor', product'] using afterTarget

/-- An emitted rule is one line of printable characters exactly if the ids are. If two emitted rules
have one text, their ids read alike where no id has a blank, and they are the same where no vendor
id has a colon and no product id has a blank. -/
theorem emitted_text_shows_ids {limits limits' : Limits} {includePort includePort' : Bool}
    (emits : rule.Emits limits includePort emitted)
    (issues : other.Emits limits' includePort' issued) :
    (Line emitted.text.toList ↔ Line rule.vendorId.toList ∧ Line rule.productId.toList) ∧
    (emitted.text = issued.text → ' ' ∉ rule.writtenIds.toList → ' ' ∉ other.writtenIds.toList →
      rule.writtenIds = other.writtenIds) ∧
    (emitted.text = issued.text → ':' ∉ rule.vendorId.toList → ':' ∉ other.vendorId.toList →
      ' ' ∉ rule.productId.toList → ' ' ∉ other.productId.toList →
      rule.vendorId = other.vendorId ∧ rule.productId = other.productId) := by
  refine ⟨?_, ?_, ?_⟩
  · obtain ⟨⟨vendor, product⟩, _⟩ := emits.ids
    rw [text, String.toList_ofList, line_chars_iff, vendor, product]
  · intro same free free'
    have rest := emits.rest_eq_of_text_eq issues same
    exact String.toList_inj.1
      (append_inj_of_separator free free' (next_charsAfterIds _) (next_charsAfterIds _) rest).1
  · intro same vendor vendor' product product'
    have rest := emits.rest_eq_of_text_eq issues same
    simp only [writtenIds, String.toList_append, List.append_assoc] at rest
    obtain ⟨vendors, rest⟩ := append_inj_of_separator vendor vendor' (next_cons _ _)
      (next_cons _ _) rest
    obtain ⟨products, _⟩ := append_inj_of_separator product product' (next_charsAfterIds _)
      (next_charsAfterIds _) (List.cons.inj rest).2
    exact ⟨String.toList_inj.1 vendors, String.toList_inj.1 products⟩

def ofIds (vendorId productId : String) : Rule :=
  { id := 7, target := .allow, vendorId, productId }

def emittedFor (vendorId productId hash : String) : Rule :=
  ((ofIds vendorId productId).described {}).ruleOf false hash

theorem emits_ofIds {vendorId productId : String}
    (vendor : vendorId ≠ "" ∧ vendorId.utf8ByteSize ≤ 4)
    (product : productId ≠ "" ∧ productId.utf8ByteSize ≤ 4) :
    (ofIds vendorId productId).Emits {} false
      (emittedFor vendorId productId (ofIds vendorId productId).hashText) := by
  have fit : ({} : Limits).Admit (Record.textsOfRule (ofIds vendorId productId)) :=
    Record.admit_textsOfRule_iff.2
      ⟨Nat.zero_le _, vendor.2, product.2, Nat.zero_le _, fun _ none => nomatch none⟩
  exact emits_iff.2 ⟨fit, ⟨vendor.1, product.1⟩, rfl⟩

theorem starred_vendors_are_told_apart :
    ∃ emitted issued, (ofIds "*" "0001").Emits {} false emitted ∧
      (ofIds "* i" "0001").Emits {} false issued ∧ Line emitted.text.toList ∧
      emitted.text ≠ issued.text := by
  have emits : (ofIds "*" "0001").Emits {} false _ := emits_ofIds (by decide) (by decide)
  have issues : (ofIds "* i" "0001").Emits {} false _ := emits_ofIds (by decide) (by decide)
  obtain ⟨line, _, apart⟩ := emitted_text_shows_ids emits issues
  refine ⟨_, _, emits, issues, line.2 (by decide), fun same => ?_⟩
  have vendors := (apart same (by decide) (by decide) (by decide) (by decide)).1
  revert vendors
  decide

/-- Ids can break the line of an emitted rule and leave ASCII, and colons in them can make two
emitted rules with other ids read alike; even their hashes are the same. -/
theorem ids_spoil_the_text :
    (∃ emitted, (ofIds "a\nb" "é").Emits {} false emitted ∧ ¬Line emitted.text.toList) ∧
    ∃ emitted issued, (ofIds "::" ":").Emits {} false emitted ∧
      (ofIds ":" "::").Emits {} false issued ∧
      emitted.vendorId ≠ issued.vendorId ∧ emitted.productId ≠ issued.productId ∧
      emitted.text = issued.text := by
  constructor
  · refine ⟨_, emits_ofIds (by decide) (by decide), ?_⟩
    rw [text, String.toList_ofList, line_chars_iff]
    decide
  · refine ⟨_, _, emits_ofIds (by decide) (by decide), emits_ofIds (by decide) (by decide),
      by decide, by decide, ?_⟩
    have message : Identity.message "" "::" ":" "" = Identity.message "" ":" "::" "" := by decide
    have hash : (ofIds "::" ":").hashText = (ofIds ":" "::").hashText :=
      congrArg (fun message => String.ofList (Sha256.hexDigest message)) message
    have ids : idsChars "::" ":" = idsChars ":" "::" := by decide
    have chars (hash : String) : (emittedFor "::" ":" hash).chars =
        (emittedFor ":" "::" hash).chars := by
      rw [chars_eq, chars_eq]
      exact congrArg (fun ids => Target.allow.name.toList ++ (ids ++ _)) ids
    rw [hash, text, text, chars]

end Rule

end UsbIdentity
