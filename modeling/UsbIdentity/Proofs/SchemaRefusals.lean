import UsbIdentity.Schema.Reader

namespace UsbIdentity.Schema

variable {α β : Type}

theorem bind_eq_ok {step : Except ReadError β} {next : β → Except ReadError α} {result : α} :
    step >>= next = .ok result ↔ ∃ value, step = .ok value ∧ next value = .ok result := by
  cases step <;> simp [bind, Except.bind]

theorem map_eq_ok {step : Except ReadError β} {f : β → α} {result : α} :
    step.map f = .ok result ↔ ∃ value, step = .ok value ∧ f value = result := by
  cases step <;> simp [Except.map]

/-! ## Integers -/

theorem integerBetween_reads {least greatest value : Int} {expected : String} {context : Context}
    {draft : Draft} (taken : integerBetween least greatest expected context draft = .ok value) :
    draft = .number (some (.integer value)) ∧ least ≤ value ∧ value ≤ greatest := by
  unfold integerBetween at taken
  split at taken
  · split at taken
    · next range =>
      cases taken
      exact ⟨rfl, range⟩
    · cases taken
  · cases taken

/-! ## Names -/

theorem caseNamed_reads {cases : List (String × α)} {name : String} {value : α}
    (taken : caseNamed cases name = .ok value) : (name, value) ∈ cases := by
  unfold caseNamed at taken
  split at taken
  · next label _ found =>
    cases taken
    have named : label = name := by simpa using List.find?_some found
    exact named ▸ List.mem_of_find?_eq_some found
  · cases taken

/-! ## Lists -/

theorem readItems_reads {item : Reader α} {context : Context} {items : List Draft}
    {values : List α} (taken : readItems item context items = .ok values) :
    ∀ draft ∈ items, ∃ value, item context draft = .ok value := by
  induction items generalizing values with
  | nil => exact List.forall_mem_nil _
  | cons draft drafts ih =>
    simp only [readItems, bind_eq_ok] at taken
    obtain ⟨first, here, rest, later, _⟩ := taken
    exact List.forall_mem_cons.2 ⟨⟨first, here⟩, ih later⟩

theorem list_reads {item : Reader α} {outer : Context} {items : List Draft} {stop : Option Break}
    {values : List α} (taken : list item outer (.array items stop) = .ok values) :
    ∃ context, outer.enter = .ok context ∧
      ∀ draft ∈ items, ∃ value, item context draft = .ok value := by
  simp only [list, bind_eq_ok] at taken
  obtain ⟨context, entered, _, read, _⟩ := taken
  exact ⟨context, entered, readItems_reads read⟩

/-! ## Records -/

def Named (name : String) (members : List (Draft × Draft)) : Prop :=
  ∃ value, (Draft.ofName name, value) ∈ members

theorem ofMembers_eq_map (members : List (String × Json)) :
    Draft.ofMembers members =
      members.map fun member => (Draft.ofName member.1, Draft.ofJson member.2) := by
  induction members with
  | nil => rfl
  | cons member members ih => rw [List.map_cons, Draft.ofMembers, ih]

theorem mem_ofMembers {name : String} {value : Json} {members : List (String × Json)}
    (inside : (name, value) ∈ members) :
    (Draft.ofName name, Draft.ofJson value) ∈ Draft.ofMembers members := by
  rw [ofMembers_eq_map]
  exact List.mem_map.2 ⟨_, inside, rfl⟩

theorem exists_mem_of_named {name : String} {members : List (String × Json)}
    (named : Named name (Draft.ofMembers members)) : ∃ value, (name, value) ∈ members := by
  obtain ⟨value, there⟩ := named
  rw [ofMembers_eq_map] at there
  obtain ⟨⟨other, json⟩, inside, same⟩ := List.mem_map.1 there
  cases same
  exact ⟨json, inside⟩

theorem memberName_eq_ok {draft : Draft} {name : String} (read : memberName draft = .ok name) :
    draft = .ofName name := by
  unfold memberName at read
  split at read <;> cases read
  rfl

theorem Slot.ofReader_reads {name : String} {required : Bool} {reader : Reader β}
    {set : β → α → α} {context : Context} {draft : Draft} {before after : α}
    (filled : (Slot.ofReader name required reader set).fill context draft before = .ok after) :
    ∃ value, reader context draft = .ok value := by
  simp only [Slot.ofReader, bind_eq_ok] at filled
  obtain ⟨value, read, _⟩ := filled
  exact ⟨value, read⟩

def Slot.BoundedBy (slot : Slot α) (greatest : Int) : Prop :=
  ∀ context draft before after, slot.fill context draft before = .ok after →
    ∃ value, draft = .number (some (.integer value)) ∧ 0 ≤ value ∧ value ≤ greatest

theorem boundedBy_unsigned {greatest : Int} {expected name : String} {required : Bool}
    (ofNat : Nat → β) (set : β → α → α) :
    (Slot.ofReader name required (fun context draft =>
      (integerBetween 0 greatest expected context draft).map fun value => ofNat value.toNat)
        set).BoundedBy greatest := by
  intro context draft before after filled
  obtain ⟨value, read⟩ := Slot.ofReader_reads filled
  obtain ⟨number, within, _⟩ := map_eq_ok.1 read
  exact ⟨number, integerBetween_reads within⟩

/-- Whether the members of an object hold what the slots ask for: a value that fills its slot for
every name of a slot that is there, and every required name that was not read before. -/
structure Fills (slots : List (Slot α)) (context : Context) (members : List (Draft × Draft))
    (read : List String) : Prop where
  filled : ∀ name value slot, (Draft.ofName name, value) ∈ members →
    slots.find? (·.name = name) = some slot →
    ∃ before after, slot.fill context value before = .ok after
  complete : ∀ slot ∈ slots, slot.required = true → slot.name ∈ read ∨ Named slot.name members

theorem complete_of_firstMissing? {slots : List (Slot α)} {read : List String}
    (none : firstMissing? slots read = none) :
    ∀ slot ∈ slots, slot.required = true → slot.name ∈ read := by
  intro slot inside needed
  rw [firstMissing?, Option.map_eq_none_iff, List.find?_eq_none] at none
  simpa [needed] using none slot inside

theorem Named.cons {name : String} {members : List (Draft × Draft)} (named : Named name members)
    (member : Draft × Draft) : Named name (member :: members) := by
  obtain ⟨value, inside⟩ := named
  exact ⟨value, List.mem_cons_of_mem _ inside⟩

theorem Named.head (name : String) (value : Draft) (members : List (Draft × Draft)) :
    Named name ((Draft.ofName name, value) :: members) :=
  ⟨value, List.mem_cons_self⟩

theorem readMembers_reads {slots : List (Slot α)} {context : Context} {stop : Option Break}
    {members : List (Draft × Draft)} {read : List String} {record result : α}
    (taken : readMembers slots context stop members read record = .ok result) :
    Fills slots context members read := by
  -- A member with a slot moves its name from the members to come over to `read`.
  induction members generalizing read record with
  | nil =>
    simp only [readMembers, bind_eq_ok] at taken
    obtain ⟨_, _, taken⟩ := taken
    split at taken
    · cases taken
    · next none =>
      exact ⟨nofun, fun slot inside needed =>
        .inl (complete_of_firstMissing? none slot inside needed)⟩
  | cons member members ih =>
    obtain ⟨label, value⟩ := member
    simp only [readMembers, bind_eq_ok] at taken
    obtain ⟨name, named, taken⟩ := taken
    cases memberName_eq_ok named
    split at taken
    · next slot found =>
      split at taken
      · cases taken
      · rw [bind_eq_ok] at taken
        obtain ⟨after, filled, taken⟩ := taken
        obtain ⟨fills, complete⟩ := ih taken
        constructor
        · intro other otherValue otherSlot inside foundOther
          rcases List.mem_cons.1 inside with same | inside
          · cases same
            cases found.symm.trans foundOther
            exact ⟨_, _, filled⟩
          · exact fills other otherValue otherSlot inside foundOther
        · intro slot inside needed
          rcases complete slot inside needed with there | there
          · rcases List.mem_cons.1 there with same | there
            · exact .inr (same ▸ .head slot.name value members)
            · exact .inl there
          · exact .inr (there.cons _)
    · next unknown =>
      rw [bind_eq_ok] at taken
      obtain ⟨_, _, taken⟩ := taken
      obtain ⟨fills, complete⟩ := ih taken
      constructor
      · intro other otherValue otherSlot inside foundOther
        rcases List.mem_cons.1 inside with same | inside
        · cases same
          cases unknown.symm.trans foundOther
        · exact fills other otherValue otherSlot inside foundOther
      · intro slot inside needed
        exact (complete slot inside needed).imp_right fun there => there.cons _

theorem record_reads {title : String} {slots : List (Slot α)} {start result : α} {outer : Context}
    {members : List (Draft × Draft)} {stop : Option Break}
    (taken : record title slots start outer (.object members stop) = .ok result) :
    ∃ context, outer.enter = .ok context ∧ Fills slots context members [] := by
  simp only [record, bind_eq_ok] at taken
  obtain ⟨context, entered, taken⟩ := taken
  exact ⟨context, entered, readMembers_reads taken⟩

/-! ## Tagged records -/

structure Kept (tag : String) (cases : List (String × β)) (depth : Nat)
    (members : List (Draft × Draft)) (found : Option β) (kept : List (String × Json)) : Prop where
  tagged : ∀ value, (Draft.ofName tag, value) ∈ members →
    ∃ case, caseOf cases value = .ok case ∧ found = some case
  others : ∀ name value, (Draft.ofName name, value) ∈ members → name ≠ tag →
    ∃ json, keep depth value = .ok json ∧ (name, json) ∈ kept
  named : ∀ name json, (name, json) ∈ kept → Named name members

theorem keepTagged_reads {tag : String} {cases : List (String × β)} {depth : Nat}
    {stop : Option Break} {members : List (Draft × Draft)} {before after : Option β}
    {kept : List (String × Json)}
    (taken : keepTagged tag cases depth stop members before = .ok (after, kept)) :
    Kept tag cases depth members after kept ∧
      (before = after ∨ before = none ∧ Named tag members) := by
  -- There is at most one tag, so the one that is found is never replaced.
  induction members generalizing before after kept with
  | nil =>
    simp only [keepTagged, bind_eq_ok] at taken
    obtain ⟨_, _, taken⟩ := taken
    cases taken
    exact ⟨⟨nofun, nofun, nofun⟩, .inl rfl⟩
  | cons member members ih =>
    obtain ⟨label, value⟩ := member
    simp only [keepTagged, bind_eq_ok] at taken
    obtain ⟨name, named, taken⟩ := taken
    cases memberName_eq_ok named
    split at taken
    · next same =>
      subst same
      split at taken
      · cases taken
      · next absent =>
        rw [bind_eq_ok] at taken
        obtain ⟨case, read, taken⟩ := taken
        obtain ⟨⟨tagged, others, back⟩, origin⟩ := ih taken
        have first : after = some case := by
          rcases origin with same | ⟨impossible, _⟩
          · exact same.symm
          · cases impossible
        refine ⟨⟨?_, ?_, fun other json inside => (back other json inside).cons _⟩, .inr ⟨?_, ?_⟩⟩
        · intro other inside
          rcases List.mem_cons.1 inside with same | inside
          · cases same
            exact ⟨case, read, first⟩
          · exact tagged other inside
        · intro other otherValue inside away
          rcases List.mem_cons.1 inside with same | inside
          · cases same
            exact absurd rfl away
          · exact others other otherValue inside away
        · simpa using absent
        · exact .head name value members
    · next away =>
      simp only [bind_eq_ok] at taken
      obtain ⟨json, keeps, ⟨found, rest⟩, held, taken⟩ := taken
      cases taken
      obtain ⟨⟨tagged, others, back⟩, origin⟩ := ih held
      refine ⟨⟨?_, ?_, ?_⟩, origin.imp_right fun there => ⟨there.1, there.2.cons _⟩⟩
      · intro other inside
        rcases List.mem_cons.1 inside with same | inside
        · cases same
          exact absurd rfl away
        · exact tagged other inside
      · intro other otherValue inside apart
        rcases List.mem_cons.1 inside with same | inside
        · cases same
          exact ⟨json, keeps, List.mem_cons_self⟩
        · obtain ⟨otherJson, kept, there⟩ := others other otherValue inside apart
          exact ⟨otherJson, kept, List.mem_cons_of_mem _ there⟩
      · intro other otherJson inside
        rcases List.mem_cons.1 inside with same | inside
        · cases same
          exact .head name value members
        · exact (back other otherJson inside).cons _

theorem tagged_reads {name tag : String} {cases : List (String × β)} {body : β → Reader α}
    {outer : Context} {members : List (Draft × Draft)} {stop : Option Break} {result : α}
    (taken : tagged name tag cases body outer (.object members stop) = .ok result) :
    ∃ context case kept, outer.enter = .ok context ∧ Named tag members ∧
      Kept tag cases context.depth members (some case) kept ∧
      body case { origin := .kept } (Draft.ofJson (.object kept)) = .ok result := by
  simp only [tagged, bind_eq_ok] at taken
  obtain ⟨context, entered, ⟨found, kept⟩, held, taken⟩ := taken
  obtain ⟨keeps, origin⟩ := keepTagged_reads held
  cases found with
  | none => cases taken
  | some case =>
    refine ⟨context, case, kept, entered, ?_, keeps, taken⟩
    rcases origin with same | ⟨_, there⟩
    · cases same
    · exact there

end UsbIdentity.Schema
