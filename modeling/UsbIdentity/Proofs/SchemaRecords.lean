import Mathlib.Data.List.Find
import Mathlib.Data.List.Forall2
import UsbIdentity.Proofs.JsonTexts

namespace UsbIdentity

/-- Whether some members come of others: those that are not kept are left out, members under other
names are added, and all of them may be reordered. -/
def Rearranged {V : Type} (kept : String → Bool) (members given : List (String × V)) : Prop :=
  ∃ added : List (String × V), (∀ extra ∈ added, extra.1 ∉ members.map (·.1)) ∧
    given.Perm (members.filter (fun member => kept member.1) ++ added)

namespace Rearranged

variable {V W : Type} {kept : String → Bool} {members given : List (String × V)}

theorem mem_cases (rearranged : Rearranged kept members given) {member : String × V}
    (inside : member ∈ given) : member ∈ members ∨ member.1 ∉ members.map (·.1) := by
  obtain ⟨added, strange, order⟩ := rearranged
  rcases List.mem_append.1 (order.mem_iff.1 inside) with old | new
  · exact .inl (List.mem_of_mem_filter old)
  · exact .inr (strange member new)

theorem mem_names_iff (rearranged : Rearranged kept members given) {name : String}
    (known : name ∈ members.map (·.1)) : name ∈ given.map (·.1) ↔ kept name = true := by
  obtain ⟨added, strange, order⟩ := rearranged
  constructor
  · intro there
    obtain ⟨member, inside, rfl⟩ := List.mem_map.1 there
    rcases List.mem_append.1 (order.mem_iff.1 inside) with old | new
    · exact (List.mem_filter.1 old).2
    · exact absurd known (strange member new)
  · intro keep
    obtain ⟨member, inside, rfl⟩ := List.mem_map.1 known
    have there := order.mem_iff.2 (List.mem_append_left _ (List.mem_filter.2 ⟨inside, keep⟩))
    exact List.mem_map_of_mem there

theorem pairwise (rearranged : Rearranged kept members given)
    (distinct : (members.map (·.1)).Nodup) :
    given.Pairwise fun first second => first.1 = second.1 → first.1 ∉ members.map (·.1) := by
  obtain ⟨added, strange, order⟩ := rearranged
  rw [List.Nodup, List.pairwise_map] at distinct
  rw [order.pairwise_iff fun apart same => same ▸ apart same.symm, List.pairwise_append]
  refine ⟨(distinct.filter _).imp fun apart same => absurd same apart, ?_, ?_⟩
  · exact List.pairwise_of_forall_mem_list fun first among _ _ _ => strange first among
  · intro first _ second new same
    exact same ▸ strange second new

theorem map (rearranged : Rearranged kept members given) (f : V → W) :
    Rearranged kept (members.map fun member => (member.1, f member.2))
      (given.map fun member => (member.1, f member.2)) := by
  obtain ⟨added, strange, order⟩ := rearranged
  refine ⟨added.map fun extra => (extra.1, f extra.2), ?_, ?_⟩
  · rintro extra new
    obtain ⟨source, among, rfl⟩ := List.mem_map.1 new
    simpa [List.map_map, Function.comp_def] using strange source among
  · simpa [List.filter_map, Function.comp_def] using
      order.map fun member => (member.1, f member.2)

theorem tail {name : String} {value : V}
    (rearranged : Rearranged kept ((name, value) :: members) given)
    (fresh : name ∉ members.map (·.1)) :
    Rearranged kept members (given.filter fun member => member.1 ≠ name) := by
  obtain ⟨added, strange, order⟩ := rearranged
  have apart {others : List (String × V)} (away : ∀ other ∈ others, other.1 ≠ name) :
      (others.filter fun member => member.1 ≠ name) = others :=
    List.filter_eq_self.2 fun other inside => decide_eq_true (away other inside)
  have old := apart fun member inside same =>
    fresh (same ▸ List.mem_map_of_mem (f := (·.1)) inside)
  have new := apart fun extra new same => strange extra new (same ▸ List.mem_cons_self)
  refine ⟨added, fun extra new there => strange extra new (List.mem_cons_of_mem _ there), ?_⟩
  have rest := order.filter fun member => member.1 ≠ name
  rwa [List.filter_append, List.filter_comm, List.filter_cons_of_neg (by simp), old, new] at rest

end Rearranged

def Json.Reworked (kept : String → Bool) (members given : List (String × Json)) : Prop :=
  ∃ added : List (String × String), (∀ extra ∈ added, extra.1 ∉ members.map (·.1)) ∧
    given.Perm (members.filter (fun member => kept member.1) ++
      added.map fun extra => (extra.1, .string extra.2))

namespace Json.Reworked

variable {kept : String → Bool} {members given : List (String × Json)}

theorem rearranged (reworked : Reworked kept members given) : Rearranged kept members given := by
  obtain ⟨added, strange, order⟩ := reworked
  refine ⟨_, ?_, order⟩
  intro extra new
  obtain ⟨text, among, rfl⟩ := List.mem_map.1 new
  exact strange text among

theorem mem_or_text (reworked : Reworked kept members given) {member : String × Json}
    (inside : member ∈ given) : member ∈ members ∨ ∃ text, member.2 = .string text := by
  obtain ⟨added, _, order⟩ := reworked
  rcases List.mem_append.1 (order.mem_iff.1 inside) with old | new
  · exact .inl (List.mem_of_mem_filter old)
  · obtain ⟨extra, _, rfl⟩ := List.mem_map.1 new
    exact .inr ⟨extra.2, rfl⟩

theorem plain (reworked : Reworked kept members given)
    (each : ∀ member ∈ members, member.2.Plain) : (Json.object given).Plain := by
  rw [Json.Plain, Json.plainMembers_iff]
  rintro ⟨name, value⟩ inside
  rcases reworked.mem_or_text inside with old | ⟨text, same⟩
  · exact each _ old
  · cases same
    trivial

theorem refl (members : List (String × Json)) : Reworked (fun _ => true) members members :=
  ⟨[], nofun, by simp⟩

end Json.Reworked

namespace Schema

variable {α : Type}

mutual

theorem skip_ofJson : ∀ value, skip (Draft.ofJson value) = .ok ()
  | .null => rfl
  | .boolean _ => rfl
  | .number _ => rfl
  | .string _ => rfl
  | .array items => by
    rw [Draft.ofJson, skip, skipItems_ofItems items]
    rfl
  | .object members => by
    rw [Draft.ofJson, skip, skipMembers_ofMembers members]
    rfl

theorem skipItems_ofItems : ∀ items, skipItems (Draft.ofItems items) = .ok ()
  | [] => rfl
  | item :: items => by
    rw [Draft.ofItems, skipItems, skip_ofJson item]
    exact skipItems_ofItems items

theorem skipMembers_ofMembers : ∀ members, skipMembers (Draft.ofMembers members) = .ok ()
  | [] => rfl
  | (_, value) :: members => by
    rw [Draft.ofMembers, skipMembers, skip_ofJson value]
    exact skipMembers_ofMembers members

end

structure Slot.Takes (context : Context) (view : (String → Bool) → α) (faulty : String → Bool)
    (error : ReadError) (slot : Slot α) (member : String × Json) : Prop where
  named : slot.name = member.1
  filled : ∀ read, slot.fill context (Draft.ofJson member.2) (view read) =
    if faulty slot.name then .error error
    else .ok (view fun name => name == slot.name || read name)

namespace Slot.Takes

variable {β : Type} {context : Context} {view : (String → Bool) → α} {faulty : String → Bool}
  {error : ReadError} {name : String} {required : Bool} {reader : Reader β} {set : β → α → α}
  {json : Json} {value : β}

theorem ofReader
    (reads : reader context (Draft.ofJson json) = if faulty name then .error error else .ok value)
    (sets : ∀ read, set value (view read) = view fun other => other == name || read other) :
    (Slot.ofReader name required reader set).Takes context view faulty error (name, json) := by
  refine ⟨rfl, fun read => ?_⟩
  show (do let value ← reader context (Draft.ofJson json); .ok (set value (view read))) =
    if faulty name then .error error else .ok (view fun other => other == name || read other)
  rw [reads, ← sets read]
  by_cases fault : faulty name = true
  · rw [if_pos fault, if_pos fault]
    rfl
  · rw [if_neg fault, if_neg fault]
    rfl

theorem ofIntact (reads : reader context (Draft.ofJson json) = .ok value)
    (intact : faulty name = false)
    (sets : ∀ read, set value (view read) = view fun other => other == name || read other) :
    (Slot.ofReader name required reader set).Takes context view faulty error (name, json) :=
  ofReader (by rw [reads, intact]; rfl) sets

end Slot.Takes

/-- What the members of an object mean for a record: each slot has its member. -/
structure Depicts (slots : List (Slot α)) (context : Context) (view : (String → Bool) → α)
    (faulty : String → Bool) (error : ReadError) (members : List (String × Json)) : Prop where
  takes : List.Forall₂ (Slot.Takes context view faulty error) slots members
  distinct : (slots.map (·.name)).Nodup
  determined : ∀ first second, (∀ name ∈ slots.map (·.name), first name = second name) →
    view first = view second

def requiredNames (slots : List (Slot α)) : List String :=
  (slots.filter (·.required)).map (·.name)

def outcome (slots : List (Slot α)) (view : (String → Bool) → α) (faulty : String → Bool)
    (error : ReadError) (kept : String → Bool) : Except ReadError α :=
  if (slots.map (·.name)).any fun name => kept name && faulty name then .error error
  else
    match (requiredNames slots).find? fun name => !kept name with
    | some name => .error (.mismatch (.missingField name))
    | none => .ok (view kept)

def requiring {α : Type} (needed : List String) (kept : String → Bool) (value : α) :
    Except ReadError α :=
  match needed.find? fun name => !kept name with
  | some name => .error (.mismatch (.missingField name))
  | none => .ok value

theorem requiring_nil (kept : String → Bool) (value : α) : requiring [] kept value = .ok value :=
  rfl

theorem requiring_cons (name : String) (needed : List String) (kept : String → Bool) (value : α) :
    requiring (name :: needed) kept value =
      if kept name then requiring needed kept value
      else .error (.mismatch (.missingField name)) := by
  unfold requiring
  cases keep : kept name <;> simp [keep]

theorem map_requiring {β : Type} (f : α → β) (needed : List String) (kept : String → Bool)
    (value : α) : (requiring needed kept value).map f = requiring needed kept (f value) := by
  unfold requiring
  split <;> rfl

theorem outcome_intact (slots : List (Slot α)) (view : (String → Bool) → α) (error : ReadError)
    (kept : String → Bool) :
    outcome slots view (fun _ => false) error kept =
      requiring (requiredNames slots) kept (view kept) := by
  simp [outcome, requiring]

theorem firstMissing?_eq (slots : List (Slot α)) (read : List String) :
    firstMissing? slots read = (requiredNames slots).find? fun name => !read.contains name := by
  rw [firstMissing?, requiredNames, List.find?_map, List.find?_filter]
  simp only [Function.comp_apply, Bool.decide_and, Bool.decide_eq_true]

theorem find?_of_distinct {slots : List (Slot α)} (distinct : (slots.map (·.name)).Nodup)
    {slot : Slot α} (inside : slot ∈ slots) : slots.find? (·.name = slot.name) = some slot := by
  induction slots with
  | nil => cases inside
  | cons first slots ih =>
    rw [List.map_cons, List.nodup_cons] at distinct
    rcases List.mem_cons.1 inside with rfl | later
    · exact List.find?_cons_of_pos (decide_eq_true rfl)
    · have other : first.name ≠ slot.name := fun same =>
        distinct.1 (same ▸ List.mem_map_of_mem later)
      exact (List.find?_cons_of_neg (by simpa using other)).trans (ih distinct.2 later)

namespace Depicts

variable {slots : List (Slot α)} {context : Context} {view : (String → Bool) → α}
  {faulty : String → Bool} {error : ReadError} {members : List (String × Json)}

theorem names (depicts : Depicts slots context view faulty error members) :
    members.map (·.1) = slots.map (·.name) := by
  have takes := depicts.takes
  clear depicts
  induction takes with
  | nil => rfl
  | cons taken _ ih => rw [List.map_cons, List.map_cons, taken.named, ih]

theorem exists_slot (depicts : Depicts slots context view faulty error members)
    {member : String × Json} (known : member ∈ members) :
    ∃ slot ∈ slots, slot.Takes context view faulty error member := by
  have takes := depicts.takes
  clear depicts
  induction takes with
  | nil => cases known
  | cons taken _ ih =>
    rcases List.mem_cons.1 known with rfl | later
    · exact ⟨_, List.mem_cons_self, taken⟩
    · obtain ⟨slot, inside, takes⟩ := ih later
      exact ⟨slot, List.mem_cons_of_mem _ inside, takes⟩

theorem readMembers_known (depicts : Depicts slots context view faulty error members)
    {slot : Slot α} (inside : slot ∈ slots) {value : Json}
    (takes : slot.Takes context view faulty error (slot.name, value)) {read : List String}
    (unread : slot.name ∉ read) (given : List (String × Json)) :
    readMembers slots context none (Draft.ofMembers ((slot.name, value) :: given)) read
        (view read.contains) =
      if faulty slot.name then .error error
      else readMembers slots context none (Draft.ofMembers given) (slot.name :: read)
        (view (slot.name :: read).contains) := by
  have found := find?_of_distinct depicts.distinct inside
  have fresh : read.contains slot.name = false := by simpa using unread
  have filled := takes.filled read.contains
  have more : (slot.name :: read).contains = fun name => name == slot.name || read.contains name :=
    funext fun name => List.contains_cons
  rw [Draft.ofMembers, readMembers, more]
  simp only [Draft.ofName, memberName, bind, Except.bind, found, fresh, filled]
  by_cases fault : faulty slot.name = true <;> simp [fault]

theorem readMembers_unknown {name : String} (unknown : name ∉ slots.map (·.name)) (value : Json)
    (given : List (String × Json)) (read : List String) (record : α) :
    readMembers slots context none (Draft.ofMembers ((name, value) :: given)) read record =
      readMembers slots context none (Draft.ofMembers given) read record := by
  have passed : slots.find? (·.name = name) = none := by
    rw [List.find?_eq_none]
    intro slot inside
    simpa using fun same => unknown (List.mem_map.2 ⟨slot, inside, same⟩)
  rw [Draft.ofMembers, readMembers]
  simp [Draft.ofName, memberName, skip_ofJson, passed, bind, Except.bind]

theorem readMembers_nil (depicts : Depicts slots context view faulty error members)
    {read : List String} {kept : String → Bool} (intact : ∀ name ∈ read, faulty name = false)
    (total : ∀ name ∈ slots.map (·.name), kept name = read.contains name) :
    readMembers slots context none [] read (view read.contains) =
      outcome slots view faulty error kept := by
  have faultless : ¬((slots.map (·.name)).any fun name => kept name && faulty name) := by
    rw [List.any_eq_true]
    rintro ⟨name, field, both⟩
    rw [Bool.and_eq_true, total name field] at both
    have good := intact name (List.contains_iff_mem.1 both.1)
    rw [good] at both
    cases both.2
  have missing : firstMissing? slots read = (requiredNames slots).find? fun name => !kept name := by
    rw [firstMissing?_eq]
    refine List.find?_congr fun name needed => ?_
    obtain ⟨slot, inside, rfl⟩ := List.mem_map.1 needed
    rw [total slot.name (List.mem_map_of_mem (List.mem_of_mem_filter inside))]
  have same : view read.contains = view kept :=
    depicts.determined _ _ fun name field => (total name field).symm
  rw [readMembers, outcome, if_neg faultless, same, missing]
  cases (requiredNames slots).find? fun name => !kept name <;> rfl

theorem readMembers_eq (depicts : Depicts slots context view faulty error members)
    {given : List (String × Json)} {read : List String} {kept : String → Bool}
    (allowed : ∀ member ∈ given, member ∈ members ∨ member.1 ∉ slots.map (·.name))
    (once : given.Pairwise fun first second => first.1 = second.1 → first.1 ∉ slots.map (·.name))
    (fresh : ∀ member ∈ given, member.1 ∈ slots.map (·.name) → member.1 ∉ read)
    (intact : ∀ name ∈ read, faulty name = false)
    (total : ∀ name ∈ slots.map (·.name), kept name = true ↔ name ∈ given.map (·.1) ∨ name ∈ read) :
    readMembers slots context none (Draft.ofMembers given) read (view read.contains) =
      outcome slots view faulty error kept := by
  -- A known member moves its name from the members to come over to `read`; all facts are kept.
  induction given generalizing read with
  | nil =>
    refine depicts.readMembers_nil intact fun name field => ?_
    have there := total name field
    rw [Bool.eq_iff_iff]
    simpa using there
  | cons member given ih =>
    obtain ⟨name, value⟩ := member
    rw [List.forall_mem_cons] at allowed fresh
    rw [List.pairwise_cons] at once
    rcases allowed.1 with known | unknown
    · obtain ⟨slot, inside, takes⟩ := depicts.exists_slot known
      have named : slot.name = name := takes.named
      subst named
      have field := List.mem_map_of_mem (f := (·.name)) inside
      rw [depicts.readMembers_known inside takes (fresh.1 field)]
      by_cases fault : faulty slot.name = true
      · have there := (total slot.name field).2 (.inl List.mem_cons_self)
        have here : (slots.map (·.name)).any fun name => kept name && faulty name :=
          List.any_eq_true.2 ⟨slot.name, field, by rw [there, fault]; rfl⟩
        rw [if_pos fault, outcome, if_pos here]
      · rw [if_neg fault]
        apply ih allowed.2 once.2
        · intro member later field
          rw [List.mem_cons, not_or]
          exact ⟨fun same => once.1 member later same.symm (same ▸ field),
            fresh.2 member later field⟩
        · exact List.forall_mem_cons.2 ⟨Bool.eq_false_iff.2 fault, intact⟩
        · intro name field
          rw [total name field, List.map_cons, List.mem_cons, List.mem_cons]
          tauto
    · rw [readMembers_unknown unknown]
      apply ih allowed.2 once.2 fresh.2 intact
      intro other field
      have away : other ≠ name := fun same => unknown (same ▸ field)
      rw [total other field, List.map_cons, List.mem_cons]
      simp [away]

theorem readMembers_rearranged (depicts : Depicts slots context view faulty error members)
    {kept : String → Bool} {given : List (String × Json)}
    (rearranged : Rearranged kept members given) :
    readMembers slots context none (Draft.ofMembers given) [] (view fun _ => false) =
      outcome slots view faulty error kept := by
  have names := depicts.names
  have once := rearranged.pairwise (names ▸ depicts.distinct)
  rw [names] at once
  refine depicts.readMembers_eq (fun member inside => ?_) once (fun _ _ _ => List.not_mem_nil) nofun
    fun name field => ?_
  · rw [← names]
    exact rearranged.mem_cases inside
  · rw [rearranged.mem_names_iff (names ▸ field), List.mem_nil_iff, or_false]

theorem record_eq {outer : Context} (entered : outer.enter = .ok context)
    (depicts : Depicts slots context view faulty error members) {kept : String → Bool}
    {given : List (String × Json)} (rearranged : Rearranged kept members given) (title : String) :
    record title slots (view fun _ => false) outer (Draft.ofJson (.object given)) =
      outcome slots view faulty error kept := by
  rw [Draft.ofJson, record, entered]
  exact depicts.readMembers_rearranged rearranged

theorem record_intact {outer : Context}
    (depicts : Depicts slots context view (fun _ => false) .malformed members)
    (entered : outer.enter = .ok context) {kept : String → Bool} {given : List (String × Json)}
    (rearranged : Rearranged kept members given) (title : String) :
    record title slots (view fun _ => false) outer (Draft.ofJson (.object given)) =
      requiring (requiredNames slots) kept (view kept) := by
  rw [depicts.record_eq entered rearranged, outcome_intact]

end Depicts

/-! ## Tagged records -/

section Tagged

variable {β : Type} {tag : String} {cases : List (String × β)} {case : β} {depth : Nat}
  {given : List (String × Json)}

theorem keepTagged_ofMembers (found : Option β)
    (tagged : ∀ member ∈ given, member.1 = tag → caseOf cases (Draft.ofJson member.2) = .ok case)
    (held : ∀ member ∈ given, keep depth (Draft.ofJson member.2) = .ok member.2)
    (once : given.Pairwise fun first second => first.1 = second.1 → first.1 ≠ tag)
    (fresh : found = none ∨ tag ∉ given.map (·.1)) :
    keepTagged tag cases depth none (Draft.ofMembers given) found =
      .ok (if tag ∈ given.map (·.1) then some case else found, given.filter (·.1 ≠ tag)) := by
  induction given generalizing found with
  | nil => rfl
  | cons member given ih =>
    obtain ⟨name, value⟩ := member
    rw [List.forall_mem_cons] at tagged held
    rw [List.pairwise_cons] at once
    by_cases same : name = tag
    · subst same
      have unfound : found = none := by simpa using fresh
      have gone : name ∉ given.map (·.1) := by
        intro there
        obtain ⟨member, later, same⟩ := List.mem_map.1 there
        exact once.1 member later same.symm rfl
      have rest := ih (some case) tagged.2 held.2 once.2 (.inr gone)
      simp [Draft.ofMembers, keepTagged, Draft.ofName, memberName, bind, Except.bind, unfound,
        tagged.1 rfl, rest, gone]
    · have later : found = none ∨ tag ∉ given.map (·.1) :=
        fresh.imp_right fun gone there => gone (List.mem_cons_of_mem _ there)
      have rest := ih found tagged.2 held.2 once.2 later
      have there : tag ∈ name :: given.map (·.1) ↔ tag ∈ given.map (·.1) :=
        List.mem_cons.trans (or_iff_right (Ne.symm same))
      rw [List.map_cons, List.filter_cons_of_pos (by simpa using same)]
      simp only [Draft.ofMembers, keepTagged, Draft.ofName, memberName, bind, Except.bind,
        if_neg same, held.1, rest, there]

theorem tagged_eq {body : β → Reader α} {outer context : Context} {label : Json}
    {members : List (String × Json)} {kept : String → Bool}
    (entered : outer.enter = .ok context) (named : caseOf cases (Draft.ofJson label) = .ok case)
    (distinct : (((tag, label) :: members).map (·.1)).Nodup)
    (rearranged : Rearranged kept ((tag, label) :: members) given)
    (held : ∀ member ∈ given, keep context.depth (Draft.ofJson member.2) = .ok member.2)
    (name : String) :
    tagged name tag cases body outer (Draft.ofJson (.object given)) =
      if kept tag then
        body case { origin := .kept } (Draft.ofJson (.object (given.filter (·.1 ≠ tag))))
      else .error (.mismatch (.missingField tag)) := by
  have known : tag ∈ ((tag, label) :: members).map (·.1) := List.mem_cons_self
  have there := rearranged.mem_names_iff known
  have labelled : ∀ member ∈ given, member.1 = tag →
      caseOf cases (Draft.ofJson member.2) = .ok case := by
    rintro ⟨_, value⟩ inside rfl
    rcases rearranged.mem_cases inside with old | strange
    · rcases List.mem_cons.1 old with same | other
      · cases same
        exact named
      · exact absurd (List.mem_map_of_mem (f := (·.1)) other) (List.nodup_cons.1 distinct).1
    · exact absurd known strange
  have once := (rearranged.pairwise distinct).imp
    (S := fun first second => first.1 = second.1 → first.1 ≠ tag)
    fun apart same is => apart same (is ▸ known)
  have read := keepTagged_ofMembers none labelled held once (.inl rfl)
  simp only [Draft.ofJson, tagged, entered, bind, Except.bind, read, there]
  by_cases keep : kept tag = true
  · simp [keep]
  · simp [keep]

end Tagged

end Schema

end UsbIdentity
