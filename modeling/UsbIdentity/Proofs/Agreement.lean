import Mathlib.Logic.Basic
import UsbIdentity.Proofs.Hierarchy
import UsbIdentity.Proofs.Histories

namespace UsbIdentity

/-- Whether a call to a handle sets no mark, writes no id and offers no descriptor under the mark,
and its holder lives on. A text that is refused is not written. -/
def Handle.Spares (handle : Handle) : HandleCall → Prop
  | .locked call => call ≠ .markFailed ∧ ∀ field value, call = .set field value →
      field = .vendorId ∨ field = .productId →
      (handle.record.limits.maxFor field).toNat < value.utf8ByteSize
  | @HandleCall.ingest _ _ _ _ => False
  | .die _ => False
  | _ => True

namespace Record

def HasIds (record : Record) : Prop :=
  record.vendorId ≠ "" ∧ record.productId ≠ ""

theorem hasIds_enumerate_iff {record : Record} {descriptor : Descriptor} :
    (record.enumerate descriptor).HasIds ↔ descriptor.kind = .device ∨ record.HasIds := by
  cases descriptor with
  | device device =>
    have written (id : UInt16) : String.ofList (Hex.word id) ≠ "" := by simp
    exact iff_of_true ⟨written device.vendorId, written device.productId⟩ (.inl rfl)
  | _ => exact ⟨.inr, fun ids => ids.resolve_left nofun⟩

theorem hash_of_hasIds {record : Record} (ids : record.HasIds) :
    ∃ hash, record.hash = .ok hash :=
  Identity.exists_hash_iff.2 ids

theorem hash_of_not_hasIds {record : Record} (missing : ¬record.HasIds) :
    record.hash = .error .identityIncomplete := by
  refine if_pos ?_
  rwa [HasIds, not_and_or, not_not, not_not] at missing

theorem toRule_of_hasIds {record : Record} (unmarked : record.failed = false)
    (ids : record.HasIds) (includePort : Bool) : ∃ rule, record.toRule includePort = .ok rule := by
  obtain ⟨hash, known⟩ := hash_of_hasIds ids
  exact ⟨_, by rw [toRule, unmarked, known]; rfl⟩

theorem toRule_of_not_hasIds {record : Record} (unmarked : record.failed = false)
    (missing : ¬record.HasIds) (includePort : Bool) :
    record.toRule includePort = .error .identityIncomplete := by
  rw [toRule, unmarked, hash_of_not_hasIds missing]
  rfl

theorem toRule_of_failed {record : Record} (failed : record.failed = true) (includePort : Bool) :
    record.toRule includePort = .error .enumerationFailed := by
  rw [toRule, failed]
  rfl

end Record

namespace Session

structure Concurs (session : Session) (past : List Descriptor) : Prop where
  unlocked : session.device.poisoned = false
  marked : session.device.record.failed = true ↔ session.state = .failed
  ids : session.device.record.HasIds ↔ session.log.has .device = true
  device : session.log.has .device = true ↔ .device ∈ past.map Descriptor.kind

theorem concurs_fresh (attributes : Attributes) (limits : Limits) :
    (fresh attributes limits).Concurs [] where
  unlocked := rfl
  marked := by simp [fresh, Record.empty]
  ids := by simp [Record.HasIds, fresh, Record.empty]
  device := by simp [fresh]

variable {session : Session} {past : List Descriptor}

theorem Concurs.accept (concurs : session.Concurs past) (descriptor : Descriptor) :
    (session.accept descriptor).Concurs (past ++ [descriptor]) where
  unlocked := concurs.unlocked
  marked := by simpa [Session.accept] using concurs.marked
  ids := by
    rw [Session.accept, Handle.record_withRecord, Record.hasIds_enumerate_iff, concurs.ids,
      session.log.has_accept descriptor .device]
    simp
  device := by
    rw [Session.accept, session.log.has_accept descriptor .device, List.map_append,
      List.mem_append, ← concurs.device]
    cases descriptor <;> simp [Descriptor.kind]

theorem concurs_tells : Tells Concurs where
  accept _ _ _ concurs := concurs.accept _
  abandon _ concurs := {
    unlocked := concurs.unlocked
    marked := iff_of_true rfl rfl
    ids := concurs.ids
    device := concurs.device }
  close poisoned concurs := by
    rw [concurs.unlocked] at poisoned
    cases poisoned

theorem Concurs.device_call (concurs : session.Concurs past) {call : HandleCall}
    (spares : session.device.Spares call) :
    Concurs { session with device := (session.device.call call).2 } past := by
  have kept {record : Record} (marks : record.failed = session.device.record.failed)
      (ids : record.HasIds ↔ session.device.record.HasIds) :
      Concurs { session with device := session.device.withRecord record } past :=
    ⟨concurs.unlocked, by rw [← concurs.marked, ← marks]; rfl, ids.trans concurs.ids,
      concurs.device⟩
  cases call with
  | locked call =>
    obtain ⟨unmarked, unwritten⟩ := spares
    simp only [Handle.call, Handle.update_of_unlocked concurs.unlocked]
    cases call with
    | set field value =>
      simp only [Record.call, Record.set]
      cases verdict : session.device.record.limits.check field value with
      | error e => exact kept rfl Iff.rfl
      | ok =>
        have fits := (Limits.check_eq_ok_iff ..).1 verdict
        cases field with
        | vendorId => exact absurd (unwritten _ _ rfl (.inl rfl)) (Nat.not_lt.2 fits)
        | productId => exact absurd (unwritten _ _ rfl (.inr rfl)) (Nat.not_lt.2 fits)
        | _ => exact kept rfl Iff.rfl
    | markFailed => exact absurd rfl unmarked
    | _ => exact kept rfl Iff.rfl
  | ingest oracle descriptor => cases spares
  | load oracle descriptor =>
    simp only [Handle.call, Handle.update_of_unlocked concurs.unlocked, Record.load_eq]
    cases place : descriptor.kind.placed oracle with
    | false => exact kept rfl Iff.rfl
    | true => exact kept (Record.failed_absorb ..) (by cases descriptor <;> exact Iff.rfl)
  | die left => cases spares
  | _ => exact concurs

theorem concurs_run {attributes : Attributes} {limits : Limits} {start : Session}
    (started : Session.start attributes limits = .ok start) {calls : List SessionCall}
    (spared : start.Permits Handle.Spares calls) :
    (start.run calls).2.Concurs (start.accepted calls) := by
  have holds : start.Concurs [] := by
    rw [eq_fresh_of_start started]
    exact concurs_fresh attributes limits
  exact run_tells concurs_tells (fun spares concurs => concurs.device_call spares) holds spared

theorem Concurs.rules_of_failed (concurs : session.Concurs past) (failed : session.state = .failed)
    (includePort : Bool) :
    session.rule includePort = .error .abandoned ∧
      session.device.rule includePort = .error .enumerationFailed := by
  rw [Handle.rule_of_unlocked concurs.unlocked]
  exact ⟨by simp [rule, failed], Record.toRule_of_failed (concurs.marked.2 failed) includePort⟩

theorem Concurs.unmarked (concurs : session.Concurs past)
    (enumerating : session.state = .enumerating) : session.device.record.failed = false := by
  rw [← Bool.not_eq_true, concurs.marked, enumerating]
  nofun

theorem Concurs.rules_of_device (concurs : session.Concurs past)
    (enumerating : session.state = .enumerating) (known : .device ∈ past.map Descriptor.kind)
    (includePort : Bool) :
    ∃ rule, session.rule includePort = .ok rule ∧ session.device.rule includePort = .ok rule := by
  have logged := concurs.device.2 known
  obtain ⟨rule, made⟩ := Record.toRule_of_hasIds (concurs.unmarked enumerating)
    (concurs.ids.2 logged) includePort
  have given := Handle.rule_of_unlocked concurs.unlocked includePort
  rw [made] at given
  exact ⟨rule, by simp [Session.rule, enumerating, logged, given], given⟩

theorem Concurs.rules_of_no_device (concurs : session.Concurs past)
    (enumerating : session.state = .enumerating) (unknown : .device ∉ past.map Descriptor.kind)
    (includePort : Bool) :
    session.rule includePort = .error .incomplete ∧
      session.device.rule includePort = .error .identityIncomplete := by
  have unlogged := mt concurs.device.1 unknown
  rw [Handle.rule_of_unlocked concurs.unlocked]
  exact ⟨by simp [rule, enumerating, unlogged], Record.toRule_of_not_hasIds
    (concurs.unmarked enumerating) (mt concurs.ids.1 unlogged) includePort⟩

/-- While nobody else marks the record, writes an id or takes the lock away, a session and the
handle that it shares give the same rule or both none, and they give one exactly if the session goes
on and has accepted a device. Without a rule it is one of two things: the session has failed and
says that it was abandoned, and the handle that enumeration failed; or no device was accepted, and
the session calls the enumeration incomplete, and the handle the identity. -/
theorem rule_agrees_with_handle {attributes : Attributes} {limits : Limits} {start : Session}
    (started : Session.start attributes limits = .ok start) {calls : List SessionCall}
    (spared : start.Permits Handle.Spares calls) (includePort : Bool) :
    let session := (start.run calls).2
    let kinds := (start.accepted calls).map Descriptor.kind
    (∀ rule, session.rule includePort = .ok rule ↔ session.device.rule includePort = .ok rule) ∧
    ((∃ rule, session.rule includePort = .ok rule) ↔
      session.state = .enumerating ∧ .device ∈ kinds) ∧
    ((∀ rule, session.rule includePort ≠ .ok rule) → Xor
      (session.state = .failed ∧ session.rule includePort = .error .abandoned ∧
        session.device.rule includePort = .error .enumerationFailed)
      (.device ∉ kinds ∧ session.rule includePort = .error .incomplete ∧
        session.device.rule includePort = .error .identityIncomplete)) := by
  intro session kinds
  have concurs : session.Concurs (start.accepted calls) := concurs_run started spared
  cases state : session.state with
  | failed =>
    obtain ⟨own, shared⟩ := concurs.rules_of_failed state includePort
    simp [own, shared, Xor]
  | enumerating =>
    by_cases known : .device ∈ kinds
    · obtain ⟨rule, own, shared⟩ := concurs.rules_of_device state known includePort
      simp [own, shared, known]
    · obtain ⟨own, shared⟩ := concurs.rules_of_no_device state known includePort
      simp [own, shared, known, Xor]

theorem renamed_mouse_rule_agrees_with_handle :
    let device : Descriptor :=
      .device { vendorId := 0x046d, productId := 0xc077, configurationCount := 1 }
    let start := fresh { name := "USB Optical Mouse", port := "1-2.3" } {}
    let calls : List SessionCall :=
      [.device (.locked (.set .name "Мышь")), .ingestAll [device, .configuration { value := 1 }],
        .device (.locked (.set .vendorId "1d6b0")), .device (.load start.log device)]
    let session := (start.run calls).2
    Session.start { name := "USB Optical Mouse", port := "1-2.3" } {} = .ok start ∧
    (∃ rule, session.rule true = .ok rule) ∧
    (∀ rule, session.rule true = .ok rule ↔ session.device.rule true = .ok rule) := by
  intro device start calls session
  have started : Session.start { name := "USB Optical Mouse", port := "1-2.3" } {} = .ok start :=
    rfl
  have spared : start.Permits Handle.Spares calls := by
    refine ⟨?_, nofun, ?_, ?_, trivial⟩ <;> rintro _ ⟨⟩
    · exact ⟨nofun, by rintro _ _ ⟨⟩ (id | id) <;> cases id⟩
    · exact ⟨nofun, by rintro _ _ ⟨⟩ _; decide⟩
    · trivial
  obtain ⟨same, given, _⟩ := rule_agrees_with_handle started spared true
  exact ⟨started, given.2 ⟨rfl, by decide⟩, same⟩

end Session

end UsbIdentity
