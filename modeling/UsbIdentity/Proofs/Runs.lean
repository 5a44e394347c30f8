import UsbIdentity.Proofs.Acceptance
import UsbIdentity.Session.Call

namespace UsbIdentity

/-! ## Handles -/

namespace Record

theorem failed_call {record : Record} (failed : record.failed = true) (call : RecordCall) :
    (record.call call).2.failed = true := by
  cases call with
  | set field value =>
    simp only [Record.call, set]
    cases record.limits.check field value with
    | error e => exact failed
    | ok => exact (failed_put record field value).trans failed
  | markFailed => rfl
  | _ => exact failed

theorem limits_call (record : Record) (call : RecordCall) :
    (record.call call).2.limits = record.limits := by
  cases call with
  | set field value =>
    simp only [Record.call, set]
    cases record.limits.check field value with
    | error e => rfl
    | ok => exact limits_put record field value
  | _ => rfl

end Record

namespace Handle

theorem update_of_unlocked {α : Type} {handle : Handle} (unlocked : handle.poisoned = false)
    (change : Record → Except DeviceError α × Record) :
    handle.update change = ((change handle.record).1, handle.withRecord (change handle.record).2) := by
  simp [update, lock_of_unlocked unlocked]

theorem hash_withRecord {handle : Handle} {record : Record}
    (same : record.hash = handle.record.hash) : (handle.withRecord record).hash = handle.hash := by
  cases condition : handle.poisoned <;> simp [hash, lock, condition, same, bind, Except.bind]

theorem rule_withRecord {handle : Handle} {record : Record} {includePort : Bool}
    (same : record.toRule includePort = handle.record.toRule includePort) :
    (handle.withRecord record).rule includePort = handle.rule includePort := by
  cases condition : handle.poisoned <;> simp [rule, lock, condition, same, bind, Except.bind]

theorem call_of_poisoned {handle : Handle} (poisoned : handle.poisoned = true)
    (call : HandleCall) : handle.call call = (.error .poisoned, handle) := by
  have locked := lock_of_poisoned poisoned
  cases call with
  | locked call => simp [Handle.call, update, locked]
  | snapshot => simp [Handle.call, snapshot, locked, Except.map]
  | hash => simp [Handle.call, hash, locked, bind, Except.bind, Except.map]
  | rule includePort => simp [Handle.call, rule, locked, bind, Except.bind, Except.map]
  | ingest oracle descriptor => simp [Handle.call, ingest, locked]
  | load oracle descriptor => simp [Handle.call, update, locked]
  | die left => simp [Handle.call, die, locked]

theorem ingest_of_unusable {σ : Type} [Oracle σ] {handle : Handle} (unusable : handle.Unusable)
    (oracle : σ) (descriptor : Descriptor) :
    handle.ingest oracle descriptor =
      (.error (if handle.poisoned then .poisoned else .enumerationFailed), handle, oracle) := by
  rw [ingest_eq]
  cases condition : handle.poisoned with
  | true => rfl
  | false =>
    have failed := unusable.failed condition
    simp [failed]

theorem rule_of_unlocked {handle : Handle} (unlocked : handle.poisoned = false)
    (includePort : Bool) : handle.rule includePort = handle.record.toRule includePort := by
  rw [rule, lock_of_unlocked unlocked]
  rfl

theorem rule_of_unusable {handle : Handle} (unusable : handle.Unusable) (includePort : Bool) :
    handle.rule includePort =
      .error (if handle.poisoned then .poisoned else .enumerationFailed) := by
  cases condition : handle.poisoned with
  | true =>
    rw [rule, lock_of_poisoned condition]
    rfl
  | false =>
    have failed := unusable.failed condition
    simp [rule_of_unlocked condition, Record.toRule, failed]

theorem call_cases (handle : Handle) (call : HandleCall) :
    (handle.call call).2 = handle ∨
    (handle.poisoned = false ∧ ∃ own, call = .locked own ∧
      (handle.call call).2 = handle.withRecord (handle.record.call own).2) ∨
    (handle.poisoned = false ∧ ∃ descriptor,
      (handle.call call).2 = handle.withRecord (handle.record.absorb descriptor)) ∨
    (handle.poisoned = false ∧
      (handle.call call).2 = handle.withRecord handle.record.markFailed) ∨
    ∃ left, call = .die left ∧ (handle.call call).2 = { record := left, poisoned := true } := by
  cases condition : handle.poisoned with
  | true => exact .inl (by rw [call_of_poisoned condition])
  | false =>
    cases call with
    | locked own =>
      simp only [Handle.call, update_of_unlocked condition]
      exact .inr (.inl ⟨trivial, own, rfl, rfl⟩)
    | ingest oracle descriptor =>
      simp only [Handle.call, ingest_eq, condition, Bool.false_eq_true, if_false]
      cases handle.record.failed with
      | true => exact .inl rfl
      | false =>
        cases descriptor.kind.placed oracle with
        | false => exact .inr (.inr (.inr (.inl ⟨trivial, rfl⟩)))
        | true => exact .inr (.inr (.inl ⟨trivial, descriptor, rfl⟩))
    | load oracle descriptor =>
      simp only [Handle.call, update_of_unlocked condition, Record.load_eq]
      cases descriptor.kind.placed oracle with
      | false => exact .inl rfl
      | true => exact .inr (.inr (.inl ⟨trivial, descriptor, rfl⟩))
    | die left =>
      simp only [Handle.call, die, lock_of_unlocked condition]
      exact .inr (.inr (.inr (.inr ⟨left, rfl, rfl⟩)))
    | _ => exact .inl rfl

theorem unusable_call {handle : Handle} (unusable : handle.Unusable) (call : HandleCall) :
    (handle.call call).2.Unusable := by
  rcases handle.call_cases call with
    same | ⟨unlocked, own, _, same⟩ | ⟨unlocked, descriptor, same⟩ | ⟨_, same⟩ | ⟨left, _, same⟩ <;>
    rw [same]
  · exact unusable
  · exact .inr (Record.failed_call (unusable.failed unlocked) own)
  · exact .inr ((handle.record.failed_absorb descriptor).trans (unusable.failed unlocked))
  · exact .inr rfl
  · exact .inl rfl

def BoundedBy (limits : Limits) (handle : Handle) : Prop :=
  handle.poisoned = false → handle.record.limits = limits

theorem boundedBy_call {limits : Limits} {handle : Handle} (bounded : handle.BoundedBy limits)
    (call : HandleCall) : (handle.call call).2.BoundedBy limits := by
  rcases handle.call_cases call with
    same | ⟨_, own, _, same⟩ | ⟨_, descriptor, same⟩ | ⟨_, same⟩ | ⟨left, _, same⟩ <;>
    rw [same]
  · exact bounded
  · exact fun unlocked => (handle.record.limits_call own).trans (bounded unlocked)
  · exact fun unlocked => (handle.record.limits_absorb descriptor).trans (bounded unlocked)
  · exact bounded
  · exact nofun

end Handle

/-! ## Sessions -/

def Attributes.texts (attributes : Attributes) : List (Field × String) :=
  [(.name, attributes.name), (.serialNumber, attributes.serialNumber), (.port, attributes.port)]

namespace Session

def fresh (attributes : Attributes) (limits : Limits) : Session where
  device :=
    { record :=
        { Record.empty limits with
          name := attributes.name
          serialNumber := attributes.serialNumber
          port := attributes.port } }
  log := .empty
  state := .enumerating

theorem start_eq (attributes : Attributes) (limits : Limits) :
    start attributes limits =
      match checkAll limits attributes.texts with
      | .error e => .error e
      | .ok () => .ok (fresh attributes limits) := by
  unfold start
  cases verdict : checkAll limits attributes.texts with
  | error e =>
    have refused : ((Record.empty limits).setAll attributes.texts).1 = .error e := by
      rw [Record.setAll_fst]
      exact verdict
    split
    · next stored =>
      rw [Attributes.texts, stored] at refused
      cases refused
      rfl
    · next stored =>
      rw [Attributes.texts, stored] at refused
      cases refused
  | ok =>
    have stored : (Record.empty limits).setAll attributes.texts = _ :=
      Record.setAll_of_checkAll verdict
    rw [Attributes.texts] at stored
    simp only [stored]
    rfl

theorem eq_fresh_of_start {attributes : Attributes} {limits : Limits} {session : Session}
    (started : start attributes limits = .ok session) : session = fresh attributes limits := by
  rw [start_eq] at started
  split at started <;> cases started
  rfl

theorem enumerating_of_start {attributes : Attributes} {limits : Limits} {session : Session}
    (started : start attributes limits = .ok session) : session.state = .enumerating := by
  rw [eq_fresh_of_start started]
  rfl

theorem run_append (session : Session) (before after : List SessionCall) :
    (session.run (before ++ after)).2 = ((session.run before).2.run after).2 := by
  induction before generalizing session with
  | nil => rfl
  | cons call before ih => exact ih (session.call call).2

theorem ingestAll_keeps {P : Session → Prop}
    (ingest : ∀ session descriptor, P session → P (session.ingest descriptor).2)
    {session : Session} (holds : P session) (descriptors : List Descriptor) :
    P (session.ingestAll descriptors).2 := by
  induction descriptors generalizing session with
  | nil => exact holds
  | cons descriptor rest ih =>
    have first := ingest session descriptor holds
    simp only [ingestAll]
    split
    · next e next refused => rwa [refused] at first
    · next next accepted =>
      rw [accepted] at first
      have last := ih first
      split
      · next e last' refused => rwa [refused] at last
      · next count last' done => rwa [done] at last

theorem call_ingest (session : Session) (descriptor : Descriptor) :
    session.call (.ingest descriptor) =
      ((session.ingest descriptor).1.map fun _ => .done, (session.ingest descriptor).2) := by
  simp only [Session.call]
  rcases session.ingest descriptor with ⟨_ | _, next⟩ <;> rfl

theorem call_ingestAll (session : Session) (descriptors : List Descriptor) :
    session.call (.ingestAll descriptors) =
      ((session.ingestAll descriptors).1.map .count, (session.ingestAll descriptors).2) := by
  simp only [Session.call]
  rcases session.ingestAll descriptors with ⟨_ | _, next⟩ <;> rfl

theorem call_device (session : Session) (call : HandleCall) :
    session.call (.device call) =
      ((session.device.call call).1.mapError .device,
        { session with device := (session.device.call call).2 }) := by
  simp only [Session.call]
  rcases session.device.call call with ⟨_ | _, device⟩ <;> rfl

theorem call_keeps {P : Session → Prop}
    (ingest : ∀ session descriptor, P session → P (session.ingest descriptor).2)
    (device : ∀ session call, P session →
      P { session with device := (session.device.call call).2 })
    {session : Session} (holds : P session) (call : SessionCall) : P (session.call call).2 := by
  cases call with
  | ingest descriptor =>
    rw [call_ingest]
    exact ingest session descriptor holds
  | ingestAll descriptors =>
    rw [call_ingestAll]
    exact ingestAll_keeps ingest holds descriptors
  | rule includePort => exact holds
  | device call =>
    rw [call_device]
    exact device session call holds

theorem run_keeps {P : Session → Prop}
    (ingest : ∀ session descriptor, P session → P (session.ingest descriptor).2)
    (device : ∀ session call, P session →
      P { session with device := (session.device.call call).2 })
    {session : Session} (holds : P session) (calls : List SessionCall) :
    P (session.run calls).2 := by
  induction calls generalizing session with
  | nil => exact holds
  | cons call calls ih => exact ih (call_keeps ingest device holds call)

theorem boundedBy_ingest {limits : Limits} {session : Session}
    (bounded : session.device.BoundedBy limits) (descriptor : Descriptor) :
    (session.ingest descriptor).2.device.BoundedBy limits := by
  rcases session.ingest_cases descriptor with
    ⟨_, outcome⟩ | ⟨_, _, outcome⟩ | ⟨_, _, unlocked, _, outcome⟩ | ⟨_, unlocked, _, outcome⟩ <;>
    rw [outcome]
  · exact bounded
  · exact bounded
  · exact fun _ => bounded unlocked
  · exact fun _ => (Record.limits_enumerate ..).trans (bounded unlocked)

theorem run_keeps_bounds {limits : Limits} {session : Session}
    (bounded : session.device.BoundedBy limits) (calls : List SessionCall) :
    (session.run calls).2.device.BoundedBy limits := by
  apply run_keeps (P := fun session => session.device.BoundedBy limits)
  · exact fun _ descriptor bounded => boundedBy_ingest bounded descriptor
  · exact fun _ call bounded => Handle.boundedBy_call bounded call
  · exact bounded

theorem boundedBy_of_start {attributes : Attributes} {limits : Limits} {session : Session}
    (started : start attributes limits = .ok session) : session.device.BoundedBy limits := by
  rw [eq_fresh_of_start started]
  exact fun _ => rfl

theorem boundedBy_run {attributes : Attributes} {limits : Limits} {session : Session}
    (started : start attributes limits = .ok session) (calls : List SessionCall) :
    (session.run calls).2.device.BoundedBy limits :=
  run_keeps_bounds (boundedBy_of_start started) calls

end Session

end UsbIdentity
