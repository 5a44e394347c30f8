import UsbIdentity.Session

namespace UsbIdentity

/-! ## Bounds -/

namespace Limits

def Admit (limits : Limits) (texts : List (Field × String)) : Prop :=
  ∀ text ∈ texts, text.2.utf8ByteSize ≤ (limits.maxFor text.1).toNat

/-- Whether an error reports the first text that does not fit the bound of its field. -/
def Rejects (limits : Limits) (texts : List (Field × String)) (e : DeviceError) : Prop :=
  ∃ before field value after, texts = before ++ (field, value) :: after ∧ limits.Admit before ∧
    (limits.maxFor field).toNat < value.utf8ByteSize ∧
    e = .tooLong field (limits.maxFor field) value.utf8ByteSize

def AdmitIds (limits : Limits) : Prop :=
  4 ≤ limits.vendorId.toNat ∧ 4 ≤ limits.productId.toNat

variable {limits : Limits} {texts : List (Field × String)}

theorem check_eq_error_iff {field : Field} {value : String} {e : DeviceError} :
    limits.check field value = .error e ↔
      (limits.maxFor field).toNat < value.utf8ByteSize ∧
        e = .tooLong field (limits.maxFor field) value.utf8ByteSize := by
  simp only [check]
  split
  · next long => simp [long, eq_comm]
  · next fits => simp [fits]

theorem checkAll_eq_ok_iff : Session.checkAll limits texts = .ok () ↔ limits.Admit texts := by
  induction texts with
  | nil => simp [Session.checkAll, Admit]
  | cons text rest ih =>
    obtain ⟨field, value⟩ := text
    rw [Admit, List.forall_mem_cons, ← check_eq_ok_iff, Session.checkAll]
    cases limits.check field value with
    | error e => simp
    | ok => simpa [Admit] using ih

theorem rejects_of_checkAll {e : DeviceError} (refused : Session.checkAll limits texts = .error e) :
    limits.Rejects texts e := by
  induction texts with
  | nil => cases refused
  | cons text rest ih =>
    obtain ⟨field, value⟩ := text
    simp only [Session.checkAll] at refused
    cases first : limits.check field value with
    | error cause =>
      rw [first] at refused
      cases refused
      obtain ⟨long, reported⟩ := check_eq_error_iff.1 first
      exact ⟨[], field, value, rest, rfl, by simp [Admit], long, reported⟩
    | ok =>
      rw [first] at refused
      obtain ⟨before, other, text, after, rfl, fit, long, reported⟩ := ih refused
      refine ⟨(field, value) :: before, other, text, after, rfl, ?_, long, reported⟩
      exact List.forall_mem_cons.2 ⟨(check_eq_ok_iff limits field value).1 first, fit⟩

theorem checkAll_of_rejects {e : DeviceError} (rejected : limits.Rejects texts e) :
    Session.checkAll limits texts = .error e := by
  obtain ⟨before, field, value, after, rfl, fit, long, rfl⟩ := rejected
  induction before with
  | nil => simp [Session.checkAll, check_eq_error_iff.2 ⟨long, rfl⟩]
  | cons text before ih =>
    obtain ⟨first, rest⟩ := List.forall_mem_cons.1 fit
    simp only [List.cons_append, Session.checkAll, (check_eq_ok_iff limits text.1 text.2).2 first]
    exact ih rest

end Limits

/-! ## Records and oracles -/

def Kind.placed {σ : Type} [Oracle σ] (oracle : σ) (kind : Kind) : Bool :=
  match kind.parent? with
  | none => !Oracle.has oracle kind
  | some parent => Oracle.has oracle parent

def Kind.misplacement (kind : Kind) : DeviceError :=
  match kind.parent? with
  | none => .duplicateDescriptor kind
  | some parent => .missingParent kind parent

theorem Kind.isStructural_misplacement (kind : Kind) : kind.misplacement.isStructural = true := by
  cases kind <;> rfl

def Kind.restart {σ : Type} [Oracle σ] (oracle : σ) : Kind → σ
  | .configuration => Oracle.forget (Oracle.forget oracle .interface) .endpoint
  | _ => oracle

/-- An oracle with the kinds that it was told to forget, in order. -/
structure Watched (σ : Type) where
  oracle : σ
  forgotten : List Kind

instance {σ : Type} [Oracle σ] : Oracle (Watched σ) where
  has watched := Oracle.has watched.oracle
  forget watched kind := ⟨Oracle.forget watched.oracle kind, watched.forgotten ++ [kind]⟩

namespace Record

def absorb (record : Record) : Descriptor → Record
  | .device device =>
    { record with
      configurationCount := Int32.ofNat device.configurationCount.toNat
      interfaceTypes := [] }
  | .interface interface =>
    { record with
      interfaceTypes := record.interfaceTypes ++ [InterfaceType.ofDescriptor interface] }
  | _ => record

theorem load_eq {σ : Type} [Oracle σ] (record : Record) (oracle : σ) (descriptor : Descriptor) :
    record.load oracle descriptor =
      if descriptor.kind.placed oracle then
        (.ok (), record.absorb descriptor, descriptor.kind.restart oracle)
      else (.error descriptor.kind.misplacement, record, oracle) := by
  cases descriptor with
  | device device =>
    by_cases present : Oracle.has oracle .device <;>
      simp [load, Kind.placed, Descriptor.kind, Kind.parent?, present, absorb, Kind.restart,
        Kind.misplacement]
  | configuration configuration =>
    by_cases parent : Oracle.has oracle .device <;>
      simp [load, requireParent, Kind.placed, Descriptor.kind, Kind.parent?, parent, absorb,
        Kind.restart, Kind.misplacement]
  | interface interface =>
    by_cases parent : Oracle.has oracle .configuration <;>
      simp [load, requireParent, Kind.placed, Descriptor.kind, Kind.parent?, parent, absorb,
        Kind.restart, Kind.misplacement]
  | endpoint endpoint =>
    by_cases parent : Oracle.has oracle .interface <;>
      simp [load, requireParent, Kind.placed, Descriptor.kind, Kind.parent?, parent, absorb,
        Kind.restart, Kind.misplacement]

@[simp]
theorem limits_absorb (record : Record) (descriptor : Descriptor) :
    (record.absorb descriptor).limits = record.limits := by
  cases descriptor <;> rfl

@[simp]
theorem failed_absorb (record : Record) (descriptor : Descriptor) :
    (record.absorb descriptor).failed = record.failed := by
  cases descriptor <;> rfl

@[simp]
theorem failed_put (record : Record) (field : Field) (value : String) :
    (record.put field value).failed = record.failed := by
  cases field <;> rfl

def putAll (record : Record) (texts : List (Field × String)) : Record :=
  texts.foldl (fun record text => record.put text.1 text.2) record

@[simp]
theorem limits_putAll (record : Record) (texts : List (Field × String)) :
    (record.putAll texts).limits = record.limits := by
  induction texts generalizing record with
  | nil => rfl
  | cons text rest ih => exact (ih _).trans (limits_put ..)

@[simp]
theorem failed_putAll (record : Record) (texts : List (Field × String)) :
    (record.putAll texts).failed = record.failed := by
  induction texts generalizing record with
  | nil => rfl
  | cons text rest ih => exact (ih _).trans (failed_put ..)

theorem setAll_fst (record : Record) (texts : List (Field × String)) :
    (record.setAll texts).1 = Session.checkAll record.limits texts := by
  induction texts generalizing record with
  | nil => rfl
  | cons text rest ih =>
    obtain ⟨field, value⟩ := text
    simp only [setAll, set, Session.checkAll]
    cases record.limits.check field value with
    | error e => rfl
    | ok => simpa using ih (record.put field value)

theorem setAll_of_checkAll {record : Record} {texts : List (Field × String)}
    (fit : Session.checkAll record.limits texts = .ok ()) :
    record.setAll texts = (.ok (), record.putAll texts) := by
  induction texts generalizing record with
  | nil => rfl
  | cons text rest ih =>
    obtain ⟨field, value⟩ := text
    simp only [Session.checkAll] at fit
    simp only [setAll, set]
    cases first : record.limits.check field value with
    | error e => simp [first] at fit
    | ok =>
      rw [first] at fit
      exact ih (by simpa using fit)

end Record

/-! ## Shared handles -/

def Handle.Unusable (handle : Handle) : Prop :=
  handle.poisoned = true ∨ handle.record.failed = true

theorem Handle.Unusable.failed {handle : Handle} (unusable : handle.Unusable)
    (unlocked : handle.poisoned = false) : handle.record.failed = true := by
  rcases unusable with poisoned | failed
  · rw [unlocked] at poisoned
    cases poisoned
  · exact failed

namespace Handle

theorem lock_of_poisoned {handle : Handle} (poisoned : handle.poisoned = true) :
    handle.lock = .error .poisoned := by
  simp [lock, poisoned]

theorem lock_of_unlocked {handle : Handle} (unlocked : handle.poisoned = false) :
    handle.lock = .ok handle.record := by
  simp [lock, unlocked]

theorem ingest_eq {σ : Type} [Oracle σ] (handle : Handle) (oracle : σ) (descriptor : Descriptor) :
    handle.ingest oracle descriptor =
      if handle.poisoned then (.error .poisoned, handle, oracle)
      else if handle.record.failed then (.error .enumerationFailed, handle, oracle)
      else if descriptor.kind.placed oracle then
        (.ok (), handle.withRecord (handle.record.absorb descriptor),
          descriptor.kind.restart oracle)
      else
        (.error descriptor.kind.misplacement, handle.withRecord handle.record.markFailed,
          oracle) := by
  cases condition : handle.poisoned with
  | true => simp [ingest, lock_of_poisoned condition]
  | false =>
    simp only [ingest, lock_of_unlocked condition, Record.load_eq, Bool.false_eq_true, if_false]
    split
    · rfl
    · cases descriptor.kind.placed oracle <;> rfl

end Handle

/-! ## Sessions -/

def Descriptor.Fits (limits : Limits) (log : DescriptorLog) (descriptor : Descriptor) : Prop :=
  (descriptor.kind = .device → limits.AdmitIds) ∧ descriptor.kind.placed log = true

def DescriptorLog.accept (log : DescriptorLog) (descriptor : Descriptor) : DescriptorLog :=
  (descriptor.kind.restart log).record descriptor

def Record.enumerate (record : Record) (descriptor : Descriptor) : Record :=
  (record.absorb descriptor).putAll (Session.idsOf descriptor)

@[simp]
theorem Record.limits_enumerate (record : Record) (descriptor : Descriptor) :
    (record.enumerate descriptor).limits = record.limits := by
  simp [enumerate]

@[simp]
theorem Record.failed_enumerate (record : Record) (descriptor : Descriptor) :
    (record.enumerate descriptor).failed = record.failed := by
  simp [enumerate]

namespace Session

def refusal? (limits : Limits) (log : DescriptorLog) (descriptor : Descriptor) :
    Option DeviceError :=
  match checkAll limits (idsOf descriptor) with
  | .error e => some e
  | .ok () => if descriptor.kind.placed log then none else some descriptor.kind.misplacement

theorem admit_idsOf_iff {limits : Limits} {descriptor : Descriptor} :
    limits.Admit (idsOf descriptor) ↔ (descriptor.kind = .device → limits.AdmitIds) := by
  cases descriptor <;>
    simp [idsOf, Limits.Admit, Limits.AdmitIds, Limits.maxFor, Descriptor.kind,
      Hex.utf8ByteSize_word]

theorem refusal?_eq_none_iff {limits : Limits} {log : DescriptorLog} {descriptor : Descriptor} :
    refusal? limits log descriptor = none ↔ descriptor.Fits limits log := by
  rw [Descriptor.Fits, ← admit_idsOf_iff, ← Limits.checkAll_eq_ok_iff, refusal?]
  cases checkAll limits (idsOf descriptor) with
  | error e => simp
  | ok => cases place : descriptor.kind.placed log <;> simp

theorem refusal?_ne_poisoned {limits : Limits} {log : DescriptorLog} {descriptor : Descriptor} :
    refusal? limits log descriptor ≠ some .poisoned := by
  unfold refusal?
  cases ids : checkAll limits (idsOf descriptor) with
  | error e =>
    obtain ⟨_, _, _, _, _, _, _, rfl⟩ := Limits.rejects_of_checkAll ids
    simp
  | ok =>
    cases descriptor.kind.placed log with
    | true => simp
    | false => cases descriptor <;> simp [Kind.misplacement, Descriptor.kind, Kind.parent?]

theorem load_eq (record : Record) (log : DescriptorLog) (descriptor : Descriptor) :
    load record log descriptor =
      match refusal? record.limits log descriptor with
      | some e => (.error e, record, log)
      | none => (.ok (), record.enumerate descriptor, log.accept descriptor) := by
  unfold load refusal?
  cases ids : checkAll record.limits (idsOf descriptor) with
  | error e => rfl
  | ok =>
    cases place : descriptor.kind.placed log with
    | false => simp [Record.load_eq, place]
    | true =>
      have fit : checkAll (record.absorb descriptor).limits (idsOf descriptor) = .ok () := by
        rw [Record.limits_absorb, ids]
      simp [Record.load_eq, place, Record.setAll_of_checkAll fit, Record.enumerate,
        DescriptorLog.accept]

def accept (session : Session) (descriptor : Descriptor) : Session :=
  { session with
    device := session.device.withRecord (session.device.record.enumerate descriptor)
    log := session.log.accept descriptor }

def abandon (session : Session) : Session :=
  { session with
    device := session.device.withRecord session.device.record.markFailed
    state := .failed }

theorem ingest_of_failed {session : Session} (failed : session.state = .failed)
    (descriptor : Descriptor) : session.ingest descriptor = (.error .abandoned, session) := by
  simp [ingest, failed]

theorem ingest_of_poisoned {session : Session} (enumerating : session.state = .enumerating)
    (poisoned : session.device.poisoned = true) (descriptor : Descriptor) :
    session.ingest descriptor =
      (.error (.device .poisoned), { session with state := .failed }) := by
  simp [ingest, enumerating, apply, Handle.lock_of_poisoned poisoned]

theorem ingest_of_refusal {session : Session} {descriptor : Descriptor} {e : DeviceError}
    (enumerating : session.state = .enumerating) (unlocked : session.device.poisoned = false)
    (refused : refusal? session.device.record.limits session.log descriptor = some e) :
    session.ingest descriptor = (.error (.device e), session.abandon) := by
  simp [ingest, enumerating, apply, Handle.lock_of_unlocked unlocked, load_eq, refused, abandon]

theorem ingest_of_fits {session : Session} {descriptor : Descriptor}
    (enumerating : session.state = .enumerating) (unlocked : session.device.poisoned = false)
    (fits : descriptor.Fits session.device.record.limits session.log) :
    session.ingest descriptor = (.ok (), session.accept descriptor) := by
  simp [ingest, enumerating, apply, Handle.lock_of_unlocked unlocked, load_eq,
    refusal?_eq_none_iff.2 fits, accept]

theorem ingest_cases (session : Session) (descriptor : Descriptor) :
    (session.state = .failed ∧ session.ingest descriptor = (.error .abandoned, session)) ∨
    (session.state = .enumerating ∧ session.device.poisoned = true ∧
      session.ingest descriptor =
        (.error (.device .poisoned), { session with state := .failed })) ∨
    (∃ e, session.state = .enumerating ∧ session.device.poisoned = false ∧
      refusal? session.device.record.limits session.log descriptor = some e ∧
      session.ingest descriptor = (.error (.device e), session.abandon)) ∨
    (session.state = .enumerating ∧ session.device.poisoned = false ∧
      descriptor.Fits session.device.record.limits session.log ∧
      session.ingest descriptor = (.ok (), session.accept descriptor)) := by
  cases state : session.state with
  | failed => exact .inl ⟨rfl, ingest_of_failed state descriptor⟩
  | enumerating =>
    cases condition : session.device.poisoned with
    | true => exact .inr (.inl ⟨rfl, rfl, ingest_of_poisoned state condition descriptor⟩)
    | false =>
      cases verdict : refusal? session.device.record.limits session.log descriptor with
      | some e =>
        exact .inr (.inr (.inl ⟨e, rfl, rfl, rfl, ingest_of_refusal state condition verdict⟩))
      | none =>
        have fits := refusal?_eq_none_iff.1 verdict
        exact .inr (.inr (.inr ⟨rfl, rfl, fits, ingest_of_fits state condition fits⟩))

end Session

end UsbIdentity
