import UsbIdentity.Proofs.Runs

namespace UsbIdentity

/-! ## Bounds -/

namespace Limits

def AtMost (tight loose : Limits) : Prop :=
  tight.genericString ≤ loose.genericString ∧ tight.vendorId ≤ loose.vendorId ∧
    tight.productId ≤ loose.productId ∧ tight.port ≤ loose.port

variable {tight loose : Limits}

theorem AtMost.maxFor_le (looser : tight.AtMost loose) (field : Field) :
    (tight.maxFor field).toNat ≤ (loose.maxFor field).toNat := by
  obtain ⟨genericString, vendorId, productId, port⟩ := looser
  apply UInt64.le_iff_toNat_le.1
  cases field with
  | name => exact genericString
  | vendorId => exact vendorId
  | productId => exact productId
  | serialNumber => exact genericString
  | port => exact port

theorem AtMost.checkAll (looser : tight.AtMost loose) {texts : List (Field × String)}
    (fit : Session.checkAll tight texts = .ok ()) : Session.checkAll loose texts = .ok () := by
  apply checkAll_eq_ok_iff.2
  intro text member
  have fits := checkAll_eq_ok_iff.1 fit text member
  exact Nat.le_trans fits (looser.maxFor_le text.1)

end Limits

/-! ## Records -/

def Record.rebound (limits : Limits) (record : Record) : Record :=
  { record with limits }

def Reply.rebound (limits : Limits) : Reply → Reply
  | .snapshot record => .snapshot (record.rebound limits)
  | reply => reply

namespace Record

theorem put_rebound (loose : Limits) (record : Record) (field : Field) (value : String) :
    (record.rebound loose).put field value = (record.put field value).rebound loose := by
  cases field <;> rfl

theorem enumerate_rebound (loose : Limits) (record : Record) (descriptor : Descriptor) :
    (record.rebound loose).enumerate descriptor = (record.enumerate descriptor).rebound loose := by
  cases descriptor <;> rfl

theorem call_rebound {loose : Limits} {record : Record} (looser : record.limits.AtMost loose)
    {call : RecordCall}
    (clear : ∀ field max actual, (record.call call).1 ≠ .error (.tooLong field max actual)) :
    (record.rebound loose).call call =
      ((record.call call).1.map (Reply.rebound loose), (record.call call).2.rebound loose) := by
  cases call with
  | set field value =>
    simp only [Record.call, set] at clear ⊢
    cases verdict : record.limits.check field value with
    | error e =>
      rw [verdict] at clear
      obtain ⟨-, rfl⟩ := Limits.check_eq_error_iff.1 verdict
      exact absurd rfl (clear _ _ _)
    | ok =>
      have fits := (Limits.check_eq_ok_iff ..).1 verdict
      have set : (record.rebound loose).set field value = _ :=
        set_eq_ok_iff.2 ⟨Nat.le_trans fits (looser.maxFor_le field), rfl⟩
      simp only [Record.set] at set
      rw [set, put_rebound]
      rfl
  | hash =>
    have same : (record.rebound loose).hash = record.hash := rfl
    simp only [Record.call, same]
    cases record.hash <;> rfl
  | rule includePort =>
    have same : (record.rebound loose).toRule includePort = record.toRule includePort := rfl
    simp only [Record.call, same]
    cases record.toRule includePort <;> rfl
  | _ => rfl

end Record

/-! ## Handles -/

namespace Handle

variable {tight loose : Limits} {handle : Handle}

def rebound (limits : Limits) (handle : Handle) : Handle :=
  handle.withRecord (handle.record.rebound limits)

theorem call_rebound (looser : tight.AtMost loose) (bounded : handle.BoundedBy tight)
    {call : HandleCall} (alive : ∀ left, call ≠ .die left)
    (clear : ∀ field max actual, (handle.call call).1 ≠ .error (.tooLong field max actual)) :
    (handle.rebound loose).call call =
      ((handle.call call).1.map (Reply.rebound loose), (handle.call call).2.rebound loose) := by
  cases condition : handle.poisoned with
  | true =>
    have poisoned : (handle.rebound loose).poisoned = true := condition
    rw [call_of_poisoned poisoned, call_of_poisoned condition]
    rfl
  | false =>
    have unlocked : (handle.rebound loose).poisoned = false := condition
    rw [← bounded condition] at looser
    cases call with
    | locked call =>
      simp only [Handle.call, update_of_unlocked condition, update_of_unlocked unlocked] at clear ⊢
      exact congrArg (fun outcome => (outcome.1, handle.withRecord outcome.2))
        (Record.call_rebound looser clear)
    | snapshot =>
      simp only [Handle.call, snapshot, lock_of_unlocked condition, lock_of_unlocked unlocked]
      rfl
    | hash =>
      have same : (handle.rebound loose).hash = handle.hash := hash_withRecord rfl
      simp only [Handle.call, same]
      cases handle.hash <;> rfl
    | rule includePort =>
      have same : (handle.rebound loose).rule includePort = handle.rule includePort :=
        rule_withRecord rfl
      simp only [Handle.call, same]
      cases handle.rule includePort <;> rfl
    | ingest oracle descriptor =>
      have same : (handle.rebound loose).record.failed = handle.record.failed := rfl
      simp only [Handle.call, ingest_eq, condition, unlocked, same, Bool.false_eq_true, if_false]
      cases handle.record.failed with
      | true => rfl
      | false =>
        cases descriptor.kind.placed oracle with
        | false => rfl
        | true => cases descriptor <;> rfl
    | load oracle descriptor =>
      simp only [Handle.call, update_of_unlocked condition, update_of_unlocked unlocked,
        Record.load_eq]
      cases descriptor.kind.placed oracle with
      | false => rfl
      | true => cases descriptor <;> rfl
    | die left => exact absurd rfl (alive left)

end Handle

/-! ## Sessions -/

namespace Session

variable {attributes : Attributes} {tight loose : Limits} {session start : Session}

def rebound (limits : Limits) (session : Session) : Session :=
  { session with device := session.device.rebound limits }

theorem refusal?_rebound (looser : tight.AtMost loose) {log : DescriptorLog}
    {descriptor : Descriptor}
    (clear : ∀ field max actual,
      refusal? tight log descriptor ≠ some (.tooLong field max actual)) :
    refusal? loose log descriptor = refusal? tight log descriptor := by
  simp only [refusal?] at clear ⊢
  cases verdict : checkAll tight (idsOf descriptor) with
  | error e =>
    rw [verdict] at clear
    obtain ⟨_, _, _, _, _, _, _, rfl⟩ := Limits.rejects_of_checkAll verdict
    exact absurd rfl (clear _ _ _)
  | ok => rw [looser.checkAll verdict]

theorem accept_rebound (loose : Limits) (session : Session) (descriptor : Descriptor) :
    (session.rebound loose).accept descriptor = (session.accept descriptor).rebound loose := by
  have same := session.device.record.enumerate_rebound loose descriptor
  exact congrArg (fun record =>
    { session with
      device := session.device.withRecord record
      log := session.log.accept descriptor }) same

theorem ingest_rebound (looser : tight.AtMost loose) (bounded : session.device.BoundedBy tight)
    (descriptor : Descriptor)
    (clear : ∀ field max actual,
      (session.ingest descriptor).1 ≠ .error (.device (.tooLong field max actual))) :
    (session.rebound loose).ingest descriptor =
      ((session.ingest descriptor).1, (session.ingest descriptor).2.rebound loose) := by
  have state : (session.rebound loose).state = session.state := rfl
  rcases session.ingest_cases descriptor with
    ⟨failed, outcome⟩ | ⟨enumerating, poisoned, outcome⟩ |
    ⟨e, enumerating, unlocked, refused, outcome⟩ | ⟨enumerating, unlocked, fits, outcome⟩ <;>
    rw [outcome] at clear ⊢
  · exact ingest_of_failed (state.trans failed) descriptor
  · exact ingest_of_poisoned (state.trans enumerating) poisoned descriptor
  · -- No text was too long, so the place of the descriptor was refused, which no bound changes.
    rw [bounded unlocked] at refused
    have same : refusal? loose session.log descriptor = some e := by
      rw [refusal?_rebound looser, refused]
      simpa [refused] using clear
    exact ingest_of_refusal (state.trans enumerating) unlocked same
  · rw [bounded unlocked, ← refusal?_eq_none_iff] at fits
    have same : refusal? loose session.log descriptor = none := by
      rw [refusal?_rebound looser, fits]
      simp [fits]
    rw [← accept_rebound]
    exact ingest_of_fits (state.trans enumerating) unlocked (refusal?_eq_none_iff.1 same)

theorem ingestAll_rebound (looser : tight.AtMost loose) (bounded : session.device.BoundedBy tight)
    (descriptors : List Descriptor)
    (clear : ∀ field max actual,
      (session.ingestAll descriptors).1 ≠ .error (.device (.tooLong field max actual))) :
    (session.rebound loose).ingestAll descriptors =
      ((session.ingestAll descriptors).1, (session.ingestAll descriptors).2.rebound loose) := by
  induction descriptors generalizing session with
  | nil => rfl
  | cons descriptor rest ih =>
    have first := ingest_rebound looser bounded descriptor
    have next := boundedBy_ingest bounded descriptor
    simp only [ingestAll] at clear ⊢
    rcases outcome : session.ingest descriptor with ⟨e | _, middle⟩ <;>
      simp only [outcome] at clear first next ⊢
    · rw [first (by simpa using clear)]
    · rw [first (by simp)]
      have last := ih next
      rcases tail : middle.ingestAll rest with ⟨e | count, final⟩ <;>
        simp only [tail] at clear last ⊢
      · rw [last clear]
      · rw [last (by simp)]

theorem call_rebound (looser : tight.AtMost loose) (bounded : session.device.BoundedBy tight)
    {call : SessionCall} (alive : ∀ left, call ≠ .device (.die left))
    (clear : ∀ field max actual,
      (session.call call).1 ≠ .error (.device (.tooLong field max actual))) :
    (session.rebound loose).call call =
      ((session.call call).1.map (Reply.rebound loose), (session.call call).2.rebound loose) := by
  cases call with
  | ingest descriptor =>
    rw [call_ingest] at clear
    rw [call_ingest, call_ingest, ingest_rebound looser bounded descriptor]
    · cases (session.ingest descriptor).1 <;> rfl
    · intro field max actual refused
      exact clear field max actual (by rw [refused]; rfl)
  | ingestAll descriptors =>
    rw [call_ingestAll] at clear
    rw [call_ingestAll, call_ingestAll, ingestAll_rebound looser bounded descriptors]
    · cases (session.ingestAll descriptors).1 <;> rfl
    · intro field max actual refused
      exact clear field max actual (by rw [refused]; rfl)
  | rule includePort =>
    have given : (session.rebound loose).device.rule includePort =
        session.device.rule includePort := Handle.rule_withRecord rfl
    have same : (session.rebound loose).rule includePort = session.rule includePort := by
      rw [rule, given]
      rfl
    simp only [Session.call, same]
    cases session.rule includePort <;> rfl
  | device call =>
    have lives : ∀ left, call ≠ .die left := fun left same => alive left (by rw [same])
    have same : (session.rebound loose).device = session.device.rebound loose := rfl
    rw [call_device] at clear
    rw [call_device, call_device, same, Handle.call_rebound looser bounded lives]
    · cases (session.device.call call).1 <;> rfl
    · intro field max actual refused
      exact clear field max actual (by rw [refused]; rfl)

theorem run_rebound (looser : tight.AtMost loose) (bounded : session.device.BoundedBy tight)
    {calls : List SessionCall} (alive : ∀ left, .device (.die left) ∉ calls)
    (clear : ∀ field max actual,
      .error (.device (.tooLong field max actual)) ∉ (session.run calls).1) :
    (session.rebound loose).run calls =
      ((session.run calls).1.map (Except.map (Reply.rebound loose)),
        (session.run calls).2.rebound loose) := by
  induction calls generalizing session with
  | nil => rfl
  | cons call calls ih =>
    have first : ∀ field max actual,
        (session.call call).1 ≠ .error (.device (.tooLong field max actual)) := by
      intro field max actual refused
      apply clear field max actual
      rw [← refused]
      exact List.mem_cons_self
    have lives : ∀ left, call ≠ .device (.die left) := by
      rintro left rfl
      exact alive left List.mem_cons_self
    have after : (session.call call).2.device.BoundedBy tight := run_keeps_bounds bounded [call]
    have last := ih after
      (fun left member => alive left (List.mem_cons_of_mem _ member))
      (fun field max actual member => clear field max actual (List.mem_cons_of_mem _ member))
    simp only [run, call_rebound looser bounded lives first]
    rw [last]
    rfl

theorem replies_take (session : Session) (calls : List SessionCall) (count : Nat) :
    (session.run (calls.take count)).1 = (session.run calls).1.take count := by
  induction calls generalizing session count with
  | nil => simp [run]
  | cons call calls ih =>
    cases count with
    | zero => rfl
    | succ count => exact congrArg (_ :: ·) (ih (session.call call).2 count)

theorem start_rebound (looser : tight.AtMost loose)
    (started : Session.start attributes tight = .ok start) :
    Session.start attributes loose = .ok (start.rebound loose) := by
  obtain rfl := eq_fresh_of_start started
  rw [start_eq] at started ⊢
  cases verdict : checkAll tight attributes.texts with
  | error e =>
    rw [verdict] at started
    cases started
  | ok =>
    rw [looser.checkAll verdict]
    rfl

/-- Attributes that start a session under some bounds start its twin under any looser ones. Make the
same calls to both, in whatever order, short of dying with the lock. As long as no call under the
tighter bounds reports a text as too long, session and twin answer every call alike, and after every
call they differ in nothing but the bounds. -/
theorem looser_bounds_answer_alike (looser : tight.AtMost loose)
    (started : Session.start attributes tight = .ok start) {calls : List SessionCall}
    (alive : ∀ left, .device (.die left) ∉ calls) :
    ∃ twin, Session.start attributes loose = .ok twin ∧
      ∀ count,
        (∀ field max actual,
          .error (.device (.tooLong field max actual)) ∉ (start.run calls).1.take count) →
        (twin.run calls).1.take count =
          ((start.run calls).1.take count).map (Except.map (Reply.rebound loose)) ∧
        (twin.run (calls.take count)).2 = (start.run (calls.take count)).2.rebound loose := by
  refine ⟨start.rebound loose, start_rebound looser started, fun count clear => ?_⟩
  have lives : ∀ left, .device (.die left) ∉ calls.take count :=
    fun left member => alive left (List.mem_of_mem_take member)
  simp only [← replies_take] at clear ⊢
  rw [run_rebound looser (boundedBy_of_start started) lives clear]
  exact ⟨rfl, rfl⟩

theorem renamed_mouse_answers_alike :
    let device : Descriptor :=
      .device { vendorId := 0x046d, productId := 0xc077, configurationCount := 1 }
    let attributes : Attributes := { name := "Мышь", port := "1-2.3" }
    let tight : Limits := { genericString := 8 }
    let calls : List SessionCall :=
      [.ingestAll [device, .configuration { value := 1 }], .device .snapshot,
        .device (.locked (.set .name "Мышка")), .rule true]
    let start := fresh attributes tight
    let twin := fresh attributes {}
    Session.start attributes tight = .ok start ∧
    (twin.run calls).1.take 2 =
      ((start.run calls).1.take 2).map (Except.map (Reply.rebound {})) ∧
    (start.run calls).1.map Except.isOk = [true, true, false, true] ∧
    (twin.run calls).1.map Except.isOk = [true, true, true, true] := by
  intro device attributes tight calls start twin
  have looser : tight.AtMost {} := by simp [Limits.AtMost, tight]
  have started : Session.start attributes tight = .ok start := rfl
  have alive : ∀ left, .device (.die left) ∉ calls := by simp [calls]
  have accepted : ∀ reply ∈ (start.run calls).1.take 2, reply.isOk = true := by decide +kernel
  obtain ⟨other, twinStarted, alike⟩ := looser_bounds_answer_alike looser started alive
  obtain rfl := eq_fresh_of_start twinStarted
  refine ⟨started, (alike 2 ?_).1, by decide +kernel, by decide +kernel⟩
  intro field max actual member
  cases accepted _ member

end Session

end UsbIdentity
