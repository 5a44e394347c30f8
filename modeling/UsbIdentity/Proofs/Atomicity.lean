import UsbIdentity.Proofs.Acceptance

namespace UsbIdentity

variable {σ : Type} [Oracle σ]

namespace Record

theorem load_error_unchanged {record after : Record} {oracle left : σ} {descriptor : Descriptor}
    {e : DeviceError} (refused : record.load oracle descriptor = (.error e, after, left)) :
    after = record ∧ left = oracle := by
  rw [load_eq] at refused
  split at refused <;> cases refused
  exact ⟨rfl, rfl⟩

theorem limits_of_load {record after : Record} {oracle left : σ} {descriptor : Descriptor}
    {result : Except DeviceError Unit}
    (loaded : record.load oracle descriptor = (result, after, left)) :
    after.limits = record.limits := by
  rw [load_eq] at loaded
  split at loaded <;> cases loaded
  · exact limits_absorb record descriptor
  · rfl

theorem setAll_of_load {record after : Record} {oracle left : σ} {descriptor : Descriptor}
    {result : Except DeviceError Unit} {texts : List (Field × String)}
    (fit : Session.checkAll record.limits texts = .ok ())
    (loaded : record.load oracle descriptor = (result, after, left)) :
    after.setAll texts = (.ok (), after.putAll texts) := by
  rw [← limits_of_load loaded] at fit
  exact setAll_of_checkAll fit

end Record

theorem Handle.ingest_error_marks {handle after : Handle} {oracle left : σ}
    {descriptor : Descriptor} {e : DeviceError}
    (refused : handle.ingest oracle descriptor = (.error e, after, left)) :
    left = oracle ∧
      after = if e = .enumerationFailed ∨ e = .poisoned then handle
        else handle.withRecord handle.record.markFailed := by
  rw [ingest_eq] at refused
  split at refused
  · cases refused
    simp
  · split at refused
    · cases refused
      simp
    · split at refused <;> cases refused
      -- A misplacement is structural, and neither of the two excepted refusals is.
      have structural := descriptor.kind.isStructural_misplacement
      have other : ¬(descriptor.kind.misplacement = .enumerationFailed ∨
          descriptor.kind.misplacement = .poisoned) := by
        rintro (same | same) <;> rw [same] at structural <;> cases structural
      exact ⟨rfl, (if_neg other).symm⟩

theorem Session.ingest_error_marks {session after : Session} {descriptor : Descriptor}
    {e : SessionError} (enumerating : session.state = .enumerating)
    (refused : session.ingest descriptor = (.error e, after)) :
    after.log = session.log ∧ after.state = .failed ∧
      after.device = if e = .device .poisoned then session.device
        else session.device.withRecord session.device.record.markFailed := by
  rcases session.ingest_cases descriptor with
    ⟨failed, outcome⟩ | ⟨_, _, outcome⟩ | ⟨cause, _, _, reason, outcome⟩ | ⟨_, _, _, outcome⟩ <;>
    rw [outcome] at refused
  · rw [failed] at enumerating
    cases enumerating
  · cases refused
    exact ⟨rfl, rfl, by simp⟩
  · cases refused
    have other : cause ≠ .poisoned := fun same => refusal?_ne_poisoned (same ▸ reason)
    exact ⟨rfl, rfl, by simp [other, abandon]⟩
  · cases refused

theorem Session.ingest_ok_accepts {session after : Session} {descriptor : Descriptor}
    (accepted : session.ingest descriptor = (.ok (), after)) :
    after = session.accept descriptor := by
  rcases session.ingest_cases descriptor with
    ⟨_, outcome⟩ | ⟨_, _, outcome⟩ | ⟨_, _, _, _, outcome⟩ | ⟨_, _, _, outcome⟩ <;>
    rw [outcome] at accepted <;> cases accepted
  rfl

/-- A record refuses a descriptor without a trace, in itself and in its oracle, which is not even
told to forget anything. A handle and a session leave nothing but the mark of failure, and not even
that where there was no new refusal to mark. Ids that were checked before a descriptor was loaded
are stored after it without fail, so what a session accepts, it applies whole. -/
theorem refusal_changes_only_mark (record : Record) (handle : Handle) (session : Session)
    (oracle : σ) (forgotten : List Kind) (descriptor : Descriptor) :
    (∀ e after left, record.load oracle descriptor = (.error e, after, left) →
      after = record ∧ left = oracle) ∧
    (∀ e after (left : Watched σ),
      record.load (⟨oracle, forgotten⟩ : Watched σ) descriptor = (.error e, after, left) →
      left.forgotten = forgotten) ∧
    (∀ e after left, handle.ingest oracle descriptor = (.error e, after, left) →
      left = oracle ∧
        after = if e = .enumerationFailed ∨ e = .poisoned then handle
          else handle.withRecord handle.record.markFailed) ∧
    (session.state = .enumerating → ∀ e after,
      session.ingest descriptor = (.error e, after) →
      after.log = session.log ∧ after.state = .failed ∧
        after.device = if e = .device .poisoned then session.device
          else session.device.withRecord session.device.record.markFailed) ∧
    (∀ after left, Session.checkAll record.limits (Session.idsOf descriptor) = .ok () →
      record.load oracle descriptor = (.ok (), after, left) →
      (after.setAll (Session.idsOf descriptor)).1 = .ok ()) ∧
    (∀ after, session.ingest descriptor = (.ok (), after) → after = session.accept descriptor) := by
  refine ⟨?_, ?_, ?_, ?_, ?_, ?_⟩
  · intro e after left refused
    exact Record.load_error_unchanged refused
  · intro e after left refused
    rw [(Record.load_error_unchanged refused).2]
  · intro e after left refused
    exact Handle.ingest_error_marks refused
  · intro enumerating e after refused
    exact Session.ingest_error_marks enumerating refused
  · intro after left fit loaded
    rw [Record.setAll_of_load fit loaded]
  · intro after accepted
    exact Session.ingest_ok_accepts accepted

theorem early_endpoint_only_marks :
    let endpoint : Descriptor := .endpoint { address := 0x81 }
    let device : Descriptor :=
      .device { vendorId := 0x046d, productId := 0xc077, configurationCount := 1 }
    let session : Session := ⟨⟨Record.empty {}, false⟩, .empty, .enumerating⟩
    (session.ingest endpoint).1 = .error (.device (.missingParent .endpoint .interface)) ∧
    (session.ingest endpoint).2.log = .empty ∧
    (session.ingest endpoint).2.device = ⟨(Record.empty {}).markFailed, false⟩ ∧
    (session.device.ingest session.log endpoint).2.2 = session.log ∧
    (session.device.record.load session.log endpoint).2.1 = session.device.record ∧
    (session.ingest device).2 = session.accept device := by
  intro endpoint device session
  have refused := refusal_changes_only_mark session.device.record session.device session
    session.log [] endpoint
  have accepted := refusal_changes_only_mark session.device.record session.device session
    session.log [] device
  obtain ⟨record, _, handle, marks, _, _⟩ := refused
  have marked := marks rfl (.device (.missingParent .endpoint .interface)) _ rfl
  exact ⟨rfl, marked.1, marked.2.2, (handle _ _ _ rfl).1, (record _ _ _ rfl).1,
    accepted.2.2.2.2.2 _ rfl⟩

end UsbIdentity
