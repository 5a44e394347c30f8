import UsbIdentity.Proofs.Replay

namespace UsbIdentity

namespace Handle

inductive Step where
  | edit (call : RecordCall)
  | offer {σ : Type} [Oracle σ] (oracle : σ) (descriptor : Descriptor)

structure Offer where
  descriptor : Descriptor
  accepted : Bool
  forgotten : List Kind
  deriving DecidableEq, Repr

def step (handle : Handle) : Step → List Offer × Handle
  | .edit call => ([], (handle.update (·.call call)).2)
  | @Step.offer _ _ oracle descriptor =>
    let (result, next, _) := handle.ingest oracle descriptor
    let watched := (handle.ingest (⟨oracle, []⟩ : Watched _) descriptor).2.2
    ([⟨descriptor, result.isOk, watched.forgotten⟩], next)

def history (handle : Handle) (steps : List Step) : List Offer × Handle :=
  steps.foldl (fun past step =>
    let (offers, next) := past.2.step step
    (past.1 ++ offers, next)) ([], handle)

theorem history_concat (handle : Handle) (steps : List Step) (step : Step) :
    handle.history (steps ++ [step]) =
      ((handle.history steps).1 ++ ((handle.history steps).2.step step).1,
        ((handle.history steps).2.step step).2) := by
  simp only [history, List.foldl_append, List.foldl_cons, List.foldl_nil]

end Handle

def Kind.forgets : Kind → List Kind
  | .configuration => [.interface, .endpoint]
  | _ => []

theorem Kind.placed_watched {σ : Type} [Oracle σ] (oracle : σ) (seen : List Kind) (kind : Kind) :
    kind.placed (⟨oracle, seen⟩ : Watched σ) = kind.placed oracle := by
  cases kind <;> rfl

theorem Kind.forgotten_restart {σ : Type} [Oracle σ] (oracle : σ) (kind : Kind) :
    (kind.restart (⟨oracle, []⟩ : Watched σ)).forgotten = kind.forgets := by
  cases kind <;> rfl

namespace Handle

/-! ## One step -/

variable {handle : Handle}

theorem step_edit (unlocked : handle.poisoned = false) (call : RecordCall) :
    handle.step (.edit call) = ([], handle.withRecord (handle.record.call call).2) := by
  simp only [step, update, lock_of_unlocked unlocked]

theorem ingest_ok_iff (unlocked : handle.poisoned = false) {σ : Type} [Oracle σ] (oracle : σ)
    (descriptor : Descriptor) :
    (handle.ingest oracle descriptor).1 = .ok () ↔
      handle.record.failed = false ∧ descriptor.kind.placed oracle = true := by
  rw [ingest_eq, unlocked]
  cases failed : handle.record.failed <;> cases place : descriptor.kind.placed oracle <;> simp

theorem step_offer (unlocked : handle.poisoned = false) {σ : Type} [Oracle σ] (oracle : σ)
    (descriptor : Descriptor) :
    handle.step (.offer oracle descriptor) =
      if handle.record.failed then ([⟨descriptor, false, []⟩], handle)
      else if descriptor.kind.placed oracle then
        ([⟨descriptor, true, descriptor.kind.forgets⟩],
          handle.withRecord (handle.record.absorb descriptor))
      else ([⟨descriptor, false, []⟩], handle.withRecord handle.record.markFailed) := by
  simp only [step, ingest_eq, unlocked, Bool.false_eq_true, if_false, Kind.placed_watched]
  split
  · rfl
  · split
    · simp only [Kind.forgotten_restart]
      rfl
    · rfl

end Handle

/-! ## What descriptors leave alone -/

namespace Record

def undescribed (record : Record) : Record :=
  { record with interfaceTypes := [], configurationCount := -1, failed := false }

theorem undescribed_absorb (record : Record) (descriptor : Descriptor) :
    (record.absorb descriptor).undescribed = record.undescribed := by
  cases descriptor <;> rfl

theorem undescribed_call (record : Record) (call : RecordCall) :
    (record.call call).2.undescribed = (record.undescribed.call call).2.undescribed := by
  cases call with
  | set field value =>
    have bounds : record.undescribed.limits = record.limits := rfl
    simp only [Record.call, set, bounds]
    cases record.limits.check field value with
    | error e => rfl
    | ok => cases field <;> rfl
  | _ => rfl

theorem described_call (record : Record) (call : RecordCall) :
    (record.call call).2.configurationCount = record.configurationCount ∧
      (record.call call).2.interfaceTypes = record.interfaceTypes := by
  cases call with
  | set field value =>
    simp only [Record.call, set]
    cases record.limits.check field value with
    | error e => exact ⟨rfl, rfl⟩
    | ok => cases field <;> exact ⟨rfl, rfl⟩
  | _ => exact ⟨rfl, rfl⟩

theorem failed_call_iff (record : Record) (call : RecordCall) :
    (record.call call).2.failed = true ↔ record.failed = true ∨ call = .markFailed := by
  cases call with
  | set field value =>
    simp only [Record.call, set]
    cases record.limits.check field value with
    | error e => simp
    | ok => simp
  | markFailed => simp [Record.call, markFailed]
  | _ => simp [Record.call]

def edited (record : Record) (steps : List Handle.Step) : Record :=
  steps.foldl (fun record step =>
    match step with
    | .edit call => (record.call call).2
    | _ => record) record

theorem edited_concat (record : Record) (steps : List Handle.Step) (step : Handle.Step) :
    record.edited (steps ++ [step]) =
      match step with
      | .edit call => ((record.edited steps).call call).2
      | _ => record.edited steps := by
  simp only [edited, List.foldl_append, List.foldl_cons, List.foldl_nil]

end Record

/-! ## A whole history -/

namespace Handle

def accepted (offers : List Offer) : List Descriptor :=
  (offers.filter (·.accepted)).map (·.descriptor)

theorem accepted_concat (offers : List Offer) (offer : Offer) :
    accepted (offers ++ [offer]) =
      accepted offers ++ if offer.accepted then [offer.descriptor] else [] := by
  simp only [accepted, List.filter_append, List.map_append]
  cases verdict : offer.accepted <;> simp [verdict]

structure Accounts (record : Record) (steps : List Step) (offers : List Offer) (now : Handle) :
    Prop where
  unlocked : now.poisoned = false
  failed : now.record.failed = true ↔
    record.failed = true ∨ (∃ offer ∈ offers, offer.accepted = false) ∨ .edit .markFailed ∈ steps
  count : now.record.configurationCount =
    ((accepted offers).foldl Record.absorb record).configurationCount
  types : now.record.interfaceTypes =
    ((accepted offers).foldl Record.absorb record).interfaceTypes
  forgotten : ∀ offer ∈ offers,
    offer.forgotten = if offer.accepted then offer.descriptor.kind.forgets else []
  undescribed : now.record.undescribed = (record.edited steps).undescribed

variable {record : Record} {steps : List Step} {offers : List Offer} {now : Handle}

theorem accounts_nil (record : Record) : Accounts record [] [] ⟨record, false⟩ where
  unlocked := rfl
  failed := by simp
  count := rfl
  types := rfl
  forgotten := by simp
  undescribed := rfl

theorem Accounts.edit (accounts : Accounts record steps offers now) (call : RecordCall) :
    Accounts record (steps ++ [.edit call]) offers
      (now.withRecord (now.record.call call).2) where
  unlocked := accounts.unlocked
  failed := by
    rw [record_withRecord, Record.failed_call_iff, accounts.failed]
    simp only [List.mem_append, List.mem_singleton, Step.edit.injEq, or_assoc, eq_comm (a := call)]
  count := (now.record.described_call call).1.trans accounts.count
  types := (now.record.described_call call).2.trans accounts.types
  forgotten := accounts.forgotten
  undescribed := by
    rw [record_withRecord, Record.edited_concat, Record.undescribed_call, accounts.undescribed,
      ← Record.undescribed_call]

theorem Accounts.accept (accounts : Accounts record steps offers now) {σ : Type} [Oracle σ]
    (oracle : σ) (descriptor : Descriptor) :
    Accounts record (steps ++ [.offer oracle descriptor])
      (offers ++ [⟨descriptor, true, descriptor.kind.forgets⟩])
      (now.withRecord (now.record.absorb descriptor)) where
  unlocked := accounts.unlocked
  failed := by
    have earlier := accounts.failed
    rw [record_withRecord, Record.failed_absorb, earlier]
    simp
  count := by
    rw [accepted_concat]
    simp only [if_true, List.foldl_append, List.foldl_cons, List.foldl_nil]
    cases descriptor with
    | device device => rfl
    | _ => exact accounts.count
  types := by
    rw [accepted_concat]
    simp only [if_true, List.foldl_append, List.foldl_cons, List.foldl_nil]
    cases descriptor with
    | device device => rfl
    | interface announced =>
      exact congrArg (· ++ [InterfaceType.ofDescriptor announced]) accounts.types
    | _ => exact accounts.types
  forgotten := List.forall_mem_append.2 ⟨accounts.forgotten, List.forall_mem_singleton.2 rfl⟩
  undescribed := by
    rw [record_withRecord, Record.edited_concat, Record.undescribed_absorb]
    exact accounts.undescribed

theorem Accounts.refuse (accounts : Accounts record steps offers now) {σ : Type} [Oracle σ]
    (oracle : σ) (descriptor : Descriptor) :
    Accounts record (steps ++ [.offer oracle descriptor])
      (offers ++ [⟨descriptor, false, []⟩]) (now.withRecord now.record.markFailed) where
  unlocked := accounts.unlocked
  failed := by simp [Record.markFailed]
  count := by
    rw [accepted_concat]
    simpa [Record.markFailed] using accounts.count
  types := by
    rw [accepted_concat]
    simpa [Record.markFailed] using accounts.types
  forgotten := List.forall_mem_append.2 ⟨accounts.forgotten, List.forall_mem_singleton.2 rfl⟩
  undescribed := by
    rw [Record.edited_concat]
    exact accounts.undescribed

theorem Accounts.step (accounts : Accounts record steps offers now) (step : Step) :
    Accounts record (steps ++ [step]) (offers ++ (now.step step).1) (now.step step).2 := by
  cases step with
  | edit call =>
    rw [step_edit accounts.unlocked, List.append_nil]
    exact accounts.edit call
  | offer oracle descriptor =>
    rw [step_offer accounts.unlocked]
    cases failed : now.record.failed with
    | true =>
      -- Marking a marked record changes nothing.
      have same : now.withRecord now.record.markFailed = now := by
        simp [withRecord, Record.markFailed, ← failed]
      have refused := accounts.refuse oracle descriptor
      rw [same] at refused
      exact refused
    | false =>
      cases place : descriptor.kind.placed oracle with
      | true => exact accounts.accept oracle descriptor
      | false => exact accounts.refuse oracle descriptor

theorem accounts_history (record : Record) (steps : List Step) :
    Accounts record steps ((⟨record, false⟩ : Handle).history steps).1
      ((⟨record, false⟩ : Handle).history steps).2 := by
  induction steps using List.reverseRecOn with
  | nil => exact accounts_nil record
  | append_singleton steps step ih =>
    rw [history_concat]
    exact ih.step step

variable {device : DeviceDescriptor} {before after : List Descriptor}

theorem Accounts.described_of_no_device (accounts : Accounts record steps offers now)
    (below : .device ∉ (accepted offers).map Descriptor.kind) :
    now.record.configurationCount = record.configurationCount ∧
      now.record.interfaceTypes =
        record.interfaceTypes ++ (accepted offers).filterMap Descriptor.interfaceType? := by
  rw [accounts.count, accounts.types, Record.foldl_absorb_of_no_device record below]
  exact ⟨rfl, rfl⟩

theorem Accounts.described_of_device (accounts : Accounts record steps offers now)
    (split : accepted offers = before ++ .device device :: after)
    (below : .device ∉ after.map Descriptor.kind) :
    now.record.configurationCount = Int32.ofNat device.configurationCount.toNat ∧
      now.record.interfaceTypes = after.filterMap Descriptor.interfaceType? := by
  rw [accounts.count, accounts.types, split, List.foldl_append, List.foldl_cons,
    Record.foldl_absorb_of_no_device _ below]
  exact ⟨rfl, rfl⟩

/-- At any point of any history, a descriptor is accepted exactly if the record is not marked and
the oracle that comes with it has a place for it, and its oracle is told to forget the levels below
a configuration that is accepted, and nothing else. The record is marked if it was at first, if any
offer was refused, or by an edit. It holds the count of the last device accepted and the types of
the interfaces accepted since, after those that it had if there was no device. All else in it is as
the edits alone would have left it. -/
theorem history_accounts_for_record (record : Record) (steps : List Step) :
    let start : Handle := ⟨record, false⟩
    let offers := (start.history steps).1
    let now := (start.history steps).2
    (∀ {σ : Type} [Oracle σ] (oracle : σ) (descriptor : Descriptor),
      ((now.ingest oracle descriptor).1 = .ok () ↔
        now.record.failed = false ∧ descriptor.kind.placed oracle = true) ∧
      ∃ offer, (start.history (steps ++ [.offer oracle descriptor])).1 = offers ++ [offer] ∧
        offer.descriptor = descriptor ∧
        (offer.accepted = true ↔ (now.ingest oracle descriptor).1 = .ok ())) ∧
    (∀ offer ∈ offers, offer.forgotten =
      if offer.accepted = true ∧ offer.descriptor.kind = .configuration then
        [.interface, .endpoint]
      else []) ∧
    (now.record.failed = true ↔ record.failed = true ∨
      (∃ offer ∈ offers, offer.accepted = false) ∨ .edit .markFailed ∈ steps) ∧
    (.device ∉ (accepted offers).map Descriptor.kind →
      now.record.configurationCount = record.configurationCount ∧
      now.record.interfaceTypes =
        record.interfaceTypes ++ (accepted offers).filterMap Descriptor.interfaceType?) ∧
    (∀ before device after, accepted offers = before ++ .device device :: after →
      .device ∉ after.map Descriptor.kind →
      now.record.configurationCount = Int32.ofNat device.configurationCount.toNat ∧
      now.record.interfaceTypes = after.filterMap Descriptor.interfaceType?) ∧
    now.record.undescribed = (record.edited steps).undescribed := by
  intro start offers now
  have accounts : Accounts record steps offers now := accounts_history record steps
  refine ⟨?_, ?_, accounts.failed, accounts.described_of_no_device, ?_, accounts.undescribed⟩
  · intro σ _ oracle descriptor
    have verdict := ingest_ok_iff accounts.unlocked oracle descriptor
    refine ⟨verdict, ?_⟩
    rw [history_concat, step_offer accounts.unlocked, verdict]
    cases failed : now.record.failed with
    | true => exact ⟨_, rfl, rfl, by simp⟩
    | false =>
      cases place : descriptor.kind.placed oracle with
      | true => exact ⟨_, rfl, rfl, by simp⟩
      | false => exact ⟨_, rfl, rfl, by simp⟩
  · intro offer member
    rw [accounts.forgotten offer member]
    cases offer.accepted <;> cases offer.descriptor.kind <;> rfl
  · intro before device after split below
    exact accounts.described_of_device split below

theorem forgetful_oracle_accounts_for_mouse :
    let device : Descriptor :=
      .device { vendorId := 0x046d, productId := 0xc077, configurationCount := 1 }
    let interface : Descriptor := .interface { classCode := 3, subclass := 1, protocol := 2 }
    let steps : List Step :=
      [.offer (KindMemory.ofList []) device, .edit (.setId 7),
        .offer (KindMemory.ofList [.configuration]) interface,
        .offer (KindMemory.ofList []) (.endpoint { address := 0x81 })]
    let now := ((⟨Record.empty {}, false⟩ : Handle).history steps).2
    now.record.configurationCount = 1 ∧
    now.record.interfaceTypes = [InterfaceType.exact 3 1 2] ∧
    now.record.id = 7 ∧
    (now.ingest (KindMemory.ofList []) device).1 ≠ .ok () := by
  intro device interface steps now
  obtain ⟨next, _, failed, _, described, undescribed⟩ :=
    history_accounts_for_record (Record.empty {}) steps
  have marked : now.record.failed = true := by
    refine failed.2 (.inr (.inl ⟨⟨.endpoint { address := 0x81 }, false, []⟩, ?_, rfl⟩))
    decide
  obtain ⟨count, types⟩ := described [] _ [interface] rfl (by decide)
  refine ⟨count, types, congrArg Record.id undescribed, ?_⟩
  intro accepted
  have unmarked := ((next (KindMemory.ofList []) device).1.1 accepted).1
  cases marked.symm.trans unmarked

end Handle

end UsbIdentity
