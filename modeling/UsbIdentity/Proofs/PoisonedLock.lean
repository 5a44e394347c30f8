import UsbIdentity.Proofs.Runs

namespace UsbIdentity

namespace SessionState

def refusal : SessionState → SessionError
  | .enumerating => .device .poisoned
  | .failed => .abandoned

def refusalOfRule (state : SessionState) (log : DescriptorLog) : SessionError :=
  match state with
  | .failed => .abandoned
  | .enumerating => if log.has .device then .device .poisoned else .incomplete

def unread (state : SessionState) (log : DescriptorLog) :
    SessionCall → Except SessionError Reply × SessionState
  | .ingest _ => (.error state.refusal, .failed)
  | .ingestAll [] => (.ok (.count 0), state)
  | .ingestAll (_ :: _) => (.error state.refusal, .failed)
  | .rule _ => (.error (state.refusalOfRule log), state)
  | .device _ => (.error (.device .poisoned), state)

def unreadRun (state : SessionState) (log : DescriptorLog) :
    List SessionCall → List (Except SessionError Reply) × SessionState
  | [] => ([], state)
  | call :: calls =>
    let (reply, next) := state.unread log call
    let (replies, last) := next.unreadRun log calls
    (reply :: replies, last)

theorem unread_withholds (state : SessionState) (log : DescriptorLog) (call : SessionCall) :
    (state.unread log call).1 = .ok (.count 0) ∨ ∃ e, (state.unread log call).1 = .error e := by
  cases call with
  | ingestAll descriptors =>
    cases descriptors with
    | nil => exact .inl rfl
    | cons descriptor rest => exact .inr ⟨_, rfl⟩
  | _ => exact .inr ⟨_, rfl⟩

theorem unreadRun_withholds (state : SessionState) (log : DescriptorLog)
    (calls : List SessionCall) :
    ∀ reply ∈ (state.unreadRun log calls).1, reply = .ok (.count 0) ∨ ∃ e, reply = .error e := by
  induction calls generalizing state with
  | nil => exact List.forall_mem_nil _
  | cons call calls ih =>
    intro reply member
    rcases List.mem_cons.1 member with rfl | later
    · exact state.unread_withholds log call
    · exact ih _ reply later

end SessionState

namespace Session

variable {session : Session}

theorem ingest_unread (poisoned : session.device.poisoned = true) (descriptor : Descriptor) :
    session.ingest descriptor =
      (.error session.state.refusal, { session with state := .failed }) := by
  cases state : session.state with
  | enumerating => exact ingest_of_poisoned state poisoned descriptor
  | failed =>
    have same : { session with state := .failed } = session := by rw [← state]
    rw [ingest_of_failed state, same]
    rfl

theorem rule_unread (poisoned : session.device.poisoned = true) (includePort : Bool) :
    session.rule includePort = .error (session.state.refusalOfRule session.log) := by
  have withheld : session.device.rule includePort = .error .poisoned := by
    rw [Handle.rule_of_unusable (.inl poisoned), poisoned]
    rfl
  unfold rule SessionState.refusalOfRule
  cases session.state with
  | failed => rfl
  | enumerating =>
    cases session.log.has .device with
    | false => rfl
    | true => simp only [withheld, if_true]

theorem call_of_poisoned (poisoned : session.device.poisoned = true) (call : SessionCall) :
    session.call call =
      ((session.state.unread session.log call).1,
        { session with state := (session.state.unread session.log call).2 }) := by
  cases call with
  | ingest descriptor =>
    simp only [Session.call, ingest_unread poisoned]
    rfl
  | ingestAll descriptors =>
    cases descriptors with
    | nil => rfl
    | cons descriptor rest =>
      simp only [Session.call, ingestAll, ingest_unread poisoned]
      rfl
  | rule includePort =>
    simp only [Session.call, rule_unread poisoned]
    rfl
  | device call =>
    simp only [Session.call, Handle.call_of_poisoned poisoned]
    rfl

theorem run_of_poisoned (poisoned : session.device.poisoned = true) (calls : List SessionCall) :
    session.run calls =
      ((session.state.unreadRun session.log calls).1,
        { session with state := (session.state.unreadRun session.log calls).2 }) := by
  induction calls generalizing session with
  | nil => rfl
  | cons call calls ih =>
    -- Only the state has changed, so the lock is as poisoned as before.
    have rest := @ih { session with state := (session.state.unread session.log call).2 } poisoned
    simp only [run, call_of_poisoned poisoned, rest]
    rfl

end Session

/-- Let two sessions have poisoned locks, the same log and the same state, and any two records. Any
calls get the same answers from both, none of them a record, a hash or a rule, and leave both with
the same log and state, and both records alone. From then on too the handle refuses every call, an
oracle that is brought to it comes back as it was, and the first descriptor that a session is given
ends it. -/
theorem torn_record_is_never_used {session twin : Session}
    (poisoned : session.device.poisoned = true) (alike : twin.device.poisoned = true)
    (log : session.log = twin.log) (state : session.state = twin.state)
    (calls : List SessionCall) :
    let last := (session.run calls).2
    let lastOfTwin := (twin.run calls).2
    (session.run calls).1 = (twin.run calls).1 ∧
    (∀ reply ∈ (session.run calls).1, reply = .ok (.count 0) ∨ ∃ e, reply = .error e) ∧
    last.log = lastOfTwin.log ∧ last.state = lastOfTwin.state ∧
    last.device = session.device ∧ lastOfTwin.device = twin.device ∧
    (∀ call, last.device.call call = (.error .poisoned, last.device) ∧
      lastOfTwin.device.call call = (.error .poisoned, lastOfTwin.device)) ∧
    (∀ {σ : Type} [Oracle σ] (oracle : σ) descriptor,
      last.device.ingest oracle descriptor = (.error .poisoned, last.device, oracle) ∧
        lastOfTwin.device.ingest oracle descriptor =
          (.error .poisoned, lastOfTwin.device, oracle)) ∧
    (last.state = .enumerating → ∀ descriptor,
      last.ingest descriptor = (.error (.device .poisoned), { last with state := .failed }) ∧
        lastOfTwin.ingest descriptor =
          (.error (.device .poisoned), { lastOfTwin with state := .failed })) := by
  intro last lastOfTwin
  have run := Session.run_of_poisoned poisoned calls
  have runOfTwin := Session.run_of_poisoned alike calls
  rw [← log, ← state] at runOfTwin
  have device : last.device = session.device := congrArg (·.2.device) run
  have deviceOfTwin : lastOfTwin.device = twin.device := congrArg (·.2.device) runOfTwin
  have states : last.state = lastOfTwin.state := by
    show (session.run calls).2.state = (twin.run calls).2.state
    rw [run, runOfTwin]
  rw [← device] at poisoned
  rw [← deviceOfTwin] at alike
  refine ⟨?_, ?_, ?_, states, device, deviceOfTwin, ?_, ?_, ?_⟩
  · rw [run, runOfTwin]
  · rw [run]
    exact session.state.unreadRun_withholds session.log calls
  · show (session.run calls).2.log = (twin.run calls).2.log
    rw [run, runOfTwin]
  · intro call
    exact ⟨Handle.call_of_poisoned poisoned call, Handle.call_of_poisoned alike call⟩
  · intro σ _ oracle descriptor
    rw [Handle.ingest_of_unusable (.inl poisoned), Handle.ingest_of_unusable (.inl alike), poisoned,
      alike]
    exact ⟨rfl, rfl⟩
  · intro enumerating descriptor
    exact ⟨Session.ingest_of_poisoned enumerating poisoned descriptor,
      Session.ingest_of_poisoned (states ▸ enumerating) alike descriptor⟩

theorem torn_mouse_is_never_used :
    let device : Descriptor :=
      .device { vendorId := 0x046d, productId := 0xc077, configurationCount := 1 }
    let mouse := (Session.fresh { name := "USB Optical Mouse", port := "1-2.3" } {}).accept device
    let session := (mouse.call (.device (.die (Record.empty {})))).2
    let twin := (mouse.call (.device (.die { mouse.device.record with name := "USB Op" }))).2
    let calls : List SessionCall :=
      [.rule true, .device .snapshot, .device (.locked .hash), .ingestAll [],
        .device (.ingest mouse.log device), .ingestAll [device, device], .rule false]
    session.device.record ≠ twin.device.record ∧
    (session.run calls).1 =
      [.error (.device .poisoned), .error (.device .poisoned), .error (.device .poisoned),
        .ok (.count 0), .error (.device .poisoned), .error (.device .poisoned),
        .error .abandoned] ∧
    (session.run calls).1 = (twin.run calls).1 ∧ (twin.run calls).2.device = twin.device := by
  intro device mouse session twin calls
  have poisoned : session.device.poisoned = true := rfl
  have alike : twin.device.poisoned = true := rfl
  obtain ⟨replies, _, _, _, _, record, _⟩ :=
    torn_record_is_never_used poisoned alike rfl rfl calls
  exact ⟨by decide, rfl, replies, record⟩

end UsbIdentity
