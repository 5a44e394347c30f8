import UsbIdentity.Proofs.Runs

/-!
# Failing closed

A session whose descriptor is refused is over, and so is the handle that it shares. The session's
state, the mark on the record and the poison of the lock say so separately; `Session.Closed` ties
them together through every run.
-/

namespace UsbIdentity

def SessionCall.ingests : SessionCall → Bool
  | .ingest _ => true
  | .ingestAll _ => true
  | _ => false

namespace Session

/-! ## The state of a session -/

theorem ingest_error_fails {session next : Session} {descriptor : Descriptor} {e : SessionError}
    (refused : session.ingest descriptor = (.error e, next)) : next.state = .failed := by
  rcases session.ingest_cases descriptor with
    ⟨failed, outcome⟩ | ⟨_, _, outcome⟩ | ⟨_, _, _, _, outcome⟩ | ⟨_, _, _, outcome⟩ <;>
    rw [outcome] at refused <;> cases refused
  · exact failed
  · rfl
  · rfl

theorem ingest_ok_keeps_state {session next : Session} {descriptor : Descriptor}
    (accepted : session.ingest descriptor = (.ok (), next)) : next.state = session.state := by
  rcases session.ingest_cases descriptor with
    ⟨_, outcome⟩ | ⟨_, _, outcome⟩ | ⟨_, _, _, _, outcome⟩ | ⟨_, _, _, outcome⟩ <;>
    rw [outcome] at accepted <;> cases accepted
  rfl

theorem ingestAll_error_iff {session : Session} (enumerating : session.state = .enumerating)
    (descriptors : List Descriptor) :
    (∃ e, (session.ingestAll descriptors).1 = .error e) ↔
      (session.ingestAll descriptors).2.state = .failed := by
  induction descriptors generalizing session with
  | nil => simp [ingestAll, enumerating]
  | cons descriptor rest ih =>
    simp only [ingestAll]
    split
    · next e next refused => simp [ingest_error_fails refused]
    · next next accepted =>
      have tail := ih ((ingest_ok_keeps_state accepted).trans enumerating)
      split
      · next e last refused => simpa [refused] using tail
      · next count last done => simpa [done] using tail

theorem call_fails_iff {session : Session} (enumerating : session.state = .enumerating)
    (call : SessionCall) :
    (session.call call).2.state = .failed ↔
      call.ingests = true ∧ ∃ e, (session.call call).1 = .error e := by
  cases call with
  | ingest descriptor =>
    rw [call_ingest]
    rcases outcome : session.ingest descriptor with ⟨e | _, next⟩
    · simp [SessionCall.ingests, Except.map, ingest_error_fails outcome]
    · simp [Except.map, ingest_ok_keeps_state outcome, enumerating]
  | ingestAll descriptors =>
    have verdict := ingestAll_error_iff enumerating descriptors
    rw [call_ingestAll]
    cases result : (session.ingestAll descriptors).1 <;>
      simpa [SessionCall.ingests, Except.map, result] using verdict.symm
  | rule includePort => simp [Session.call, SessionCall.ingests, enumerating]
  | device call => simp [call_device, SessionCall.ingests, enumerating]

theorem ingestAll_of_failed {session : Session} (failed : session.state = .failed)
    (descriptor : Descriptor) (rest : List Descriptor) :
    session.ingestAll (descriptor :: rest) = (.error .abandoned, session) := by
  simp [ingestAll, ingest_of_failed failed]

theorem failed_run {session : Session} (failed : session.state = .failed)
    (calls : List SessionCall) : (session.run calls).2.state = .failed := by
  apply run_keeps (P := fun session => session.state = .failed)
  · intro session descriptor failed
    rwa [ingest_of_failed failed]
  · exact fun _ _ failed => failed
  · exact failed

theorem run_fails_iff {session : Session} (enumerating : session.state = .enumerating)
    (calls : List SessionCall) :
    (session.run calls).2.state = .failed ↔
      ∃ before call after, calls = before ++ call :: after ∧ call.ingests = true ∧
        ∃ e, ((session.run before).2.call call).1 = .error e := by
  induction calls generalizing session with
  | nil => simp [run, enumerating]
  | cons call calls ih =>
    have last : (session.run (call :: calls)).2 = ((session.call call).2.run calls).2 := rfl
    rw [last]
    cases state : (session.call call).2.state with
    | failed =>
      have refused := (call_fails_iff enumerating call).1 state
      exact iff_of_true (failed_run state calls) ⟨[], call, calls, rfl, refused⟩
    | enumerating =>
      rw [ih state]
      constructor
      · rintro ⟨before, other, after, rfl, refused⟩
        exact ⟨call :: before, other, after, rfl, refused⟩
      · rintro ⟨before, other, after, split, ingests, refused⟩
        cases before with
        | nil =>
          obtain ⟨rfl, rfl⟩ := List.cons.inj split
          rw [(call_fails_iff enumerating call).2 ⟨ingests, refused⟩] at state
          cases state
        | cons first before =>
          obtain ⟨rfl, rfl⟩ := List.cons.inj split
          exact ⟨before, other, after, rfl, ingests, refused⟩

/-! ## The session and its handle -/

def Closed (session : Session) : Prop :=
  session.state = .failed → session.device.Unusable

theorem unusable_ingest {session : Session} (unusable : session.device.Unusable)
    (descriptor : Descriptor) : (session.ingest descriptor).2.device.Unusable := by
  rcases session.ingest_cases descriptor with
    ⟨_, outcome⟩ | ⟨_, _, outcome⟩ | ⟨_, _, _, _, outcome⟩ | ⟨_, unlocked, _, outcome⟩ <;>
    rw [outcome]
  · exact unusable
  · exact unusable
  · exact .inr rfl
  · exact .inr ((Record.failed_enumerate ..).trans (unusable.failed unlocked))

theorem unusable_run {session : Session} (unusable : session.device.Unusable)
    (calls : List SessionCall) : (session.run calls).2.device.Unusable := by
  apply run_keeps (P := fun session => session.device.Unusable)
  · exact fun _ descriptor unusable => unusable_ingest unusable descriptor
  · exact fun _ call unusable => Handle.unusable_call unusable call
  · exact unusable

theorem closed_ingest {session : Session} (closed : session.Closed) (descriptor : Descriptor) :
    (session.ingest descriptor).2.Closed := by
  rcases session.ingest_cases descriptor with
    ⟨_, outcome⟩ | ⟨_, poisoned, outcome⟩ | ⟨_, _, _, _, outcome⟩ |
    ⟨enumerating, _, _, outcome⟩ <;>
    rw [outcome]
  · exact closed
  · exact fun _ => .inl poisoned
  · exact fun _ => .inr rfl
  · intro failed
    rw [show (session.accept descriptor).state = session.state from rfl, enumerating] at failed
    cases failed

theorem closed_run {attributes : Attributes} {limits : Limits} {session : Session}
    (started : start attributes limits = .ok session) (calls : List SessionCall) :
    (session.run calls).2.Closed := by
  rw [eq_fresh_of_start started]
  apply run_keeps (P := Closed)
  · exact fun _ descriptor closed => closed_ingest closed descriptor
  · exact fun _ call closed failed => Handle.unusable_call (closed failed) call
  · intro failed
    cases failed

end Session

/-! ## After a refusal -/

/-- From the first descriptor that a session refuses, alone or in a row, it accepts no more, it
gives no rule, and nothing that is done to it or to its handle brings one out of the handle or out
of a copy of the record. -/
theorem refused_session_is_closed {attributes : Attributes} {limits : Limits} {start : Session}
    (started : Session.start attributes limits = .ok start) (before after : List SessionCall)
    (call : SessionCall) (ingests : call.ingests = true) {e : SessionError}
    (refused : ((start.run before).2.call call).1 = .error e) :
    let session := (start.run (before ++ call :: after)).2
    session.state = .failed ∧
    (∀ descriptor, session.ingest descriptor = (.error .abandoned, session)) ∧
    (∀ descriptor rest,
      session.ingestAll (descriptor :: rest) = (.error .abandoned, session)) ∧
    (∀ includePort, session.rule includePort = .error .abandoned) ∧
    (∀ includePort, session.device.rule includePort =
      .error (if session.device.poisoned then .poisoned else .enumerationFailed)) ∧
    (∀ includePort, (session.device.snapshot >>= fun copy => copy.toRule includePort) =
      .error (if session.device.poisoned then .poisoned else .enumerationFailed)) := by
  intro session
  have enumerating := Session.enumerating_of_start started
  have failed : session.state = .failed :=
    (Session.run_fails_iff enumerating _).2 ⟨before, call, after, rfl, ingests, e, refused⟩
  have unusable := Session.closed_run started (before ++ call :: after) failed
  refine ⟨failed, ?_, ?_, ?_, ?_, ?_⟩
  · exact Session.ingest_of_failed failed
  · exact Session.ingestAll_of_failed failed
  · intro includePort
    simp [Session.rule, failed]
  · exact Handle.rule_of_unusable unusable
  · -- A rule of the handle is the rule of a copy taken under the same lock.
    exact Handle.rule_of_unusable unusable

theorem early_endpoint_closes_mouse :
    let device : Descriptor :=
      .device { vendorId := 0x046d, productId := 0xc077, configurationCount := 1 }
    let endpoint : Descriptor := .endpoint { address := 0x81 }
    let start := Session.fresh { name := "USB Optical Mouse", port := "1-2.3" } {}
    let session := (start.run ([.ingest device] ++ .ingestAll [endpoint, device] ::
      [.device .hash, .device (.die (Record.empty {}))])).2
    Session.start { name := "USB Optical Mouse", port := "1-2.3" } {} = .ok start ∧
    session.ingest device = (.error .abandoned, session) ∧
    session.rule true = .error .abandoned ∧
    session.device.rule true = .error .poisoned := by
  intro device endpoint start session
  have started : Session.start { name := "USB Optical Mouse", port := "1-2.3" } {} = .ok start :=
    rfl
  have closed := refused_session_is_closed started [.ingest device]
    [.device .hash, .device (.die (Record.empty {}))] (.ingestAll [endpoint, device]) rfl
    (e := .device (.missingParent .endpoint .interface)) rfl
  exact ⟨started, closed.2.1 device, closed.2.2.2.1 true, closed.2.2.2.2.1 true⟩

/-! ## Marks from elsewhere -/

/-- A mark of failure on the record, whoever set it, keeps every descriptor out that comes through
the handle. A descriptor that comes through the session is kept out, and leaves everything but the
session's state as it was, unless the session itself has refused none before, the lock can be taken,
and bounds and log have room for the descriptor: then it is accepted as if there were no mark. -/
theorem marked_record_refuses_iff {attributes : Attributes} {limits : Limits} {start : Session}
    (started : Session.start attributes limits = .ok start) (calls later : List SessionCall)
    (marked : (start.run calls).2.device.record.failed = true) :
    let session := (start.run (calls ++ later)).2
    (session.device.poisoned = true ∨ session.device.record.failed = true) ∧
    (∀ {σ : Type} [Oracle σ] (oracle : σ) descriptor,
      session.device.ingest oracle descriptor =
        (.error (if session.device.poisoned then .poisoned else .enumerationFailed),
          session.device, oracle)) ∧
    (session.state = .failed ↔
      ∃ before call after, calls ++ later = before ++ call :: after ∧ call.ingests = true ∧
        ∃ e, ((start.run before).2.call call).1 = .error e) ∧
    (∀ descriptor,
      (∃ e, session.ingest descriptor = (.error e, { session with state := .failed })) ↔
        ¬(session.state = .enumerating ∧ session.device.poisoned = false ∧
          descriptor.Fits limits session.log)) ∧
    (∀ descriptor, session.state = .enumerating → session.device.poisoned = false →
      descriptor.Fits limits session.log →
      session.ingest descriptor = (.ok (), session.accept descriptor)) := by
  intro session
  have enumerating := Session.enumerating_of_start started
  have unusable : session.device.Unusable := by
    have last : session = ((start.run calls).2.run later).2 := Session.run_append ..
    rw [last]
    exact Session.unusable_run (.inr marked) later
  have bounded : session.device.BoundedBy limits := Session.boundedBy_run started _
  refine ⟨unusable, ?_, Session.run_fails_iff enumerating _, ?_, ?_⟩
  · intro σ _ oracle descriptor
    exact Handle.ingest_of_unusable unusable oracle descriptor
  · intro descriptor
    rcases session.ingest_cases descriptor with
      ⟨failed, outcome⟩ | ⟨_, poisoned, outcome⟩ | ⟨e, _, unlocked, refused, outcome⟩ |
      ⟨under, unlocked, fits, outcome⟩
    · exact iff_of_true ⟨_, by rw [outcome, ← failed]⟩ (by simp [failed])
    · exact iff_of_true ⟨_, outcome⟩ (by simp [poisoned])
    · have failed := unusable.failed unlocked
      have tight : ¬descriptor.Fits limits session.log := by
        rw [← bounded unlocked, ← Session.refusal?_eq_none_iff, refused]
        simp
      -- Marking a marked record changes nothing.
      have same : session.device.record.markFailed = session.device.record := by
        simp [Record.markFailed, ← failed]
      refine iff_of_true ⟨.device e, ?_⟩ (by simp [tight])
      rw [outcome, Session.abandon, same, Handle.withRecord]
    · rw [bounded unlocked] at fits
      refine iff_of_false ?_ (by simp [under, unlocked, fits])
      rintro ⟨e, refused⟩
      rw [outcome] at refused
      cases refused
  · intro descriptor under unlocked fits
    rw [← bounded unlocked] at fits
    exact Session.ingest_of_fits under unlocked fits

theorem marked_mouse_refuses_handle :
    let device : Descriptor :=
      .device { vendorId := 0x046d, productId := 0xc077, configurationCount := 1 }
    let configuration : Descriptor := .configuration { interfaceCount := 1, value := 1 }
    let start := Session.fresh { name := "USB Optical Mouse", port := "1-2.3" } {}
    let session := (start.run ([.device (.locked .markFailed)] ++ [.ingest device])).2
    (session.device.ingest session.log configuration).1 = .error .enumerationFailed ∧
    session.ingest configuration = (.ok (), session.accept configuration) := by
  intro device configuration start session
  have started : Session.start { name := "USB Optical Mouse", port := "1-2.3" } {} = .ok start :=
    rfl
  have outcome := marked_record_refuses_iff started [.device (.locked .markFailed)]
    [.ingest device] rfl
  exact ⟨by rw [outcome.2.1]; rfl, outcome.2.2.2.2 configuration rfl rfl ⟨nofun, rfl⟩⟩

/-- A mark from elsewhere does not keep a session from storing the ids of the device that it was set
for. -/
theorem marked_record_still_loads :
    let device : Descriptor :=
      .device { vendorId := 0x046d, productId := 0xc077, configurationCount := 1 }
    let start := Session.fresh { name := "USB Optical Mouse", port := "1-2.3" } {}
    let marked := (start.run [.device (.locked .markFailed)]).2
    Session.start { name := "USB Optical Mouse", port := "1-2.3" } {} = .ok start ∧
    marked.device.record.failed = true ∧
    (marked.ingest device).1 = .ok () ∧
    marked.device.record.vendorId = "" ∧
    (marked.ingest device).2.device.record.vendorId = "046d" ∧
    (marked.ingest device).2.log.accepted = [device] := by
  intro device start marked
  exact ⟨rfl, rfl, rfl, rfl, by decide, rfl⟩

end UsbIdentity
