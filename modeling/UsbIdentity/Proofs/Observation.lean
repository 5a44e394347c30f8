import UsbIdentity.Proofs.Replay

namespace UsbIdentity

namespace IngestState

/-- What a kind leads to from a level, or why it has no place there. -/
def answer : IngestState → Kind → Except DeviceError IngestState
  | .noDevice, .device => .ok .hasDevice
  | _, .device => .error (.duplicateDescriptor .device)
  | .noDevice, .configuration => .error (.missingParent .configuration .device)
  | _, .configuration => .ok .hasConfiguration
  | .noDevice, .interface => .error (.missingParent .interface .configuration)
  | .hasDevice, .interface => .error (.missingParent .interface .configuration)
  | .hasEndpoint, .interface => .ok .hasEndpoint
  | _, .interface => .ok .hasInterface
  | .hasInterface, .endpoint => .ok .hasEndpoint
  | .hasEndpoint, .endpoint => .ok .hasEndpoint
  | _, .endpoint => .error (.missingParent .endpoint .interface)

theorem answer_eq (state : IngestState) (kind : Kind) :
    state.answer kind =
      match state.next? kind with
      | some next => .ok next
      | none => .error kind.misplacement := by
  cases kind <;> cases state <;> rfl

theorem parent_mem_levels {state : IngestState} {child parent : Kind}
    (above : child.parent? = some parent) (present : child ∈ state.levels) :
    parent ∈ state.levels := by
  cases child <;> cases above <;> cases state <;> revert present <;> decide

end IngestState

namespace Session

/-- The sessions that come about by their own calls while anything at all happens to the handle. -/
inductive Reachable : Session → Prop
  | start {attributes : Attributes} {limits : Limits} {session : Session}
      (started : Session.start attributes limits = .ok session) : Reachable session
  | call {session : Session} (reachable : Reachable session) (call : SessionCall) :
      Reachable (session.call call).2
  | handle {session : Session} (reachable : Reachable session) (device : Handle) :
      Reachable { session with device }

theorem Reachable.run {session : Session} (reachable : session.Reachable)
    (calls : List SessionCall) : (session.run calls).2.Reachable := by
  induction calls generalizing session with
  | nil => exact reachable
  | cons call calls ih => exact ih (reachable.call call)

theorem shows_ingest {session : Session} (shown : ∃ state, session.log.Shows state)
    (descriptor : Descriptor) : ∃ state, (session.ingest descriptor).2.log.Shows state := by
  rcases session.ingest_cases descriptor with
    ⟨_, outcome⟩ | ⟨_, _, outcome⟩ | ⟨_, _, _, _, outcome⟩ | ⟨_, _, fits, outcome⟩ <;>
    rw [outcome]
  · exact shown
  · exact shown
  · exact shown
  · obtain ⟨state, shows⟩ := shown
    have place : (state.next? descriptor.kind).isSome = true := by
      rw [← shows.placed_eq]
      exact fits.2
    obtain ⟨next, place⟩ := Option.isSome_iff_exists.1 place
    exact ⟨next, shows.accept place⟩

theorem Reachable.shows {session : Session} (reachable : session.Reachable) :
    ∃ state, session.log.Shows state := by
  induction reachable with
  | start started =>
    rw [eq_fresh_of_start started]
    exact ⟨.noDevice, DescriptorLog.shows_empty⟩
  | call _ call ih =>
    apply call_keeps (P := fun session => ∃ state, session.log.Shows state)
    · exact fun _ descriptor shown => shows_ingest shown descriptor
    · exact fun _ _ shown => shown
    · exact ih
  | handle _ device ih => exact ih

theorem ingest_of_answer {session : Session} {state : IngestState}
    (follows : session.Follows session.device.record.limits state)
    (ids : session.device.record.limits.AdmitIds) (descriptor : Descriptor) :
    match state.answer descriptor.kind with
    | .ok next => (session.ingest descriptor).1 = .ok () ∧
        (session.ingest descriptor).2.log.Shows next
    | .error e => (session.ingest descriptor).1 = .error (.device e) ∧
        (session.ingest descriptor).2.log = session.log := by
  have fit : session.device.record.limits.Admit (idsOf descriptor) :=
    admit_idsOf_iff.2 fun _ => ids
  rw [IngestState.answer_eq]
  cases place : state.next? descriptor.kind with
  | some next =>
    have accepted := follows.ingest_of_place place fit
    rw [accepted]
    exact ⟨rfl, follows.shows.accept place⟩
  | none =>
    have refused := follows.ingest_of_misplaced place fit
    rw [refused]
    exact ⟨rfl, rfl⟩

/-- In a session that came about in any way, no level of the log is without the level above it, so
the observed level tells which kinds are there. As long as the session goes on, can take the lock
and has room for ids, that level and the kind of the next descriptor decide whether it is accepted,
which error refuses it, and which level is observed then. -/
theorem observe_decides {session : Session} (reachable : session.Reachable) :
    (∀ child parent, child.parent? = some parent → session.log.has child = true →
      session.log.has parent = true) ∧
    (∀ kind, session.log.has kind = (IngestState.observe session.log).levels.contains kind) ∧
    (session.state = .enumerating → session.device.poisoned = false →
      session.device.record.limits.AdmitIds → ∀ descriptor,
      match (IngestState.observe session.log).answer descriptor.kind with
      | .ok next => (session.ingest descriptor).1 = .ok () ∧
          IngestState.observe (session.ingest descriptor).2.log = next
      | .error e => (session.ingest descriptor).1 = .error (.device e) ∧
          IngestState.observe (session.ingest descriptor).2.log =
            IngestState.observe session.log) := by
  obtain ⟨state, shows⟩ := reachable.shows
  rw [shows.observe_eq]
  refine ⟨?_, shows, ?_⟩
  · intro child parent above present
    rw [shows, List.contains_iff_mem] at present ⊢
    exact IngestState.parent_mem_levels above present
  · intro enumerating unlocked ids descriptor
    have outcome := ingest_of_answer ⟨enumerating, unlocked, rfl, shows⟩ ids descriptor
    cases answer : state.answer descriptor.kind with
    | ok next =>
      rw [answer] at outcome
      exact ⟨outcome.1, outcome.2.observe_eq⟩
    | error e =>
      rw [answer] at outcome
      exact ⟨outcome.1, by rw [outcome.2, shows.observe_eq]⟩

theorem observe_decides_for_mouse :
    let device : Descriptor :=
      .device { vendorId := 0x046d, productId := 0xc077, configurationCount := 1 }
    let interface : Descriptor := .interface { classCode := 3, subclass := 1, protocol := 2 }
    let start := Session.fresh { name := "USB Optical Mouse", port := "1-2.3" } {}
    let session : Session :=
      { (start.run [.ingest device, .device (.locked .markFailed)]).2 with
        device := ⟨Record.empty {}, false⟩ }
    IngestState.observe session.log = .hasDevice ∧
    (session.ingest (.configuration { value := 1 })).1 = .ok () ∧
    (session.ingest interface).1 =
      .error (.device (.missingParent .interface .configuration)) := by
  intro device interface start session
  have started : Session.start { name := "USB Optical Mouse", port := "1-2.3" } {} = .ok start :=
    rfl
  have reachable : session.Reachable := ((Reachable.start started).run _).handle _
  have ids : session.device.record.limits.AdmitIds := ⟨by decide, by decide⟩
  obtain ⟨_, _, decided⟩ := observe_decides reachable
  exact ⟨rfl, (decided rfl rfl ids (.configuration { value := 1 })).1,
    (decided rfl rfl ids interface).1⟩

end Session

end UsbIdentity
