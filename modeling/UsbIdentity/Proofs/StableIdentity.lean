import UsbIdentity.Proofs.Histories
import UsbIdentity.Proofs.Replay

namespace UsbIdentity

namespace Trace

theorem eq_ruleOf_of_replay {trace : Trace} {limits : Limits} {includePort : Bool} {rule : Rule}
    (replayed : trace.replay limits includePort = .ok rule) :
    ∃ device, (∀ other, .device other ∈ trace.descriptors → other = device) ∧
      rule = trace.ruleOf device includePort := by
  obtain ⟨device, rest, descriptors, below, rfl⟩ := exists_device_of_replay replayed
  refine ⟨device, fun other member => ?_, rfl⟩
  rw [descriptors, List.mem_cons] at member
  rcases member with first | later
  · cases first
    rfl
  · exact absurd (List.mem_map_of_mem later) below

end Trace

namespace Record

theorem hash_absorb (record : Record) (descriptor : Descriptor) :
    (record.absorb descriptor).hash = record.hash := by
  cases descriptor <;> rfl

theorem hash_enumerate (record : Record) {descriptor : Descriptor}
    (below : descriptor.kind ≠ .device) : (record.enumerate descriptor).hash = record.hash := by
  cases descriptor with
  | device device => exact absurd rfl below
  | _ => rfl

end Record

def RecordCall.SparesIdentity : RecordCall → Prop
  | .set field _ => field = .port
  | _ => True

/-- Whether a call to a handle sets no text that the hash covers, and its holder lives on. -/
def HandleCall.SparesIdentity : HandleCall → Prop
  | .locked call => call.SparesIdentity
  | .die _ => False
  | _ => True

theorem Record.hash_call (record : Record) {call : RecordCall} (spares : call.SparesIdentity) :
    (record.call call).2.hash = record.hash := by
  cases call with
  | set field value =>
    cases spares
    simp only [Record.call, set]
    cases record.limits.check .port value <;> rfl
  | _ => rfl

namespace Handle

theorem hash_call {handle : Handle} {call : HandleCall} (spares : call.SparesIdentity) :
    (handle.call call).2.hash = handle.hash := by
  rcases handle.call_cases call with
    same | ⟨_, own, rfl, same⟩ | ⟨_, descriptor, same⟩ | ⟨_, same⟩ | ⟨left, rfl, same⟩
  · rw [same]
  · rw [same]
    exact hash_withRecord (handle.record.hash_call spares)
  · rw [same]
    exact hash_withRecord (handle.record.hash_absorb descriptor)
  · rw [same]
    exact hash_withRecord rfl
  · cases spares

end Handle

namespace Session

/-- The sessions that have accepted the descriptor of their device, in any call and at any time,
whatever else was done to them and to their handle before and since. -/
inductive Identified : Session → Prop
  | accept {session : Session} {call : SessionCall}
      (accepted : .device ∈ (session.acceptedBy call).map Descriptor.kind) :
      Identified (session.call call).2
  | call {session : Session} (identified : Identified session) (call : SessionCall) :
      Identified (session.call call).2
  | handle {session : Session} (identified : Identified session) (device : Handle) :
      Identified { session with device }

def Logs (first : Prop) (session : Session) (past : List Descriptor) : Prop :=
  first ∨ .device ∈ past.map Descriptor.kind → session.log.has .device = true

theorem logs_tells (first : Prop) : Tells (Logs first) where
  accept {session past descriptor} _ _ _ logs := by
    rw [Logs, Session.accept, session.log.has_accept descriptor .device, List.map_append,
      List.mem_append, ← or_assoc]
    rintro (earlier | device)
    · simp [logs earlier]
    · simp [← List.mem_singleton.1 device]
  abandon _ logs := logs
  close _ logs := logs

theorem Identified.has_device {session : Session} (identified : session.Identified) :
    session.log.has .device = true := by
  induction identified with
  | @accept session call accepted =>
    have unknown : session.Logs False [] := by simp [Logs]
    have logs : (session.call call).2.Logs False (session.acceptedBy call) :=
      (logs_tells False).call unknown fun _ _ => unknown
    exact logs (.inr accepted)
  | @call session _ call known =>
    have before : session.Logs True [] := fun _ => known
    have logs : (session.call call).2.Logs True (session.acceptedBy call) :=
      (logs_tells True).call before fun _ _ => before
    exact logs (.inl trivial)
  | handle _ device known => exact known

def Hashes (hash : Except DeviceError String) (session : Session) (_ : List Descriptor) : Prop :=
  session.log.has .device = true ∧ session.device.hash = hash

variable {session : Session} {past : List Descriptor} {hash : Except DeviceError String}

theorem Hashes.withRecord (hashes : session.Hashes hash past) {record : Record}
    (same : record.hash = session.device.record.hash) :
    (session.device.withRecord record).hash = hash :=
  (Handle.hash_withRecord same).trans hashes.2

theorem hashes_tells (hash : Except DeviceError String) : Tells (Hashes hash) where
  accept {session _ descriptor} _ _ fits hashes := by
    have below : descriptor.kind ≠ .device := by
      intro device
      have place := fits.2
      simp [device, Kind.placed, Kind.parent?, Oracle.has, hashes.1] at place
    refine ⟨?_, hashes.withRecord (Record.hash_enumerate _ below)⟩
    simp [Session.accept, DescriptorLog.has_accept, hashes.1]
  abandon _ hashes := ⟨hashes.1, hashes.withRecord rfl⟩
  close _ hashes := hashes

end Session

/-- Two traces of one name, one serial number and a device with the same ids have the same hash in
their rules, whatever else is in them and however they are replayed. And once a session has accepted
its device, the hash that its handle gives is the same after any further calls that do not set one
of the four texts and do not end a holder of the lock. -/
theorem identity_hash_is_stable :
    (∀ {trace other : Trace} {limits bounds : Limits} {includePort withPort : Bool}
        {rule twin : Rule} {device double : DeviceDescriptor},
      trace.replay limits includePort = .ok rule → other.replay bounds withPort = .ok twin →
      trace.device.name = other.device.name →
      trace.device.serialNumber = other.device.serialNumber →
      .device device ∈ trace.descriptors → .device double ∈ other.descriptors →
      device.vendorId = double.vendorId → device.productId = double.productId →
      rule.deviceHash = twin.deviceHash) ∧
    (∀ {session : Session} {calls : List SessionCall}, session.Identified →
      session.Permits (fun _ call => call.SparesIdentity) calls →
      (session.run calls).2.device.hash = session.device.hash) := by
  constructor
  · intro trace other limits bounds includePort withPort rule twin device double replayed again
      name serialNumber announced announcedAgain vendorId productId
    obtain ⟨_, only, rfl⟩ := Trace.eq_ruleOf_of_replay replayed
    obtain ⟨_, onlyAgain, rfl⟩ := Trace.eq_ruleOf_of_replay again
    cases only device announced
    cases onlyAgain double announcedAgain
    simp only [Trace.ruleOf, name, serialNumber, vendorId, productId]
  · intro session calls identified spared
    have holds : session.Hashes session.device.hash [] := ⟨identified.has_device, rfl⟩
    exact (Session.run_tells (Session.hashes_tells _)
      (fun spares hashes => ⟨hashes.1, (Handle.hash_call spares).trans hashes.2⟩) holds spared).2

theorem identity_hash_is_stable_for_mouse :
    let mouse : DeviceDescriptor :=
      { vendorId := 0x046d, productId := 0xc077, configurationCount := 1 }
    let trace : Trace := ⟨{ name := "Мышь", port := "1-2.3" }, [.device mouse]⟩
    let other : Trace :=
      ⟨{ name := "Мышь", port := "2-1" },
        [.device { mouse with configurationCount := 2 }, .configuration { value := 1 }]⟩
    let start := Session.fresh trace.device {}
    let session := (start.call (.ingestAll [.device mouse])).2
    let calls : List SessionCall :=
      [.device (.locked (.set .port "4-4")), .ingest (.device mouse),
        .device (.ingest start.log (.device mouse))]
    (∃ rule twin, trace.replay {} true = .ok rule ∧ other.replay { port := 3 } false = .ok twin ∧
      rule.deviceHash = twin.deviceHash) ∧
    (session.run calls).2.state = .failed ∧
    (session.run calls).2.device.hash = session.device.hash := by
  intro mouse trace other start session calls
  obtain ⟨replays, sessions⟩ := identity_hash_is_stable
  have identified : session.Identified := .accept (by decide)
  have spared : session.Permits (fun _ call => call.SparesIdentity) calls := by
    refine ⟨?_, nofun, ?_, trivial⟩ <;> rintro _ ⟨⟩
    · rfl
    · trivial
  have accepted : trace.Accepted {} :=
    ⟨by decide, by decide, by decide, ⟨by decide, by decide⟩,
      (IngestState.mem_enumeration_iff _).2 ⟨_, rfl, nofun⟩⟩
  have acceptedAgain : other.Accepted { port := 3 } :=
    ⟨by decide, by decide, by decide, ⟨by decide, by decide⟩,
      (IngestState.mem_enumeration_iff _).2 ⟨_, rfl, nofun⟩⟩
  obtain ⟨_, _, _, replayed⟩ := Trace.replay_of_accepted accepted
  obtain ⟨_, _, _, again⟩ := Trace.replay_of_accepted acceptedAgain
  refine ⟨⟨_, _, replayed true, again false, ?_⟩, by decide, sessions identified spared⟩
  exact replays (replayed true) (again false) rfl rfl List.mem_cons_self List.mem_cons_self rfl rfl

end UsbIdentity
