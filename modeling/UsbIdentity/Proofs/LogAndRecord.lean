import Mathlib.Data.List.DropRight
import UsbIdentity.Proofs.Histories
import UsbIdentity.Proofs.Offers

namespace UsbIdentity

def Record.callAll (record : Record) (calls : List RecordCall) : Record :=
  calls.foldl (fun record call => (record.call call).2) record

theorem Record.interfaceTypes_callAll (record : Record) (calls : List RecordCall) :
    (record.callAll calls).interfaceTypes = record.interfaceTypes := by
  induction calls generalizing record with
  | nil => rfl
  | cons call calls ih => exact (ih _).trans (record.described_call call).2

def Handle.Edits (handle : Handle) : HandleCall → Prop
  | @HandleCall.ingest _ _ _ _ => False
  | @HandleCall.load _ _ _ _ => False
  | .die left => ∃ calls, left = handle.record.callAll calls
  | _ => True

theorem Handle.interfaceTypes_call {handle : Handle} {call : HandleCall}
    (edits : handle.Edits call) :
    (handle.call call).2.record.interfaceTypes = handle.record.interfaceTypes := by
  cases condition : handle.poisoned with
  | true => rw [call_of_poisoned condition]
  | false =>
    cases call with
    | locked call =>
      simp only [Handle.call, update_of_unlocked condition]
      exact (handle.record.described_call call).2
    | ingest oracle descriptor => cases edits
    | load oracle descriptor => cases edits
    | die left =>
      obtain ⟨calls, rfl⟩ := edits
      simp only [Handle.call, die, lock_of_unlocked condition]
      exact handle.record.interfaceTypes_callAll calls
    | _ => rfl

/-- The part of a history that the log keeps of a kind. -/
def Kind.span : Kind → List Descriptor → List Descriptor
  | .device, past => past
  | .configuration, past => past
  | .interface, past => past.rtakeWhile (·.kind != .configuration)
  | .endpoint, past => past.rtakeWhile (·.kind != .configuration)

theorem Kind.filter_span_concat (kind : Kind) (past : List Descriptor) (descriptor : Descriptor) :
    (kind.span (past ++ [descriptor])).filter (·.kind == kind) =
      (if descriptor.kind = .configuration ∧ (kind = .interface ∨ kind = .endpoint) then []
        else (kind.span past).filter (·.kind == kind)) ++
        if descriptor.kind = kind then [descriptor] else [] := by
  cases kind <;> cases descriptor <;>
    simp [span, List.filter_append, Descriptor.kind]

theorem DescriptorLog.descriptors_accept (log : DescriptorLog) (descriptor : Descriptor)
    (kind : Kind) :
    (log.accept descriptor).descriptors kind =
      (if descriptor.kind = .configuration ∧ (kind = .interface ∨ kind = .endpoint) then []
        else log.descriptors kind) ++ if descriptor.kind = kind then [descriptor] else [] := by
  rw [accept, descriptors_record]
  cases descriptor with
  | configuration configuration =>
    simp only [Kind.restart, Oracle.forget, Descriptor.kind, descriptors_forget]
    cases kind <;> simp
  | _ => simp [Kind.restart, Descriptor.kind]

theorem Record.interfaceTypes_enumerate (record : Record) {descriptor : Descriptor}
    (below : descriptor.kind ≠ .device) :
    (record.enumerate descriptor).interfaceTypes =
      record.interfaceTypes ++ descriptor.interfaceType?.toList := by
  cases descriptor with
  | device device => exact absurd rfl below
  | interface announced => rfl
  | _ => exact (List.append_nil _).symm

theorem Descriptor.filterMap_interfaceType?_filter (descriptors : List Descriptor) :
    (descriptors.filter (·.kind == .interface)).filterMap interfaceType? =
      descriptors.filterMap interfaceType? := by
  rw [List.filterMap_filter]
  congr 1
  funext descriptor
  cases descriptor <;> rfl

namespace Session

structure Recounts (session : Session) (past : List Descriptor) : Prop where
  order : ∃ level, IngestState.walk? .noDevice (past.map Descriptor.kind) = some level ∧
    session.log.Shows level
  lists : ∀ kind, session.log.descriptors kind = (kind.span past).filter (·.kind == kind)
  types : session.device.record.interfaceTypes = past.filterMap Descriptor.interfaceType?

theorem recounts_fresh (attributes : Attributes) (limits : Limits) :
    (fresh attributes limits).Recounts [] where
  order := ⟨.noDevice, rfl, DescriptorLog.shows_empty⟩
  lists kind := by cases kind <;> rfl
  types := rfl

variable {session : Session} {past : List Descriptor}

theorem Recounts.eq_nil_of_device {descriptor : Descriptor} (recounts : session.Recounts past)
    (device : descriptor.kind = .device) (place : descriptor.kind.placed session.log = true) :
    past = [] := by
  obtain ⟨level, walked, shows⟩ := recounts.order
  rw [shows.placed_eq, device] at place
  cases past with
  | nil => rfl
  | cons first rest =>
    obtain ⟨_, _, present⟩ := IngestState.walk?_noDevice_cons walked
    cases level <;> contradiction

theorem Recounts.accept {descriptor : Descriptor} (recounts : session.Recounts past)
    (place : descriptor.kind.placed session.log = true) :
    (session.accept descriptor).Recounts (past ++ [descriptor]) where
  order := by
    obtain ⟨level, walked, shows⟩ := recounts.order
    rw [shows.placed_eq] at place
    obtain ⟨next, place⟩ := Option.isSome_iff_exists.1 place
    refine ⟨next, ?_, shows.accept place⟩
    rw [List.map_append, IngestState.walk?_append, walked]
    simp [IngestState.walk?, place]
  lists kind := by
    rw [Session.accept, DescriptorLog.descriptors_accept, Kind.filter_span_concat,
      recounts.lists kind]
  types := by
    rw [Session.accept, Handle.record_withRecord, List.filterMap_append]
    by_cases device : descriptor.kind = .device
    · have first := recounts.eq_nil_of_device device place
      subst first
      cases descriptor <;> cases device
      rfl
    · rw [Record.interfaceTypes_enumerate _ device, recounts.types]
      cases type : descriptor.interfaceType? <;> simp [type]

theorem recounts_tells : Tells Recounts where
  accept _ _ fits recounts := recounts.accept fits.2
  abandon _ recounts := ⟨recounts.order, recounts.lists, recounts.types⟩
  close _ recounts := ⟨recounts.order, recounts.lists, recounts.types⟩

theorem Recounts.device_call (recounts : session.Recounts past) {call : HandleCall}
    (edits : session.device.Edits call) :
    Recounts { session with device := (session.device.call call).2 } past :=
  ⟨recounts.order, recounts.lists, (Handle.interfaceTypes_call edits).trans recounts.types⟩

theorem Recounts.length_device_le (recounts : session.Recounts past) :
    (session.log.descriptors .device).length ≤ 1 := by
  obtain ⟨level, walked, _⟩ := recounts.order
  rw [recounts.lists]
  cases past with
  | nil => exact Nat.zero_le 1
  | cons first rest =>
    obtain ⟨_, below, _⟩ := IngestState.walk?_noDevice_cons walked
    have none : rest.filter (·.kind == .device) = [] := by
      rw [List.filter_eq_nil_iff]
      intro descriptor member device
      exact below (List.mem_map.2 ⟨descriptor, member, eq_of_beq device⟩)
    rw [Kind.span, List.filter_cons, none]
    split <;> simp

theorem Recounts.types_suffix (recounts : session.Recounts past) :
    (session.log.descriptors .interface).filterMap Descriptor.interfaceType? <:+
      session.device.record.interfaceTypes := by
  rw [recounts.lists, recounts.types, Descriptor.filterMap_interfaceType?_filter]
  exact (List.rtakeWhile_suffix _ _).filterMap _

/-- The log has the device of the history, of which there is at most one, all configurations, and
the interfaces and endpoints since the last configuration, each in order and under its own kind. The
record has the types of all interfaces, of which those still in the log are the last. -/
theorem log_and_record_recount {attributes : Attributes} {limits : Limits} {start : Session}
    (started : Session.start attributes limits = .ok start) {calls : List SessionCall}
    (edited : start.Permits Handle.Edits calls) :
    let session := (start.run calls).2
    let past := start.accepted calls
    let current := past.rtakeWhile (·.kind != .configuration)
    session.log.descriptors .device = past.filter (·.kind == .device) ∧
    (session.log.descriptors .device).length ≤ 1 ∧
    session.log.descriptors .configuration = past.filter (·.kind == .configuration) ∧
    session.log.descriptors .interface = current.filter (·.kind == .interface) ∧
    session.log.descriptors .endpoint = current.filter (·.kind == .endpoint) ∧
    session.device.record.interfaceTypes = past.filterMap Descriptor.interfaceType? ∧
    (session.log.descriptors .interface).filterMap Descriptor.interfaceType? <:+
      session.device.record.interfaceTypes ∧
    (∀ kind, ∀ descriptor ∈ session.log.descriptors kind, descriptor.kind = kind) := by
  intro session past current
  have holds : start.Recounts [] := by
    rw [eq_fresh_of_start started]
    exact recounts_fresh attributes limits
  have recounts : session.Recounts past :=
    run_tells recounts_tells (fun edits recounts => recounts.device_call edits) holds edited
  refine ⟨recounts.lists .device, recounts.length_device_le, recounts.lists .configuration,
    recounts.lists .interface, recounts.lists .endpoint, recounts.types, recounts.types_suffix, ?_⟩
  intro kind descriptor member
  rw [recounts.lists kind] at member
  exact eq_of_beq (List.mem_filter.1 member).2

theorem two_configurations_recounted :
    let device : Descriptor :=
      .device { vendorId := 0x046d, productId := 0xc077, configurationCount := 2 }
    let mouse : Descriptor := .interface { classCode := 3, subclass := 1, protocol := 2 }
    let storage : Descriptor := .interface { classCode := 8, subclass := 6, protocol := 80 }
    let start := fresh { name := "USB Optical Mouse", port := "1-2.3" } {}
    let before : List SessionCall :=
      [.ingestAll [device, .configuration { value := 1 }, mouse, .endpoint { address := 0x81 }],
        .device (.locked .markFailed), .ingest (.configuration { value := 2 }), .ingest storage]
    let torn := (start.run before).2.device.record.callAll [.setId 666]
    let session := (start.run (before ++ [.device (.die torn), .ingest mouse])).2
    session.log.descriptors .interface = [storage] ∧
    session.log.descriptors .endpoint = [] ∧
    session.device.record.interfaceTypes =
      [InterfaceType.exact 3 1 2, InterfaceType.exact 8 6 80] := by
  intro device mouse storage start before torn session
  have started : Session.start { name := "USB Optical Mouse", port := "1-2.3" } {} = .ok start :=
    rfl
  have edited : start.Permits Handle.Edits (before ++ [.device (.die torn), .ingest mouse]) := by
    refine permits_append.2 ⟨⟨nofun, ?_, nofun, nofun, trivial⟩, ⟨?_, nofun, trivial⟩⟩
    · rintro _ ⟨⟩
      trivial
    · rintro _ ⟨⟩
      exact ⟨[.setId 666], rfl⟩
  have past : start.accepted (before ++ [.device (.die torn), .ingest mouse]) =
      [device, .configuration { value := 1 }, mouse, .endpoint { address := 0x81 },
        .configuration { value := 2 }, storage] := by
    decide +kernel
  obtain ⟨_, _, _, interfaces, endpoints, types, _⟩ := log_and_record_recount started edited
  rw [past] at interfaces endpoints types
  exact ⟨interfaces, endpoints, types⟩

end Session

end UsbIdentity
