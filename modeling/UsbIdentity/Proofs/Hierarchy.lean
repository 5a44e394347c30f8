import Mathlib.Computability.RegularExpressions
import UsbIdentity.Proofs.Acceptance

namespace UsbIdentity

open RegularExpression (char matchEpsilon rmatch rmatch_iff_matches')

namespace IngestState

def next? : IngestState → Kind → Option IngestState
  | .noDevice, .device => some .hasDevice
  | .noDevice, _ => none
  | _, .device => none
  | _, .configuration => some .hasConfiguration
  | .hasDevice, _ => none
  | .hasConfiguration, .endpoint => none
  | .hasEndpoint, .interface => some .hasEndpoint
  | _, .interface => some .hasInterface
  | _, .endpoint => some .hasEndpoint

def walk? (state : IngestState) (kinds : List Kind) : Option IngestState :=
  kinds.foldlM next? state

def below : RegularExpression Kind :=
  (char Kind.interface + char Kind.endpoint).star

def configurations : RegularExpression Kind :=
  (char Kind.configuration * (1 + char Kind.interface * below)).star

def enumeration : RegularExpression Kind :=
  char Kind.device * configurations

def remaining : IngestState → RegularExpression Kind
  | .noDevice => enumeration
  | .hasDevice => configurations
  | .hasConfiguration => (1 + char Kind.interface * below) * configurations
  | .hasInterface => below * configurations
  | .hasEndpoint => below * configurations

theorem matches_deriv_remaining (state : IngestState) (kind : Kind) :
    ((remaining state).deriv kind).matches' =
      match state.next? kind with
      | some next => (remaining next).matches'
      | none => 0 := by
  cases state <;> cases kind <;>
    simp [remaining, enumeration, configurations, below, RegularExpression.deriv,
      matchEpsilon, next?]

theorem nil_mem_remaining_iff (state : IngestState) :
    [] ∈ (remaining state).matches' ↔ state ≠ .noDevice := by
  rw [← rmatch_iff_matches']
  cases state <;>
    simp [rmatch, matchEpsilon, remaining, enumeration, configurations, below]

theorem mem_remaining_iff (state : IngestState) (kinds : List Kind) :
    kinds ∈ (remaining state).matches' ↔
      ∃ last, state.walk? kinds = some last ∧ last ≠ .noDevice := by
  induction kinds generalizing state with
  | nil => simp [nil_mem_remaining_iff, walk?]
  | cons kind kinds ih =>
    -- The derivative by the first kind is again what may follow some level.
    have derived := matches_deriv_remaining state kind
    rw [← rmatch_iff_matches', rmatch, rmatch_iff_matches', derived, walk?, List.foldlM_cons]
    cases state.next? kind with
    | none => simp
    | some next => exact ih next

theorem mem_enumeration_iff (kinds : List Kind) :
    kinds ∈ enumeration.matches' ↔ ∃ last, walk? .noDevice kinds = some last ∧ last ≠ .noDevice :=
  mem_remaining_iff .noDevice kinds

example : walk? .noDevice [.device, .configuration, .interface, .endpoint, .configuration] =
    some .hasConfiguration := rfl

theorem walk?_append (state : IngestState) (before after : List Kind) :
    state.walk? (before ++ after) = (state.walk? before).bind (·.walk? after) :=
  List.foldlM_append ..

theorem next?_of_hasDevice {state next : IngestState} {kind : Kind} (present : state ≠ .noDevice)
    (accepted : state.next? kind = some next) : kind ≠ .device ∧ next ≠ .noDevice := by
  cases state <;> cases kind <;> simp_all [next?] <;> subst accepted <;> simp

theorem walk?_of_hasDevice {state last : IngestState} {kinds : List Kind}
    (present : state ≠ .noDevice) (accepted : state.walk? kinds = some last) :
    .device ∉ kinds ∧ last ≠ .noDevice := by
  induction kinds generalizing state with
  | nil =>
    cases accepted
    exact ⟨List.not_mem_nil, present⟩
  | cons kind kinds ih =>
    rw [walk?, List.foldlM_cons] at accepted
    cases first : state.next? kind with
    | none =>
      rw [first] at accepted
      cases accepted
    | some next =>
      rw [first] at accepted
      obtain ⟨other, present⟩ := next?_of_hasDevice present first
      obtain ⟨rest, last⟩ := ih present accepted
      exact ⟨by simp [other.symm, rest], last⟩

theorem walk?_noDevice_cons {kind : Kind} {kinds : List Kind} {last : IngestState}
    (accepted : walk? .noDevice (kind :: kinds) = some last) :
    kind = .device ∧ .device ∉ kinds ∧ last ≠ .noDevice := by
  rw [walk?, List.foldlM_cons] at accepted
  cases kind with
  | device => exact ⟨rfl, walk?_of_hasDevice (by simp) accepted⟩
  | _ => cases accepted

theorem walk?_eq_some_iff (kinds : List Kind) :
    (∃ last, walk? .noDevice kinds = some last) ↔ kinds = [] ∨ kinds ∈ enumeration.matches' := by
  rw [mem_enumeration_iff]
  cases kinds with
  | nil => simp [walk?]
  | cons kind kinds =>
    constructor
    · rintro ⟨last, accepted⟩
      exact .inr ⟨last, accepted, (walk?_noDevice_cons accepted).2.2⟩
    · rintro (empty | ⟨last, accepted, _⟩)
      · cases empty
      · exact ⟨last, accepted⟩

theorem append_not_mem_enumeration_iff {before : List Kind} {reached : IngestState}
    (walked : walk? .noDevice before = some reached) (kind : Kind) :
    before ++ [kind] ∉ enumeration.matches' ↔ reached.next? kind = none := by
  have longer : walk? .noDevice (before ++ [kind]) = reached.next? kind := by
    rw [walk?_append, walked, Option.bind_some]
    cases next : reached.next? kind <;> simp [walk?, next]
  have word := walk?_eq_some_iff (before ++ [kind])
  rw [longer] at word
  cases next : reached.next? kind <;> simp_all

theorem walk?_eq_none_iff {state : IngestState} {kinds : List Kind} :
    state.walk? kinds = none ↔
      ∃ before kind after reached, kinds = before ++ kind :: after ∧
        state.walk? before = some reached ∧ reached.next? kind = none := by
  constructor
  · intro stuck
    induction kinds generalizing state with
    | nil => cases stuck
    | cons kind kinds ih =>
      rw [walk?, List.foldlM_cons] at stuck
      cases first : state.next? kind with
      | none => exact ⟨[], kind, kinds, state, rfl, rfl, first⟩
      | some next =>
        rw [first] at stuck
        obtain ⟨before, other, after, reached, rfl, walked, refused⟩ := ih stuck
        refine ⟨kind :: before, other, after, reached, rfl, ?_, refused⟩
        rw [walk?, List.foldlM_cons, first]
        exact walked
  · rintro ⟨before, kind, after, reached, rfl, walked, refused⟩
    rw [walk?_append, walked, Option.bind_some, walk?, List.foldlM_cons, refused]
    rfl

end IngestState

def IngestState.levels : IngestState → List Kind
  | .noDevice => []
  | .hasDevice => [.device]
  | .hasConfiguration => [.device, .configuration]
  | .hasInterface => [.device, .configuration, .interface]
  | .hasEndpoint => [.device, .configuration, .interface, .endpoint]

namespace DescriptorLog

/-- Whether the kinds in a log are the levels down to some innermost one, with none missing. -/
def Shows (log : DescriptorLog) (state : IngestState) : Prop :=
  ∀ kind, log.has kind = state.levels.contains kind

theorem shows_empty : empty.Shows .noDevice :=
  fun _ => rfl

variable {log : DescriptorLog} {state : IngestState}

theorem Shows.observe_eq (shows : log.Shows state) : IngestState.observe log = state := by
  have device := shows .device
  have configuration := shows .configuration
  have interface := shows .interface
  have endpoint := shows .endpoint
  cases state <;> simp_all [IngestState.observe, IngestState.levels, Oracle.has]

theorem Shows.placed_eq (shows : log.Shows state) (kind : Kind) :
    kind.placed log = (state.next? kind).isSome := by
  cases kind <;> simp only [Kind.placed, Kind.parent?, Oracle.has, shows _] <;> cases state <;> rfl

theorem has_accept (log : DescriptorLog) (descriptor : Descriptor) (kind : Kind) :
    (log.accept descriptor).has kind =
      (descriptor.kind == kind || log.has kind &&
        !(descriptor.kind == .configuration && (kind == .interface || kind == .endpoint))) := by
  rw [DescriptorLog.accept, has_record, Bool.or_comm]
  cases descriptor.kind with
  | configuration =>
    simp only [Kind.restart, Oracle.forget, has_forget]
    cases kind <;> cases log.has _ <;> rfl
  | device | interface | endpoint =>
    simp only [Kind.restart]
    cases kind <;> cases log.has _ <;> rfl

theorem Shows.accept {next : IngestState} {descriptor : Descriptor} (shows : log.Shows state)
    (place : state.next? descriptor.kind = some next) : (log.accept descriptor).Shows next := by
  intro kind
  rw [has_accept, shows kind]
  revert place
  -- What is left is about levels alone.
  cases descriptor.kind <;> cases state <;> intro place <;> cases place <;> cases kind <;> rfl

end DescriptorLog

end UsbIdentity
