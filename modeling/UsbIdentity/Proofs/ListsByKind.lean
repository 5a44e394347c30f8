import Mathlib.Data.List.DropRight
import UsbIdentity.DescriptorLog

namespace UsbIdentity

inductive LogCall where
  | record (descriptor : Descriptor)
  | forget (kind : Kind)
  | reset
  deriving DecidableEq, Repr

namespace LogCall

def descriptor? : LogCall → Option Descriptor
  | .record descriptor => some descriptor
  | _ => none

def clears (kind : Kind) : LogCall → Bool
  | .record _ => false
  | .forget forgotten => forgotten == kind
  | .reset => true

def concerns (kind : Kind) : LogCall → Bool
  | .record descriptor => descriptor.kind == kind
  | .forget forgotten => forgotten == kind
  | .reset => true

/-- The descriptors of a kind that are recorded after the last call that clears it. -/
def recorded (kind : Kind) (calls : List LogCall) : List Descriptor :=
  ((calls.rtakeWhile (!·.clears kind)).filterMap descriptor?).filter (·.kind == kind)

def after (kind : Kind) (list : List Descriptor) : LogCall → List Descriptor
  | .record descriptor => if kind = descriptor.kind then list ++ [descriptor] else list
  | .forget forgotten => if kind = forgotten then [] else list
  | .reset => []

variable {kind : Kind} {call : LogCall}

theorem recorded_concat (kind : Kind) (calls : List LogCall) (call : LogCall) :
    recorded kind (calls ++ [call]) = call.after kind (recorded kind calls) := by
  rw [recorded, List.rtakeWhile_concat]
  cases call with
  | record descriptor =>
    by_cases same : kind = descriptor.kind
    · simp [recorded, after, clears, descriptor?, same]
    · simp [recorded, after, clears, descriptor?, same, Ne.symm same]
  | forget forgotten =>
    by_cases same : kind = forgotten
    · simp [after, clears, same]
    · simp [recorded, after, clears, descriptor?, same, Ne.symm same]
  | reset => rfl

theorem after_of_concerns_eq_false (other : call.concerns kind = false)
    (list : List Descriptor) : call.after kind list = list := by
  cases call with
  | record descriptor => exact if_neg (Ne.symm (ne_of_beq_false other))
  | forget forgotten => exact if_neg (Ne.symm (ne_of_beq_false other))
  | reset => cases other

theorem recorded_filter_concerns (kind : Kind) (calls : List LogCall) :
    recorded kind (calls.filter (·.concerns kind)) = recorded kind calls := by
  induction calls using List.reverseRecOn with
  | nil => rfl
  | append_singleton calls call ih =>
    rw [List.filter_append, recorded_concat]
    cases own : call.concerns kind with
    | true => rw [List.filter_cons_of_pos own, List.filter_nil, recorded_concat, ih]
    | false =>
      rw [List.filter_cons_of_neg (by simp [own]), List.filter_nil, List.append_nil, ih,
        after_of_concerns_eq_false own]

end LogCall

namespace DescriptorLog

def call (log : DescriptorLog) : LogCall → DescriptorLog
  | .record descriptor => log.record descriptor
  | .forget kind => log.forget kind
  | .reset => log.reset

def run (log : DescriptorLog) (calls : List LogCall) : DescriptorLog :=
  calls.foldl call log

theorem run_concat (log : DescriptorLog) (calls : List LogCall) (call : LogCall) :
    log.run (calls ++ [call]) = (log.run calls).call call := by
  simp [run]

theorem list?_call_of_concerns_eq_false {kind : Kind} {call : LogCall}
    (other : call.concerns kind = false) (log : DescriptorLog) :
    (log.call call).list? kind = log.list? kind := by
  cases call with
  | record descriptor =>
    exact (list?_record log descriptor kind).trans (if_neg (Ne.symm (ne_of_beq_false other)))
  | forget forgotten =>
    exact (list?_forget log forgotten kind).trans (if_neg (Ne.symm (ne_of_beq_false other)))
  | reset => cases other

def Lists (log : DescriptorLog) (kind : Kind) (list : List Descriptor) : Prop :=
  log.list? kind = if list = [] then none else some list

variable {log : DescriptorLog} {kind : Kind} {list : List Descriptor}

theorem lists_empty (kind : Kind) : empty.Lists kind [] := rfl

theorem Lists.descriptors_eq (lists : log.Lists kind list) : log.descriptors kind = list := by
  rw [descriptors, lists]
  split
  · next none => exact none.symm
  · rfl

theorem Lists.has_eq (lists : log.Lists kind list) : log.has kind = (log.list? kind).isSome := by
  rw [has, lists]
  split
  · rfl
  · next some => simpa using some

theorem Lists.call (lists : log.Lists kind list) (call : LogCall) :
    (log.call call).Lists kind (call.after kind list) := by
  cases call with
  | record descriptor =>
    rw [DescriptorLog.call, Lists, list?_record, lists.descriptors_eq, LogCall.after]
    by_cases same : kind = descriptor.kind
    · rw [if_pos same, if_pos same, if_neg (List.concat_ne_nil _ _)]
    · rw [if_neg same, if_neg same]
      exact lists
  | forget forgotten =>
    rw [DescriptorLog.call, Lists, list?_forget, LogCall.after]
    by_cases same : kind = forgotten
    · rw [if_pos same, if_pos same, if_pos rfl]
    · rw [if_neg same, if_neg same]
      exact lists
  | reset => rfl

theorem lists_run (calls : List LogCall) (kind : Kind) :
    (empty.run calls).Lists kind (LogCall.recorded kind calls) := by
  induction calls using List.reverseRecOn with
  | nil => exact lists_empty kind
  | append_singleton calls call ih =>
    rw [run_concat, LogCall.recorded_concat]
    exact ih.call call

/-- After any calls on a fresh log, the list of a kind is what was recorded of the kind since it was
last cleared, and the kind is present exactly if there is any, which is when it has an entry. One
call on other kinds changes nothing about the kind, and all of them together could as well have been
left out. -/
theorem lists_tell_calls (calls : List LogCall) (kind : Kind) :
    let log := empty.run calls
    log.descriptors kind = LogCall.recorded kind calls ∧
    (log.has kind = true ↔ LogCall.recorded kind calls ≠ []) ∧
    log.has kind = (log.list? kind).isSome ∧
    (∀ call : LogCall, call.concerns kind = false →
      (log.call call).descriptors kind = log.descriptors kind ∧
        (log.call call).has kind = log.has kind) ∧
    log.list? kind = (empty.run (calls.filter (·.concerns kind))).list? kind := by
  intro log
  have lists : log.Lists kind (LogCall.recorded kind calls) := lists_run calls kind
  refine ⟨lists.descriptors_eq, ?_, lists.has_eq, ?_, ?_⟩
  · rw [has_eq_true_iff, lists.descriptors_eq]
  · intro call other
    have same := list?_call_of_concerns_eq_false other log
    exact ⟨by rw [descriptors, same, descriptors], by rw [has, same, has]⟩
  · have alone := lists_run (calls.filter (·.concerns kind)) kind
    rw [LogCall.recorded_filter_concerns] at alone
    exact lists.trans alone.symm

theorem forgotten_mouse_leaves_endpoints :
    let mouse : Descriptor := .interface { classCode := 3, subclass := 1, protocol := 2 }
    let storage : Descriptor := .interface { classCode := 8, subclass := 6, protocol := 80 }
    let input : Descriptor := .endpoint { address := 0x81 }
    let output : Descriptor := .endpoint { address := 0x02 }
    let calls : List LogCall :=
      [.record output, .reset, .forget .interface, .record mouse, .record input,
        .forget .interface, .record storage, .record output, .record mouse]
    let log := empty.run calls
    log.descriptors .interface = [storage, mouse] ∧
    log.descriptors .endpoint = [input, output] ∧
    (log.call (.forget .interface)).descriptors .endpoint = [input, output] ∧
    log.list? .endpoint = (empty.run
      [.record output, .reset, .record input, .record output]).list? .endpoint ∧
    log.has .device = false := by
  intro mouse storage input output calls log
  obtain ⟨interfaces, _⟩ := lists_tell_calls calls .interface
  obtain ⟨endpoints, _, _, others, alone⟩ := lists_tell_calls calls .endpoint
  obtain ⟨_, device, _⟩ := lists_tell_calls calls .device
  have unchanged := (others (.forget .interface) rfl).1
  refine ⟨interfaces, endpoints, unchanged.trans endpoints, alone, ?_⟩
  rw [Bool.eq_false_iff, ne_eq, device]
  exact fun some => some rfl

end DescriptorLog

end UsbIdentity
