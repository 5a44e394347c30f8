import UsbIdentity.Record.Ingest

namespace UsbIdentity

structure DescriptorLog where
  entries : List (Kind × List Descriptor) := []
  deriving DecidableEq, Repr

namespace DescriptorLog

def empty : DescriptorLog := {}

def list? (log : DescriptorLog) (kind : Kind) : Option (List Descriptor) :=
  log.entries.lookup kind

def push (descriptor : Descriptor) : List (Kind × List Descriptor) → List (Kind × List Descriptor)
  | [] => [(descriptor.kind, [descriptor])]
  | (kind, list) :: entries =>
    if descriptor.kind = kind then (kind, list ++ [descriptor]) :: entries
    else (kind, list) :: push descriptor entries

def record (log : DescriptorLog) (descriptor : Descriptor) : DescriptorLog :=
  ⟨push descriptor log.entries⟩

def descriptors (log : DescriptorLog) (kind : Kind) : List Descriptor :=
  (log.list? kind).getD []

def has (log : DescriptorLog) (kind : Kind) : Bool :=
  (log.list? kind).any (!·.isEmpty)

def forget (log : DescriptorLog) (kind : Kind) : DescriptorLog :=
  ⟨log.entries.filter (·.1 != kind)⟩

def reset (_ : DescriptorLog) : DescriptorLog :=
  empty

def accepted (log : DescriptorLog) : List Descriptor :=
  log.entries.flatMap (·.2)

@[simp]
theorem list?_empty (kind : Kind) : empty.list? kind = none := rfl

theorem list?_cons (entry : Kind × List Descriptor) (entries : List (Kind × List Descriptor))
    (kind : Kind) :
    list? ⟨entry :: entries⟩ kind =
      if kind = entry.1 then some entry.2 else list? ⟨entries⟩ kind := by
  rw [list?, list?, List.lookup_cons]
  cases same : kind == entry.1 with
  | true => rw [if_pos (eq_of_beq same)]
  | false => rw [if_neg (ne_of_beq_false same)]

theorem list?_record (log : DescriptorLog) (descriptor : Descriptor) (kind : Kind) :
    (log.record descriptor).list? kind =
      if kind = descriptor.kind then some (log.descriptors kind ++ [descriptor])
      else log.list? kind := by
  obtain ⟨entries⟩ := log
  simp only [record, descriptors]
  induction entries with
  | nil => exact list?_cons (descriptor.kind, [descriptor]) [] kind
  | cons entry entries ih =>
    rw [push, list?_cons entry]
    split
    · next here =>
      rw [list?_cons, here]
      split <;> rfl
    · next other =>
      rw [list?_cons, ih]
      by_cases same : kind = entry.1
      · rw [if_pos same, if_pos same, same, if_neg (Ne.symm other)]
      · rw [if_neg same, if_neg same]

theorem list?_forget (log : DescriptorLog) (forgotten kind : Kind) :
    (log.forget forgotten).list? kind = if kind = forgotten then none else log.list? kind := by
  obtain ⟨entries⟩ := log
  simp only [forget]
  induction entries with
  | nil => exact (ite_self none).symm
  | cons entry entries ih =>
    rw [List.filter_cons, list?_cons entry]
    by_cases gone : entry.1 = forgotten
    · rw [if_neg (by simp [gone]), ih, gone]
      split <;> rfl
    · rw [if_pos (by simp [gone]), list?_cons, ih]
      by_cases same : kind = entry.1
      · rw [if_pos same, if_pos same, same, if_neg gone]
      · rw [if_neg same, if_neg same]

@[simp]
theorem descriptors_empty (kind : Kind) : empty.descriptors kind = [] := rfl

theorem descriptors_record (log : DescriptorLog) (descriptor : Descriptor) (kind : Kind) :
    (log.record descriptor).descriptors kind =
      log.descriptors kind ++ if descriptor.kind = kind then [descriptor] else [] := by
  rw [descriptors, list?_record]
  by_cases same : descriptor.kind = kind
  · rw [if_pos same.symm, if_pos same]
    rfl
  · rw [if_neg (Ne.symm same), if_neg same]
    exact (List.append_nil _).symm

theorem descriptors_forget (log : DescriptorLog) (forgotten kind : Kind) :
    (log.forget forgotten).descriptors kind =
      if kind = forgotten then [] else log.descriptors kind := by
  rw [descriptors, list?_forget]
  split <;> rfl

theorem has_eq_true_iff {log : DescriptorLog} {kind : Kind} :
    log.has kind = true ↔ log.descriptors kind ≠ [] := by
  rw [has, descriptors]
  cases log.list? kind <;> simp

@[simp]
theorem has_empty (kind : Kind) : empty.has kind = false := rfl

theorem has_record (log : DescriptorLog) (descriptor : Descriptor) (kind : Kind) :
    (log.record descriptor).has kind = (log.has kind || descriptor.kind == kind) := by
  rw [Bool.eq_iff_iff, Bool.or_eq_true, has_eq_true_iff, has_eq_true_iff, descriptors_record]
  by_cases same : descriptor.kind = kind <;> simp [same]

theorem has_forget (log : DescriptorLog) (forgotten kind : Kind) :
    (log.forget forgotten).has kind = (kind != forgotten && log.has kind) := by
  rw [Bool.eq_iff_iff, Bool.and_eq_true, has_eq_true_iff, has_eq_true_iff, descriptors_forget]
  by_cases same : kind = forgotten <;> simp [same]

instance : Oracle DescriptorLog where
  has := has
  forget := forget

end DescriptorLog

end UsbIdentity
