import UsbIdentity.Proofs.Runs

namespace UsbIdentity

namespace Session

def acceptedOf (session : Session) : List Descriptor → List Descriptor
  | [] => []
  | descriptor :: rest =>
    match session.ingest descriptor with
    | (.ok (), next) => descriptor :: next.acceptedOf rest
    | (.error _, _) => []

def acceptedBy (session : Session) : SessionCall → List Descriptor
  | .ingest descriptor => session.acceptedOf [descriptor]
  | .ingestAll descriptors => session.acceptedOf descriptors
  | _ => []

def accepted (session : Session) : List SessionCall → List Descriptor
  | [] => []
  | call :: calls => session.acceptedBy call ++ (session.call call).2.accepted calls

def Permits (permitted : Handle → HandleCall → Prop) (session : Session) :
    List SessionCall → Prop
  | [] => True
  | call :: calls =>
    (∀ own, call = .device own → permitted session.device own) ∧
      (session.call call).2.Permits permitted calls

theorem permits_append {permitted : Handle → HandleCall → Prop} {session : Session}
    {before after : List SessionCall} :
    session.Permits permitted (before ++ after) ↔
      session.Permits permitted before ∧ (session.run before).2.Permits permitted after := by
  induction before generalizing session with
  | nil => simp [Permits, run]
  | cons call before ih =>
    simp only [List.cons_append, Permits, ih, and_assoc]
    rfl

structure Tells (P : Session → List Descriptor → Prop) : Prop where
  accept : ∀ {session past descriptor}, session.state = .enumerating →
    session.device.poisoned = false →
    descriptor.Fits session.device.record.limits session.log →
    P session past → P (session.accept descriptor) (past ++ [descriptor])
  abandon : ∀ {session past}, session.device.poisoned = false → P session past →
    P session.abandon past
  close : ∀ {session past}, session.device.poisoned = true → P session past →
    P { session with state := .failed } past

variable {P : Session → List Descriptor → Prop} {session : Session} {past : List Descriptor}

theorem Tells.ingest (tells : Tells P) (holds : P session past) (descriptor : Descriptor) :
    P (session.ingest descriptor).2 (past ++ session.acceptedOf [descriptor]) := by
  rcases session.ingest_cases descriptor with
    ⟨_, outcome⟩ | ⟨_, poisoned, outcome⟩ | ⟨_, _, unlocked, _, outcome⟩ |
    ⟨enumerating, unlocked, fits, outcome⟩ <;>
    simp only [acceptedOf, outcome, List.append_nil]
  · exact holds
  · exact tells.close poisoned holds
  · exact tells.abandon unlocked holds
  · exact tells.accept enumerating unlocked fits holds

theorem Tells.ingestAll (tells : Tells P) (holds : P session past)
    (descriptors : List Descriptor) :
    P (session.ingestAll descriptors).2 (past ++ session.acceptedOf descriptors) := by
  induction descriptors generalizing session past with
  | nil => simpa [Session.ingestAll, acceptedOf] using holds
  | cons descriptor rest ih =>
    have first := tells.ingest holds descriptor
    simp only [Session.ingestAll, acceptedOf] at first ⊢
    rcases outcome : session.ingest descriptor with ⟨_ | _, next⟩ <;>
      simp only [outcome] at first ⊢
    · exact first
    · have last := ih first
      rw [List.append_assoc, List.singleton_append] at last
      rcases tail : next.ingestAll rest with ⟨_ | _, final⟩ <;> simpa only [tail] using last

theorem Tells.call (tells : Tells P) (holds : P session past) {call : SessionCall}
    (device : ∀ own, call = .device own →
      P { session with device := (session.device.call own).2 } past) :
    P (session.call call).2 (past ++ session.acceptedBy call) := by
  cases call with
  | ingest descriptor =>
    rw [call_ingest, acceptedBy]
    exact tells.ingest holds descriptor
  | ingestAll descriptors =>
    rw [call_ingestAll, acceptedBy]
    exact tells.ingestAll holds descriptors
  | rule includePort => simpa [acceptedBy, Session.call] using holds
  | device own =>
    simp only [call_device, acceptedBy, List.append_nil]
    exact device own rfl

theorem run_tells (tells : Tells P) {permitted : Handle → HandleCall → Prop}
    (device : ∀ {session past call}, permitted session.device call → P session past →
      P { session with device := (session.device.call call).2 } past)
    (holds : P session past) {calls : List SessionCall}
    (permits : session.Permits permitted calls) :
    P (session.run calls).2 (past ++ session.accepted calls) := by
  induction calls generalizing session past with
  | nil => simpa [run, accepted] using holds
  | cons call calls ih =>
    obtain ⟨now, permits⟩ := permits
    have told := tells.call holds fun own same => device (now own same) holds
    have last := ih told permits
    rwa [List.append_assoc] at last

end Session

end UsbIdentity
