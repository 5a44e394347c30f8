import UsbIdentity.Proofs.FailClosed

/-!
# Rows of descriptors

A row of descriptors is given up at the first refusal. Nothing is lost by that: a session that has
refused a descriptor refuses all others and stays as it is, so it might as well be given the whole
row, one descriptor at a time.
-/

namespace UsbIdentity

namespace Session

def verdict : List (Except SessionError Unit) → Except SessionError Nat
  | [] => .ok 0
  | .error e :: _ => .error e
  | .ok () :: results => (verdict results).map (· + 1)

variable {results : List (Except SessionError Unit)} {e : SessionError}

theorem verdict_append (first second : List (Except SessionError Unit)) :
    verdict (first ++ second) =
      match verdict first, verdict second with
      | .error e, _ => .error e
      | .ok _, .error e => .error e
      | .ok accepted, .ok more => .ok (accepted + more) := by
  induction first with
  | nil =>
    simp only [List.nil_append, verdict]
    cases verdict second <;> simp
  | cons result first ih =>
    cases result with
    | error e => rfl
    | ok =>
      simp only [List.cons_append, verdict, ih]
      cases verdict first with
      | error e => rfl
      | ok accepted => cases verdict second <;> simp [Except.map, Nat.add_right_comm]

theorem verdict_of_accepted (accepted : ∀ result ∈ results, result = .ok ()) :
    verdict results = .ok results.length := by
  induction results with
  | nil => rfl
  | cons result results ih =>
    obtain ⟨rfl, later⟩ := List.forall_mem_cons.1 accepted
    rw [verdict, ih later]
    rfl

theorem verdict_of_refused (accepted : ∀ result ∈ results, result = .ok ())
    (after : List (Except SessionError Unit)) :
    verdict (results ++ .error e :: after) = .error e := by
  rw [verdict_append, verdict_of_accepted accepted]
  rfl

theorem accepted_or_refused (results : List (Except SessionError Unit)) :
    (∀ result ∈ results, result = .ok ()) ∨
      ∃ before e after, results = before ++ .error e :: after ∧
        ∀ result ∈ before, result = .ok () := by
  induction results with
  | nil => exact .inl (List.forall_mem_nil _)
  | cons result results ih =>
    cases result with
    | error e => exact .inr ⟨[], e, results, rfl, List.forall_mem_nil _⟩
    | ok =>
      rcases ih with accepted | ⟨before, e, after, rfl, accepted⟩
      · exact .inl (List.forall_mem_cons.2 ⟨rfl, accepted⟩)
      · exact .inr ⟨.ok () :: before, e, after, rfl, List.forall_mem_cons.2 ⟨rfl, accepted⟩⟩

theorem verdict_eq_ok_iff {count : Nat} :
    verdict results = .ok count ↔
      count = results.length ∧ ∀ result ∈ results, result = .ok () := by
  constructor
  · intro counted
    rcases accepted_or_refused results with accepted | ⟨before, e, after, rfl, accepted⟩
    · rw [verdict_of_accepted accepted] at counted
      cases counted
      exact ⟨rfl, accepted⟩
    · rw [verdict_of_refused accepted] at counted
      cases counted
  · rintro ⟨rfl, accepted⟩
    exact verdict_of_accepted accepted

theorem verdict_eq_error_iff :
    verdict results = .error e ↔
      ∃ before after, results = before ++ .error e :: after ∧
        ∀ result ∈ before, result = .ok () := by
  constructor
  · intro refused
    rcases accepted_or_refused results with accepted | ⟨before, first, after, rfl, accepted⟩
    · rw [verdict_of_accepted accepted] at refused
      cases refused
    · rw [verdict_of_refused accepted] at refused
      cases refused
      exact ⟨before, after, rfl, accepted⟩
  · rintro ⟨before, after, rfl, accepted⟩
    exact verdict_of_refused accepted after

variable {session : Session}

/-- Every descriptor of a row, whatever came of the ones before it. -/
def ingestEach (session : Session) : List Descriptor → List (Except SessionError Unit) × Session
  | [] => ([], session)
  | descriptor :: rest =>
    let (result, next) := session.ingest descriptor
    let (results, last) := next.ingestEach rest
    (result :: results, last)

theorem ingestEach_of_failed (failed : session.state = .failed) (descriptors : List Descriptor) :
    session.ingestEach descriptors =
      (descriptors.map fun _ => .error .abandoned, session) := by
  induction descriptors with
  | nil => rfl
  | cons descriptor rest ih => simp only [ingestEach, ingest_of_failed failed, ih, List.map_cons]

theorem length_ingestEach (session : Session) (descriptors : List Descriptor) :
    (session.ingestEach descriptors).1.length = descriptors.length := by
  induction descriptors generalizing session with
  | nil => rfl
  | cons descriptor rest ih => exact congrArg (· + 1) (ih _)

theorem ingestEach_append (session : Session) (before after : List Descriptor) :
    session.ingestEach (before ++ after) =
      ((session.ingestEach before).1 ++ ((session.ingestEach before).2.ingestEach after).1,
        ((session.ingestEach before).2.ingestEach after).2) := by
  induction before generalizing session with
  | nil => rfl
  | cons descriptor before ih =>
    simp only [List.cons_append, ingestEach, ih]

theorem ingestEach_eq_foldl (session : Session) (descriptors : List Descriptor) :
    (session.ingestEach descriptors).2 =
      descriptors.foldl (fun session descriptor => (session.ingest descriptor).2) session := by
  induction descriptors generalizing session with
  | nil => rfl
  | cons descriptor rest ih => exact ih _

theorem ingestAll_eq (session : Session) (descriptors : List Descriptor) :
    session.ingestAll descriptors =
      (verdict (session.ingestEach descriptors).1, (session.ingestEach descriptors).2) := by
  induction descriptors generalizing session with
  | nil => rfl
  | cons descriptor rest ih =>
    simp only [ingestAll, ingestEach]
    rcases outcome : session.ingest descriptor with ⟨result, next⟩
    cases result with
    | error e =>
      -- The session is over, so the rest of the row is refused and changes nothing.
      have failed := ingest_error_fails outcome
      simp only [ingestEach_of_failed failed, verdict]
    | ok =>
      simp only [ih next, verdict]
      cases verdict (next.ingestEach rest).1 <;> rfl

theorem ingestAll_append (session : Session) (before after : List Descriptor) :
    session.ingestAll (before ++ after) =
      (match (session.ingestAll before).1, ((session.ingestAll before).2.ingestAll after).1 with
        | .error e, _ => .error e
        | .ok _, .error e => .error e
        | .ok accepted, .ok more => .ok (accepted + more),
        ((session.ingestAll before).2.ingestAll after).2) := by
  simp only [ingestAll_eq, ingestEach_append, verdict_append]

/-- A row leaves a session as its descriptors do if each is given to it, whatever came of the ones
before. The row counts its descriptors if all of them are accepted, and otherwise it is answered by
the first refusal among them. So two rows one after the other do what the one row does that they
make: the counts are added, or the first refusal of the two stands. -/
theorem row_is_each_in_turn (session : Session) (row more : List Descriptor) :
    let results := (session.ingestEach row).1
    let next := (session.ingestAll row).2
    next = row.foldl (fun session descriptor => (session.ingest descriptor).2) session ∧
    (∀ count, (session.ingestAll row).1 = .ok count ↔
      count = row.length ∧ ∀ result ∈ results, result = .ok ()) ∧
    (∀ e, (session.ingestAll row).1 = .error e ↔
      ∃ before after, results = before ++ .error e :: after ∧
        ∀ result ∈ before, result = .ok ()) ∧
    (session.ingestAll (row ++ more)).2 = (next.ingestAll more).2 ∧
    (session.ingestAll (row ++ more)).1 =
      match (session.ingestAll row).1, (next.ingestAll more).1 with
      | .error e, _ => .error e
      | .ok _, .error e => .error e
      | .ok accepted, .ok rest => .ok (accepted + rest) := by
  intro results next
  have given : next = (session.ingestEach row).2 := congrArg Prod.snd (session.ingestAll_eq row)
  refine ⟨?_, ?_, ?_, ?_, ?_⟩
  · rw [given, ingestEach_eq_foldl]
  · intro count
    rw [ingestAll_eq, verdict_eq_ok_iff, length_ingestEach]
  · intro e
    rw [ingestAll_eq, verdict_eq_error_iff]
  · rw [ingestAll_append]
  · rw [ingestAll_append]

end Session

end UsbIdentity
