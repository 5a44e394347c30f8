import UsbIdentity.Proofs.Histories
import UsbIdentity.Proofs.PolicyReplay

namespace UsbIdentity

/-! ## Histories of texts -/

def lastWrite? (field : Field) (history : List (Field × String)) : Option String :=
  (history.filter (·.1 = field)).getLast?.map (·.2)

theorem lastWrite?_append (field : Field) (history writes : List (Field × String)) :
    lastWrite? field (history ++ writes) =
      (lastWrite? field writes).or (lastWrite? field history) := by
  rw [lastWrite?, List.filter_append, List.getLast?_append, Option.map_or]
  rfl

theorem lastWrite?_singleton (field other : Field) (value : String) :
    lastWrite? field [(other, value)] = if field = other then some value else none := by
  by_cases same : field = other <;> simp [lastWrite?, same, eq_comm]

theorem exists_write_of_lastWrite? {field : Field} {history : List (Field × String)}
    {value : String} (written : lastWrite? field history = some value) :
    (field, value) ∈ history := by
  obtain ⟨⟨other, text⟩, last, rfl⟩ := Option.map_eq_some_iff.1 written
  have member := List.mem_filter.1 (List.mem_of_getLast? last)
  obtain ⟨member, same⟩ := member
  rwa [← of_decide_eq_true same]

namespace Record

variable {limits : Limits} {history writes : List (Field × String)} {record other : Record}

theorem get_putAll (record : Record) (writes : List (Field × String)) (field : Field) :
    (record.putAll writes).get field = (lastWrite? field writes).getD (record.get field) := by
  induction writes generalizing record with
  | nil => rfl
  | cons write writes ih =>
    obtain ⟨written, value⟩ := write
    have first := lastWrite?_append field [(written, value)] writes
    rw [List.singleton_append, lastWrite?_singleton] at first
    rw [first, Option.getD_or, putAll, List.foldl_cons]
    refine (ih (record.put written value)).trans ?_
    rw [get_put]
    split <;> rfl

theorem get_absorb (record : Record) (descriptor : Descriptor) (field : Field) :
    (record.absorb descriptor).get field = record.get field := by
  cases descriptor <;> cases field <;> rfl

structure Holds (limits : Limits) (history : List (Field × String)) (record : Record) : Prop where
  bounds : record.limits = limits
  fit : limits.Admit history
  texts : ∀ field, record.get field = (lastWrite? field history).getD ""

theorem holds_empty (limits : Limits) : Holds limits [] (empty limits) where
  bounds := rfl
  fit := List.forall_mem_nil _
  texts field := by cases field <;> rfl

theorem Holds.congr (holds : Holds limits history record) (same : other.limits = record.limits)
    (texts : ∀ field, other.get field = record.get field) : Holds limits history other where
  bounds := same.trans holds.bounds
  fit := holds.fit
  texts field := (texts field).trans (holds.texts field)

theorem Holds.putAll (holds : Holds limits history record) (fit : limits.Admit writes) :
    Holds limits (history ++ writes) (record.putAll writes) where
  bounds := (limits_putAll record writes).trans holds.bounds
  fit := List.forall_mem_append.2 ⟨holds.fit, fit⟩
  texts field := by
    rw [get_putAll, holds.texts, lastWrite?_append, Option.getD_or]

theorem Holds.absorb (holds : Holds limits history record) (descriptor : Descriptor) :
    Holds limits history (record.absorb descriptor) :=
  holds.congr (limits_absorb record descriptor) (get_absorb record descriptor)

theorem Holds.markFailed (holds : Holds limits history record) :
    Holds limits history record.markFailed :=
  holds.congr rfl fun field => by cases field <;> rfl

theorem Holds.load (holds : Holds limits history record) {σ : Type} [Oracle σ] (oracle : σ)
    (descriptor : Descriptor) :
    Holds limits history (record.load oracle descriptor).2.1 := by
  rw [load_eq]
  split
  · exact holds.absorb descriptor
  · exact holds

theorem Holds.bounded (holds : Holds limits history record) (field : Field) :
    (record.get field).utf8ByteSize ≤ (limits.maxFor field).toNat := by
  rw [holds.texts]
  cases written : lastWrite? field history with
  | none => exact Nat.zero_le _
  | some value => exact holds.fit (field, value) (exists_write_of_lastWrite? written)

end Record

/-! ## Setters -/

def RecordCall.texts : RecordCall → List (Field × String)
  | .set field value => [(field, value)]
  | _ => []

namespace Record

variable {limits : Limits} {history : List (Field × String)} {record : Record}

theorem call_set (record : Record) (field : Field) (value : String) :
    record.call (.set field value) =
      if value.utf8ByteSize ≤ (record.limits.maxFor field).toNat then
        (.ok .done, record.put field value)
      else
        (.error (.tooLong field (record.limits.maxFor field) value.utf8ByteSize), record) := by
  by_cases fits : value.utf8ByteSize ≤ (record.limits.maxFor field).toNat
  · simp only [Record.call, set, (Limits.check_eq_ok_iff ..).2 fits, if_pos fits]
  · have refused := Limits.check_eq_error_iff.2 ⟨Nat.lt_of_not_le fits, rfl⟩
    simp only [Record.call, set, refused, if_neg fits]

theorem put_get_put (record : Record) (field : Field) (value : String) :
    (record.put field value).put field (record.get field) = record := by
  cases field <;> rfl

theorem Holds.call (holds : Holds limits history record) (call : RecordCall) :
    Holds limits (history ++ if (record.call call).1.isOk then call.texts else [])
      (record.call call).2 := by
  by_cases sets : call.texts = []
  · have kept : Holds limits history (record.call call).2 := by
      refine holds.congr (limits_call record call) fun field => ?_
      cases call with
      | set other value => cases sets
      | _ => cases field <;> rfl
    rwa [sets, ite_self, List.append_nil]
  · cases call with
    | set field value =>
      rw [call_set]
      split
      · next fits =>
        rw [holds.bounds] at fits
        exact holds.putAll (List.forall_mem_singleton.2 fits)
      · exact holds.putAll (List.forall_mem_nil _)
    | _ => exact absurd rfl sets

theorem holds_of_ofRule {rule : Rule} (replayed : ofRule rule limits = .ok record) :
    Holds limits (textsOfRule rule) record := by
  obtain ⟨fit, rfl⟩ := eq_putAll_of_ofRule replayed
  have first : Holds limits [] (ofRuleStart rule limits) :=
    (holds_empty limits).congr rfl fun field => by cases field <;> rfl
  exact (first.putAll fit).congr rfl fun field => by cases field <;> rfl

end Record

namespace Handle

variable {limits : Limits} {history : List (Field × String)} {handle : Handle}

def acceptedWrites (handle : Handle) : HandleCall → List (Field × String)
  | .locked call => if (handle.call (.locked call)).1.isOk then call.texts else []
  | _ => []

def Holds (limits : Limits) (history : List (Field × String)) (handle : Handle) : Prop :=
  handle.poisoned = false ∧ handle.record.Holds limits history

theorem Holds.call (holds : Holds limits history handle) {call : HandleCall}
    (alive : ∀ left, call ≠ .die left) :
    Holds limits (history ++ handle.acceptedWrites call) (handle.call call).2 := by
  obtain ⟨unlocked, held⟩ := holds
  cases call with
  | locked call =>
    simp only [acceptedWrites, Handle.call, update_of_unlocked unlocked]
    exact ⟨unlocked, held.call call⟩
  | die left => exact absurd rfl (alive left)
  | _ =>
    -- Nothing but a setter under the lock writes a text, and this call is none.
    simp only [acceptedWrites, List.append_nil]
    rcases handle.call_cases _ with
      same | ⟨_, own, other, _⟩ | ⟨_, descriptor, same⟩ | ⟨_, same⟩ | ⟨left, other, _⟩
    · rw [same]
      exact ⟨unlocked, held⟩
    · cases other
    · rw [same]
      exact ⟨unlocked, held.absorb descriptor⟩
    · rw [same]
      exact ⟨unlocked, held.markFailed⟩
    · cases other

end Handle

/-! ## Sessions -/

/-- What can be done to a record: directly, as long as no handle guards it, or to the session that it
is in. -/
inductive Operation where
  | direct (call : RecordCall)
  | load {σ : Type} [Oracle σ] (oracle : σ) (descriptor : Descriptor)
  | shared (call : SessionCall)

namespace Session

variable {limits : Limits} {history given : List (Field × String)} {session start : Session}

def withRecord (session : Session) (record : Record) : Session :=
  { session with device := session.device.withRecord record }

def operate (session : Session) : Operation → Except SessionError Reply × Session
  | .direct call =>
    let (result, record) := session.device.record.call call
    (result.mapError .device, session.withRecord record)
  | @Operation.load _ _ oracle descriptor =>
    let (result, record, _) := session.device.record.load oracle descriptor
    ((result.map fun _ => .done).mapError .device, session.withRecord record)
  | .shared call => session.call call

def operateAll (session : Session) (operations : List Operation) : Session :=
  operations.foldl (fun session operation => (session.operate operation).2) session

def acceptedWrites (session : Session) : Operation → List (Field × String)
  | .direct call => if (session.device.record.call call).1.isOk then call.texts else []
  | @Operation.load _ _ _ _ => []
  | .shared (.device call) => session.device.acceptedWrites call
  | .shared call => (session.acceptedBy call).flatMap idsOf

def writes (session : Session) : List Operation → List (Field × String)
  | [] => []
  | operation :: operations =>
    session.acceptedWrites operation ++ (session.operate operation).2.writes operations

/-- How a record begins, in a session of its own or one made for the sake of its operations, and the
texts that it begins with. -/
inductive Begins (limits : Limits) : Session → List (Field × String) → Prop
  | empty (log : DescriptorLog) (state : SessionState) :
      Begins limits ⟨⟨Record.empty limits, false⟩, log, state⟩ []
  | replay {rule : Rule} {record : Record} (replayed : Record.ofRule rule limits = .ok record)
      (log : DescriptorLog) (state : SessionState) :
      Begins limits ⟨⟨record, false⟩, log, state⟩ (Record.textsOfRule rule)
  | start {attributes : Attributes} {session : Session}
      (started : Session.start attributes limits = .ok session) :
      Begins limits session attributes.texts

theorem Begins.holds (begins : start.Begins limits given) : start.device.Holds limits given := by
  cases begins with
  | empty log state => exact ⟨rfl, Record.holds_empty limits⟩
  | replay replayed log state => exact ⟨rfl, Record.holds_of_ofRule replayed⟩
  | @start attributes _ started =>
    rw [start_eq] at started
    cases verdict : checkAll limits attributes.texts with
    | error e =>
      rw [verdict] at started
      cases started
    | ok =>
      rw [verdict] at started
      cases started
      exact ⟨rfl, (Record.holds_empty limits).putAll (Limits.checkAll_eq_ok_iff.1 verdict)⟩

theorem holds_tells (limits : Limits) (history : List (Field × String)) :
    Tells fun session past => session.device.Holds limits (history ++ past.flatMap idsOf) where
  accept {session past descriptor} _ _ fits holds := by
    obtain ⟨unlocked, held⟩ := holds
    rw [List.flatMap_append, List.flatMap_singleton, ← List.append_assoc]
    rw [held.bounds] at fits
    exact ⟨unlocked, (held.absorb descriptor).putAll (admit_idsOf_iff.2 fits.1)⟩
  abandon _ holds := ⟨holds.1, holds.2.markFailed⟩
  close _ holds := holds

theorem holds_operate (holds : session.device.Holds limits history) {operation : Operation}
    (alive : ∀ left, operation ≠ .shared (.device (.die left))) :
    (session.operate operation).2.device.Holds limits
      (history ++ session.acceptedWrites operation) := by
  have told {call : SessionCall} (own : ∀ call', call ≠ .device call') :
      (session.call call).2.device.Holds limits
        (history ++ (session.acceptedBy call).flatMap idsOf) := by
    have before : session.device.Holds limits (history ++ [].flatMap idsOf) := by
      rwa [List.flatMap_nil, List.append_nil]
    exact (holds_tells limits history).call before fun call' same => absurd same (own call')
  cases operation with
  | direct call => exact ⟨holds.1, holds.2.call call⟩
  | load oracle descriptor =>
    rw [acceptedWrites, List.append_nil]
    exact ⟨holds.1, holds.2.load oracle descriptor⟩
  | shared call =>
    cases call with
    | device call =>
      have lives : ∀ left, call ≠ .die left := fun left same => alive left (by rw [same])
      rw [operate, call_device]
      exact holds.call lives
    | ingest descriptor => exact told (by simp)
    | ingestAll descriptors => exact told (by simp)
    | rule includePort => exact told (by simp)

theorem holds_operateAll (holds : session.device.Holds limits history)
    {operations : List Operation} (alive : ∀ left, .shared (.device (.die left)) ∉ operations) :
    (session.operateAll operations).device.Holds limits (history ++ session.writes operations) := by
  induction operations generalizing session history with
  | nil => rwa [writes, List.append_nil]
  | cons operation operations ih =>
    have lives : ∀ left, operation ≠ .shared (.device (.die left)) := by
      rintro left rfl
      exact alive left List.mem_cons_self
    have last := ih (holds_operate holds lives) fun left member =>
      alive left (List.mem_cons_of_mem _ member)
    rwa [List.append_assoc] at last

theorem operate_set (holds : session.device.Holds limits history) (field : Field) (value : String)
    {operation : Operation} (sets : operation = .direct (.set field value) ∨
      operation = .shared (.device (.locked (.set field value)))) :
    session.operate operation =
      if value.utf8ByteSize ≤ (limits.maxFor field).toNat then
        (.ok .done, session.withRecord (session.device.record.put field value))
      else (.error (.device (.tooLong field (limits.maxFor field) value.utf8ByteSize)), session) := by
  obtain ⟨unlocked, held⟩ := holds
  by_cases fits : value.utf8ByteSize ≤ (limits.maxFor field).toNat
  · rcases sets with rfl | rfl <;>
      simp only [operate, call_device, Handle.call, Handle.update_of_unlocked unlocked,
        Record.call_set, held.bounds, if_pos fits]
    · rfl
    · rfl
  · rcases sets with rfl | rfl <;>
      simp only [operate, call_device, Handle.call, Handle.update_of_unlocked unlocked,
        Record.call_set, held.bounds, if_neg fits]
    · rfl
    · rfl

/-- Take a record that is empty, replays a rule or is in a session that has just started, and do
anything to it but die with its lock. Its bounds stay as they are. Each of its fields holds the last
text that was accepted for it, at first or since, and none exceeds its bound. A setter that is
called then, directly or under the lock, replaces the text of its field and nothing else if the
bytes fit the bound, and otherwise reports field, bound and bytes and changes nothing. -/
theorem fields_hold_last_writes (begins : start.Begins limits given) {operations : List Operation}
    (alive : ∀ left, .shared (.device (.die left)) ∉ operations) :
    let session := start.operateAll operations
    let record := session.device.record
    let history := given ++ start.writes operations
    record.limits = limits ∧
    (∀ field, record.get field = (lastWrite? field history).getD "") ∧
    (record.name.utf8ByteSize ≤ limits.genericString.toNat ∧
      record.serialNumber.utf8ByteSize ≤ limits.genericString.toNat ∧
      record.vendorId.utf8ByteSize ≤ limits.vendorId.toNat ∧
      record.productId.utf8ByteSize ≤ limits.productId.toNat ∧
      record.port.utf8ByteSize ≤ limits.port.toNat) ∧
    (∀ field value operation, operation = .direct (.set field value) ∨
        operation = .shared (.device (.locked (.set field value))) →
      session.operate operation =
        if value.utf8ByteSize ≤ (limits.maxFor field).toNat then
          (.ok .done, session.withRecord (record.put field value))
        else
          (.error (.device (.tooLong field (limits.maxFor field) value.utf8ByteSize)),
            session)) ∧
    (∀ field value, (record.put field value).get field = value ∧
      (record.put field value).put field (record.get field) = record) := by
  intro session record history
  have holds : session.device.Holds limits history := holds_operateAll begins.holds alive
  have bounded := holds.2.bounded
  refine ⟨holds.2.bounds, holds.2.texts, ?_, ?_, ?_⟩
  · exact ⟨bounded .name, bounded .serialNumber, bounded .vendorId, bounded .productId,
      bounded .port⟩
  · intro field value operation sets
    exact operate_set holds field value sets
  · intro field value
    refine ⟨?_, record.put_get_put field value⟩
    rw [Record.get_put, if_pos rfl]

theorem given_up_mouse_holds_last_writes :
    let device : Descriptor :=
      .device { vendorId := 0x046d, productId := 0xc077, configurationCount := 1 }
    let limits : Limits := { genericString := 8 }
    let start := fresh { name := "Мышь", port := "1-2.3" } limits
    let operations : List Operation :=
      [.shared (.device (.locked (.set .serialNumber "Мышка"))), .direct (.set .vendorId "1d6b"),
        .shared (.ingestAll [device, .configuration { value := 1 }, device]),
        .direct (.set .productId "0002"), .shared (.device (.locked (.set .port "2-1")))]
    let session := start.operateAll operations
    Session.start { name := "Мышь", port := "1-2.3" } limits = .ok start ∧
    session.state = .failed ∧
    session.device.record.get .serialNumber = "" ∧
    session.device.record.get .vendorId = "046d" ∧
    session.device.record.get .productId = "0002" ∧
    session.operate (.direct (.set .name "Мышка")) =
      (.error (.device (.tooLong .name 8 10)), session) := by
  intro device limits start operations session
  have started : Session.start { name := "Мышь", port := "1-2.3" } limits = .ok start := rfl
  have alive : ∀ left, .shared (.device (.die left)) ∉ operations := by simp [operations]
  obtain ⟨_, texts, _, sets, _⟩ := fields_hold_last_writes (.start started) alive
  have history : start.writes operations =
      [(.vendorId, "1d6b"), (.vendorId, "046d"), (.productId, "c077"), (.productId, "0002"),
        (.port, "2-1")] := by
    decide +kernel
  rw [history] at texts
  refine ⟨started, by decide +kernel, ?_, ?_, ?_, ?_⟩
  · rw [texts]
    rfl
  · rw [texts]
    rfl
  · rw [texts]
    rfl
  · rw [sets .name "Мышка" _ (.inl rfl)]
    rfl

end Session

end UsbIdentity
