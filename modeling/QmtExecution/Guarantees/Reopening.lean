import QmtExecution.Guarantees.Stability
import QmtExecution.Protocol.Walk

/-! What `open()` leaves behind when it raises: an object that opens later as a fresh one does, if
the journal was not loaded, and otherwise one that cannot be opened again. -/

namespace QmtExecution

open Interaction Method

variable {oracle : (command : Command) → Except Exc (Result command)} {object : SessionState}
  {payload : Payload} {config : SessionConfig} {executionId : String}

/-- The journal file cannot be looked for or read, or it is not one of this execution. -/
def JournalRefused (oracle : (command : Command) → Except Exc (Result command))
    (executionId : String) : Prop :=
  (∃ exc, oracle .journalExists = .error exc) ∨
    oracle .journalExists = .ok true ∧ ((∃ exc, oracle .journalRead = .error exc) ∨
      ∃ payload exc, oracle .journalRead = .ok payload ∧
        payload.validate executionId = .error exc)

theorem openJournal_refused (empty : object.payload = none)
    (refused : JournalRefused oracle executionId) :
    ∃ exc, (ExecutionJournal.openJournal executionId).outcome oracle object =
      (.error exc, object) := by
  rcases refused with ⟨exc, raised⟩ | ⟨existed, ⟨exc, raised⟩ | ⟨payload, exc, stored, invalid⟩⟩
  · exact ⟨exc, by simp [ExecutionJournal.openJournal, ask, empty, raised]⟩
  · by_cases unreadable : exc.isA .osError = true ∨ exc.isA .jsonDecodeError = true
    · exact ⟨⟨.journalIntegrityError, "journal is unreadable"⟩, by
        simp [ExecutionJournal.openJournal, ask, empty, existed, raised, unreadable]⟩
    · exact ⟨exc, by
        simp [ExecutionJournal.openJournal, ask, empty, existed, raised, unreadable]⟩
  · exact ⟨exc, by simp [ExecutionJournal.openJournal, ask, empty, existed, stored, invalid]⟩

theorem openJournal_creates (empty : object.payload = none)
    (missing : oracle .journalExists = .ok false) :
    (ExecutionJournal.openJournal executionId).outcome oracle object =
        ((oracle (.journalWrite .create (.create executionId))).map fun _ => ({}, false),
          { object with payload := some (.create executionId) }) ∧
      (ExecutionJournal.openJournal executionId).issued oracle object =
        [.journalExists, .journalWrite .create (.create executionId)] := by
  cases written : oracle (.journalWrite .create (.create executionId)) <;>
    simp [ExecutionJournal.openJournal, ExecutionJournal.write, ask, empty, missing, written,
      issued_bind, Except.map]

theorem openJournal_loads (empty : object.payload = none)
    (existed : oracle .journalExists = .ok true) (stored : oracle .journalRead = .ok payload)
    (valid : payload.validate executionId = .ok ()) :
    (ExecutionJournal.openJournal executionId).outcome oracle object =
        ((assertInvariants payload.machine).map fun _ => (payload.machine, true),
          { object with payload := some payload }) ∧
      (ExecutionJournal.openJournal executionId).issued oracle object =
        [.journalExists, .journalRead] := by
  cases checked : assertInvariants payload.machine <;>
    simp [ExecutionJournal.openJournal, ExecutionJournal.machineSnapshot,
      ExecutionJournal.requireOpen, ask, empty, existed, stored, valid, checked, issued_bind,
      Except.map]

/-- A journal that is not refused is loaded into every object without one in the same way,
whether or not opening it goes on to raise. -/
theorem openJournal_uniform (accepted : ¬ JournalRefused oracle executionId) :
    ∃ result payload calls, ∀ object : SessionState, object.payload = none →
      (ExecutionJournal.openJournal executionId).outcome oracle object =
          (result, { object with payload := some payload }) ∧
        (ExecutionJournal.openJournal executionId).issued oracle object = calls := by
  rcases existed : oracle .journalExists with exc | present
  · exact absurd (.inl ⟨exc, existed⟩) accepted
  · cases present with
    | false => exact ⟨_, _, _, fun object empty => openJournal_creates empty existed⟩
    | true =>
        rcases stored : oracle .journalRead with exc | payload
        · exact absurd (.inr ⟨existed, .inl ⟨exc, stored⟩⟩) accepted
        · rcases valid : payload.validate executionId with exc | ⟨⟩
          · exact absurd (.inr ⟨existed, .inr ⟨payload, exc, stored, valid⟩⟩) accepted
          · exact ⟨_, _, _, fun object empty => openJournal_loads empty existed stored valid⟩

/-- The object has never loaded a journal, is not open and does not own the mutex. -/
structure SessionState.Unopened (object : SessionState) : Prop where
  empty : object.payload = none
  down : object.isOpen = false
  free : object.mutexOwned = false

/-- The object after a failed `open()` as it should be: closed, without the mutex, refusing every
operation, and opening as a fresh object does wherever a fresh one opens. -/
structure AllOrNothing (config : SessionConfig) (object : SessionState) : Prop where
  down : object.isOpen = false
  free : object.mutexOwned = false
  refuses : ∀ operation oracle, operation ≠ .openSession → operation ≠ .close →
    ∃ exc : Exc, exc.cls = .sessionClosedError ∧
      (runOperation config operation).outcome oracle object = (.error exc, object)
  reopens : ∀ oracle out opened,
    (runOperation config .openSession).outcome oracle {} = (.ok out, opened) →
      (runOperation config .openSession).outcome oracle object = (.ok out, opened) ∧
        (runOperation config .openSession).issued oracle object =
          (runOperation config .openSession).issued oracle {}

theorem outcome_requireOpen_refused (down : object.isOpen = false) :
    ExecutionSession.requireOpen.outcome oracle object = (.error ⟨.sessionClosedError,
      "execution session is not open or no longer owns its mutex"⟩, object) := by
  simp [ExecutionSession.requireOpen, down]

theorem outcome_bind_error {α β : Type} {method : SessionM β} {next : β → SessionM α} {exc : Exc}
    {after : SessionState} (raised : method.outcome oracle object = (.error exc, after)) :
    (method >>= next).outcome oracle object = (.error exc, after) := by
  rw [outcome_bind, raised]

theorem operation_refused (down : object.isOpen = false) {operation : Operation}
    (other : operation ≠ .openSession) (ending : operation ≠ .close) :
    (runOperation config operation).outcome oracle object = (.error ⟨.sessionClosedError,
      "execution session is not open or no longer owns its mutex"⟩, object) := by
  have refused : ∀ {α : Type} (next : Unit → SessionM α),
      (ExecutionSession.requireOpen >>= next).outcome oracle object = (.error ⟨.sessionClosedError,
        "execution session is not open or no longer owns its mutex"⟩, object) :=
    fun next => outcome_bind_error (outcome_requireOpen_refused down)
  unfold runOperation
  cases config.coordinated with
  | false =>
      cases operation with
      | openSession => exact absurd rfl other
      | close => exact absurd rfl ending
      | _ => exact outcome_bind_error (refused _)
  | true =>
      cases operation with
      | openSession => exact absurd rfl other
      | close => exact absurd rfl ending
      | nextCycle => exact outcome_bind_error (refused _)
      | _ => exact outcome_bind_error (outcome_bind_error (refused _))

abbrev Loaded (object : SessionState) : Prop := object.payload ≠ none

theorem robust_loaded : Robust Loaded where
  taken _ _ held := held
  loaded _ _ _ := Option.some_ne_none _
  opened _ held := held
  locked _ _ held := held

def OpenRefused (oracle : (command : Command) → Except Exc (Result command))
    (executionId : String) : Prop :=
  (∃ exc, oracle .mutexAcquire = .error exc) ∨ JournalRefused oracle executionId

theorem SessionState.Unopened.eq (unopened : object.Unopened) (unclosed : object.closed = false) :
    object = { snapshot := object.snapshot } := by
  obtain ⟨snapshot, payload, isOpen, closed, mutexOwned⟩ := object
  obtain ⟨rfl, rfl, rfl⟩ := unopened
  cases unclosed
  rfl

section Opening

variable {machine : MachineSnapshot}

theorem openSession_contended {exc : Exc} (contended : oracle .mutexAcquire = .error exc) :
    (ExecutionSession.openSession executionId).outcome oracle { snapshot := machine } =
      (.error exc, { snapshot := machine }) := by
  simp [ExecutionSession.openSession, ExecutionSession.mutexAcquire, ask, contended]

theorem openSession_locked (executionId : String) (machine : MachineSnapshot)
    (locked : oracle .mutexAcquire = .ok ()) :
    (ExecutionSession.openSession executionId).outcome oracle { snapshot := machine } =
        (match (ExecutionSession.openBody executionId).outcome oracle
            { snapshot := machine, mutexOwned := true } with
          | (.ok out, after) => (.ok out, after)
          | (.error exc, after) =>
              (ExecutionSession.mutexRelease >>= fun _ => raise exc).outcome oracle after) ∧
      (ExecutionSession.openSession executionId).issued oracle { snapshot := machine } =
        .mutexAcquire :: ((ExecutionSession.openBody executionId).issued oracle
            { snapshot := machine, mutexOwned := true } ++
          match (ExecutionSession.openBody executionId).outcome oracle
            { snapshot := machine, mutexOwned := true } with
          | (.ok _, _) => []
          | (.error exc, after) => (ExecutionSession.mutexRelease >>= fun _ =>
              (raise exc : SessionM ExecutionSnapshot)).issued oracle after) := by
  generalize body : (ExecutionSession.openBody executionId).outcome oracle
    { snapshot := machine, mutexOwned := true } = ended
  rcases ended with ⟨exc | out, after⟩ <;>
    simp [ExecutionSession.openSession, ExecutionSession.mutexAcquire, ask, locked, issued_bind, body]

theorem mutexRelease_owned (oracle : (command : Command) → Except Exc (Result command)) (exc : Exc)
    (owned : object.mutexOwned = true) :
    ∃ other, (ExecutionSession.mutexRelease >>= fun _ =>
      (raise exc : SessionM ExecutionSnapshot)).outcome oracle object =
        (.error other, { object with mutexOwned := false }) := by
  rcases released : oracle .mutexRelease with other | ⟨⟩
  · exact ⟨other, by simp [ExecutionSession.mutexRelease, ask, owned, released]⟩
  · exact ⟨exc, by simp [ExecutionSession.mutexRelease, ask, owned, released]⟩

theorem openSession_refused (machine : MachineSnapshot) (refused : OpenRefused oracle executionId) :
    ∃ exc, (ExecutionSession.openSession executionId).outcome oracle { snapshot := machine } =
      (.error exc, { snapshot := machine }) := by
  rcases locked : oracle .mutexAcquire with exc | ⟨⟩
  · exact ⟨exc, openSession_contended locked⟩
  · rcases refused with ⟨exc, contended⟩ | refused
    · rw [locked] at contended
      cases contended
    · obtain ⟨exc, raised⟩ :=
        openJournal_refused (rfl : ({ snapshot := machine, mutexOwned := true } :
          SessionState).payload = none) refused
      have body : (ExecutionSession.openBody executionId).outcome oracle
          { snapshot := machine, mutexOwned := true } =
            (.error exc, { snapshot := machine, mutexOwned := true }) := outcome_bind_error raised
      obtain ⟨other, released⟩ := mutexRelease_owned oracle exc
        (rfl : ({ snapshot := machine, mutexOwned := true } : SessionState).mutexOwned = true)
      refine ⟨other, ?_⟩
      rw [(openSession_locked _ _ locked).1, body]
      exact released

/-- Past the lock and the journal file, the object is never again without a journal. -/
theorem openSession_accepted (accepted : ¬ OpenRefused oracle executionId) :
    Loaded ((ExecutionSession.openSession executionId).outcome oracle { snapshot := machine }).2 := by
  rcases locked : oracle .mutexAcquire with exc | ⟨⟩
  · exact absurd (.inl ⟨exc, locked⟩) accepted
  · obtain ⟨result, payload, calls, uniform⟩ :=
      openJournal_uniform fun refused => accepted (.inr refused)
    have opens := (uniform { snapshot := machine, mutexOwned := true } rfl).1
    have body : Loaded ((ExecutionSession.openBody executionId).outcome oracle
        { snapshot := machine, mutexOwned := true }).2 := by
      rw [openBody_startSession, outcome_bind, opens]
      cases result with
      | error exc =>
          intro empty
          cases empty
      | ok opened =>
          apply (robust_loaded.admits.startSession opened.1 opened.2).keeps
          intro empty
          cases empty
    rw [(openSession_locked _ _ locked).1]
    generalize (ExecutionSession.openBody executionId).outcome oracle
      { snapshot := machine, mutexOwned := true } = ended at body
    rcases ended with ⟨exc | out, after⟩
    · exact (walks_bind robust_loaded.admits.mutexRelease fun _ => walks_raise exc).keeps oracle body
    · exact body

theorem openSession_reopens (machine : MachineSnapshot) {out : ExecutionSnapshot} {opened : SessionState}
    (opens : (ExecutionSession.openSession executionId).outcome oracle {} = (.ok out, opened)) :
    (ExecutionSession.openSession executionId).outcome oracle { snapshot := machine } =
        (.ok out, opened) ∧
      (ExecutionSession.openSession executionId).issued oracle { snapshot := machine } =
        (ExecutionSession.openSession executionId).issued oracle {} := by
  have accepted : ¬ OpenRefused oracle executionId := by
    intro refused
    obtain ⟨exc, raised⟩ := openSession_refused {} refused
    rw [opens] at raised
    cases raised
  rcases locked : oracle .mutexAcquire with exc | ⟨⟩
  · exact absurd (.inl ⟨exc, locked⟩) accepted
  · obtain ⟨result, payload, calls, uniform⟩ :=
      openJournal_uniform fun refused => accepted (.inr refused)
    obtain ⟨here, issuedHere⟩ := uniform { snapshot := machine, mutexOwned := true } rfl
    obtain ⟨fresh, issuedFresh⟩ := uniform { snapshot := {}, mutexOwned := true } rfl
    cases result with
    | error exc =>
        have body : (ExecutionSession.openBody executionId).outcome oracle
            { snapshot := {}, mutexOwned := true } =
              (.error exc, { snapshot := {}, payload := some payload, mutexOwned := true }) :=
          outcome_bind_error fresh
        obtain ⟨other, released⟩ := mutexRelease_owned oracle exc
          (rfl : ({ snapshot := {}, payload := some payload, mutexOwned := true } :
            SessionState).mutexOwned = true)
        rw [(openSession_locked _ _ locked).1, body] at opens
        cases opens.symm.trans released
    | ok loaded =>
        have same : (ExecutionSession.openBody executionId).outcome oracle
            { snapshot := machine, mutexOwned := true } =
              (ExecutionSession.openBody executionId).outcome oracle
                { snapshot := {}, mutexOwned := true } := by
          rw [openBody_startSession, outcome_bind, here, outcome_bind, fresh]
          rfl
        have issued : (ExecutionSession.openBody executionId).issued oracle
            { snapshot := machine, mutexOwned := true } =
              (ExecutionSession.openBody executionId).issued oracle
                { snapshot := {}, mutexOwned := true } := by
          rw [openBody_startSession, issued_bind, issuedHere, here, issued_bind, issuedFresh, fresh]
          rfl
        obtain ⟨outcomeHere, callsHere⟩ := openSession_locked executionId machine locked
        obtain ⟨outcomeFresh, callsFresh⟩ := openSession_locked executionId {} locked
        rw [outcomeHere, callsHere, callsFresh, same, issued]
        exact ⟨outcomeFresh.symm.trans opens, rfl⟩

end Opening

theorem sync_memory (out : ExecutionSnapshot) :
    ((CoordinatedExecutionSession.sync config out).outcome oracle object).2 = object := by
  have leaves : Leaves oracle (Command.Syncs config object)
      (CoordinatedExecutionSession.sync config out) object := leaves_sync out
  have post := (meets_oracle leaves).2
  generalize (CoordinatedExecutionSession.sync config out).outcome oracle object = ended at post
  rcases ended with ⟨exc | synced, after⟩
  · exact post.1
  · exact post

/-- What the session's class does with a snapshot that `ExecutionSession.open` has returned. -/
def afterOpen (config : SessionConfig) (out : ExecutionSnapshot) : SessionM ExecutionSnapshot :=
  if config.coordinated then CoordinatedExecutionSession.sync config out else pure out

theorem open_operation (config : SessionConfig)
    (oracle : (command : Command) → Except Exc (Result command)) (object : SessionState) :
    let opens := ExecutionSession.openSession config.executionId >>= afterOpen config
    (runOperation config .openSession).outcome oracle object =
        ((opens.outcome oracle object).1.map some, (opens.outcome oracle object).2) ∧
      (runOperation config .openSession).issued oracle object = opens.issued oracle object := by
  intro opens
  have returning : ∀ method : SessionM ExecutionSnapshot,
      ((method >>= fun out => pure (some out)).outcome oracle object =
          ((method.outcome oracle object).1.map some, (method.outcome oracle object).2) ∧
        (method >>= fun out => pure (some out)).issued oracle object =
          method.issued oracle object) := by
    intro method
    rw [outcome_bind, issued_bind]
    rcases method.outcome oracle object with ⟨exc | out, after⟩
    · exact ⟨rfl, List.append_nil _⟩
    · exact ⟨rfl, List.append_nil _⟩
  unfold runOperation
  cases shared : config.coordinated with
  | true =>
      have same : opens = CoordinatedExecutionSession.openSession config := by
        unfold opens afterOpen CoordinatedExecutionSession.openSession
        simp only [shared, if_true]
      rw [same]
      exact returning (CoordinatedExecutionSession.openSession config)
  | false =>
      have after : afterOpen config = pure := by
        funext out
        simp only [afterOpen, shared, Bool.false_eq_true, if_false]
      have same : opens.outcome oracle object =
            (ExecutionSession.openSession config.executionId).outcome oracle object ∧
          opens.issued oracle object =
            (ExecutionSession.openSession config.executionId).issued oracle object := by
        unfold opens
        rw [after, outcome_bind, issued_bind]
        rcases (ExecutionSession.openSession config.executionId).outcome oracle object with
          ⟨exc | out, last⟩
        · exact ⟨rfl, List.append_nil _⟩
        · exact ⟨rfl, List.append_nil _⟩
      rw [same.1, same.2]
      exact returning (ExecutionSession.openSession config.executionId)

/-- What `_sync` raises after `open` leaves the session as open as it was. -/
theorem open_operation_memory (config : SessionConfig)
    (oracle : (command : Command) → Except Exc (Result command)) (object : SessionState) :
    ((runOperation config .openSession).outcome oracle object).2 =
      ((ExecutionSession.openSession config.executionId).outcome oracle object).2 := by
  rw [(open_operation config oracle object).1, outcome_bind]
  rcases (ExecutionSession.openSession config.executionId).outcome oracle object with
    ⟨exc | out, after⟩
  · rfl
  · change ((afterOpen config out).outcome oracle after).2 = after
    unfold afterOpen
    split_ifs
    · exact sync_memory out
    · rfl

theorem unopened_after_iff (unclosed : object.closed = false) {exc : Exc} {after : SessionState}
    (raised : (runOperation config .openSession).outcome oracle object = (.error exc, after)) :
    after.Unopened ↔ object.Unopened ∧ OpenRefused oracle config.executionId := by
  have left : after =
      ((ExecutionSession.openSession config.executionId).outcome oracle object).2 := by
    rw [← open_operation_memory, raised]
  constructor
  · intro unopened
    have empty : object.payload = none := by
      by_contra loaded
      exact ((robust_loaded.admits.openSession config.executionId).keeps oracle loaded) (left ▸ unopened.empty)
    have down : object.isOpen = false := by
      cases opened : object.isOpen with
      | false => rfl
      | true =>
          have same : after = object := by
            rw [left]
            simp [ExecutionSession.openSession, ExecutionSession.snapshot, unclosed, opened]
          exact opened.symm.trans (same ▸ unopened.down)
    have free : object.mutexOwned = false := by
      cases owned : object.mutexOwned with
      | false => rfl
      | true =>
          have same : after = object := by
            rw [left]
            simp [ExecutionSession.openSession, ExecutionSession.mutexAcquire, unclosed, down, owned]
          exact owned.symm.trans (same ▸ unopened.free)
    refine ⟨⟨empty, down, free⟩, ?_⟩
    by_contra accepted
    rw [SessionState.Unopened.eq ⟨empty, down, free⟩ unclosed] at left
    exact openSession_accepted accepted (left ▸ unopened.empty)
  · intro cause
    obtain ⟨unopened, refused⟩ := cause
    obtain ⟨other, same⟩ := openSession_refused object.snapshot refused
    rw [← unopened.eq unclosed] at same
    rw [left, same]
    exact unopened

theorem open_fresh (config : SessionConfig) : ∃ out opened,
    (runOperation config .openSession).outcome (Replies.answer {} []) {} = (.ok out, opened) := by
  obtain ⟨executionId, accountKey, coordinated, hasEstimator⟩ := config
  cases coordinated with
  | false => exact ⟨_, _, rfl⟩
  | true => exact ⟨_, _, rfl⟩

theorem AllOrNothing.unopened (whole : AllOrNothing config object) : object.Unopened := by
  refine ⟨?_, whole.down, whole.free⟩
  by_contra loaded
  obtain ⟨out, opened, opens⟩ := open_fresh config
  have returns := (whole.reopens _ out opened opens).1
  have raised : ∃ exc after, (ExecutionSession.openSession config.executionId).outcome
      (Replies.answer {} []) object = (.error exc, after) := by
    cases closed : object.closed with
    | true =>
        refine ⟨⟨.sessionClosedError, "session object was closed and cannot be reopened"⟩, object, ?_⟩
        simp [ExecutionSession.openSession, closed]
    | false =>
        refine ⟨⟨.journalError, "journal already open"⟩, { object with mutexOwned := false }, ?_⟩
        simp [ExecutionSession.openSession, ExecutionSession.mutexAcquire, ask, closed, whole.down,
          whole.free, ExecutionSession.openBody, ExecutionJournal.openJournal, loaded,
          ExecutionSession.mutexRelease, Replies.answer]
  obtain ⟨exc, after, raised⟩ := raised
  rw [(open_operation config _ _).1, outcome_bind, raised] at returns
  cases returns

theorem SessionState.Unopened.allOrNothing (unopened : object.Unopened)
    (unclosed : object.closed = false) : AllOrNothing config object := by
  refine ⟨unopened.down, unopened.free, ?_, ?_⟩
  · intro operation oracle other ending
    exact ⟨_, rfl, operation_refused unopened.down other ending⟩
  · intro oracle out opened opens
    obtain ⟨outcomeHere, issuedHere⟩ := open_operation config oracle object
    obtain ⟨outcomeFresh, issuedFresh⟩ := open_operation config oracle {}
    rw [outcomeHere, issuedHere, issuedFresh]
    rw [outcomeFresh] at opens
    rcases base : (ExecutionSession.openSession config.executionId).outcome oracle {} with
      ⟨exc | first, middle⟩
    · rw [outcome_bind, base] at opens
      cases opens
    · obtain ⟨same, calls⟩ := openSession_reopens object.snapshot base
      rw [← unopened.eq unclosed] at same calls
      have alike : (ExecutionSession.openSession config.executionId >>=
          afterOpen config).outcome oracle object =
            (ExecutionSession.openSession config.executionId >>= afterOpen config).outcome oracle
              {} := by
        rw [outcome_bind, same, outcome_bind, base]
      rw [alike, issued_bind, same, calls, issued_bind, base]
      exact ⟨opens, rfl⟩

/-- A failed `open()` is all or nothing exactly when it fails at the lock or at reading the journal
file, on an object that no earlier `open()` has brought further. -/
theorem open_all_or_nothing_iff (config : SessionConfig)
    (oracle : (command : Command) → Except Exc (Result command)) {object : SessionState}
    (unclosed : object.closed = false) {exc : Exc} {after : SessionState}
    (raised : (runOperation config .openSession).outcome oracle object = (.error exc, after)) :
    AllOrNothing config after ↔ object.Unopened ∧ OpenRefused oracle config.executionId := by
  constructor
  · intro whole
    exact (unopened_after_iff unclosed raised).1 whole.unopened
  · intro ⟨unopened, refused⟩
    obtain ⟨other, same⟩ := openSession_refused object.snapshot refused
    rw [← unopened.eq unclosed] at same
    have left : after = object := by
      have memory := open_operation_memory config oracle object
      rw [raised, same] at memory
      exact memory
    rw [left]
    exact unopened.allOrNothing unclosed

def contendedAnswer (command : Command) : Except Exc (Result command) :=
  match command with
  | .mutexAcquire => .error ⟨.osError, "locked"⟩
  | other => Replies.answer {} [] other

theorem open_all_or_nothing_contended : AllOrNothing sharedConfig
    ((runOperation sharedConfig .openSession).outcome contendedAnswer {}).2 := by
  have raised : (runOperation sharedConfig .openSession).outcome contendedAnswer {} =
      (.error ⟨.osError, "locked"⟩, {}) := rfl
  rw [raised]
  apply (open_all_or_nothing_iff sharedConfig contendedAnswer
    (by decide : ({} : SessionState).closed = false) raised).2
  exact ⟨⟨rfl, rfl, rfl⟩, .inl ⟨_, rfl⟩⟩

/-- After a session check that was not ready once, `open` raises `journal already open` for ever;
after a `_sync` that failed once, it has raised and left the session open. -/
theorem open_not_all_or_nothing :
    (∃ failed : SessionState, (runOperation plainConfig .openSession).outcome
        (Replies.answer { session := .ok ⟨false, true, true, ""⟩ } []) {} =
          (.error ⟨.runtimeError, "session verification failed"⟩, failed) ∧
      ((runOperation plainConfig .openSession).outcome (Replies.answer {} []) failed).1 =
        .error ⟨.journalError, "journal already open"⟩ ∧
      ¬ AllOrNothing plainConfig failed) ∧
    ∃ ended, (runOperation sharedConfig .openSession).outcome
        (Replies.answer { owned := .error ⟨.coordinationError, "database is locked"⟩ }
          (sessionRun sharedConfig unknownRun).2) {} = ended ∧
      ended.1.isOk = false ∧ ended.2.isOpen = true ∧ ended.2.mutexOwned = true := by
  constructor
  · refine ⟨_, rfl, rfl, ?_⟩
    intro whole
    cases whole.unopened.empty
  · refine ⟨_, rfl, ?_⟩
    decide +kernel

end QmtExecution
