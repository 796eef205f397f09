import QmtExecution.Guarantees.Answers
import QmtExecution.Resources.Rows

/-! Sessions at rest stay as they are: in FILLED, CANCELLED, REJECTED and FAILED only `poll`
touches the journal, and the coordinator is only told about the execution's own rows. -/

namespace QmtExecution

open Interaction Method Resources

/-- The journal but for what `update_observation` replaces. -/
def Payload.unobserved (payload : Payload) : Payload :=
  { payload with data := { payload.data with lastObservation := none } }

def Command.transaction : Command → Option CoordinatorCall
  | .prepare accountKey executionId request brokerAvailableCash requiredCash =>
      some (.prepare accountKey executionId request brokerAvailableCash requiredCash)
  | .restore accountKey executionId request requiredCash finality =>
      some (.restore accountKey executionId request requiredCash finality)
  | .updateFinality accountKey executionId request finality =>
      some (.updateFinality accountKey executionId request finality)
  | _ => none

def Intended (object : SessionState) (request : ExecutionRequest) : Prop :=
  ∃ payload, object.payload = some payload ∧
    payload.data.intent = some (Intent.ofRequest request)

/-- What `_sync` may ask for: account facts, and the coordinator about the execution's own
rows, for its durable request and with its finality. -/
def Command.Syncs (config : SessionConfig) (object : SessionState) : Command → Prop
  | .queryAsset | .estimate _ _ => True
  | .hasClaim accountKey executionId request =>
      accountKey = config.accountKey ∧ executionId = config.executionId ∧ Intended object request
  | .updateFinality accountKey executionId request finality =>
      accountKey = config.accountKey ∧ executionId = config.executionId ∧
        Intended object request ∧ finality = executionFinality object.snapshot
  | .restore accountKey executionId request _ finality =>
      accountKey = config.accountKey ∧ executionId = config.executionId ∧
        Intended object request ∧ finality = executionFinality object.snapshot ∧
          finality ≠ .resolved
  | _ => False

/-- What `poll` may ask for besides: the order, and to record the observation. -/
def Command.Polls (object : SessionState) : Command → Prop
  | .queryOrder _ => True
  | .journalWrite writer payload => (∃ order, writer = .updateObservation order) ∧
      some payload.unobserved = object.payload.map Payload.unobserved
  | _ => False

/-- The machine, and the journal but for its last observation, are the same. -/
def Still (object after : SessionState) : Prop :=
  after.snapshot = object.snapshot ∧
    after.payload.map Payload.unobserved = object.payload.map Payload.unobserved

theorem Still.refl (object : SessionState) : Still object object := ⟨rfl, rfl⟩

theorem Still.intended {object after : SessionState} {request : ExecutionRequest}
    (still : Still object after) (intended : Intended after request) : Intended object request := by
  obtain ⟨payload, held, intent⟩ := intended
  have same := still.2
  rw [held] at same
  cases before : object.payload with
  | none =>
      rw [before] at same
      cases same
  | some old =>
      rw [before] at same
      have data := congrArg (fun payload => payload.data.intent) (Option.some.inj same)
      exact ⟨old, before, data.symm.trans intent⟩

theorem Still.syncs {config : SessionConfig} {object after : SessionState} {command : Command}
    (still : Still object after) (syncs : command.Syncs config after) :
    command.Syncs config object := by
  cases command with
  | hasClaim => exact ⟨syncs.1, syncs.2.1, still.intended syncs.2.2⟩
  | updateFinality =>
      exact ⟨syncs.1, syncs.2.1, still.intended syncs.2.2.1, still.1 ▸ syncs.2.2.2⟩
  | restore =>
      exact ⟨syncs.1, syncs.2.1, still.intended syncs.2.2.1, still.1 ▸ syncs.2.2.2.1, syncs.2.2.2.2⟩
  | queryAsset => exact trivial
  | estimate => exact trivial
  | _ => exact syncs.elim

/-- The exception is not one of the machine, or a permitted call has raised it. -/
def Foreign (oracle : (command : Command) → Except Exc (Result command))
    (permits : Command → Prop) (exc : Exc) : Prop :=
  exc.isIllegal = true → ∃ command, permits command ∧ oracle command = .error exc

section

variable {oracle : (command : Command) → Except Exc (Result command)} {permits : Command → Prop}
  {exc : Exc}

theorem foreign_raised {command : Command} (permitted : permits command)
    (raised : oracle command = .error exc) : Foreign oracle permits exc :=
  fun _ => ⟨command, permitted, raised⟩

theorem foreign_benign (benign : exc.isIllegal = false) : Foreign oracle permits exc := by
  intro illegal
  rw [benign] at illegal
  cases illegal

end

/-- The method leaves the object as it is, asks for nothing else and raises nothing of the
machine. -/
abbrev Leaves {α : Type} (oracle : (command : Command) → Except Exc (Result command))
    (permits : Command → Prop) (method : SessionM α) (object : SessionState) : Prop :=
  Against oracle permits method object (fun _ after _ => after = object)
    (fun exc after _ => after = object ∧ Foreign oracle permits exc)

section Leaves

variable {α β : Type} {oracle : (command : Command) → Except Exc (Result command)}
  {permits : Command → Prop} {object : SessionState} {config : SessionConfig}

theorem leaves_pure (value : α) : Leaves oracle permits (pure value) object := rfl

theorem leaves_bind {method : SessionM β} {next : β → SessionM α}
    (first : Leaves oracle permits method object)
    (rest : ∀ value, Leaves oracle permits (next value) object) :
    Leaves oracle permits (method >>= next) object := by
  refine (meets_bind _ _).2 (Meets.weaken first ?_ fun _ _ _ post => post)
  rintro value after _ rfl
  exact rest value

theorem leaves_read {next : SessionState → SessionM α}
    (rest : Leaves oracle permits (next object) object) :
    Leaves oracle permits (read >>= next) object := (meets_bind _ _).2 rest

theorem leaves_raise {exc : Exc} (foreign : Foreign oracle permits exc) :
    Leaves oracle permits (raise exc : SessionM α) object := ⟨rfl, foreign⟩

theorem leaves_ask {command : Command} (permitted : permits command) :
    Leaves oracle permits (ask command) object :=
  against_ask permitted (fun _ _ => rfl) fun _ raised => ⟨rfl, foreign_raised permitted raised⟩

theorem leaves_attempt {method : SessionM β} {next : Except Exc β → SessionM α}
    (first : Leaves oracle permits method object)
    (returned : ∀ value, Leaves oracle permits (next (.ok value)) object)
    (raised : ∀ exc, Foreign oracle permits exc → Leaves oracle permits (next (.error exc)) object) :
    Leaves oracle permits (attempt method >>= next) object := by
  refine (meets_bind _ _).2 ((meets_attempt _).2 (Meets.weaken first ?_ ?_))
  · rintro value after _ rfl
    exact returned value
  · rintro exc after _ ⟨rfl, foreign⟩
    exact raised exc foreign

theorem leaves_requireOpen : Leaves oracle permits ExecutionSession.requireOpen object := by
  unfold ExecutionSession.requireOpen
  refine leaves_read ((meets_ite _ _ _).2 ⟨fun _ => ?_, fun _ => leaves_pure ()⟩)
  exact leaves_raise (foreign_benign rfl)

theorem leaves_snapshot {reason : String} :
    Leaves oracle permits (ExecutionSession.snapshot reason) object := leaves_read (leaves_pure _)

theorem leaves_durableRequest :
    Against oracle permits CoordinatedExecutionSession.durableRequest object
      (fun found after _ => after = object ∧ ∀ request, found = some request →
        Intended object request)
      (fun exc after _ => after = object ∧ Foreign oracle permits exc) := by
  unfold CoordinatedExecutionSession.durableRequest
  refine (meets_bind _ _).2 ?_
  simp only [meets_read]
  split
  · refine ⟨rfl, ?_⟩
    intro request found
    cases found
  · rename_i payload held
    split
    · refine ⟨rfl, ?_⟩
      intro request found
      cases found
    · rename_i intent intended
      refine (meets_bind _ _).2 (against_ofExcept (fun request rebuilt => ?_) fun exc failed => ?_)
      · refine ⟨rfl, fun other same => ?_⟩
        cases same
        exact ⟨payload, held,
          intended.trans (congrArg some (CoordinatedExecutionSession.request_of_ok rebuilt).symm)⟩
      · refine ⟨rfl, foreign_benign ?_⟩
        unfold CoordinatedExecutionSession.requestOf at failed
        split_ifs at failed
        cases failed
        rfl

theorem leaves_requiredCash (request : ExecutionRequest) :
    Leaves oracle (Command.Syncs config object)
      (CoordinatedExecutionSession.requiredCashForRestore config request) object := by
  unfold CoordinatedExecutionSession.requiredCashForRestore
  cases request.side with
  | sell => exact leaves_pure _
  | buy =>
      refine (meets_ite _ _ _).2 ⟨fun _ => leaves_raise (foreign_benign rfl), fun _ => ?_⟩
      refine leaves_attempt ?_ (fun _ => leaves_pure _) fun _ _ => leaves_raise (foreign_benign rfl)
      exact leaves_bind (leaves_ask trivial) fun _ => leaves_bind (leaves_ask trivial) fun _ =>
        leaves_pure _

theorem leaves_syncRequest {request : ExecutionRequest} (intended : Intended object request) :
    Leaves oracle (Command.Syncs config object)
      (CoordinatedExecutionSession.syncRequest config request) object := by
  have asks : Leaves oracle (Command.Syncs config object)
      (ask (.hasClaim config.accountKey config.executionId request)) object :=
    leaves_ask ⟨rfl, rfl, intended⟩
  have updates : Leaves oracle (Command.Syncs config object)
      (ask (.updateFinality config.accountKey config.executionId request
        (executionFinality object.snapshot))) object := leaves_ask ⟨rfl, rfl, intended, rfl⟩
  unfold CoordinatedExecutionSession.syncRequest
  refine leaves_read ((meets_ite _ _ _).2 ⟨fun _ => ?_, fun unresolved => ?_⟩)
  · refine leaves_attempt asks (fun owned => ?_) fun exc foreign => ?_
    · exact (meets_ite _ _ _).2 ⟨fun _ => updates, fun _ => leaves_pure ()⟩
    · exact (meets_ite _ _ _).2 ⟨fun _ => leaves_pure (), fun _ => leaves_raise foreign⟩
  · refine leaves_bind asks fun owned => (meets_ite _ _ _).2 ⟨fun _ => updates, fun _ => ?_⟩
    refine leaves_bind (leaves_requiredCash request) fun requiredCash => leaves_ask ?_
    exact ⟨rfl, rfl, intended, rfl, unresolved⟩

theorem leaves_sync (out : ExecutionSnapshot) :
    Leaves oracle (Command.Syncs config object) (CoordinatedExecutionSession.sync config out)
      object := by
  unfold CoordinatedExecutionSession.sync
  refine (meets_bind _ _).2 (Meets.weaken leaves_durableRequest ?_ fun _ _ _ post => post)
  rintro found after _ ⟨rfl, intended⟩
  cases found with
  | none => exact leaves_pure out
  | some request =>
      exact leaves_bind (leaves_syncRequest (intended request rfl)) fun _ => leaves_pure out

end Leaves

theorem resting_edge {state : TradeState} {event : TradeEvent} (resting : state ∈ restingStates)
    (other : event ≠ .nextCycle) : transitions state event = none := by
  cases state <;> first | exact absurd resting (by decide) | cases event <;>
    first | rfl | exact absurd rfl other

theorem observation_event {state : TradeState} {status : BrokerOrderStatus} {event : TradeEvent}
    (maps : eventForObservation state status = .ok (some event)) : event ≠ .nextCycle := by
  rintro rfl
  cases state <;> cases status <;> cases maps

section Resting

variable {oracle : (command : Command) → Except Exc (Result command)} {permits : Command → Prop}
  {object : SessionState} {config : SessionConfig}
  (resting : object.snapshot.state ∈ restingStates)

include resting

theorem leaves_reconcile (selfPoll : SessionM ExecutionSnapshot) :
    Leaves oracle permits (ExecutionSession.reconcile selfPoll) object := by
  unfold ExecutionSession.reconcile
  refine leaves_bind leaves_requireOpen fun _ => leaves_read ?_
  refine (meets_ite _ _ _).2 ⟨fun unknown => ?_, fun _ => (meets_ite _ _ _).2
    ⟨fun live => ?_, fun _ => leaves_snapshot⟩⟩
  · rw [unknown] at resting
    exact absurd resting (by decide)
  · revert live resting
    cases object.snapshot.state <;> simp [restingStates]

theorem leaves_cancel (selfPoll : SessionM ExecutionSnapshot) :
    Leaves oracle permits (ExecutionSession.cancel selfPoll) object := by
  unfold ExecutionSession.cancel
  refine leaves_bind leaves_requireOpen fun _ => leaves_read ?_
  refine (meets_ite _ _ _).2 ⟨fun _ => leaves_raise (foreign_benign rfl), fun live => ?_⟩
  revert live resting
  cases object.snapshot.state <;> simp [restingStates]

theorem leaves_submit (selfPoll : SessionM ExecutionSnapshot) (ports : SessionPorts)
    (request : ExecutionRequest) :
    Leaves oracle permits (ExecutionSession.submit selfPoll ports request) object := by
  unfold ExecutionSession.submit
  refine leaves_bind leaves_requireOpen fun _ => leaves_read ?_
  refine (meets_ite _ _ _).2 ⟨fun _ => leaves_raise (foreign_benign rfl), fun waiting => ?_⟩
  rw [not_not.1 waiting] at resting
  exact absurd resting (by decide)

theorem refused_transition {event : TradeEvent} (other : event ≠ .nextCycle) {details : Details} :
    Against oracle permits (ExecutionSession.transition event details) object
      (fun _ _ _ => False) (fun _ after _ => after = object) := by
  unfold ExecutionSession.transition
  refine (meets_bind _ _).2 ?_
  simp only [meets_read, advance_unlisted (resting_edge resting other)]
  exact (meets_bind _ _).2 rfl

theorem refused_toUnknown {reason : String} :
    Against oracle permits (ExecutionSession.toUnknown reason) object
      (fun _ _ _ => False) (fun _ after _ => after = object) := by
  unfold ExecutionSession.toUnknown
  refine (meets_bind _ _).2 ?_
  simp only [meets_read, meets_ite]
  exact ⟨fun _ => refused_transition resting (by decide), fun _ =>
    ⟨fun _ => refused_transition resting (by decide), fun _ => refused_transition resting (by decide)⟩⟩

end Resting

/-- The poll of a session at rest asks for the order and records no more than an observation. -/
abbrev Observes {α : Type} (oracle : (command : Command) → Except Exc (Result command))
    (object : SessionState) (method : SessionM α) (current : SessionState) : Prop :=
  Against oracle (Command.Polls object) method current (fun _ after _ => Still object after)
    (fun _ after _ => Still object after)

section Polling

variable {oracle : (command : Command) → Except Exc (Result command)}
  {object current : SessionState} {order : BrokerOrder}

theorem observes_refused {method : SessionM Unit} {next : SessionM ExecutionSnapshot}
    (still : Still object current)
    (refused : Against oracle (Command.Polls object) method current (fun _ _ _ => False)
      (fun _ after _ => after = current)) :
    Observes oracle object (do method; next) current := by
  refine (meets_bind _ _).2 (Meets.weaken refused (fun _ _ _ post => post.elim) ?_)
  rintro exc after _ rfl
  exact still

theorem observes_snapshot {reason : String} (still : Still object current) :
    Observes oracle object (ExecutionSession.snapshot reason) current := (meets_bind _ _).2 still

theorem observes_applied (still : Still object current)
    (resting : current.snapshot.state ∈ restingStates) :
    Observes oracle object (do
      let self ← read
      match eventForObservation self.snapshot.state order.status with
      | .error exc =>
          ExecutionSession.toUnknown exc.message
          ExecutionSession.snapshot exc.message
      | .ok (some event) =>
          ExecutionSession.transition event [("broker_order_id", .number order.orderId),
            ("broker_status", .text order.status.value), ("filled_qty", .number order.filledQty)]
          ExecutionSession.snapshot
      | .ok none => ExecutionSession.snapshot) current := by
  refine (meets_bind _ _).2 ?_
  simp only [meets_read]
  split
  · exact observes_refused still (refused_toUnknown resting)
  · rename_i event maps
    exact observes_refused still (refused_transition resting (observation_event maps))
  · exact observes_snapshot still

theorem observes_applyObservation (resting : object.snapshot.state ∈ restingStates) :
    Observes oracle object (ExecutionSession.applyObservation order) object := by
  have still := Still.refl object
  unfold ExecutionSession.applyObservation
  cases held : object.payload with
  | none =>
      refine (meets_bind _ _).2 ?_
      simpa [ExecutionJournal.requireOpen, held] using still
  | some payload =>
      refine (meets_bind _ _).2 (against_journal_requireOpen held ?_)
      refine (meets_bind _ _).2 (against_ofExcept (fun _ _ => ?_) fun _ _ => still)
      refine (meets_ite _ _ _).2 ⟨fun _ => ?_, fun _ => ?_⟩
      · exact observes_refused still (refused_transition resting (by decide))
      · have observed : Still object { object with payload := some { payload with
            data := { payload.data with
              lastObservation := some ⟨order.status, order.filledQty, order.averageFillPrice⟩ } } } :=
          ⟨rfl, by rw [held]; rfl⟩
        refine (meets_bind _ _).2 ?_
        unfold ExecutionJournal.updateObservation
        refine (meets_bind _ _).2 (against_journal_requireOpen held ?_)
        refine against_writeData held ⟨⟨order, rfl⟩, observed.2⟩ ?_ fun _ => observed
        exact observes_applied observed resting

theorem observes_poll (resting : object.snapshot.state ∈ restingStates) :
    Observes oracle object ExecutionSession.poll object := by
  have still := Still.refl object
  unfold ExecutionSession.poll
  refine (meets_bind _ _).2 (Meets.weaken leaves_requireOpen ?_ ?_)
  · rintro _ after _ rfl
    cases held : after.payload with
    | none =>
        refine (meets_bind _ _).2 ?_
        simpa [ExecutionJournal.requireOpen, held] using still
    | some payload =>
        refine (meets_bind _ _).2 (against_journal_requireOpen held ?_)
        split
        · refine (meets_bind _ _).2 ?_
          simp only [meets_read, meets_ite]
          refine ⟨fun unknown => ?_, fun _ => still⟩
          rw [unknown] at resting
          exact absurd resting (by decide)
        · refine (meets_ite _ _ _).2 ⟨fun _ => still, fun _ => ?_⟩
          refine (meets_bind _ _).2 ((meets_attempt _).2 (against_ask trivial (fun order _ => ?_)
            fun exc _ => ?_))
          · exact observes_applyObservation resting
          · refine (meets_ite _ _ _).2 ⟨fun _ => ?_, fun _ => still⟩
            exact observes_refused still (refused_toUnknown resting)
  · rintro exc after _ ⟨rfl, -⟩
    exact still

end Polling

def Operation.Permits (operation : Operation) (config : SessionConfig) (object : SessionState)
    (command : Command) : Prop :=
  config.coordinated = true ∧ command.Syncs config object ∨
    operation = .poll ∧ command.Polls object ∨ operation = .close ∧ command = .mutexRelease

/-- An operation that leaves the machine and the journal but for the last observation, which
only `poll` replaces; the others leave the whole object, but for `close`, and raise nothing
of the machine. -/
structure Rests (config : SessionConfig)
    (oracle : (command : Command) → Except Exc (Result command)) (object : SessionState)
    (operation : Operation) : Prop where
  calls : ∀ command ∈ (runOperation config operation).issued oracle object,
    operation.Permits config object command
  still : Still object ((runOperation config operation).outcome oracle object).2
  unmoved : operation ≠ .poll → operation ≠ .close →
    ((runOperation config operation).outcome oracle object).2 = object
  legal : operation ≠ .poll → operation ≠ .close → ∀ exc,
    ((runOperation config operation).outcome oracle object).1 = .error exc →
      Foreign oracle (Command.Syncs config object) exc

section Operations

variable {oracle : (command : Command) → Except Exc (Result command)} {object : SessionState}
  {config : SessionConfig} {operation : Operation}

theorem Leaves.rests {method : SessionM ExecutionSnapshot}
    (leaves : Leaves oracle (Command.Syncs config object) method object)
    (quiet : config.coordinated = false →
      Leaves oracle (fun _ => False) method object)
    (runs : runOperation config operation = some <$> method) : Rests config oracle object operation := by
  have taken : Leaves oracle (Command.Syncs config object) (some <$> method) object :=
    leaves_bind leaves fun value => leaves_pure (some value)
  obtain ⟨calls, post⟩ := meets_oracle taken
  have kept : ((some <$> method).outcome oracle object).2 = object ∧ ∀ exc,
      ((some <$> method).outcome oracle object).1 = .error exc →
        Foreign oracle (Command.Syncs config object) exc := by
    rcases result : (some <$> method).outcome oracle object with ⟨exc | out, after⟩
    all_goals rw [result] at post
    · refine ⟨post.1, fun other same => ?_⟩
      cases same
      exact post.2
    · exact ⟨post, nofun⟩
  refine ⟨fun command member => ?_, ?_, fun _ _ => ?_, fun _ _ => ?_⟩
  · rw [runs] at member
    cases shared : config.coordinated with
    | true => exact .inl ⟨shared, calls command member⟩
    | false =>
        have alone : Leaves oracle (fun _ => False) (some <$> method) object :=
          leaves_bind (quiet shared) fun value => leaves_pure (some value)
        exact ((meets_oracle alone).1 command member).elim
  · rw [runs, kept.1]
    exact .refl object
  · rw [runs]
    exact kept.1
  · rw [runs]
    exact kept.2

theorem rests_synced {method shared : SessionM ExecutionSnapshot}
    (leaves : ∀ permits, Leaves oracle permits method object)
    (also : ∀ permits, Leaves oracle permits shared object)
    (runs : runOperation config operation = some <$> if config.coordinated then (do
      let out ← shared
      CoordinatedExecutionSession.sync config out) else method) :
    Rests config oracle object operation := by
  refine Leaves.rests ?_ (fun alone => ?_) runs
  · exact (meets_ite _ _ _).2 ⟨fun _ => leaves_bind (also _) leaves_sync, fun _ => leaves _⟩
  · rw [alone]
    exact leaves _

theorem leaves_open (known : object.isOpen = true ∨ object.closed = true) (executionId : String)
    (permits : Command → Prop) :
    Leaves oracle permits (ExecutionSession.openSession executionId) object := by
  unfold ExecutionSession.openSession
  refine leaves_read ((meets_ite _ _ _).2 ⟨fun _ => leaves_raise (foreign_benign rfl),
    fun unclosed => (meets_ite _ _ _).2 ⟨fun _ => leaves_snapshot, fun down => ?_⟩⟩)
  exact absurd known (by simp [unclosed, down])

theorem rests_close : Rests config oracle object .close := by
  have closes : Against oracle (Operation.close.Permits config object)
      (do ExecutionSession.close; pure none) object (fun (_ : Option ExecutionSnapshot) after _ =>
        Still object after) (fun _ after _ => Still object after) := by
    unfold ExecutionSession.close ExecutionSession.mutexRelease
    simp only [Against, meets_bind, meets_read, meets_ite, meets_pure, meets_update]
    refine ⟨fun _ => .refl object, fun _ => ⟨fun _ => ⟨rfl, rfl⟩, fun _ => ?_⟩⟩
    exact against_ask (.inr (.inr ⟨rfl, rfl⟩)) (fun _ _ => ⟨rfl, rfl⟩) fun _ _ => ⟨rfl, rfl⟩
  have runs : runOperation config .close = (do ExecutionSession.close; pure none) := by
    unfold runOperation
    cases config.coordinated <;> rfl
  obtain ⟨calls, post⟩ := meets_oracle closes
  refine ⟨runs ▸ calls, ?_, fun _ other => absurd rfl other, fun _ other => absurd rfl other⟩
  rw [runs]
  rcases result : (do ExecutionSession.close; pure none :
    SessionM (Option ExecutionSnapshot)).outcome oracle object with ⟨exc | out, after⟩
  all_goals
    rw [result] at post
    exact post

theorem rests_poll (resting : object.snapshot.state ∈ restingStates) :
    Rests config oracle object .poll := by
  have plain : Against oracle (Operation.poll.Permits config object) ExecutionSession.poll object
      (fun _ after _ => Still object after) (fun _ after _ => Still object after) :=
    Program.Obeys.allow (observes_poll resting) fun _ _ polls => .inr (.inl ⟨rfl, polls⟩)
  have polls : Against oracle (Operation.poll.Permits config object)
      (runOperation config .poll) object
      (fun _ after _ => Still object after) (fun _ after _ => Still object after) := by
    unfold runOperation
    cases shared : config.coordinated with
    | false => exact (meets_bind _ _).2 plain
    | true =>
        refine (meets_bind _ _).2 ((meets_bind _ _).2 (Meets.weaken plain ?_ fun _ _ _ post => post))
        intro out after _ still
        have synced : Against oracle (Operation.poll.Permits config object)
            (CoordinatedExecutionSession.sync config out) after (fun _ last _ => last = after)
            (fun exc last _ => last = after ∧ Foreign oracle (Command.Syncs config after) exc) :=
          Program.Obeys.allow (leaves_sync out) fun _ _ syncs => .inl ⟨shared, still.syncs syncs⟩
        refine Meets.weaken synced ?_ ?_
        · rintro _ last _ rfl
          exact still
        · rintro exc last _ ⟨rfl, -⟩
          exact still
  obtain ⟨calls, post⟩ := meets_oracle polls
  refine ⟨calls, ?_, fun other => absurd rfl other, fun other => absurd rfl other⟩
  rcases result : (runOperation config .poll).outcome oracle object with ⟨exc | out, after⟩
  all_goals
    rw [result] at post
    exact post

theorem Command.Syncs.transaction {command : Command} {call : CoordinatorCall}
    (syncs : command.Syncs config object) (asks : command.transaction = some call) :
    call.accountKey = config.accountKey ∧ call.executionId = config.executionId ∧
      Intended object call.request ∧
      (call.releases = true ↔ executionFinality object.snapshot = .resolved) := by
  cases command <;> cases asks
  case prepare => exact syncs.elim
  case restore =>
    obtain ⟨account, execution, intended, rfl, unresolved⟩ := syncs
    exact ⟨account, execution, intended, by simp [CoordinatorCall.releases]⟩
  case updateFinality =>
    obtain ⟨account, execution, intended, rfl⟩ := syncs
    exact ⟨account, execution, intended, by simp [CoordinatorCall.releases]⟩

end Operations

/-- Every session at rest keeps its machine, its intent, its order id and its history under
every operation but `next_cycle`, whatever is answered; only `poll` may replace the last
observation. Its transactions are about its own rows, and release them when it is resolved. -/
theorem resting_sessions_stable (config : SessionConfig)
    (oracle : (command : Command) → Except Exc (Result command)) {object : SessionState}
    (resting : object.snapshot.state ∈ restingStates) {operation : Operation}
    (other : operation ≠ .nextCycle)
    (known : operation = .openSession → object.isOpen = true ∨ object.closed = true) :
    Rests config oracle object operation ∧
      ∀ command ∈ (runOperation config operation).issued oracle object, ∀ call,
        command.transaction = some call →
          call.accountKey = config.accountKey ∧ call.executionId = config.executionId ∧
          Intended object call.request ∧
          (call.releases = true ↔ executionFinality object.snapshot = .resolved) ∧
          ∀ db : CoordinationStore, Keyed SymbolClaim.slot db.symbolClaim →
            (db.after call).others call.holder = db.others call.holder ∧
            ∀ after, call.releases = true → call.execute db = .ok after →
              CoordinationStore.Releases db after call.holder call.request.symbol := by
  have rests : Rests config oracle object operation := by
    cases operation with
    | nextCycle => exact absurd rfl other
    | poll => exact rests_poll resting
    | close => exact rests_close
    | openSession =>
        refine rests_synced (fun permits => leaves_open (known rfl) config.executionId permits)
          (fun permits => leaves_open (known rfl) config.executionId permits) ?_
        unfold runOperation
        cases config.coordinated <;> rfl
    | reconcile =>
        refine rests_synced (fun _ => leaves_reconcile resting ExecutionSession.poll)
          (fun _ => leaves_reconcile resting (CoordinatedExecutionSession.poll config)) ?_
        unfold runOperation
        cases config.coordinated <;> rfl
    | cancel =>
        refine rests_synced (fun _ => leaves_cancel resting ExecutionSession.poll)
          (fun _ => leaves_cancel resting (CoordinatedExecutionSession.poll config)) ?_
        unfold runOperation
        cases config.coordinated <;> rfl
    | submit request =>
        refine rests_synced
          (fun _ => leaves_submit resting ExecutionSession.poll ExecutionSession.ports request)
          (fun _ => leaves_submit resting (CoordinatedExecutionSession.poll config)
            (CoordinatedExecutionSession.ports config) request) ?_
        unfold runOperation
        cases config.coordinated <;> rfl
  refine ⟨rests, fun command member call asks => ?_⟩
  have syncs : command.Syncs config object := by
    rcases rests.calls command member with ⟨-, syncs⟩ | ⟨-, polls⟩ | ⟨-, rfl⟩
    · exact syncs
    · cases command <;> cases asks <;> exact polls.elim
    · cases asks
  obtain ⟨account, execution, intended, releases⟩ := syncs.transaction asks
  refine ⟨account, execution, intended, releases, fun db keyed => ⟨after_others keyed call, ?_⟩⟩
  intro after given done
  have effect := execute_ok done
  rwa [given, if_pos rfl] at effect

def quarantinedRun : List SessionDeed := unknownRun ++ call .reconcile

def filledRun : List SessionDeed :=
  [.start] ++ call .openSession ++ call (.submit sampleRequest) { order := .ok (sampleOrder .filled 100) }

/-- A quarantined session without its claim makes rows of its own, and a poll of a filled one
replaces the last observation and raises InvalidTransition. -/
theorem resting_session_moves :
    (∃ object, (sessionRun sharedConfig quarantinedRun).1 = .idle object ∧
      object.snapshot.state = .failed ∧
      ∃ command ∈ (runOperation sharedConfig .reconcile).issued
        (({ owned := .ok false } : Replies).answer []) object,
        ∃ call, command.transaction = some call ∧ CoordinationStore.after {} call ≠ {}) ∧
    ∃ object, (sessionRun plainConfig filledRun).1 = .idle object ∧
      object.snapshot.state = .filled ∧ ∃ exc after, (runOperation plainConfig .poll).outcome
        (({ order := .ok (sampleOrder .working 100) } : Replies).answer []) object =
          (.error exc, after) ∧ exc.cls = .invalidTransition ∧ after.payload ≠ object.payload := by
  constructor
  · have found : (sessionRun sharedConfig quarantinedRun).1.memory.any (fun object =>
        object.snapshot.state = .failed && ((runOperation sharedConfig .reconcile).issued
          (({ owned := .ok false } : Replies).answer []) object).any fun command =>
            command.transaction.any fun call => CoordinationStore.after {} call ≠ {}) = true := by
      decide +kernel
    obtain ⟨object, memory, facts⟩ := (Option.any_eq_true _ _).1 found
    rw [Bool.and_eq_true] at facts
    obtain ⟨command, member, asks⟩ := List.any_eq_true.1 facts.2
    obtain ⟨call, transaction, moves⟩ := (Option.any_eq_true _ _).1 asks
    exact ⟨object, Phase.memory_eq memory, of_decide_eq_true facts.1, command, member, call,
      transaction, of_decide_eq_true moves⟩
  · have found : (sessionRun plainConfig filledRun).1.memory.any (fun object =>
        object.snapshot.state = .filled && match (runOperation plainConfig .poll).outcome
          (({ order := .ok (sampleOrder .working 100) } : Replies).answer []) object with
        | (.error exc, after) => exc.cls = .invalidTransition && after.payload ≠ object.payload
        | (.ok _, _) => false) = true := by decide +kernel
    obtain ⟨object, memory, facts⟩ := (Option.any_eq_true _ _).1 found
    rw [Bool.and_eq_true] at facts
    obtain ⟨state, moves⟩ := facts
    refine ⟨object, Phase.memory_eq memory, of_decide_eq_true state, ?_⟩
    split at moves
    · rename_i exc after result
      rw [Bool.and_eq_true] at moves
      exact ⟨exc, after, result, of_decide_eq_true moves.1, of_decide_eq_true moves.2⟩
    · cases moves

def besideTables : CoordinationStore where
  symbolClaim := [⟨"a1", "510300.SH", "e1", "c1", .open⟩, ⟨"a1", "511880.SH", "e9", "c9", .open⟩]
  cashReservation := [⟨"a1", "e1", "c1", "510300.SH", 400, true⟩,
    ⟨"a1", "e9", "c9", "511880.SH", 100, true⟩]

/-- A filled session stays so when it is polled, and its `reconcile` gives up its rows beside those
of another execution. -/
theorem resting_sessions_stable_filled :
    (∃ object, (sessionRun plainConfig filledRun).1 = .idle object ∧
      ((runOperation plainConfig .poll).outcome
        (({ order := .ok (sampleOrder .working 100) } : Replies).answer []) object).2.snapshot =
          object.snapshot) ∧
    ∃ object, (sessionRun sharedConfig filledRun).1 = .idle object ∧
      ∃ command ∈ (runOperation sharedConfig .reconcile).issued (({} : Replies).answer []) object,
      ∃ call after, command.transaction = some call ∧ call.execute besideTables = .ok after ∧
        call.holder.accountKey = "a1" ∧ call.holder.executionId = "e1" ∧
        (besideTables.after call).others call.holder = besideTables.others call.holder ∧
        CoordinationStore.Releases besideTables after call.holder call.request.symbol := by
  constructor
  · have found : (sessionRun plainConfig filledRun).1.memory.any (fun object =>
        object.snapshot.state = .filled) = true := by decide +kernel
    obtain ⟨object, memory, state⟩ := (Option.any_eq_true _ _).1 found
    have resting : object.snapshot.state ∈ restingStates := by
      rw [of_decide_eq_true state]
      decide
    have polls : Operation.poll ≠ .nextCycle := nofun
    have stable := resting_sessions_stable plainConfig
      (({ order := .ok (sampleOrder .working 100) } : Replies).answer []) resting polls nofun
    exact ⟨object, Phase.memory_eq memory, stable.1.still.1⟩
  · have found : (sessionRun sharedConfig filledRun).1.memory.any (fun object =>
        (object.snapshot.state = .filled && executionFinality object.snapshot = .resolved) &&
          ((runOperation sharedConfig .reconcile).issued (({} : Replies).answer []) object).any
            fun command => command.transaction.any fun call =>
              (call.execute besideTables).isOk) = true := by decide +kernel
    obtain ⟨object, memory, facts⟩ := (Option.any_eq_true _ _).1 found
    simp only [Bool.and_eq_true, decide_eq_true_eq] at facts
    obtain ⟨⟨state, resolved⟩, asks⟩ := facts
    obtain ⟨command, member, asks⟩ := List.any_eq_true.1 asks
    obtain ⟨call, transaction, commits⟩ := (Option.any_eq_true _ _).1 asks
    have resting : object.snapshot.state ∈ restingStates := by
      rw [state]
      decide
    have reconciles : Operation.reconcile ≠ .nextCycle := nofun
    have stable := resting_sessions_stable sharedConfig (({} : Replies).answer []) resting reconciles
      nofun
    obtain ⟨account, execution, -, releases, rows⟩ := stable.2 command member call transaction
    obtain ⟨others, releasing⟩ := rows besideTables (by simp [Keyed, besideTables, SymbolClaim.slot])
    cases executed : call.execute besideTables with
    | error exc =>
        rw [executed] at commits
        cases commits
    | ok after =>
        exact ⟨object, Phase.memory_eq memory, command, member, call, after, transaction, executed,
          account, execution, others, releasing after (releases.2 resolved) executed⟩

end QmtExecution
