import QmtExecution.Outcomes
import QmtExecution.Protocol.Environment

/-! When a broker answer is a legal event: exactly the answers that `stuck` names, delivered
in the state it names, make a session raise InvalidTransition. -/

namespace QmtExecution

open Interaction Method

def Exc.isIllegal (exc : Exc) : Bool :=
  exc.cls = .invalidTransition || exc.cls = .invariantViolation

def Legal {α : Type} (result : Except Exc α × SessionState) : Prop :=
  ∀ exc, result.1 = .error exc → exc.isIllegal = false

def unsentStates : List TradeState := [.idle, .waitTrigger, .trigger, .preCheck, .submitted]

def restingStates : List TradeState := [.filled, .cancelled, .rejected, .failed]

/-- The machine has no step for the order: it reports less filled than the last observation
where there is no FATAL, or an unknown status where there is no way to UNKNOWN, or a pending
cancellation that this session has no durable intent for. -/
def stuck (machine : MachineSnapshot) (data : JournalData) (order : BrokerOrder) : Bool :=
  if ExecutionSession.movedBackwards data order then
    machine.state ∈ [TradeState.unknown, .cancelRejected]
  else
    (order.status = .unknown && machine.state ∈ unsentStates) ||
      (order.status = .cancelPending &&
        (machine.state = .unknown && !machine.facts.cancelIntentPersisted))

def refused (machine : MachineSnapshot) (data : JournalData) (order : BrokerOrder) : Bool :=
  ExecutionSession.movedBackwards data order || order.status = .unknown ||
    !(eventForObservation machine.state order.status).isOk

section Machine

variable {machine : MachineSnapshot} {data : JournalData} {order : BrokerOrder}

theorem advance_unlisted {event : TradeEvent} (edge : transitions machine.state event = none) :
    advance machine event = .error ⟨.invalidTransition,
      "event '" ++ event.value ++ "' invalid from '" ++ machine.state.value ++ "'"⟩ := by
  simp only [advance, edge]

theorem advance_fatal (sound : machine.Sound) (live : machine.state ∉ restingStates) :
    if machine.state ∈ [TradeState.unknown, .cancelRejected] then
      ∃ exc, advance machine .fatal = .error exc ∧ exc.isIllegal = true
    else ∃ result, advance machine .fatal = .ok result ∧ result.state = .failed := by
  split_ifs with unfailing
  · have edge : transitions machine.state .fatal = none := by
      simp only [List.mem_cons, List.not_mem_nil, or_false] at unfailing
      rcases unfailing with state | state <;> rw [state] <;> rfl
    exact ⟨_, advance_unlisted edge, rfl⟩
  · refine advance_enabled sound ?_ (by decide) nofun
    revert unfailing live
    cases machine.state <;> simp [restingStates, transitions]

def listed (state : TradeState) (status : BrokerOrderStatus) : Bool :=
  match eventForObservation state status with
  | .ok (some event) => (transitions state event).isSome
  | _ => true

theorem listed_iff {state : TradeState} (status : BrokerOrderStatus)
    (live : state ∉ restingStates) :
    listed state status = !(status = .unknown && state ∈ unsentStates) := by
  revert live
  cases state <;> cases status <;> decide

theorem recovers_cancelling {state : TradeState} {status : BrokerOrderStatus}
    (refines : eventForObservation state status = .ok (some .recoveryCancelling)) :
    status = .cancelPending ∧ (state = .unknown ∨ state = .cancelRejected) := by
  cases state <;> cases status <;> cases refines <;> decide

theorem transitions_queryAmbiguous {state state' : TradeState}
    (edge : transitions state .queryAmbiguous = some state') : state' = .unknown := by
  cases state <;> cases edge <;> rfl

theorem observation_enabled (sound : machine.Sound) (live : machine.state ∉ restingStates)
    (forwards : ExecutionSession.movedBackwards data order = false)
    (free : stuck machine data order = false) {event : TradeEvent}
    (refines : eventForObservation machine.state order.status = .ok (some event)) :
    ∃ result, advance machine event = .ok result ∧
      (order.status = .unknown → result.state = .unknown) := by
  simp only [stuck, forwards, Bool.false_eq_true, if_false, Bool.or_eq_false_iff] at free
  have edge : listed machine.state order.status = true := by
    rw [listed_iff _ live, free.1]
    rfl
  rw [listed, refines] at edge
  obtain ⟨next, edge⟩ := Option.isSome_iff_exists.1 edge
  have plain : event ∉ [TradeEvent.sessionReady, .precheckVerified, .intentPersisted] := by
    rcases event_for_observation_ok refines with rfl | rfl | member
    · decide
    · decide
    · revert member
      cases event <;> decide
  have pending : event = .recoveryCancelling → machine.facts.cancelIntentPersisted = true := by
    rintro rfl
    have fit := sound.fit
    obtain ⟨status, unknown | rejected⟩ := recovers_cancelling refines
    · simpa [status, unknown] using free.2
    · rw [rejected] at fit
      exact fit.2.2.2.2
  obtain ⟨result, step, same⟩ := advance_enabled sound edge plain pending
  refine ⟨result, step, fun status => ?_⟩
  simp only [eventForObservation, status, if_true] at refines
  cases refines
  exact same.trans (transitions_queryAmbiguous edge)

theorem observation_refused
    (forwards : ExecutionSession.movedBackwards data order = false)
    (stopped : stuck machine data order = true) : ∃ event exc,
    eventForObservation machine.state order.status = .ok (some event) ∧
      advance machine event = .error exc ∧ exc.isIllegal = true := by
  simp only [stuck, forwards, Bool.false_eq_true, if_false, Bool.or_eq_true, Bool.and_eq_true,
    decide_eq_true_eq, Bool.not_eq_true'] at stopped
  rcases stopped with ⟨status, unsent⟩ | ⟨status, unknown, unintended⟩
  · have edge : transitions machine.state .queryAmbiguous = none := by
      revert unsent
      cases machine.state <;> simp [unsentStates, transitions]
    refine ⟨.queryAmbiguous, _, by simp [eventForObservation, status], advance_unlisted edge, rfl⟩
  · have unbacked : advance machine .recoveryCancelling = .error ⟨.invalidTransition,
        "cannot recover CANCEL_PENDING without durable cancel intent"⟩ := by
      simp [advance, transitions, unknown, unintended]
    refine ⟨.recoveryCancelling, _, ?_, unbacked, rfl⟩
    simp [eventForObservation, status, unknown, recoveryEvent]

end Machine

def stops (machine : MachineSnapshot) (data : JournalData) : Except Exc BrokerOrder → Bool
  | .ok order => stuck machine data order
  | .error _ => false

/-- The answer fails the query, or its order cannot be adopted in this state. -/
def declines (machine : MachineSnapshot) (data : JournalData) : Except Exc BrokerOrder → Bool
  | .ok order => refused machine data order
  | .error _ => true

/-- What an answer makes of the session: one that stops the machine raises, any other
returns, and what cannot be adopted leaves the session UNKNOWN or FAILED. -/
structure Absorbed {α : Type} (machine : MachineSnapshot) (data : JournalData)
    (reply : Except Exc BrokerOrder) (result : Except Exc α × SessionState) : Prop where
  stopped : stops machine data reply = true → ∃ exc, result.1 = .error exc ∧ exc.isIllegal = true
  returned : stops machine data reply = false → ∃ out, result.1 = .ok out
  declined : stops machine data reply = false → declines machine data reply = true →
    result.2.snapshot.state ∈ [TradeState.unknown, .failed]

section Absorbed

variable {α β : Type} {machine machine' : MachineSnapshot} {data data' : JournalData}
  {reply : Except Exc BrokerOrder} {after : SessionState}

theorem Absorbed.raising {exc : Exc} (stopped : stops machine data reply = true)
    (illegal : exc.isIllegal = true) :
    Absorbed machine data reply ((.error exc, after) : Except Exc α × SessionState) where
  stopped := fun _ => ⟨exc, rfl, illegal⟩
  returned := fun free => by simp [stopped] at free
  declined := fun free => by simp [stopped] at free

theorem Absorbed.returning {out : α} (free : stops machine data reply = false)
    (ending : declines machine data reply = true →
      after.snapshot.state ∈ [TradeState.unknown, .failed]) :
    Absorbed machine data reply (.ok out, after) where
  stopped := fun stopped => by simp [stopped] at free
  returned := fun _ => ⟨out, rfl⟩
  declined := fun _ => ending

theorem Absorbed.congr {result : Except Exc α × SessionState}
    (absorbed : Absorbed machine data reply result) (state : machine.state = machine'.state)
    (cancelling : machine.state = .unknown →
      machine.facts.cancelIntentPersisted = machine'.facts.cancelIntentPersisted)
    (same : data.lastObservation = data'.lastObservation) : Absorbed machine' data' reply result := by
  have backwards (order : BrokerOrder) : ExecutionSession.movedBackwards data order =
      ExecutionSession.movedBackwards data' order := by
    simp [ExecutionSession.movedBackwards, same]
  have stops : stops machine data reply = stops machine' data' reply := by
    cases reply with
    | error exc => rfl
    | ok order =>
        by_cases unknown : machine.state = .unknown
        · simp [stops, stuck, backwards, ← state, cancelling unknown]
        · simp [stops, stuck, backwards, ← state, unknown]
  have declines : declines machine data reply = declines machine' data' reply := by
    cases reply with
    | error exc => rfl
    | ok order => simp [declines, refused, backwards, state]
  exact ⟨stops ▸ absorbed.stopped, stops ▸ absorbed.returned,
    stops ▸ declines ▸ absorbed.declined⟩

theorem Absorbed.legal_iff {result : Except Exc α × SessionState}
    (absorbed : Absorbed machine data reply result) :
    Legal result ↔ stops machine data reply = false := by
  constructor
  · intro legal
    by_contra stopped
    obtain ⟨exc, raised, illegal⟩ := absorbed.stopped (by simpa using stopped)
    rw [legal exc raised] at illegal
    cases illegal
  · intro free exc raised
    obtain ⟨out, returned⟩ := absorbed.returned free
    rw [returned] at raised
    cases raised

theorem Absorbed.bind {oracle : (command : Command) → Except Exc (Result command)}
    {object : SessionState} {method : SessionM β} {next : β → SessionM α}
    (absorbed : Absorbed machine data reply (method.outcome oracle object))
    (rest : ∀ value after, ∃ out last, (next value).outcome oracle after = (.ok out, last) ∧
      last.snapshot = after.snapshot) :
    Absorbed machine data reply ((method >>= next).outcome oracle object) := by
  rw [outcome_bind]
  rcases same : method.outcome oracle object with ⟨exc | value, after⟩
  · rw [same] at absorbed
    refine ⟨fun stopped => ?_, fun free => ?_, absorbed.declined⟩
    · obtain ⟨raised, equal, illegal⟩ := absorbed.stopped stopped
      cases equal
      exact ⟨exc, rfl, illegal⟩
    · obtain ⟨out, equal⟩ := absorbed.returned free
      cases equal
  · rw [same] at absorbed
    obtain ⟨out, last, returns, unchanged⟩ := rest value after
    simp only [returns]
    refine ⟨fun stopped => ?_, fun _ => ⟨out, rfl⟩, fun free declined => ?_⟩
    · obtain ⟨raised, equal, illegal⟩ := absorbed.stopped stopped
      cases equal
    · rw [unchanged]
      exact absorbed.declined free declined

theorem Absorbed.next {oracle : (command : Command) → Except Exc (Result command)}
    {object : SessionState} {method : SessionM β} {next : β → SessionM α} {value : β}
    (returns : method.outcome oracle object = (.ok value, after))
    (rest : Absorbed machine data reply ((next value).outcome oracle after)) :
    Absorbed machine data reply ((method >>= next).outcome oracle object) := by
  rw [outcome_bind, returns]
  exact rest

end Absorbed

/-- A session whose writes complete, in a state that the broker can still move. -/
structure Standing (oracle : (command : Command) → Except Exc (Result command))
    (object : SessionState) (payload : Payload) : Prop where
  writes : Writes oracle
  held : object.payload = some payload
  agrees : object.snapshot = payload.machine
  sound : payload.machine.Sound
  live : payload.machine.state ∉ restingStates

theorem Standing.step {oracle : (command : Command) → Except Exc (Result command)}
    {object : SessionState} {payload : Payload} (standing : Standing oracle object payload)
    {event : TradeEvent} (details : Details) {session : Option SessionEvidence}
    {precheck : Option PrecheckEvidence} {result : MachineSnapshot}
    (step : advance payload.machine event session precheck = .ok result)
    (live : result.state ∉ restingStates) : Standing oracle
      { object with snapshot := result, payload := some (payload.record event result details) }
      (payload.record event result details) where
  writes := standing.writes
  held := rfl
  agrees := rfl
  sound := advance_sound standing.sound step
  live := live

theorem Standing.intended {oracle : (command : Command) → Except Exc (Result command)}
    {object : SessionState} {payload : Payload} (standing : Standing oracle object payload)
    (request : ExecutionRequest) : Standing oracle
      { object with payload := some { payload with data := payload.data.withIntent request } }
      { payload with data := payload.data.withIntent request } :=
  { standing with held := rfl }

/-- An environment that lets the submission of `request` through to the broker. -/
structure Accepting (oracle : (command : Command) → Except Exc (Result command))
    (request : ExecutionRequest) : Prop where
  writes : Writes oracle
  healthy : oracle .executionHealthy = .ok true
  verified : ∃ evidence, oracle (.verify request) = .ok evidence ∧ evidence.validate = .ok () ∧
    evidence.allowed = true
  coordination : oracle (.submitCoordination request) = .ok ()
  sidecar : oracle (.beforeBrokerSubmit request) = .ok ()

namespace ExecutionSession

variable {oracle : (command : Command) → Except Exc (Result command)} {object : SessionState}
  {payload : Payload} {order : BrokerOrder}

@[simp] theorem outcome_snapshot (reason : String) :
    (snapshot reason).outcome oracle object = (.ok (snapshotOf object reason), object) := rfl

theorem outcome_toUnknown (standing : Standing oracle object payload) (reason : String) :
    ∃ after, (toUnknown reason).outcome oracle object = (.ok (), after) ∧
      after.snapshot.state ∈ [TradeState.unknown, .failed] := by
  obtain ⟨writes, held, agrees, sound, live⟩ := standing
  -- a live state has an edge to UNKNOWN or one to FAILED
  have taken : ∀ event, event = .queryAmbiguous ∨ event = .fatal →
      (transitions payload.machine.state event).isSome = true →
      ∃ after, (transition event [("reason", .text reason)]).outcome oracle object =
          (.ok (), after) ∧ after.snapshot.state ∈ [TradeState.unknown, .failed] := by
    intro event which edge
    obtain ⟨next, edge⟩ := Option.isSome_iff_exists.1 edge
    obtain ⟨result, step, same⟩ := advance_enabled sound edge
      (by rcases which with rfl | rfl <;> decide) (by rcases which with rfl | rfl <;> nofun)
    refine ⟨_, outcome_transition writes held (agrees ▸ step), ?_⟩
    rw [same]
    rcases which with rfl | rfl
    · simp [transitions_queryAmbiguous edge]
    · revert edge
      cases payload.machine.state <;> rintro ⟨⟩ <;> decide
  simp only [toUnknown, outcome_bind, outcome_read, outcome_ite, agrees]
  split_ifs with unknown ambiguous
  · exact taken _ (.inl rfl) (by simp [unknown, transitions])
  · exact taken _ (.inl rfl) ambiguous
  · refine taken _ (.inr rfl) ?_
    revert ambiguous live
    cases payload.machine.state <;> decide

def observing (payload : Payload) (order : BrokerOrder) : Payload :=
  { payload with data := { payload.data with
      lastObservation := some ⟨order.status, order.filledQty, order.averageFillPrice⟩ } }

theorem outcome_updateObservation (standing : Standing oracle object payload)
    (order : BrokerOrder) : (ExecutionJournal.updateObservation order).outcome oracle object =
      (.ok (), { object with payload := some (observing payload order) }) ∧
    Standing oracle { object with payload := some (observing payload order) }
      (observing payload order) := by
  refine ⟨?_, { standing with held := rfl }⟩
  simp only [ExecutionJournal.updateObservation, outcome_bind,
    outcome_journal_requireOpen standing.held]
  exact outcome_writeData standing.writes standing.held _ _

theorem absorbs_applyObservation (standing : Standing oracle object payload)
    (valid : validateIdentity payload.data order = .ok ()) :
    Absorbed payload.machine payload.data (.ok order)
      ((applyObservation order).outcome oracle object) := by
  simp only [applyObservation, outcome_bind, outcome_journal_requireOpen standing.held,
    outcome_ofExcept, valid, outcome_ite]
  split_ifs with backwards
  · have fatal := advance_fatal standing.sound standing.live
    split_ifs at fatal with unfailing
    · obtain ⟨exc, raised, illegal⟩ := fatal
      have stopped : stops payload.machine payload.data (.ok order) = true := by
        simpa [stops, stuck, backwards] using unfailing
      rw [outcome_transition_refused (standing.agrees ▸ raised)]
      exact .raising stopped illegal
    · obtain ⟨result, step, state⟩ := fatal
      have free : stops payload.machine payload.data (.ok order) = false := by
        simpa [stops, stuck, backwards] using unfailing
      rw [outcome_transition standing.writes standing.held (standing.agrees ▸ step)]
      exact .returning free fun _ => by simp [state]
  · have forwards : movedBackwards payload.data order = false := by simpa using backwards
    obtain ⟨observes, standing'⟩ := outcome_updateObservation standing order
    rw [observes]
    simp only [outcome_read]
    have state : object.snapshot.state = payload.machine.state := by rw [standing.agrees]
    have unobserved : ¬ (∃ event, eventForObservation payload.machine.state order.status =
        .ok (some event)) → stops payload.machine payload.data (.ok order) = false := by
      intro none
      by_contra stopped
      obtain ⟨event, exc, refines, -⟩ :=
        observation_refused forwards (by simpa [stops] using stopped)
      exact none ⟨event, refines⟩
    split
    · rename_i exc refines
      rw [state] at refines
      have free := unobserved (by rintro ⟨event, known⟩; cases known.symm.trans refines)
      obtain ⟨after, returns, ending⟩ := outcome_toUnknown standing' exc.message
      simp only [outcome_bind, returns, outcome_snapshot]
      exact .returning free fun _ => ending
    · rename_i event refines
      rw [state] at refines
      by_cases free : stuck payload.machine payload.data order = false
      · obtain ⟨result, step, unknown⟩ :=
          observation_enabled standing.sound standing.live forwards free refines
        have stepped : advance object.snapshot event = .ok result := standing.agrees ▸ step
        simp only [outcome_bind, outcome_transition standing'.writes standing'.held stepped,
          outcome_snapshot]
        have free : stops payload.machine payload.data (.ok order) = false := free
        refine .returning free fun declined => ?_
        have status : order.status = .unknown := by
          simpa [declines, refused, forwards, refines, Except.isOk, Except.toBool] using declined
        simp [unknown status]
      · obtain ⟨other, exc, known, raised, illegal⟩ :=
          observation_refused forwards (by simpa using free)
        cases known.symm.trans refines
        simp only [outcome_bind, outcome_transition_refused (standing'.agrees ▸ raised)]
        exact .raising (by simpa [stops] using free) illegal
    · rename_i refines
      rw [state] at refines
      have free := unobserved (by rintro ⟨event, known⟩; cases known.symm.trans refines)
      refine .returning free fun declined => ?_
      exfalso
      revert declined
      have known : order.status ≠ .unknown := by
        intro status
        simp [eventForObservation, status] at refines
      simp [declines, refused, forwards, refines, known, Except.isOk, Except.toBool]

end ExecutionSession

/-- The broker's answer about the order of these data: an order with their identity, or
BrokerQueryAmbiguous. -/
structure Answering (oracle : (command : Command) → Except Exc (Result command))
    (data : JournalData) (reply : Except Exc BrokerOrder) : Prop where
  single : ∀ orderId, data.brokerOrderId = some orderId → oracle (.queryOrder orderId) = reply
  listing : data.brokerOrderId = none → oracle .queryOrders = reply.map fun order => [order]
  durable : ∀ order, reply = .ok order → ExecutionSession.validateIdentity data order = .ok ()
  remark : ∀ order intent, reply = .ok order → data.brokerOrderId = none →
    data.intent = some intent → order.orderRemark = intent.orderRemark
  ambiguous : ∀ exc, reply = .error exc → exc.isA .brokerQueryAmbiguous = true

theorem ExecutionSession.validateIdentity_congr {data data' : JournalData} {order : BrokerOrder}
    (orderId : data'.brokerOrderId = data.brokerOrderId) (intent : data'.intent = data.intent) :
    validateIdentity data' order = validateIdentity data order := by
  simp [validateIdentity, orderId, intent]

theorem Answering.congr {oracle : (command : Command) → Except Exc (Result command)}
    {data data' : JournalData} {reply : Except Exc BrokerOrder}
    (answering : Answering oracle data reply)
    (orderId : data'.brokerOrderId = data.brokerOrderId) (intent : data'.intent = data.intent) :
    Answering oracle data' reply := by
  constructor
  · simpa only [orderId] using answering.single
  · simpa only [orderId] using answering.listing
  · simpa only [ExecutionSession.validateIdentity_congr orderId intent] using answering.durable
  · simpa only [orderId, intent] using answering.remark
  · exact answering.ambiguous

namespace ExecutionSession

variable {oracle : (command : Command) → Except Exc (Result command)} {object : SessionState}
  {payload : Payload} {order : BrokerOrder} {reply : Except Exc BrokerOrder}

theorem outcome_recoverOrder_error {exc : Exc} (answering : Answering oracle payload.data (.error exc))
    (positive : ∀ orderId, payload.data.brokerOrderId = some orderId → 0 < orderId)
    (held : payload.data.intent.isSome = true) :
    (recoverOrder payload.data).outcome oracle object = (.error exc, object) := by
  obtain ⟨intent, held⟩ := Option.isSome_iff_exists.1 held
  unfold recoverOrder recoverOrder.recoverByRemark
  cases stored : payload.data.brokerOrderId with
  | none =>
      have listed : oracle .queryOrders = .error exc := answering.listing stored
      simp [held, outcome_answered listed]
  | some orderId =>
      simp [positive orderId stored, outcome_answered (answering.single orderId stored)]

theorem outcome_persistBrokerOrderId (standing : Standing oracle object payload)
    (unplaced : payload.data.brokerOrderId = none) {orderId : Int} (positive : 0 < orderId) :
    (ExecutionJournal.persistBrokerOrderId orderId).outcome oracle object =
      (.ok (), { object with payload := some { payload with
        data := { payload.data with brokerOrderId := some orderId } } }) := by
  simp [ExecutionJournal.persistBrokerOrderId, positive, outcome_journal_requireOpen standing.held,
    unplaced, outcome_writeData standing.writes standing.held]

theorem outcome_recoverOrder_ok (standing : Standing oracle object payload)
    (answering : Answering oracle payload.data (.ok order))
    (positive : ∀ orderId, payload.data.brokerOrderId = some orderId → 0 < orderId) :
    ∃ after data, (recoverOrder payload.data).outcome oracle object = (.ok order, after) ∧
      Standing oracle after { payload with data } ∧
      data.lastObservation = payload.data.lastObservation ∧
      validateIdentity data order = .ok () := by
  have valid := answering.durable order rfl
  obtain ⟨intent, held, -, identity⟩ := validate_identity_ok.1 valid
  unfold recoverOrder recoverOrder.recoverByRemark
  cases stored : payload.data.brokerOrderId with
  | none =>
      have listed : oracle .queryOrders = .ok [order] := answering.listing stored
      have found : findUniqueManagedOrder [order] intent.symbol intent.side intent.qty
          intent.orderRemark = .ok order := by
        simp [findUniqueManagedOrder, identity, answering.remark order intent rfl stored held]
      refine ⟨{ object with payload := some { payload with
        data := { payload.data with brokerOrderId := some order.orderId } } },
        { payload.data with brokerOrderId := some order.orderId }, ?_,
        { standing with held := rfl }, rfl, ?_⟩
      · simp [held, outcome_answered listed, found,
          outcome_persistBrokerOrderId standing stored order.orderId_pos]
      · exact validate_identity_ok.2 ⟨intent, held, .inr rfl, identity⟩
  | some orderId =>
      refine ⟨object, payload.data, ?_, standing, rfl, valid⟩
      simp [positive orderId stored, outcome_answered (answering.single orderId stored)]

theorem absorbs_recoverUnknown (standing : Standing oracle object payload)
    (unknown : payload.machine.state = .unknown) (answering : Answering oracle payload.data reply)
    (positive : ∀ orderId, payload.data.brokerOrderId = some orderId → 0 < orderId)
    (held : payload.data.intent.isSome = true) :
    Absorbed payload.machine payload.data reply (recoverUnknown.outcome oracle object) := by
  simp only [recoverUnknown, outcome_bind, outcome_journal_requireOpen standing.held,
    outcome_attempt]
  cases reply with
  | error exc =>
      have failure : isRecoveryFailure exc = true := by
        simp [isRecoveryFailure, answering.ambiguous exc rfl]
      obtain ⟨result, step, state⟩ := advance_enabled standing.sound
        (show transitions payload.machine.state .recoveryFailed = some .failed by rw [unknown]; rfl)
        (by decide) nofun
      have stepped : advance object.snapshot .recoveryFailed = .ok result := standing.agrees ▸ step
      simp only [outcome_recoverOrder_error answering positive held, failure, if_true, outcome_bind,
        outcome_transition standing.writes standing.held stepped, outcome_snapshot]
      exact .returning rfl fun _ => by simp [state]
  | ok order =>
      obtain ⟨after, data, returns, standing', observation, valid⟩ :=
        outcome_recoverOrder_ok standing answering positive
      simp only [returns]
      exact (absorbs_applyObservation standing' valid).congr rfl (fun _ => rfl) observation

theorem absorbs_queried (standing : Standing oracle object payload)
    (opened : object.isOpen = true) (unclosed : object.closed = false)
    (owned : object.mutexOwned = true) {orderId : Int}
    (stored : payload.data.brokerOrderId = some orderId) (positive : 0 < orderId)
    (answering : Answering oracle payload.data reply) :
    Absorbed payload.machine payload.data reply (poll.outcome oracle object) := by
  simp only [poll, outcome_bind, outcome_requireOpen opened unclosed owned,
    outcome_journal_requireOpen standing.held, stored, not_le.2 positive, if_false, outcome_attempt,
    outcome_answered (answering.single orderId stored)]
  cases reply with
  | error exc =>
      obtain ⟨after, returns, ending⟩ := outcome_toUnknown standing exc.message
      simp only [answering.ambiguous exc rfl, if_true, outcome_bind, returns, outcome_snapshot]
      exact .returning rfl fun _ => ending
  | ok order => exact absorbs_applyObservation standing (answering.durable order rfl)

theorem submit_leads (standing : Standing oracle object payload) (opened : object.isOpen = true)
    (unclosed : object.closed = false) (owned : object.mutexOwned = true)
    {request : ExecutionRequest} (accepting : Accepting oracle request)
    (state : payload.machine.state = .waitTrigger) (fresh : payload.data.intent = none)
    (unused : payload.data.assertIdentityUnused request = .ok ())
    (priced : request.checkNotional = .ok ()) : ∃ after payload',
      (submit poll ports request).Leads oracle object (submitToBroker poll ports request) after ∧
      Standing oracle after payload' ∧ payload'.machine.state = .submitted ∧
      payload'.data = payload.data.withIntent request ∧ after.isOpen = true ∧
      after.closed = false ∧ after.mutexOwned = true := by
  obtain ⟨evidence, verified, valid, allowed⟩ := accepting.verified
  obtain ⟨triggered, step₁, state₁⟩ := advance_enabled standing.sound
    (show transitions payload.machine.state .triggered = some .trigger by rw [state]; rfl)
    (by decide) nofun
  have standing₁ := standing.step [] step₁ (by rw [state₁]; decide)
  obtain ⟨checking, step₂, state₂⟩ := advance_enabled standing₁.sound
    (show transitions triggered.state .beginPrecheck = some .preCheck by rw [state₁]; rfl)
    (by decide) nofun
  have standing₂ := standing₁.step [] step₂ (by rw [state₂]; decide)
  have step₃ := advance_precheckVerified standing₂.sound state₂ valid allowed
  have standing₃ := standing₂.step [("source", .text "execution_guard")] step₃ (by simp [restingStates])
  have step₄ := advance_intentPersisted standing₃.sound rfl rfl rfl rfl rfl rfl rfl
  have writes := standing.writes
  refine ⟨_, _, ?_, (standing₃.intended request).step [("client_order_id", .text request.clientOrderId)] step₄
    (by simp [restingStates]), rfl, rfl, opened, unclosed, owned⟩
  unfold submit
  refine leads_next (outcome_requireOpen opened unclosed owned) ?_
  refine leads_next (outcome_read oracle object) ?_
  rw [if_neg (not_not.2 (standing.agrees ▸ state))]
  refine leads_next (outcome_answered accepting.healthy) ?_
  rw [if_neg (by decide)]
  refine leads_next (outcome_assertIdentityUnused standing.held unused) ?_
  refine leads_next (outcome_transition writes standing.held (standing.agrees ▸ step₁)) ?_
  refine leads_next (outcome_transition writes standing₁.held step₂) ?_
  refine leads_next (outcome_answered verified) ?_
  refine leads_next ((outcome_ofExcept _ _ _).trans (congrArg (·, _) valid)) ?_
  rw [if_neg (by simp [allowed])]
  refine leads_next (outcome_transition writes standing₂.held step₃) ?_
  refine leads_next (outcome_persistIntent writes standing₃.held fresh unused priced) ?_
  refine leads_next (outcome_transition writes (standing₃.intended request).held step₄) ?_
  unfold submitIntent
  refine leads_next (outcome_attempt_ok (outcome_answered accepting.coordination)) ?_
  refine leads_next (outcome_attempt_ok (outcome_answered accepting.sidecar)) ?_
  exact leads_refl _

end ExecutionSession

end QmtExecution
