import QmtExecution.CoordinatedSession

/-! The trace of the calls of one session over all its processes, what the trace determines,
and the protocol that every call of the session follows. -/

namespace QmtExecution

open Interaction

structure Event where
  command : Command
  answer : Except Exc (Result command)

/-- The calls of a session on its journal with their answers, the latest first. -/
abbrev Trace := List Event

def Event.isPlacement (event : Event) : Bool :=
  match event.command with
  | .placeOrder _ => true
  | _ => false

def Event.isRelease (event : Event) : Bool :=
  match event.command with
  | .updateFinality _ _ _ .resolved | .restore _ _ _ _ .resolved => true
  | _ => false

def BrokerOrderStatus.isTerminal (status : BrokerOrderStatus) : Bool :=
  status ∈ [BrokerOrderStatus.filled, .cancelled, .partialCancelled, .rejected]

/-- A request the broker may hold an order for: `place_order` has returned, with an order
id or not, or has raised anything but `BrokerSubmissionRejected`. -/
structure Outstanding where
  request : ExecutionRequest
  orderId : Option Int
  deriving DecidableEq

def Outstanding.ofAnswer (request : ExecutionRequest) : Except Exc Int → Option Outstanding
  | .ok orderId => some ⟨request, if 0 < orderId then some orderId else none⟩
  | .error exc => if exc.isA .brokerSubmissionRejected then none else some ⟨request, none⟩

/-- Whether the answer of a query made with these data in memory reports the outstanding
order as FILLED, CANCELLED, PARTIAL_CANCELLED or REJECTED. -/
def Outstanding.reported (outstanding : Outstanding) (data : JournalData) :
    Except Exc BrokerOrder → Bool
  | .ok order => order.status.isTerminal &&
      (ExecutionSession.validateIdentity data order = .ok () &&
        (outstanding.orderId = none || outstanding.orderId = some order.orderId))
  | .error _ => false

/-- What the trace of a session determines. -/
structure Ledger where
  disk : Option Payload := none
  /-- the payload last read from the file or last handed to a write -/
  memory : Option Payload := none
  /-- the request of a durable intent that has not been handed to the broker -/
  armed : Option ExecutionRequest := none
  placed : Option (ExecutionRequest × Except Exc Int) := none
  asset : Option BrokerAsset := none
  estimated : Option (ExecutionRequest × BrokerAsset × CashRequirementEstimate) := none
  prepared : Option (ExecutionRequest × CashArgument × CashArgument) := none
  sidecar : Option ExecutionRequest := none
  /-- the payload in memory at the latest query, and the order the query identified; a
  placement or a cancellation outdates it -/
  asked : Option (Payload × Except Exc BrokerOrder) := none
  outstanding : Option Outstanding := none
  /-- whether a journal write has ever raised -/
  failed : Bool := false
  deriving DecidableEq

namespace Ledger

def matched (ledger : Ledger) (answer : Except Exc (List BrokerOrder)) : Except Exc BrokerOrder :=
  match ledger.memory.bind fun payload => payload.data.intent with
  | none => .error ⟨.recoveryAmbiguous, "UNKNOWN has no durable intent"⟩
  | some intent => answer.bind fun orders =>
      findUniqueManagedOrder orders intent.symbol intent.side intent.qty intent.orderRemark

def observe (ledger : Ledger) (answer : Except Exc BrokerOrder) : Ledger :=
  match ledger.memory with
  | none => ledger
  | some payload => { ledger with
      asked := some (payload, answer)
      outstanding := ledger.outstanding.filter fun order => !order.reported payload.data answer }

section Observe

variable (ledger : Ledger) (answer : Except Exc BrokerOrder)

@[simp] theorem observe_memory : (ledger.observe answer).memory = ledger.memory := by
  unfold observe
  split <;> rename_i memory <;> simp [memory]

@[simp] theorem observe_disk : (ledger.observe answer).disk = ledger.disk := by
  unfold observe
  split <;> rfl

@[simp] theorem observe_armed : (ledger.observe answer).armed = ledger.armed := by
  unfold observe
  split <;> rfl

@[simp] theorem observe_placed : (ledger.observe answer).placed = ledger.placed := by
  unfold observe
  split <;> rfl

@[simp] theorem observe_prepared : (ledger.observe answer).prepared = ledger.prepared := by
  unfold observe
  split <;> rfl

@[simp] theorem observe_failed : (ledger.observe answer).failed = ledger.failed := by
  unfold observe
  split <;> rfl

end Observe

def written (ledger : Ledger) (payload : Payload) : Except Exc Unit → Ledger
  | .ok () => { ledger with memory := some payload, disk := some payload }
  | .error _ => { ledger with memory := some payload, failed := true }

@[simp] theorem written_armed (ledger : Ledger) (payload : Payload) (answer : Except Exc Unit) :
    (ledger.written payload answer).armed = ledger.armed := by
  cases answer <;> rfl

/-- A new cycle of submission starts from the durable intent. -/
def rearm (ledger : Ledger) (armed : Option ExecutionRequest) : Ledger :=
  { ledger with
    armed, placed := none, asset := none, estimated := none, prepared := none
    sidecar := none, asked := none }

def after (ledger : Ledger) : (command : Command) → Except Exc (Result command) → Ledger
  | .journalRead, .ok payload => { ledger.rearm none with memory := some payload }
  | .journalWrite (.persistIntent request) payload, answer =>
      (ledger.rearm (if answer.isOk then some request else none)).written payload answer
  | .journalWrite _ payload, answer => ledger.written payload answer
  | .placeOrder request, answer => { ledger with
      armed := none
      asked := none
      placed := some (request, answer)
      outstanding := Outstanding.ofAnswer request answer }
  | .cancelOrder _, _ => { ledger with asked := none }
  | .queryOrder _, answer => ledger.observe answer
  | .queryOrders, answer => ledger.observe (ledger.matched answer)
  | .queryAsset, .ok asset => { ledger with asset := some asset }
  | .estimate request asset, .ok estimate => { ledger with
      estimated := some (request, asset, estimate) }
  | .prepare _ _ request available required, .ok _ => { ledger with
      prepared := some (request, available, required) }
  | .updateFinality _ _ _ .resolved, _ => { ledger with prepared := none }
  | .beforeBrokerSubmit request, .ok _ => { ledger with sidecar := some request }
  | _, _ => ledger

theorem armed_persisted (ledger : Ledger) (request : ExecutionRequest) (payload : Payload) :
    (ledger.after (.journalWrite (.persistIntent request) payload) (.ok ())).armed =
      some request := rfl

theorem armed_unpersisted (ledger : Ledger) (request : ExecutionRequest) (payload : Payload)
    (exc : Exc) : (ledger.after (.journalWrite (.persistIntent request) payload)
      (.error exc)).armed = none := rfl

def ofTrace : Trace → Ledger
  | [] => {}
  | event :: trace => (ofTrace trace).after event.command event.answer

/-- The execution of `request` is durably SUBMITTED and its order has not been sent. -/
structure Submitting (ledger : Ledger) (request : ExecutionRequest) (payload : Payload) :
    Prop where
  armed : ledger.armed = some request
  disk : ledger.disk = some payload
  memory : ledger.memory = some payload
  state : payload.machine.state = .submitted
  intent : payload.data.intent = some (.ofRequest request)
  orderId : payload.data.brokerOrderId = none

/-- The latest query identified an order that refines the state of `before` by `event`. -/
structure Observed (ledger : Ledger) (before : Payload) (event : TradeEvent)
    (queried : Payload) (order : BrokerOrder) : Prop where
  asked : ledger.asked = some (queried, .ok order)
  disk : ledger.disk = some before
  machine : before.machine = queried.machine
  intent : before.data.intent = queried.data.intent
  identity : ExecutionSession.validateIdentity queried.data order = .ok ()
  orderId : before.data.brokerOrderId = some order.orderId
  observation : before.data.lastObservation =
    some ⟨order.status, order.filledQty, order.averageFillPrice⟩
  event : eventForObservation before.machine.state order.status = .ok (some event)

/-- An answer that fails the query, reports less filled than before, or does not refine the
state: where the state has no way to UNKNOWN, only FATAL is left. -/
def unacceptable (queried : Payload) : Except Exc BrokerOrder → Bool
  | .error exc => exc.isA .brokerQueryAmbiguous
  | .ok order => ExecutionSession.validateIdentity queried.data order = .ok () &&
      (ExecutionSession.movedBackwards queried.data order ||
        !(eventForObservation queried.machine.state order.status).isOk)

/-- When an event may be written to the journal. -/
def Warrants (ledger : Ledger) (before : Payload) (event : TradeEvent) : Prop :=
  match event with
  | .intentPersisted => ∃ request, ledger.armed = some request ∧ ledger.disk = some before ∧
      before.data.intent = some (.ofRequest request)
  | .beginPrecheck | .precheckVerified | .precheckRejected => ledger.disk = some before
  | .preBrokerRejected | .preBrokerAborted => ∃ request, ledger.Submitting request before
  | .submitAccepted => ∃ request orderId, ledger.placed = some (request, .ok orderId) ∧
      before.data.brokerOrderId = some orderId
  | .submitRejected => ∃ request exc, ledger.placed = some (request, .error exc) ∧
      exc.isA .brokerSubmissionRejected = true
  | .submitAmbiguous => ∃ request exc, ledger.placed = some (request, .error exc)
  | .cancelRequested => ledger.disk = some before ∧ before.data.cancelIntent.isSome = true ∧
      ∃ orderId, before.data.brokerOrderId = some orderId ∧ 0 < orderId
  | .orderWorking | .orderPartial | .orderFilled | .orderRejected | .cancelStillPending
  | .cancelConfirmed | .recoveryAccepted | .recoveryWorking | .recoveryPartial
  | .recoveryCancelling | .recoveryFilled | .recoveryCancelled | .recoveryRejected =>
      ∃ queried order, ledger.Observed before event queried order
  | .recoveryFailed => ledger.asked.isSome = true ∨ before.data.intent = none
  | .fatal => before.machine.state ∈ [TradeState.trigger, .preCheck] ∨
      ∃ queried answer, ledger.asked = some (queried, answer) ∧
        before.machine = queried.machine ∧ unacceptable queried answer = true
  | _ => True

def Changes (ledger : Ledger) (before : Payload) (writer : JournalWriter) (payload : Payload) :
    Prop :=
  match writer with
  | .create => False
  | .bindVerification => ledger.disk = some before ∧ before.data.formalVerification = none ∧
      ∃ verification,
      payload = { before with data := { before.data with
        formalVerification := some verification } }
  | .transition event => ledger.Warrants before event ∧
      ∃ session precheck snapshot details,
        advance before.machine event session precheck = .ok snapshot ∧
          payload = before.record event snapshot details
  | .persistIntent request => ledger.disk = some before ∧ before.machine.state = .preCheck ∧
      before.data.intent = none ∧ before.data.assertIdentityUnused request = .ok () ∧
        payload = { before with data := before.data.withIntent request }
  | .persistBrokerOrderId orderId => 0 < orderId ∧ before.data.intent.isSome = true ∧
      (before.data.brokerOrderId = none ∨ before.data.brokerOrderId = some orderId) ∧
      payload = { before with data := { before.data with brokerOrderId := some orderId } } ∧
      ((before.machine.state = .submitted ∧ ledger.disk = some before ∧
          ∃ request, ledger.placed = some (request, .ok orderId)) ∨
        (before.machine.state = .unknown ∧
          ∃ order, ledger.asked = some (before, .ok order) ∧ order.orderId = orderId))
  | .persistCancelIntent =>
      before.machine.state ∈ [TradeState.accepted, .working, .partiallyFilled] ∧
        payload = { before with data := { before.data with cancelIntent := some ⟨true⟩ } }
  | .updateObservation order => ∃ queried, ledger.asked = some (queried, .ok order) ∧
      before.machine = queried.machine ∧ before.data.intent = queried.data.intent ∧
      before.data.lastObservation = queried.data.lastObservation ∧
      ExecutionSession.validateIdentity before.data order = .ok () ∧
      before.data.brokerOrderId = some order.orderId ∧
      ExecutionSession.movedBackwards before.data order = false ∧
      payload = { before with data := { before.data with
        lastObservation := some ⟨order.status, order.filledQty, order.averageFillPrice⟩ } }
  | .clearCycleData => before.machine.state = .waitTrigger ∧
      payload = { before with data := before.data.preserved }

def Carrying (ledger : Ledger) (request : ExecutionRequest) (payload : Payload) : Prop :=
  ledger.memory = some payload ∧ payload.data.intent = some (.ofRequest request)

/-- The amounts handed to the coordinator for a BUY are the account's cash as just queried
and the estimate for that account. -/
def Estimated (ledger : Ledger) (request : ExecutionRequest) (available required : CashArgument) :
    Prop :=
  request.side = .buy → ∃ asset estimate, ledger.asset = some asset ∧
    ledger.estimated = some (request, asset, estimate) ∧ available = .finite asset.cash ∧
      required = .finite estimate.requiredCash

/-- The execution may give up its symbol and its cash: it is resolved, or it is SUBMITTED
and the broker certainly holds no order. -/
def Releasable (ledger : Ledger) (request : ExecutionRequest) (payload : Payload) : Prop :=
  executionFinality payload.machine = .resolved ∨
    payload.machine.state = .submitted ∧ ledger.disk = some payload ∧
      (ledger.armed = some request ∨ ∃ exc, ledger.placed = some (request, .error exc) ∧
        exc.isA .brokerSubmissionRejected = true)

def Permits (config : SessionConfig) (ledger : Ledger) : Command → Prop
  | .journalWrite .create payload =>
      ledger.disk = none ∧ payload = .create config.executionId
  | .journalWrite writer payload => ∃ before, ledger.memory = some before ∧
      ledger.Changes before writer payload
  | .submitCoordination request | .beforeBrokerSubmit request =>
      ∃ payload, ledger.Submitting request payload
  | .placeOrder request => (∃ payload, ledger.Submitting request payload) ∧
      ledger.sidecar = some request ∧ (config.coordinated = true → ∃ available required,
        ledger.prepared = some (request, available, required) ∧
          ledger.Estimated request available required)
  | .beforeBrokerCancel orderId | .cancelOrder orderId => ∃ payload,
      ledger.disk = some payload ∧ ledger.memory = some payload ∧
        payload.machine.state = .pendingCancel ∧ payload.data.brokerOrderId = some orderId
  | .queryOrder orderId => 0 < orderId ∧ ∃ payload, ledger.memory = some payload ∧
      payload.data.brokerOrderId = some orderId ∧
        (payload.machine.state = .submitted → ledger.failed = true)
  | .queryOrders => ∃ payload, ledger.memory = some payload ∧ payload.machine.state = .unknown
  | .prepare accountKey executionId request available required =>
      accountKey = config.accountKey ∧ executionId = config.executionId ∧
        (∃ payload, ledger.Submitting request payload) ∧
          ledger.Estimated request available required
  | .restore accountKey executionId request _ finality =>
      accountKey = config.accountKey ∧ executionId = config.executionId ∧
        ∃ payload, ledger.Carrying request payload ∧
          finality = executionFinality payload.machine ∧ finality ≠ .resolved
  | .updateFinality accountKey executionId request finality =>
      accountKey = config.accountKey ∧ executionId = config.executionId ∧
        ∃ payload, ledger.Carrying request payload ∧
          (finality = executionFinality payload.machine ∨
            finality = .resolved ∧ ledger.Releasable request payload)
  | .hasClaim accountKey executionId request =>
      accountKey = config.accountKey ∧ executionId = config.executionId ∧
        ∃ payload, ledger.Carrying request payload
  | _ => True

end Ledger

/-- What the journal file makes of a call: whether it exists and what is read from it. -/
def Trace.FileLaw (trace : Trace) : (command : Command) → Except Exc (Result command) → Prop
  | .journalExists, .ok existed => existed = (Ledger.ofTrace trace).disk.isSome
  | .journalRead, .ok payload => (Ledger.ofTrace trace).disk = some payload
  | _, _ => True

def Trace.answers (trace : Trace) (command : Command) (answer : Except Exc (Result command))
    (after : Trace) : Prop :=
  trace.FileLaw command answer ∧ after = ⟨command, answer⟩ :: trace

def Trace.permits (config : SessionConfig) (trace : Trace) (command : Command) : Prop :=
  (Ledger.ofTrace trace).Permits config command

/-- The traces the protocol allows. -/
abbrev Trace.Guarded (config : SessionConfig) : Trace → Prop :=
  Interaction.Guarded (· = []) (Trace.permits config) Trace.answers

end QmtExecution
