import QmtExecution.Session
import QmtExecution.Interaction.System

/-! `CoordinatedExecutionSession` and its broker delegate, `coordinated_session.py`, and the
two session classes with their operations. -/

namespace QmtExecution

open Interaction Method

/-- The constructor arguments of a session. A missing project hook is one that always
returns, as the base class's `_noop_submit` does. -/
structure SessionConfig where
  executionId : String
  accountKey : String
  coordinated : Bool
  hasEstimator : Bool
  deriving DecidableEq

namespace CoordinatedExecutionSession

variable (config : SessionConfig)

/-- `_CoordinatedBrokerPort.place_order`: coordination is released only when the broker
definitively says that no order exists. -/
def placeOrder (request : ExecutionRequest) : SessionM Int := do
  match ← attempt (ask (.placeOrder request)) with
  | .ok orderId => pure orderId
  | .error exc =>
      if exc.isA .brokerSubmissionRejected then
        ask (.updateFinality config.accountKey config.executionId request .resolved)
        raise exc
      else if exc.isA .brokerSubmissionAmbiguous || exc.isA .brokerError then raise exc
      else raise ⟨.brokerSubmissionAmbiguous,
        "coordinated broker submit raised unexpectedly; outcome unknown"⟩

/-- The account facts and the estimate of `_coordinate_before_submit`, for a BUY. -/
def freshCash (request : ExecutionRequest) : SessionM (CashArgument × CashArgument) :=
  if !config.hasEstimator then
    raise ⟨.brokerSubmissionRejected, "coordinated BUY requires an explicit " ++
      "CashRequirementEstimator; broker order was not invoked"⟩
  else do
    match ← attempt estimated with
    | .ok amounts => pure amounts
    | .error exc =>
        if exc.isA .brokerSubmissionRejected then raise exc
        else raise ⟨.brokerSubmissionRejected, "fresh authoritative cash/requirement estimation " ++
          "failed; broker order was not invoked"⟩
where
  estimated : SessionM (CashArgument × CashArgument) := do
    let asset ← ask .queryAsset
    let estimate ← ask (.estimate request asset)
    pure (.finite asset.cash, .finite estimate.requiredCash)

def coordinateBeforeSubmit (request : ExecutionRequest) : SessionM Unit := do
  let (brokerAvailableCash, requiredCash) ← match request.side with
    | .buy => freshCash config request
    | .sell => pure (.missing, .missing)
  match ← attempt (ask (.prepare config.accountKey config.executionId request
      brokerAvailableCash requiredCash)) with
  | .ok () => pure ()
  | .error exc =>
      if exc.isA .coordinationError then
        raise ⟨.brokerSubmissionRejected,
          "shared-account coordination rejected submit before broker side effect: " ++ exc.message⟩
      else raise exc

def runProjectSidecar (request : ExecutionRequest) : SessionM Unit := do
  match ← attempt (ask (.beforeBrokerSubmit request)) with
  | .ok () => pure ()
  | .error hookError =>
      -- an error of the release itself replaces the hook's error
      ask (.updateFinality config.accountKey config.executionId request .resolved)
      raise hookError

def ports : SessionPorts where
  submitCoordination := coordinateBeforeSubmit config
  beforeBrokerSubmit := runProjectSidecar config
  placeOrder := placeOrder config

/-- `ExecutionRequest(...)` on the fields of a durable intent. -/
def requestOf (intent : Intent) : Except Exc ExecutionRequest :=
  if valid : intent.clientOrderId ≠ "" ∧ intent.symbol ≠ "" ∧ intent.strategyId ≠ "" ∧
      intent.orderRemark ≠ "" ∧ 0 < intent.qty ∧ 0 < intent.limitPrice then
    .ok { clientOrderId := intent.clientOrderId
          symbol := intent.symbol
          side := intent.side
          qty := intent.qty
          limitPrice := intent.limitPrice
          strategyId := intent.strategyId
          orderRemark := intent.orderRemark
          clientOrderId_ne := valid.1
          symbol_ne := valid.2.1
          strategyId_ne := valid.2.2.1
          orderRemark_ne := valid.2.2.2.1
          qty_pos := valid.2.2.2.2.1
          limitPrice_pos := valid.2.2.2.2.2 }
  else .error ⟨.coordinationError, "durable intent cannot be reconstructed for coordination"⟩

theorem request_of_ok {intent : Intent} {request : ExecutionRequest}
    (rebuilt : requestOf intent = .ok request) : Intent.ofRequest request = intent := by
  unfold requestOf at rebuilt
  split_ifs at rebuilt
  cases rebuilt
  rfl

def durableRequest : SessionM (Option ExecutionRequest) := do
  let self ← read
  match self.payload with
  | none => pure none
  | some payload =>
      match payload.data.intent with
      | none => pure none
      | some intent =>
          let request ← ofExcept (requestOf intent)
          pure (some request)

def requiredCashForRestore (request : ExecutionRequest) : SessionM CashArgument := do
  match request.side with
  | .sell => pure .missing
  | .buy =>
      if !config.hasEstimator then
        raise ⟨.coordinationError,
          "cannot restore coordinated BUY without CashRequirementEstimator"⟩
      else
        match ← attempt estimated with
        | .ok required => pure required
        | .error _ => raise ⟨.coordinationError,
            "cannot restore coordinated BUY without authoritative account facts"⟩
where
  estimated : SessionM CashArgument := do
    let asset ← ask .queryAsset
    let estimate ← ask (.estimate request asset)
    pure (.finite estimate.requiredCash)

/-- `_sync` for an execution whose durable request is known. -/
def syncRequest (request : ExecutionRequest) : SessionM Unit := do
  let self ← read
  let finality := executionFinality self.snapshot
  if finality = .resolved then
    -- a pre-broker rejection may mean that this execution never owned the symbol
    match ← attempt (ask (.hasClaim config.accountKey config.executionId request)) with
    | .error exc => if exc.isA .symbolClaimConflict then pure () else raise exc
    | .ok owned =>
        if owned then
          ask (.updateFinality config.accountKey config.executionId request finality)
        else pure ()
  else
    let owned ← ask (.hasClaim config.accountKey config.executionId request)
    if owned then
      ask (.updateFinality config.accountKey config.executionId request finality)
    else
      let requiredCash ← requiredCashForRestore config request
      ask (.restore config.accountKey config.executionId request requiredCash finality)

def sync (out : ExecutionSnapshot) : SessionM ExecutionSnapshot := do
  match ← durableRequest with
  | none => pure out
  | some request =>
      syncRequest config request
      pure out

def poll : SessionM ExecutionSnapshot := do
  let out ← ExecutionSession.poll
  sync config out

def reconcile : SessionM ExecutionSnapshot := do
  let out ← ExecutionSession.reconcile (poll config)
  sync config out

def cancel : SessionM ExecutionSnapshot := do
  let out ← ExecutionSession.cancel (poll config)
  sync config out

def submit (request : ExecutionRequest) : SessionM ExecutionSnapshot := do
  let out ← ExecutionSession.submit (poll config) (ports config) request
  sync config out

def openSession : SessionM ExecutionSnapshot := do
  let out ← ExecutionSession.openSession config.executionId
  sync config out

end CoordinatedExecutionSession

def ExecutionSession.ports : SessionPorts where
  submitCoordination request := ask (.submitCoordination request)
  beforeBrokerSubmit request := ask (.beforeBrokerSubmit request)
  placeOrder request := ask (.placeOrder request)

inductive Operation
  | openSession
  | close
  | submit (request : ExecutionRequest)
  | poll
  | reconcile
  | cancel
  | nextCycle
  deriving DecidableEq

def runOperation (config : SessionConfig) (operation : Operation) :
    SessionM (Option ExecutionSnapshot) :=
  match config.coordinated, operation with
  | _, .close => do ExecutionSession.close; pure none
  | _, .nextCycle => do some <$> ExecutionSession.nextCycle
  | false, .openSession => do some <$> ExecutionSession.openSession config.executionId
  | false, .submit request => do
      some <$> ExecutionSession.submit ExecutionSession.poll ExecutionSession.ports request
  | false, .poll => do some <$> ExecutionSession.poll
  | false, .reconcile => do some <$> ExecutionSession.reconcile ExecutionSession.poll
  | false, .cancel => do some <$> ExecutionSession.cancel ExecutionSession.poll
  | true, .openSession => do some <$> CoordinatedExecutionSession.openSession config
  | true, .submit request => do some <$> CoordinatedExecutionSession.submit config request
  | true, .poll => do some <$> CoordinatedExecutionSession.poll config
  | true, .reconcile => do some <$> CoordinatedExecutionSession.reconcile config
  | true, .cancel => do some <$> CoordinatedExecutionSession.cancel config

def sessionClass (config : SessionConfig) :
    Class Command Result SessionState Exc Operation (Option ExecutionSnapshot) where
  fresh := {}
  run := runOperation config

end QmtExecution
