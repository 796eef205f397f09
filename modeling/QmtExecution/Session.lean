import QmtExecution.Ports

/-! The methods of `ExecutionJournal`, `journal.py`, and of `ExecutionSession`,
`session.py`, over the calls of a session. -/

namespace QmtExecution

open Interaction Method

namespace ExecutionJournal

def requireOpen : SessionM Payload := do
  let self ← read
  match self.payload with
  | some payload => pure payload
  | none => raise ⟨.journalError, "journal is not open"⟩

/-- Take the payload into memory and replace the file by it. -/
def write (writer : JournalWriter) (payload : Payload) : SessionM Unit := do
  update fun self => { self with payload := some payload }
  ask (.journalWrite writer payload)

def writeData (writer : JournalWriter) (data : JournalData) : SessionM Unit := do
  let payload ← requireOpen
  write writer { payload with data }

def machineSnapshot : SessionM MachineSnapshot := do
  let payload ← requireOpen
  ofExcept (assertInvariants payload.machine)
  pure payload.machine

def openJournal (executionId : String) : SessionM (MachineSnapshot × Bool) := do
  let self ← read
  if self.payload ≠ none then raise ⟨.journalError, "journal already open"⟩
  else
    let existed ← ask .journalExists
    if existed then
      match ← attempt (ask .journalRead) with
      | .error exc =>
          if exc.isA .osError || exc.isA .jsonDecodeError then
            raise ⟨.journalIntegrityError, "journal is unreadable"⟩
          else raise exc
      | .ok payload =>
          ofExcept (payload.validate executionId)
          update fun self => { self with payload := some payload }
          let snapshot ← machineSnapshot
          pure (snapshot, true)
    else
      write .create (.create executionId)
      pure ({}, false)

def transition (event : TradeEvent) (snapshot : MachineSnapshot) (details : Details) :
    SessionM Unit := do
  let payload ← requireOpen
  write (.transition event) (payload.record event snapshot details)

def assertIdentityUnused (request : ExecutionRequest) : SessionM Unit := do
  let payload ← requireOpen
  ofExcept (payload.data.assertIdentityUnused request)

def persistIntent (request : ExecutionRequest) : SessionM Unit := do
  assertIdentityUnused request
  let payload ← requireOpen
  if payload.data.intent ≠ none then
    raise ⟨.journalIntegrityError, "journal already contains an intent"⟩
  else
    -- the source repeats both membership checks of `assert_identity_unused` here
    ofExcept (payload.data.assertIdentityUnused request)
    ofExcept request.checkNotional
    writeData (.persistIntent request) (payload.data.withIntent request)

def persistBrokerOrderId (orderId : Int) : SessionM Unit :=
  if orderId ≤ 0 then raise ⟨.valueError, "broker order id must be a positive plain int"⟩
  else do
    let payload ← requireOpen
    if payload.data.brokerOrderId ≠ none ∧ payload.data.brokerOrderId ≠ some orderId then
      raise ⟨.journalIntegrityError, "broker order id changed for one execution"⟩
    else
      writeData (.persistBrokerOrderId orderId)
        { payload.data with brokerOrderId := some orderId }

def persistCancelIntent : SessionM Unit := do
  let payload ← requireOpen
  writeData .persistCancelIntent { payload.data with cancelIntent := some ⟨true⟩ }

/-- The update always names all three fields, so it replaces the stored observation. -/
def updateObservation (order : BrokerOrder) : SessionM Unit := do
  let payload ← requireOpen
  writeData (.updateObservation order) { payload.data with
    lastObservation := some ⟨order.status, order.filledQty, order.averageFillPrice⟩ }

def bindVerification (verification : FormalVerification) : SessionM Unit :=
  if !isSha256Digest verification.transitionSpecSha256 then
    raise ⟨.valueError, "transition_spec_sha256 must be a SHA-256 hex digest"⟩
  else if !isSha256Digest verification.executionSourceSha256 then
    raise ⟨.valueError, "execution_source_sha256 must be a SHA-256 hex digest"⟩
  else do
    let payload ← requireOpen
    writeData .bindVerification { payload.data with
      formalVerification := some
        ⟨lower verification.transitionSpecSha256, lower verification.executionSourceSha256⟩ }

def clearCycleData : SessionM Unit := do
  let payload ← requireOpen
  write .clearCycleData { payload with data := payload.data.preserved }

end ExecutionJournal

/-- What `CoordinatedExecutionSession` replaces in `ExecutionSession`: the two pre-broker
hooks, the broker's `place_order`, and the `poll` that the other operations dispatch to. -/
structure SessionPorts where
  submitCoordination : ExecutionRequest → SessionM Unit
  beforeBrokerSubmit : ExecutionRequest → SessionM Unit
  placeOrder : ExecutionRequest → SessionM Int

namespace ExecutionSession

def snapshotOf (self : SessionState) (reason : String) : ExecutionSnapshot :=
  let data := match self.payload with
    | some payload => payload.data
    | none => {}
  { state := self.snapshot.state
    clientOrderId := data.intent.map Intent.clientOrderId
    brokerOrderId := data.brokerOrderId
    orderedQty := (data.intent.map Intent.qty).getD 0
    filledQty := (data.lastObservation.map Observation.filledQty).getD 0
    averageFillPrice := data.lastObservation.bind Observation.averageFillPrice
    reason := reason }

def snapshot (reason : String := "") : SessionM ExecutionSnapshot := do
  let self ← read
  pure (snapshotOf self reason)

def requireOpen : SessionM Unit := do
  let self ← read
  if !self.isOpen || self.closed || !self.mutexOwned then
    raise ⟨.sessionClosedError, "execution session is not open or no longer owns its mutex"⟩
  else pure ()

def transition (event : TradeEvent) (details : Details := [])
    (sessionEvidence : Option SessionEvidence := none)
    (precheckEvidence : Option PrecheckEvidence := none) : SessionM Unit := do
  let self ← read
  let snapshot ← ofExcept (advance self.snapshot event sessionEvidence precheckEvidence)
  update fun self => { self with snapshot }
  ExecutionJournal.transition event snapshot details

def toUnknown (reason : String) : SessionM Unit := do
  let self ← read
  if self.snapshot.state = .unknown then
    transition .queryAmbiguous [("reason", .text reason)]
  else if (transitions self.snapshot.state .queryAmbiguous).isSome then
    transition .queryAmbiguous [("reason", .text reason)]
  else transition .fatal [("reason", .text reason)]

def validateIdentity (data : JournalData) (order : BrokerOrder) : Except Exc Unit :=
  match data.intent with
  | none => .error ⟨.recoveryAmbiguous, "broker order exists without durable local intent"⟩
  | some intent =>
      if data.brokerOrderId ≠ none ∧ data.brokerOrderId ≠ some order.orderId then
        .error ⟨.recoveryAmbiguous, "broker order id conflicts with durable broker_order_id"⟩
      else if order.symbol ≠ intent.symbol ∨ order.side ≠ intent.side ∨
          order.qty ≠ intent.qty then
        .error ⟨.recoveryAmbiguous, "broker order identity conflicts with durable intent"⟩
      else if order.orderRemark ≠ "" ∧ order.orderRemark ≠ intent.orderRemark then
        .error ⟨.recoveryAmbiguous, "broker order remark conflicts with durable intent"⟩
      else if order.strategyName ≠ "" ∧ order.strategyName ≠ intent.strategyId then
        .error ⟨.recoveryAmbiguous, "broker strategy_name conflicts with durable intent"⟩
      else .ok ()

theorem validate_identity_ok {data : JournalData} {order : BrokerOrder} :
    validateIdentity data order = .ok () ↔ ∃ intent, data.intent = some intent ∧
      (data.brokerOrderId = none ∨ data.brokerOrderId = some order.orderId) ∧
      order.symbol = intent.symbol ∧ order.side = intent.side ∧ order.qty = intent.qty ∧
      (order.orderRemark = "" ∨ order.orderRemark = intent.orderRemark) ∧
      (order.strategyName = "" ∨ order.strategyName = intent.strategyId) := by
  unfold validateIdentity
  cases data.intent with
  | none => simp
  | some intent =>
      dsimp only
      split_ifs with conflict identity remark strategy <;> simp <;> tauto

def movedBackwards (data : JournalData) (order : BrokerOrder) : Bool :=
  data.lastObservation.any fun previous => order.filledQty < previous.filledQty

def applyObservation (order : BrokerOrder) : SessionM ExecutionSnapshot := do
  let payload ← ExecutionJournal.requireOpen
  ofExcept (validateIdentity payload.data order)
  if movedBackwards payload.data order then
    transition .fatal [("reason", .text "broker filled quantity moved backwards")]
    snapshot "broker filled quantity moved backwards"
  else
    ExecutionJournal.updateObservation order
    let self ← read
    match eventForObservation self.snapshot.state order.status with
    | .error exc =>
        toUnknown exc.message
        snapshot exc.message
    | .ok (some event) =>
        transition event [("broker_order_id", .number order.orderId),
          ("broker_status", .text order.status.value), ("filled_qty", .number order.filledQty)]
        snapshot
    | .ok none => snapshot

/-- The `try` body of `_recover_unknown`. -/
def recoverOrder (data : JournalData) : SessionM BrokerOrder := do
  match data.brokerOrderId with
  | some orderId =>
      if 0 < orderId then ask (.queryOrder orderId) else recoverByRemark data
  | none => recoverByRemark data
where
  recoverByRemark (data : JournalData) : SessionM BrokerOrder := do
    match data.intent with
    | none => raise ⟨.recoveryAmbiguous, "UNKNOWN has no durable intent"⟩
    | some intent =>
        let orders ← ask .queryOrders
        let order ← ofExcept (findUniqueManagedOrder orders intent.symbol intent.side
          intent.qty intent.orderRemark)
        ExecutionJournal.persistBrokerOrderId order.orderId
        pure order

/-- What the `except` clause of `_recover_unknown` catches. -/
def isRecoveryFailure (exc : Exc) : Bool :=
  exc.isA .brokerQueryAmbiguous || exc.isA .recoveryAmbiguous || exc.isA .keyError ||
    exc.isA .typeError || exc.isA .valueError

def recoverUnknown : SessionM ExecutionSnapshot := do
  let payload ← ExecutionJournal.requireOpen
  match ← attempt (recoverOrder payload.data) with
  | .error exc =>
      if isRecoveryFailure exc then
        transition .recoveryFailed [("reason", .text exc.message)]
        snapshot exc.message
      else raise exc
  | .ok order => applyObservation order

def poll : SessionM ExecutionSnapshot := do
  requireOpen
  let payload ← ExecutionJournal.requireOpen
  match payload.data.brokerOrderId with
  | none =>
      let self ← read
      if self.snapshot.state = .unknown then recoverUnknown
      else raise ⟨.recoveryAmbiguous, "no durable broker order id for poll"⟩
  | some orderId =>
      if orderId ≤ 0 then
        raise ⟨.journalIntegrityError, "invalid durable broker order id"⟩
      else
        match ← attempt (ask (.queryOrder orderId)) with
        | .error exc =>
            if exc.isA .brokerQueryAmbiguous then
              toUnknown exc.message
              snapshot exc.message
            else raise exc
        | .ok order => applyObservation order

section Dispatch

variable (selfPoll : SessionM ExecutionSnapshot)

def reconcile : SessionM ExecutionSnapshot := do
  requireOpen
  let self ← read
  if self.snapshot.state = .unknown then recoverUnknown
  else if self.snapshot.state ∈ [TradeState.accepted, .working, .partiallyFilled,
      .pendingCancel, .cancelling, .cancelRejected] then selfPoll
  else snapshot

def cancel : SessionM ExecutionSnapshot := do
  requireOpen
  let self ← read
  if self.snapshot.state ∉ [TradeState.accepted, .working, .partiallyFilled] then
    raise ⟨.runtimeError, "cannot cancel from " ++ self.snapshot.state.value⟩
  else
    let payload ← ExecutionJournal.requireOpen
    match payload.data.brokerOrderId with
    | none => raise ⟨.recoveryAmbiguous, "cancel requires a durable broker order id"⟩
    | some orderId =>
        if orderId ≤ 0 then
          raise ⟨.recoveryAmbiguous, "cancel requires a durable broker order id"⟩
        else
          ExecutionJournal.persistCancelIntent
          transition .cancelRequested
          ask (.beforeBrokerCancel orderId)
          match ← attempt (ask (.cancelOrder orderId)) with
          | .error exc =>
              if exc.isA .brokerError then
                transition .cancelRequestRejected
                selfPoll
              else raise exc
          | .ok .accepted =>
              transition .cancelSent
              selfPoll
          | .ok .rejected =>
              transition .cancelRequestRejected
              selfPoll

/-- `submit` from the moment the broker is about to be called. -/
def submitToBroker (ports : SessionPorts) (request : ExecutionRequest) :
    SessionM ExecutionSnapshot := do
  match ← attempt (ports.placeOrder request) with
  | .error exc =>
      if exc.isA .brokerSubmissionRejected then
        transition .submitRejected [("reason", .text exc.message)]
        snapshot exc.message
      else if exc.isA .brokerError then
        transition .submitAmbiguous [("reason", .text exc.message)]
        snapshot exc.message
      else raise exc
  | .ok orderId =>
      ExecutionJournal.persistBrokerOrderId orderId
      transition .submitAccepted [("broker_order_id", .number orderId)]
      selfPoll

/-- `submit` from the durable intent on. -/
def submitIntent (ports : SessionPorts) (request : ExecutionRequest) :
    SessionM ExecutionSnapshot := do
  match ← attempt (ports.submitCoordination request) with
  | .error exc =>
      if exc.isA .brokerSubmissionRejected then
        transition .preBrokerRejected [("reason", .text exc.message),
          ("source", .text "before_submit_coordination"), ("broker_invoked", .flag false)]
        snapshot exc.message
      else
        transition .preBrokerAborted [("reason", .text exc.message),
          ("source", .text "before_submit_coordination"), ("broker_invoked", .flag false)]
        raise exc
  | .ok () =>
      match ← attempt (ports.beforeBrokerSubmit request) with
      | .error exc =>
          transition .preBrokerAborted [("reason", .text exc.message),
            ("source", .text "before_broker_submit"), ("broker_invoked", .flag false)]
          raise exc
      | .ok () => submitToBroker selfPoll ports request

def submit (ports : SessionPorts) (request : ExecutionRequest) : SessionM ExecutionSnapshot := do
  requireOpen
  let self ← read
  if self.snapshot.state ≠ .waitTrigger then
    raise ⟨.runtimeError, "cannot submit from " ++ self.snapshot.state.value⟩
  else
    let healthy ← ask .executionHealthy
    if !healthy then
      raise ⟨.brokerSubmissionRejected,
        "broker execution health is degraded; no intent was persisted"⟩
    else
      ExecutionJournal.assertIdentityUnused request
      transition .triggered
      transition .beginPrecheck
      let evidence ← ask (.verify request)
      ofExcept evidence.validate
      if !evidence.allowed then
        transition .precheckRejected [("reason",
          .text (if evidence.reason = "" then "precheck rejected" else evidence.reason))]
        snapshot evidence.reason
      else
        transition .precheckVerified [("source", .text "execution_guard")] none (some evidence)
        ExecutionJournal.persistIntent request
        transition .intentPersisted [("client_order_id", .text request.clientOrderId)]
        submitIntent selfPoll ports request

end Dispatch

def nextCycle : SessionM ExecutionSnapshot := do
  requireOpen
  let self ← read
  if (transitions self.snapshot.state .nextCycle).isNone then
    raise ⟨.runtimeError, "cannot start next cycle from " ++ self.snapshot.state.value⟩
  else
    transition .nextCycle
    ExecutionJournal.clearCycleData
    snapshot

/-- The verification part of `open`. -/
def bindOrMatch : SessionM Unit := do
  let verification ← ask .verifyStateMachine
  let payload ← ExecutionJournal.requireOpen
  match payload.data.formalVerification with
  | none => ExecutionJournal.bindVerification verification
  | some bound =>
      if bound ≠ verification then
        raise ⟨.journalIntegrityError,
          "journal is bound to a different execution state machine/source build"⟩
      else pure ()

/-- What `open` does with the state it finds, before it declares the session open. -/
def resume (existed : Bool) (evidence : SessionEvidence) : SessionM Unit := do
  let self ← read
  if !existed ∨ self.snapshot.state = .idle then
    transition .sessionReady [("source", .text "session_guard")] (some evidence)
  else if self.snapshot.state ∈ [TradeState.waitTrigger, .filled, .cancelled, .rejected,
      .failed] then pure ()
  else if self.snapshot.state ∈ [TradeState.submitted, .accepted, .working, .partiallyFilled,
      .pendingCancel, .cancelling, .cancelRejected] then
    transition .restartRecovery [("source", .text "restart")]
    discard recoverUnknown
  else if self.snapshot.state = .unknown then discard recoverUnknown
  else transition .fatal [("reason", .text "interrupted pre-submit state")]

/-- The `try` body of `open`. -/
def openBody (executionId : String) : SessionM ExecutionSnapshot := do
  let (machine, existed) ← ExecutionJournal.openJournal executionId
  update fun self => { self with snapshot := machine }
  bindOrMatch
  let evidence ← ask .verifySession
  ofExcept evidence.validate
  if !evidence.ready then
    raise ⟨.runtimeError,
      if evidence.reason = "" then "session verification failed" else evidence.reason⟩
  else
    resume existed evidence
    update fun self => { self with isOpen := true }
    snapshot

def mutexAcquire : SessionM Unit := do
  let self ← read
  if self.mutexOwned then raise ⟨.runtimeError, "execution mutex already owned"⟩
  else
    ask .mutexAcquire
    update fun self => { self with mutexOwned := true }

/-- The handle is given up first, so the mutex counts as released even if unlocking raises. -/
def mutexRelease : SessionM Unit := do
  let self ← read
  if !self.mutexOwned then pure ()
  else
    update fun self => { self with mutexOwned := false }
    ask .mutexRelease

def openSession (executionId : String) : SessionM ExecutionSnapshot := do
  let self ← read
  if self.closed then
    raise ⟨.sessionClosedError, "session object was closed and cannot be reopened"⟩
  else if self.isOpen then snapshot
  else
    mutexAcquire
    match ← attempt (openBody executionId) with
    | .ok out => pure out
    | .error exc =>
        mutexRelease
        raise exc

def close : SessionM Unit := do
  let self ← read
  if self.closed then pure ()
  else
    mutexRelease
    update fun self => { self with isOpen := false, closed := true }

end ExecutionSession

end QmtExecution
