import QmtExecution.EventQueue
import QmtExecution.Interaction.Rely
import QmtExecution.MiniQmt.Adapter
import QmtExecution.MiniQmt.Lifecycle

/-! What decides whether a `MiniQmtRuntime` may send orders: the flags of `runtime.py`, of the gate of
`runtime_gate.py` and of `MiniQmtBrokerAdapter`, which are written one at a time by the main thread and
by the callbacks that the thread of the event queue handles. -/

namespace QmtExecution.MiniQmt

open Interaction Method

/-- The observations of `callbacks.py` that `handle_callback` tells apart; `observed` is one of an order,
of a trade or of an error. -/
inductive QmtCallbackEvent
  | malformed (callbackName error : String)
  | brokerDisconnected
  | accountStatusObserved (accountId : String) (accountType status : ℤ)
  | observed
  deriving DecidableEq, Repr

/-- The arguments of `order_stock` after the account. -/
structure StockOrder where
  stockCode : String
  orderType : ℤ
  orderVolume : ℤ
  priceType : ℤ
  price : ℚ
  strategyName : String
  orderRemark : String
  deriving DecidableEq

/-- What a runtime is built with; `tokenSha256` is the digest of a token, `observes` whether there is
an observation handler. -/
structure RuntimeSettings where
  gate : RuntimeGateConfig
  tokenSha256 : String → String
  accountId : String
  securityAccountType : ℤ
  accountStatusOk : ℤ
  observes : Bool
  orderConfig : QmtOrderConfig
  priceType : ℤ
  strategyName : String

/-- The steps of the threads: accesses to the flags and to the event queue, and calls of what has
nothing to do with either. `confirm` is the assignment that `RuntimeExecutionGate.confirm` ends with,
`acquire` all of `connect` before `trader.connect` has succeeded, `build` the construction of the
adapter, the session and the runtime, `release` the rest of a cleanup. -/
inductive HealthCommand
  | get (flag : RuntimeFlag)
  | set (flag : RuntimeFlag) (value : Bool)
  | confirm (token : String)
  | queueStart
  | queueStop
  | queueHealthy
  | queueFail (exc : Exc)
  | queueGet
  | taskDone
  | queueDrained
  | acquire
  | selectBoundAccount
  | build
  | release
  | traderConnect
  | verifyBoundAccountHealthy
  | subscribe
  | unsubscribe
  | openSession
  | closeSession
  | reconcile
  | verifySession
  | observe (event : QmtCallbackEvent)
  | orderStock (order : StockOrder)

@[reducible] def HealthResult : HealthCommand → Type
  | .get _ => Bool
  | .queueHealthy => Bool
  | .queueGet => Option QmtCallbackEvent
  | .queueDrained => Bool
  | .traderConnect => Option ℤ
  | .subscribe => Option ℤ
  | .reconcile => ExecutionSnapshot
  | .verifySession => SessionEvidence
  | .orderStock _ => Option ℤ
  | _ => Unit

abbrev HealthM := Method HealthCommand HealthResult Unit Exc

namespace Health

def ask (command : HealthCommand) : HealthM (HealthResult command) := Method.perform command

/-- The locks and the constructors have nothing to do with the flags. -/
def steps : RuntimeSteps HealthCommand HealthResult Unit where
  get flag := ask (.get flag)
  set flag value := ask (.set flag value)
  lockRuntime := pure ()
  queueStart := ask .queueStart
  connectTrader := ask .acquire
  selectBoundAccount := ask .selectBoundAccount
  subscribe := ask .subscribe
  newBroker := pure ()
  newSession := ask .build
  verifyBoundAccountHealthy := ask .verifyBoundAccountHealthy
  openSession := ask .openSession
  closeSession := ask .closeSession
  unsubscribe := ask .unsubscribe
  queueStop := ask .queueStop
  release := ask .release

/-! `RuntimeExecutionGate` -/

def executionAllowed (settings : RuntimeSettings) : HealthM Bool :=
  match settings.gate.environment with
  | .simulation => pure true
  | .live => if settings.gate.liveTradingEnabled then ask (.get .confirmed) else pure false

def confirm (settings : RuntimeSettings) (token : String) : HealthM Unit :=
  if settings.gate.environment ≠ .live then
    raise ⟨.other "RuntimeConfirmationError", "runtime confirmation applies only to live environment"⟩
  else if settings.gate.liveTradingEnabled = false then
    raise ⟨.other "RuntimeConfirmationError", "live trading is disabled by configuration"⟩
  else if token = "" then
    raise ⟨.other "RuntimeConfirmationError", "runtime confirmation token must be non-empty"⟩
  else if settings.tokenSha256 token ≠ settings.gate.confirmationTokenSha256 then
    raise ⟨.other "RuntimeConfirmationError", "runtime confirmation token mismatch"⟩
  else ask (.confirm token)

def revoke (settings : RuntimeSettings) : HealthM Unit := steps.revoke settings.gate

/-! `MiniQmtBrokerAdapter` -/

def markDisconnected : HealthM Unit := steps.markDisconnected

def markTransportConnected : HealthM Unit := steps.markTransportConnected

def markRecoveryRequired : HealthM Unit := steps.markRecoveryRequired

def markRecoveryComplete : HealthM Unit := steps.markRecoveryComplete

def healthProbe : HealthM Bool := do
  if !(← ask .queueHealthy) then pure false
  else if !(← ask (.get .transportConnected)) then pure false
  else ask (.get .accountHealthy)

def executionHealthy (settings : RuntimeSettings) : HealthM Bool := do
  if !(← ask (.get .brokerConnected)) then pure false
  else if !(← ask (.get .recoveryReady)) then pure false
  else if !(← healthProbe) then pure false
  else executionAllowed settings

def validateQmtRemark (remark : String) : Except Exc Unit :=
  if remark.toList.any (128 ≤ ·.val) then
    .error ⟨.brokerSubmissionRejected, "MiniQMT order_remark must be ASCII for deterministic identity"⟩
  else if 24 < remark.length then
    .error ⟨.brokerSubmissionRejected, "MiniQMT order_remark exceeds 24 characters"⟩
  else .ok ()

def stockOrder (settings : RuntimeSettings) (request : ExecutionRequest) : StockOrder where
  stockCode := request.symbol
  orderType := if request.side = .buy then settings.orderConfig.buyOrderType
    else settings.orderConfig.sellOrderType
  orderVolume := request.qty
  priceType := settings.priceType
  price := request.limitPrice
  strategyName := settings.strategyName
  orderRemark := request.orderRemark

/-- What `place_order` makes of the answer of `order_stock`; `none` is what is no plain integer. -/
def submitted : Except Exc (Option ℤ) → Except Exc ℤ
  | .error _ => .error ⟨.brokerSubmissionAmbiguous, "MiniQMT submit raised; outcome unknown"⟩
  | .ok none => .error ⟨.brokerSubmissionAmbiguous, "MiniQMT submit returned non-int result"⟩
  | .ok (some result) =>
      if result = -1 then
        .error ⟨.brokerSubmissionRejected, "MiniQMT definitively rejected submit"⟩
      else if result ≤ 0 then
        .error ⟨.brokerSubmissionAmbiguous, "MiniQMT submit returned unexpected order id"⟩
      else .ok result

def placeOrder (settings : RuntimeSettings) (request : ExecutionRequest) : HealthM ℤ := do
  if !(← executionHealthy settings) then
    raise ⟨.brokerSubmissionRejected, "MiniQMT execution gate is not ready; order was not invoked"⟩
  else
    Method.ofExcept (validateQmtRemark request.orderRemark)
    let result ← attempt (ask (.orderStock (stockOrder settings request)))
    Method.ofExcept (submitted result)

/-! `MiniQmtRuntime` -/

def requireNotClosed : HealthM Unit := steps.requireNotClosed

def openRuntime : HealthM Unit := steps.openRuntime

def confirmLive (settings : RuntimeSettings) (token : String) : HealthM Unit := do
  requireNotClosed
  confirm settings token

/-- Whether the session is reconciled, and what its guard says of it, as `recover_after_disconnect`
checks them. -/
def checkReconciled (out : ExecutionSnapshot) : Except Exc Unit :=
  if out.state = .unknown ∨ out.state = .failed then
    .error ⟨.recoveryAmbiguous, "durable execution did not reconcile after reconnect: " ++ out.state.value⟩
  else .ok ()

def checkReady (evidence : SessionEvidence) : Except Exc Unit := do
  evidence.validate
  if evidence.ready then .ok ()
  else .error ⟨.recoveryAmbiguous,
    if evidence.reason = "" then "session re-verification failed" else evidence.reason⟩

def recoverAfterDisconnect (settings : RuntimeSettings) (runtimeToken : Option String) :
    HealthM Unit := do
  requireNotClosed
  revoke settings
  markRecoveryRequired
  ask (.set .transportConnected false)
  ask (.set .accountHealthy false)
  if !(← ask .queueHealthy) then
    raise ⟨.eventQueueUnhealthy, "callback event queue is not healthy"⟩
  else
    let code ← ask .traderConnect
    Method.ofExcept (requireExactZero code "trader.connect")
    ask (.set .transportConnected true)
    markTransportConnected
    ask .verifyBoundAccountHealthy
    let code ← ask .subscribe
    Method.ofExcept (requireExactZero code "trader.subscribe")
    ask (.set .accountHealthy true)
    let out ← ask .reconcile
    Method.ofExcept (checkReconciled out)
    let evidence ← ask .verifySession
    Method.ofExcept (checkReady evidence)
    markRecoveryComplete
    if settings.gate.environment = .live then
      match runtimeToken with
      | none => raise ⟨.recoveryAmbiguous, "live reconnect requires a fresh runtime confirmation token"⟩
      | some token => confirm settings token
    else pure ()

def close (settings : RuntimeSettings) : HealthM Unit := steps.close settings.gate

def connect (autoOpen : Bool) : HealthM Unit := steps.connect autoOpen

/-! The thread of the event queue -/

def isUnhealthy (settings : RuntimeSettings) (accountId : String) (accountType status : ℤ) : Bool :=
  accountId = settings.accountId &&
    (accountType ≠ settings.securityAccountType || status ≠ settings.accountStatusOk)

/-- What `handle_callback` does before it passes the event on; `runtime` is what it finds in
`holder`. -/
def react (settings : RuntimeSettings) (runtime : Bool) : QmtCallbackEvent → HealthM Unit
  | .malformed callbackName error =>
      raise ⟨.eventQueueUnhealthy, "malformed broker callback " ++ callbackName ++ ": " ++ error⟩
  | .brokerDisconnected => do
      ask (.set .transportConnected false)
      ask (.set .accountHealthy false)
      revoke settings
      if runtime then markDisconnected else pure ()
  | .accountStatusObserved accountId accountType status =>
      if runtime && isUnhealthy settings accountId accountType status then do
        ask (.set .accountHealthy false)
        revoke settings
        markRecoveryRequired
      else pure ()
  | .observed => pure ()

def handleCallback (settings : RuntimeSettings) (event : QmtCallbackEvent) : HealthM Unit := do
  let runtime ← ask (.get .runtime)
  react settings runtime event
  if settings.observes then ask (.observe event) else pure ()

/-- One turn of `SerialEventQueue._run`, and whether there is a further one. -/
def turn (settings : RuntimeSettings) : HealthM Bool := do
  match ← ask .queueGet with
  | none =>
      ask .taskDone
      pure false
  | some event =>
      match ← attempt (handleCallback settings event) with
      | .ok () =>
          ask .taskDone
          let drained ← ask .queueDrained
          pure !drained
      | .error exc =>
          ask (.queueFail exc)
          ask .taskDone
          pure false

/-- `try_emit` on a thread of the broker; `full` says that `put_nowait` finds the queue full. -/
def tryEmit (full : Bool) : HealthM Bool := do
  if !(← ask .queueHealthy) then pure false
  else if full then
    ask (.queueFail SerialEventQueue.overflow)
    pure false
  else pure true

end Health

inductive RuntimeThread
  | main
  | worker
  | broker (n : ℕ)
  deriving DecidableEq, Repr

/-- What a thread does at a time. The main thread also runs the rest of the session's operations, none of
which has to do with the flags except through `executionHealthy` and `placeOrder`. -/
inductive HealthOperation
  | connect (autoOpen : Bool)
  | openRuntime
  | recoverAfterDisconnect (runtimeToken : Option String)
  | confirmLive (token : String)
  | executionHealthy
  | placeOrder (request : ExecutionRequest)
  | close
  | turn
  | tryEmit (full : Bool)

inductive HealthOutcome
  | done
  | holds (value : Bool)
  | order (orderId : ℤ)
  deriving DecidableEq

namespace HealthOperation

def On : HealthOperation → RuntimeThread → Bool
  | .turn, thread => thread = .worker
  | .tryEmit _, thread => match thread with
    | .broker _ => true
    | _ => false
  | _, thread => thread = .main

def method (settings : RuntimeSettings) : HealthOperation → HealthM HealthOutcome
  | .connect autoOpen => do
      Health.connect autoOpen
      pure .done
  | .openRuntime => do
      Health.openRuntime
      pure .done
  | .recoverAfterDisconnect runtimeToken => do
      Health.recoverAfterDisconnect settings runtimeToken
      pure .done
  | .confirmLive token => do
      Health.confirmLive settings token
      pure .done
  | .executionHealthy => do
      let healthy ← Health.executionHealthy settings
      pure (.holds healthy)
  | .placeOrder request => do
      let orderId ← Health.placeOrder settings request
      pure (.order orderId)
  | .close => do
      Health.close settings
      pure .done
  | .turn => do
      let again ← Health.turn settings
      pure (.holds again)
  | .tryEmit full => do
      let emitted ← Health.tryEmit full
      pure (.holds emitted)

def run (settings : RuntimeSettings) (thread : RuntimeThread) (operation : HealthOperation) :
    HealthM HealthOutcome :=
  if operation.On thread then operation.method settings else pure .done

abbrev Results : Type := List (HealthOperation × Except Exc HealthOutcome × Unit)

/-- There is a runtime once `connect` has returned it, and a turn of the event queue's thread while the
turns before it have not ended the thread. -/
def Enabled (results : Results) : HealthOperation → Prop
  | .connect _ => ∀ result ∈ results, result.1.On .main = false
  | .turn => ∀ result ∈ results, result.1.On .worker = true → result.2.1 = .ok (.holds true)
  | .tryEmit _ => True
  | _ => ∃ autoOpen, (.connect autoOpen, .ok .done, ()) ∈ results

end HealthOperation

structure HealthCall where
  command : HealthCommand
  answer : Except Exc (HealthResult command)

/-- The flags and the state of the event queue, with all calls of the threads, newest first. -/
structure HealthWorld where
  flags : RuntimeFlag → Bool
  queue : EventQueueState
  log : List (RuntimeThread × HealthCall)

namespace HealthWorld

def flagsAfter (flags : RuntimeFlag → Bool) : HealthCommand → RuntimeFlag → Bool
  | .set flag value => Function.update flags flag value
  | .confirm _ => Function.update flags .confirmed true
  | _ => flags

def queueAfter (state : EventQueueState) : HealthCommand → EventQueueState
  | .queueStart => if state = .new then .running else state
  | .queueStop => if state = .failed then .failed else .stopped
  | .queueFail _ => .failed
  | _ => state

/-- What is read is as it is; no assignment raises; the rest may be answered in any way. -/
def Truthful (world : HealthWorld) : HealthCall → Prop
  | ⟨.get flag, answer⟩ => answer = .ok (world.flags flag)
  | ⟨.set _ _, answer⟩ => answer = .ok ()
  | ⟨.confirm _, answer⟩ => answer = .ok ()
  | ⟨.queueHealthy, answer⟩ => answer = .ok (world.queue = .running)
  | ⟨.queueStop, answer⟩ => answer = .ok ()
  | ⟨.queueFail _, answer⟩ => answer = .ok ()
  | ⟨.queueGet, answer⟩ => ∃ item, answer = .ok item
  | ⟨.taskDone, answer⟩ => answer = .ok ()
  | ⟨.queueDrained, answer⟩ => ∃ drained, answer = .ok drained ∧ (drained = true → world.queue = .stopped)
  | _ => True

def after (world : HealthWorld) (thread : RuntimeThread) (call : HealthCall) : HealthWorld where
  flags := flagsAfter world.flags call.command
  queue := queueAfter world.queue call.command
  log := (thread, call) :: world.log

def Answers (thread : RuntimeThread) (world : HealthWorld) (command : HealthCommand)
    (answer : Except Exc (HealthResult command)) (after : HealthWorld) : Prop :=
  world.Truthful ⟨command, answer⟩ ∧ after = world.after thread ⟨command, answer⟩

def initial (settings : RuntimeSettings) : HealthWorld where
  flags flag := flag = .confirmed && settings.gate.environment = .simulation
  queue := .new
  log := []

end HealthWorld

def healthTeam (settings : RuntimeSettings) :
    Team HealthCommand (fun command => Except Exc (HealthResult command)) RuntimeThread HealthOperation
      (Except Exc HealthOutcome × Unit) HealthWorld where
  run thread operation := operation.run settings thread ()
  enabled := HealthOperation.Enabled
  answers := HealthWorld.Answers
  crashed _ _ _ := False

end QmtExecution.MiniQmt
