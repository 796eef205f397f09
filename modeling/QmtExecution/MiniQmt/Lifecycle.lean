import QmtExecution.Domain
import QmtExecution.Interaction.Program

/-! `MiniQmtRuntime.connect`, `open` and `close`, `runtime.py`, over the steps that they are made of. -/

namespace QmtExecution.MiniQmt

open Interaction Method

inductive RuntimeEnvironment
  | simulation
  | live
  deriving DecidableEq, Repr

def RuntimeEnvironment.value : RuntimeEnvironment → String
  | .simulation => "simulation"
  | .live => "live"

structure RuntimeGateConfig where
  environment : RuntimeEnvironment
  liveTradingEnabled : Bool := false
  confirmationTokenSha256 : String := ""
  simulated : environment = .simulation → liveTradingEnabled = false
  digested : environment = .live → liveTradingEnabled = true → confirmationTokenSha256 ≠ ""

/-- `RuntimeGateConfig.__post_init__`, over the digest as it is stripped and in lower case. -/
def RuntimeGateConfig.make (environment : String) (liveTradingEnabled : Bool) (digest : String) :
    Except Exc RuntimeGateConfig :=
  if environment ≠ "simulation" ∧ environment ≠ "live" then
    .error ⟨.runtimeConfigurationError, "environment must be simulation or live"⟩
  else if digest ≠ "" ∧ (digest.length ≠ 64 ∨ digest.toList.any (!"0123456789abcdef".toList.contains ·)) then
    .error ⟨.runtimeConfigurationError, "confirmation_token_sha256 must be a SHA-256 digest"⟩
  else if environment = "simulation" then
    if enabled : liveTradingEnabled = true then
      .error ⟨.runtimeConfigurationError, "simulation cannot enable live trading"⟩
    else .ok ⟨.simulation, liveTradingEnabled, digest, fun _ => by simpa using enabled, nofun⟩
  else if given : liveTradingEnabled = true ∧ digest = "" then
    .error ⟨.runtimeConfigurationError,
      "live trading enablement requires a non-persisted runtime token digest"⟩
  else .ok ⟨.live, liveTradingEnabled, digest, nofun, fun _ enabled none => given ⟨enabled, none⟩⟩

/-- The attributes that both threads read or write: `transportConnected` and `accountHealthy` are those of
the signals, `brokerConnected` and `recoveryReady` those of the adapter, `runtime` is whether
`holder["runtime"]` is set. -/
inductive RuntimeFlag
  | transportConnected
  | accountHealthy
  | brokerConnected
  | recoveryReady
  | confirmed
  | closed
  | runtime
  deriving DecidableEq, Repr

def requireExactZero (value : Option ℤ) (label : String) : Except Exc Unit :=
  if value = some 0 then .ok ()
  else .error ⟨.runtimeConfigurationError, label ++ " did not return exact success 0"⟩

/-- The steps of a runtime's methods. A model of the runtime says what it looks into of each;
`connectTrader` is everything up to `trader.connect`, `release` the rest of a cleanup after
`event_queue.stop`. -/
structure RuntimeSteps (C : Type) (R : C → Type) (S : Type) where
  get : RuntimeFlag → Method C R S Exc Bool
  set : RuntimeFlag → Bool → Method C R S Exc Unit
  lockRuntime : Method C R S Exc Unit
  queueStart : Method C R S Exc Unit
  connectTrader : Method C R S Exc Unit
  selectBoundAccount : Method C R S Exc Unit
  subscribe : Method C R S Exc (Option ℤ)
  newBroker : Method C R S Exc Unit
  newSession : Method C R S Exc Unit
  verifyBoundAccountHealthy : Method C R S Exc Unit
  openSession : Method C R S Exc Unit
  closeSession : Method C R S Exc Unit
  unsubscribe : Method C R S Exc Unit
  queueStop : Method C R S Exc Unit
  release : Method C R S Exc Unit

namespace RuntimeSteps

variable {C : Type} {R : C → Type} {S : Type} (steps : RuntimeSteps C R S)

/-- `RuntimeExecutionGate.revoke`. -/
def revoke (gate : RuntimeGateConfig) : Method C R S Exc Unit :=
  if gate.environment = .live then steps.set .confirmed false else pure ()

/-! `MiniQmtBrokerAdapter` -/

def markDisconnected : Method C R S Exc Unit := do
  steps.set .brokerConnected false
  steps.set .recoveryReady false

def markTransportConnected : Method C R S Exc Unit := do
  steps.set .brokerConnected true
  steps.set .recoveryReady false

def markRecoveryRequired : Method C R S Exc Unit := steps.set .recoveryReady false

def markRecoveryComplete : Method C R S Exc Unit := do
  let connected ← steps.get .brokerConnected
  if !connected then
    raise ⟨.runtimeError, "cannot complete recovery while transport is disconnected"⟩
  else steps.set .recoveryReady true

/-! `MiniQmtRuntime` -/

def requireNotClosed : Method C R S Exc Unit := do
  if ← steps.get .closed then raise ⟨.runtimeError, "MiniQmtRuntime is closed"⟩ else pure ()

def openRuntime : Method C R S Exc Unit := do
  steps.requireNotClosed
  steps.verifyBoundAccountHealthy
  steps.openSession
  steps.set .transportConnected true
  steps.set .accountHealthy true
  steps.markTransportConnected
  steps.markRecoveryComplete

/-- The `try` body of `connect`. The adapter starts connected and not recovered. -/
def connectBody (autoOpen : Bool) : Method C R S Exc Unit := do
  steps.lockRuntime
  steps.queueStart
  steps.connectTrader
  steps.set .transportConnected true
  steps.selectBoundAccount
  let code ← steps.subscribe
  ofExcept (requireExactZero code "trader.subscribe")
  steps.set .accountHealthy true
  steps.newBroker
  steps.markTransportConnected
  steps.newSession
  steps.set .runtime true
  if autoOpen then steps.openRuntime else pure ()

/-- `connect` once the callback is made. -/
def connect (autoOpen : Bool) : Method C R S Exc Unit := do
  match ← attempt (steps.connectBody autoOpen) with
  | .ok () => pure ()
  | .error exc =>
      let _ ← attempt steps.closeSession
      steps.queueStop
      steps.release
      raise exc

def releaseAll : Method C R S Exc Unit := do
  steps.queueStop
  steps.release
  steps.set .closed true

def close (gate : RuntimeGateConfig) : Method C R S Exc Unit := do
  if ← steps.get .closed then pure ()
  else
    steps.revoke gate
    steps.markDisconnected
    tryFinally steps.closeSession (tryFinally steps.unsubscribe steps.releaseAll)

end RuntimeSteps

end QmtExecution.MiniQmt
