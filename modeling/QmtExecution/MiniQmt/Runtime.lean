import QmtExecution.CoordinatedSession
import QmtExecution.EventQueue
import QmtExecution.MiniQmt.Lifecycle
import QmtExecution.MiniQmt.SessionIds

/-! What `MiniQmtRuntime.connect`, `open` and `close`, `runtime.py`, lock, lease, start and open, over
the calls that they make. -/

namespace QmtExecution.MiniQmt

open Interaction Method SessionIds

inductive RuntimeLockMode
  | exclusive
  | shared
  deriving DecidableEq, Repr

/-- The part of `MiniQmtRuntimeConfig` that `connect` and `close` read; its strategy name is the
execution id of the session. -/
structure MiniQmtRuntimeConfig where
  gate : RuntimeGateConfig
  qmtPath : String
  runtimeLockMode : RuntimeLockMode := .exclusive
  sessionId : Option ℤ := none
  sessionIdPoolStart : ℤ := 100000000
  sessionIdPoolSize : ℤ := 1000
  sessionIdAttempts : ℤ := 32
  eventQueueSize : ℕ := 1024
  session : SessionConfig
  sessionId_pos : ∀ id, sessionId = some id → 0 < id
  eventQueueSize_pos : 0 < eventQueueSize

def MiniQmtRuntimeConfig.candidateIds (host : LeaseHost) (config : MiniQmtRuntimeConfig)
    (allocator : BoundedSessionIdAllocator) : Except Exc (List ℤ) :=
  match config.sessionId with
  | some sessionId => .ok [sessionId]
  | none => allocator.candidateIds host
      (config.gate.environment.value ++ "|" ++ config.session.executionId)

inductive RuntimeCommand
  | get (flag : RuntimeFlag)
  | set (flag : RuntimeFlag) (value : Bool)
  | makeCallback
  | runtimeMutexAcquire
  | runtimeMutexRelease
  | queueStart
  | queueStop
  | queueJoin (onWorker : Bool)
  | newAllocator
  | lease (command : LeaseCommand)
  | randomSessionId
  | traderFactory (sessionId : ℤ)
  | hasRegisterCallback (trader : ℕ)
  | registerCallback (trader : ℕ)
  | traderStart (trader : ℕ)
  | traderConnect (trader : ℕ)
  | traderStop (trader : ℕ)
  | selectBoundAccount (trader : ℕ)
  | subscribe (trader : ℕ)
  | unsubscribe (trader : ℕ)
  | newOrderConfig
  | newBroker
  | newSession
  | verifyBoundAccountHealthy (trader : ℕ)
  | session (command : Command)

/-- What a call returns: `trader_factory` may return `None`, and `connect` and `subscribe` what is
not a plain integer. -/
@[reducible] def RuntimeResult : RuntimeCommand → Type
  | .get _ => Bool
  | .lease command => LeaseResult command
  | .randomSessionId => ℤ
  | .traderFactory _ => Option ℕ
  | .hasRegisterCallback _ => Bool
  | .traderConnect _ => Option ℤ
  | .subscribe _ => Option ℤ
  | .session command => Result command
  | _ => Unit

/-- The variables of `connect`, which become the attributes of the runtime. `runtimeMutex` is
whether the mutex is owned, once there is one; `lease` and `candidateTrader` belong to one turn of
the loop over the candidates. -/
structure RuntimeState where
  runtimeMutex : Option Bool := none
  sessionIdLease : Option SessionIdLease := none
  trader : Option ℕ := none
  actualSessionId : Option ℤ := none
  session : Option SessionState := none
  lease : Option SessionIdLease := none
  candidateTrader : Option ℕ := none
  closed : Bool := false

abbrev RuntimeM := Method RuntimeCommand RuntimeResult RuntimeState Exc

namespace MiniQmtRuntime

def ask (command : RuntimeCommand) : RuntimeM (RuntimeResult command) := Method.perform command

def onSession {α : Type} (method : SessionM α) : RuntimeM α := fun self =>
  match self.session with
  | none => .done (.error ⟨.attributeError, "session"⟩, self)
  | some session => ((method session).within RuntimeCommand.session fun _ answer => answer).bind
      fun (outcome, after) => .done (outcome, { self with session := some after })

def onLeases {α : Type} (method : LeaseM α) : RuntimeM α := fun self =>
  ((method ()).within RuntimeCommand.lease fun _ answer => answer).bind
    fun (outcome, _) => .done (outcome, self)

def getFlag : RuntimeFlag → RuntimeM Bool
  | .closed => do
      let self ← read
      pure self.closed
  | flag => ask (.get flag)

def setFlag : RuntimeFlag → Bool → RuntimeM Unit
  | .closed, value => update fun self => { self with closed := value }
  | flag, value => ask (.set flag value)

def bestEffortStop (trader : ℕ) : RuntimeM Unit := do
  let _ ← attempt (ask (.traderStop trader))
  pure ()

/-- `ExecutionMutex.release` of the runtime mutex. -/
def releaseRuntimeMutex : RuntimeM Unit := do
  let self ← read
  if self.runtimeMutex = some true then
    update fun self => { self with runtimeMutex := some false }
    ask .runtimeMutexRelease
  else pure ()

def releaseLease (lease : Option SessionIdLease) : RuntimeM Unit :=
  match lease with
  | none => pure ()
  | some lease => onLeases lease.release

def stopTrader (trader : Option ℕ) : RuntimeM Unit :=
  match trader with
  | none => pure ()
  | some trader => bestEffortStop trader

/-- From `register_callback` to `connect`, alike in both modes. -/
def startTrader (trader : Option ℕ) : RuntimeM Unit :=
  match trader with
  | none => raise ⟨.runtimeConfigurationError, "XtQuant trader has no register_callback"⟩
  | some trader => do
      let registers ← ask (.hasRegisterCallback trader)
      if !registers then
        raise ⟨.runtimeConfigurationError, "XtQuant trader has no register_callback"⟩
      else
        ask (.registerCallback trader)
        ask (.traderStart trader)
        let code ← ask (.traderConnect trader)
        Method.ofExcept (requireExactZero code "trader.connect")

section Shared

variable (host : LeaseHost) (allocator : BoundedSessionIdAllocator)

def candidateBody (candidate : ℤ) : RuntimeM Unit := do
  let lease ← onLeases (allocator.acquireExact host candidate)
  update fun self => { self with lease := some lease }
  let trader ← ask (.traderFactory candidate)
  update fun self => { self with candidateTrader := trader }
  startTrader trader

def undoCandidate : RuntimeM Unit := do
  let self ← read
  stopTrader self.candidateTrader
  releaseLease self.lease

def runCandidates (exact : Bool) : List ℤ → RuntimeM Unit
  | [] => pure ()
  | candidate :: rest => do
      update fun self => { self with lease := none, candidateTrader := none }
      match ← attempt (candidateBody host allocator candidate) with
      | .ok () => update fun self => { self with
          trader := self.candidateTrader
          sessionIdLease := self.lease
          actualSessionId := some candidate }
      | .error exc =>
          undoCandidate
          if exact then raise exc else runCandidates exact rest

end Shared

def connectShared (host : LeaseHost) (config : MiniQmtRuntimeConfig) : RuntimeM Unit := do
  ask .newAllocator
  let allocator ← Method.ofExcept (BoundedSessionIdAllocator.make host config.qmtPath
    config.sessionIdPoolStart config.sessionIdPoolSize config.sessionIdAttempts)
  let candidates ← Method.ofExcept (config.candidateIds host allocator)
  runCandidates host allocator config.sessionId.isSome candidates
  let self ← read
  if self.trader = none ∨ self.sessionIdLease = none ∨ self.actualSessionId = none then
    raise ⟨.sessionIdUnavailable, "shared runtime exhausted bounded session-id attempts"⟩
  else pure ()

def exclusiveSessionId (config : MiniQmtRuntimeConfig) : RuntimeM ℤ :=
  match config.sessionId with
  | some sessionId => pure sessionId
  | none => ask .randomSessionId

def connectExclusive (config : MiniQmtRuntimeConfig) : RuntimeM Unit := do
  let sessionId ← exclusiveSessionId config
  update fun self => { self with actualSessionId := some sessionId }
  let trader ← ask (.traderFactory sessionId)
  update fun self => { self with trader := trader }
  startTrader trader

def lockRuntime (config : MiniQmtRuntimeConfig) : RuntimeM Unit :=
  match config.runtimeLockMode with
  | .exclusive => do
      update fun self => { self with runtimeMutex := some false }
      ask .runtimeMutexAcquire
      update fun self => { self with runtimeMutex := some true }
  | .shared => pure ()

def connectTrader (host : LeaseHost) (config : MiniQmtRuntimeConfig) : RuntimeM Unit :=
  match config.runtimeLockMode with
  | .shared => connectShared host config
  | .exclusive => connectExclusive config

def withTrader {α : Type} (action : ℕ → RuntimeM α) : RuntimeM α := do
  let self ← read
  match self.trader with
  | none => raise ⟨.attributeError, "trader"⟩
  | some trader => action trader

def closeSession : RuntimeM Unit := do
  let self ← read
  match self.session with
  | none => pure ()
  | some _ => onSession ExecutionSession.close

def release (onWorker : Bool) : RuntimeM Unit := do
  ask (.queueJoin onWorker)
  let self ← read
  stopTrader self.trader
  releaseLease self.sessionIdLease
  releaseRuntimeMutex

/-- `onWorker` says that the event queue's own thread is the caller. -/
def steps (host : LeaseHost) (config : MiniQmtRuntimeConfig) (onWorker : Bool) :
    RuntimeSteps RuntimeCommand RuntimeResult RuntimeState where
  get := getFlag
  set := setFlag
  lockRuntime := lockRuntime config
  queueStart := ask .queueStart
  connectTrader := connectTrader host config
  selectBoundAccount := withTrader fun trader => ask (.selectBoundAccount trader)
  subscribe := withTrader fun trader => ask (.subscribe trader)
  newBroker := do
    ask .newOrderConfig
    ask .newBroker
  newSession := do
    ask .newSession
    update fun self => { self with session := some {} }
  verifyBoundAccountHealthy := withTrader fun trader => ask (.verifyBoundAccountHealthy trader)
  openSession := do
    let _ ← onSession (runOperation config.session .openSession)
    pure ()
  closeSession := closeSession
  unsubscribe := withTrader fun trader => ask (.unsubscribe trader)
  queueStop := ask .queueStop
  release := release onWorker

/-- `MiniQmtRuntime.connect` once the gate is built. -/
def connect (host : LeaseHost) (config : MiniQmtRuntimeConfig) (autoOpen : Bool) : RuntimeM Unit := do
  ask .makeCallback
  (steps host config false).connect autoOpen

/-- `MiniQmtRuntime.close`. -/
def close (host : LeaseHost) (config : MiniQmtRuntimeConfig) (onWorker : Bool) : RuntimeM Unit :=
  (steps host config onWorker).close config.gate

end MiniQmtRuntime

end QmtExecution.MiniQmt
