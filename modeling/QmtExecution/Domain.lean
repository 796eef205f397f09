import QmtExecution.Binary64
import Mathlib.Data.Rat.Defs
import Mathlib.Tactic

/-! Exceptions, enumerations and records of `exceptions.py` and `domain.py`. Prices and
amounts are rationals, which every float is. A record whose constructor validates its fields carries the
validation, so that only the values Python can construct exist. -/

namespace QmtExecution

/-- The exception classes the modelled code raises or tells apart. `other` is any further
subclass of `Exception`. -/
inductive ExcClass
  | sessionClosedError
  | brokerError
  | brokerExecutionDisabled
  | brokerSubmissionRejected
  | brokerSubmissionAmbiguous
  | brokerQueryAmbiguous
  | recoveryAmbiguous
  | coordinationError
  | symbolClaimConflict
  | cashReservationRejected
  | coordinationIdentityError
  | runtimeAuthorityError
  | runtimeConfigurationError
  | sessionIdUnavailable
  | eventQueueUnhealthy
  | journalError
  | journalIntegrityError
  | invalidTransition
  | invariantViolation
  | concurrentExecutionError
  | jsonDecodeError
  | osError
  | keyError
  | typeError
  | valueError
  | attributeError
  | runtimeError
  | other (name : String)
  deriving DecidableEq, Repr

/-- The base class that the code can catch a class by, when it is not `Exception` itself. -/
def ExcClass.base : ExcClass → Option ExcClass
  | .brokerExecutionDisabled => some .brokerError
  | .brokerSubmissionRejected => some .brokerError
  | .brokerSubmissionAmbiguous => some .brokerError
  | .brokerQueryAmbiguous => some .brokerError
  | .symbolClaimConflict => some .coordinationError
  | .cashReservationRejected => some .coordinationError
  | .coordinationIdentityError => some .coordinationError
  | .sessionIdUnavailable => some .runtimeConfigurationError
  | .journalIntegrityError => some .journalError
  | .jsonDecodeError => some .valueError
  | _ => none

structure Exc where
  cls : ExcClass
  message : String
  deriving DecidableEq, Repr

/-- `float` of an `int` from `Binary64.overflow` on. -/
def overflowError : Exc := ⟨.other "OverflowError", "int too large to convert to float"⟩

/-- Whether `except cls` catches the exception. -/
def Exc.isA (exc : Exc) (cls : ExcClass) : Bool :=
  exc.cls = cls || exc.cls.base = some cls

theorem except_bind {α β : Type} {first : Except Exc α} {next : α → Except Exc β} {value : β}
    (done : (first >>= next) = .ok value) : ∃ middle, first = .ok middle ∧ next middle = .ok value := by
  cases first with
  | error exc => cases done
  | ok middle => exact ⟨middle, rfl, done⟩

inductive Side
  | buy
  | sell
  deriving DecidableEq, Repr

inductive TradeState
  | idle
  | waitTrigger
  | trigger
  | preCheck
  | submitted
  | accepted
  | working
  | unknown
  | partiallyFilled
  | pendingCancel
  | cancelling
  | filled
  | cancelled
  | rejected
  | cancelRejected
  | failed
  deriving DecidableEq, Repr

def TradeState.value : TradeState → String
  | .idle => "idle"
  | .waitTrigger => "wait_trigger"
  | .trigger => "trigger"
  | .preCheck => "pre_check"
  | .submitted => "submitted"
  | .accepted => "accepted"
  | .working => "working"
  | .unknown => "unknown"
  | .partiallyFilled => "partially_filled"
  | .pendingCancel => "pending_cancel"
  | .cancelling => "cancelling"
  | .filled => "filled"
  | .cancelled => "cancelled"
  | .rejected => "rejected"
  | .cancelRejected => "cancel_rejected"
  | .failed => "failed"

inductive TradeEvent
  | sessionReady
  | triggered
  | beginPrecheck
  | precheckVerified
  | precheckRejected
  | intentPersisted
  | preBrokerRejected
  | preBrokerAborted
  | submitAccepted
  | submitRejected
  | submitAmbiguous
  | orderWorking
  | orderPartial
  | orderFilled
  | orderRejected
  | cancelRequested
  | cancelSent
  | cancelRequestRejected
  | cancelStillPending
  | cancelConfirmed
  | queryAmbiguous
  | recoveryAccepted
  | recoveryWorking
  | recoveryPartial
  | recoveryCancelling
  | recoveryFilled
  | recoveryCancelled
  | recoveryRejected
  | recoveryFailed
  | restartRecovery
  | nextCycle
  | fatal
  deriving DecidableEq, Repr

def TradeEvent.value : TradeEvent → String
  | .sessionReady => "session_ready"
  | .triggered => "triggered"
  | .beginPrecheck => "begin_precheck"
  | .precheckVerified => "precheck_verified"
  | .precheckRejected => "precheck_rejected"
  | .intentPersisted => "intent_persisted"
  | .preBrokerRejected => "pre_broker_rejected"
  | .preBrokerAborted => "pre_broker_aborted"
  | .submitAccepted => "submit_accepted"
  | .submitRejected => "submit_rejected"
  | .submitAmbiguous => "submit_ambiguous"
  | .orderWorking => "order_working"
  | .orderPartial => "order_partial"
  | .orderFilled => "order_filled"
  | .orderRejected => "order_rejected"
  | .cancelRequested => "cancel_requested"
  | .cancelSent => "cancel_sent"
  | .cancelRequestRejected => "cancel_request_rejected"
  | .cancelStillPending => "cancel_still_pending"
  | .cancelConfirmed => "cancel_confirmed"
  | .queryAmbiguous => "query_ambiguous"
  | .recoveryAccepted => "recovery_accepted"
  | .recoveryWorking => "recovery_working"
  | .recoveryPartial => "recovery_partial"
  | .recoveryCancelling => "recovery_cancelling"
  | .recoveryFilled => "recovery_filled"
  | .recoveryCancelled => "recovery_cancelled"
  | .recoveryRejected => "recovery_rejected"
  | .recoveryFailed => "recovery_failed"
  | .restartRecovery => "restart_recovery"
  | .nextCycle => "next_cycle"
  | .fatal => "fatal"

inductive BrokerOrderStatus
  | accepted
  | working
  | partiallyFilled
  | cancelPending
  | partialCancelled
  | cancelled
  | filled
  | rejected
  | unknown
  deriving DecidableEq, Repr

def BrokerOrderStatus.value : BrokerOrderStatus → String
  | .accepted => "accepted"
  | .working => "working"
  | .partiallyFilled => "partially_filled"
  | .cancelPending => "cancel_pending"
  | .partialCancelled => "partial_cancelled"
  | .cancelled => "cancelled"
  | .filled => "filled"
  | .rejected => "rejected"
  | .unknown => "unknown"

inductive CancelRequestResult
  | accepted
  | rejected
  deriving DecidableEq, Repr

structure SafetyFacts where
  environmentVerified : Bool := false
  accountVerified : Bool := false
  brokerSnapshotVerified : Bool := false
  positionVerified : Bool := false
  cashVerified : Bool := false
  quoteVerified : Bool := false
  intentPersisted : Bool := false
  reservationPersisted : Bool := false
  unresolvedOrder : Bool := false
  terminalOrderConfirmed : Bool := false
  submittedOnce : Bool := false
  cancelIntentPersisted : Bool := false
  deriving DecidableEq, Repr

structure SessionEvidence where
  ready : Bool
  environmentVerified : Bool
  accountVerified : Bool
  reason : String := ""
  deriving DecidableEq, Repr

def SessionEvidence.validate (evidence : SessionEvidence) : Except Exc Unit :=
  if evidence.ready && !(evidence.environmentVerified && evidence.accountVerified) then
    .error ⟨.valueError, "ready session must carry environment/account verification"⟩
  else .ok ()

structure PrecheckEvidence where
  allowed : Bool
  environmentVerified : Bool
  accountVerified : Bool
  brokerSnapshotVerified : Bool
  positionVerified : Bool
  cashVerified : Bool
  quoteVerified : Bool
  reason : String := ""
  deriving DecidableEq, Repr

def PrecheckEvidence.validate (evidence : PrecheckEvidence) : Except Exc Unit :=
  if evidence.allowed && !(evidence.environmentVerified && evidence.accountVerified &&
      evidence.brokerSnapshotVerified && evidence.positionVerified && evidence.cashVerified &&
      evidence.quoteVerified) then
    .error ⟨.valueError, "allowed precheck must carry complete verification evidence"⟩
  else .ok ()

/-- `limitPrice` is `float(limit_price)`, as which the price is always used. -/
structure ExecutionRequest where
  clientOrderId : String
  symbol : String
  side : Side
  qty : Int
  limitPrice : ℚ
  strategyId : String
  orderRemark : String
  clientOrderId_ne : clientOrderId ≠ ""
  symbol_ne : symbol ≠ ""
  strategyId_ne : strategyId ≠ ""
  orderRemark_ne : orderRemark ≠ ""
  qty_pos : 0 < qty
  limitPrice_pos : 0 < limitPrice
  deriving DecidableEq

/-- `qty * float(limit_price)`; `none` is infinity. -/
def ExecutionRequest.notional (request : ExecutionRequest) : Option ℚ := do
  let qty ← Binary64.round request.qty
  Binary64.round (qty * request.limitPrice)

/-- The quantity is converted to a float before it is multiplied by one, which raises where it is too
large. -/
def ExecutionRequest.checkNotional (request : ExecutionRequest) : Except Exc Unit :=
  if Binary64.overflow ≤ request.qty then .error overflowError else .ok ()

structure BrokerOrder where
  orderId : Int
  symbol : String
  side : Side
  qty : Int
  filledQty : Int
  status : BrokerOrderStatus
  orderRemark : String := ""
  clientOrderId : String := ""
  strategyName : String := ""
  orderSysid : String := ""
  statusMessage : String := ""
  averageFillPrice : Option ℚ := none
  orderId_pos : 0 < orderId
  symbol_ne : symbol ≠ ""
  qty_pos : 0 < qty
  filledQty_nonneg : 0 ≤ filledQty
  filledQty_le : filledQty ≤ qty
  averageFillPrice_nonneg : ∀ price, averageFillPrice = some price → 0 ≤ price
  deriving DecidableEq

structure BrokerAsset where
  cash : ℚ
  frozenCash : ℚ
  marketValue : ℚ
  totalAsset : ℚ
  cash_nonneg : 0 ≤ cash
  frozenCash_nonneg : 0 ≤ frozenCash
  marketValue_nonneg : 0 ≤ marketValue
  totalAsset_nonneg : 0 ≤ totalAsset
  deriving DecidableEq

structure ExecutionSnapshot where
  state : TradeState
  clientOrderId : Option String := none
  brokerOrderId : Option Int := none
  orderedQty : Int := 0
  filledQty : Int := 0
  averageFillPrice : Option ℚ := none
  reason : String := ""
  deriving DecidableEq, Repr

end QmtExecution
