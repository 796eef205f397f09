import QmtExecution.Interaction.Program
import QmtExecution.Journal
import QmtExecution.Coordination

/-! The calls a session makes outside its own memory: journal file, mutex, guard, hooks,
broker and coordinator. Each call is one atomic step of the world. -/

namespace QmtExecution

open Interaction

/-- The method of `ExecutionJournal` that writes the file. -/
inductive JournalWriter
  | create
  | bindVerification
  | transition (event : TradeEvent)
  | persistIntent (request : ExecutionRequest)
  | persistBrokerOrderId (orderId : Int)
  | persistCancelIntent
  | updateObservation (order : BrokerOrder)
  | clearCycleData
  deriving DecidableEq

inductive Command
  | mutexAcquire
  | mutexRelease
  | journalExists
  | journalRead
  | journalWrite (writer : JournalWriter) (payload : Payload)
  | verifyStateMachine
  | verifySession
  | executionHealthy
  | verify (request : ExecutionRequest)
  | submitCoordination (request : ExecutionRequest)
  | beforeBrokerSubmit (request : ExecutionRequest)
  | beforeBrokerCancel (orderId : Int)
  | placeOrder (request : ExecutionRequest)
  | cancelOrder (orderId : Int)
  | queryOrder (orderId : Int)
  | queryOrders
  | queryAsset
  | estimate (request : ExecutionRequest) (asset : BrokerAsset)
  | prepare (accountKey executionId : String) (request : ExecutionRequest)
      (brokerAvailableCash requiredCash : CashArgument)
  | restore (accountKey executionId : String) (request : ExecutionRequest)
      (requiredCash : CashArgument) (finality : ExecutionFinality)
  | updateFinality (accountKey executionId : String) (request : ExecutionRequest)
      (finality : ExecutionFinality)
  | hasClaim (accountKey executionId : String) (request : ExecutionRequest)
  deriving DecidableEq

/-- What a call returns. `place_order` may return anything: what is not a positive plain
integer is refused alike by `persist_broker_order_id`, so a plain integer stands for it. -/
@[reducible] def Result : Command → Type
  | .journalExists => Bool
  | .journalRead => Payload
  | .verifyStateMachine => FormalVerification
  | .verifySession => SessionEvidence
  | .executionHealthy => Bool
  | .verify _ => PrecheckEvidence
  | .placeOrder _ => Int
  | .cancelOrder _ => CancelRequestResult
  | .queryOrder _ => BrokerOrder
  | .queryOrders => List BrokerOrder
  | .queryAsset => BrokerAsset
  | .estimate _ _ => CashRequirementEstimate
  | .hasClaim _ _ _ => Bool
  | _ => Unit

/-- The attributes of a session object, its journal's payload and its mutex's handle. -/
structure SessionState where
  snapshot : MachineSnapshot := {}
  payload : Option Payload := none
  isOpen : Bool := false
  closed : Bool := false
  mutexOwned : Bool := false
  deriving DecidableEq

abbrev SessionM := Method Command Result SessionState Exc

def ask (command : Command) : SessionM (Result command) := Method.perform command

end QmtExecution
