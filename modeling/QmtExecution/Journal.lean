import QmtExecution.Recovery

/-! The payload of the durable journal of `journal.py` and the changes its methods make to
it. Timestamps are left out: nothing reads them. -/

namespace QmtExecution

structure Intent where
  clientOrderId : String
  symbol : String
  side : Side
  qty : Int
  limitPrice : ℚ
  strategyId : String
  orderRemark : String
  deriving DecidableEq

def Intent.ofRequest (request : ExecutionRequest) : Intent where
  clientOrderId := request.clientOrderId
  symbol := request.symbol
  side := request.side
  qty := request.qty
  limitPrice := request.limitPrice
  strategyId := request.strategyId
  orderRemark := request.orderRemark

structure Reservation where
  qty : Int
  notional : Option ℚ
  persisted : Bool
  deriving DecidableEq

structure CancelIntent where
  persisted : Bool
  deriving DecidableEq

structure Observation where
  status : BrokerOrderStatus
  filledQty : Int
  averageFillPrice : Option ℚ
  deriving DecidableEq

structure FormalVerification where
  transitionSpecSha256 : String
  executionSourceSha256 : String
  deriving DecidableEq

/-- The `data` section; an absent key is `none`, or the empty list for the used identities. -/
structure JournalData where
  formalVerification : Option FormalVerification := none
  usedClientOrderIds : List String := []
  usedOrderRemarks : List String := []
  intent : Option Intent := none
  reservation : Option Reservation := none
  brokerOrderId : Option Int := none
  cancelIntent : Option CancelIntent := none
  lastObservation : Option Observation := none
  deriving DecidableEq

inductive Detail
  | text (value : String)
  | number (value : Int)
  | flag (value : Bool)
  deriving DecidableEq

abbrev Details := List (String × Detail)

structure HistoryEntry where
  sequence : Nat
  event : TradeEvent
  state : TradeState
  details : Details
  deriving DecidableEq

structure Payload where
  schemaVersion : Int
  executionId : String
  eventCount : Nat
  machine : MachineSnapshot
  history : List HistoryEntry
  data : JournalData
  deriving DecidableEq

def journalSchemaVersion : Int := 1
def maxHistory : Nat := 1000
def maxUsedIdentities : Nat := 10000

/-- The slice `values[-bound:]`. -/
def lastOf {α : Type} (bound : Nat) (values : List α) : List α :=
  (values.reverse.take bound).reverse

def Payload.create (executionId : String) : Payload where
  schemaVersion := journalSchemaVersion
  executionId := executionId
  eventCount := 0
  machine := {}
  history := []
  data := {}

def Payload.validate (payload : Payload) (executionId : String) : Except Exc Unit :=
  if payload.schemaVersion ≠ journalSchemaVersion then
    .error ⟨.journalIntegrityError, "journal schema mismatch"⟩
  else if payload.executionId ≠ executionId then
    .error ⟨.journalIntegrityError, "journal execution_id mismatch"⟩
  else .ok ()

/-- What `transition` makes of the payload. -/
def Payload.record (payload : Payload) (event : TradeEvent) (snapshot : MachineSnapshot)
    (details : Details) : Payload :=
  let sequence := payload.eventCount + 1
  { payload with
    history := lastOf maxHistory
      (payload.history ++ [⟨sequence, event, snapshot.state, details⟩])
    eventCount := sequence
    machine := snapshot }

@[simp] theorem Payload.record_data (payload : Payload) (event : TradeEvent)
    (snapshot : MachineSnapshot) (details : Details) :
    (payload.record event snapshot details).data = payload.data := rfl

@[simp] theorem Payload.record_machine (payload : Payload) (event : TradeEvent)
    (snapshot : MachineSnapshot) (details : Details) :
    (payload.record event snapshot details).machine = snapshot := rfl

namespace JournalData

def assertIdentityUnused (data : JournalData) (request : ExecutionRequest) : Except Exc Unit :=
  if request.clientOrderId ∈ data.usedClientOrderIds then
    .error ⟨.journalIntegrityError,
      "client_order_id was already used by an earlier durable cycle"⟩
  else if request.orderRemark ∈ data.usedOrderRemarks then
    .error ⟨.journalIntegrityError,
      "order_remark was already used by an earlier durable cycle"⟩
  else .ok ()

/-- What `persist_intent` makes of the data. -/
def withIntent (data : JournalData) (request : ExecutionRequest) : JournalData :=
  { data with
    usedClientOrderIds :=
      lastOf maxUsedIdentities (data.usedClientOrderIds ++ [request.clientOrderId])
    usedOrderRemarks := lastOf maxUsedIdentities (data.usedOrderRemarks ++ [request.orderRemark])
    intent := some (.ofRequest request)
    reservation := some ⟨request.qty, request.notional, true⟩ }

@[simp] theorem withIntent_intent (data : JournalData) (request : ExecutionRequest) :
    (data.withIntent request).intent = some (.ofRequest request) := rfl

@[simp] theorem withIntent_brokerOrderId (data : JournalData) (request : ExecutionRequest) :
    (data.withIntent request).brokerOrderId = data.brokerOrderId := rfl

@[simp] theorem withIntent_cancelIntent (data : JournalData) (request : ExecutionRequest) :
    (data.withIntent request).cancelIntent = data.cancelIntent := rfl

/-- What `clear_cycle_data` keeps of the data. -/
def preserved (data : JournalData) : JournalData where
  formalVerification := data.formalVerification
  usedClientOrderIds := data.usedClientOrderIds
  usedOrderRemarks := data.usedOrderRemarks

end JournalData

def hexDigits : List Char :=
  ['0', '1', '2', '3', '4', '5', '6', '7', '8', '9', 'a', 'b', 'c', 'd', 'e', 'f']

def lower (value : String) : String := .ofList (value.toList.map Char.toLower)

def isSha256Digest (value : String) : Bool :=
  let characters := value.toList
  characters.length = 64 && characters.all fun c => c.toLower ∈ hexDigits

end QmtExecution
