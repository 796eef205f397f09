import QmtExecution.StateMachine

/-! The tables of `SQLiteExecutionCoordinator` and its transactions, `coordination.py`. A
transaction that raises has been rolled back, so it returns no new tables. -/

namespace QmtExecution

structure SymbolClaim where
  accountKey : String
  symbol : String
  executionId : String
  clientOrderId : String
  finality : ExecutionFinality
  deriving DecidableEq

structure CashReservation where
  accountKey : String
  executionId : String
  clientOrderId : String
  symbol : String
  requiredCash : ℚ
  active : Bool
  deriving DecidableEq

structure CoordinationStore where
  symbolClaim : List SymbolClaim := []
  cashReservation : List CashReservation := []
  deriving DecidableEq

/-- An amount as a caller may pass it: `None` or not a number, an `int` that is too large for `float`,
not finite, or a number. -/
inductive CashArgument
  | missing
  | tooLarge
  | notFinite
  | finite (value : ℚ)
  deriving DecidableEq

def epsilon : ℚ := 1 / 1000000000

def finiteNonNegative (value : CashArgument) (label : String) : Except Exc ℚ :=
  match value with
  | .missing => .error ⟨.coordinationError, label ++ " must be numeric"⟩
  | .tooLarge => .error overflowError
  | .notFinite => .error ⟨.coordinationError, label ++ " must be finite and non-negative"⟩
  | .finite number =>
      if number < 0 then
        .error ⟨.coordinationError, label ++ " must be finite and non-negative"⟩
      else .ok number

@[ext]
structure CashRequirementEstimate where
  requiredCash : ℚ
  orderNotional : ℚ
  transactionCostBuffer : ℚ := 0
  temporaryWithholdingBuffer : ℚ := 0
  fxRoundingBuffer : ℚ := 0
  safetyBuffer : ℚ := 0
  requiredCash_nonneg : 0 ≤ requiredCash
  components_nonneg : 0 ≤ orderNotional ∧ 0 ≤ transactionCostBuffer ∧
    0 ≤ temporaryWithholdingBuffer ∧ 0 ≤ fxRoundingBuffer ∧ 0 ≤ safetyBuffer
  conservative : orderNotional + transactionCostBuffer + temporaryWithholdingBuffer +
    fxRoundingBuffer + safetyBuffer ≤ requiredCash + epsilon

instance : DecidableEq CashRequirementEstimate :=
  fun _ _ => decidable_of_iff' _ CashRequirementEstimate.ext_iff

def validateIdentity (accountKey executionId : String) : Except Exc Unit :=
  if accountKey = "" then .error ⟨.coordinationError, "account_key must be a non-empty string"⟩
  else if executionId = "" then
    .error ⟨.coordinationError, "execution_id must be a non-empty string"⟩
  else .ok ()

def SymbolClaim.carries (claim : SymbolClaim) (executionId clientOrderId : String) : Bool :=
  claim.executionId = executionId && claim.clientOrderId = clientOrderId

def CashReservation.carries (reservation : CashReservation)
    (accountKey executionId clientOrderId : String) : Bool :=
  reservation.accountKey = accountKey && reservation.executionId = executionId &&
    reservation.clientOrderId = clientOrderId

namespace CoordinationStore

def claimOf (db : CoordinationStore) (accountKey symbol : String) : Option SymbolClaim :=
  db.symbolClaim.find? fun claim => claim.accountKey = accountKey && claim.symbol = symbol

def reservationOf (db : CoordinationStore) (accountKey executionId clientOrderId : String) :
    Option CashReservation :=
  db.cashReservation.find? fun row => row.carries accountKey executionId clientOrderId

def activeReservedCash (db : CoordinationStore) (accountKey : String) : ℚ :=
  ((db.cashReservation.filter fun row => row.accountKey = accountKey && row.active).map
    CashReservation.requiredCash).sum

/-- `INSERT INTO symbol_claim` under its primary key and the unique identity index. -/
def insertClaim (db : CoordinationStore) (claim : SymbolClaim) (failure : String) :
    Except Exc CoordinationStore :=
  if db.symbolClaim.any fun row =>
      (row.accountKey = claim.accountKey && row.symbol = claim.symbol) ||
      (row.accountKey = claim.accountKey &&
        row.carries claim.executionId claim.clientOrderId) then
    .error ⟨.coordinationError, failure⟩
  else .ok { db with symbolClaim := db.symbolClaim ++ [claim] }

def insertReservation (db : CoordinationStore) (row : CashReservation) : CoordinationStore :=
  { db with cashReservation := db.cashReservation ++ [row] }

def setFinality (db : CoordinationStore) (accountKey symbol : String)
    (finality : ExecutionFinality) : CoordinationStore :=
  { db with symbolClaim := db.symbolClaim.map fun row =>
      if row.accountKey = accountKey && row.symbol = symbol then { row with finality } else row }

def deleteClaim (db : CoordinationStore) (accountKey symbol executionId clientOrderId : String) :
    CoordinationStore :=
  { db with symbolClaim := db.symbolClaim.filter fun row =>
      !(row.accountKey = accountKey && row.symbol = symbol &&
        row.carries executionId clientOrderId) }

def updateReservation (db : CoordinationStore) (accountKey executionId clientOrderId : String)
    (change : CashReservation → CashReservation) : CoordinationStore :=
  { db with cashReservation := db.cashReservation.map fun row =>
      if row.carries accountKey executionId clientOrderId then change row else row }

def prepareClaim (db : CoordinationStore) (accountKey executionId : String)
    (request : ExecutionRequest) : Except Exc CoordinationStore :=
  match db.claimOf accountKey request.symbol with
  | some claim =>
      if claim.carries executionId request.clientOrderId then .ok db
      else .error ⟨.symbolClaimConflict,
        "same account/symbol is owned by another unresolved execution"⟩
  | none =>
      db.insertClaim ⟨accountKey, request.symbol, executionId, request.clientOrderId, .open⟩
        "coordination prepare transaction failed"

def prepareReservation (db : CoordinationStore) (accountKey executionId : String)
    (request : ExecutionRequest) (available required : ℚ) : Except Exc CoordinationStore :=
  match db.reservationOf accountKey executionId request.clientOrderId with
  | some row =>
      if !row.active then
        .error ⟨.coordinationError, "released cash reservation identity cannot be reused"⟩
      else if epsilon < |row.requiredCash - required| then
        .error ⟨.coordinationError, "active reservation amount changed for one logical execution"⟩
      else .ok db
  | none =>
      let effective := available - db.activeReservedCash accountKey
      if effective + epsilon < required then
        .error ⟨.cashReservationRejected, "conservative BUY cash requirement exceeds fresh broker " ++
          "cash minus active cross-process reservations"⟩
      else .ok (db.insertReservation
        ⟨accountKey, executionId, request.clientOrderId, request.symbol, required, true⟩)

def prepare (db : CoordinationStore) (accountKey executionId : String)
    (request : ExecutionRequest) (brokerAvailableCash requiredCash : CashArgument) :
    Except Exc CoordinationStore := do
  validateIdentity accountKey executionId
  match request.side with
  | .buy =>
      let available ← finiteNonNegative brokerAvailableCash "broker_available_cash"
      let required ← finiteNonNegative requiredCash "required_cash"
      let db ← db.prepareClaim accountKey executionId request
      db.prepareReservation accountKey executionId request available required
  | .sell => db.prepareClaim accountKey executionId request

def updateFinality (db : CoordinationStore) (accountKey executionId : String)
    (request : ExecutionRequest) (finality : ExecutionFinality) :
    Except Exc CoordinationStore := do
  validateIdentity accountKey executionId
  let claim := db.claimOf accountKey request.symbol
  if claim.any fun row => !row.carries executionId request.clientOrderId then
    .error ⟨.symbolClaimConflict, "symbol claim belongs to another unresolved execution"⟩
  else if finality = .resolved then
    let db := if claim.isSome then
        db.deleteClaim accountKey request.symbol executionId request.clientOrderId
      else db
    .ok (db.updateReservation accountKey executionId request.clientOrderId fun row =>
      if row.active then { row with active := false } else row)
  else if claim.isNone then
    .error ⟨.coordinationError, "unresolved execution has no durable account/symbol claim"⟩
  else .ok (db.setFinality accountKey request.symbol finality)

def restoreClaim (db : CoordinationStore) (accountKey executionId : String)
    (request : ExecutionRequest) (finality : ExecutionFinality) : Except Exc CoordinationStore :=
  match db.claimOf accountKey request.symbol with
  | some claim =>
      if claim.carries executionId request.clientOrderId then
        .ok (db.setFinality accountKey request.symbol finality)
      else .error ⟨.symbolClaimConflict,
        "cannot restore claim because another execution owns the symbol"⟩
  | none =>
      db.insertClaim ⟨accountKey, request.symbol, executionId, request.clientOrderId, finality⟩
        "coordination restore transaction failed"

def restoreReservation (db : CoordinationStore) (accountKey executionId : String)
    (request : ExecutionRequest) (required : ℚ) : CoordinationStore :=
  match db.reservationOf accountKey executionId request.clientOrderId with
  | none => db.insertReservation
      ⟨accountKey, executionId, request.clientOrderId, request.symbol, required, true⟩
  | some row => db.updateReservation accountKey executionId request.clientOrderId fun old =>
      { old with requiredCash := max required row.requiredCash, active := true }

def restore (db : CoordinationStore) (accountKey executionId : String)
    (request : ExecutionRequest) (requiredCash : CashArgument) (finality : ExecutionFinality) :
    Except Exc CoordinationStore := do
  validateIdentity accountKey executionId
  if finality = .resolved then db.updateFinality accountKey executionId request finality
  else match request.side with
  | .buy =>
      let required ← finiteNonNegative requiredCash "required_cash"
      let db ← db.restoreClaim accountKey executionId request finality
      .ok (db.restoreReservation accountKey executionId request required)
  | .sell => db.restoreClaim accountKey executionId request finality

def hasClaim (db : CoordinationStore) (accountKey executionId : String)
    (request : ExecutionRequest) : Except Exc Bool := do
  validateIdentity accountKey executionId
  match db.claimOf accountKey request.symbol with
  | none => .ok false
  | some claim =>
      if claim.carries executionId request.clientOrderId then .ok true
      else .error ⟨.symbolClaimConflict,
        "same account/symbol is owned by another unresolved execution"⟩

end CoordinationStore

end QmtExecution
