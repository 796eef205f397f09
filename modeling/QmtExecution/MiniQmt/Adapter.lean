import QmtExecution.Domain

/-! The queries of `MiniQmtBrokerAdapter`, `adapter.py` and `status.py`: how the objects that the
trader returns become broker orders. -/

namespace QmtExecution.MiniQmt

/-- What `float()` returns. -/
inductive PyFloat
  | finite (value : ℚ)
  | nan
  | infinity (negative : Bool)
  deriving DecidableEq

/-- A Python object by what the adapter makes of it: its conversions, which may raise anything,
its truth value, and whether it is `None` or a plain `int`. -/
structure RawValue where
  int : Except Exc ℤ
  str : Except Exc String
  float : Except Exc PyFloat
  truth : Except Exc Bool
  isNone : Bool := false
  plainInt : Option ℤ := none
  plainInt_int : ∀ n, plainInt = some n → int = .ok n

def RawValue.empty : RawValue where
  int := .error ⟨.valueError, "invalid literal for int()"⟩
  str := .ok ""
  float := .error ⟨.valueError, "could not convert string to float"⟩
  truth := .ok false
  plainInt_int := by simp

def RawValue.none : RawValue where
  int := .error ⟨.typeError, "int() argument must be a number"⟩
  str := .ok "None"
  float := .error ⟨.typeError, "float() argument must be a number"⟩
  truth := .ok false
  isNone := true
  plainInt_int := by simp

/-- An order object of the trader: what `getattr` finds under each name, an `AttributeError`
where there is nothing. -/
structure RawOrder where
  orderId : Except Exc RawValue
  stockCode : Except Exc RawValue
  orderType : Except Exc RawValue
  orderVolume : Except Exc RawValue
  tradedVolume : Except Exc RawValue
  orderStatus : Except Exc RawValue
  orderRemark : Except Exc RawValue
  strategyName : Except Exc RawValue
  orderSysid : Except Exc RawValue
  statusMsg : Except Exc RawValue
  tradedPrice : Except Exc RawValue

/-- `getattr` with a default. -/
def getattrOr (found : Except Exc RawValue) (default : RawValue) : Except Exc RawValue :=
  match found with
  | .ok value => .ok value
  | .error exc => if exc.isA .attributeError then .ok default else .error exc

/-- `str(getattr(raw, name, "") or "")`. -/
def optionalText (found : Except Exc RawValue) : Except Exc String := do
  let value ← getattrOr found .empty
  let truth ← value.truth
  if truth then value.str else .ok ""

def optionalPrice (found : Except Exc RawValue) : Except Exc (Option PyFloat) := do
  let value ← getattrOr found .none
  if value.isNone then .ok Option.none
  else
    let price ← value.float
    .ok (some price)

/-- What the `try` block of `_to_broker_order` reads. -/
structure OrderFields where
  orderId : ℤ
  symbol : String
  rawOrderType : ℤ
  qty : ℤ
  filledQty : ℤ
  rawStatus : RawValue
  remark : String
  strategyName : String
  orderSysid : String
  statusMessage : String
  averageFillPrice : Option PyFloat

def RawOrder.fields (raw : RawOrder) : Except Exc OrderFields := do
  let orderId ← raw.orderId >>= RawValue.int
  let symbol ← raw.stockCode >>= RawValue.str
  let rawOrderType ← raw.orderType >>= RawValue.int
  let qty ← raw.orderVolume >>= RawValue.int
  let filledQty ← raw.tradedVolume >>= RawValue.int
  let rawStatus ← raw.orderStatus
  let remark ← optionalText raw.orderRemark
  let strategyName ← optionalText raw.strategyName
  let orderSysid ← optionalText raw.orderSysid
  let statusMessage ← optionalText raw.statusMsg
  let averageFillPrice ← optionalPrice raw.tradedPrice
  .ok ⟨orderId, symbol, rawOrderType, qty, filledQty, rawStatus, remark, strategyName, orderSysid,
    statusMessage, averageFillPrice⟩

/-- What the `except` clauses of the conversions catch. -/
def isMalformed (exc : Exc) : Bool :=
  exc.isA .typeError || exc.isA .valueError || exc.isA .attributeError

/-- `QmtOrderStatus` with `_STATUS_MAP`. -/
def statusMap : ℤ → Option BrokerOrderStatus
  | 48 => some .accepted
  | 49 => some .accepted
  | 50 => some .working
  | 51 => some .cancelPending
  | 52 => some .cancelPending
  | 53 => some .partialCancelled
  | 54 => some .cancelled
  | 55 => some .partiallyFilled
  | 56 => some .filled
  | 57 => some .rejected
  | 255 => some .unknown
  | _ => Option.none

def normalizeQmtOrderStatus (rawStatus : RawValue) : BrokerOrderStatus :=
  match rawStatus.plainInt with
  | Option.none => .unknown
  | some value => (statusMap value).getD .unknown

/-- The status after the checks of the fill that `_to_broker_order` makes. -/
def checkedStatus (fields : OrderFields) : BrokerOrderStatus :=
  let partially := 0 < fields.filledQty ∧ fields.filledQty < fields.qty
  let status := normalizeQmtOrderStatus fields.rawStatus
  let status := if status ∈ [BrokerOrderStatus.partiallyFilled, .partialCancelled] ∧ ¬ partially
    then .unknown else status
  let status := if status = .cancelPending ∧ fields.rawStatus.plainInt = some 52 ∧ ¬ partially
    then .unknown else status
  let status := if status = .filled ∧ fields.filledQty ≠ fields.qty then .unknown else status
  if status ∈ [BrokerOrderStatus.accepted, .working, .cancelled, .rejected] ∧
      ¬ (0 ≤ fields.filledQty ∧ fields.filledQty ≤ fields.qty) then .unknown
  else status

structure QmtOrderConfig where
  buyOrderType : ℤ
  sellOrderType : ℤ
  deriving DecidableEq

def sideFromQmtOrderType (config : QmtOrderConfig) (rawOrderType : ℤ) : Except Exc Side :=
  if rawOrderType = config.buyOrderType then .ok .buy
  else if rawOrderType = config.sellOrderType then .ok .sell
  else .error ⟨.brokerQueryAmbiguous, "MiniQMT order side/type is not recognized"⟩

def fillPrice : Option PyFloat → Except Exc (Option ℚ)
  | Option.none => .ok Option.none
  | some (.finite price) =>
      if price < 0 then
        .error ⟨.valueError, "average_fill_price must be finite and non-negative"⟩
      else .ok (some price)
  | some _ => .error ⟨.valueError, "average_fill_price must be finite and non-negative"⟩

theorem fillPrice_nonneg {given : Option PyFloat} {checked : Option ℚ}
    (valid : fillPrice given = .ok checked) : ∀ price, checked = some price → 0 ≤ price := by
  intro price same
  unfold fillPrice at valid
  split at valid
  · cases valid
    cases same
  · split_ifs at valid with negative
    cases valid
    cases same
    exact not_lt.1 negative
  · cases valid

/-- `BrokerOrder(...)` with its `__post_init__`. -/
def newBrokerOrder (fields : OrderFields) (side : Side) (status : BrokerOrderStatus) :
    Except Exc BrokerOrder :=
  if orderId : fields.orderId ≤ 0 then
    .error ⟨.valueError, "order_id must be a positive plain int"⟩
  else if symbol : fields.symbol = "" then
    .error ⟨.valueError, "symbol must be a non-empty string"⟩
  else if qty : fields.qty ≤ 0 then
    .error ⟨.valueError, "qty must be a positive plain int"⟩
  else if filledQty : fields.filledQty < 0 ∨ fields.qty < fields.filledQty then
    .error ⟨.valueError, "filled_qty must be within [0, qty]"⟩
  else match price : fillPrice fields.averageFillPrice with
  | .error exc => .error exc
  | .ok averageFillPrice => .ok {
      orderId := fields.orderId
      symbol := fields.symbol
      side := side
      qty := fields.qty
      filledQty := fields.filledQty
      status := status
      orderRemark := fields.remark
      strategyName := fields.strategyName
      orderSysid := fields.orderSysid
      statusMessage := fields.statusMessage
      averageFillPrice := averageFillPrice
      orderId_pos := not_le.1 orderId
      symbol_ne := symbol
      qty_pos := not_le.1 qty
      filledQty_nonneg := not_lt.1 (not_or.1 filledQty).1
      filledQty_le := not_lt.1 (not_or.1 filledQty).2
      averageFillPrice_nonneg := fillPrice_nonneg price }

/-- `_to_broker_order`. The constructor is called outside the `try` block. -/
def toBrokerOrder (config : QmtOrderConfig) (raw : RawOrder) : Except Exc BrokerOrder :=
  match raw.fields with
  | .error exc =>
      if isMalformed exc then
        .error ⟨.brokerQueryAmbiguous, "MiniQMT order payload is malformed"⟩
      else .error exc
  | .ok fields => do
      let side ← sideFromQmtOrderType config fields.rawOrderType
      newBrokerOrder fields side (checkedStatus fields)

/-- `_strict_query` on what the trader answers to each attempt; `none` is `None`. -/
def strictQuery {α : Type} (label : String) : List (Except Exc (Option α)) → Except Exc α
  | [] => .error ⟨.brokerQueryAmbiguous, label ++ " remained ambiguous"⟩
  | .ok (some value) :: _ => .ok value
  | .ok Option.none :: attempts => strictQuery label attempts
  | .error _ :: attempts => strictQuery label attempts

/-- What `query_stock_orders` may return besides `None`. -/
inductive RawOrders
  | sequence (items : List RawOrder)
  | unexpected

def queryOrder (config : QmtOrderConfig) (orderId : ℤ)
    (attempts : List (Except Exc (Option RawOrder))) : Except Exc BrokerOrder :=
  if orderId ≤ 0 then .error ⟨.valueError, "order_id must be a positive plain int"⟩
  else do
    let raw ← strictQuery "query_stock_order" attempts
    toBrokerOrder config raw

def queryOrders (config : QmtOrderConfig) (attempts : List (Except Exc (Option RawOrders))) :
    Except Exc (List BrokerOrder) := do
  match ← strictQuery "query_stock_orders" attempts with
  | .unexpected =>
      .error ⟨.brokerQueryAmbiguous, "query_stock_orders returned unexpected type"⟩
  | .sequence items => items.mapM (toBrokerOrder config)

end QmtExecution.MiniQmt
