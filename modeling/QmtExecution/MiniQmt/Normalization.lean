import QmtExecution.MiniQmt.Adapter
import Mathlib.Tactic

/-! Which orders of the trader the adapter normalizes or refuses as ambiguous, and what the status
of a normalized order says of its fill. -/

namespace QmtExecution.MiniQmt

variable {config : QmtOrderConfig} {raw : RawOrder} {fields : OrderFields}

def Fits (rawStatus : RawValue) (filledQty qty : ℤ) : BrokerOrderStatus → Prop
  | .filled => filledQty = qty
  | .partiallyFilled | .partialCancelled => 0 < filledQty ∧ filledQty < qty
  | .cancelPending => rawStatus.plainInt = some 52 → 0 < filledQty ∧ filledQty < qty
  | .accepted | .working | .cancelled | .rejected => 0 ≤ filledQty ∧ filledQty ≤ qty
  | .unknown => True

/-- The status is that of the raw status where the fill fits it, and UNKNOWN otherwise; a raw
status outside the table is UNKNOWN. -/
structure Consistent (raw : RawOrder) (order : BrokerOrder) : Prop where
  adopted : ∃ rawStatus, raw.orderStatus = .ok rawStatus ∧
    (order.status = normalizeQmtOrderStatus rawStatus ∧
        Fits rawStatus order.filledQty order.qty order.status ∨
      order.status = .unknown ∧
        ¬ Fits rawStatus order.filledQty order.qty (normalizeQmtOrderStatus rawStatus))

theorem checkedStatus_fits (fields : OrderFields) :
    checkedStatus fields = normalizeQmtOrderStatus fields.rawStatus ∧
        Fits fields.rawStatus fields.filledQty fields.qty (checkedStatus fields) ∨
      checkedStatus fields = .unknown ∧
        ¬ Fits fields.rawStatus fields.filledQty fields.qty
          (normalizeQmtOrderStatus fields.rawStatus) := by
  unfold checkedStatus
  generalize normalizeQmtOrderStatus fields.rawStatus = status
  -- A status is touched by the one check that is about it.
  cases status with
  | filled => by_cases full : fields.filledQty = fields.qty <;> simp [Fits, full]
  | partiallyFilled =>
      by_cases partially : 0 < fields.filledQty ∧ fields.filledQty < fields.qty <;>
        simp [Fits, partially]
  | partialCancelled =>
      by_cases partially : 0 < fields.filledQty ∧ fields.filledQty < fields.qty <;>
        simp [Fits, partially]
  | cancelPending =>
      by_cases partially : 0 < fields.filledQty ∧ fields.filledQty < fields.qty <;>
        by_cases pending : fields.rawStatus.plainInt = some 52 <;> simp [Fits, partially, pending]
  | unknown => simp [Fits]
  | _ =>
      by_cases within : 0 ≤ fields.filledQty ∧ fields.filledQty ≤ fields.qty <;>
        simp [Fits, within]

/-- The constructor of `BrokerOrder` takes the fields. -/
structure OrderFields.Representable (fields : OrderFields) : Prop where
  orderId : 0 < fields.orderId
  symbol : fields.symbol ≠ ""
  qty : 0 < fields.qty
  filledQty : 0 ≤ fields.filledQty ∧ fields.filledQty ≤ fields.qty
  price : fields.averageFillPrice = Option.none ∨
    ∃ price, fields.averageFillPrice = some (.finite price) ∧ 0 ≤ price

theorem fillPrice_ok {given : Option PyFloat} :
    (∃ checked, fillPrice given = .ok checked) ↔
      given = Option.none ∨ ∃ price, given = some (.finite price) ∧ 0 ≤ price := by
  cases given with
  | none => simp [fillPrice]
  | some float =>
      cases float with
      | finite price => by_cases negative : price < 0 <;> simp [fillPrice, negative, not_lt.1]
      | nan => simp [fillPrice]
      | infinity negative => simp [fillPrice]

theorem newBrokerOrder_representable (side : Side) (status : BrokerOrderStatus) :
    (∃ order, newBrokerOrder fields side status = .ok order) ↔ fields.Representable := by
  constructor
  · intro ⟨order, made⟩
    unfold newBrokerOrder at made
    split_ifs at made with orderId symbol qty filledQty
    split at made
    · cases made
    · rename_i checked valid
      obtain ⟨nonneg, bounded⟩ := not_or.1 filledQty
      exact ⟨not_le.1 orderId, symbol, not_le.1 qty, ⟨not_lt.1 nonneg, not_lt.1 bounded⟩,
        fillPrice_ok.1 ⟨checked, valid⟩⟩
  · intro representable
    obtain ⟨checked, valid⟩ := fillPrice_ok.2 representable.price
    have fill := representable.filledQty
    unfold newBrokerOrder
    rw [dif_neg (not_le.2 representable.orderId), dif_neg representable.symbol,
      dif_neg (not_le.2 representable.qty), dif_neg (by omega)]
    split
    · rename_i exc invalid
      rw [valid] at invalid
      cases invalid
    · exact ⟨_, rfl⟩

theorem fillPrice_error {given : Option PyFloat} {exc : Exc} (invalid : fillPrice given = .error exc) :
    exc.isA .brokerQueryAmbiguous = false := by
  unfold fillPrice at invalid
  split at invalid
  · cases invalid
  · split_ifs at invalid
    cases invalid
    rfl
  · cases invalid
    rfl

theorem newBrokerOrder_error {side : Side} {status : BrokerOrderStatus} {exc : Exc}
    (refused : newBrokerOrder fields side status = .error exc) :
    exc.isA .brokerQueryAmbiguous = false := by
  unfold newBrokerOrder at refused
  split_ifs at refused
  · cases refused
    rfl
  · cases refused
    rfl
  · cases refused
    rfl
  · cases refused
    rfl
  · split at refused
    · rename_i other invalid
      cases refused
      exact fillPrice_error invalid
    · cases refused

theorem newBrokerOrder_copies {side : Side} {status : BrokerOrderStatus} {order : BrokerOrder}
    (made : newBrokerOrder fields side status = .ok order) :
    order.status = status ∧ order.filledQty = fields.filledQty ∧ order.qty = fields.qty := by
  unfold newBrokerOrder at made
  split_ifs at made
  split at made
  · cases made
  · rw [Except.ok.injEq] at made
    subst made
    exact ⟨rfl, rfl, rfl⟩

theorem fields_status (read : raw.fields = .ok fields) : raw.orderStatus = .ok fields.rawStatus := by
  unfold RawOrder.fields at read
  obtain ⟨_, -, read⟩ := except_bind read
  obtain ⟨_, -, read⟩ := except_bind read
  obtain ⟨_, -, read⟩ := except_bind read
  obtain ⟨_, -, read⟩ := except_bind read
  obtain ⟨_, -, read⟩ := except_bind read
  obtain ⟨rawStatus, stored, read⟩ := except_bind read
  obtain ⟨_, -, read⟩ := except_bind read
  obtain ⟨_, -, read⟩ := except_bind read
  obtain ⟨_, -, read⟩ := except_bind read
  obtain ⟨_, -, read⟩ := except_bind read
  obtain ⟨_, -, read⟩ := except_bind read
  cases read
  exact stored

theorem toBrokerOrder_consistent {order : BrokerOrder}
    (normalized : toBrokerOrder config raw = .ok order) : Consistent raw order := by
  unfold toBrokerOrder at normalized
  split at normalized
  · split_ifs at normalized
  · rename_i fields read
    obtain ⟨side, -, made⟩ := except_bind normalized
    obtain ⟨status, filledQty, qty⟩ := newBrokerOrder_copies made
    refine ⟨fields.rawStatus, fields_status read, ?_⟩
    rw [status, filledQty, qty]
    exact checkedStatus_fits fields

/-- A result that is a value, or an exception that the session takes for an ambiguous query. -/
def Answered {α : Type} (result : Except Exc α) : Prop :=
  ∀ exc, result = .error exc → exc.isA .brokerQueryAmbiguous = true

/-- The conversions of the object raise nothing but what they are expected to raise, and where
its order type is one of the two sides the constructor of `BrokerOrder` takes its fields. -/
structure RawOrder.WellFormed (config : QmtOrderConfig) (raw : RawOrder) : Prop where
  converts : ∀ exc, raw.fields = .error exc →
    isMalformed exc = true ∨ exc.isA .brokerQueryAmbiguous = true
  represents : ∀ fields, raw.fields = .ok fields →
    fields.rawOrderType = config.buyOrderType ∨ fields.rawOrderType = config.sellOrderType →
      fields.Representable

/-- The object converts, to an order of one of the two sides that the constructor takes. -/
def RawOrder.Normal (config : QmtOrderConfig) (raw : RawOrder) : Prop :=
  ∃ fields, raw.fields = .ok fields ∧
    (fields.rawOrderType = config.buyOrderType ∨ fields.rawOrderType = config.sellOrderType) ∧
      fields.Representable

theorem sideFromQmtOrderType_cases (config : QmtOrderConfig) (rawOrderType : ℤ) :
    ((rawOrderType = config.buyOrderType ∨ rawOrderType = config.sellOrderType) ∧
        ∃ side, sideFromQmtOrderType config rawOrderType = .ok side) ∨
      (¬ (rawOrderType = config.buyOrderType ∨ rawOrderType = config.sellOrderType) ∧
        sideFromQmtOrderType config rawOrderType =
          .error ⟨.brokerQueryAmbiguous, "MiniQMT order side/type is not recognized"⟩) := by
  unfold sideFromQmtOrderType
  by_cases buy : rawOrderType = config.buyOrderType
  · simp [buy]
  · by_cases sell : rawOrderType = config.sellOrderType
    · simp only [sell, or_true, if_true]
      exact .inl ⟨trivial, .sell, if_neg (sell ▸ buy)⟩
    · simp [buy, sell]

theorem toBrokerOrder_answered : Answered (toBrokerOrder config raw) ↔ raw.WellFormed config := by
  cases read : raw.fields with
  | error exc =>
      have converted : toBrokerOrder config raw = if isMalformed exc = true then
          .error ⟨.brokerQueryAmbiguous, "MiniQMT order payload is malformed"⟩
        else .error exc := by simp only [toBrokerOrder, read]
      by_cases malformed : isMalformed exc = true
      · rw [if_pos malformed] at converted
        constructor
        · intro _
          constructor
          · intro other raised
            rw [read] at raised
            cases raised
            exact .inl malformed
          · intro fields found
            rw [read] at found
            cases found
        · intro _ other raised
          rw [converted] at raised
          cases raised
          rfl
      · rw [if_neg malformed] at converted
        constructor
        · intro answered
          constructor
          · intro other raised
            rw [read] at raised
            cases raised
            exact .inr (answered exc converted)
          · intro fields found
            rw [read] at found
            cases found
        · intro wellFormed other raised
          rw [converted] at raised
          cases raised
          exact (wellFormed.converts exc read).resolve_left malformed
  | ok fields =>
      have converted : toBrokerOrder config raw =
          (sideFromQmtOrderType config fields.rawOrderType >>= fun side =>
            newBrokerOrder fields side (checkedStatus fields)) := by simp only [toBrokerOrder, read]
      rcases sideFromQmtOrderType_cases config fields.rawOrderType with
        ⟨recognized, side, taken⟩ | ⟨unrecognized, refused⟩
      · rw [taken] at converted
        constructor
        · intro answered
          constructor
          · intro exc raised
            rw [read] at raised
            cases raised
          · intro found same _
            rw [read] at same
            cases same
            cases made : newBrokerOrder fields side (checkedStatus fields) with
            | ok order => exact (newBrokerOrder_representable side _).1 ⟨order, made⟩
            | error exc =>
                have ambiguous := answered exc (converted.trans made)
                rw [newBrokerOrder_error made] at ambiguous
                cases ambiguous
        · intro wellFormed exc raised
          obtain ⟨order, made⟩ := (newBrokerOrder_representable side (checkedStatus fields)).2
            (wellFormed.represents fields read recognized)
          rw [converted] at raised
          cases made.symm.trans raised
      · rw [refused] at converted
        constructor
        · intro _
          constructor
          · intro exc raised
            rw [read] at raised
            cases raised
          · intro found same recognized
            rw [read] at same
            cases same
            exact absurd recognized unrecognized
        · intro _ exc raised
          rw [converted] at raised
          cases raised
          rfl

theorem toBrokerOrder_normal : (∃ order, toBrokerOrder config raw = .ok order) ↔ raw.Normal config := by
  constructor
  · intro ⟨order, normalized⟩
    have answered : Answered (toBrokerOrder config raw) := by
      intro exc raised
      rw [normalized] at raised
      cases raised
    have wellFormed := toBrokerOrder_answered.1 answered
    unfold toBrokerOrder at normalized
    split at normalized
    · split_ifs at normalized
    · rename_i fields read
      obtain ⟨side, taken, -⟩ := except_bind normalized
      rcases sideFromQmtOrderType_cases config fields.rawOrderType with
        ⟨recognized, -⟩ | ⟨-, refused⟩
      · exact ⟨fields, read, recognized, wellFormed.represents fields read recognized⟩
      · rw [refused] at taken
        cases taken
  · intro ⟨fields, read, recognized, representable⟩
    rcases sideFromQmtOrderType_cases config fields.rawOrderType with
      ⟨-, side, taken⟩ | ⟨unrecognized, -⟩
    · obtain ⟨order, made⟩ :=
        (newBrokerOrder_representable side (checkedStatus fields)).2 representable
      refine ⟨order, ?_⟩
      simp only [toBrokerOrder, read, taken]
      exact made
    · exact absurd recognized unrecognized

theorem strictQuery_answered {α : Type} (label : String)
    (attempts : List (Except Exc (Option α))) : Answered (strictQuery label attempts) := by
  induction attempts with
  | nil =>
      intro exc raised
      cases raised
      rfl
  | cons attempt attempts ih =>
      intro exc raised
      match attempt with
      | .ok (some value) => cases raised
      | .ok Option.none => exact ih exc raised
      | .error _ => exact ih exc raised

theorem answered_bind {α β : Type} {first : Except Exc α} {next : α → Except Exc β}
    (answered : Answered first) :
    Answered (first >>= next) ↔ ∀ value, first = .ok value → Answered (next value) := by
  cases first with
  | error exc =>
      constructor
      · intro _ value same
        cases same
      · intro _ other raised
        cases raised
        exact answered exc rfl
  | ok value =>
      constructor
      · intro rest other same
        cases same
        exact rest
      · intro rest
        exact rest value rfl

theorem mapM_answered {α β : Type} {convert : α → Except Exc β} (items : List α) :
    Answered (items.mapM convert) ↔ ∀ before item after, items = before ++ item :: after →
      (∀ earlier ∈ before, ∃ value, convert earlier = .ok value) → Answered (convert item) := by
  induction items with
  | nil =>
      constructor
      · intro _ before item after same
        simp at same
      · intro _ exc raised
        cases raised
  | cons first items ih =>
      rw [List.mapM_cons]
      constructor
      · intro answered before item after same converted
        cases before with
        | nil =>
            obtain ⟨rfl, rfl⟩ := List.cons.inj same
            intro exc raised
            apply answered exc
            rw [raised]
            rfl
        | cons head before =>
            obtain ⟨rfl, rfl⟩ := List.cons.inj same
            obtain ⟨value, known⟩ := converted first List.mem_cons_self
            apply ih.1 _ before item after rfl
            · intro earlier member
              exact converted earlier (List.mem_cons_of_mem _ member)
            · intro exc raised
              apply answered exc
              rw [known]
              rw [raised]
              rfl
      · intro every
        have here : Answered (convert first) := by
          apply every [] first items rfl
          simp
        apply (answered_bind here).2
        intro value known
        have rest : Answered (items.mapM convert) := by
          apply ih.2
          intro before item after same converted
          apply every (first :: before) item after
          · rw [same, List.cons_append]
          · intro earlier member
            rcases List.mem_cons.1 member with rfl | member
            · exact ⟨value, known⟩
            · exact converted earlier member
        apply (answered_bind rest).2
        intro values _ exc raised
        cases raised

theorem mapM_forall {α β : Type} {convert : α → Except Exc β} {related : α → β → Prop}
    (right : ∀ item value, convert item = .ok value → related item value) {items : List α}
    {values : List β} (converted : items.mapM convert = .ok values) :
    List.Forall₂ related items values := by
  induction items generalizing values with
  | nil =>
      cases converted
      exact .nil
  | cons item items ih =>
      rw [List.mapM_cons] at converted
      obtain ⟨value, known, converted⟩ := except_bind converted
      obtain ⟨rest, others, converted⟩ := except_bind converted
      cases converted
      exact .cons (right item value known) (ih others)

/-- A query returns or is ambiguous, with consistent orders, exactly when the object that the
trader returned is well formed, or in a list the first object that is not normal. -/
theorem queries_normalized (config : QmtOrderConfig) {orderId : ℤ} (positive : 0 < orderId)
    (attempts : List (Except Exc (Option RawOrder)))
    (listings : List (Except Exc (Option RawOrders))) :
    ((Answered (queryOrder config orderId attempts) ∧ ∀ raw order,
        strictQuery "query_stock_order" attempts = .ok raw →
          queryOrder config orderId attempts = .ok order → Consistent raw order) ↔
      ∀ raw, strictQuery "query_stock_order" attempts = .ok raw → raw.WellFormed config) ∧
    ((Answered (queryOrders config listings) ∧ ∀ items orders,
        strictQuery "query_stock_orders" listings = .ok (.sequence items) →
          queryOrders config listings = .ok orders → List.Forall₂ Consistent items orders) ↔
      ∀ before raw after,
        strictQuery "query_stock_orders" listings = .ok (.sequence (before ++ raw :: after)) →
          (∀ earlier ∈ before, earlier.Normal config) → raw.WellFormed config) := by
  constructor
  · have query : queryOrder config orderId attempts =
        strictQuery "query_stock_order" attempts >>= toBrokerOrder config :=
      if_neg (not_le.2 positive)
    have answered := strictQuery_answered "query_stock_order" attempts
    rw [query, answered_bind answered]
    constructor
    · intro ⟨every, _⟩ raw returned
      exact toBrokerOrder_answered.1 (every raw returned)
    · intro wellFormed
      refine ⟨fun raw returned => toBrokerOrder_answered.2 (wellFormed raw returned), ?_⟩
      intro raw order returned normalized
      rw [returned] at normalized
      exact toBrokerOrder_consistent normalized
  · have answered := strictQuery_answered "query_stock_orders" listings
    constructor
    · intro ⟨every, _⟩ before raw after returned normal
      have listed := (answered_bind answered).1 every _ returned
      apply toBrokerOrder_answered.1
      apply (mapM_answered _).1 listed before raw after rfl
      intro earlier member
      exact toBrokerOrder_normal.2 (normal earlier member)
    · intro wellFormed
      constructor
      · apply (answered_bind answered).2
        intro reply returned
        cases reply with
        | unexpected =>
            intro exc raised
            cases raised
            rfl
        | sequence items =>
            apply (mapM_answered items).2
            intro before raw after same normalized
            apply toBrokerOrder_answered.2
            apply wellFormed before raw after (same ▸ returned)
            intro earlier member
            exact toBrokerOrder_normal.1 (normalized earlier member)
      · intro items orders returned normalized
        unfold queryOrders at normalized
        rw [returned] at normalized
        exact mapM_forall (fun raw order => toBrokerOrder_consistent) normalized

def RawValue.ofInt (value : ℤ) : RawValue where
  int := .ok value
  str := .ok (toString value)
  float := .ok (.finite value)
  truth := .ok (decide (value ≠ 0))
  plainInt := some value
  plainInt_int := by simp

def RawValue.ofWord (word : String) : RawValue where
  int := .error ⟨.valueError, "invalid literal for int()"⟩
  str := .ok word
  float := .error ⟨.valueError, "could not convert string to float"⟩
  truth := .ok (decide (word ≠ ""))
  plainInt_int := RawValue.empty.plainInt_int

def reportedOrder (tradedVolume orderStatus tradedPrice : ℤ) : RawOrder where
  orderId := .ok (.ofInt 7)
  stockCode := .ok (.ofWord "510300.SH")
  orderType := .ok (.ofInt 23)
  orderVolume := .ok (.ofInt 100)
  tradedVolume := .ok (.ofInt tradedVolume)
  orderStatus := .ok (.ofInt orderStatus)
  orderRemark := .ok (.ofWord "r1")
  strategyName := .ok (.ofWord "s")
  orderSysid := .error ⟨.attributeError, "order_sysid"⟩
  statusMsg := .error ⟨.attributeError, "status_msg"⟩
  tradedPrice := .ok (.ofInt tradedPrice)

def stockConfig : QmtOrderConfig := ⟨23, 24⟩

theorem reportedOrder_fields (tradedVolume orderStatus tradedPrice : ℤ) :
    (reportedOrder tradedVolume orderStatus tradedPrice).fields = .ok ⟨7, "510300.SH", 23, 100,
      tradedVolume, .ofInt orderStatus, "r1", "s", "", "", some (.finite tradedPrice)⟩ := rfl

theorem queries_normalized_contradiction :
    Answered (queryOrder stockConfig 7 [.ok Option.none, .ok (some (reportedOrder 50 56 4))]) := by
  apply And.left
  apply (queries_normalized stockConfig (by decide : (0 : ℤ) < 7)
    [.ok Option.none, .ok (some (reportedOrder 50 56 4))] []).1.2
  intro raw returned
  cases returned
  constructor
  · intro exc raised
    rw [reportedOrder_fields] at raised
    cases raised
  · intro fields read _
    rw [reportedOrder_fields] at read
    cases read
    exact ⟨by decide, by decide, by decide, by decide, .inr ⟨4, rfl, by decide⟩⟩

/-- More traded than ordered raises the `ValueError` of `BrokerOrder`. -/
theorem query_raises_value_error : ¬ ∀ (config : QmtOrderConfig) (orderId : ℤ)
    (attempts : List (Except Exc (Option RawOrder))), 0 < orderId →
      Answered (queryOrder config orderId attempts) := by
  intro claimed
  have answered := claimed stockConfig 7 [.ok (some (reportedOrder 150 50 4))] (by decide)
  have raised : queryOrder stockConfig 7 [.ok (some (reportedOrder 150 50 4))] =
      .error ⟨.valueError, "filled_qty must be within [0, qty]"⟩ := rfl
  cases answered _ raised

end QmtExecution.MiniQmt
