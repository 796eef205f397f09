import QmtExecution.StateMachine

/-! The matching of broker orders to a durable identity and the mapping of broker
observations to events, `recovery.py`. -/

namespace QmtExecution

def findUniqueManagedOrder (orders : List BrokerOrder) (symbol : String) (side : Side)
    (qty : Int) (orderRemark : String) : Except Exc BrokerOrder :=
  let found := orders.filter fun order =>
    order.orderRemark = orderRemark && order.symbol = symbol && order.side = side &&
      order.qty = qty
  match found with
  | [order] => .ok order
  | _ => .error ⟨.recoveryAmbiguous,
      "expected exactly one durable-identity broker match, got " ++ toString found.length⟩

def recoveryEvent : BrokerOrderStatus → TradeEvent
  | .accepted => .recoveryAccepted
  | .working => .recoveryWorking
  | .partiallyFilled => .recoveryPartial
  | .cancelPending => .recoveryCancelling
  | .partialCancelled => .recoveryCancelled
  | .cancelled => .recoveryCancelled
  | .filled => .recoveryFilled
  | .rejected => .recoveryRejected
  | .unknown => .queryAmbiguous

def eventForObservation (current : TradeState) (status : BrokerOrderStatus) :
    Except Exc (Option TradeEvent) :=
  let ambiguous : Except Exc (Option TradeEvent) := .error ⟨.recoveryAmbiguous,
    "observation " ++ status.value ++ " is not a valid refinement of state " ++ current.value⟩
  if status = .unknown then .ok (some .queryAmbiguous)
  else if current ∈ [TradeState.unknown, .cancelRejected] then
    if current = .cancelRejected ∧ status = .accepted then .ok (some .queryAmbiguous)
    else .ok (some (recoveryEvent status))
  else match status with
  | .accepted => if current = .accepted then .ok none else ambiguous
  | .working =>
      if current ∈ [TradeState.accepted, .working, .pendingCancel, .cancelling] then
        .ok (some .orderWorking)
      else ambiguous
  | .partiallyFilled =>
      if current ∈ [TradeState.accepted, .working, .partiallyFilled, .pendingCancel,
          .cancelling] then
        .ok (some .orderPartial)
      else ambiguous
  | .cancelPending =>
      if current = .pendingCancel then .ok (some .cancelSent)
      else if current = .cancelling then .ok (some .cancelStillPending)
      else ambiguous
  | .partialCancelled | .cancelled =>
      if current ∈ [TradeState.accepted, .working, .partiallyFilled, .pendingCancel,
          .cancelling] then
        .ok (some .cancelConfirmed)
      else ambiguous
  | .filled =>
      if current ∈ [TradeState.accepted, .working, .partiallyFilled, .pendingCancel,
          .cancelling] then
        .ok (some .orderFilled)
      else ambiguous
  | .rejected =>
      if current ∈ [TradeState.accepted, .working] then .ok (some .orderRejected) else ambiguous
  | .unknown => ambiguous

theorem find_unique_ok {orders : List BrokerOrder} {symbol : String} {side : Side} {qty : Int}
    {orderRemark : String} {order : BrokerOrder}
    (found : findUniqueManagedOrder orders symbol side qty orderRemark = .ok order) :
    order ∈ orders ∧ order.orderRemark = orderRemark ∧ order.symbol = symbol ∧
      order.side = side ∧ order.qty = qty := by
  unfold findUniqueManagedOrder at found
  dsimp only at found
  split at found
  · rename_i only single
    cases found
    have member : order ∈ orders.filter _ := single ▸ List.mem_singleton_self order
    rw [List.mem_filter] at member
    simpa [and_assoc] using member
  · cases found

def observationEvents : List TradeEvent :=
  [.orderWorking, .orderPartial, .orderFilled, .orderRejected, .cancelStillPending,
    .cancelConfirmed, .recoveryAccepted, .recoveryWorking, .recoveryPartial, .recoveryCancelling,
    .recoveryFilled, .recoveryCancelled, .recoveryRejected]

theorem event_for_observation_ok {state : TradeState} {status : BrokerOrderStatus}
    {event : TradeEvent} (known : eventForObservation state status = .ok (some event)) :
    event = .queryAmbiguous ∨ event = .cancelSent ∨ event ∈ observationEvents := by
  unfold eventForObservation at known
  cases status
  case unknown =>
    cases known
    exact .inl rfl
  all_goals
    simp only [reduceCtorEq, if_false] at known
    split_ifs at known <;> cases known <;> simp [observationEvents, recoveryEvent]

end QmtExecution
