import QmtExecution.Domain

/-! `ExecutionLimits` and `LimitExecutionGuard`, `guards.py`. -/

namespace QmtExecution

@[ext] structure ExecutionLimits where
  allowlist : List String
  maxOrderQty : Int
  maxOrderNotional : ℚ
  allowlist_ne : allowlist ≠ []
  symbols_ne : "" ∉ allowlist
  maxOrderQty_pos : 0 < maxOrderQty
  maxOrderNotional_pos : 0 < maxOrderNotional

structure ExecutionLimits.Admits (limits : ExecutionLimits) (request : ExecutionRequest) : Prop where
  symbol : request.symbol ∈ limits.allowlist
  qty : request.qty ≤ limits.maxOrderQty
  notional : ∃ notional, request.notional = some notional ∧ notional ≤ limits.maxOrderNotional

structure LimitExecutionGuard where
  limits : ExecutionLimits
  killSwitch : Bool := false

namespace LimitExecutionGuard

def rejected (reason : String) : PrecheckEvidence :=
  ⟨false, false, false, false, false, false, false, reason⟩

def engageKillSwitch (guard : LimitExecutionGuard) : LimitExecutionGuard :=
  { guard with killSwitch := true }

/-- `verify`, over what the inner guard makes of the request. -/
def verify (guard : LimitExecutionGuard) (inner : ExecutionRequest → Except Exc PrecheckEvidence)
    (request : ExecutionRequest) : Except Exc PrecheckEvidence :=
  if guard.killSwitch then .ok (rejected "kill switch engaged")
  else if request.symbol ∉ guard.limits.allowlist then
    .ok (rejected "symbol is not on the execution allowlist")
  else if guard.limits.maxOrderQty < request.qty then
    .ok (rejected "order quantity exceeds hard execution limit")
  else match request.checkNotional with
    | .error exc => .error exc
    | .ok () =>
        if request.notional.all (guard.limits.maxOrderNotional < ·) then
          .ok (rejected "order notional exceeds hard execution limit")
        else inner request

theorem verify_allowed {guard : LimitExecutionGuard}
    {inner : ExecutionRequest → Except Exc PrecheckEvidence} {request : ExecutionRequest}
    {evidence : PrecheckEvidence} (answered : guard.verify inner request = .ok evidence)
    (allowed : evidence.allowed = true) :
    guard.killSwitch = false ∧ guard.limits.Admits request ∧ inner request = .ok evidence := by
  unfold verify at answered
  cases priced : request.checkNotional with
  | error exc =>
      rw [priced] at answered
      split_ifs at answered <;> cases answered <;> cases allowed
  | ok value =>
      rw [priced] at answered
      split_ifs at answered with engaged symbol qty notional
      · cases answered
        cases allowed
      · cases answered
        cases allowed
      · cases answered
        cases allowed
      · obtain ⟨amount, same, within⟩ := (Option.all_eq_false _ _).1 (by simpa using notional)
        exact ⟨by simpa using engaged, ⟨symbol, not_lt.1 qty, amount, same, by simpa using within⟩,
          answered⟩
      · cases answered
        cases allowed

end LimitExecutionGuard

end QmtExecution
