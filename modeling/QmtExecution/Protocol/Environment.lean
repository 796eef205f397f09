import QmtExecution.Interaction.Script
import QmtExecution.Protocol.Sessions

/-! Environments that answer a session in a fixed way, with the journal file as it is. -/

namespace QmtExecution

open Interaction

def sampleDigest : String := "0000000000000000000000000000000000000000000000000000000000000000"

def sampleAsset (cash : ℕ) : BrokerAsset where
  cash := cash
  frozenCash := 0
  marketValue := 0
  totalAsset := cash
  cash_nonneg := Nat.cast_nonneg cash
  frozenCash_nonneg := le_rfl
  marketValue_nonneg := le_rfl
  totalAsset_nonneg := Nat.cast_nonneg cash

def sampleEstimate (amount : ℕ) : CashRequirementEstimate where
  requiredCash := amount
  orderNotional := amount
  requiredCash_nonneg := Nat.cast_nonneg amount
  components_nonneg := ⟨Nat.cast_nonneg amount, le_rfl, le_rfl, le_rfl, le_rfl⟩
  conservative := by norm_num [epsilon]

/-- The answers of everything outside a session but its journal file. -/
structure Replies where
  write : JournalWriter → Except Exc Unit := fun _ => .ok ()
  verification : Except Exc FormalVerification := .ok ⟨sampleDigest, sampleDigest⟩
  session : Except Exc SessionEvidence := .ok ⟨true, true, true, ""⟩
  healthy : Except Exc Bool := .ok true
  precheck : Except Exc PrecheckEvidence := .ok ⟨true, true, true, true, true, true, true, ""⟩
  hook : Except Exc Unit := .ok ()
  sidecar : Except Exc Unit := .ok ()
  place : Except Exc Int := .ok 7
  cancel : Except Exc CancelRequestResult := .ok .accepted
  order : Except Exc BrokerOrder := .error ⟨.brokerQueryAmbiguous, "not visible"⟩
  orders : Except Exc (List BrokerOrder) := .ok []
  asset : Except Exc BrokerAsset := .ok (sampleAsset 1000)
  estimate : Except Exc CashRequirementEstimate := .ok (sampleEstimate 400)
  owned : Except Exc Bool := .ok true
  coordinator : Except Exc Unit := .ok ()

def Replies.answer (replies : Replies) (trace : Trace) :
    (command : Command) → Except Exc (Result command)
  | .journalExists => .ok (Ledger.ofTrace trace).disk.isSome
  | .journalRead => match (Ledger.ofTrace trace).disk with
      | some payload => .ok payload
      | none => .error ⟨.osError, "no such file"⟩
  | .journalWrite writer _ => replies.write writer
  | .mutexAcquire | .mutexRelease => .ok ()
  | .verifyStateMachine => replies.verification
  | .verifySession => replies.session
  | .executionHealthy => replies.healthy
  | .verify _ => replies.precheck
  | .submitCoordination _ | .beforeBrokerCancel _ => replies.hook
  | .beforeBrokerSubmit _ => replies.sidecar
  | .placeOrder _ => replies.place
  | .cancelOrder _ => replies.cancel
  | .queryOrder _ => replies.order
  | .queryOrders => replies.orders
  | .queryAsset => replies.asset
  | .estimate _ _ => replies.estimate
  | .prepare _ _ _ _ _ | .restore _ _ _ _ _ | .updateFinality _ _ _ _ => replies.coordinator
  | .hasClaim _ _ _ => replies.owned

theorem Replies.fileLaw (replies : Replies) (trace : Trace) (command : Command) :
    trace.FileLaw command (replies.answer trace command) := by
  cases command with
  | journalExists => rfl
  | journalRead =>
      unfold Replies.answer
      cases disk : (Ledger.ofTrace trace).disk with
      | none => exact trivial
      | some payload => exact disk
  | _ => exact trivial

def Replies.respond (replies : Replies) : Responder Command Result Exc Trace :=
  fun trace command => (replies.answer trace command, ⟨command, replies.answer trace command⟩ :: trace)

theorem Replies.responds : Responds Replies.respond Trace.answers :=
  fun replies trace command => ⟨replies.fileLaw trace command, rfl⟩

abbrev SessionDeed : Type := Deed Operation Replies

def call (operation : Operation) (replies : Replies := {}) : List SessionDeed :=
  perform operation replies

/-- A process that makes so many calls within an operation and crashes before the next. -/
def crashIn (operation : Operation) (calls : Nat) (replies : Replies := {}) : List SessionDeed :=
  [.invoke operation, .answer calls replies, .crash]

/-- The runs of one session on its own journal: any answers, failing writes, and a crash
with a restart between any two calls. -/
abbrev SessionReachable (config : SessionConfig) :
    Phase Command Result SessionState Exc Operation (Option ExecutionSnapshot) → Trace → Prop :=
  (sessionClass config).Reachable Trace.answers (· = [])

theorem SessionReachable.guarded {config : SessionConfig}
    {phase : Phase Command Result SessionState Exc Operation (Option ExecutionSnapshot)}
    {trace : Trace} (run : SessionReachable config phase trace) : Trace.Guarded config trace :=
  (run.lawful (session_follows config)).2

def sessionRun (config : SessionConfig) (deeds : List SessionDeed) :
    Phase Command Result SessionState Exc Operation (Option ExecutionSnapshot) × Trace :=
  (sessionClass config).script Replies.respond [] deeds

theorem session_run_reachable (config : SessionConfig) (deeds : List SessionDeed) :
    SessionReachable config (sessionRun config deeds).1 (sessionRun config deeds).2 := by
  refine Class.script_reachable ?_ Replies.responds deeds
  rfl

theorem sampleAccount_ne : "a1" ≠ "" := by decide

def sampleRequest : ExecutionRequest where
  clientOrderId := "c1"
  symbol := "510300.SH"
  side := .buy
  qty := 100
  limitPrice := 4
  strategyId := "s"
  orderRemark := "r1"
  clientOrderId_ne := by decide
  symbol_ne := by decide
  strategyId_ne := by decide
  orderRemark_ne := by decide
  qty_pos := by decide
  limitPrice_pos := by norm_num

def laterRequest : ExecutionRequest := { sampleRequest with
  clientOrderId := "c2", orderRemark := "r2", clientOrderId_ne := by decide
  orderRemark_ne := by decide }

instance sampleQty_neZero : NeZero 101 := ⟨by decide⟩

def sampleOrder (status : BrokerOrderStatus) (filledQty : Fin 101) : BrokerOrder where
  orderId := 7
  symbol := "510300.SH"
  side := .buy
  qty := 100
  filledQty := filledQty
  status := status
  orderRemark := "r1"
  orderId_pos := by decide
  symbol_ne := by decide
  qty_pos := by decide
  filledQty_nonneg := by omega
  filledQty_le := by omega
  averageFillPrice_nonneg := by simp

def plainConfig : SessionConfig := ⟨"e1", "a1", false, false⟩
def sharedConfig : SessionConfig := ⟨"e1", "a1", true, true⟩

/-- A submission whose first poll fails leaves the journal UNKNOWN. -/
def unknownRun : List SessionDeed :=
  [.start] ++ call .openSession ++ call (.submit sampleRequest)

end QmtExecution
