import QmtExecution.Interaction.Spans
import QmtExecution.Protocol.Sequence
import QmtExecution.Shared.World

/-! What the coordinator's tables hold at the moment an order is sent. -/

namespace QmtExecution

open Interaction Resources CoordinationStore

def CoordinationStore.Reserved (db : CoordinationStore) (holder : Holder) (amount : ℚ) : Prop :=
  ∃ row ∈ db.cashReservation, row.holder = holder ∧ row.active = true ∧
    |row.requiredCash - amount| ≤ epsilon

theorem prepare_reserved {db after : CoordinationStore} {accountKey executionId : String}
    {request : ExecutionRequest} {available required : CashArgument} (buy : request.side = .buy)
    (done : db.prepare accountKey executionId request available required = .ok after) :
    ∃ amount, required = .finite amount ∧
      after.Reserved ⟨accountKey, executionId, request.clientOrderId⟩ amount := by
  unfold prepare at done
  rw [buy] at done
  obtain ⟨-, -, done⟩ := except_bind done
  obtain ⟨offered, -, done⟩ := except_bind done
  obtain ⟨amount, needed, done⟩ := except_bind done
  obtain ⟨middle, -, done⟩ := except_bind done
  refine ⟨amount, (finite_ok needed).1, ?_⟩
  unfold prepareReservation at done
  split at done
  · rename_i row found
    obtain ⟨member, own⟩ := reservationOf_some found
    split_ifs at done with released changed
    cases done
    exact ⟨row, member, own, by simpa using released, not_lt.1 changed⟩
  · dsimp only at done
    split_ifs at done
    cases done
    refine ⟨⟨accountKey, executionId, request.clientOrderId, request.symbol, amount, true⟩, ?_, rfl,
      rfl, ?_⟩
    · exact List.mem_append_right _ (List.mem_singleton_self _)
    · rw [sub_self, abs_zero]
      norm_num [epsilon]

theorem Reserved.other {db after : CoordinationStore} (keyed : Keyed SymbolClaim.slot db.symbolClaim)
    {call : CoordinatorCall} (done : call.execute db = .ok after) {holder : Holder} {amount : ℚ}
    (different : holder ≠ call.holder) (reserved : db.Reserved holder amount) :
    after.Reserved holder amount := by
  obtain ⟨row, listed, rfl, active, close⟩ := reserved
  have same : after.others call.holder = db.others call.holder := by
    have others := after_others keyed call
    rwa [CoordinationStore.after, done] at others
  have kept : row ∈ (after.others call.holder).2 := by
    rw [same]
    exact List.mem_filter.2 ⟨listed, decide_eq_true different⟩
  exact ⟨row, (List.mem_filter.1 kept).1, rfl, active, close⟩

def Trace.funding : Trace → Option (ExecutionRequest × CashArgument)
  | ⟨.prepare _ _ request _ required, .ok _⟩ :: _ => some (request, required)
  | ⟨.beforeBrokerSubmit _, _⟩ :: ⟨.prepare _ _ request _ required, .ok _⟩ :: _ =>
      some (request, required)
  | _ => none

theorem funding_grows {command : Command} {answer : Except Exc (Result command)} {trace : Trace}
    {request : ExecutionRequest} {required : CashArgument}
    (funded : Trace.funding (⟨command, answer⟩ :: trace) = some (request, required)) :
    (∃ hooked, command = .beforeBrokerSubmit hooked ∧ trace.funding = some (request, required)) ∨
      ∃ accountKey executionId available,
        command = .prepare accountKey executionId request available required ∧ answer.isOk = true := by
  cases command with
  | prepare accountKey executionId other available amount =>
      cases answer with
      | error exc => cases funded
      | ok value =>
          cases funded
          exact .inr ⟨accountKey, executionId, available, rfl, rfl⟩
  | beforeBrokerSubmit hooked =>
      refine .inl ⟨hooked, rfl, ?_⟩
      unfold Trace.funding at funded
      split at funded
      · rename_i same
        cases same
      · rename_i same
        cases same
        exact funded
      · cases funded
  | _ => cases funded

namespace Shared

variable {ι : Type} {configs : ι → SessionConfig}

structure Funded (configs : ι → SessionConfig) (world : Shared ι) : Prop where
  tenancy : Tenancy configs world
  funds : ∀ i request required, (world.logs i).funding = some (request, required) →
    request.side = .buy → ∃ amount, required = .finite amount ∧
      world.store.Reserved ((configs i).holder request) amount

theorem Tenancy.keyed_slots {world : Shared ι} (tenancy : Tenancy configs world) :
    Keyed SymbolClaim.slot world.store.symbolClaim := by
  have slots := tenancy.slots
  rwa [Keyed, claimed, List.map_map] at slots

variable [DecidableEq ι]

theorem Funded.call (coordinated : ∀ i, (configs i).coordinated = true)
    (distinct : Distinct configs) (i : ι) {world after : Shared ι}
    {command : Command} {answer : Except Exc (Result command)}
    (guarded : Trace.Guarded (configs i) (world.logs i)) (funded : Funded configs world)
    (permitted : (world.logs i).permits (configs i) command)
    (law : Shared.answers i world command answer after) : Funded configs after := by
  refine ⟨funded.tenancy.call coordinated distinct i guarded permitted law, ?_⟩
  obtain ⟨-, store, logs⟩ := law
  intro j request required funding buy
  rw [logs] at funding
  by_cases own : j = i
  · subst own
    rw [Function.update_self] at funding
    rcases funding_grows funding with ⟨hooked, rfl, earlier⟩ |
      ⟨accountKey, executionId, available, rfl, returned⟩
    · rw [show after.store = world.store from store.1]
      exact funded.funds j request required earlier buy
    · obtain ⟨rfl, rfl, -⟩ := permitted
      rcases store with done | ⟨failed, -⟩
      · exact prepare_reserved buy done
      · rw [returned] at failed
        cases failed
  · rw [Function.update_of_ne own] at funding
    obtain ⟨amount, same, reserved⟩ := funded.funds j request required funding buy
    refine ⟨amount, same, ?_⟩
    rcases store.cases with unchanged | ⟨call, transaction, done⟩
    · rw [unchanged]
      exact reserved
    · apply Reserved.other funded.tenancy.keyed_slots done _ reserved
      intro holder
      rw [permitted_holder permitted transaction] at holder
      exact own (distinct.holder holder)

theorem Reachable.funded (coordinated : ∀ i, (configs i).coordinated = true)
    (distinct : Distinct configs)
    {config : Config Command Result SessionState Exc Operation (Option ExecutionSnapshot) ι (Shared ι)}
    (reachable : Reachable configs config) : Funded configs config.world := by
  apply Family.Reachable.always views (fun i => session_follows (configs i))
    (fun world first => first.2) _ _ _ reachable
  · intro world first
    refine ⟨Reachable.tenancy coordinated distinct (.initial world first), ?_⟩
    intro i request required funding
    rw [first.2 i] at funding
    cases funding
  · intro i world command answer after guarded funded permitted law
    exact funded.call coordinated distinct i (guarded i) permitted law
  · intro world after funded same
    rw [same]
    exact funded

/-- Whenever a session is about to send an order, in any run of sessions on one coordinator with
crashes and with failures between any two calls: its file records the request as SUBMITTED, it has
the claim of the symbol, and for a BUY the estimate of the account's cash as just queried is
reserved. -/
theorem placements_covered (coordinated : ∀ i, (configs i).coordinated = true)
    (distinct : Distinct configs)
    {config : Config Command Result SessionState Exc Operation (Option ExecutionSnapshot) ι (Shared ι)}
    (reachable : Reachable configs config) {i : ι} {operation : Operation}
    {request : ExecutionRequest} {rest : Except Exc Int → _}
    (placing : config.phase i = .busy operation (.call (.placeOrder request) rest)) :
    (∃ payload, (Ledger.ofTrace (config.world.logs i)).disk = some payload ∧
      payload.machine.state = .submitted ∧ payload.data.intent = some (.ofRequest request)) ∧
    ((configs i).holder request, request.symbol) ∈ config.world.store.claimed ∧
    (request.side = .buy → ∃ asset estimate older, config.world.logs i =
      ⟨.beforeBrokerSubmit request, .ok ()⟩ ::
        ⟨.prepare (configs i).accountKey (configs i).executionId request (.finite (BrokerAsset.cash asset))
          (.finite (CashRequirementEstimate.requiredCash estimate)), .ok ()⟩ ::
        ⟨.estimate request asset, .ok estimate⟩ :: ⟨.queryAsset, .ok asset⟩ :: older ∧
      config.world.store.Reserved ((configs i).holder request) estimate.requiredCash) := by
  have lawful := (Family.Reachable.lawful views (fun i => session_sequenced (configs i))
    (fun world first => first.2) reachable i).1
  rw [placing] at lawful
  obtain ⟨⟨⟨⟨payload, submitting⟩, -, prepares⟩, approaches⟩, -⟩ := lawful
  obtain ⟨available, required, prepared, -⟩ := prepares (coordinated i)
  refine ⟨⟨payload, submitting.disk, submitting.state, submitting.intent⟩, ?_, ?_⟩
  · exact (Reachable.tenancy coordinated distinct reachable).prepared i request available required prepared
  · intro buy
    obtain ⟨calls, older, coordinates, -, same⟩ := approaches
    unfold SessionConfig.Coordinates at coordinates
    rw [coordinated i, if_pos rfl, buy] at coordinates
    obtain ⟨asset, estimate, rfl⟩ := coordinates
    refine ⟨asset, estimate, older, same, ?_⟩
    obtain ⟨amount, finite, reserved⟩ := (Reachable.funded coordinated distinct reachable).funds i request
      (.finite estimate.requiredCash) (by rw [same]; rfl) buy
    cases finite
    exact reserved

def placing : List (Unit × SessionDeed) :=
  (([.start] : List SessionDeed) ++ call .openSession ++
    ([.invoke (.submit sampleRequest), .answer 11 {}] : List SessionDeed)).map fun deed => ((), deed)

theorem placements_covered_placing :
    ∃ amount, (script (fun _ => sharedConfig) placing).world.store.Reserved
      (sharedConfig.holder sampleRequest) amount := by
  have waits : ((script (fun _ => sharedConfig) placing).phase ()).calling =
      some (.submit sampleRequest, .placeOrder sampleRequest) := by decide +kernel
  obtain ⟨rest, phase⟩ := Phase.calling_some waits
  have distinct : Distinct fun _ : Unit => sharedConfig := fun _ _ _ => rfl
  obtain ⟨-, -, funds⟩ := placements_covered (fun _ => rfl) distinct
    (script_reachable (fun _ => sharedConfig) placing) phase
  obtain ⟨asset, estimate, older, -, reserved⟩ := funds rfl
  exact ⟨estimate.requiredCash, reserved⟩

end Shared

end QmtExecution
