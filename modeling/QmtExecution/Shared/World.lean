import QmtExecution.Guarantees.Finality
import QmtExecution.Guarantees.Stability
import QmtExecution.Resources.Coupling

/-! Any number of sessions on one coordinator: every session has a journal and a mutex of its own,
and the transactions of all of them take turns on the coordinator's tables. -/

namespace QmtExecution

open Interaction Resources CoordinationStore

/-- What the tables make of a call: a transaction that returns has committed, and one that raises
has been rolled back, or the exception hides its commit; `has_claim` answers or raises
`SymbolClaimConflict` by the tables alone. -/
def CoordinationStore.Answers (db : CoordinationStore) (command : Command)
    (answer : Except Exc (Result command)) (after : CoordinationStore) : Prop :=
  match command.transaction with
  | some call => call.execute db = .ok after ∨ answer.isOk = false ∧ after = db
  | none => after = db ∧ ∀ accountKey executionId request reply,
      (⟨command, answer⟩ : Event) = ⟨.hasClaim accountKey executionId request, reply⟩ →
      reply = db.hasClaim accountKey executionId request ∨
        ∃ exc, reply = .error exc ∧ exc.isA .symbolClaimConflict = false

/-- The coordinator's tables and the calls of every session. -/
structure Shared (ι : Type) where
  store : CoordinationStore
  logs : ι → Trace

namespace Shared

variable {ι : Type} [DecidableEq ι]

def answers (i : ι) (world : Shared ι) (command : Command) (answer : Except Exc (Result command))
    (after : Shared ι) : Prop :=
  (world.logs i).FileLaw command answer ∧ world.store.Answers command answer after.store ∧
    after.logs = Function.update world.logs i (⟨command, answer⟩ :: world.logs i)

def initial (world : Shared ι) : Prop :=
  world.store = {} ∧ ∀ i, world.logs i = []

theorem views : Family.Views (C := Command) (R := Result) (E := Exc) Shared.answers
    (fun (world after : Shared ι) => after = world) (fun i world => world.logs i)
    (fun _ => Trace.answers) where
  own := by
    intro i world command answer after law
    obtain ⟨file, -, logs⟩ := law
    refine ⟨file, ?_⟩
    rw [logs, Function.update_self]
  other := by
    intro i j world command answer after different law
    rw [law.2.2, Function.update_of_ne different]
  environment := by
    intro i world after same
    rw [same]

abbrev Reachable (configs : ι → SessionConfig) :
    Config Command Result SessionState Exc Operation (Option ExecutionSnapshot) ι (Shared ι) → Prop :=
  Family.Reachable (fun i => sessionClass (configs i)) Shared.answers (fun world after => after = world)
    initial

end Shared

section Transactions

variable {db after : CoordinationStore} {call : CoordinatorCall}

theorem execute_keeps (done : call.execute db = .ok after) (keeps : call.releases = false)
    {entry : Holder × String} (listed : entry ∈ db.claimed) : entry ∈ after.claimed := by
  have effect := execute_ok done
  rw [keeps] at effect
  simp only [Bool.false_eq_true, if_false] at effect
  rcases effect with marks | ⟨claims, -⟩
  · rw [marks.2.1]
    exact listed
  · exact claims.claimed_iff.2 (.inl listed)

theorem execute_claims (done : call.execute db = .ok after) (keeps : call.releases = false) :
    (call.holder, call.request.symbol) ∈ after.claimed := by
  have effect := execute_ok done
  rw [keeps] at effect
  simp only [Bool.false_eq_true, if_false] at effect
  rcases effect with marks | ⟨claims, -⟩
  · rw [marks.2.1]
    exact marks.1
  · exact claims.claimed_iff.2 (.inr rfl)

theorem execute_other (done : call.execute db = .ok after) {entry : Holder × String}
    (other : entry.1 ≠ call.holder) : entry ∈ after.claimed ↔ entry ∈ db.claimed := by
  have effect := execute_ok done
  split_ifs at effect
  · rw [effect.claimed_iff]
    constructor
    · intro kept
      exact kept.1
    · intro listed
      refine ⟨listed, ?_⟩
      intro same
      exact other (congrArg Prod.fst same)
  · rcases effect with marks | ⟨claims, -⟩
    · rw [marks.2.1]
    · rw [claims.claimed_iff]
      constructor
      · rintro (listed | same)
        · exact listed
        · exact absurd (congrArg Prod.fst same) other
      · exact .inl

theorem execute_keyed (done : call.execute db = .ok after)
    (slots : Keyed (fun entry : Holder × String => (entry.1.accountKey, entry.2)) db.claimed)
    (holders : Keyed Prod.fst db.claimed) :
    Keyed (fun entry : Holder × String => (entry.1.accountKey, entry.2)) after.claimed ∧
      Keyed Prod.fst after.claimed := by
  have effect := execute_ok done
  split_ifs at effect
  · rw [effect.2.1]
    exact ⟨slots.filter _, holders.filter _⟩
  · rcases effect with marks | ⟨claims, -⟩
    · rw [marks.2.1]
      exact ⟨slots, holders⟩
    · exact claims.keyed slots holders

/-- What the tables make of a call is nothing, or what its transaction has committed. -/
theorem CoordinationStore.Answers.cases {command : Command} {answer : Except Exc (Result command)}
    (law : db.Answers command answer after) : after = db ∨
      ∃ call, command.transaction = some call ∧ call.execute db = .ok after := by
  unfold Answers at law
  split at law
  · rename_i call same
    rcases law with done | ⟨-, unchanged⟩
    · exact .inr ⟨call, same, done⟩
    · exact .inl unchanged
  · exact .inl law.1

end Transactions

def SessionConfig.holder (config : SessionConfig) (request : ExecutionRequest) : Holder :=
  ⟨config.accountKey, config.executionId, request.clientOrderId⟩

theorem permitted_holder {config : SessionConfig} {ledger : Ledger} {command : Command}
    (permitted : ledger.Permits config command) {call : CoordinatorCall}
    (same : command.transaction = some call) : call.holder = config.holder call.request := by
  cases command with
  | prepare accountKey executionId request available required =>
      obtain ⟨rfl, rfl, -⟩ := permitted
      cases same
      rfl
  | restore accountKey executionId request required finality =>
      obtain ⟨rfl, rfl, -⟩ := permitted
      cases same
      rfl
  | updateFinality accountKey executionId request finality =>
      obtain ⟨rfl, rfl, -⟩ := permitted
      cases same
      rfl
  | _ => cases same

theorem release_event {command : Command} {answer : Except Exc (Result command)}
    {call : CoordinatorCall} (same : command.transaction = some call) :
    Event.isRelease ⟨command, answer⟩ = call.releases := by
  cases command with
  | prepare accountKey executionId request available required =>
      cases same
      rfl
  | restore accountKey executionId request required finality =>
      cases same
      cases finality <;> rfl
  | updateFinality accountKey executionId request finality =>
      cases same
      cases finality <;> rfl
  | _ => cases same

theorem Ledger.after_prepared {config : SessionConfig} {ledger : Ledger} {command : Command}
    {answer : Except Exc (Result command)} (permitted : ledger.Permits config command)
    {request : ExecutionRequest} {available required : CashArgument}
    (prepared : (ledger.after command answer).prepared = some (request, available, required)) :
    ledger.prepared = some (request, available, required) ∧
        Event.isRelease ⟨command, answer⟩ = false ∨
      command = .prepare config.accountKey config.executionId request available required ∧
        answer.isOk = true := by
  cases command with
  | prepare accountKey executionId other cash amount =>
      obtain ⟨rfl, rfl, -⟩ := permitted
      cases answer with
      | error exc => exact .inl ⟨prepared, rfl⟩
      | ok value =>
          cases prepared
          exact .inr ⟨rfl, rfl⟩
  | updateFinality accountKey executionId other finality =>
      cases finality with
      | resolved => cases prepared
      | _ => exact .inl ⟨prepared, rfl⟩
  | restore accountKey executionId other amount finality =>
      obtain ⟨-, -, payload, -, -, unresolved⟩ := permitted
      have kept : ledger.prepared = some (request, available, required) := by
        cases answer <;> exact prepared
      cases finality with
      | resolved => exact absurd rfl unresolved
      | _ => exact .inl ⟨kept, rfl⟩
  | journalRead =>
      cases answer with
      | ok payload => cases prepared
      | error exc => exact .inl ⟨prepared, rfl⟩
  | journalWrite writer payload =>
      cases writer with
      | persistIntent request => cases answer <;> cases prepared
      | _ => cases answer <;> exact .inl ⟨prepared, rfl⟩
  | queryOrder orderId => exact .inl ⟨(Ledger.observe_prepared _ _).symm.trans prepared, rfl⟩
  | queryOrders => exact .inl ⟨(Ledger.observe_prepared _ _).symm.trans prepared, rfl⟩
  | placeOrder request => exact .inl ⟨prepared, rfl⟩
  | cancelOrder orderId => exact .inl ⟨prepared, rfl⟩
  | _ => cases answer <;> exact .inl ⟨prepared, rfl⟩

namespace Shared

variable {ι : Type} {configs : ι → SessionConfig}

/-- A symbol of an account has one claim, and a session that has prepared a request or that has an
order outstanding has the claim of its symbol. -/
structure Tenancy (configs : ι → SessionConfig) (world : Shared ι) : Prop where
  slots : Keyed (fun entry : Holder × String => (entry.1.accountKey, entry.2)) world.store.claimed
  holders : Keyed Prod.fst world.store.claimed
  prepared : ∀ i request available required,
    (Ledger.ofTrace (world.logs i)).prepared = some (request, available, required) →
      ((configs i).holder request, request.symbol) ∈ world.store.claimed
  outstanding : ∀ i order, (world.logs i).tolerated = true →
    (Ledger.ofTrace (world.logs i)).outstanding = some order →
      ((configs i).holder order.request, order.request.symbol) ∈ world.store.claimed

/-- No two sessions work under one identity. -/
def Distinct (configs : ι → SessionConfig) : Prop :=
  Function.Injective fun i => ((configs i).accountKey, (configs i).executionId)

theorem Distinct.holder (distinct : Distinct configs) {i j : ι} {request other : ExecutionRequest}
    (same : (configs i).holder request = (configs j).holder other) : i = j := by
  apply distinct
  exact Prod.ext (congrArg Holder.accountKey same) (congrArg Holder.executionId same)

theorem kept_other (distinct : Distinct configs) {i j : ι} (different : j ≠ i) {world after : Shared ι}
    {command : Command} {answer : Except Exc (Result command)}
    (permitted : (world.logs i).permits (configs i) command)
    (law : world.store.Answers command answer after.store) {request : ExecutionRequest} :
    ((configs j).holder request, request.symbol) ∈ after.store.claimed ↔
      ((configs j).holder request, request.symbol) ∈ world.store.claimed := by
  rcases law.cases with unchanged | ⟨call, same, done⟩
  · rw [unchanged]
  · apply execute_other done
    intro mine
    rw [permitted_holder permitted same] at mine
    exact different (distinct.holder mine)

theorem kept_own {world after : Shared ι} {command : Command}
    {answer : Except Exc (Result command)} (law : world.store.Answers command answer after.store)
    (keeps : Event.isRelease ⟨command, answer⟩ = false) {entry : Holder × String}
    (listed : entry ∈ world.store.claimed) : entry ∈ after.store.claimed := by
  rcases law.cases with unchanged | ⟨call, same, done⟩
  · rw [unchanged]
    exact listed
  · apply execute_keeps done _ listed
    rw [← release_event same]
    exact keeps

variable [DecidableEq ι]

theorem Tenancy.call (coordinated : ∀ i, (configs i).coordinated = true)
    (distinct : Distinct configs) (i : ι) {world after : Shared ι} {command : Command}
    {answer : Except Exc (Result command)}
    (guarded : Trace.Guarded (configs i) (world.logs i)) (tenancy : Tenancy configs world)
    (permitted : (world.logs i).permits (configs i) command)
    (law : Shared.answers i world command answer after) : Tenancy configs after := by
  obtain ⟨file, store, logs⟩ := law
  have keyed : Keyed (fun entry : Holder × String => (entry.1.accountKey, entry.2))
      after.store.claimed ∧ Keyed Prod.fst after.store.claimed := by
    rcases store.cases with unchanged | ⟨call, same, done⟩
    · rw [unchanged]
      exact ⟨tenancy.slots, tenancy.holders⟩
    · exact execute_keyed done tenancy.slots tenancy.holders
  refine ⟨keyed.1, keyed.2, ?_, ?_⟩
  · intro j request available required prepared
    by_cases own : j = i
    · subst own
      rw [logs, Function.update_self] at prepared
      rcases Ledger.after_prepared permitted prepared with ⟨earlier, keeps⟩ | ⟨rfl, returned⟩
      · exact kept_own store keeps (tenancy.prepared j request _ _ earlier)
      · rcases store with done | ⟨failed, -⟩
        · exact execute_claims done rfl
        · cases returned.symm.trans failed
    · rw [logs, Function.update_of_ne own] at prepared
      exact (kept_other distinct own permitted store).2 (tenancy.prepared j request _ _ prepared)
  · intro j order tolerated outstanding
    by_cases own : j = i
    · subst own
      rw [logs, Function.update_self] at tolerated outstanding
      obtain ⟨admitted, tolerated⟩ := Bool.and_eq_true_iff.1 tolerated
      rcases Ledger.after_outstanding outstanding with earlier | ⟨request, reply, same, origin⟩
      · have retaining := guarded_retaining guarded tolerated (earlier ▸ Option.some_ne_none _)
        exact kept_own store (retaining.not_released permitted)
          (tenancy.outstanding j order tolerated earlier)
      · cases same
        obtain ⟨-, -, prepares⟩ := permitted
        obtain ⟨available, required, prepared, -⟩ := prepares (coordinated j)
        have sent : order.request = request := Outstanding.ofAnswer_request origin
        rw [sent]
        exact kept_own store rfl (tenancy.prepared j request _ _ prepared)
    · rw [logs, Function.update_of_ne own] at tolerated outstanding
      exact (kept_other distinct own permitted store).2
        (tenancy.outstanding j order tolerated outstanding)

/-- In every run the tables have one claim for a symbol of an account, and the claims of the
requests that are prepared and of the orders that are outstanding. -/
theorem Reachable.tenancy (coordinated : ∀ i, (configs i).coordinated = true)
    (distinct : Distinct configs)
    {config : Config Command Result SessionState Exc Operation (Option ExecutionSnapshot) ι (Shared ι)}
    (reachable : Reachable configs config) : Tenancy configs config.world := by
  apply Family.Reachable.always views (fun i => session_follows (configs i))
    (fun world first => first.2) _ _ _ reachable
  · intro world first
    obtain ⟨empty, unlogged⟩ := first
    refine ⟨?_, ?_, ?_, ?_⟩
    · rw [empty]
      exact .nil
    · rw [empty]
      exact .nil
    · intro i request available required prepared
      rw [unlogged i] at prepared
      cases prepared
    · intro i order tolerated outstanding
      rw [unlogged i] at outstanding
      cases outstanding
  · intro i world command answer after guarded tenancy permitted law
    exact tenancy.call coordinated distinct i (guarded i) permitted law
  · intro world after tenancy same
    rw [same]
    exact tenancy

def transact (db : CoordinationStore) (failure : Except Exc Unit) (call : CoordinatorCall) :
    Except Exc Unit × CoordinationStore :=
  match failure, call.execute db with
  | .ok (), .ok after => (.ok (), after)
  | .ok (), .error exc => (.error exc, db)
  | .error _, _ => (.error ⟨.coordinationError, "coordination transaction failed"⟩, db)

/-- A coordinator that works or fails as the replies say, beside everything else they say. -/
def coordinate (db : CoordinationStore) (replies : Replies) (trace : Trace) :
    (command : Command) → Except Exc (Result command) × CoordinationStore
  | .prepare accountKey executionId request brokerAvailableCash requiredCash =>
      transact db replies.coordinator
        (.prepare accountKey executionId request brokerAvailableCash requiredCash)
  | .restore accountKey executionId request requiredCash finality =>
      transact db replies.coordinator (.restore accountKey executionId request requiredCash finality)
  | .updateFinality accountKey executionId request finality =>
      transact db replies.coordinator (.updateFinality accountKey executionId request finality)
  | .hasClaim accountKey executionId request =>
      (if replies.coordinator.isOk then db.hasClaim accountKey executionId request
        else .error ⟨.coordinationError, "coordination ownership query failed"⟩, db)
  | command => (replies.answer trace command, db)

theorem transact_answers (db : CoordinationStore) (failure : Except Exc Unit)
    (call : CoordinatorCall) : call.execute db = .ok (transact db failure call).2 ∨
      (transact db failure call).1.isOk = false ∧ (transact db failure call).2 = db := by
  unfold transact
  split
  · rename_i done
    exact .inl done
  · exact .inr ⟨rfl, rfl⟩
  · exact .inr ⟨rfl, rfl⟩

theorem coordinate_answers (db : CoordinationStore) (replies : Replies) (trace : Trace)
    (command : Command) : trace.FileLaw command (coordinate db replies trace command).1 ∧
      db.Answers command (coordinate db replies trace command).1
        (coordinate db replies trace command).2 := by
  have other (unnamed : command.transaction = none)
      (unclaimed : ∀ accountKey executionId request,
        command ≠ .hasClaim accountKey executionId request)
      (same : coordinate db replies trace command = (replies.answer trace command, db)) :
      trace.FileLaw command (coordinate db replies trace command).1 ∧
        db.Answers command (coordinate db replies trace command).1
          (coordinate db replies trace command).2 := by
    rw [same]
    refine ⟨replies.fileLaw trace command, ?_⟩
    unfold CoordinationStore.Answers
    rw [unnamed]
    refine ⟨rfl, ?_⟩
    intro accountKey executionId request reply known
    exact absurd (congrArg Event.command known) (unclaimed accountKey executionId request)
  cases command with
  | prepare accountKey executionId request brokerAvailableCash requiredCash =>
      exact ⟨trivial, transact_answers db replies.coordinator _⟩
  | restore accountKey executionId request requiredCash finality =>
      exact ⟨trivial, transact_answers db replies.coordinator _⟩
  | updateFinality accountKey executionId request finality =>
      exact ⟨trivial, transact_answers db replies.coordinator _⟩
  | hasClaim accountKey executionId request =>
      refine ⟨trivial, rfl, ?_⟩
      intro accountKey' executionId' request' reply known
      cases known
      unfold coordinate
      split_ifs
      · exact .inl rfl
      · exact .inr ⟨_, rfl, rfl⟩
  | _ => exact other rfl (by intro _ _ _ same; cases same) rfl

def respond (i : ι) (replies : Replies) : Responder Command Result Exc (Shared ι) :=
  fun world command =>
    let reply := coordinate world.store replies (world.logs i) command
    (reply.1, ⟨reply.2, Function.update world.logs i (⟨command, reply.1⟩ :: world.logs i)⟩)

theorem responds (i : ι) : Responds (respond i) (Shared.answers i) := by
  intro replies world command
  obtain ⟨file, store⟩ := coordinate_answers world.store replies (world.logs i) command
  exact ⟨file, store, rfl⟩

def script (configs : ι → SessionConfig) (deeds : List (ι × SessionDeed)) :
    Config Command Result SessionState Exc Operation (Option ExecutionSnapshot) ι (Shared ι) :=
  Family.script (fun i => sessionClass (configs i)) respond ⟨{}, fun _ => []⟩ deeds

theorem script_reachable (configs : ι → SessionConfig) (deeds : List (ι × SessionDeed)) :
    Reachable configs (script configs deeds) :=
  Family.script_reachable ⟨rfl, fun _ => rfl⟩ responds deeds

end Shared

end QmtExecution
