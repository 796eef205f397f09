import QmtExecution.Outcomes
import QmtExecution.Protocol.Environment

/-! The recovery of an UNKNOWN session without an order id binds the journal to the only
order with the intent's remark, symbol, side and quantity; it does so before it has looked at
the order's strategy. -/

namespace QmtExecution

open Interaction Method

def Holding (fact : JournalData → Prop) (object : SessionState) : Prop :=
  ∃ payload, object.payload = some payload ∧ fact payload.data

def Command.Writes (fact : JournalData → Prop) (command : Command) : Prop :=
  ∀ writer payload, command = .journalWrite writer payload → fact payload.data

/-- The method writes such data only and leaves such data, whether it returns or raises. -/
abbrev Confined {α : Type} (oracle : (command : Command) → Except Exc (Result command))
    (fact : JournalData → Prop) (method : SessionM α) (object : SessionState) : Prop :=
  Against oracle (Command.Writes fact) method object (fun _ after _ => Holding fact after)
    (fun _ after _ => Holding fact after)

section Confined

variable {α β : Type} {oracle : (command : Command) → Except Exc (Result command)}
  {fact : JournalData → Prop} {object : SessionState} {payload : Payload} {order : BrokerOrder}

theorem Command.writes_payload {writer : JournalWriter} (holds : fact payload.data) :
    Command.Writes fact (.journalWrite writer payload) := by
  intro writer' payload' same
  cases same
  exact holds

theorem Command.writes_none {command : Command} (quiet : command.isQuiet = true) :
    Command.Writes fact command := by
  rintro writer payload rfl
  cases quiet

theorem confined_bind {method : SessionM β} {next : β → SessionM α}
    (first : Confined oracle fact method object)
    (rest : ∀ value after, Holding fact after → Confined oracle fact (next value) after) :
    Confined oracle fact (method >>= next) object :=
  (meets_bind _ _).2 (Meets.weaken first (fun value after _ holding => rest value after holding)
    fun _ _ _ holding => holding)

theorem confined_transition {event : TradeEvent} {details : Details}
    {session : Option SessionEvidence} {precheck : Option PrecheckEvidence}
    (holding : Holding fact object) :
    Confined oracle fact (ExecutionSession.transition event details session precheck) object := by
  have kept := holding
  obtain ⟨payload, held, holds⟩ := holding
  simp only [ExecutionSession.transition, Confined, Against, meets_bind, meets_read, meets_update]
  refine against_ofExcept (fun snapshot _ => ?_) fun exc _ => kept
  simp only [ExecutionJournal.transition, meets_bind]
  refine against_journal_requireOpen held ?_
  refine against_write (Command.writes_payload holds) ?_ fun _ => ?_
  · exact ⟨_, rfl, holds⟩
  · exact ⟨_, rfl, holds⟩

theorem confined_snapshot {reason : String} (holding : Holding fact object) :
    Confined oracle fact (ExecutionSession.snapshot reason) object := by
  simpa [Confined, Against, ExecutionSession.snapshot] using holding

theorem confined_then_snapshot {method : SessionM Unit} {reason : String}
    (first : Confined oracle fact method object) :
    Confined oracle fact (do method; ExecutionSession.snapshot reason) object :=
  confined_bind first fun _ _ holding => confined_snapshot holding

theorem confined_toUnknown {reason : String} (holding : Holding fact object) :
    Confined oracle fact (ExecutionSession.toUnknown reason) object := by
  simp only [ExecutionSession.toUnknown, Confined, Against, meets_bind, meets_read, meets_ite]
  exact ⟨fun _ => confined_transition holding, fun _ => ⟨fun _ => confined_transition holding,
    fun _ => confined_transition holding⟩⟩

theorem confined_applyObservation (holding : Holding fact object)
    (observes : ∀ data observation, fact data →
      fact { data with lastObservation := some observation }) :
    Confined oracle fact (ExecutionSession.applyObservation order) object := by
  have kept := holding
  obtain ⟨payload, held, holds⟩ := holding
  unfold ExecutionSession.applyObservation
  refine (meets_bind _ _).2 (against_journal_requireOpen held ?_)
  refine (meets_bind _ _).2 (against_ofExcept (fun _ _ => ?_) fun _ _ => kept)
  refine (meets_ite _ _ _).2 ⟨fun _ => ?_, fun _ => ?_⟩
  · exact confined_then_snapshot (confined_transition kept)
  · refine confined_bind ?_ fun _ after holding => ?_
    · refine (meets_bind _ _).2 (against_journal_requireOpen held ?_)
      have observed := observes payload.data
        ⟨order.status, order.filledQty, order.averageFillPrice⟩ holds
      refine against_writeData held (Command.writes_payload observed) ?_ fun _ => ?_
      · exact ⟨_, rfl, observed⟩
      · exact ⟨_, rfl, observed⟩
    · simp only [Confined, Against, meets_bind, meets_read]
      split
      · exact confined_then_snapshot (confined_toUnknown holding)
      · exact confined_then_snapshot (confined_transition holding)
      · exact confined_snapshot holding

end Confined

/-- The only order that `query_orders` lists with the identity of the durable intent. -/
def Identified (oracle : (command : Command) → Except Exc (Result command)) (data : JournalData)
    (order : BrokerOrder) : Prop :=
  ∃ intent orders, data.intent = some intent ∧ oracle .queryOrders = .ok orders ∧
    (orders.filter fun listed => listed.orderRemark = intent.orderRemark &&
      listed.symbol = intent.symbol && listed.side = intent.side && listed.qty = intent.qty) =
        [order]

/-- The recovery makes the id of an order durable only if the order is identified and passes
every check of its identity; otherwise it keeps the order id and the last observation. -/
structure RecoversVerified (oracle : (command : Command) → Except Exc (Result command))
    (object : SessionState) (payload : Payload) : Prop where
  bound : ∀ writer written orderId,
    .journalWrite writer written ∈ ExecutionSession.recoverUnknown.issued oracle object →
    written.data.brokerOrderId = some orderId →
    ∃ order, Identified oracle payload.data order ∧
      ExecutionSession.validateIdentity payload.data order = .ok () ∧ order.orderId = orderId
  kept : (¬ ∃ order, Identified oracle payload.data order ∧
      ExecutionSession.validateIdentity payload.data order = .ok ()) →
    (∀ writer written,
      .journalWrite writer written ∈ ExecutionSession.recoverUnknown.issued oracle object →
      written.data.brokerOrderId = payload.data.brokerOrderId ∧
        written.data.lastObservation = payload.data.lastObservation) ∧
    ∃ held, (ExecutionSession.recoverUnknown.outcome oracle object).2.payload = some held ∧
      held.data.brokerOrderId = payload.data.brokerOrderId ∧
        held.data.lastObservation = payload.data.lastObservation

section Recovery

variable {oracle : (command : Command) → Except Exc (Result command)} {object : SessionState}
  {payload : Payload} {order : BrokerOrder}

theorem find_unique_iff {orders : List BrokerOrder} {intent : Intent} :
    findUniqueManagedOrder orders intent.symbol intent.side intent.qty intent.orderRemark =
        .ok order ↔
      (orders.filter fun listed => listed.orderRemark = intent.orderRemark &&
        listed.symbol = intent.symbol && listed.side = intent.side && listed.qty = intent.qty) =
          [order] := by
  unfold findUniqueManagedOrder
  dsimp only
  split
  · rename_i only single
    rw [single]
    simp
  · rename_i several
    constructor
    · rintro ⟨⟩
    · intro single
      exact absurd single (several order)

theorem confined_recoverUnknown {fact : JournalData → Prop} (held : object.payload = some payload)
    (recovers : Against oracle (Command.Writes fact) (ExecutionSession.recoverOrder payload.data)
      object (fun order after _ => Confined oracle fact (ExecutionSession.applyObservation order) after)
      (fun _ after _ => Holding fact after)) :
    Confined oracle fact ExecutionSession.recoverUnknown object := by
  unfold ExecutionSession.recoverUnknown
  refine (meets_bind _ _).2 (against_journal_requireOpen held ?_)
  refine (meets_bind _ _).2 ((meets_attempt _).2 ?_)
  refine Meets.weaken recovers (fun order after _ applies => applies) fun exc after _ holding => ?_
  refine (meets_ite _ _ _).2 ⟨fun _ => ?_, fun _ => holding⟩
  exact confined_then_snapshot (confined_transition holding)

theorem confined_recover_unidentified (held : object.payload = some payload)
    (unplaced : payload.data.brokerOrderId = none)
    (none : ∀ order, ¬ Identified oracle payload.data order) :
    Confined oracle (· = payload.data) ExecutionSession.recoverUnknown object := by
  have holding : Holding (· = payload.data) object := ⟨payload, held, rfl⟩
  refine confined_recoverUnknown held ?_
  unfold ExecutionSession.recoverOrder ExecutionSession.recoverOrder.recoverByRemark
  simp only [unplaced]
  cases intended : payload.data.intent with
  | none => exact holding
  | some intent =>
      refine (meets_bind _ _).2 (against_ask (Command.writes_none rfl) (fun orders listed => ?_)
        fun exc _ => holding)
      refine (meets_bind _ _).2 (against_ofExcept (fun order found => ?_) fun exc _ => holding)
      exact absurd ⟨intent, orders, intended, listed, find_unique_iff.1 found⟩ (none order)

theorem confined_recover_identified (held : object.payload = some payload)
    (unplaced : payload.data.brokerOrderId = none) (identified : Identified oracle payload.data order) :
    Confined oracle (fun data => data.brokerOrderId = some order.orderId)
      ExecutionSession.recoverUnknown object := by
  obtain ⟨intent, orders, intended, listed, found⟩ := identified
  refine confined_recoverUnknown held ?_
  unfold ExecutionSession.recoverOrder ExecutionSession.recoverOrder.recoverByRemark
  simp only [unplaced, intended]
  refine (meets_bind _ _).2 (against_ask (Command.writes_none rfl) ?_ fun exc raised => ?_)
  · intro orders' same
    cases listed.symm.trans same
    rw [find_unique_iff.2 found]
    refine (meets_bind _ _).2 ((meets_ofExcept_ok _).2 ((meets_bind _ _).2 ?_))
    unfold ExecutionJournal.persistBrokerOrderId
    rw [if_neg (not_le.2 order.orderId_pos)]
    refine (meets_bind _ _).2 (against_journal_requireOpen held ?_)
    rw [if_neg (by simp [unplaced])]
    refine against_writeData held (Command.writes_payload rfl) ?_ fun exc => ?_
    · exact confined_applyObservation ⟨_, rfl, rfl⟩ fun _ _ stored => stored
    · exact ⟨_, rfl, rfl⟩
  · cases listed.symm.trans raised

theorem Confined.holding {α : Type} {fact : JournalData → Prop} {method : SessionM α}
    (confined : Confined oracle fact method object) :
    (∀ writer written, .journalWrite writer written ∈ method.issued oracle object →
      fact written.data) ∧ Holding fact (method.outcome oracle object).2 := by
  obtain ⟨issued, post⟩ := meets_oracle confined
  refine ⟨fun writer written member => issued _ member writer written rfl, ?_⟩
  rcases same : method.outcome oracle object with ⟨_ | _, after⟩
  all_goals
    rw [same] at post
    exact post

theorem identified_unique {data : JournalData} {other : BrokerOrder}
    (first : Identified oracle data order) (second : Identified oracle data other) :
    order = other := by
  obtain ⟨intent, orders, intended, listed, single⟩ := first
  obtain ⟨intent', orders', intended', listed', single'⟩ := second
  cases intended.symm.trans intended'
  cases listed.symm.trans listed'
  exact List.head_eq_of_cons_eq (single.symm.trans single')

theorem identified_valid_iff {data : JournalData} {intent : Intent} (held : data.intent = some intent)
    (unplaced : data.brokerOrderId = none) (identified : Identified oracle data order) :
    ExecutionSession.validateIdentity data order = .ok () ↔
      order.strategyName = "" ∨ order.strategyName = intent.strategyId := by
  obtain ⟨intent', orders, intended, -, single⟩ := identified
  cases held.symm.trans intended
  have member : order ∈ orders.filter _ := single ▸ List.mem_singleton_self order
  simp only [List.mem_filter, Bool.and_eq_true, decide_eq_true_eq] at member
  obtain ⟨-, ⟨⟨remark, symbol⟩, side⟩, qty⟩ := member
  rw [ExecutionSession.validate_identity_ok]
  constructor
  · rintro ⟨other, same, -, -, -, -, -, strategy⟩
    cases held.symm.trans same
    exact strategy
  · exact fun strategy => ⟨intent, held, .inl unplaced, symbol, side, qty, .inr remark, strategy⟩

/-- An identified order of another strategy is bound all the same. -/
theorem not_recovers_verified (held : object.payload = some payload)
    (unplaced : payload.data.brokerOrderId = none) {intent : Intent}
    (intended : payload.data.intent = some intent) (identified : Identified oracle payload.data order)
    (foreign : ¬ (order.strategyName = "" ∨ order.strategyName = intent.strategyId)) :
    ¬ RecoversVerified oracle object payload := by
  intro recovers
  have unverified : ¬ ∃ other, Identified oracle payload.data other ∧
      ExecutionSession.validateIdentity payload.data other = .ok () := by
    rintro ⟨other, found, valid⟩
    obtain rfl := identified_unique identified found
    exact foreign ((identified_valid_iff intended unplaced identified).1 valid)
  obtain ⟨-, left, kept, stored, -⟩ := recovers.kept unverified
  obtain ⟨bound, after, stored'⟩ := (confined_recover_identified held unplaced identified).holding.2
  cases kept.symm.trans after
  rw [unplaced] at stored
  cases stored.symm.trans stored'

end Recovery

/-- An UNKNOWN session without an order id recovers a verified order or none exactly when
the identified order, if there is one, names no strategy or that of the intent. -/
theorem recovers_verified_iff {oracle : (command : Command) → Except Exc (Result command)}
    {object : SessionState} {payload : Payload} (held : object.payload = some payload)
    (unplaced : payload.data.brokerOrderId = none) :
    RecoversVerified oracle object payload ↔ ∀ order intent, Identified oracle payload.data order →
      payload.data.intent = some intent →
        order.strategyName = "" ∨ order.strategyName = intent.strategyId := by
  constructor
  · intro recovers order intent identified intended
    by_contra foreign
    exact not_recovers_verified held unplaced intended identified foreign recovers
  · intro strategies
    by_cases found : ∃ order, Identified oracle payload.data order
    · obtain ⟨order, identified⟩ := found
      obtain ⟨intent, -, intended, -⟩ := id identified
      have valid := (identified_valid_iff intended unplaced identified).2
        (strategies order intent identified intended)
      constructor
      · intro writer written orderId member stored
        have bound := (confined_recover_identified held unplaced identified).holding.1 _ _ member
        exact ⟨order, identified, valid, Option.some.inj (bound.symm.trans stored)⟩
      · exact fun unverified => absurd ⟨order, identified, valid⟩ unverified
    · have none : ∀ order, ¬ Identified oracle payload.data order := not_exists.1 found
      obtain ⟨issued, left, after, same⟩ :=
        (confined_recover_unidentified held unplaced none).holding
      constructor
      · intro writer written orderId member stored
        have kept : written.data = payload.data := issued writer written member
        rw [kept, unplaced] at stored
        cases stored
      · intro _
        refine ⟨fun writer written member => ?_, left, after, ?_⟩
        · have kept : written.data = payload.data := issued writer written member
          exact ⟨by rw [kept], by rw [kept]⟩
        · exact ⟨by rw [same], by rw [same]⟩

def ambiguousRun : List SessionDeed :=
  [.start] ++ call .openSession ++
    call (.submit sampleRequest) { place := .error ⟨.brokerSubmissionAmbiguous, "timeout"⟩ }

theorem ambiguous_run_open : ∃ object payload,
    (sessionRun plainConfig ambiguousRun).1 = .idle object ∧ object.snapshot.state = .unknown ∧
      object.payload = some payload ∧ payload.data.brokerOrderId = none ∧
      payload.data.intent = some (.ofRequest sampleRequest) := by
  have found : ((sessionRun plainConfig ambiguousRun).1.memory.bind fun object =>
      object.payload.map fun payload => (object.snapshot.state, payload.data.brokerOrderId,
        payload.data.intent)) = some (.unknown, none, some (.ofRequest sampleRequest)) := by
    decide +kernel
  obtain ⟨object, memory, found⟩ := Option.bind_eq_some_iff.1 found
  obtain ⟨payload, held, facts⟩ := Option.map_eq_some_iff.1 found
  simp only [Prod.mk.injEq] at facts
  exact ⟨object, payload, Phase.memory_eq memory, facts.1, held, facts.2⟩

def listing (strategyName : String) : Replies :=
  { orders := .ok [{ sampleOrder .working 0 with strategyName }] }

theorem listing_identified {data : JournalData} (strategyName : String)
    (intended : data.intent = some (.ofRequest sampleRequest)) :
    Identified ((listing strategyName).answer []) data
      { sampleOrder .working 0 with strategyName } :=
  ⟨_, _, intended, rfl, rfl⟩

/-- The order of another strategy with the intent's remark, symbol, side and quantity. -/
theorem recovery_binds_foreign : ∃ object payload,
    (sessionRun plainConfig ambiguousRun).1 = .idle object ∧ object.snapshot.state = .unknown ∧
      object.payload = some payload ∧ payload.data.brokerOrderId = none ∧
      ¬ RecoversVerified ((listing "other").answer []) object payload := by
  obtain ⟨object, payload, reached, state, held, unplaced, intended⟩ := ambiguous_run_open
  refine ⟨object, payload, reached, state, held, unplaced, ?_⟩
  exact not_recovers_verified held unplaced intended (listing_identified "other" intended)
    (by decide)

theorem recovers_verified_own : ∃ object payload,
    (sessionRun plainConfig ambiguousRun).1 = .idle object ∧ object.payload = some payload ∧
      payload.data.brokerOrderId = none ∧
      RecoversVerified ((listing "s").answer []) object payload := by
  obtain ⟨object, payload, reached, state, held, unplaced, intended⟩ := ambiguous_run_open
  refine ⟨object, payload, reached, held, unplaced, (recovers_verified_iff held unplaced).2 ?_⟩
  intro order intent identified intended'
  cases intended.symm.trans intended'
  rw [identified_unique identified (listing_identified "s" intended)]
  exact .inr rfl

end QmtExecution
