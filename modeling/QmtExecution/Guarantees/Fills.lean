import QmtExecution.Guarantees.Finality
import QmtExecution.Guarantees.Observation
import QmtExecution.Guarantees.Legality
import QmtExecution.MiniQmt.Normalization

/-! What the journal records of the fill of an order, over orders that the adapter has normalized:
within a cycle it only grows, and an order that reports less neither replaces it nor resolves the
execution. -/

namespace QmtExecution

open Interaction

structure BrokerOrder.Tallied (order : BrokerOrder) : Prop where
  filled : order.status = .filled → order.filledQty = order.qty
  partially : order.status = .partiallyFilled → 0 < order.filledQty ∧ order.filledQty < order.qty

theorem MiniQmt.Consistent.tallied {raw : MiniQmt.RawOrder} {order : BrokerOrder}
    (consistent : MiniQmt.Consistent raw order) : order.Tallied := by
  obtain ⟨rawStatus, -, ⟨-, fits⟩ | ⟨unknown, -⟩⟩ := consistent.adopted
  · constructor
    · intro status
      rw [status] at fits
      exact fits
    · intro status
      rw [status] at fits
      exact fits
  · constructor
    · intro status
      cases unknown.symm.trans status
    · intro status
      cases unknown.symm.trans status

namespace MiniQmt

variable {config : QmtOrderConfig}

theorem queryOrder_tallied {orderId : ℤ} {attempts : List (Except Exc (Option RawOrder))}
    {order : BrokerOrder} (returned : queryOrder config orderId attempts = .ok order) :
    order.Tallied := by
  unfold queryOrder at returned
  split_ifs at returned
  obtain ⟨raw, -, normalized⟩ := except_bind returned
  exact (toBrokerOrder_consistent normalized).tallied

theorem queryOrders_tallied {attempts : List (Except Exc (Option RawOrders))}
    {orders : List BrokerOrder} (returned : queryOrders config attempts = .ok orders) :
    ∀ order ∈ orders, order.Tallied := by
  obtain ⟨reply, -, converted⟩ := except_bind returned
  cases reply with
  | unexpected => cases converted
  | sequence items =>
      have consistent := mapM_forall (fun raw order => toBrokerOrder_consistent) converted
      clear converted returned
      induction consistent with
      | nil =>
          intro order listed
          cases listed
      | cons known _ ih => exact List.forall_mem_cons.2 ⟨known.tallied, ih⟩

end MiniQmt

/-- The answer of a query is what the adapter makes of what the trader has answered. -/
def Event.Adapted (config : MiniQmt.QmtOrderConfig) (event : Event) : Prop :=
  (∀ orderId answer, event = ⟨.queryOrder orderId, answer⟩ →
    ∃ attempts, answer = MiniQmt.queryOrder config orderId attempts) ∧
  ∀ answer, event = ⟨.queryOrders, answer⟩ → ∃ attempts, answer = MiniQmt.queryOrders config attempts

theorem Event.Adapted.tallied {config : MiniQmt.QmtOrderConfig} {event : Event}
    (adapted : event.Adapted config) {order : BrokerOrder} (reports : event.Reports order) :
    order.Tallied := by
  rcases reports with ⟨orderId, rfl⟩ | ⟨orders, rfl, listed⟩
  · obtain ⟨attempts, same⟩ := adapted.1 orderId (.ok order) rfl
    exact MiniQmt.queryOrder_tallied same.symm
  · obtain ⟨attempts, same⟩ := adapted.2 (.ok orders) rfl
    exact MiniQmt.queryOrders_tallied same.symm order listed

def Payload.filled (payload : Payload) : Option ℤ := payload.data.lastObservation.map (·.filledQty)

/-- A fill that is recorded stays recorded and does not shrink. -/
def Advances (before after : Option ℤ) : Prop :=
  ∀ filledQty, before = some filledQty → ∃ later, after = some later ∧ filledQty ≤ later

theorem Advances.refl (filled : Option ℤ) : Advances filled filled :=
  fun filledQty same => ⟨filledQty, same, le_rfl⟩

theorem Advances.trans {first second third : Option ℤ} (advances : Advances first second)
    (onward : Advances second third) : Advances first third := by
  intro filledQty same
  obtain ⟨middle, same, below⟩ := advances filledQty same
  obtain ⟨later, same, below'⟩ := onward middle same
  exact ⟨later, same, below.trans below'⟩

/-- What the payload records of the fill is of its own order, within the intent, and all of it in
FILLED. -/
structure Payload.Accounted (payload : Payload) : Prop where
  identified : payload.data.lastObservation.isSome = true → payload.data.brokerOrderId.isSome = true
  within : ∀ observation, payload.data.lastObservation = some observation → ∃ intent,
    payload.data.intent = some intent ∧ 0 ≤ observation.filledQty ∧ observation.filledQty ≤ intent.qty
  full : payload.machine.state = .filled → ∃ observation intent,
    payload.data.lastObservation = some observation ∧ payload.data.intent = some intent ∧
      observation.filledQty = intent.qty

theorem Payload.Accounted.create (executionId : String) : (Payload.create executionId).Accounted := by
  constructor
  · intro observed
    cases observed
  · intro observation observed
    cases observed
  · intro state
    cases state

section Changes

variable {config : SessionConfig} {ledger : Ledger} {before payload : Payload} {writer : JournalWriter}

theorem Ledger.Observed.recorded {event : TradeEvent} {queried : Payload} {order : BrokerOrder}
    (observed : ledger.Observed before event queried order) : ∃ intent,
      before.data.intent = some intent ∧ order.qty = intent.qty ∧
      before.data.lastObservation = some ⟨order.status, order.filledQty, order.averageFillPrice⟩ := by
  obtain ⟨intent, held, -, -, -, qty, -⟩ := ExecutionSession.validate_identity_ok.1 observed.identity
  exact ⟨intent, observed.intent.trans held, qty, observed.observation⟩

theorem partial_status {state : TradeState} {status : BrokerOrderStatus} {event : TradeEvent}
    (known : eventForObservation state status = .ok (some event))
    (edge : transitions state event = some .partiallyFilled) : status = .partiallyFilled := by
  unfold eventForObservation at known
  cases status <;> simp only [reduceCtorEq, if_false, if_true] at known
  all_goals
    try split_ifs at known
    all_goals
      cases known <;> cases state <;> cases edge <;> rfl

theorem entry_partial (warrants : ledger.Warrants before event)
    (edge : transitions before.machine.state event = some .partiallyFilled) :
    ∃ queried order, ledger.Observed before event queried order := by
  revert edge
  cases before.machine.state <;> cases event <;> rintro ⟨⟩ <;> exact warrants

theorem Payload.Accounted.record {event : TradeEvent} {snapshot : MachineSnapshot}
    {session : Option SessionEvidence} {precheck : Option PrecheckEvidence} {details : Details}
    (accounted : before.Accounted)
    (tallied : ∀ queried order, ledger.asked = some (queried, .ok order) → order.Tallied)
    (warrants : ledger.Warrants before event)
    (step : advance before.machine event session precheck = .ok snapshot) :
    (before.record event snapshot details).Accounted := by
  refine ⟨accounted.identified, accounted.within, ?_⟩
  intro state
  have edge : transitions before.machine.state event = some .filled :=
    (advance_ok step).1.trans (congrArg some state)
  obtain ⟨queried, order, observed⟩ := entry_observed warrants edge (by decide)
  obtain ⟨intent, held, qty, recorded⟩ := observed.recorded
  have status : order.status = .filled := by
    have among := confirming_status observed.event edge (by decide)
    exact List.mem_singleton.1 among
  refine ⟨_, intent, recorded, held, ?_⟩
  exact ((tallied queried order observed.asked).filled status).trans qty

theorem Payload.Accounted.changes {executionId : String} (accounted : before.Accounted)
    (consistent : before.Consistent executionId)
    (tallied : ∀ queried order, ledger.asked = some (queried, .ok order) → order.Tallied)
    (changes : ledger.Changes before writer payload) : payload.Accounted := by
  -- without an intent nothing has been observed
  have unobserved : before.data.intent = none → before.data.lastObservation = none := by
    intro missing
    exact (congrArg JournalData.lastObservation (consistent.clean missing) :)
  cases writer with
  | create => exact changes.elim
  | bindVerification =>
      obtain ⟨-, -, verification, rfl⟩ := changes
      exact ⟨accounted.identified, accounted.within, accounted.full⟩
  | transition event =>
      obtain ⟨warrants, session, precheck, snapshot, details, step, rfl⟩ := changes
      exact accounted.record tallied warrants step
  | persistIntent request =>
      obtain ⟨-, state, missing, -, rfl⟩ := changes
      have none : (before.data.withIntent request).lastObservation = none := unobserved missing
      constructor
      · intro observed
        rw [none] at observed
        cases observed
      · intro observation observed
        cases none.symm.trans observed
      · intro filled
        cases state.symm.trans filled
  | persistBrokerOrderId orderId =>
      obtain ⟨-, -, -, rfl, -⟩ := changes
      exact ⟨fun _ => rfl, accounted.within, accounted.full⟩
  | persistCancelIntent =>
      obtain ⟨-, rfl⟩ := changes
      exact ⟨accounted.identified, accounted.within, accounted.full⟩
  | updateObservation order =>
      obtain ⟨queried, asked, -, -, -, valid, stored, forwards, rfl⟩ := changes
      obtain ⟨intent, held, -, -, -, qty, -⟩ := ExecutionSession.validate_identity_ok.1 valid
      have below : order.filledQty ≤ intent.qty := qty ▸ order.filledQty_le
      constructor
      · intro _
        exact Option.isSome_of_eq_some stored
      · intro observation observed
        cases observed
        exact ⟨intent, held, order.filledQty_nonneg, below⟩
      · intro state
        obtain ⟨observation, intent', observed, held', full⟩ := accounted.full state
        cases held.symm.trans held'
        refine ⟨_, intent, rfl, held, ?_⟩
        have above : observation.filledQty ≤ order.filledQty := by
          simpa [ExecutionSession.movedBackwards, observed] using forwards
        exact le_antisymm below (full ▸ above)
  | clearCycleData =>
      obtain ⟨state, rfl⟩ := changes
      constructor
      · intro observed
        cases observed
      · intro observation observed
        cases observed
      · intro filled
        cases state.symm.trans filled

theorem changes_advances {intent : Intent} (changes : ledger.Changes before writer payload)
    (held : payload.data.intent = some intent) (other : ∀ request, writer ≠ .persistIntent request) :
    before.data.intent = some intent ∧ Advances before.filled payload.filled := by
  cases writer with
  | create => exact changes.elim
  | bindVerification =>
      obtain ⟨-, -, verification, rfl⟩ := changes
      exact ⟨held, .refl _⟩
  | transition event =>
      obtain ⟨-, session, precheck, snapshot, details, -, rfl⟩ := changes
      exact ⟨held, .refl _⟩
  | persistIntent request => exact absurd rfl (other request)
  | persistBrokerOrderId orderId =>
      obtain ⟨-, -, -, rfl, -⟩ := changes
      exact ⟨held, .refl _⟩
  | persistCancelIntent =>
      obtain ⟨-, rfl⟩ := changes
      exact ⟨held, .refl _⟩
  | updateObservation order =>
      obtain ⟨queried, -, -, -, -, -, -, forwards, rfl⟩ := changes
      refine ⟨held, ?_⟩
      intro filledQty recorded
      obtain ⟨observation, observed, rfl⟩ := Option.map_eq_some_iff.1 recorded
      refine ⟨order.filledQty, rfl, ?_⟩
      simpa [ExecutionSession.movedBackwards, observed] using forwards
  | clearCycleData =>
      obtain ⟨-, rfl⟩ := changes
      cases held

end Changes

section Guarded

variable {config : SessionConfig} {trace : Trace}

theorem asked_tallied (guarded : Trace.Guarded config trace)
    (every : ∀ event ∈ trace, ∀ order, event.Reports order → order.Tallied) {queried : Payload}
    {order : BrokerOrder} (asked : (Ledger.ofTrace trace).asked = some (queried, .ok order)) :
    order.Tallied := by
  obtain ⟨newer, event, older, rfl, reports, -⟩ := asked_reports guarded asked
  exact every event (List.mem_append_right _ List.mem_cons_self) order reports

theorem guarded_accounted (guarded : Trace.Guarded config trace)
    (every : ∀ event ∈ trace, ∀ order, event.Reports order → order.Tallied) {payload : Payload}
    (held : (Ledger.ofTrace trace).memory = some payload ∨ (Ledger.ofTrace trace).disk = some payload) :
    payload.Accounted := by
  induction guarded generalizing payload with
  | initial trace first =>
      subst first
      rcases held with held | held <;> cases held
  | call before after command answer guarded permitted law ih =>
      obtain ⟨law, rfl⟩ := law
      have earlier := (List.forall_mem_cons.1 every).2
      rcases Ledger.after_payload law held with held | held | ⟨writer, rfl⟩
      · exact ih earlier (.inl held)
      · exact ih earlier (.inr held)
      · cases writer with
        | create => exact permitted.2 ▸ .create _
        | _ =>
            obtain ⟨previous, memory, changes⟩ := permitted
            exact (ih earlier (.inl memory)).changes (Trace.Guarded.consistent guarded (.inl memory))
              (fun queried order asked => asked_tallied guarded earlier asked) changes

/-- Where memory and file both carry an intent it is one intent, and the memory of it is not
behind the file. -/
def Ledger.Ordered (ledger : Ledger) : Prop :=
  ∀ memory disk intent intent', ledger.memory = some memory → ledger.disk = some disk →
    memory.data.intent = some intent → disk.data.intent = some intent' →
    intent = intent' ∧ Advances disk.filled memory.filled

theorem ordered_same {ledger : Ledger} {payload : Payload} (memory : ledger.memory = some payload)
    (disk : ledger.disk = some payload) : ledger.Ordered := by
  intro held file intent intent' known stored one two
  cases memory.symm.trans known
  cases disk.symm.trans stored
  cases one.symm.trans two
  exact ⟨rfl, .refl _⟩

theorem written_advances {before : Payload} {writer : JournalWriter} {payload file : Payload}
    {intent intent' : Intent} (ordered : (Ledger.ofTrace trace).Ordered)
    (memory : (Ledger.ofTrace trace).memory = some before)
    (changes : (Ledger.ofTrace trace).Changes before writer payload)
    (disk : (Ledger.ofTrace trace).disk = some file) (held : payload.data.intent = some intent)
    (stored : file.data.intent = some intent') :
    intent = intent' ∧ Advances file.filled payload.filled := by
  by_cases starts : ∃ request, writer = .persistIntent request
  · obtain ⟨request, rfl⟩ := starts
    obtain ⟨same, -, missing, -⟩ := changes
    cases same.symm.trans disk
    cases missing.symm.trans stored
  · obtain ⟨kept, grown⟩ := changes_advances changes held fun request same => starts ⟨request, same⟩
    obtain ⟨same, behind⟩ := ordered before file intent intent' memory disk kept stored
    exact ⟨same, behind.trans grown⟩

theorem guarded_ordered (guarded : Trace.Guarded config trace) : (Ledger.ofTrace trace).Ordered := by
  induction guarded with
  | initial trace first =>
      subst first
      intro memory disk intent intent' held
      cases held
  | call before after command answer guarded permitted law ih =>
      obtain ⟨law, rfl⟩ := law
      by_cases quiet : command.isQuiet = true
      · obtain ⟨memory, disk, -⟩ := Ledger.after_quiet (Ledger.ofTrace before) answer quiet
        intro held file intent intent' known stored
        exact ih held file intent intent' (memory.symm.trans known) (disk.symm.trans stored)
      cases command with
      | placeOrder request => exact ih
      | journalRead =>
          cases answer with
          | error exc => exact ih
          | ok read => exact ordered_same rfl law
      | journalWrite writer payload =>
          cases answer with
          | ok value => exact ordered_same (Ledger.written_memory _ _ _ _) (Ledger.written_disk _ _ _)
          | error exc =>
              intro held file intent intent' known stored one two
              cases (Ledger.written_memory _ _ _ _).symm.trans known
              have stored := (Ledger.unwritten_disk _ _ _ _).symm.trans stored
              cases writer with
              | create =>
                  obtain ⟨missing, -⟩ := permitted
                  cases missing.symm.trans stored
              | _ =>
                  obtain ⟨previous, memory, changes⟩ := permitted
                  exact written_advances ih memory changes stored one two
      | _ => exact absurd rfl quiet

theorem durable_step {event : Event} {file later : Payload}
    (guarded : Trace.Guarded config (event :: trace))
    (disk : (Ledger.ofTrace trace).disk = some file)
    (disk' : (Ledger.ofTrace (event :: trace)).disk = some later)
    (same : later.data.intent = file.data.intent) : Advances file.filled later.filled := by
  obtain ⟨earlier, permitted, law⟩ := guarded.head
  obtain ⟨command, answer⟩ := event
  cases stored : file.data.intent with
  | none =>
      have clean := (earlier.consistent (.inr disk)).clean stored
      have unobserved : file.data.lastObservation = none :=
        (congrArg JournalData.lastObservation clean :)
      intro filledQty recorded
      unfold Payload.filled at recorded
      rw [unobserved] at recorded
      cases recorded
  | some intent =>
      have unchanged : (Ledger.ofTrace (⟨command, answer⟩ :: trace)).disk = (Ledger.ofTrace trace).disk →
          Advances file.filled later.filled := by
        intro kept
        cases disk.symm.trans (kept.symm.trans disk')
        exact .refl _
      by_cases quiet : command.isQuiet = true
      · exact unchanged (Ledger.after_quiet _ _ quiet).2.1
      cases command with
      | placeOrder request => exact unchanged rfl
      | journalRead =>
          cases answer with
          | error exc => exact unchanged rfl
          | ok read => exact unchanged rfl
      | journalWrite writer payload =>
          cases answer with
          | error exc => exact unchanged (Ledger.unwritten_disk _ _ _ _)
          | ok value =>
              cases (Ledger.written_disk _ _ _).symm.trans disk'
              cases writer with
              | create =>
                  obtain ⟨missing, -⟩ := permitted
                  cases missing.symm.trans disk
              | _ =>
                  obtain ⟨previous, memory, changes⟩ := permitted
                  exact (written_advances (guarded_ordered earlier) memory changes disk
                    (same.trans stored) stored).2
      | _ => exact absurd rfl quiet

theorem durable_advances {newer older : Trace} (guarded : Trace.Guarded config (newer ++ older))
    {file later : Payload} (disk : (Ledger.ofTrace older).disk = some file)
    (disk' : (Ledger.ofTrace (newer ++ older)).disk = some later)
    (cycle : ∀ after before, newer = after ++ before → ∃ between,
      (Ledger.ofTrace (before ++ older)).disk = some between ∧
        between.data.intent = file.data.intent) : Advances file.filled later.filled := by
  induction newer generalizing later with
  | nil =>
      cases disk.symm.trans disk'
      exact .refl _
  | cons event rest ih =>
      obtain ⟨earlier, -⟩ := Trace.Guarded.head guarded
      obtain ⟨between, held, kept⟩ := cycle [event] rest rfl
      obtain ⟨last, held', same⟩ := cycle [] (event :: rest) rfl
      cases disk'.symm.trans held'
      have first : Advances file.filled between.filled := by
        apply ih earlier held
        intro after before split
        exact cycle (event :: after) before (congrArg (event :: ·) split)
      exact first.trans (durable_step guarded held disk' (same.trans kept.symm))

end Guarded

/-- No event takes an unresolved execution out of the sent states but one that flags it, unless
the broker has certainly no order or an observation ends it. -/
theorem Payload.Unresolved.recorded {ledger : Ledger} {before : Payload} {event : TradeEvent}
    {session : Option SessionEvidence} {precheck : Option PrecheckEvidence}
    {snapshot : MachineSnapshot} {details : Details} (sound : before.machine.Sound)
    (unresolved : before.Unresolved) (warrants : ledger.Warrants before event)
    (step : advance before.machine event session precheck = .ok snapshot)
    (unsent : ∀ request, ¬ ledger.Submitting request before)
    (unrejected : before.machine.state = .submitted → ∀ request exc,
      ledger.placed = some (request, .error exc) → exc.isA .brokerSubmissionRejected = false)
    (unseen : snapshot.state ∉ sentStates → ∀ queried order,
      ¬ ledger.Observed before event queried order)
    (unqueried : before.machine.state = .submitted → ∀ queried answer,
      ledger.asked = some (queried, answer) → before.machine = queried.machine →
        Ledger.unacceptable queried answer = false) :
    (before.record event snapshot details).Unresolved := by
  obtain ⟨edge, changed, -, -⟩ := advance_ok step
  refine ⟨unresolved.1, ?_⟩
  show snapshot.state ∈ sentStates ∨ snapshot.state = .failed ∧ snapshot.facts.unresolvedOrder = true
  by_cases sent : snapshot.state ∈ sentStates
  · exact .inl sent
  have fit := sound.fit
  have flagged := unresolved.2
  obtain ⟨_, _, _, ⟨source, facts⟩, _, data⟩ := before
  obtain ⟨state', facts'⟩ := snapshot
  dsimp only at *
  cases event
  case preBrokerRejected | preBrokerAborted =>
    obtain ⟨request, submitting⟩ := warrants
    exact (unsent request submitting).elim
  case submitRejected =>
    obtain ⟨request, exc, placed, rejected⟩ := warrants
    cases source <;> cases edge
    rw [unrejected rfl request exc placed] at rejected
    cases rejected
  case fatal =>
    rcases warrants with early | ⟨queried, answer, asked, machine, bad⟩
    · revert early flagged
      cases source <;> simp [sentStates]
    · have submitting : source = .submitted → False := by
        intro state
        rw [unqueried state queried answer asked machine] at bad
        cases bad
      cases changed
      cases source <;> cases edge <;> simp_all [sentStates, SafetyFacts.Fit]
  case recoveryFailed =>
    cases changed
    cases source <;> cases edge <;> exact .inr ⟨rfl, rfl⟩
  case orderWorking | orderPartial | orderFilled | orderRejected | cancelStillPending
    | cancelConfirmed | recoveryAccepted | recoveryWorking | recoveryPartial | recoveryCancelling
    | recoveryFilled | recoveryCancelled | recoveryRejected =>
    obtain ⟨queried, order, observed⟩ := warrants
    exact (unseen sent queried order observed).elim
  all_goals
    cases source <;> cases edge <;> simp [sentStates] at sent flagged

section Rejected

variable {config : SessionConfig} {trace : Trace}

/-- A placement that has raised leaves a SUBMITTED execution without an order id. -/
structure Ledger.Unplaced (ledger : Ledger) : Prop where
  armed : ledger.armed = none
  memory : ∀ payload, ledger.memory = some payload → payload.machine.state = .submitted →
    payload.data.brokerOrderId = none

theorem Ledger.Unplaced.changes {ledger : Ledger} (unplaced : ledger.Unplaced)
    {request : ExecutionRequest} {exc : Exc} (placed : ledger.placed = some (request, .error exc))
    {before payload : Payload} {writer : JournalWriter} (memory : ledger.memory = some before)
    (changes : ledger.Changes before writer payload) (submitted : payload.machine.state = .submitted)
    (other : ∀ request, writer ≠ .persistIntent request) : payload.data.brokerOrderId = none := by
  have kept := unplaced.memory before memory
  cases writer with
  | create => exact changes.elim
  | persistIntent request => exact absurd rfl (other request)
  | transition event =>
      obtain ⟨warrants, session, precheck, snapshot, details, step, rfl⟩ := changes
      have edge := (advance_ok step).1
      rw [show snapshot.state = .submitted from submitted] at edge
      obtain rfl := transitions_submitted edge
      obtain ⟨request, armed, -⟩ := warrants
      cases unplaced.armed.symm.trans armed
  | persistBrokerOrderId orderId =>
      obtain ⟨-, -, -, rfl, ⟨-, -, other, placed'⟩ | ⟨unknown, -⟩⟩ := changes
      · cases placed.symm.trans placed'
      · cases unknown.symm.trans submitted
  | clearCycleData =>
      obtain ⟨waiting, rfl⟩ := changes
      cases waiting.symm.trans submitted
  | bindVerification =>
      obtain ⟨-, -, verification, rfl⟩ := changes
      exact kept submitted
  | persistCancelIntent =>
      obtain ⟨-, rfl⟩ := changes
      exact kept submitted
  | updateObservation order =>
      obtain ⟨queried, -, -, -, -, -, stored, -, rfl⟩ := changes
      cases (kept submitted).symm.trans stored

theorem guarded_unplaced (guarded : Trace.Guarded config trace) {request : ExecutionRequest} {exc : Exc}
    (placed : (Ledger.ofTrace trace).placed = some (request, .error exc)) :
    (Ledger.ofTrace trace).Unplaced := by
  induction guarded with
  | initial trace first =>
      subst first
      cases placed
  | call before after command answer guarded permitted law ih =>
      obtain ⟨law, rfl⟩ := law
      by_cases quiet : command.isQuiet = true
      · obtain ⟨memory, -, armed, placed', -⟩ := Ledger.after_quiet (Ledger.ofTrace before) answer quiet
        have earlier := ih (placed'.symm.trans placed)
        exact ⟨armed.trans earlier.armed,
          fun payload held => earlier.memory payload (memory.symm.trans held)⟩
      cases command with
      | placeOrder request =>
          obtain ⟨⟨payload, submitting⟩, -, -⟩ := permitted
          refine ⟨rfl, ?_⟩
          intro held known _
          cases submitting.memory.symm.trans known
          exact submitting.orderId
      | journalRead =>
          cases answer with
          | error exc => exact ih placed
          | ok read => cases placed
      | journalWrite writer payload =>
          cases writer with
          | persistIntent request => cases answer <;> cases placed
          | create =>
              refine ⟨?_, ?_⟩
              · cases answer <;> exact (ih placed).armed
              · intro held known submitted
                cases (Ledger.written_memory _ _ _ _).symm.trans known
                rw [permitted.2] at submitted
                cases submitted
          | _ =>
              have unchanged : (Ledger.ofTrace before).placed = some (request, .error exc) := by
                cases answer <;> exact placed
              have earlier := ih unchanged
              obtain ⟨previous, memory, changes⟩ := permitted
              refine ⟨?_, ?_⟩
              · cases answer <;> exact earlier.armed
              · intro held known submitted
                cases (Ledger.written_memory _ _ _ _).symm.trans known
                apply earlier.changes unchanged memory changes submitted
                intro request same
                cases same
      | _ => exact absurd rfl quiet

/-- Without a failed write no query is made of a SUBMITTED execution. -/
theorem guarded_asked (guarded : Trace.Guarded config trace)
    (intact : (Ledger.ofTrace trace).failed = false) {queried : Payload}
    {answer : Except Exc BrokerOrder} (asked : (Ledger.ofTrace trace).asked = some (queried, answer)) :
    queried.machine.state ≠ .submitted := by
  induction guarded with
  | initial trace first =>
      subst first
      cases asked
  | call before after command answer guarded permitted law ih =>
      obtain ⟨law, rfl⟩ := law
      cases command with
      | queryOrder orderId =>
          obtain ⟨-, payload, memory, -, unsent⟩ := permitted
          cases (Ledger.observe_asked memory answer).symm.trans asked
          intro submitted
          have failed : (Ledger.ofTrace before).failed = false := (Ledger.observe_failed _ _).symm.trans intact
          cases failed.symm.trans (unsent submitted)
      | queryOrders =>
          obtain ⟨payload, memory, unknown⟩ := permitted
          cases (Ledger.observe_asked memory _).symm.trans asked
          intro submitted
          cases unknown.symm.trans submitted
      | placeOrder request => cases asked
      | cancelOrder orderId => cases asked
      | journalRead =>
          cases answer with
          | ok payload => cases asked
          | error exc => exact ih intact asked
      | journalWrite writer payload =>
          cases answer with
          | error exc => cases (Ledger.written_failed _ _ _ _).symm.trans intact
          | ok value =>
              cases writer with
              | persistIntent request => cases asked
              | _ => exact ih intact asked
      | updateFinality accountKey executionId request finality =>
          cases finality <;> exact ih intact asked
      | _ => cases answer <;> exact ih intact asked

end Rejected

section Retreated

variable {config : SessionConfig} {trace : Trace} {queried : Payload} {order : BrokerOrder}

/-- Since the query that reported less than was recorded, the execution has stayed unresolved with
its record. -/
structure Ledger.Retreated (ledger : Ledger) (queried : Payload) (order : BrokerOrder) : Prop where
  disk : ∃ file, ledger.disk = some file ∧ file.Unresolved ∧
    file.data.lastObservation = queried.data.lastObservation
  asked : ∀ other answer, ledger.asked = some (other, answer) → other = queried ∧ answer = .ok order

theorem Payload.unresolved_of {payload : Payload} (held : payload.data.intent.isSome = true)
    (open' : executionFinality payload.machine ≠ .resolved) : payload.Unresolved := by
  refine ⟨held, ?_⟩
  revert open'
  unfold executionFinality sentStates
  cases payload.machine.state <;> cases payload.machine.facts.unresolvedOrder <;> simp

theorem Payload.Unresolved.retreats (guarded : Trace.Guarded config trace)
    (intact : (Ledger.ofTrace trace).failed = false)
    (every : ∀ event ∈ trace, ∀ order, event.Reports order → order.Tallied)
    (backwards : ExecutionSession.movedBackwards queried.data order = true)
    (asked : ∀ other answer, (Ledger.ofTrace trace).asked = some (other, answer) →
      other = queried ∧ answer = .ok order) {before payload : Payload} {writer : JournalWriter}
    (memory : (Ledger.ofTrace trace).memory = some before) (unresolved : before.Unresolved)
    (same : before.data.lastObservation = queried.data.lastObservation)
    (changes : (Ledger.ofTrace trace).Changes before writer payload) :
    payload.Unresolved ∧ payload.data.lastObservation = queried.data.lastObservation := by
  obtain ⟨previous, observed, less⟩ : ∃ previous, queried.data.lastObservation = some previous ∧
      order.filledQty < previous.filledQty := by
    unfold ExecutionSession.movedBackwards at backwards
    obtain ⟨previous, observed, less⟩ := (Option.any_eq_true _ _).1 backwards
    exact ⟨previous, observed, of_decide_eq_true less⟩
  have stored : before.data.brokerOrderId.isSome = true := by
    apply (guarded_accounted guarded every (.inl memory)).identified
    rw [same, observed]
    rfl
  cases writer with
  | create => exact changes.elim
  | bindVerification =>
      obtain ⟨-, -, verification, rfl⟩ := changes
      exact ⟨unresolved, same⟩
  | transition event =>
      obtain ⟨warrants, session, precheck, snapshot, details, step, rfl⟩ := changes
      have sound := (Trace.Guarded.consistent guarded (.inl memory)).sound
      refine ⟨unresolved.recorded sound warrants step ?_ ?_ ?_ ?_, same⟩
      · intro request submitting
        rw [submitting.orderId] at stored
        cases stored
      · intro submitted request exc placed
        have unplaced := (guarded_unplaced guarded placed).memory before memory submitted
        rw [unplaced] at stored
        cases stored
      · intro _ other seen observation
        obtain ⟨rfl, found⟩ := asked other _ observation.asked
        cases found
        have recorded := observation.observation
        rw [same, observed] at recorded
        cases recorded
        exact lt_irrefl _ less
      · intro submitted other answer known machine
        have unsubmitted := guarded_asked guarded intact known
        rw [machine] at submitted
        exact absurd submitted unsubmitted
  | persistIntent request =>
      obtain ⟨-, -, missing, -⟩ := changes
      have held := unresolved.1
      rw [missing] at held
      cases held
  | persistBrokerOrderId orderId =>
      obtain ⟨-, -, -, rfl, -⟩ := changes
      exact ⟨unresolved, same⟩
  | persistCancelIntent =>
      obtain ⟨-, rfl⟩ := changes
      exact ⟨unresolved, same⟩
  | updateObservation seen =>
      obtain ⟨other, known, -, -, unchanged, -, -, forwards, -⟩ := changes
      obtain ⟨rfl, found⟩ := asked other _ known
      cases found
      unfold ExecutionSession.movedBackwards at forwards backwards
      rw [unchanged, backwards] at forwards
      cases forwards
  | clearCycleData =>
      obtain ⟨waiting, -⟩ := changes
      have sent := unresolved.2
      simp [waiting, sentStates] at sent

theorem retreated_step {event : Event} (guarded : Trace.Guarded config (event :: trace))
    (intact : (Ledger.ofTrace (event :: trace)).failed = false)
    (every : ∀ event ∈ trace, ∀ order, event.Reports order → order.Tallied)
    (backwards : ExecutionSession.movedBackwards queried.data order = true)
    (retreated : (Ledger.ofTrace trace).Retreated queried order)
    (other : event.isQuery = false) : (Ledger.ofTrace (event :: trace)).Retreated queried order := by
  obtain ⟨earlier, permitted, law⟩ := guarded.head
  obtain ⟨file, disk, unresolved, same⟩ := retreated.disk
  obtain ⟨command, answer⟩ := event
  cases command with
  | queryOrder orderId => cases other
  | queryOrders => cases other
  | placeOrder request => exact ⟨⟨file, disk, unresolved, same⟩, fun _ _ asked => by cases asked⟩
  | cancelOrder orderId => exact ⟨⟨file, disk, unresolved, same⟩, fun _ _ asked => by cases asked⟩
  | journalRead =>
      cases answer with
      | error exc => exact ⟨⟨file, disk, unresolved, same⟩, retreated.asked⟩
      | ok read => exact ⟨⟨file, disk, unresolved, same⟩, fun _ _ asked => by cases asked⟩
  | journalWrite writer payload =>
      cases answer with
      | error exc => cases (Ledger.written_failed _ _ _ _).symm.trans intact
      | ok value =>
          have unfailed : (Ledger.ofTrace trace).failed = false := by cases writer <;> exact intact
          cases writer with
          | create => cases permitted.1.symm.trans disk
          | persistIntent request =>
              obtain ⟨before, memory, stored, -, missing, -⟩ := permitted
              cases disk.symm.trans stored
              have held := unresolved.1
              rw [missing] at held
              cases held
          | _ =>
              obtain ⟨before, memory, changes⟩ := permitted
              cases disk.symm.trans (intact_disk earlier unfailed memory)
              have kept := unresolved.retreats earlier unfailed every backwards retreated.asked memory
                same changes
              exact ⟨⟨payload, rfl, kept⟩, retreated.asked⟩
  | updateFinality accountKey executionId request finality =>
      cases finality <;> exact ⟨⟨file, disk, unresolved, same⟩, retreated.asked⟩
  | _ => cases answer <;> exact ⟨⟨file, disk, unresolved, same⟩, retreated.asked⟩

theorem Ledger.after_failed {ledger : Ledger} {command : Command}
    {answer : Except Exc (Result command)} (intact : (ledger.after command answer).failed = false) :
    ledger.failed = false := by
  cases command with
  | queryOrder orderId => exact (Ledger.observe_failed _ _).symm.trans intact
  | queryOrders => exact (Ledger.observe_failed _ _).symm.trans intact
  | journalWrite writer payload =>
      cases answer with
      | error exc => cases (Ledger.written_failed _ _ _ _).symm.trans intact
      | ok value => cases writer <;> exact intact
  | updateFinality accountKey executionId request finality => cases finality <;> exact intact
  | _ => cases answer <;> exact intact

theorem unfailed_suffix {newer older : Trace}
    (intact : (Ledger.ofTrace (newer ++ older)).failed = false) :
    (Ledger.ofTrace older).failed = false := by
  induction newer with
  | nil => exact intact
  | cons event rest ih => exact ih (Ledger.after_failed intact)

theorem retreated_query {event : Event} (earlier : Trace.Guarded config trace)
    (permitted : trace.permits config event.command)
    (intact : (Ledger.ofTrace (event :: trace)).failed = false) (query : event.isQuery = true)
    (every : ∀ event ∈ trace, ∀ order, event.Reports order → order.Tallied)
    (asked : (Ledger.ofTrace (event :: trace)).asked = some (queried, .ok order))
    (backwards : ExecutionSession.movedBackwards queried.data order = true)
    (open' : executionFinality queried.machine ≠ .resolved) :
    (Ledger.ofTrace (event :: trace)).Retreated queried order := by
  have memory : (Ledger.ofTrace trace).memory = some queried := by
    obtain ⟨command, answer⟩ := event
    cases command with
    | queryOrder orderId =>
        obtain ⟨-, payload, memory, -⟩ := permitted
        cases (Ledger.observe_asked memory answer).symm.trans asked
        exact memory
    | queryOrders =>
        obtain ⟨payload, memory, -⟩ := permitted
        have same := (Ledger.observe_asked memory _).symm.trans asked
        exact (Prod.mk.inj (Option.some.inj same)).1 ▸ memory
    | _ => cases query
  have disk := intact_disk earlier (Ledger.after_failed intact) memory
  have kept : (Ledger.ofTrace (event :: trace)).disk = some queried := by
    obtain ⟨command, answer⟩ := event
    cases command with
    | queryOrder orderId => exact (Ledger.observe_disk _ _).trans disk
    | queryOrders => exact (Ledger.observe_disk _ _).trans disk
    | _ => cases query
  constructor
  · have recorded : queried.data.lastObservation.isSome = true := by
      unfold ExecutionSession.movedBackwards at backwards
      obtain ⟨previous, observed, -⟩ := (Option.any_eq_true _ _).1 backwards
      exact Option.isSome_of_eq_some observed
    obtain ⟨observation, observed⟩ := Option.isSome_iff_exists.1 recorded
    obtain ⟨intent, held, -⟩ := (guarded_accounted earlier every (.inl memory)).within _ observed
    exact ⟨queried, kept, Payload.unresolved_of (Option.isSome_of_eq_some held) open', rfl⟩
  · intro other answer known
    have same := known.symm.trans asked
    exact Prod.mk.inj (Option.some.inj same)

theorem guarded_retreated {newer older : Trace} (guarded : Trace.Guarded config (newer ++ older))
    (intact : (Ledger.ofTrace (newer ++ older)).failed = false)
    (every : ∀ event ∈ newer ++ older, ∀ order, event.Reports order → order.Tallied)
    (backwards : ExecutionSession.movedBackwards queried.data order = true)
    (retreated : (Ledger.ofTrace older).Retreated queried order)
    (unqueried : ∀ event ∈ newer, Event.isQuery event = false) :
    (Ledger.ofTrace (newer ++ older)).Retreated queried order := by
  induction newer with
  | nil => exact retreated
  | cons event rest ih =>
      obtain ⟨other, unqueried⟩ := List.forall_mem_cons.1 unqueried
      obtain ⟨-, earlier⟩ := List.forall_mem_cons.1 every
      obtain ⟨before, -⟩ := Trace.Guarded.head guarded
      have still := ih before (Ledger.after_failed intact) earlier unqueried
      exact retreated_step guarded intact earlier backwards still other

end Retreated

theorem observation_ahead {config : SessionConfig} {trace : Trace} {order : BrokerOrder}
    {payload file : Payload} (guarded : Trace.Guarded config trace)
    (every : ∀ event ∈ trace, ∀ order, event.Reports order → order.Tallied)
    (permitted : trace.permits config (.journalWrite (.updateObservation order) payload))
    (disk : (Ledger.ofTrace trace).disk = some file) {observation : Observation}
    (stored : file.data.lastObservation = some observation) :
    observation.filledQty ≤ order.filledQty := by
  obtain ⟨before, memory, changes⟩ := permitted
  obtain ⟨intent', recorded, -⟩ := (guarded_accounted guarded every (.inr disk)).within _ stored
  have ordered := guarded_ordered guarded
  have advances {intent : Intent} (held : payload.data.intent = some intent) :
      Advances file.filled payload.filled :=
    (written_advances ordered memory changes disk held recorded).2
  obtain ⟨queried, -, -, -, -, valid, -, -, rfl⟩ := changes
  obtain ⟨intent, held, -⟩ := ExecutionSession.validate_identity_ok.1 valid
  have known : file.filled = some observation.filledQty := congrArg (Option.map _) stored
  obtain ⟨later, written, below⟩ := advances held _ known
  have same : order.filledQty = later := Option.some.inj written
  omega

/-- In every run over orders that the adapter has normalized: the fill in the journal file is
within the quantity of the intent, and all of it in FILLED; it does not shrink as long as the file
carries the intent; PARTIALLY_FILLED is entered on a part of it; no order that reports less is
written as the observation; and, while no write has failed, an order that reports less than was
recorded leaves an unresolved execution unresolved with its record, up to the next query. -/
theorem fills_accounted {config : SessionConfig} {adapter : MiniQmt.QmtOrderConfig}
    {phase : Phase Command Result SessionState Exc Operation (Option ExecutionSnapshot)}
    {trace : Trace} (run : SessionReachable config phase trace)
    (adapted : ∀ event ∈ trace, Event.Adapted adapter event) :
    (∀ payload, (Ledger.ofTrace trace).disk = some payload →
      (∀ observation, payload.data.lastObservation = some observation → ∃ intent,
        payload.data.intent = some intent ∧ 0 ≤ observation.filledQty ∧
          observation.filledQty ≤ intent.qty) ∧
      (payload.machine.state = .filled → ∃ observation intent,
        payload.data.lastObservation = some observation ∧ payload.data.intent = some intent ∧
          observation.filledQty = intent.qty)) ∧
    (∀ newer older before later, trace = newer ++ older →
      (Ledger.ofTrace older).disk = some before → (Ledger.ofTrace trace).disk = some later →
      (∀ last first, newer = last ++ first → ∃ between,
        (Ledger.ofTrace (first ++ older)).disk = some between ∧
          between.data.intent = before.data.intent) →
      ∀ observation, before.data.lastObservation = some observation → ∃ observation',
        later.data.lastObservation = some observation' ∧
          observation.filledQty ≤ observation'.filledQty) ∧
    (∀ newer event payload answer (older : Trace),
      trace = newer ++ ⟨.journalWrite (.transition event) payload, answer⟩ :: older →
      payload.machine.state = .partiallyFilled → ∃ observation intent,
        payload.data.lastObservation = some observation ∧ payload.data.intent = some intent ∧
          0 < observation.filledQty ∧ observation.filledQty < intent.qty) ∧
    (∀ newer order payload answer (older : Trace),
      trace = newer ++ ⟨.journalWrite (.updateObservation order) payload, answer⟩ :: older →
      ∀ before observation, (Ledger.ofTrace older).disk = some before →
        before.data.lastObservation = some observation →
          observation.filledQty ≤ order.filledQty) ∧
    ((Ledger.ofTrace trace).failed = false → ∀ newer event queried order older,
      trace = newer ++ event :: older → event.isQuery = true →
      (Ledger.ofTrace (event :: older)).asked = some (queried, .ok order) →
      ExecutionSession.movedBackwards queried.data order = true →
      executionFinality queried.machine ≠ .resolved →
      (∀ later ∈ newer, Event.isQuery later = false) →
      (∃ payload, (Ledger.ofTrace trace).disk = some payload ∧
        executionFinality payload.machine ≠ .resolved ∧
          payload.data.lastObservation = queried.data.lastObservation) ∧
      ∀ object, phase = .idle object → object.isOpen = true →
        executionFinality object.snapshot ≠ .resolved) := by
  obtain ⟨lawful, guarded⟩ := run.lawful (session_follows config)
  have every (event : Event) (happened : event ∈ trace) (order : BrokerOrder)
      (reports : event.Reports order) : order.Tallied := (adapted event happened).tallied reports
  refine ⟨?_, ?_, ?_, ?_, ?_⟩
  · intro payload disk
    have accounted := guarded_accounted guarded every (.inr disk)
    exact ⟨accounted.within, accounted.full⟩
  · intro newer older before later split disk disk' cycle observation stored
    subst split
    have known : before.filled = some observation.filledQty := congrArg (Option.map _) stored
    obtain ⟨filledQty, recorded, below⟩ := durable_advances guarded disk disk' cycle _ known
    obtain ⟨observation', stored', rfl⟩ := Option.map_eq_some_iff.1 recorded
    exact ⟨observation', stored', below⟩
  · intro newer event payload answer older split state
    subst split
    obtain ⟨earlier, ⟨before, memory, changes⟩, -⟩ := Trace.Guarded.at guarded
    obtain ⟨warrants, session, precheck, snapshot, details, step, rfl⟩ := changes
    have edge : transitions before.machine.state event = some .partiallyFilled :=
      (advance_ok step).1.trans (congrArg some state)
    obtain ⟨queried, order, observed⟩ := entry_partial warrants edge
    obtain ⟨intent, held, qty, recorded⟩ := observed.recorded
    have tallied : order.Tallied := by
      apply asked_tallied earlier _ observed.asked
      intro event happened
      exact every event (List.mem_append_right _ (List.mem_cons_of_mem _ happened))
    obtain ⟨positive, part⟩ := tallied.partially (partial_status observed.event edge)
    exact ⟨_, intent, recorded, held, positive, qty ▸ part⟩
  · intro newer order payload answer older split before observation disk stored
    subst split
    obtain ⟨earlier, permitted, -⟩ := Trace.Guarded.at guarded
    apply observation_ahead earlier _ permitted disk stored
    intro event happened
    exact every event (List.mem_append_right _ (List.mem_cons_of_mem _ happened))
  · intro intact newer event queried order older split query asked backwards open' unqueried
    subst split
    obtain ⟨earlier, permitted, -⟩ := Trace.Guarded.at guarded
    have before (event' : Event) (happened : event' ∈ older) :=
      every event' (List.mem_append_right _ (List.mem_cons_of_mem _ happened))
    have begun := retreated_query earlier permitted (unfailed_suffix intact) query before asked
      backwards open'
    have retreated := guarded_retreated guarded intact every backwards begun unqueried
    obtain ⟨file, disk, unresolved, same⟩ := retreated.disk
    refine ⟨⟨file, disk, unresolved.finality, same⟩, ?_⟩
    intro object idle opened
    subst idle
    obtain ⟨payload, settled, -⟩ := lawful opened
    have stored := intact_disk guarded intact settled.memory
    cases disk.symm.trans stored
    rw [settled.snapshot]
    exact unresolved.finality

def reportedFill (tradedVolume : ℤ) : List (Except Exc (Option MiniQmt.RawOrder)) :=
  [.ok (some (MiniQmt.reportedOrder tradedVolume 55 4))]

def partialFill (tradedVolume : ℤ) : Replies :=
  { order := MiniQmt.queryOrder MiniQmt.stockConfig 7 (reportedFill tradedVolume) }

def retreatingRun : List SessionDeed :=
  [.start] ++ call .openSession ++ call (.submit sampleRequest) (partialFill 40) ++
    call .poll (partialFill 40) ++ call .poll (partialFill 30)

def Event.adaptedSample (event : Event) : Bool :=
  match event with
  | ⟨.queryOrder orderId, answer⟩ => [40, 30].any fun tradedVolume =>
      answer = MiniQmt.queryOrder MiniQmt.stockConfig orderId (reportedFill tradedVolume)
  | ⟨.queryOrders, _⟩ => false
  | _ => true

theorem Event.adaptedSample_adapted {event : Event} (sample : event.adaptedSample = true) :
    event.Adapted MiniQmt.stockConfig := by
  constructor
  · intro orderId answer same
    subst same
    obtain ⟨tradedVolume, -, same⟩ := List.any_eq_true.1 sample
    exact ⟨reportedFill tradedVolume, of_decide_eq_true same⟩
  · intro answer same
    subst same
    cases sample

def retreatAnswered : Trace → Bool
  | write :: query :: older => !write.isQuery && query.isQuery &&
      match (Ledger.ofTrace (query :: older)).asked with
      | some (queried, .ok order) => ExecutionSession.movedBackwards queried.data order &&
          executionFinality queried.machine ≠ .resolved && queried.filled = some 40
      | _ => false
  | _ => false

theorem fills_accounted_retreating : ∃ payload,
    (Ledger.ofTrace (sessionRun plainConfig retreatingRun).2).disk = some payload ∧
      executionFinality payload.machine ≠ .resolved ∧ payload.filled = some 40 := by
  have run := session_run_reachable plainConfig retreatingRun
  have sample : (sessionRun plainConfig retreatingRun).2.all Event.adaptedSample = true := by
    decide +kernel
  have answered : retreatAnswered (sessionRun plainConfig retreatingRun).2 = true := by
    decide +kernel
  have intact : (Ledger.ofTrace (sessionRun plainConfig retreatingRun).2).failed = false := by
    decide +kernel
  generalize (sessionRun plainConfig retreatingRun).2 = trace at *
  have accounted := fills_accounted run fun event happened =>
    Event.adaptedSample_adapted (List.all_eq_true.1 sample event happened)
  unfold retreatAnswered at answered
  split at answered
  · rename_i write query older
    simp only [Bool.and_eq_true] at answered
    obtain ⟨⟨quiet, reading⟩, answered⟩ := answered
    split at answered
    · rename_i queried order asked
      simp only [Bool.and_eq_true, decide_eq_true_eq] at answered
      obtain ⟨⟨backwards, unresolved⟩, filled⟩ := answered
      obtain ⟨⟨payload, disk, kept, same⟩, -⟩ := accounted.2.2.2.2 intact [write] query queried order
        older rfl reading asked backwards unresolved (by simpa using quiet)
      refine ⟨payload, disk, kept, ?_⟩
      unfold Payload.filled
      rw [same]
      exact filled
    · cases answered
  · cases answered

end QmtExecution
