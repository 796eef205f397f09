import QmtExecution.Protocol.Environment

/-! The states that end an order at the broker are entered only on an observation that a
query has just reported, of the order that the journal identifies; the answer of a
cancellation is no such observation. -/

namespace QmtExecution

open Interaction

def Event.isQuery (event : Event) : Bool :=
  match event.command with
  | .queryOrder _ | .queryOrders => true
  | _ => false

def Event.Reports (event : Event) (order : BrokerOrder) : Prop :=
  (∃ orderId, event = ⟨.queryOrder orderId, .ok order⟩) ∨
    ∃ orders, event = ⟨.queryOrders, .ok orders⟩ ∧ order ∈ orders

def Trace.Reports (trace : Trace) (order : BrokerOrder) : Prop :=
  ∃ newer event older, trace = newer ++ event :: older ∧ event.Reports order ∧
    ∀ later ∈ newer, Event.isQuery later = false

theorem Trace.Reports.later {trace : Trace} {order : BrokerOrder} (reports : trace.Reports order)
    {event : Event} (other : event.isQuery = false) : Trace.Reports (event :: trace) order := by
  obtain ⟨newer, reporting, older, rfl, reported, none⟩ := reports
  exact ⟨event :: newer, reporting, older, rfl, reported, List.forall_mem_cons.2 ⟨other, none⟩⟩

theorem Ledger.matched_ok {ledger : Ledger} {answer : Except Exc (List BrokerOrder)}
    {order : BrokerOrder} (found : ledger.matched answer = .ok order) :
    ∃ orders, answer = .ok orders ∧ order ∈ orders := by
  unfold Ledger.matched at found
  split at found
  · cases found
  · cases answer with
    | error exc => cases found
    | ok orders => exact ⟨orders, rfl, (find_unique_ok found).1⟩

theorem asked_reports {config : SessionConfig} {trace : Trace}
    (guarded : Trace.Guarded config trace) {queried : Payload} {order : BrokerOrder}
    (asked : (Ledger.ofTrace trace).asked = some (queried, .ok order)) : trace.Reports order := by
  induction guarded with
  | initial trace first =>
      subst first
      cases asked
  | call before after command answer guarded permitted law ih =>
      obtain ⟨law, rfl⟩ := law
      cases command with
      | queryOrder orderId =>
          obtain ⟨-, payload, memory, -⟩ := permitted
          cases (Ledger.observe_asked memory answer).symm.trans asked
          exact ⟨[], _, before, rfl, .inl ⟨orderId, rfl⟩, by simp⟩
      | queryOrders =>
          obtain ⟨payload, memory, -⟩ := permitted
          have same := (Ledger.observe_asked memory _).symm.trans asked
          obtain ⟨-, found⟩ := Prod.mk.inj (Option.some.inj same)
          obtain ⟨orders, rfl, member⟩ := Ledger.matched_ok found
          exact ⟨[], _, before, rfl, .inr ⟨orders, rfl, member⟩, by simp⟩
      | placeOrder request => cases asked
      | cancelOrder orderId => cases asked
      | journalRead =>
          cases answer with
          | ok payload => cases asked
          | error exc => exact (ih asked).later rfl
      | journalWrite writer payload =>
          cases writer with
          | persistIntent request => cases answer <;> cases asked
          | _ => cases answer <;> exact (ih asked).later rfl
      | updateFinality accountKey executionId request finality =>
          cases finality <;> exact (ih asked).later rfl
      | _ => cases answer <;> exact (ih asked).later rfl

structure Payload.Identifies (payload : Payload) (order : BrokerOrder) : Prop where
  orderId : payload.data.brokerOrderId = some order.orderId
  intent : ∃ intent, payload.data.intent = some intent ∧ order.symbol = intent.symbol ∧
    order.side = intent.side ∧ order.qty = intent.qty ∧
    (order.orderRemark = "" ∨ order.orderRemark = intent.orderRemark) ∧
    (order.strategyName = "" ∨ order.strategyName = intent.strategyId)

/-- The latest query has returned an order with one of these statuses, and the journal file,
from which the data of `payload` are taken, identifies the order. -/
def Trace.Confirms (trace : Trace) (payload : Payload) (statuses : List BrokerOrderStatus) :
    Prop :=
  ∃ order file, trace.Reports order ∧ order.status ∈ statuses ∧
    (Ledger.ofTrace trace).disk = some file ∧ file.Identifies order ∧ payload.data = file.data

section Entry

variable {config : SessionConfig} {trace : Trace} {before : Payload} {event : TradeEvent}
  {session : Option SessionEvidence} {precheck : Option PrecheckEvidence}
  {snapshot : MachineSnapshot} {details : Details}

theorem Ledger.Observed.confirms {queried : Payload} {order : BrokerOrder}
    {statuses : List BrokerOrderStatus} (guarded : Trace.Guarded config trace)
    (observed : (Ledger.ofTrace trace).Observed before event queried order)
    (final : order.status ∈ statuses) :
    trace.Confirms (before.record event snapshot details) statuses := by
  obtain ⟨intent, held, -, identity⟩ := ExecutionSession.validate_identity_ok.1 observed.identity
  refine ⟨order, before, asked_reports guarded observed.asked, final, observed.disk, ?_, rfl⟩
  exact ⟨observed.orderId, intent, observed.intent.trans held, identity⟩

/-- The statuses that an event of an observation into a terminal state stems from. -/
def confirmingStatuses : TradeState → List BrokerOrderStatus
  | .filled => [.filled]
  | .cancelled => [.cancelled, .partialCancelled]
  | .rejected => [.rejected]
  | _ => []

theorem confirming_status {state state' : TradeState} {status : BrokerOrderStatus}
    (known : eventForObservation state status = .ok (some event))
    (edge : transitions state event = some state')
    (terminal : state' ∈ [TradeState.filled, .cancelled, .rejected]) :
    status ∈ confirmingStatuses state' := by
  unfold eventForObservation at known
  cases status <;> simp only [reduceCtorEq, if_false, if_true] at known
  all_goals
    try split_ifs at known
    all_goals
      cases known <;> cases state <;> cases edge <;> first | (simp at terminal; done) | decide

theorem entry_observed {ledger : Ledger} (warrants : ledger.Warrants before event)
    {state : TradeState} (edge : transitions before.machine.state event = some state)
    (terminal : state ∈ [TradeState.filled, .cancelled]) :
    ∃ queried order, ledger.Observed before event queried order := by
  revert edge
  cases before.machine.state <;> cases event <;> rintro ⟨⟩ <;>
    first | exact warrants | simp at terminal

theorem entry_rejected {ledger : Ledger} (warrants : ledger.Warrants before event)
    (edge : transitions before.machine.state event = some .rejected) :
    (∃ queried order, ledger.Observed before event queried order) ∨
      ledger.disk = some before ∧ before.machine.state = .preCheck ∨
      (∃ request, ledger.armed = some request) ∨
      ∃ request exc, ledger.placed = some (request, .error exc) := by
  revert edge
  cases event
  case precheckRejected =>
    intro edge
    refine .inr (.inl ⟨warrants, ?_⟩)
    revert edge
    cases before.machine.state <;> rintro ⟨⟩
    rfl
  case preBrokerRejected =>
    obtain ⟨request, submitting⟩ := warrants
    exact fun _ => .inr (.inr (.inl ⟨request, submitting.armed⟩))
  case submitRejected =>
    obtain ⟨request, exc, placed, -⟩ := warrants
    exact fun _ => .inr (.inr (.inr ⟨request, exc, placed⟩))
  case orderRejected => exact fun _ => .inl warrants
  case recoveryRejected => exact fun _ => .inl warrants
  all_goals cases before.machine.state <;> rintro ⟨⟩

end Entry

/-- Whether the broker has returned an order id, and the file has not recorded the trigger
of a further cycle since. -/
def Trace.acknowledged : Trace → Bool
  | [] => false
  | event :: trace => match event with
    | ⟨.placeOrder _, answer⟩ => answer.isOk
    | ⟨.journalWrite _ payload, .ok _⟩ =>
        payload.machine.state ≠ .trigger && Trace.acknowledged trace
    | _ => Trace.acknowledged trace

structure Ledger.Acknowledged (ledger : Ledger) : Prop where
  armed : ledger.armed = none
  placed : ∀ request exc, ledger.placed ≠ some (request, .error exc)
  disk : ∀ payload, ledger.disk = some payload →
    payload.machine.state ∉ [TradeState.trigger, .preCheck]
  memory : ∀ payload, ledger.memory = some payload → payload.machine.state ≠ .preCheck

theorem transitions_preCheck {state : TradeState} {event : TradeEvent}
    (edge : transitions state event = some .preCheck) :
    state = .trigger ∧ event = .beginPrecheck ∨ state = .preCheck ∧ event = .precheckVerified := by
  revert edge
  cases state <;> cases event <;> rintro ⟨⟩
  · exact .inl ⟨rfl, rfl⟩
  · exact .inr ⟨rfl, rfl⟩

theorem Ledger.Acknowledged.changes {ledger : Ledger} (acknowledged : ledger.Acknowledged)
    {before payload : Payload} {writer : JournalWriter} (memory : ledger.memory = some before)
    (changes : ledger.Changes before writer payload) : payload.machine.state ≠ .preCheck := by
  have kept := acknowledged.memory before memory
  cases writer with
  | create => exact changes.elim
  | transition event =>
      obtain ⟨warrants, session, precheck, snapshot, details, step, rfl⟩ := changes
      intro checking
      have edge := (advance_ok step).1
      rw [show snapshot.state = .preCheck from checking] at edge
      rcases transitions_preCheck edge with ⟨triggered, rfl⟩ | ⟨checking, -⟩
      · exact acknowledged.disk before warrants (by simp [triggered])
      · exact kept checking
  | bindVerification =>
      obtain ⟨-, -, verification, rfl⟩ := changes
      exact kept
  | persistIntent request =>
      obtain ⟨-, checking, -⟩ := changes
      exact absurd checking kept
  | persistBrokerOrderId orderId =>
      obtain ⟨-, -, -, rfl, -⟩ := changes
      exact kept
  | persistCancelIntent =>
      obtain ⟨-, rfl⟩ := changes
      exact kept
  | updateObservation order =>
      obtain ⟨queried, -, -, -, -, -, -, -, rfl⟩ := changes
      exact kept
  | clearCycleData =>
      obtain ⟨-, rfl⟩ := changes
      exact kept

theorem guarded_acknowledged {config : SessionConfig} {trace : Trace}
    (guarded : Trace.Guarded config trace) (acknowledged : trace.acknowledged = true) :
    (Ledger.ofTrace trace).Acknowledged := by
  induction guarded with
  | initial trace first =>
      subst first
      cases acknowledged
  | call before after command answer guarded permitted law ih =>
      obtain ⟨law, rfl⟩ := law
      by_cases quiet : command.isQuiet = true
      · obtain ⟨memory, disk, armed, placed, -⟩ := Ledger.after_quiet (Ledger.ofTrace before) answer quiet
        have earlier : before.acknowledged = true := by
          cases command <;> first | exact acknowledged | cases quiet
        obtain ⟨armed', placed', disk', memory'⟩ := ih earlier
        exact ⟨armed.trans armed', fun request exc same => placed' request exc (placed.symm.trans same),
          fun payload held => disk' payload (disk.symm.trans held),
          fun payload held => memory' payload (memory.symm.trans held)⟩
      cases command with
      | placeOrder request =>
          obtain ⟨⟨payload, submitting⟩, -, -⟩ := permitted
          refine ⟨rfl, ?_, ?_, ?_⟩
          · intro other exc placed
            cases placed
            cases acknowledged
          · intro file stored
            cases submitting.disk.symm.trans stored
            simp [submitting.state]
          · intro held known
            cases submitting.memory.symm.trans known
            simp [submitting.state]
      | journalRead =>
          have earlier := ih acknowledged
          cases answer with
          | error exc => exact { earlier with }
          | ok payload =>
              refine ⟨rfl, ?_, earlier.disk, ?_⟩
              · intro request exc placed
                cases placed
              · intro held same
                cases same
                intro checking
                exact earlier.disk _ law (by simp [checking])
      | journalWrite writer payload =>
          have earlier : (Ledger.ofTrace before).Acknowledged := by
            refine ih ?_
            cases answer with
            | error exc => exact acknowledged
            | ok value => exact (Bool.and_eq_true_iff.1 acknowledged).2
          have unchecked : payload.machine.state ≠ .preCheck := by
            cases writer with
            | create =>
                obtain ⟨-, rfl⟩ := permitted
                exact nofun
            | _ =>
                obtain ⟨previous, memory, changes⟩ := permitted
                exact earlier.changes memory changes
          have disk : ∀ file, ((Ledger.ofTrace before).after (.journalWrite writer payload)
              answer).disk = some file → file.machine.state ∉ [TradeState.trigger, .preCheck] := by
            intro file stored
            cases answer with
            | error exc =>
                exact earlier.disk file ((Ledger.unwritten_disk _ _ _ _).symm.trans stored)
            | ok value =>
                cases (Ledger.written_disk _ _ _).symm.trans stored
                have untriggered := (Bool.and_eq_true_iff.1 acknowledged).1
                simpa [unchecked] using untriggered
          refine ⟨?_, ?_, disk, ?_⟩
          · cases writer with
            | persistIntent request =>
                obtain ⟨previous, memory, -, checking, -⟩ := permitted
                exact absurd checking (earlier.memory previous memory)
            | _ => cases answer <;> exact earlier.armed
          · cases writer with
            | persistIntent request =>
                obtain ⟨previous, memory, -, checking, -⟩ := permitted
                exact absurd checking (earlier.memory previous memory)
            | _ => cases answer <;> exact earlier.placed
          · intro held known
            cases (Ledger.written_memory _ _ _ _).symm.trans known
            exact unchecked
      | _ => exact absurd rfl quiet

theorem changes_machine {ledger : Ledger} {before payload : Payload} {writer : JournalWriter}
    (changes : ledger.Changes before writer payload) (other : ∀ event, writer ≠ .transition event) :
    payload.machine = before.machine := by
  cases writer with
  | create => exact changes.elim
  | transition event => exact absurd rfl (other event)
  | bindVerification =>
      obtain ⟨-, -, verification, rfl⟩ := changes
      rfl
  | persistIntent request =>
      obtain ⟨-, -, -, -, rfl⟩ := changes
      rfl
  | persistBrokerOrderId orderId =>
      obtain ⟨-, -, -, rfl, -⟩ := changes
      rfl
  | persistCancelIntent =>
      obtain ⟨-, rfl⟩ := changes
      rfl
  | updateObservation order =>
      obtain ⟨queried, -, -, -, -, -, -, -, rfl⟩ := changes
      rfl
  | clearCycleData =>
      obtain ⟨-, rfl⟩ := changes
      rfl

/-- Every state but the first is entered by a transition that was written to the journal. -/
theorem guarded_entered {config : SessionConfig} {trace : Trace}
    (guarded : Trace.Guarded config trace) {payload : Payload}
    (held : (Ledger.ofTrace trace).memory = some payload ∨
      (Ledger.ofTrace trace).disk = some payload) (started : payload.machine ≠ {}) :
    ∃ newer event written answer older,
      trace = newer ++ ⟨.journalWrite (.transition event) written, answer⟩ :: older ∧
        written.machine = payload.machine := by
  induction guarded generalizing payload with
  | initial trace first =>
      subst first
      rcases held with held | held <;> cases held
  | call before after command answer guarded permitted law ih =>
      obtain ⟨law, rfl⟩ := law
      have earlier {payload : Payload} (held : (Ledger.ofTrace before).memory = some payload ∨
          (Ledger.ofTrace before).disk = some payload) (started : payload.machine ≠ {}) :
          ∃ newer event written reply older,
            (⟨command, answer⟩ : Event) :: before =
                newer ++ ⟨.journalWrite (.transition event) written, reply⟩ :: older ∧
              written.machine = payload.machine := by
        obtain ⟨newer, event, written, reply, older, rfl, same⟩ := ih held started
        exact ⟨_ :: newer, event, written, reply, older, rfl, same⟩
      rcases Ledger.after_payload law held with held | held | ⟨writer, rfl⟩
      · exact earlier (.inl held) started
      · exact earlier (.inr held) started
      cases writer with
      | create =>
          obtain ⟨-, rfl⟩ := permitted
          exact absurd rfl started
      | transition event => exact ⟨[], event, payload, answer, before, rfl, rfl⟩
      | _ =>
          obtain ⟨previous, memory, changes⟩ := permitted
          have kept := changes_machine changes fun _ same => by cases same
          rw [kept] at started ⊢
          exact earlier (.inl memory) started

/-- The states of an execution whose cancellation the broker has not been seen to settle. -/
def Payload.Unsettled (payload : Payload) : Prop :=
  payload.machine.state ∈ [TradeState.pendingCancel, .cancelling, .cancelRejected, .unknown] ∧
    payload.data.intent.isSome = true

structure Ledger.Cancelled (ledger : Ledger) : Prop where
  asked : ledger.asked = none
  disk : ∃ payload, ledger.disk = some payload ∧ payload.Unsettled
  memory : ∃ payload, ledger.memory = some payload ∧ payload.Unsettled

theorem Payload.Unsettled.changes {ledger : Ledger} (cancelled : ledger.Cancelled)
    {before payload : Payload} {writer : JournalWriter} (memory : ledger.memory = some before)
    (changes : ledger.Changes before writer payload) : payload.Unsettled := by
  obtain ⟨held, known, state, intent⟩ := cancelled.memory
  cases memory.symm.trans known
  have unasked (queried : Payload) (answer : Except Exc BrokerOrder) :
      ledger.asked ≠ some (queried, answer) := by simp [cancelled.asked]
  cases writer with
  | create => exact changes.elim
  | transition event =>
      obtain ⟨warrants, session, precheck, snapshot, details, step, rfl⟩ := changes
      have edge := (advance_ok step).1
      have unobserved : ¬ ∃ queried order, ledger.Observed before event queried order := by
        rintro ⟨queried, order, observed⟩
        exact unasked _ _ observed.asked
      have unfailed : event = .fatal ∨ event = .recoveryFailed → False := by
        rintro (rfl | rfl)
        · rcases warrants with early | ⟨queried, answer, asked, -⟩
          · revert state early
            cases before.machine.state <;> simp
          · exact unasked _ _ asked
        · rcases warrants with asked | missing
          · simp [cancelled.asked] at asked
          · simp [missing] at intent
      refine ⟨?_, intent⟩
      show snapshot.state ∈ [TradeState.pendingCancel, .cancelling, .cancelRejected, .unknown]
      revert state edge
      cases before.machine.state <;> cases event <;> intro state edge <;>
        first
        | cases edge
        | exact absurd warrants unobserved
        | exact absurd (by decide) unfailed
        | (simp at state; done)
        | (rw [← Option.some.inj edge]; decide)
  | bindVerification =>
      obtain ⟨-, -, verification, rfl⟩ := changes
      exact ⟨state, intent⟩
  | persistIntent request =>
      obtain ⟨-, checking, -⟩ := changes
      simp [checking] at state
  | persistBrokerOrderId orderId =>
      obtain ⟨-, -, -, rfl, -⟩ := changes
      exact ⟨state, intent⟩
  | persistCancelIntent =>
      obtain ⟨-, rfl⟩ := changes
      exact ⟨state, intent⟩
  | updateObservation order =>
      obtain ⟨queried, asked, -⟩ := changes
      exact absurd asked (unasked _ _)
  | clearCycleData =>
      obtain ⟨waiting, -⟩ := changes
      simp [waiting] at state

theorem cancelled_step {config : SessionConfig} {trace : Trace} {event : Event}
    (guarded : Trace.Guarded config (event :: trace))
    (cancelled : (Ledger.ofTrace trace).Cancelled) (other : event.isQuery = false) :
    (Ledger.ofTrace (event :: trace)).Cancelled := by
  obtain ⟨-, permitted, law⟩ := guarded.head
  obtain ⟨command, answer⟩ := event
  have asked : ((Ledger.ofTrace trace).after command answer).asked = none := by
    have none := cancelled.asked
    cases command with
    | queryOrder orderId => cases other
    | queryOrders => cases other
    | journalWrite writer payload => cases writer <;> cases answer <;> first | rfl | exact none
    | updateFinality accountKey executionId request finality => cases finality <;> exact none
    | _ => cases answer <;> first | rfl | exact none
  by_cases quiet : command.isQuiet = true
  · obtain ⟨memory, disk, -⟩ := Ledger.after_quiet (Ledger.ofTrace trace) answer quiet
    exact ⟨asked, disk ▸ cancelled.disk, memory ▸ cancelled.memory⟩
  obtain ⟨stored, disk, unsettled⟩ := cancelled.disk
  cases command with
  | placeOrder request =>
      obtain ⟨⟨payload, submitting⟩, -, -⟩ := permitted
      have state := unsettled.1
      rw [Option.some.inj (disk.symm.trans submitting.disk), submitting.state] at state
      simp at state
  | journalRead =>
      cases answer with
      | error exc => exact { cancelled with asked := asked }
      | ok payload =>
          obtain rfl : stored = payload := Option.some.inj (disk.symm.trans law)
          exact ⟨asked, ⟨_, disk, unsettled⟩, ⟨_, rfl, unsettled⟩⟩
  | journalWrite writer payload =>
      have kept : payload.Unsettled := by
        cases writer with
        | create => cases permitted.1.symm.trans disk
        | _ =>
            obtain ⟨previous, memory, changes⟩ := permitted
            exact Payload.Unsettled.changes cancelled memory changes
      refine ⟨asked, ?_, ⟨_, Ledger.written_memory _ _ _ _, kept⟩⟩
      cases answer with
      | error exc => exact ⟨_, (Ledger.unwritten_disk _ _ _ _).trans disk, unsettled⟩
      | ok value => exact ⟨_, Ledger.written_disk _ _ _, kept⟩
  | _ => exact absurd rfl quiet

/-- From a cancellation to the next query the execution stays cancelled but unsettled. -/
theorem guarded_cancelled {config : SessionConfig} {newer older : Trace} {orderId : Int}
    {answer : Except Exc CancelRequestResult}
    (guarded : Trace.Guarded config (newer ++ ⟨.cancelOrder orderId, answer⟩ :: older))
    (unqueried : ∀ event ∈ newer, Event.isQuery event = false) :
    (Ledger.ofTrace (newer ++ ⟨.cancelOrder orderId, answer⟩ :: older)).Cancelled := by
  induction newer with
  | nil =>
      obtain ⟨before, permitted, -⟩ := guarded.head
      obtain ⟨payload, disk, memory, pending, -⟩ := permitted
      have unsettled : payload.Unsettled :=
        ⟨by simp [pending], (before.consistent (.inl memory)).sent (by simp [pending, sentStates])⟩
      exact ⟨rfl, ⟨payload, disk, unsettled⟩, ⟨payload, memory, unsettled⟩⟩
  | cons event newer ih =>
      obtain ⟨earlier, -⟩ := guarded.head
      obtain ⟨other, unqueried⟩ := List.forall_mem_cons.1 unqueried
      exact cancelled_step guarded (ih earlier unqueried) other

theorem Payload.Unsettled.finality {payload : Payload} (unsettled : payload.Unsettled) :
    executionFinality payload.machine = .open := by
  have state := unsettled.1
  revert state
  unfold executionFinality
  cases payload.machine.state <;> simp

theorem Ledger.Cancelled.finality {ledger : Ledger} (cancelled : ledger.Cancelled)
    {payload : Payload} (held : ledger.memory = some payload ∨ ledger.disk = some payload) :
    executionFinality payload.machine = .open := by
  rcases held with held | held
  · obtain ⟨other, known, unsettled⟩ := cancelled.memory
    cases known.symm.trans held
    exact unsettled.finality
  · obtain ⟨other, known, unsettled⟩ := cancelled.disk
    cases known.symm.trans held
    exact unsettled.finality

/-- A terminal state of an order that the broker may hold is entered on its confirmation. -/
theorem guarded_confirms {config : SessionConfig} {older : Trace} {event : TradeEvent}
    {payload : Payload} (guarded : Trace.Guarded config older)
    (permitted : older.permits config (.journalWrite (.transition event) payload))
    (terminal : payload.machine.state ∈ [TradeState.filled, .cancelled] ∨
      payload.machine.state = .rejected ∧ older.acknowledged = true) :
    older.Confirms payload (confirmingStatuses payload.machine.state) := by
  obtain ⟨before, memory, warrants, session, precheck, snapshot, details, step, rfl⟩ := permitted
  obtain ⟨state, facts⟩ := snapshot
  have edge : transitions before.machine.state event = some state := (advance_ok step).1
  have final : state ∈ [TradeState.filled, .cancelled, .rejected] := by
    rcases terminal with terminal | ⟨rejected, -⟩
    · exact List.mem_append_left [TradeState.rejected] terminal
    · exact List.mem_append_right [TradeState.filled, .cancelled] (by simpa using rejected)
  obtain ⟨queried, order, observed⟩ : ∃ queried order,
      (Ledger.ofTrace older).Observed before event queried order := by
    rcases terminal with terminal | ⟨rejected, acknowledged⟩
    · exact entry_observed warrants edge terminal
    · have kept := guarded_acknowledged guarded acknowledged
      obtain rfl : state = .rejected := rejected
      rcases entry_rejected warrants edge with observed | ⟨-, checking⟩ | ⟨request, armed⟩ |
        ⟨request, exc, placed⟩
      · exact observed
      · exact absurd checking (kept.memory before memory)
      · cases kept.armed.symm.trans armed
      · exact absurd placed (kept.placed request exc)
  exact observed.confirms guarded (confirming_status observed.event edge final)

theorem permitted_cancel {config : SessionConfig} {older : Trace} {orderId : Int}
    (guarded : Trace.Guarded config older)
    (permitted : older.permits config (.cancelOrder orderId)) :
    ∃ payload, (Ledger.ofTrace older).disk = some payload ∧
      payload.machine.state = .pendingCancel ∧ payload.data.cancelIntent.isSome = true ∧
        payload.data.brokerOrderId = some orderId := by
  obtain ⟨payload, disk, -, pending, stored⟩ := permitted
  have consistent := guarded.consistent (.inr disk)
  have fit := consistent.sound.fit
  rw [pending] at fit
  exact ⟨payload, disk, pending, consistent.cancelling fit.2.2.2.2, stored⟩

/-- In every run: FILLED, CANCELLED and, once the broker has returned an order id, REJECTED
are entered only on the confirmation by a query; `cancel_order` is called only for the order
of a journal file in PENDING_CANCEL; and up to the next query the execution stays open. -/
theorem terminal_states_observed {config : SessionConfig}
    {phase : Phase Command Result SessionState Exc Operation (Option ExecutionSnapshot)}
    {trace : Trace} (run : SessionReachable config phase trace) :
    (∀ newer event payload answer (older : Trace),
      trace = newer ++ ⟨.journalWrite (.transition event) payload, answer⟩ :: older →
      payload.machine.state ∈ [TradeState.filled, .cancelled] ∨
        payload.machine.state = .rejected ∧ older.acknowledged = true →
      older.Confirms payload (confirmingStatuses payload.machine.state)) ∧
    (∀ object, phase = .idle object → object.isOpen = true → object.snapshot ≠ {} →
      ∃ newer event payload answer older,
        trace = newer ++ ⟨.journalWrite (.transition event) payload, answer⟩ :: older ∧
          payload.machine = object.snapshot) ∧
    (∀ newer orderId answer older, trace = newer ++ ⟨.cancelOrder orderId, answer⟩ :: older →
      (∃ payload, (Ledger.ofTrace older).disk = some payload ∧
        payload.machine.state = .pendingCancel ∧ payload.data.cancelIntent.isSome = true ∧
          payload.data.brokerOrderId = some orderId) ∧
      ((∀ event ∈ newer, Event.isQuery event = false) →
        (∀ payload, (Ledger.ofTrace trace).memory = some payload ∨
          (Ledger.ofTrace trace).disk = some payload →
            executionFinality payload.machine = .open) ∧
        ∀ object, phase = .idle object → object.isOpen = true →
          executionFinality object.snapshot = .open)) := by
  obtain ⟨lawful, -⟩ := run.lawful (session_follows config)
  have guarded := run.guarded
  refine ⟨?_, ?_, ?_⟩
  · rintro newer event payload answer older rfl terminal
    obtain ⟨before, permitted, -⟩ := guarded.at
    exact guarded_confirms before permitted terminal
  · rintro object rfl opened started
    obtain ⟨payload, settled, -⟩ := lawful opened
    rw [settled.snapshot] at started ⊢
    exact guarded_entered guarded (.inl settled.memory) started
  · rintro newer orderId answer older rfl
    obtain ⟨before, permitted, -⟩ := guarded.at
    refine ⟨permitted_cancel before permitted, fun unqueried => ?_⟩
    have cancelled := guarded_cancelled guarded unqueried
    refine ⟨fun payload held => cancelled.finality held, ?_⟩
    rintro object rfl opened
    obtain ⟨payload, settled, -⟩ := lawful opened
    rw [settled.snapshot]
    exact cancelled.finality (.inl settled.memory)

def cancelledRun : List SessionDeed :=
  [.start] ++ call .openSession ++
    call (.submit sampleRequest) { order := .ok (sampleOrder .accepted 0) } ++
    call .cancel { order := .ok (sampleOrder .cancelled 0) }

def Event.cancels (event : Event) : Bool :=
  match event.command with
  | .journalWrite (.transition .cancelConfirmed) payload => payload.machine.state = .cancelled
  | _ => false

theorem terminal_states_observed_cancelled : ∃ payload answer, ∃ older : Trace,
    (sessionRun plainConfig cancelledRun).2 =
      ⟨.journalWrite (.transition .cancelConfirmed) payload, answer⟩ :: older ∧
    older.Confirms payload [.cancelled, .partialCancelled] := by
  have confirmed : (sessionRun plainConfig cancelledRun).2.head?.any Event.cancels = true := by
    decide +kernel
  have run := session_run_reachable plainConfig cancelledRun
  generalize (sessionRun plainConfig cancelledRun).2 = trace at confirmed run ⊢
  rcases trace with _ | ⟨⟨command, answer⟩, older⟩
  · cases confirmed
  simp only [List.head?_cons, Option.any_some, Event.cancels] at confirmed
  split at confirmed
  · rename_i _ payload
    have state : payload.machine.state = .cancelled := of_decide_eq_true confirmed
    refine ⟨payload, answer, older, rfl, ?_⟩
    have confirms := (terminal_states_observed run).1 [] _ payload answer older rfl
      (.inl (by simp [state]))
    rwa [state] at confirms
  · cases confirmed

end QmtExecution
