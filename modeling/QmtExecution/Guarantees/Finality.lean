import QmtExecution.Protocol.Environment

/-! While the broker may hold an order that no query has reported final, the execution is
unresolved and the session keeps its symbol and its cash, as long as no query answer takes
the order away while the session still believes it is submitting it. -/

namespace QmtExecution

open Interaction

def Payload.Unresolved (payload : Payload) : Prop :=
  payload.data.intent.isSome = true ∧ (payload.machine.state ∈ sentStates ∨
    payload.machine.state = .failed ∧ payload.machine.facts.unresolvedOrder = true)

theorem Payload.Unresolved.finality {payload : Payload} (unresolved : payload.Unresolved) :
    executionFinality payload.machine ≠ .resolved := by
  rcases unresolved.2 with sent | ⟨failed, flagged⟩
  · revert sent
    unfold executionFinality sentStates
    cases payload.machine.state <;> simp
  · simp [executionFinality, failed, flagged]

namespace Ledger

/-- An order final under another id than the outstanding one is taken for it. -/
def mistaken (queried : Payload) : Except Exc BrokerOrder → Bool
  | .error _ => false
  | .ok order => order.status.isTerminal &&
      ExecutionSession.validateIdentity queried.data order = .ok ()

/-- The answer of a query reports the outstanding order final, or it neither drives a
SUBMITTED session to FATAL nor passes another order off as the outstanding one. -/
def tolerates (ledger : Ledger) (answer : Except Exc BrokerOrder) : Bool :=
  match ledger.memory, ledger.outstanding with
  | some queried, some order => order.reported queried.data answer ||
      !(queried.machine.state = .submitted && unacceptable queried answer ||
        mistaken queried answer)
  | _, _ => true

def admits (ledger : Ledger) : (command : Command) → Except Exc (Result command) → Bool
  | .queryOrder _, answer => ledger.tolerates answer
  | .queryOrders, answer => ledger.tolerates (ledger.matched answer)
  | _, _ => true

structure Retaining (ledger : Ledger) : Prop where
  disk : ∃ payload, ledger.disk = some payload ∧ payload.Unresolved
  memory : ∃ payload, ledger.memory = some payload ∧ payload.Unresolved
  armed : ledger.armed = none
  placed : ∀ request exc, ledger.placed = some (request, .error exc) →
    exc.isA .brokerSubmissionRejected = false
  asked : ∀ queried answer, ledger.asked = some (queried, answer) →
    mistaken queried answer = false ∧
      (queried.machine.state = .submitted → unacceptable queried answer = false)

end Ledger

def Trace.tolerated : Trace → Bool
  | [] => true
  | event :: trace => (Ledger.ofTrace trace).admits event.command event.answer &&
      Trace.tolerated trace

theorem terminal_of_event {state state' : TradeState} {status : BrokerOrderStatus}
    {event : TradeEvent} (known : eventForObservation state status = .ok (some event))
    (edge : transitions state event = some state') (resolved : state' ∉ sentStates) :
    status.isTerminal = true := by
  cases status
  case filled => rfl
  case cancelled => rfl
  case partialCancelled => rfl
  case rejected => rfl
  all_goals
    refine absurd ?_ resolved
    unfold eventForObservation at known
    simp only [reduceCtorEq, if_false, if_true] at known
    try split_ifs at known
    all_goals
      cases known <;> revert edge <;> cases state <;> rintro ⟨⟩ <;> simp [sentStates]

theorem Payload.Unresolved.record {ledger : Ledger} {before : Payload} {event : TradeEvent}
    {session : Option SessionEvidence} {precheck : Option PrecheckEvidence}
    {snapshot : MachineSnapshot} {details : Details} (retaining : ledger.Retaining)
    (sound : before.machine.Sound) (unresolved : before.Unresolved)
    (warrants : ledger.Warrants before event)
    (step : advance before.machine event session precheck = .ok snapshot) :
    (before.record event snapshot details).Unresolved := by
  obtain ⟨edge, changed, -, -⟩ := advance_ok step
  refine ⟨unresolved.1, ?_⟩
  show snapshot.state ∈ sentStates ∨ snapshot.state = .failed ∧ snapshot.facts.unresolvedOrder = true
  by_cases sent : snapshot.state ∈ sentStates
  · exact .inl sent
  have fit := sound.fit
  have flagged := unresolved.2
  -- an observation that leads out of the sent states is final, and none has been seen
  have unseen : ∀ queried order, ledger.Observed before event queried order → False := by
    intro queried order observed
    have final := terminal_of_event observed.event edge sent
    have mistaken := (retaining.asked _ _ observed.asked).1
    simp [Ledger.mistaken, final, observed.identity] at mistaken
  obtain ⟨_, _, _, ⟨source, facts⟩, _, data⟩ := before
  obtain ⟨state', facts'⟩ := snapshot
  dsimp only at *
  cases event
  case preBrokerRejected | preBrokerAborted =>
    obtain ⟨request, submitting⟩ := warrants
    have armed := retaining.armed.symm.trans submitting.armed
    cases armed
  case submitRejected =>
    obtain ⟨request, exc, placed, rejected⟩ := warrants
    rw [retaining.placed request exc placed] at rejected
    cases rejected
  case fatal =>
    rcases warrants with early | ⟨queried, answer, asked, machine, bad⟩
    · revert early flagged
      cases source <;> simp [sentStates]
    · have submitting : source = .submitted → False := by
        rintro rfl
        rw [(retaining.asked queried answer asked).2 (machine ▸ rfl)] at bad
        cases bad
      cases changed
      cases source <;> cases edge <;> simp_all [sentStates, SafetyFacts.Fit]
  case recoveryFailed =>
    cases changed
    cases source <;> cases edge <;> exact .inr ⟨rfl, rfl⟩
  case orderWorking | orderPartial | orderFilled | orderRejected | cancelStillPending
    | cancelConfirmed | recoveryAccepted | recoveryWorking | recoveryPartial | recoveryCancelling
    | recoveryFilled | recoveryCancelled | recoveryRejected =>
    obtain ⟨queried, order, observed⟩ := warrants
    exact (unseen queried order observed).elim
  all_goals
    cases source <;> cases edge <;> simp [sentStates] at sent flagged

theorem Payload.Unresolved.changes {ledger : Ledger} {before payload : Payload}
    {writer : JournalWriter} (retaining : ledger.Retaining) (sound : before.machine.Sound)
    (unresolved : before.Unresolved) (changes : ledger.Changes before writer payload) :
    payload.Unresolved := by
  cases writer with
  | create => exact changes.elim
  | bindVerification =>
      obtain ⟨-, -, verification, rfl⟩ := changes
      exact unresolved
  | transition event =>
      obtain ⟨warrants, session, precheck, snapshot, details, step, rfl⟩ := changes
      exact unresolved.record retaining sound warrants step
  | persistIntent request =>
      obtain ⟨-, -, missing, -⟩ := changes
      have held := unresolved.1
      simp [missing] at held
  | persistBrokerOrderId orderId =>
      obtain ⟨-, -, -, rfl, -⟩ := changes
      exact unresolved
  | persistCancelIntent =>
      obtain ⟨-, rfl⟩ := changes
      exact unresolved
  | updateObservation order =>
      obtain ⟨queried, -, -, -, -, -, -, -, rfl⟩ := changes
      exact unresolved
  | clearCycleData =>
      obtain ⟨waiting, rfl⟩ := changes
      have sent := unresolved.2
      simp [waiting, sentStates] at sent

namespace Ledger.Retaining

variable {ledger : Ledger}

theorem observe (retaining : ledger.Retaining) {answer : Except Exc BrokerOrder}
    (tolerated : ledger.tolerates answer = true)
    (outstanding : (ledger.observe answer).outstanding ≠ none) :
    (ledger.observe answer).Retaining := by
  obtain ⟨queried, memory, -⟩ := retaining.memory
  refine ⟨?_, ?_, ?_, ?_, ?_⟩
  · simpa using retaining.disk
  · simpa using retaining.memory
  · simpa using retaining.armed
  · simpa using retaining.placed
  · intro asked other same
    rw [observe_asked memory] at same
    cases same
    obtain ⟨order, held, unreported⟩ : ∃ order, ledger.outstanding = some order ∧
        order.reported queried.data answer = false := by
      simp only [Ledger.observe, memory] at outstanding
      cases held : ledger.outstanding with
      | none => simp [held] at outstanding
      | some order => exact ⟨order, rfl, by simpa [held, Option.filter] using outstanding⟩
    simp only [tolerates, memory, held, unreported, Bool.false_or, Bool.not_eq_true',
      Bool.or_eq_false_iff] at tolerated
    refine ⟨tolerated.2, fun submitted => ?_⟩
    simpa [submitted] using tolerated.1

theorem written (retaining : ledger.Retaining) {payload : Payload} (unresolved : payload.Unresolved)
    (answer : Except Exc Unit) : (ledger.written payload answer).Retaining := by
  cases answer with
  | ok _ => exact { retaining with
      disk := ⟨payload, rfl, unresolved⟩
      memory := ⟨payload, rfl, unresolved⟩ }
  | error exc => exact { retaining with memory := ⟨payload, rfl, unresolved⟩ }

end Ledger.Retaining

theorem Ledger.observe_outstanding {ledger : Ledger} {answer : Except Exc BrokerOrder}
    (outstanding : (ledger.observe answer).outstanding ≠ none) : ledger.outstanding ≠ none := by
  intro none
  unfold observe at outstanding
  split at outstanding <;> simp [none] at outstanding

theorem retaining_step {config : SessionConfig} {trace : Trace} {command : Command}
    {answer : Except Exc (Result command)} (guarded : Trace.Guarded config trace)
    (permitted : trace.permits config command) (law : trace.FileLaw command answer)
    (admitted : (Ledger.ofTrace trace).admits command answer = true)
    (earlier : (Ledger.ofTrace trace).outstanding ≠ none → (Ledger.ofTrace trace).Retaining)
    (outstanding : ((Ledger.ofTrace trace).after command answer).outstanding ≠ none) :
    ((Ledger.ofTrace trace).after command answer).Retaining := by
  have sound {payload : Payload} (held : (Ledger.ofTrace trace).memory = some payload) :
      payload.machine.Sound := (Trace.Guarded.consistent guarded (.inl held)).sound
  cases command with
  | placeOrder request =>
      obtain ⟨⟨payload, submitting⟩, -, -⟩ := permitted
      have unresolved : payload.Unresolved :=
        ⟨Option.isSome_of_eq_some submitting.intent, .inl (by simp [submitting.state, sentStates])⟩
      refine ⟨⟨payload, submitting.disk, unresolved⟩, ⟨payload, submitting.memory, unresolved⟩, rfl,
        ?_, ?_⟩
      · intro other exc placed
        cases placed
        by_contra rejected
        simp [Ledger.after, Outstanding.ofAnswer, rejected] at outstanding
      · intro queried other asked
        cases asked
  | queryOrder orderId =>
      exact (earlier (Ledger.observe_outstanding outstanding)).observe admitted outstanding
  | queryOrders =>
      exact (earlier (Ledger.observe_outstanding outstanding)).observe admitted outstanding
  | journalRead =>
      cases answer with
      | error exc => exact earlier outstanding
      | ok payload =>
          have retaining := earlier outstanding
          obtain ⟨disk, stored, unresolved⟩ := retaining.disk
          obtain rfl : disk = payload := Option.some.inj (stored.symm.trans law)
          refine ⟨⟨_, stored, unresolved⟩, ⟨_, rfl, unresolved⟩, rfl, ?_, ?_⟩
          · intro request exc placed
            cases placed
          · intro queried other asked
            cases asked
  | journalWrite writer payload =>
      have kept : (Ledger.ofTrace trace).outstanding ≠ none := by
        cases writer <;> cases answer <;> exact outstanding
      have retaining := earlier kept
      cases writer with
      | create =>
          obtain ⟨disk, stored, -⟩ := retaining.disk
          rw [permitted.1] at stored
          cases stored
      | persistIntent request =>
          obtain ⟨before, memory, -, -, missing, -⟩ := permitted
          obtain ⟨held, known, unresolved⟩ := retaining.memory
          obtain rfl : before = held := Option.some.inj (memory.symm.trans known)
          have intent := unresolved.1
          simp [missing] at intent
      | _ =>
          obtain ⟨before, memory, changes⟩ := permitted
          obtain ⟨held, known, unresolved⟩ := retaining.memory
          obtain rfl : before = held := Option.some.inj (memory.symm.trans known)
          exact retaining.written (unresolved.changes retaining (sound memory) changes) answer
  | updateFinality accountKey executionId request finality =>
      cases finality <;> exact { earlier outstanding with }
  | cancelOrder orderId =>
      refine { earlier outstanding with asked := ?_ }
      intro queried other asked
      cases asked
  | _ => cases answer <;> exact { earlier outstanding with }

theorem guarded_retaining {config : SessionConfig} {trace : Trace}
    (guarded : Trace.Guarded config trace) (tolerated : trace.tolerated = true)
    (outstanding : (Ledger.ofTrace trace).outstanding ≠ none) :
    (Ledger.ofTrace trace).Retaining := by
  induction guarded with
  | initial trace first =>
      subst first
      exact absurd rfl outstanding
  | call before after command answer guarded permitted law ih =>
      obtain ⟨law, rfl⟩ := law
      obtain ⟨admitted, tolerated⟩ := Bool.and_eq_true_iff.1 tolerated
      exact retaining_step guarded permitted law admitted (ih tolerated) outstanding

theorem Ledger.Retaining.not_released {ledger : Ledger} {config : SessionConfig}
    {command : Command} {answer : Except Exc (Result command)} (retaining : ledger.Retaining)
    (permitted : ledger.Permits config command) : Event.isRelease ⟨command, answer⟩ = false := by
  obtain ⟨held, memory, unresolved⟩ := retaining.memory
  cases command with
  | restore accountKey executionId request required finality =>
      obtain ⟨-, -, payload, -, -, other⟩ := permitted
      cases finality <;> first | rfl | exact absurd rfl other
  | updateFinality accountKey executionId request finality =>
      obtain ⟨-, -, payload, ⟨stored, -⟩, releasable⟩ := permitted
      obtain rfl : held = payload := Option.some.inj (memory.symm.trans stored)
      cases finality with
      | resolved =>
          rcases releasable with same | ⟨-, same | ⟨-, -, armed | ⟨exc, placed, rejected⟩⟩⟩
          · exact absurd same.symm unresolved.finality
          · exact absurd same unresolved.finality
          · cases retaining.armed.symm.trans armed
          · rw [retaining.placed request exc placed] at rejected
            cases rejected
      | _ => rfl
  | _ => rfl

/-- The placement that the outstanding order stems from, and no release since. -/
def Trace.Holds (trace : Trace) (order : Outstanding) : Prop :=
  ∃ (newer older : Trace) (answer : Except Exc Int),
    trace = newer ++ ⟨.placeOrder order.request, answer⟩ :: older ∧
      Outstanding.ofAnswer order.request answer = some order ∧
        ∀ event ∈ newer, event.isRelease = false

theorem Ledger.after_outstanding {ledger : Ledger} {command : Command}
    {answer : Except Exc (Result command)} {order : Outstanding}
    (outstanding : (ledger.after command answer).outstanding = some order) :
    ledger.outstanding = some order ∨ ∃ request reply,
      (⟨command, answer⟩ : Event) = ⟨.placeOrder request, reply⟩ ∧
        Outstanding.ofAnswer request reply = some order := by
  have observed (reply : Except Exc BrokerOrder)
      (seen : (ledger.observe reply).outstanding = some order) :
      ledger.outstanding = some order := by
    unfold observe at seen
    split at seen
    · exact seen
    · exact (Option.filter_eq_some_iff.1 seen).1
  cases command with
  | placeOrder request => exact .inr ⟨request, answer, rfl, outstanding⟩
  | queryOrder orderId => exact .inl (observed _ outstanding)
  | queryOrders => exact .inl (observed _ outstanding)
  | journalWrite writer payload => cases writer <;> cases answer <;> exact .inl outstanding
  | updateFinality accountKey executionId request finality =>
      cases finality <;> exact .inl outstanding
  | _ => cases answer <;> exact .inl outstanding

theorem Outstanding.ofAnswer_request {request : ExecutionRequest} {reply : Except Exc Int}
    {order : Outstanding} (origin : ofAnswer request reply = some order) :
    order.request = request := by
  unfold ofAnswer at origin
  split at origin
  · exact (Option.some.inj origin) ▸ rfl
  · split_ifs at origin
    exact (Option.some.inj origin) ▸ rfl

theorem guarded_holds {config : SessionConfig} {trace : Trace}
    (guarded : Trace.Guarded config trace) (tolerated : trace.tolerated = true)
    {order : Outstanding} (outstanding : (Ledger.ofTrace trace).outstanding = some order) :
    trace.Holds order := by
  induction guarded with
  | initial trace first =>
      subst first
      cases outstanding
  | call before after command answer guarded permitted law ih =>
      obtain ⟨law, rfl⟩ := law
      obtain ⟨admitted, tolerated⟩ := Bool.and_eq_true_iff.1 tolerated
      rcases Ledger.after_outstanding outstanding with held | ⟨request, reply, same, origin⟩
      · obtain ⟨newer, older, reply, split, origin, kept⟩ := ih tolerated held
        have retaining := guarded_retaining guarded tolerated (held ▸ Option.some_ne_none _)
        refine ⟨_ :: newer, older, reply, congrArg _ split, origin, ?_⟩
        exact List.forall_mem_cons.2 ⟨retaining.not_released permitted, kept⟩
      · rw [same]
        have sent := Outstanding.ofAnswer_request origin
        exact ⟨[], before, reply, by rw [sent]; rfl, sent ▸ origin, by simp⟩

/-- In every run whose query answers are all tolerated, an order that the broker may hold
and that no query has reported final leaves the execution unresolved, in the session and on
disk, and the session has given up neither its symbol nor its cash. -/
theorem outstanding_order_kept {config : SessionConfig}
    {phase : Phase Command Result SessionState Exc Operation (Option ExecutionSnapshot)}
    {trace : Trace} (run : SessionReachable config phase trace) (tolerated : trace.tolerated = true)
    {order : Outstanding} (outstanding : (Ledger.ofTrace trace).outstanding = some order) :
    (∀ object, phase = .idle object → object.isOpen = true →
      executionFinality object.snapshot ≠ .resolved) ∧
    (∀ payload, (Ledger.ofTrace trace).memory = some payload ∨
      (Ledger.ofTrace trace).disk = some payload → executionFinality payload.machine ≠ .resolved) ∧
    trace.Holds order := by
  obtain ⟨lawful, guarded⟩ := run.lawful (session_follows config)
  have retaining := guarded_retaining guarded tolerated (outstanding ▸ Option.some_ne_none _)
  have unresolved (payload : Payload) (held : (Ledger.ofTrace trace).memory = some payload ∨
      (Ledger.ofTrace trace).disk = some payload) :
      executionFinality payload.machine ≠ .resolved := by
    rcases held with held | held
    · obtain ⟨other, memory, kept⟩ := retaining.memory
      obtain rfl : payload = other := Option.some.inj (held.symm.trans memory)
      exact kept.finality
    · obtain ⟨other, disk, kept⟩ := retaining.disk
      obtain rfl : payload = other := Option.some.inj (held.symm.trans disk)
      exact kept.finality
  refine ⟨?_, unresolved, guarded_holds guarded tolerated outstanding⟩
  rintro object rfl opened
  obtain ⟨payload, settled, -⟩ := lawful opened
  rw [settled.snapshot]
  exact unresolved payload (.inl settled.memory)

def forgottenRun : List SessionDeed :=
  [.start] ++ call .openSession ++
    call (.submit sampleRequest) { write := fun
      | .persistBrokerOrderId _ => .error ⟨.osError, "disk full"⟩
      | _ => .ok () } ++
    call .poll

/-- The open session takes the execution for resolved and releases its symbol and its cash,
though the broker returned an order id and no query has answered since. -/
theorem outstanding_order_forgotten :
    (∃ object, (sessionRun sharedConfig forgottenRun).1.memory = some object ∧
      object.isOpen = true ∧ executionFinality object.snapshot = .resolved) ∧
    (Ledger.ofTrace (sessionRun sharedConfig forgottenRun).2).outstanding =
      some ⟨sampleRequest, some 7⟩ ∧
    (sessionRun sharedConfig forgottenRun).2.head?.any Event.isRelease = true := by
  refine ⟨?_, by decide +kernel, by decide +kernel⟩
  have found : ((sessionRun sharedConfig forgottenRun).1.memory.map fun object =>
      (object.isOpen, executionFinality object.snapshot)) = some (true, .resolved) := by
    decide +kernel
  obtain ⟨object, memory, facts⟩ := Option.map_eq_some_iff.1 found
  exact ⟨object, memory, (Prod.mk.inj facts).1, (Prod.mk.inj facts).2⟩

theorem outstanding_order_kept_unknown :
    (Ledger.ofTrace (sessionRun sharedConfig unknownRun).2).outstanding =
      some ⟨sampleRequest, some 7⟩ ∧
    (sessionRun sharedConfig unknownRun).2.Holds ⟨sampleRequest, some 7⟩ := by
  have outstanding : (Ledger.ofTrace (sessionRun sharedConfig unknownRun).2).outstanding =
      some ⟨sampleRequest, some 7⟩ := by decide +kernel
  exact ⟨outstanding, (outstanding_order_kept (session_run_reachable sharedConfig unknownRun)
    (by decide +kernel) outstanding).2.2⟩

end QmtExecution
