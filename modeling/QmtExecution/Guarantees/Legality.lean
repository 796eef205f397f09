import QmtExecution.Guarantees.Answers

/-! Which operations of a session may raise InvalidTransition, and on which answers. -/

namespace QmtExecution

open Interaction Method

/-- An environment that never raises an exception of the state machine itself. -/
def Civil (oracle : (command : Command) → Except Exc (Result command)) : Prop :=
  ∀ command exc, oracle command = .error exc → exc.isIllegal = false

/-- An open session, standing on a journal that its execution could have written. -/
structure Serving (oracle : (command : Command) → Except Exc (Result command))
    (executionId : String) (object : SessionState) (payload : Payload) : Prop
    extends Standing oracle object payload where
  opened : object.isOpen = true
  unclosed : object.closed = false
  owned : object.mutexOwned = true
  consistent : payload.Consistent executionId

section Legal

variable {α β : Type} {oracle : (command : Command) → Except Exc (Result command)}
  {object after : SessionState} {payload : Payload}

theorem legal_returned {value : α} : Legal ((.ok value, object) : Except Exc α × SessionState) :=
  nofun

theorem legal_raised {exc : Exc} (benign : exc.isIllegal = false) :
    Legal ((.error exc, object) : Except Exc α × SessionState) := by
  intro raised same
  cases same
  exact benign

theorem legal_bind {method : SessionM β} {next : β → SessionM α}
    (first : Legal (method.outcome oracle object))
    (rest : ∀ value after, method.outcome oracle object = (.ok value, after) →
      Legal ((next value).outcome oracle after)) : Legal ((method >>= next).outcome oracle object) := by
  rw [outcome_bind]
  rcases same : method.outcome oracle object with ⟨exc | value, after⟩
  · rw [same] at first
    exact legal_raised (first exc rfl)
  · exact rest value after same

theorem legal_next_iff {method : SessionM β} {next : β → SessionM α} {value : β}
    (returns : method.outcome oracle object = (.ok value, after)) :
    Legal ((method >>= next).outcome oracle object) ↔ Legal ((next value).outcome oracle after) := by
  rw [outcome_bind, returns]

theorem legal_bind_iff {method : SessionM β} {next : β → SessionM α}
    (rest : ∀ value after, Legal ((next value).outcome oracle after)) :
    Legal ((method >>= next).outcome oracle object) ↔ Legal (method.outcome oracle object) := by
  refine ⟨fun legal => ?_, fun first => legal_bind first fun value after _ => rest value after⟩
  rw [outcome_bind] at legal
  rcases same : method.outcome oracle object with ⟨exc | value, after⟩
  · rw [same] at legal
    exact legal_raised (legal exc rfl)
  · exact legal_returned

theorem legal_next {method : SessionM β} {next : β → SessionM α} {value : β}
    (returns : method.outcome oracle object = (.ok value, after))
    (rest : Legal ((next value).outcome oracle after)) :
    Legal ((method >>= next).outcome oracle object) :=
  (legal_next_iff returns).2 rest

theorem legal_ite {condition : Prop} [Decidable condition] {yes no : SessionM α}
    (holds : condition → Legal (yes.outcome oracle object))
    (fails : ¬ condition → Legal (no.outcome oracle object)) :
    Legal ((if condition then yes else no).outcome oracle object) := by
  split_ifs with known
  · exact holds known
  · exact fails known

theorem legal_ask (civil : Civil oracle) (command : Command) :
    Legal ((ask command).outcome oracle object) :=
  fun exc raised => civil command exc raised

theorem legal_attempt {command : Command} {next : Except Exc (Result command) → SessionM α}
    (rest : Legal ((next (oracle command)).outcome oracle object)) :
    Legal ((attempt (ask command) >>= next).outcome oracle object) :=
  legal_next (outcome_attempt oracle object (ask command)) rest

theorem legal_step (standing : Standing oracle object payload) {event : TradeEvent}
    {details : Details} {next : Unit → SessionM α} {state : TradeState}
    (edge : transitions payload.machine.state event = some state)
    (plain : event ∉ [TradeEvent.sessionReady, .precheckVerified, .intentPersisted])
    (pending : event ≠ .recoveryCancelling)
    (rest : ∀ after result, after = { object with
        snapshot := result, payload := some (payload.record event result details) } →
      result.state = state → advance payload.machine event = .ok result →
      Legal ((next ()).outcome oracle after)) :
    Legal ((ExecutionSession.transition event details >>= next).outcome oracle object) := by
  obtain ⟨result, step, same⟩ :=
    advance_enabled standing.sound edge plain fun recovering => absurd recovering pending
  have stepped : advance object.snapshot event = .ok result := standing.agrees ▸ step
  exact legal_next (outcome_transition standing.writes standing.held stepped)
    (rest _ result rfl same step)

end Legal

namespace ExecutionSession

variable {oracle : (command : Command) → Except Exc (Result command)} {executionId : String}
  {object : SessionState} {payload : Payload} {reply : Except Exc BrokerOrder}

/-- Whether `poll` asks the broker: it has an order id, or the session is UNKNOWN. -/
def asks (payload : Payload) : Bool :=
  payload.data.brokerOrderId.isSome || payload.machine.state = .unknown

theorem absorbs_poll (serving : Serving oracle executionId object payload)
    (asked : asks payload = true) (answering : Answering oracle payload.data reply) :
    Absorbed payload.machine payload.data reply (poll.outcome oracle object) := by
  cases stored : payload.data.brokerOrderId with
  | some orderId =>
      exact absorbs_queried serving.toStanding serving.opened serving.unclosed serving.owned stored
        (serving.consistent.positive orderId stored) answering
  | none =>
      have unknown : payload.machine.state = .unknown := by simpa [asks, stored] using asked
      simp only [poll, outcome_bind,
        outcome_requireOpen serving.opened serving.unclosed serving.owned,
        outcome_journal_requireOpen serving.held, stored, outcome_read, serving.agrees, unknown,
        if_true]
      exact absorbs_recoverUnknown serving.toStanding unknown answering serving.consistent.positive
        (serving.consistent.sent (by simp [unknown, sentStates]))

theorem legal_poll_iff (serving : Serving oracle executionId object payload)
    (answering : Answering oracle payload.data reply) :
    Legal (poll.outcome oracle object) ↔
      ¬ (asks payload = true ∧ stops payload.machine payload.data reply = true) := by
  cases asked : asks payload with
  | true => simpa using (absorbs_poll serving asked answering).legal_iff
  | false =>
      simp only [asks, Bool.or_eq_false_iff, Option.isSome_eq_false_iff,
        Option.isNone_iff_eq_none, decide_eq_false_iff_not] at asked
      simp only [poll, outcome_bind,
        outcome_requireOpen serving.opened serving.unclosed serving.owned,
        outcome_journal_requireOpen serving.held, asked.1, outcome_read, serving.agrees, asked.2,
        if_false, outcome_raise]
      simpa using legal_raised rfl

def reconciledStates : List TradeState :=
  [.unknown, .accepted, .working, .partiallyFilled, .pendingCancel, .cancelling, .cancelRejected]

theorem absorbs_reconcile (serving : Serving oracle executionId object payload)
    (asked : payload.machine.state ∈ reconciledStates)
    (answering : Answering oracle payload.data reply) :
    Absorbed payload.machine payload.data reply ((reconcile poll).outcome oracle object) := by
  simp only [reconcile, outcome_bind,
    outcome_requireOpen serving.opened serving.unclosed serving.owned, outcome_read,
    serving.agrees, outcome_ite]
  split_ifs with unknown polled
  · exact absorbs_recoverUnknown serving.toStanding unknown answering serving.consistent.positive
      (serving.consistent.sent (by simp [unknown, sentStates]))
  · refine absorbs_poll serving ?_ answering
    have known := serving.consistent.identified (by revert polled; simp [identifiedStates]; tauto)
    simp [asks, known]
  · simp only [reconciledStates, List.mem_cons, unknown, false_or] at asked
    exact absurd (by simpa using asked) polled

theorem legal_reconcile_iff (serving : Serving oracle executionId object payload)
    (answering : Answering oracle payload.data reply) :
    Legal ((reconcile poll).outcome oracle object) ↔
      ¬ (payload.machine.state ∈ reconciledStates ∧
        stops payload.machine payload.data reply = true) := by
  by_cases asked : payload.machine.state ∈ reconciledStates
  · simpa [asked] using (absorbs_reconcile serving asked answering).legal_iff
  · simp only [asked, false_and, not_false_eq_true, iff_true]
    simp only [reconciledStates, List.mem_cons, not_or] at asked
    simp only [reconcile, outcome_bind,
      outcome_requireOpen serving.opened serving.unclosed serving.owned, outcome_read,
      serving.agrees]
    simp only [asked, List.mem_cons, or_self, if_false, outcome_snapshot]
    exact legal_returned

def recedes (data : JournalData) : Except Exc BrokerOrder → Bool
  | .ok order => movedBackwards data order
  | .error _ => false

def Refuses (oracle : (command : Command) → Except Exc (Result command)) (data : JournalData) :
    Prop :=
  ∃ orderId, data.brokerOrderId = some orderId ∧ oracle (.beforeBrokerCancel orderId) = .ok () ∧
    (oracle (.cancelOrder orderId) = .ok .rejected ∨
      ∃ exc, oracle (.cancelOrder orderId) = .error exc ∧ exc.isA .brokerError = true)

theorem stops_cancelRejected (facts : SafetyFacts) (data : JournalData) :
    stops ⟨.cancelRejected, facts⟩ data reply = recedes data reply := by
  cases reply with
  | error exc => rfl
  | ok order => simp [stops, stuck, recedes, unsentStates]

theorem stops_cancelling (facts : SafetyFacts) (data : JournalData) :
    stops ⟨.cancelling, facts⟩ data reply = false := by
  cases reply with
  | error exc => rfl
  | ok order => simp [stops, stuck, unsentStates]

theorem outcome_persistCancelIntent (standing : Standing oracle object payload) :
    ∃ after data, ExecutionJournal.persistCancelIntent.outcome oracle object = (.ok (), after) ∧
      Standing oracle after { payload with data } ∧ after.isOpen = object.isOpen ∧
      after.closed = object.closed ∧ after.mutexOwned = object.mutexOwned ∧
      data.brokerOrderId = payload.data.brokerOrderId ∧ data.intent = payload.data.intent ∧
      data.lastObservation = payload.data.lastObservation := by
  refine ⟨{ object with payload := some { payload with
    data := { payload.data with cancelIntent := some ⟨true⟩ } } },
    { payload.data with cancelIntent := some ⟨true⟩ }, ?_, { standing with held := rfl },
    rfl, rfl, rfl, rfl, rfl, rfl⟩
  simp only [ExecutionJournal.persistCancelIntent, outcome_bind,
    outcome_journal_requireOpen standing.held]
  exact outcome_writeData standing.writes standing.held _ _

def Accepts (oracle : (command : Command) → Except Exc (Result command)) (data : JournalData) :
    Prop :=
  ∃ orderId, data.brokerOrderId = some orderId ∧ oracle (.beforeBrokerCancel orderId) = .ok () ∧
    oracle (.cancelOrder orderId) = .ok .accepted

theorem Accepts.unrefused {data : JournalData} (accepts : Accepts oracle data) :
    ¬ Refuses oracle data := by
  obtain ⟨orderId, stored, -, accepted⟩ := accepts
  rintro ⟨other, same, -, refused | ⟨exc, raised, -⟩⟩
  all_goals cases stored.symm.trans same
  · cases accepted.symm.trans refused
  · cases accepted.symm.trans raised

theorem absorbs_cancelled (standing : Standing oracle object payload)
    (opened : object.isOpen = true) (unclosed : object.closed = false)
    (owned : object.mutexOwned = true) (pending : payload.machine.state = .pendingCancel)
    {orderId : Int} (stored : payload.data.brokerOrderId = some orderId) (positive : 0 < orderId)
    (answering : Answering oracle payload.data reply) {event : TradeEvent} {state : TradeState}
    (which : (event, state) = (.cancelSent, .cancelling) ∨
      (event, state) = (.cancelRequestRejected, .cancelRejected)) (facts : SafetyFacts) :
    Absorbed ⟨state, facts⟩ payload.data reply
      ((do transition event; poll).outcome oracle object) := by
  have edge : transitions payload.machine.state event = some state := by
    rw [pending]
    rcases which with ⟨⟨⟩⟩ | ⟨⟨⟩⟩ <;> rfl
  have known : state ≠ .unknown ∧ state ∉ restingStates := by
    rcases which with ⟨⟨⟩⟩ | ⟨⟨⟩⟩ <;> decide
  obtain ⟨result, step, same⟩ := advance_enabled standing.sound edge
    (by rcases which with ⟨⟨⟩⟩ | ⟨⟨⟩⟩ <;> decide) (by rcases which with ⟨⟨⟩⟩ | ⟨⟨⟩⟩ <;> nofun)
  have stepped : advance object.snapshot event = .ok result := standing.agrees ▸ step
  refine .next (outcome_transition standing.writes standing.held stepped) ?_
  have standing' := standing.step [] step (same ▸ known.2)
  have absorbed := absorbs_queried standing' opened unclosed owned stored positive answering
  exact absorbed.congr same (fun unknown => absurd (same.symm.trans unknown) known.1) rfl

def activeStates : List TradeState := [.accepted, .working, .partiallyFilled]

/-- `cancel` of an active order: the answer is applied in CANCELLING or in CANCEL_REJECTED, and where
there is no poll it raises what the hook or the broker has raised. -/
theorem cancel_ends (serving : Serving oracle executionId object payload) (civil : Civil oracle)
    (answering : Answering oracle payload.data reply)
    (active : payload.machine.state ∈ activeStates) :
    (Accepts oracle payload.data → Absorbed ⟨.cancelling, payload.machine.facts⟩ payload.data reply
      ((cancel poll).outcome oracle object)) ∧
    (Refuses oracle payload.data → Absorbed ⟨.cancelRejected, payload.machine.facts⟩ payload.data
      reply ((cancel poll).outcome oracle object)) ∧
    (¬ Accepts oracle payload.data → ¬ Refuses oracle payload.data →
      Legal ((cancel poll).outcome oracle object)) := by
  obtain ⟨orderId, stored⟩ := Option.isSome_iff_exists.1 (serving.consistent.identified
    (by revert active; simp [identifiedStates, activeStates]; tauto))
  have positive := serving.consistent.positive orderId stored
  obtain ⟨object₁, data, persists, standing, opened, unclosed, owned, orderId₁, intent₁,
    observation₁⟩ := outcome_persistCancelIntent serving.toStanding
  obtain ⟨result, step, pending⟩ := advance_enabled standing.sound
    (show transitions payload.machine.state .cancelRequested = some .pendingCancel by
      simp only [activeStates, List.mem_cons, List.not_mem_nil, or_false] at active
      rcases active with state | state | state <;> rw [state] <;> rfl)
    (by decide) (by rintro ⟨⟩)
  have stepped : advance object₁.snapshot .cancelRequested = .ok result := standing.agrees ▸ step
  have standing₂ := standing.step [] step (by rw [pending]; decide)
  have answering₂ : Answering oracle data reply := answering.congr orderId₁ intent₁
  have ends {event : TradeEvent} {state : TradeState}
      (which : (event, state) = (.cancelSent, .cancelling) ∨
        (event, state) = (.cancelRequestRejected, .cancelRejected)) :=
    (absorbs_cancelled standing₂ (opened.trans serving.opened) (unclosed.trans serving.unclosed)
      (owned.trans serving.owned) pending (orderId₁.trans stored) positive answering₂ which
      payload.machine.facts).congr rfl (fun _ => rfl) observation₁
  have sent := ends (.inl rfl)
  have rejected := ends (.inr rfl)
  have accepts : Accepts oracle payload.data ↔ oracle (.beforeBrokerCancel orderId) = .ok () ∧
      oracle (.cancelOrder orderId) = .ok .accepted := by simp [Accepts, stored]
  have refuses : Refuses oracle payload.data ↔ oracle (.beforeBrokerCancel orderId) = .ok () ∧
      (oracle (.cancelOrder orderId) = .ok .rejected ∨
        ∃ exc, oracle (.cancelOrder orderId) = .error exc ∧ exc.isA .brokerError = true) := by
    simp [Refuses, stored]
  rw [accepts, refuses]
  simp only [cancel, outcome_bind,
    outcome_requireOpen serving.opened serving.unclosed serving.owned, outcome_read,
    serving.agrees, outcome_ite]
  rw [if_neg (not_not.2 (show payload.machine.state ∈
    [TradeState.accepted, .working, .partiallyFilled] from active))]
  simp only [outcome_journal_requireOpen serving.held, stored, not_le.2 positive,
    if_false, outcome_bind, persists, outcome_transition standing.writes standing.held stepped,
    outcome_attempt]
  rcases hook : oracle (.beforeBrokerCancel orderId) with exc | passed
  · simpa [outcome_answered hook] using legal_raised (civil _ _ hook)
  simp only [outcome_answered hook, true_and]
  rcases answered : oracle (.cancelOrder orderId) with exc | accepted | refused
  · simp only [outcome_answered answered]
    cases broker : exc.isA .brokerError
    · simpa [broker] using legal_raised (civil _ _ answered)
    · simpa [broker] using rejected
  · simpa [outcome_answered answered] using sent
  · simpa [outcome_answered answered] using rejected

theorem legal_cancel_iff (serving : Serving oracle executionId object payload)
    (civil : Civil oracle) (answering : Answering oracle payload.data reply) :
    Legal ((cancel poll).outcome oracle object) ↔
      ¬ (payload.machine.state ∈ activeStates ∧ Refuses oracle payload.data ∧
        recedes payload.data reply = true) := by
  by_cases active : payload.machine.state ∈ activeStates
  · obtain ⟨sent, rejected, unasked⟩ := cancel_ends serving civil answering active
    simp only [active, true_and, not_and, Bool.not_eq_true]
    by_cases accepts : Accepts oracle payload.data
    · exact iff_of_true ((sent accepts).legal_iff.2 (stops_cancelling _ _)) fun refuses =>
        absurd refuses accepts.unrefused
    · by_cases refuses : Refuses oracle payload.data
      · rw [(rejected refuses).legal_iff, stops_cancelRejected]
        simp [refuses]
      · exact iff_of_true (unasked accepts refuses) fun other => absurd other refuses
  · simp only [active, false_and, not_false_eq_true, iff_true]
    simp only [cancel, outcome_bind,
      outcome_requireOpen serving.opened serving.unclosed serving.owned, outcome_read,
      serving.agrees, outcome_ite]
    rw [if_pos (show payload.machine.state ∉ [TradeState.accepted, .working, .partiallyFilled]
      from active), outcome_raise]
    exact legal_raised (by rfl)

theorem validateIdentity_error {data : JournalData} {order : BrokerOrder} {exc : Exc}
    (conflict : validateIdentity data order = .error exc) : exc.isIllegal = false := by
  unfold validateIdentity at conflict
  split at conflict
  · cases conflict
    rfl
  · split_ifs at conflict <;> cases conflict <;> rfl

theorem legal_poll_accepted (standing : Standing oracle object payload) (civil : Civil oracle)
    (opened : object.isOpen = true) (unclosed : object.closed = false)
    (owned : object.mutexOwned = true) (accepted : payload.machine.state = .accepted) {orderId : Int}
    (stored : payload.data.brokerOrderId = some orderId) (positive : 0 < orderId) :
    Legal (poll.outcome oracle object) := by
  simp only [poll, outcome_bind, outcome_requireOpen opened unclosed owned,
    outcome_journal_requireOpen standing.held, stored, not_le.2 positive, if_false, outcome_attempt]
  rcases answered : oracle (.queryOrder orderId) with exc | order
  · simp only [outcome_answered answered, outcome_ite]
    split_ifs
    · obtain ⟨after, returns, -⟩ := outcome_toUnknown standing exc.message
      simp only [outcome_bind, returns, outcome_snapshot]
      exact legal_returned
    · exact legal_raised (civil _ _ answered)
  · simp only [outcome_answered answered]
    rcases valid : validateIdentity payload.data order with exc | ⟨⟩
    · simp only [applyObservation, outcome_bind, outcome_journal_requireOpen standing.held,
        outcome_ofExcept, valid]
      exact legal_raised (validateIdentity_error valid)
    · refine (absorbs_applyObservation standing valid).legal_iff.2 ?_
      simp [stops, stuck, accepted, unsentStates]

theorem legal_submitToBroker (standing : Standing oracle object payload) (civil : Civil oracle)
    (opened : object.isOpen = true) (unclosed : object.closed = false)
    (owned : object.mutexOwned = true) (submitted : payload.machine.state = .submitted)
    (unplaced : payload.data.brokerOrderId = none) (request : ExecutionRequest) :
    Legal ((submitToBroker poll ExecutionSession.ports request).outcome oracle object) := by
  unfold submitToBroker
  refine legal_attempt ?_
  rcases placed : oracle (.placeOrder request) with exc | orderId
  · refine legal_ite (fun _ => ?_) fun _ => legal_ite (fun _ => ?_) fun _ => ?_
    · refine legal_step standing (by rw [submitted]; rfl) (by decide) (by decide) ?_
      exact fun _ _ _ _ _ => legal_returned
    · refine legal_step standing (by rw [submitted]; rfl) (by decide) (by decide) ?_
      exact fun _ _ _ _ _ => legal_returned
    · exact legal_raised (civil _ _ placed)
  · by_cases positive : 0 < orderId
    · refine legal_next (outcome_persistBrokerOrderId standing unplaced positive) ?_
      have standing₁ : Standing oracle { object with payload := some { payload with
          data := { payload.data with brokerOrderId := some orderId } } } _ :=
        { standing with held := rfl }
      refine legal_step standing₁ (show transitions payload.machine.state _ = _ by rw [submitted]; rfl)
        (by decide) (by decide) ?_
      rintro _ result rfl accepted step
      exact legal_poll_accepted (standing₁.step _ step (by rw [accepted]; decide)) civil opened
        unclosed owned accepted rfl positive
    · refine legal_bind ?_ fun value after returns => ?_
      · simp only [ExecutionJournal.persistBrokerOrderId, not_lt.1 positive, if_true, outcome_raise]
        exact legal_raised (by rfl)
      · simp [ExecutionJournal.persistBrokerOrderId, not_lt.1 positive] at returns

theorem legal_submitIntent (standing : Standing oracle object payload) (civil : Civil oracle)
    (opened : object.isOpen = true) (unclosed : object.closed = false)
    (owned : object.mutexOwned = true) (submitted : payload.machine.state = .submitted)
    (unplaced : payload.data.brokerOrderId = none) (request : ExecutionRequest) :
    Legal ((submitIntent poll ExecutionSession.ports request).outcome oracle object) := by
  unfold submitIntent
  refine legal_attempt ?_
  rcases coordinated : oracle (.submitCoordination request) with exc | ⟨⟩
  · refine legal_ite (fun _ => ?_) fun _ => ?_
    · refine legal_step standing (by rw [submitted]; rfl) (by decide) (by decide) ?_
      exact fun _ _ _ _ _ => legal_returned
    · refine legal_step standing (by rw [submitted]; rfl) (by decide) (by decide) ?_
      exact fun _ _ _ _ _ => legal_raised (civil _ _ coordinated)
  · refine legal_attempt ?_
    rcases hooked : oracle (.beforeBrokerSubmit request) with exc | ⟨⟩
    · refine legal_step standing (by rw [submitted]; rfl) (by decide) (by decide) ?_
      exact fun _ _ _ _ _ => legal_raised (civil _ _ hooked)
    · exact legal_submitToBroker standing civil opened unclosed owned submitted unplaced request

theorem assertIdentityUnused_error {data : JournalData} {request : ExecutionRequest} {exc : Exc}
    (used : data.assertIdentityUnused request = .error exc) : exc.isIllegal = false := by
  unfold JournalData.assertIdentityUnused at used
  split_ifs at used <;> cases used <;> rfl

theorem checkNotional_error {request : ExecutionRequest} {exc : Exc}
    (large : request.checkNotional = .error exc) : exc.isIllegal = false := by
  unfold ExecutionRequest.checkNotional at large
  split_ifs at large
  cases large
  rfl

theorem legal_assertIdentityUnused (held : object.payload = some payload)
    (request : ExecutionRequest) :
    Legal ((ExecutionJournal.assertIdentityUnused request).outcome oracle object) := by
  simp only [ExecutionJournal.assertIdentityUnused, outcome_bind, outcome_journal_requireOpen held,
    outcome_ofExcept]
  intro exc raised
  exact assertIdentityUnused_error raised

theorem legal_persistIntent (standing : Standing oracle object payload)
    (request : ExecutionRequest) {α : Type} {next : Unit → SessionM α}
    (rest : payload.data.intent = none →
      Standing oracle { object with
          payload := some { payload with data := payload.data.withIntent request } }
        { payload with data := payload.data.withIntent request } →
      Legal ((next ()).outcome oracle { object with
        payload := some { payload with data := payload.data.withIntent request } })) :
    Legal ((ExecutionJournal.persistIntent request >>= next).outcome oracle object) := by
  have held := standing.held
  rcases unused : payload.data.assertIdentityUnused request with exc | ⟨⟩
  · refine legal_bind (legal_bind (legal_assertIdentityUnused held request) ?_) ?_
    all_goals
      intro value after returns
      simp [ExecutionJournal.persistIntent, ExecutionJournal.assertIdentityUnused,
        outcome_journal_requireOpen held, unused] at returns
  · by_cases missing : payload.data.intent = none
    · rcases priced : request.checkNotional with exc | ⟨⟩
      · refine legal_bind ?_ fun value after returns => ?_
        · simp only [ExecutionJournal.persistIntent, outcome_bind,
            outcome_assertIdentityUnused held unused, outcome_journal_requireOpen held, missing,
            ne_eq, not_true_eq_false, if_false, outcome_ofExcept, unused, priced]
          exact legal_raised (checkNotional_error priced)
        · simp [ExecutionJournal.persistIntent, outcome_assertIdentityUnused held unused,
            outcome_journal_requireOpen held, missing, unused, priced] at returns
      · exact legal_next (outcome_persistIntent standing.writes held missing unused priced)
          (rest missing { standing with held := rfl })
    · refine legal_bind ?_ fun value after returns => ?_
      · simp only [ExecutionJournal.persistIntent, outcome_bind,
          outcome_assertIdentityUnused held unused, outcome_journal_requireOpen held, missing,
          ne_eq, not_false_eq_true, if_true, outcome_raise]
        exact legal_raised (by rfl)
      · simp [ExecutionJournal.persistIntent, outcome_assertIdentityUnused held unused,
          outcome_journal_requireOpen held, missing] at returns

theorem validate_error {evidence : PrecheckEvidence} {exc : Exc}
    (invalid : evidence.validate = .error exc) : exc.isIllegal = false := by
  unfold PrecheckEvidence.validate at invalid
  split_ifs at invalid
  cases invalid
  rfl

theorem legal_submit (serving : Serving oracle executionId object payload) (civil : Civil oracle)
    (request : ExecutionRequest) :
    Legal ((submit poll ExecutionSession.ports request).outcome oracle object) := by
  unfold submit
  refine legal_next (outcome_requireOpen serving.opened serving.unclosed serving.owned) ?_
  refine legal_next (outcome_read oracle object) (legal_ite (fun _ => legal_raised (by rfl)) ?_)
  intro waiting
  have state : payload.machine.state = .waitTrigger := serving.agrees ▸ not_not.1 waiting
  refine legal_bind (legal_ask civil _) ?_
  rintro healthy after answered
  obtain rfl : object = after := congrArg Prod.snd answered
  refine legal_ite (fun _ => legal_raised (by rfl)) fun _ => ?_
  refine legal_bind (legal_assertIdentityUnused serving.held request) ?_
  rintro _ after returned
  obtain rfl : object = after := by
    simp only [ExecutionJournal.assertIdentityUnused, outcome_bind,
      outcome_journal_requireOpen serving.held, outcome_ofExcept, Prod.mk.injEq] at returned
    exact returned.2
  refine legal_step serving.toStanding (by rw [state]; rfl) (by decide) (by decide) ?_
  rintro _ result₁ rfl state₁ step₁
  have standing₁ := serving.toStanding.step [] step₁ (by rw [state₁]; decide)
  refine legal_step standing₁ (show transitions result₁.state _ = _ by rw [state₁]; rfl)
    (by decide) (by decide) ?_
  rintro _ result₂ rfl state₂ step₂
  have standing₂ := standing₁.step [] step₂ (by rw [state₂]; decide)
  refine legal_bind (legal_ask civil _) ?_
  rintro evidence after answered
  obtain rfl := congrArg Prod.snd answered
  rcases valid : evidence.validate with exc | ⟨⟩
  · refine legal_bind (legal_raised (validate_error valid)) fun _ _ returned => ?_
    cases returned
  refine legal_next (by rfl) (legal_ite (fun _ => ?_) fun allowed => ?_)
  · refine legal_step standing₂ (show transitions result₂.state _ = _ by rw [state₂]; rfl)
      (by decide) (by decide) ?_
    exact fun _ _ _ _ _ => legal_returned
  have step₃ := advance_precheckVerified standing₂.sound state₂ valid (by simpa using allowed)
  refine legal_next (outcome_transition standing₂.writes standing₂.held step₃) ?_
  have standing₃ := standing₂.step [("source", .text "execution_guard")] step₃ (by simp [restingStates])
  refine legal_persistIntent standing₃ request fun missing standing₄ => ?_
  have step₄ := advance_intentPersisted standing₃.sound rfl rfl rfl rfl rfl rfl rfl
  refine legal_next (outcome_transition standing₄.writes standing₄.held step₄) ?_
  have standing₅ := standing₄.step [("client_order_id", .text request.clientOrderId)] step₄
    (by simp [restingStates])
  refine legal_submitIntent standing₅ civil serving.opened serving.unclosed serving.owned rfl ?_
    request
  have clean := serving.consistent.clean missing
  exact (congrArg JournalData.brokerOrderId clean :)

theorem absorbs_submit (serving : Serving oracle executionId object payload)
    {request : ExecutionRequest} (accepting : Accepting oracle request)
    (state : payload.machine.state = .waitTrigger) (fresh : payload.data.intent = none)
    (unused : payload.data.assertIdentityUnused request = .ok ())
    (priced : request.checkNotional = .ok ()) {orderId : Int}
    (placed : oracle (.placeOrder request) = .ok orderId) (positive : 0 < orderId)
    (answering : Answering oracle
      { payload.data.withIntent request with brokerOrderId := some orderId } reply) :
    Absorbed ⟨.accepted, payload.machine.facts⟩ payload.data reply
      ((submit poll ExecutionSession.ports request).outcome oracle object) := by
  obtain ⟨after, payload', leads, standing, submitted, data, opened, unclosed, owned⟩ :=
    submit_leads serving.toStanding serving.opened serving.unclosed serving.owned accepting state
      fresh unused priced
  rw [leads.1]
  unfold submitToBroker
  refine .next (outcome_attempt_ok (outcome_answered placed)) ?_
  have clean := congrArg JournalData.brokerOrderId (serving.consistent.clean fresh)
  have unplaced : payload'.data.brokerOrderId = none := by
    rw [data]
    exact clean
  refine .next (outcome_persistBrokerOrderId standing unplaced positive) ?_
  have standing₁ : Standing oracle { after with payload := some { payload' with
      data := { payload'.data with brokerOrderId := some orderId } } } _ :=
    { standing with held := rfl }
  obtain ⟨result, step, accepted⟩ := advance_enabled standing₁.sound
    (show transitions payload'.machine.state .submitAccepted = some .accepted by
      rw [submitted]
      rfl) (by decide) nofun
  refine .next (outcome_transition standing₁.writes standing₁.held (standing₁.agrees ▸ step)) ?_
  have standing₂ := standing₁.step [("broker_order_id", .number orderId)] step
    (by rw [accepted]; decide)
  rw [← data] at answering
  have absorbed := absorbs_queried standing₂ opened unclosed owned rfl positive answering
  refine absorbed.congr accepted (fun unknown => ?_) ?_
  · cases accepted.symm.trans unknown
  · show payload'.data.lastObservation = (payload.data.withIntent request).lastObservation
    rw [data]

/-- The build that the journal is bound to, or one it can be bound to, is the running one. -/
def Bindable (oracle : (command : Command) → Except Exc (Result command)) (data : JournalData) :
    Prop :=
  ∃ verification, oracle .verifyStateMachine = .ok verification ∧
    (data.formalVerification = some verification ∨ data.formalVerification = none ∧
      isSha256Digest verification.transitionSpecSha256 = true ∧
      isSha256Digest verification.executionSourceSha256 = true)

def Ready (oracle : (command : Command) → Except Exc (Result command)) : Prop :=
  ∃ evidence, oracle .verifySession = .ok evidence ∧ evidence.validate = .ok () ∧
    evidence.ready = true

theorem outcome_bindOrMatch (standing : Standing oracle object payload)
    (bindable : Bindable oracle payload.data) : ∃ after verification,
    bindOrMatch.outcome oracle object = (.ok (), after) ∧
      Standing oracle after { payload with
        data := { payload.data with formalVerification := verification } } := by
  obtain ⟨verification, answered, bound | ⟨unbound, spec, source⟩⟩ := bindable
  · refine ⟨object, payload.data.formalVerification, ?_, standing⟩
    simp [bindOrMatch, outcome_answered answered, outcome_journal_requireOpen standing.held, bound]
  · refine ⟨{ object with payload := some { payload with data := { payload.data with
      formalVerification := some ⟨lower verification.transitionSpecSha256,
        lower verification.executionSourceSha256⟩ } } }, _, ?_, { standing with held := rfl }⟩
    simp [bindOrMatch, outcome_answered answered, outcome_journal_requireOpen standing.held,
      unbound, ExecutionJournal.bindVerification, spec, source,
      outcome_writeData standing.writes standing.held]

theorem legal_bindOrMatch (standing : Standing oracle object payload) (civil : Civil oracle) :
    Legal (bindOrMatch.outcome oracle object) := by
  unfold bindOrMatch
  refine legal_bind (legal_ask civil _) ?_
  rintro verification after answered
  obtain rfl : object = after := congrArg Prod.snd answered
  refine legal_next (outcome_journal_requireOpen standing.held) ?_
  split
  · unfold ExecutionJournal.bindVerification
    refine legal_ite (fun _ => legal_raised (by rfl)) fun _ =>
      legal_ite (fun _ => legal_raised (by rfl)) fun _ => ?_
    refine legal_next (outcome_journal_requireOpen standing.held) ?_
    rw [outcome_writeData standing.writes standing.held]
    exact legal_returned
  · exact legal_ite (fun _ => legal_raised (by rfl)) fun _ => legal_returned

theorem bindOrMatch_returns (standing : Standing oracle object payload) {after : SessionState}
    {value : Unit} (returns : bindOrMatch.outcome oracle object = (.ok value, after)) :
    Bindable oracle payload.data := by
  rcases answered : oracle .verifyStateMachine with exc | verification
  · simp [bindOrMatch, outcome_answered answered] at returns
  · simp only [bindOrMatch, outcome_bind, outcome_answered answered,
      outcome_journal_requireOpen standing.held] at returns
    refine ⟨verification, answered, ?_⟩
    cases stored : payload.data.formalVerification with
    | none =>
        refine .inr ⟨rfl, ?_⟩
        by_contra digests
        rw [not_and_or, Bool.not_eq_true, Bool.not_eq_true] at digests
        rcases digests with spec | source
        · simp [stored, ExecutionJournal.bindVerification, spec] at returns
        · cases spec : isSha256Digest verification.transitionSpecSha256 <;>
            simp [stored, ExecutionJournal.bindVerification, spec, source] at returns
    | some bound =>
        by_contra other
        have different : bound ≠ verification := fun same => other (.inl (same ▸ rfl))
        simp [stored, different] at returns

theorem absorbs_recovered (standing : Standing oracle object payload)
    (unknown : payload.machine.state = .unknown) (answering : Answering oracle payload.data reply)
    (positive : ∀ orderId, payload.data.brokerOrderId = some orderId → 0 < orderId)
    (held : payload.data.intent.isSome = true) :
    Absorbed payload.machine payload.data reply ((discard recoverUnknown).outcome oracle object) :=
  (absorbs_recoverUnknown standing unknown answering positive held).bind
    fun _ _ => ⟨_, _, rfl, rfl⟩

theorem absorbs_resume (standing : Standing oracle object payload)
    (positive : ∀ orderId, payload.data.brokerOrderId = some orderId → 0 < orderId)
    (intent : payload.machine.state ∈ sentStates → payload.data.intent.isSome = true)
    (answering : Answering oracle payload.data reply) (evidence : SessionEvidence)
    (sent : payload.machine.state ∈ sentStates) :
    Absorbed ⟨.unknown, payload.machine.facts⟩ payload.data reply
      ((resume true evidence).outcome oracle object) := by
  have held := intent sent
  unfold resume
  refine .next (outcome_read oracle object) ?_
  rw [standing.agrees]
  by_cases unknown : payload.machine.state = .unknown
  · have recovered : Absorbed ⟨.unknown, payload.machine.facts⟩ payload.data reply
        ((discard recoverUnknown).outcome oracle object) :=
      (absorbs_recovered standing unknown answering positive held).congr unknown (fun _ => rfl) rfl
    simpa [unknown] using recovered
  · obtain ⟨result, step, recovering⟩ := advance_enabled standing.sound
      (show transitions payload.machine.state .restartRecovery = some .unknown by
        revert sent unknown
        cases payload.machine.state <;> decide) (by decide) nofun
    have cancelling : result.facts.cancelIntentPersisted =
        payload.machine.facts.cancelIntentPersisted := by
      obtain ⟨-, changed, -, -⟩ := advance_ok step
      rw [← Except.ok.inj changed]
    have stepped : advance object.snapshot .restartRecovery = .ok result := standing.agrees ▸ step
    have standing' := standing.step [("source", .text "restart")] step (by rw [recovering]; decide)
    rw [if_neg (by revert sent; cases payload.machine.state <;> simp [sentStates]),
      if_neg (by revert sent; cases payload.machine.state <;> simp [sentStates]),
      if_pos (by revert sent unknown; cases payload.machine.state <;> simp [sentStates])]
    refine .next (outcome_transition standing.writes standing.held stepped) ?_
    exact (absorbs_recovered standing' recovering answering positive held).congr recovering
      (fun _ => cancelling) rfl

theorem legal_resume_iff (standing : Standing oracle object payload)
    (positive : ∀ orderId, payload.data.brokerOrderId = some orderId → 0 < orderId)
    (intent : payload.machine.state ∈ sentStates → payload.data.intent.isSome = true)
    (answering : Answering oracle payload.data reply)
    {evidence : SessionEvidence} (valid : evidence.validate = .ok ()) (ready : evidence.ready = true) :
    Legal ((resume true evidence).outcome oracle object) ↔
      ¬ (payload.machine.state ∈ sentStates ∧
        stops ⟨.unknown, payload.machine.facts⟩ payload.data reply = true) := by
  by_cases sent : payload.machine.state ∈ sentStates
  · simpa [sent] using (absorbs_resume standing positive intent answering evidence sent).legal_iff
  · unfold resume
    rw [legal_next_iff (outcome_read oracle object), standing.agrees]
    simp only [sent, false_and, not_false_eq_true, iff_true]
    refine legal_ite (fun idle => ?_) fun begun => legal_ite (fun _ => legal_returned) fun resting =>
      legal_ite (fun live => ?_) fun _ => legal_ite (fun unknown => ?_) fun _ => ?_
    · have step := advance_sessionReady standing.sound (by simpa using idle) valid ready
      rw [outcome_transition standing.writes standing.held (standing.agrees ▸ step)]
      exact legal_returned
    · exact absurd (by revert live; simp [sentStates]; tauto) sent
    · exact absurd (by simp [unknown, sentStates]) sent
    · have fatal := advance_fatal standing.sound standing.live
      rw [if_neg (by revert sent; cases payload.machine.state <;> simp [sentStates])] at fatal
      obtain ⟨result, step, -⟩ := fatal
      rw [outcome_transition standing.writes standing.held (standing.agrees ▸ step)]
      exact legal_returned

structure Restarting (oracle : (command : Command) → Except Exc (Result command))
    (payload : Payload) : Prop where
  writes : Writes oracle
  acquired : oracle .mutexAcquire = .ok ()
  released : oracle .mutexRelease = .ok ()
  existed : oracle .journalExists = .ok true
  stored : oracle .journalRead = .ok payload

/-- A restart gets as far as asking the broker, and the answer stops the machine. -/
def ReopenStops (oracle : (command : Command) → Except Exc (Result command)) (payload : Payload)
    (reply : Except Exc BrokerOrder) : Prop :=
  Bindable oracle payload.data ∧ Ready oracle ∧ payload.machine.state ∈ sentStates ∧
    stops ⟨.unknown, payload.machine.facts⟩ payload.data reply = true

theorem sessionEvidence_error {evidence : SessionEvidence} {exc : Exc}
    (invalid : evidence.validate = .error exc) : exc.isIllegal = false := by
  unfold SessionEvidence.validate at invalid
  split_ifs at invalid
  cases invalid
  rfl

theorem absorbs_openBody (restarting : Restarting oracle payload)
    (consistent : payload.Consistent executionId) (live : payload.machine.state ∉ restingStates)
    (answering : Answering oracle payload.data reply) (fresh : object.payload = none)
    (bindable : Bindable oracle payload.data) (started : Ready oracle)
    (sent : payload.machine.state ∈ sentStates) :
    Absorbed ⟨.unknown, payload.machine.facts⟩ payload.data reply
      ((openBody executionId).outcome oracle object) := by
  unfold openBody
  refine .next (consistent.opens fresh restarting.existed restarting.stored) ?_
  refine .next (outcome_update _ _ _) ?_
  have standing : Standing oracle
      { object with snapshot := payload.machine, payload := some payload } payload :=
    ⟨restarting.writes, rfl, rfl, consistent.sound, live⟩
  obtain ⟨after, verification, returns, standing'⟩ := outcome_bindOrMatch standing bindable
  obtain ⟨evidence, answered, valid, ready⟩ := started
  refine .next returns (.next (outcome_answered answered) ?_)
  refine .next ((outcome_ofExcept _ _ _).trans (congrArg (·, _) valid)) ?_
  rw [if_neg (by simp [ready])]
  have resumed := absorbs_resume standing' consistent.positive consistent.sent
    (answering.congr rfl rfl) evidence sent
  refine Absorbed.bind (resumed.congr rfl (fun _ => rfl) rfl) fun _ _ => ?_
  exact ⟨_, _, rfl, rfl⟩

theorem legal_openBody_iff (restarting : Restarting oracle payload) (civil : Civil oracle)
    (consistent : payload.Consistent executionId) (live : payload.machine.state ∉ restingStates)
    (answering : Answering oracle payload.data reply) (fresh : object.payload = none) :
    Legal ((openBody executionId).outcome oracle object) ↔ ¬ ReopenStops oracle payload reply := by
  unfold openBody
  rw [legal_next_iff (consistent.opens fresh restarting.existed restarting.stored),
    legal_next_iff (outcome_update _ _ _)]
  have standing : Standing oracle
      { object with snapshot := payload.machine, payload := some payload } payload :=
    ⟨restarting.writes, rfl, rfl, consistent.sound, live⟩
  by_cases bindable : Bindable oracle payload.data
  · obtain ⟨after, verification, returns, standing'⟩ := outcome_bindOrMatch standing bindable
    rw [legal_next_iff returns]
    rcases answered : oracle .verifySession with exc | evidence
    · have unready : ¬ Ready oracle := by
        rintro ⟨evidence, same, -⟩
        cases answered.symm.trans same
      simp only [ReopenStops, unready, false_and, and_false, not_false_eq_true, iff_true]
      refine legal_bind (legal_ask civil _) fun _ _ returned => ?_
      cases (congrArg Prod.fst returned).symm.trans answered
    · rw [legal_next_iff (outcome_answered answered)]
      have known (other : SessionEvidence) (same : oracle .verifySession = .ok other) :
          other = evidence := Except.ok.inj (same.symm.trans answered)
      rcases valid : evidence.validate with exc | ⟨⟩
      · have unready : ¬ Ready oracle := by
          rintro ⟨other, same, invalid, -⟩
          cases (known other same ▸ invalid).symm.trans valid
        simp only [ReopenStops, unready, false_and, and_false, not_false_eq_true, iff_true]
        refine legal_bind (legal_raised (sessionEvidence_error valid)) fun _ _ returned => ?_
        cases returned
      · rw [legal_next_iff (outcome_ofExcept _ _ _)]
        cases ready : evidence.ready with
        | false =>
            have unready : ¬ Ready oracle := by
              rintro ⟨other, same, -, other_ready⟩
              cases (known other same ▸ other_ready).symm.trans ready
            simp only [ReopenStops, unready, false_and, and_false, not_false_eq_true, iff_true]
            exact legal_raised (by rfl)
        | true =>
            have started : Ready oracle := ⟨evidence, answered, valid, ready⟩
            simp only [ReopenStops, bindable, started, true_and]
            refine (legal_bind_iff fun _ _ => legal_returned).trans ?_
            exact legal_resume_iff standing' consistent.positive consistent.sent
              (answering.congr rfl rfl) valid ready
  · simp only [ReopenStops, bindable, false_and, not_false_eq_true, iff_true]
    exact legal_bind (legal_bindOrMatch standing civil) fun _ _ returns =>
      absurd (bindOrMatch_returns standing returns) bindable

theorem mutexRelease_returns (released : oracle .mutexRelease = .ok ()) (object : SessionState) :
    ∃ after, mutexRelease.outcome oracle object = (.ok (), after) := by
  cases owned : object.mutexOwned
  · exact ⟨object, by simp [mutexRelease, owned]⟩
  · exact ⟨_, by simp [mutexRelease, owned, outcome_answered released]; rfl⟩

theorem legal_released {body : SessionM ExecutionSnapshot}
    (released : oracle .mutexRelease = .ok ()) :
    Legal ((do
      match ← attempt body with
      | .ok out => pure out
      | .error exc =>
          mutexRelease
          raise exc).outcome oracle object) ↔ Legal (body.outcome oracle object) := by
  simp only [outcome_bind, outcome_attempt]
  rcases body.outcome oracle object with ⟨exc | out, after⟩
  · obtain ⟨freed, returns⟩ := mutexRelease_returns released after
    simp only [outcome_bind, returns, outcome_raise]
    exact ⟨fun legal => legal_raised (legal exc rfl), fun legal => legal_raised (legal exc rfl)⟩
  · exact ⟨fun _ => legal_returned, fun _ => legal_returned⟩

theorem absorbs_released {body : SessionM ExecutionSnapshot} {machine : MachineSnapshot}
    {data : JournalData} (released : oracle .mutexRelease = .ok ())
    (absorbed : Absorbed machine data reply (body.outcome oracle object)) :
    Absorbed machine data reply ((do
      match ← attempt body with
      | .ok out => pure out
      | .error exc =>
          mutexRelease
          raise exc).outcome oracle object) := by
  simp only [outcome_bind, outcome_attempt]
  rcases same : body.outcome oracle object with ⟨exc | out, after⟩
  · rw [same] at absorbed
    obtain ⟨freed, returns⟩ := mutexRelease_returns released after
    simp only [outcome_bind, returns, outcome_raise]
    have stopped : stops machine data reply = true := by
      by_contra free
      obtain ⟨out, returned⟩ := absorbed.returned (by simpa using free)
      cases returned
    obtain ⟨other, raised, illegal⟩ := absorbed.stopped stopped
    exact .raising stopped (Except.error.inj raised ▸ illegal)
  · rw [same] at absorbed
    exact absorbed

theorem mutexAcquire_returns (acquired : oracle .mutexAcquire = .ok ()) :
    mutexAcquire.outcome oracle {} = (.ok (), { mutexOwned := true }) := by
  simp [mutexAcquire, outcome_answered acquired]

theorem legal_openSession_iff (restarting : Restarting oracle payload) (civil : Civil oracle)
    (consistent : payload.Consistent executionId) (live : payload.machine.state ∉ restingStates)
    (answering : Answering oracle payload.data reply) :
    Legal ((openSession executionId).outcome oracle {}) ↔ ¬ ReopenStops oracle payload reply := by
  refine Iff.trans ?_ (legal_openBody_iff restarting civil consistent live answering
    (show ({ mutexOwned := true } : SessionState).payload = none from rfl))
  refine (legal_next_iff (outcome_read _ _)).trans ?_
  refine (legal_next_iff (mutexAcquire_returns restarting.acquired)).trans ?_
  exact legal_released restarting.released

theorem absorbs_openSession (restarting : Restarting oracle payload)
    (consistent : payload.Consistent executionId) (live : payload.machine.state ∉ restingStates)
    (answering : Answering oracle payload.data reply) (bindable : Bindable oracle payload.data)
    (started : Ready oracle) (sent : payload.machine.state ∈ sentStates) :
    Absorbed ⟨.unknown, payload.machine.facts⟩ payload.data reply
      ((openSession executionId).outcome oracle {}) := by
  refine .next (outcome_read _ _) ?_
  refine .next (mutexAcquire_returns restarting.acquired) ?_
  refine absorbs_released restarting.released ?_
  exact absorbs_openBody restarting consistent live answering rfl bindable started sent

end ExecutionSession

/-- As long as no write has failed, the file holds what the session holds. -/
theorem intact_disk {config : SessionConfig} {trace : Trace} (guarded : Trace.Guarded config trace)
    (intact : (Ledger.ofTrace trace).failed = false) {payload : Payload}
    (memory : (Ledger.ofTrace trace).memory = some payload) :
    (Ledger.ofTrace trace).disk = some payload := by
  induction guarded with
  | initial trace first =>
      subst first
      cases memory
  | call before after command answer guarded permitted law ih =>
      obtain ⟨law, rfl⟩ := law
      by_cases quiet : command.isQuiet = true
      · obtain ⟨memory', disk', -, -, failed'⟩ :=
          Ledger.after_quiet (Ledger.ofTrace before) answer quiet
        exact disk'.trans (ih (failed'.symm.trans intact) (memory'.symm.trans memory))
      · cases command with
        | journalRead =>
            cases answer with
            | ok read =>
                cases memory
                exact law
            | error exc => exact ih intact memory
        | journalWrite writer written =>
            cases answer with
            | ok _ =>
                rw [Ledger.ofTrace, Ledger.written_disk]
                exact (Ledger.written_memory _ _ _ _).symm.trans memory
            | error exc =>
                have failed := Ledger.written_failed (Ledger.ofTrace before) writer written exc
                exact absurd (failed.symm.trans intact) (by decide)
        | placeOrder request => exact ih intact memory
        | _ => exact absurd rfl quiet

/-- Nothing goes wrong with the files of the session, and nothing outside it raises an
exception of the state machine. -/
structure Undisturbed (oracle : (command : Command) → Except Exc (Result command))
    (trace : Trace) : Prop where
  writes : Writes oracle
  acquired : oracle .mutexAcquire = .ok ()
  released : oracle .mutexRelease = .ok ()
  existed : (oracle .journalExists).isOk = true
  stored : (oracle .journalRead).isOk = true
  file : ∀ command, trace.FileLaw command (oracle command)
  civil : Civil oracle

theorem Undisturbed.restarting {oracle : (command : Command) → Except Exc (Result command)}
    {trace : Trace} (undisturbed : Undisturbed oracle trace) {payload : Payload}
    (disk : (Ledger.ofTrace trace).disk = some payload) :
    ExecutionSession.Restarting oracle payload where
  writes := undisturbed.writes
  acquired := undisturbed.acquired
  released := undisturbed.released
  existed := by
    have answers := undisturbed.existed
    have law := undisturbed.file .journalExists
    rcases existed : oracle .journalExists with exc | answer
    · simp [existed, Except.isOk, Except.toBool] at answers
    · rw [existed] at law
      exact congrArg Except.ok (law.trans (by rw [disk]; rfl))
  stored := by
    have answers := undisturbed.stored
    have law := undisturbed.file .journalRead
    rcases stored : oracle .journalRead with exc | answer
    · simp [stored, Except.isOk, Except.toBool] at answers
    · rw [stored] at law
      exact congrArg Except.ok (Option.some.inj (law.symm.trans disk))

open ExecutionSession in
/-- The state in which each operation applies the answer about its order, and that the answer ends
there as it must: in UNKNOWN or FAILED where it cannot be adopted. -/
structure Applies (oracle : (command : Command) → Except Exc (Result command))
    (executionId : String) (object : SessionState) (payload : Payload)
    (reply : Except Exc BrokerOrder) : Prop where
  poll : asks payload = true →
    Absorbed payload.machine payload.data reply (ExecutionSession.poll.outcome oracle object)
  reconcile : payload.machine.state ∈ reconciledStates →
    Absorbed payload.machine payload.data reply ((reconcile ExecutionSession.poll).outcome oracle object)
  cancelSent : payload.machine.state ∈ activeStates → Accepts oracle payload.data →
    Absorbed ⟨.cancelling, payload.machine.facts⟩ payload.data reply
      ((cancel ExecutionSession.poll).outcome oracle object)
  cancelRejected : payload.machine.state ∈ activeStates → Refuses oracle payload.data →
    Absorbed ⟨.cancelRejected, payload.machine.facts⟩ payload.data reply
      ((cancel ExecutionSession.poll).outcome oracle object)
  submit : ∀ request orderId placed, payload.machine.state = .waitTrigger →
    payload.data.intent = none → payload.data.assertIdentityUnused request = .ok () →
    request.checkNotional = .ok () → Accepting oracle request →
    oracle (.placeOrder request) = .ok orderId → 0 < orderId →
    Answering oracle { payload.data.withIntent request with brokerOrderId := some orderId } placed →
    Absorbed ⟨.accepted, payload.machine.facts⟩ payload.data placed
      ((submit ExecutionSession.poll ExecutionSession.ports request).outcome oracle object)
  reopen : Bindable oracle payload.data → Ready oracle → payload.machine.state ∈ sentStates →
    Absorbed ⟨.unknown, payload.machine.facts⟩ payload.data reply
      ((openSession executionId).outcome oracle {})

open ExecutionSession in
/-- Whatever the broker answers about the order, an operation of a session in a state that is
not yet final raises an exception of the state machine exactly when the answer stops the
machine in the state in which the operation applies it; an answer that cannot be adopted and
does not stop it leaves the session UNKNOWN or FAILED. -/
theorem broker_answers_legal {config : SessionConfig}
    {phase : Phase Command Result SessionState Exc Operation (Option ExecutionSnapshot)}
    {trace : Trace} (run : SessionReachable config phase trace)
    (intact : (Ledger.ofTrace trace).failed = false) {object : SessionState}
    (idle : phase = .idle object) (opened : object.isOpen = true)
    (unclosed : object.closed = false) (owned : object.mutexOwned = true) {payload : Payload}
    (held : object.payload = some payload) (live : object.snapshot.state ∉ restingStates)
    {oracle : (command : Command) → Except Exc (Result command)}
    (undisturbed : Undisturbed oracle trace) {reply : Except Exc BrokerOrder}
    (answering : Answering oracle payload.data reply) :
    (Legal (poll.outcome oracle object) ↔
      ¬ (asks payload = true ∧ stops payload.machine payload.data reply = true)) ∧
    (Legal ((reconcile poll).outcome oracle object) ↔
      ¬ (payload.machine.state ∈ reconciledStates ∧
        stops payload.machine payload.data reply = true)) ∧
    (Legal ((cancel poll).outcome oracle object) ↔
      ¬ (payload.machine.state ∈ activeStates ∧ Refuses oracle payload.data ∧
        recedes payload.data reply = true)) ∧
    (∀ request, Legal ((submit poll ExecutionSession.ports request).outcome oracle object)) ∧
    (Legal ((openSession config.executionId).outcome oracle {}) ↔
      ¬ ReopenStops oracle payload reply) ∧
    Applies oracle config.executionId object payload reply := by
  subst idle
  obtain ⟨lawful, guarded⟩ := run.lawful (session_follows config)
  obtain ⟨other, settled, -⟩ := lawful opened
  obtain rfl : payload = other := Option.some.inj (held.symm.trans settled.held)
  have consistent := Trace.Guarded.consistent guarded (.inl settled.memory)
  have moving : payload.machine.state ∉ restingStates := settled.snapshot ▸ live
  have serving : Serving oracle config.executionId object payload :=
    ⟨⟨undisturbed.writes, held, settled.snapshot, consistent.sound, moving⟩, opened, unclosed,
      owned, consistent⟩
  have civil := undisturbed.civil
  have restarting := undisturbed.restarting (intact_disk guarded intact settled.memory)
  exact ⟨legal_poll_iff serving answering, legal_reconcile_iff serving answering,
    legal_cancel_iff serving civil answering, legal_submit serving civil,
    legal_openSession_iff restarting civil consistent moving answering,
    { poll := fun asked => absorbs_poll serving asked answering
      reconcile := fun asked => absorbs_reconcile serving asked answering
      cancelSent := fun active => (cancel_ends serving civil answering active).1
      cancelRejected := fun active => (cancel_ends serving civil answering active).2.1
      submit := fun request orderId placed state fresh unused priced accepting places positive about =>
        absorbs_submit serving accepting state fresh unused priced places positive about
      reopen := fun bindable started sent =>
        absorbs_openSession restarting consistent moving answering bindable started sent }⟩

/-- An order of which 50 have been filled. -/
def partialRun : List SessionDeed :=
  [.start] ++ call .openSession ++
    call (.submit sampleRequest) { order := .ok (sampleOrder .partiallyFilled 50) }

theorem partial_run_open : ∃ object payload, (sessionRun plainConfig partialRun).1 = .idle object ∧
    object.isOpen = true ∧ object.closed = false ∧ object.mutexOwned = true ∧
    object.payload = some payload ∧ object.snapshot.state = .partiallyFilled ∧
    payload.data.brokerOrderId = some 7 ∧ payload.data.intent = some (.ofRequest sampleRequest) ∧
    payload.machine.state = .partiallyFilled ∧
    payload.data.formalVerification = some ⟨sampleDigest, sampleDigest⟩ ∧
    ExecutionSession.movedBackwards payload.data (sampleOrder .unknown 50) = false := by
  have found : ((sessionRun plainConfig partialRun).1.memory.bind fun object =>
      object.payload.map fun payload => (object.isOpen && !object.closed && object.mutexOwned) &&
        (object.snapshot.state = .partiallyFilled && (payload.data.brokerOrderId = some 7 &&
          (payload.data.intent = some (.ofRequest sampleRequest) &&
            (payload.machine.state = .partiallyFilled &&
              (payload.data.formalVerification = some ⟨sampleDigest, sampleDigest⟩ &&
                !ExecutionSession.movedBackwards payload.data (sampleOrder .unknown 50))))))) =
      some true := by
    decide +kernel
  obtain ⟨object, memory, found⟩ := Option.bind_eq_some_iff.1 found
  obtain ⟨payload, held, facts⟩ := Option.map_eq_some_iff.1 found
  simp only [Bool.and_eq_true, Bool.not_eq_true', decide_eq_true_eq] at facts
  obtain ⟨⟨⟨opened, unclosed⟩, owned⟩, state, orderId, intent, partly, bound, forwards⟩ := facts
  exact ⟨object, payload, Phase.memory_eq memory, opened, unclosed, owned, held, state, orderId,
    intent, partly, bound, forwards⟩

/-- After a restart the broker reports 30 of the 50: an order with the durable identity, and
`open` raises InvalidTransition. -/
theorem backward_fill_illegal : ∃ object payload,
    (sessionRun plainConfig partialRun).1 = .idle object ∧
    (Ledger.ofTrace (sessionRun plainConfig partialRun).2).failed = false ∧
    object.snapshot.state = .partiallyFilled ∧ object.payload = some payload ∧
    ExecutionSession.validateIdentity payload.data (sampleOrder .partiallyFilled 30) = .ok () ∧
    ∃ exc, ((ExecutionSession.openSession plainConfig.executionId).outcome
      (Replies.answer { order := .ok (sampleOrder .partiallyFilled 30) }
        (sessionRun plainConfig partialRun).2) {}).1 = .error exc ∧ exc.cls = .invalidTransition := by
  obtain ⟨object, payload, idle, -, -, -, held, state, orderId, intent, -⟩ := partial_run_open
  have raised : (match ((ExecutionSession.openSession plainConfig.executionId).outcome
      (Replies.answer { order := .ok (sampleOrder .partiallyFilled 30) }
        (sessionRun plainConfig partialRun).2) {}).1 with
      | .error exc => some exc.cls
      | .ok _ => none) = some .invalidTransition := by decide +kernel
  refine ⟨object, payload, idle, by decide +kernel, state, held, ?_, ?_⟩
  · exact ExecutionSession.validate_identity_ok.2
      ⟨_, intent, .inr (by rw [orderId]; rfl), rfl, rfl, rfl, .inr rfl, .inl rfl⟩
  · split at raised
    · rename_i exc same
      exact ⟨exc, same, Option.some.inj raised⟩
    · cases raised

/-- From then on the broker refuses to cancel and reports a status that it does not name. -/
def evasive : (command : Command) → Except Exc (Result command) :=
  Replies.answer { order := .ok (sampleOrder .unknown 50), cancel := .ok .rejected }
    (sessionRun plainConfig partialRun).2

theorem broker_answers_legal_partial : ∃ object, (sessionRun plainConfig partialRun).1 = .idle object ∧
    (ExecutionSession.poll.outcome evasive object).2.snapshot.state ∈
      [TradeState.unknown, .failed] ∧
    ((ExecutionSession.reconcile ExecutionSession.poll).outcome evasive object).2.snapshot.state ∈
      [TradeState.unknown, .failed] ∧
    ((ExecutionSession.cancel ExecutionSession.poll).outcome evasive object).2.snapshot.state ∈
      [TradeState.unknown, .failed] ∧
    ((ExecutionSession.openSession plainConfig.executionId).outcome evasive {}).2.snapshot.state ∈
      [TradeState.unknown, .failed] := by
  obtain ⟨object, payload, idle, opened, unclosed, owned, held, state, orderId, intent, partly,
    bound, forwards⟩ := partial_run_open
  have run := session_run_reachable plainConfig partialRun
  have disk : (Ledger.ofTrace (sessionRun plainConfig partialRun).2).disk.isSome = true := by
    decide +kernel
  obtain ⟨file, disk⟩ := Option.isSome_iff_exists.1 disk
  have undisturbed : Undisturbed evasive (sessionRun plainConfig partialRun).2 := by
    refine ⟨fun _ _ => rfl, rfl, rfl, rfl, ?_, Replies.fileLaw _ _, ?_⟩
    · simp [evasive, Replies.answer, disk, Except.isOk, Except.toBool]
    · intro command exc raised
      cases command <;> simp [evasive, Replies.answer, disk] at raised
  have answering : Answering evasive payload.data (.ok (sampleOrder .unknown 50)) := by
    refine ⟨fun _ _ => rfl, fun none => ?_, fun order same => ?_, fun order _ _ none => ?_,
      fun exc raised => by cases raised⟩
    · rw [orderId] at none
      cases none
    · cases same
      exact ExecutionSession.validate_identity_ok.2
        ⟨_, intent, .inr (by rw [orderId]; rfl), rfl, rfl, rfl, .inr rfl, .inl rfl⟩
    · rw [orderId] at none
      cases none
  obtain ⟨-, -, -, -, -, applies⟩ := broker_answers_legal run (by decide +kernel) idle opened
    unclosed owned held (by rw [state]; decide) undisturbed answering
  have declined (machine : MachineSnapshot) :
      declines machine payload.data (.ok (sampleOrder .unknown 50)) = true := by
    simp [declines, refused, sampleOrder]
  have free (machine : MachineSnapshot) (sent : machine.state ∉ unsentStates) :
      stops machine payload.data (.ok (sampleOrder .unknown 50)) = false := by
    have status : (sampleOrder .unknown 50).status = .unknown := rfl
    simp [stops, stuck, forwards, sent, status]
  have active : payload.machine.state ∈ ExecutionSession.activeStates := by rw [partly]; decide
  have moved : payload.machine.state ∉ unsentStates := by rw [partly]; decide
  exact ⟨object, idle,
    (applies.poll (by simp [ExecutionSession.asks, orderId])).declined (free _ moved) (declined _),
    (applies.reconcile (by rw [partly]; decide)).declined (free _ moved) (declined _),
    (applies.cancelRejected active ⟨7, orderId, rfl, .inl rfl⟩).declined
      (free _ (by simp [unsentStates])) (declined _),
    (applies.reopen ⟨_, rfl, .inl bound⟩ ⟨_, rfl, rfl, rfl⟩ (by rw [partly]; decide)).declined
      (free _ (by simp [unsentStates])) (declined _)⟩

end QmtExecution
