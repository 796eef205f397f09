import QmtExecution.Guarantees.Reopening
import QmtExecution.Protocol.Tenure

/-! Every operation of a coordinated session is orderly: what is sent, what is released and what is
cleared go in step, whatever the broker and the coordinator answer. -/

namespace QmtExecution

open Interaction Method

def Trace.placements (trace : Trace) : Nat := trace.countP Event.isPlacement

theorem placements_grow (event : Event) (trace : Trace) :
    Trace.placements trace ≤ Trace.placements (event :: trace) := by
  unfold Trace.placements
  rw [List.countP_cons]
  omega

/-- The execution in memory is resolved, or an order has been sent since so many were. -/
def Trace.Concluded (earlier : Nat) (trace : Trace) : Prop :=
  (∀ payload, (Ledger.ofTrace trace).memory = some payload →
    executionFinality payload.machine = .resolved) ∨ earlier < trace.placements

/-- The execution of `request` is SUBMITTED, and no order had been sent when so many were. -/
structure Handing (object : SessionState) (trace : Trace) (request : ExecutionRequest)
    (payload : Payload) (earlier : Nat) : Prop extends Bearing object trace payload where
  state : payload.machine.state = .submitted
  intent : payload.data.intent = some (.ofRequest request)
  unnumbered : payload.data.brokerOrderId = none
  earlier : earlier ≤ trace.placements

/-- `place_order` has been called for the request and has been answered so. -/
structure Answered (trace : Trace) (request : ExecutionRequest) (answer : Except Exc Int)
    (earlier : Nat) : Prop where
  placed : (Ledger.ofTrace trace).placed = some (request, answer)
  spent : (Ledger.ofTrace trace).armed = none
  later : earlier < trace.placements

section Submit

variable {config : SessionConfig} {object : SessionState} {trace : Trace} {payload : Payload}
  {request : ExecutionRequest} {selfPoll : SessionM ExecutionSnapshot} {earlier : Nat}

theorem Cleared.of_vacant (vacant : trace.tenure ≠ .held) : Cleared trace payload := fun _ => vacant

theorem Handing.held (handing : Handing object trace request payload earlier) :
    payload.data.intent.isSome = true := Option.isSome_of_eq_some handing.intent

theorem Handing.told (handing : Handing object trace request payload earlier) {command : Command}
    (quiet : command.isQuiet = true) (answer : Except Exc (Result command)) :
    Handing object (⟨command, answer⟩ :: trace) request payload earlier :=
  ⟨handing.toBearing.told quiet answer handing.held, handing.state, handing.intent,
    handing.unnumbered, handing.earlier.trans (placements_grow _ _)⟩

theorem Handing.cleared (handing : Handing object trace request payload earlier) :
    Cleared trace payload := by
  apply Cleared.of_sent
  rw [handing.state]
  decide

theorem Handing.ready (handing : Handing object trace request payload earlier)
    {answer : Except Exc Int} (answered : Answered trace request answer earlier) :
    Ready object trace payload :=
  ⟨handing.toBearing, fun _ => handing.unnumbered, fun _ => answered.spent⟩

theorem Settled.concluded (settled : Settled object trace payload)
    (resolved : executionFinality payload.machine = .resolved) : trace.Concluded earlier := by
  refine .inl fun other memory => ?_
  cases settled.memory.symm.trans memory
  exact resolved

theorem Settled.waits (settled : Settled object trace payload)
    (waiting : payload.machine.state ∈ [TradeState.waitTrigger, .trigger, .preCheck, .rejected]) :
    trace.Concluded earlier := by
  apply settled.concluded
  revert waiting
  unfold executionFinality
  cases payload.machine.state <;> simp

theorem later_frame {α : Type} {method : SessionM α} {ok err : SessionState → Trace → Prop}
    (meets : Orderly method object trace (fun _ => ok) (fun _ => err))
    (later : earlier < trace.placements) :
    Orderly method object trace (fun _ object after => ok object after ∧ after.Concluded earlier)
      (fun _ object after => err object after ∧ after.Concluded earlier) := by
  have kept := meets.frame (fun trace command reply after (later : earlier < trace.placements)
      (law : trace.regular command reply after) => by
    obtain ⟨⟨-, rfl⟩, -⟩ := law
    exact later.trans_le (placements_grow _ _)) later
  apply Meets.weaken kept
  · intro _ _ after post
    exact ⟨post.1, .inr post.2⟩
  · intro _ _ after post
    exact ⟨post.1, .inr post.2⟩

theorem hands_freshCash (handing : Handing object trace request payload earlier)
    (vacant : trace.tenure ≠ .held) :
    Orderly (CoordinatedExecutionSession.freshCash config request) object trace
      (fun _ object after => Handing object after request payload earlier)
      (fun _ object after => Handing object after request payload earlier ∧ after.tenure ≠ .held) := by
  simp only [CoordinatedExecutionSession.freshCash, Orderly, meets_ite, meets_raise, meets_bind,
    meets_attempt, CoordinatedExecutionSession.freshCash.estimated]
  refine ⟨fun _ => ⟨handing, vacant⟩, fun _ => ?_⟩
  refine orderly_ask (show trace.orderly .queryAsset from trivial) (fun asset _ _ => ?_)
    fun exc _ => ?_
  · have handing' : Handing object (⟨.queryAsset, .ok asset⟩ :: trace) request payload earlier :=
      handing.told rfl _
    refine orderly_ask (show Trace.orderly _ (.estimate request asset) from trivial)
      (fun estimate _ _ => handing'.told rfl _) fun exc _ => ?_
    exact ⟨fun _ => ⟨handing'.told rfl _, vacant⟩, fun _ => ⟨handing'.told rfl _, vacant⟩⟩
  · exact ⟨fun _ => ⟨handing.told rfl _, vacant⟩, fun _ => ⟨handing.told rfl _, vacant⟩⟩

theorem hands_prepare {available required : CashArgument}
    (handing : Handing object trace request payload earlier) :
    Orderly (do
      match ← attempt (ask (.prepare config.accountKey config.executionId request available
        required)) with
      | .ok () => pure ()
      | .error exc =>
          if exc.isA .coordinationError then
            raise ⟨.brokerSubmissionRejected,
              "shared-account coordination rejected submit before broker side effect: " ++
                exc.message⟩
          else raise exc) object trace
      (fun _ object after => Handing object after request payload earlier)
      (fun _ object after => Handing object after request payload earlier ∧ after.tenure ≠ .held) := by
  refine (meets_bind _ _).2 ((meets_attempt _).2 ?_)
  apply orderly_ask (show trace.orderly (.prepare _ _ request available required) from trivial)
  · intro value _ _
    exact handing.told rfl _
  · intro exc _
    have refused : Handing object (⟨.prepare config.accountKey config.executionId request available
        required, .error exc⟩ :: trace) request payload earlier := handing.told rfl _
    have doubtful : Trace.tenure (⟨.prepare config.accountKey config.executionId request available
        required, .error exc⟩ :: trace) ≠ .held := by
      simp [Trace.tenure, Event.tenure, Except.isOk, Except.toBool]
    exact (meets_ite _ _ _).2 ⟨fun _ => ⟨refused, doubtful⟩, fun _ => ⟨refused, doubtful⟩⟩

theorem hands_coordination (handing : Handing object trace request payload earlier)
    (vacant : trace.tenure ≠ .held) :
    Orderly (CoordinatedExecutionSession.coordinateBeforeSubmit config request) object trace
      (fun _ object after => Handing object after request payload earlier)
      (fun _ object after => Handing object after request payload earlier ∧ after.tenure ≠ .held) := by
  unfold CoordinatedExecutionSession.coordinateBeforeSubmit
  cases side : request.side with
  | buy =>
      refine (meets_bind _ _).2 (Meets.weaken (hands_freshCash handing vacant) ?_ fun _ _ _ h => h)
      rintro ⟨available, required⟩ object' after handing'
      exact hands_prepare handing'
  | sell => exact hands_prepare handing

theorem released_tenure (answer : Except Exc Unit) :
    Trace.tenure (⟨.updateFinality config.accountKey config.executionId request .resolved, answer⟩ ::
      trace) ≠ .held := by
  cases answer <;> simp [Trace.tenure, Event.tenure, Except.isOk, Except.toBool]

theorem hands_sidecar (handing : Handing object trace request payload earlier) :
    Orderly (CoordinatedExecutionSession.runProjectSidecar config request) object trace
      (fun _ object after => Handing object after request payload earlier)
      (fun _ object after => Handing object after request payload earlier ∧ after.tenure ≠ .held) := by
  unfold CoordinatedExecutionSession.runProjectSidecar
  refine (meets_bind _ _).2 ((meets_attempt _).2 ?_)
  apply orderly_ask (show trace.orderly (.beforeBrokerSubmit request) from trivial)
  · intro value _ _
    exact handing.told rfl _
  · intro exc _
    have handing' : Handing object (⟨.beforeBrokerSubmit request, .error exc⟩ :: trace) request
        payload earlier := handing.told rfl _
    refine (meets_bind _ _).2 ?_
    apply orderly_ask (show Trace.orderly _ (.updateFinality _ _ request _) from trivial)
    · intro value _ _
      exact ⟨handing'.told rfl _, released_tenure _⟩
    · intro raised _
      exact ⟨handing'.told rfl _, released_tenure _⟩

theorem Answered.told {answer : Except Exc Int} (answered : Answered trace request answer earlier)
    {other : ExecutionRequest} {finality : ExecutionFinality} {reply : Except Exc Unit} :
    Answered (⟨.updateFinality config.accountKey config.executionId other finality, reply⟩ :: trace)
      request answer earlier := by
  obtain ⟨-, -, armed, placed, -⟩ := @Ledger.after_quiet
    (.updateFinality config.accountKey config.executionId other finality) (Ledger.ofTrace trace) reply rfl
  exact ⟨placed.trans answered.placed, armed.trans answered.spent,
    answered.later.trans_le (placements_grow _ _)⟩

theorem hands_placeOrder (handing : Handing object trace request payload earlier) :
    Orderly (CoordinatedExecutionSession.placeOrder config request) object trace
      (fun orderId object after => Handing object after request payload earlier ∧
        Answered after request (.ok orderId) earlier)
      (fun exc object after => Handing object after request payload earlier ∧
        ∃ raised, Answered after request (.error raised) earlier ∧
          (exc.isA .brokerSubmissionRejected = false → exc.isA .brokerError = true →
            raised.isA .brokerSubmissionRejected = false)) := by
  have placed (answer : Except Exc Int) :
      Handing object (⟨.placeOrder request, answer⟩ :: trace) request payload earlier := by
    refine ⟨⟨⟨handing.settled.held, handing.settled.snapshot, handing.settled.memory⟩,
      handing.sound, handing.intended, ?_⟩, handing.state, handing.intent, handing.unnumbered,
      handing.earlier.trans (placements_grow _ _)⟩
    intro missing
    rw [handing.intent] at missing
    cases missing
  have answered (answer : Except Exc Int) :
      Answered (⟨.placeOrder request, answer⟩ :: trace) request answer earlier := by
    refine ⟨rfl, rfl, ?_⟩
    have grown : Trace.placements (⟨.placeOrder request, answer⟩ :: trace) = trace.placements + 1 :=
      List.countP_cons_of_pos rfl
    have before := handing.earlier
    omega
  unfold CoordinatedExecutionSession.placeOrder
  refine (meets_bind _ _).2 ((meets_attempt _).2 ?_)
  apply orderly_ask (show trace.orderly (.placeOrder request) from trivial)
  · intro orderId _ _
    exact ⟨placed _, answered _⟩
  · intro exc _
    refine (meets_ite _ _ _).2 ⟨fun rejected => ?_, fun accepted => ?_⟩
    · refine (meets_bind _ _).2 ?_
      apply orderly_ask (show Trace.orderly _ (.updateFinality _ _ request _) from trivial)
      · intro value _ _
        refine ⟨(placed _).told rfl _, exc, (answered _).told, ?_⟩
        intro other
        rw [rejected] at other
        cases other
      · intro raised regular
        refine ⟨(placed _).told rfl _, exc, (answered _).told, ?_⟩
        intro _ foreign
        rw [show raised.isA .brokerError = false from regular] at foreign
        cases foreign
    · have definite : exc.isA .brokerSubmissionRejected = false := by simpa using accepted
      exact (meets_ite _ _ _).2 ⟨fun _ => ⟨placed _, exc, answered _, fun _ _ => definite⟩,
        fun _ => ⟨placed _, exc, answered _, fun _ _ => definite⟩⟩

theorem primes_submitToBroker (polls : Polls selfPoll)
    (handing : Handing object trace request payload earlier) :
    Orderly (ExecutionSession.submitToBroker selfPoll (CoordinatedExecutionSession.ports config)
      request) object trace (fun _ object after => Primed object after ∧ after.Concluded earlier)
      (fun _ object after => Balanced object after ∧ after.Concluded earlier) := by
  unfold ExecutionSession.submitToBroker
  refine (meets_bind _ _).2 ((meets_attempt _).2 ?_)
  apply Meets.weaken (hands_placeOrder handing)
  · rintro orderId object' after ⟨handing', answered⟩
    have left : Balanced object' after ∧ after.Concluded earlier :=
      ⟨(handing'.ready answered).balanced handing'.cleared, .inr answered.later⟩
    simp only [meets_bind, ExecutionJournal.persistBrokerOrderId, meets_ite, meets_raise]
    refine ⟨fun _ => left, fun _ => ?_⟩
    refine orderly_journal_requireOpen handing'.settled ?_
    refine ⟨fun _ => left, fun _ => ?_⟩
    refine orderly_writeData handing'.toBearing rfl trivial ?_
    intro object₁ bearing
    refine orderly_transition bearing (fun _ => ⟨request, orderId, answered.placed⟩) (by decide)
      ?_ ?_
    · -- an accepted submission is always a step of the machine
      intro exc refused
      have edge : transitions payload.machine.state .submitAccepted = some .accepted := by
        rw [handing'.state]
        rfl
      obtain ⟨result, step, -⟩ := advance_enabled handing'.sound edge (by decide)
        (fun same => by cases same)
      rw [step] at refused
      cases refused
    · intro snapshot object₂ step ready
      have sent : snapshot.state ∈ sentStates := by
        have edge := (advance_ok step).1
        rw [handing'.state] at edge
        rw [← Option.some.inj edge]
        decide
      apply later_frame (polls _ _ (ready.balanced (.of_sent sent)))
      exact answered.later.trans_le ((placements_grow _ _).trans (placements_grow _ _))
  · rintro exc object' after ⟨handing', raised, answered, definite⟩
    have ready := handing'.ready answered
    refine (meets_ite _ _ _).2 ⟨fun _ => ?_, fun accepted => (meets_ite _ _ _).2 ⟨fun broker => ?_,
      fun _ => ⟨ready.balanced handing'.cleared, .inr answered.later⟩⟩⟩
    · apply later_frame _ answered.later
      exact primes_transition ready handing'.cleared (fun _ => trivial) (by decide)
    · apply later_frame _ answered.later
      apply primes_transition ready handing'.cleared _ (by decide)
      intro _
      exact ⟨request, raised, answered.placed, definite (by simpa using accepted) broker⟩

theorem balances_abort {event : TradeEvent} {details : Details}
    (handing : Handing object trace request payload earlier) (vacant : trace.tenure ≠ .held)
    (which : event = .preBrokerRejected ∨ event = .preBrokerAborted) :
    Orderly (ExecutionSession.transition event details) object trace
      (fun _ object after => Squared object after ∧ after.Concluded earlier)
      (fun _ object after => Balanced object after ∧ after.Concluded earlier) := by
  refine orderly_transition handing.toBearing ?_ ?_ ?_ ?_
  · intro _
    rcases which with rfl | rfl <;> exact trivial
  · rcases which with rfl | rfl <;> decide
  · intro exc refused
    obtain ⟨next, edge⟩ : ∃ next, transitions payload.machine.state event = some next := by
      rw [handing.state]
      rcases which with rfl | rfl
      · exact ⟨_, rfl⟩
      · exact ⟨_, rfl⟩
    obtain ⟨result, step, -⟩ := advance_enabled handing.sound edge
      (by rcases which with rfl | rfl <;> decide) (by rcases which with rfl | rfl <;> nofun)
    rw [step] at refused
    cases refused
  · intro snapshot object' step ready
    refine ⟨ready.squared (.of_vacant vacant), ready.settled.concluded ?_⟩
    obtain ⟨edge, changed, -, -⟩ := advance_ok step
    rw [handing.state] at edge
    rw [Payload.record_machine]
    unfold executionFinality
    rcases which with rfl | rfl
    · simp [← Option.some.inj edge]
    · simp [← Option.some.inj edge, ← Except.ok.inj changed]

theorem primes_submitIntent (polls : Polls selfPoll)
    (handing : Handing object trace request payload earlier) (vacant : trace.tenure ≠ .held) :
    Orderly (ExecutionSession.submitIntent selfPoll (CoordinatedExecutionSession.ports config)
      request) object trace (fun _ object after => Primed object after ∧ after.Concluded earlier)
      (fun _ object after => Balanced object after ∧ after.Concluded earlier) := by
  unfold ExecutionSession.submitIntent
  refine (meets_bind _ _).2 ((meets_attempt _).2 ?_)
  apply Meets.weaken (hands_coordination handing vacant)
  · rintro - object₁ trace₁ handing₁
    refine (meets_bind _ _).2 ((meets_attempt _).2 ?_)
    apply Meets.weaken (hands_sidecar handing₁)
    · rintro - object₂ trace₂ handing₂
      exact primes_submitToBroker polls handing₂
    · rintro exc object₂ trace₂ ⟨handing₂, vacant₂⟩
      refine (meets_bind _ _).2 (Meets.weaken (balances_abort handing₂ vacant₂ (.inr rfl)) ?_ ?_)
      · rintro - _ _ ⟨squared, sent⟩
        exact ⟨squared.balanced, sent⟩
      · intro _ _ _ balanced
        exact balanced
  · rintro exc object₁ trace₁ ⟨handing₁, vacant₁⟩
    refine (meets_ite _ _ _).2 ⟨fun _ => ?_, fun _ => ?_⟩
    · refine (meets_bind _ _).2 (Meets.weaken (balances_abort handing₁ vacant₁ (.inl rfl)) ?_ ?_)
      · rintro - _ _ ⟨squared, sent⟩
        exact ⟨squared.primed, sent⟩
      · intro _ _ _ balanced
        exact balanced
    · refine (meets_bind _ _).2 (Meets.weaken (balances_abort handing₁ vacant₁ (.inr rfl)) ?_ ?_)
      · rintro - _ _ ⟨squared, sent⟩
        exact ⟨squared.balanced, sent⟩
      · intro _ _ _ balanced
        exact balanced

theorem primes_persistIntent (config : SessionConfig) (polls : Polls selfPoll)
    (request : ExecutionRequest) (ready : Ready object trace payload)
    (vacant : trace.tenure ≠ .held) (checked : payload.machine.state = .preCheck)
    (before : earlier ≤ trace.placements)
    (clean : payload.data.intent = none → payload.data.brokerOrderId = none) :
    Orderly (do
      ExecutionJournal.persistIntent request
      ExecutionSession.transition .intentPersisted
        [("client_order_id", .text request.clientOrderId)]
      ExecutionSession.submitIntent selfPoll (CoordinatedExecutionSession.ports config) request)
      object trace (fun _ object after => Primed object after ∧ after.Concluded earlier)
      (fun _ object after => Balanced object after ∧ after.Concluded earlier) := by
  have moved : payload.machine.state ≠ .submitted := by
    rw [checked]
    decide
  have left : Balanced object trace ∧ trace.Concluded earlier :=
    ⟨ready.balanced (.of_vacant vacant), ready.settled.waits (by simp [checked])⟩
  simp only [ExecutionJournal.persistIntent, ExecutionJournal.assertIdentityUnused, Orderly,
    meets_bind]
  refine orderly_journal_requireOpen ready.settled ?_
  refine orderly_ofExcept (fun _ _ => ?_) fun _ _ => left
  refine orderly_journal_requireOpen ready.settled ?_
  simp only [meets_ite, meets_raise, meets_bind]
  refine ⟨fun _ => left, fun missing => ?_⟩
  have none : payload.data.intent = none := not_not.1 missing
  refine orderly_ofExcept (fun _ _ => ?_) fun _ _ => left
  refine orderly_ofExcept (fun _ _ => ?_) fun _ _ => left
  simp only [ExecutionJournal.writeData, meets_bind]
  refine orderly_journal_requireOpen ready.settled (orderly_write trivial ?_)
  have bearing : Bearing
      { object with payload := some { payload with data := payload.data.withIntent request } }
      (⟨.journalWrite (.persistIntent request)
        { payload with data := payload.data.withIntent request }, .ok ()⟩ :: trace)
      { payload with data := payload.data.withIntent request } := by
    refine ⟨ready.settled.data _ _ _, ready.sound, ?_, ?_⟩
    · intro intent held
      cases held
      exact ⟨request, rfl⟩
    · intro missing
      cases missing
  refine orderly_advance bearing (fun submitted => absurd submitted moved) ?_ ?_
  · intro exc _
    refine ⟨(Ready.of_moved bearing moved).balanced (.of_vacant vacant), ?_⟩
    exact bearing.settled.waits (by simp [checked])
  · intro snapshot object' step bearing'
    have submitted : snapshot.state = .submitted := transitions_intentPersisted (advance_ok step).1
    refine primes_submitIntent polls ⟨bearing', submitted, rfl, clean none, ?_⟩ vacant
    exact before.trans ((placements_grow _ _).trans (placements_grow _ _))

structure SessionState.Waiting (object : SessionState) : Prop where
  isOpen : object.isOpen = true
  unclosed : object.closed = false
  owned : object.mutexOwned = true
  state : object.snapshot.state = .waitTrigger

theorem primes_submit (polls : Polls selfPoll) (request : ExecutionRequest)
    (balanced : Balanced object trace)
    (clean : ∀ payload, (Ledger.ofTrace trace).memory = some payload → payload.data.intent = none →
      payload.data.brokerOrderId = none) :
    Orderly (ExecutionSession.submit selfPoll (CoordinatedExecutionSession.ports config) request)
      object trace
      (fun _ object after => Primed object after ∧ after.Concluded trace.placements)
      (fun _ object' after => Balanced object' after ∧
        (object.Waiting → after.Concluded trace.placements)) := by
  have refused {message : Exc} (other : ¬ object.Waiting) : Orderly (raise message) object trace
      (fun (_ : ExecutionSnapshot) object after => Primed object after ∧
        after.Concluded trace.placements)
      (fun _ object' after => Balanced object' after ∧
        (object.Waiting → after.Concluded trace.placements)) :=
    ⟨balanced, fun waiting => absurd waiting other⟩
  unfold ExecutionSession.submit
  simp only [ExecutionSession.requireOpen, Orderly, meets_bind, meets_read, meets_ite, meets_raise,
    meets_pure]
  refine ⟨fun shut => ⟨balanced, fun waiting => ?_⟩, fun opened => ?_⟩
  · simp [waiting.isOpen, waiting.unclosed, waiting.owned] at shut
  simp only [Bool.or_eq_true, not_or] at opened
  obtain ⟨payload, ready, cleared⟩ := balanced (by simpa using opened.1.1)
  refine ⟨fun elsewhere => ⟨balanced, fun waiting => absurd waiting.state elsewhere⟩, fun waits => ?_⟩
  rw [ready.settled.snapshot] at waits
  have waiting : payload.machine.state = .waitTrigger := not_not.1 waits
  have vacant : trace.tenure ≠ .held := by
    apply cleared
    simp [executionFinality, waiting]
  have left {object' : SessionState} {after : Trace} {payload : Payload}
      (ready : Ready object' after payload) (vacant : after.tenure ≠ .held)
      (waiting : payload.machine.state ∈ [TradeState.waitTrigger, .trigger, .preCheck, .rejected]) :
      Balanced object' after ∧ (object.Waiting → after.Concluded trace.placements) :=
    ⟨ready.balanced (.of_vacant vacant), fun _ => ready.settled.waits waiting⟩
  have waits : payload.machine.state ∈ [TradeState.waitTrigger, .trigger, .preCheck, .rejected] := by
    simp [waiting]
  refine orderly_ask (show trace.orderly .executionHealthy from trivial) (fun healthy _ _ => ?_)
    fun exc _ => left (ready.quiet rfl _ rfl) vacant waits
  have ready₀ : Ready object (⟨.executionHealthy, .ok healthy⟩ :: trace) payload :=
    ready.quiet rfl _ rfl
  refine ⟨fun _ => left ready₀ vacant waits, fun _ => ?_⟩
  simp only [ExecutionJournal.assertIdentityUnused, meets_bind]
  refine orderly_journal_requireOpen ready₀.settled ?_
  refine orderly_ofExcept (fun _ _ => ?_) fun _ _ => left ready₀ vacant waits
  have unsent : payload.machine.state ≠ .submitted := by
    rw [waiting]
    decide
  refine orderly_transition ready₀.toBearing (fun submitted => absurd submitted unsent) (by decide)
    (fun _ _ => left ready₀ vacant waits) ?_
  intro snapshot₁ object₁ step₁ ready₁
  have triggered : snapshot₁.state = .trigger := by
    have edge := (advance_ok step₁).1
    rw [waiting] at edge
    exact (Option.some.inj edge).symm
  refine orderly_transition ready₁.toBearing
    (fun submitted => absurd submitted (advance_moved step₁ (by decide))) (by decide)
    (fun _ _ => left ready₁ vacant (by simp [triggered])) ?_
  intro snapshot₂ object₂ step₂ ready₂
  have checking : snapshot₂.state = .preCheck := by
    have edge := (advance_ok step₂).1
    rw [Payload.record_machine, triggered] at edge
    exact (Option.some.inj edge).symm
  have waits₂ : snapshot₂.state ∈ [TradeState.waitTrigger, .trigger, .preCheck, .rejected] := by
    simp [checking]
  have moved₂ := advance_moved step₂ (by decide)
  refine orderly_ask (show Trace.orderly _ (.verify request) from trivial) (fun evidence _ _ => ?_)
    fun exc _ => left (ready₂.quiet rfl _ rfl) vacant waits₂
  have ready₃ : Ready object₂ (⟨.verify request, .ok evidence⟩ :: _) _ := ready₂.quiet rfl _ rfl
  refine orderly_ofExcept (fun _ _ => ⟨fun _ => ?_, fun _ => ?_⟩) fun _ _ => left ready₃ vacant waits₂
  · refine orderly_transition ready₃.toBearing (fun submitted => absurd submitted moved₂) (by decide)
      (fun _ _ => left ready₃ vacant waits₂) ?_
    intro snapshot₄ object₄ step₄ ready₄
    have rejected : snapshot₄.state = .rejected := by
      have edge := (advance_ok step₄).1
      rw [Payload.record_machine, checking] at edge
      exact (Option.some.inj edge).symm
    exact ⟨⟨_, ready₄⟩, ready₄.settled.waits (by simp [rejected])⟩
  · refine orderly_transition ready₃.toBearing (fun submitted => absurd submitted moved₂) (by decide)
      (fun _ _ => left ready₃ vacant waits₂) ?_
    intro snapshot₄ object₄ step₄ ready₄
    have checked : snapshot₄.state = .preCheck := by
      have edge := (advance_ok step₄).1
      rw [Payload.record_machine, checking] at edge
      exact (Option.some.inj edge).symm
    have began : trace.placements ≤ Trace.placements (⟨.executionHealthy, .ok healthy⟩ :: trace) :=
      placements_grow _ _
    have primes : Orderly _ object₄ _ _ (fun _ object' after => Balanced object' after ∧
        (object.Waiting → after.Concluded trace.placements)) :=
      Meets.weaken (primes_persistIntent config polls request ready₄ vacant checked
        ((((began.trans (placements_grow _ _)).trans (placements_grow _ _)).trans
          (placements_grow _ _)).trans (placements_grow _ _)) (clean payload ready.settled.memory))
        (fun _ _ _ post => post) fun _ _ _ post => ⟨post.1, fun _ => post.2⟩
    simpa only [Orderly, meets_bind] using primes

end Submit

section Lifecycle

variable {config : SessionConfig} {object : SessionState} {trace : Trace} {payload : Payload}

theorem next_cycle_resolved {machine : MachineSnapshot}
    (edge : (transitions machine.state .nextCycle).isSome = true) :
    executionFinality machine = .resolved := by
  revert edge
  unfold executionFinality
  cases machine.state <;> simp [transitions]

theorem squares_nextCycle (balanced : Balanced object trace) :
    Orderly ExecutionSession.nextCycle object trace
      (fun _ object after => Squared object after ∧ ∃ payload,
        (Ledger.ofTrace after).memory = some payload ∧ payload.data.intent = none)
      (fun _ => Balanced) := by
  unfold ExecutionSession.nextCycle
  refine (meets_bind _ _).2 (orderly_requireOpen balanced fun payload ready cleared => ?_)
  simp only [meets_bind, meets_read, meets_ite, ready.settled.snapshot, meets_raise]
  refine ⟨fun _ => balanced, fun enabled => ?_⟩
  have edge : (transitions payload.machine.state .nextCycle).isSome = true := by
    simpa [Option.isNone_iff_eq_none, Option.isSome_iff_ne_none] using enabled
  have resolved := next_cycle_resolved edge
  have vacant : trace.tenure ≠ .held := cleared resolved
  refine orderly_transition ready.toBearing ?_ (by decide) (fun _ _ => balanced) ?_
  · intro submitted
    rw [submitted] at edge
    cases edge
  · intro snapshot object₁ step ready₁
    simp only [ExecutionJournal.clearCycleData, meets_bind]
    refine orderly_journal_requireOpen ready₁.settled (orderly_write vacant ?_)
    refine ⟨Ready.squared (.of_moved ⟨ready₁.settled.data _ _ _, ready₁.sound, ?_, fun _ => vacant⟩
      (advance_moved step (by decide))) (.of_vacant vacant), _, Ledger.written_memory _ _ _ _, rfl⟩
    intro intent held
    cases held

theorem Balanced.of_closed (closed : object.isOpen = false) : Balanced object trace := by
  intro opened
  rw [closed] at opened
  cases opened

theorem Balanced.congr {object' : SessionState} (balanced : Balanced object trace)
    (held : object'.payload = object.payload) (snapshot : object'.snapshot = object.snapshot)
    (opened : object'.isOpen = true → object.isOpen = true) : Balanced object' trace := by
  intro isOpen
  obtain ⟨payload, level⟩ := balanced (opened isOpen)
  exact ⟨payload, { level with settled := level.settled.congr held snapshot }⟩

theorem Balanced.quiet (balanced : Balanced object trace) {command : Command}
    (quiet : command.isQuiet = true) (answer : Except Exc (Result command))
    (untold : Event.tenure ⟨command, answer⟩ = none) :
    Balanced object (⟨command, answer⟩ :: trace) := by
  intro opened
  obtain ⟨payload, ready, cleared⟩ := balanced opened
  exact ⟨payload, ready.quiet quiet answer untold, cleared.congr (tenure_kept untold trace) rfl⟩

theorem balances_mutexRelease {ok : Unit → SessionState → Trace → Prop}
    (balanced : Balanced object trace)
    (next : ∀ object' after, Balanced object' after → object'.isOpen = object.isOpen →
      ok () object' after) :
    Orderly ExecutionSession.mutexRelease object trace ok (fun _ => Balanced) := by
  simp only [ExecutionSession.mutexRelease, Orderly, meets_bind, meets_read, meets_ite, meets_pure,
    meets_update]
  have released : Balanced { object with mutexOwned := false } trace := balanced.congr rfl rfl id
  refine ⟨fun _ => next _ _ balanced rfl, fun _ => ?_⟩
  apply orderly_ask (show trace.orderly .mutexRelease from trivial)
  · intro value _ _
    exact next _ _ (released.quiet rfl _ rfl) rfl
  · intro exc _
    exact released.quiet rfl _ rfl

theorem balances_close (balanced : Balanced object trace) :
    Orderly ExecutionSession.close object trace (fun _ => Balanced) (fun _ => Balanced) := by
  simp only [ExecutionSession.close, Orderly, meets_bind, meets_read, meets_ite, meets_pure]
  refine ⟨fun _ => balanced, fun _ => balances_mutexRelease balanced fun _ _ _ _ => ?_⟩
  exact .of_closed rfl

/-- What the journal file must be for a new process to find its bearings. -/
structure Trace.Found (trace : Trace) : Prop where
  sound : ∀ payload, (Ledger.ofTrace trace).disk = some payload → payload.machine.Sound
  intended : ∀ payload, (Ledger.ofTrace trace).disk = some payload →
    ∀ intent, payload.data.intent = some intent → ∃ request, intent = .ofRequest request
  owned : trace.tenure = .held →
    ∃ payload, (Ledger.ofTrace trace).disk = some payload ∧ payload.data.intent ≠ none

structure Entering (object : SessionState) (trace : Trace) (payload : Payload) : Prop where
  bearing : Bearing object trace payload
  closed : object.isOpen = false
  idle : (Ledger.ofTrace trace).armed = none ∧ (Ledger.ofTrace trace).placed = none ∨
    payload.machine.state ≠ .submitted

theorem enters_openJournal (found : trace.Found) (closed : object.isOpen = false) :
    Orderly (ExecutionJournal.openJournal config.executionId) object trace
      (fun machine object after => ∃ payload,
        Entering { object with snapshot := machine.1 } after payload ∧
          (machine.2 = false → payload.machine.state = .idle))
      (fun _ object _ => object.isOpen = false) := by
  unfold ExecutionJournal.openJournal
  simp only [meets_bind, meets_read, meets_ite, meets_raise]
  refine ⟨fun _ => closed, fun _ => orderly_ask (show trace.orderly .journalExists from trivial)
    (fun existed law _ => ?_) fun _ _ => closed⟩
  refine ⟨fun _ => ?_, fun missing => ?_⟩
  · refine (meets_attempt _).2 (orderly_ask (show Trace.orderly _ .journalRead from trivial)
      (fun payload stored _ => ?_) fun exc _ => ?_)
    · simp only [meets_bind, meets_update, ExecutionJournal.machineSnapshot,
        ExecutionJournal.requireOpen, meets_read, meets_pure]
      refine orderly_ofExcept (fun _ _ => orderly_ofExcept (fun _ _ => ?_) fun _ _ => closed)
        fun _ _ => closed
      have stored : (Ledger.ofTrace trace).disk = some payload := stored
      refine ⟨payload, ⟨⟨⟨rfl, rfl, rfl⟩, found.sound payload stored,
        found.intended payload stored, ?_⟩, closed, .inl ⟨rfl, rfl⟩⟩, fun fresh => by cases fresh⟩
      intro missing held
      obtain ⟨other, disk, intent⟩ := found.owned held
      cases stored.symm.trans disk
      exact intent missing
    · simp only [meets_ite, meets_raise]
      exact ⟨fun _ => closed, fun _ => closed⟩
  · have absent : (Ledger.ofTrace trace).disk = none := by
      have law : existed = (Ledger.ofTrace trace).disk.isSome := law
      simpa [missing] using law.symm
    simp only [meets_pure]
    refine orderly_write trivial ?_
    refine ⟨.create config.executionId, ⟨⟨⟨rfl, rfl, rfl⟩, MachineSnapshot.Sound.initial, ?_, ?_⟩,
      closed, .inr (show TradeState.idle ≠ .submitted by decide)⟩, fun _ => rfl⟩
    · intro intent held
      cases held
    · intro _ held
      obtain ⟨payload, disk, -⟩ := found.owned held
      rw [absent] at disk
      cases disk

theorem Bearing.congr {object' : SessionState} (bearing : Bearing object trace payload)
    (held : object'.payload = object.payload) (snapshot : object'.snapshot = object.snapshot) :
    Bearing object' trace payload :=
  { bearing with settled := bearing.settled.congr held snapshot }

theorem Entering.quiet (entering : Entering object trace payload) {command : Command}
    (quiet : command.isQuiet = true) (answer : Except Exc (Result command))
    (untold : Event.tenure ⟨command, answer⟩ = none) :
    Entering object (⟨command, answer⟩ :: trace) payload := by
  refine ⟨entering.bearing.quiet quiet answer untold, entering.closed, ?_⟩
  obtain ⟨-, -, armed, placed, -⟩ := Ledger.after_quiet (Ledger.ofTrace trace) answer quiet
  apply entering.idle.imp_left
  intro idle
  exact ⟨armed.trans idle.1, placed.trans idle.2⟩

theorem enters_bindOrMatch (entering : Entering object trace payload) :
    Orderly ExecutionSession.bindOrMatch object trace
      (fun _ object after => ∃ payload', Entering object after payload' ∧
        payload'.machine = payload.machine)
      (fun _ object _ => object.isOpen = false) := by
  have closed := entering.closed
  unfold ExecutionSession.bindOrMatch
  refine (meets_bind _ _).2 (orderly_ask (show trace.orderly .verifyStateMachine from trivial)
    (fun verification _ _ => ?_) fun _ _ => closed)
  have entering' : Entering object (⟨.verifyStateMachine, .ok verification⟩ :: trace) payload :=
    entering.quiet rfl _ rfl
  refine (meets_bind _ _).2 (orderly_journal_requireOpen entering'.bearing.settled ?_)
  split
  · unfold ExecutionJournal.bindVerification
    simp only [meets_ite, meets_raise, meets_bind, ExecutionJournal.writeData]
    refine ⟨fun _ => closed, fun _ => ⟨fun _ => closed, fun _ => ?_⟩⟩
    refine orderly_journal_requireOpen entering'.bearing.settled ?_
    refine orderly_journal_requireOpen entering'.bearing.settled (orderly_write trivial ?_)
    exact ⟨_, ⟨entering'.bearing.data _ rfl, closed, entering'.idle⟩, rfl⟩
  · simp only [meets_ite, meets_raise, meets_pure]
    exact ⟨fun _ => closed, fun _ => ⟨payload, entering', rfl⟩⟩

theorem primes_resume {existed : Bool} {evidence : SessionEvidence}
    (entering : Entering object trace payload)
    (fresh : existed = false → payload.machine.state = .idle) :
    Orderly (ExecutionSession.resume existed evidence) object trace (fun _ => Primed)
      (fun _ => Balanced) := by
  have bearing := entering.bearing
  have closed : Balanced object trace := .of_closed entering.closed
  simp only [ExecutionSession.resume, Orderly, meets_bind, meets_read, meets_ite, meets_pure,
    bearing.settled.snapshot]
  refine ⟨fun unused => ?_, fun used => ⟨fun resting => ?_, fun unrested => ⟨fun _ => ?_,
    fun settledOrder => ⟨fun unknown => ?_, fun known => ?_⟩⟩⟩⟩
  · have idle : payload.machine.state = .idle := by
      rcases unused with missing | idle
      · exact fresh (by simpa using missing)
      · exact idle
    refine orderly_transition bearing ?_ (by decide) (fun _ _ => closed) ?_
    · intro submitted
      rw [idle] at submitted
      cases submitted
    · intro snapshot object' step ready
      exact ⟨_, ready⟩
  · refine ⟨payload, .of_moved bearing fun submitted => ?_⟩
    simp [submitted] at resting
  · refine orderly_transition bearing ?_ (by decide) (fun _ _ => closed) ?_
    · intro submitted
      exact entering.idle.resolve_right (fun moved => moved submitted)
    · intro snapshot object' step ready
      have unknown : snapshot.state = .unknown := transitions_restartRecovery (advance_ok step).1
      refine (meets_bind _ _).2 (Meets.weaken (primes_recoverUnknown ready unknown) ?_ ?_)
      · intro _ _ _ primed
        exact primed
      · intro _ _ _ balanced
        exact balanced
  · have ready : Ready object trace payload := .of_unknown bearing unknown
    refine (meets_bind _ _).2 (Meets.weaken (primes_recoverUnknown ready unknown) ?_ ?_)
    · intro _ _ _ primed
      exact primed
    · intro _ _ _ balanced
      exact balanced
  · refine orderly_transition bearing ?_ (by decide) (fun _ _ => closed) ?_
    · intro submitted
      simp [submitted] at settledOrder
    · intro snapshot object' step ready
      exact ⟨_, ready⟩

theorem primes_openBody (found : trace.Found) (closed : object.isOpen = false) :
    Orderly (ExecutionSession.openBody config.executionId) object trace (fun _ => Primed)
      (fun _ => Balanced) := by
  unfold ExecutionSession.openBody
  refine (meets_bind _ _).2 (Meets.weaken (enters_openJournal found closed) ?_
    fun _ _ _ closed => .of_closed closed)
  rintro ⟨machine, existed⟩ object₁ trace₁ ⟨payload₁, entering₁, fresh⟩
  simp only [meets_bind, meets_update]
  refine Meets.weaken (enters_bindOrMatch entering₁) ?_ fun _ _ _ closed => .of_closed closed
  rintro - object₂ trace₂ ⟨payload₂, entering₂, same⟩
  have closed₂ : ∀ trace, Balanced object₂ trace := fun _ => .of_closed entering₂.closed
  refine orderly_ask (show Trace.orderly _ .verifySession from trivial) (fun evidence _ _ => ?_)
    fun _ _ => closed₂ _
  refine orderly_ofExcept (fun _ _ => (meets_ite _ _ _).2 ⟨fun _ => closed₂ _, fun _ => ?_⟩)
    fun _ _ => closed₂ _
  refine (meets_bind _ _).2 (Meets.weaken (primes_resume (entering₂.quiet rfl _ rfl) ?_) ?_ ?_)
  · intro missing
    rw [same]
    exact fresh missing
  · rintro - object₃ trace₃ ⟨payload₃, ready₃⟩
    simp only [meets_bind, meets_update]
    exact primes_snapshot ⟨payload₃, { ready₃ with settled := ready₃.settled.congr rfl rfl }⟩
  · intro _ _ _ balanced
    exact balanced

theorem primes_openSession (found : trace.Found) (balanced : Balanced object trace) :
    Orderly (ExecutionSession.openSession config.executionId) object trace (fun _ => Primed)
      (fun _ => Balanced) := by
  simp only [ExecutionSession.openSession, Orderly, meets_bind, meets_read, meets_ite, meets_raise]
  refine ⟨fun _ => balanced, fun _ => ⟨fun opened => primes_snapshot (balanced opened).primed,
    fun unopened => ?_⟩⟩
  have closed : object.isOpen = false := by simpa using unopened
  simp only [ExecutionSession.mutexAcquire, meets_bind, meets_read, meets_ite, meets_raise,
    meets_update]
  refine ⟨fun _ => balanced, fun _ => orderly_ask (show trace.orderly .mutexAcquire from trivial)
    (fun _ _ _ => ?_) fun _ _ => balanced.quiet rfl _ rfl⟩
  refine (meets_attempt _).2 (Meets.weaken (primes_openBody ?_ closed) ?_ ?_)
  · exact ⟨found.sound, found.intended, found.owned⟩
  · intro _ _ _ primed
    exact primed
  · intro exc object' after balanced'
    simp only [meets_bind, meets_raise]
    exact balances_mutexRelease balanced' fun _ _ balanced _ => balanced

end Lifecycle

section Ruled

variable {config : SessionConfig} {trace : Trace}

theorem Trace.Ruled.guarded (ruled : Trace.Ruled config trace) : Trace.Guarded config trace :=
  Guarded.widen (fun _ _ permitted => permitted.1) (fun _ _ _ _ law => law.1) ruled

theorem Ledger.unfailed_after {ledger : Ledger} {command : Command}
    {answer : Except Exc (Result command)} (regular : Event.Regular ⟨command, answer⟩)
    (unfailed : ledger.failed = false) : (ledger.after command answer).failed = false := by
  by_cases quiet : command.isQuiet = true
  · exact (after_quiet ledger answer quiet).2.2.2.2.trans unfailed
  · cases command with
    | journalRead => cases answer <;> exact unfailed
    | journalWrite writer payload =>
        cases answer with
        | ok _ => cases writer <;> exact unfailed
        | error exc => cases regular
    | placeOrder request => exact unfailed
    | _ => exact absurd rfl quiet

theorem Trace.Ruled.unfailed (ruled : Trace.Ruled config trace) :
    (Ledger.ofTrace trace).failed = false := by
  induction ruled with
  | initial trace first =>
      subst first
      rfl
  | call before after command answer ruled permitted law ih =>
      obtain ⟨⟨-, rfl⟩, regular⟩ := law
      exact Ledger.unfailed_after regular ih

/-- Rows that the session knows of are those of a durable intent. -/
theorem ruled_owned (ruled : Trace.Ruled config trace) (held : trace.tenure = .held) :
    ∃ payload, (Ledger.ofTrace trace).disk = some payload ∧ payload.data.intent ≠ none := by
  induction ruled with
  | initial trace first =>
      subst first
      cases held
  | call before after command answer ruled permitted law ih =>
      obtain ⟨permitted, orderly⟩ := permitted
      obtain ⟨⟨law, rfl⟩, regular⟩ := law
      have guarded := Trace.Ruled.guarded ruled
      have carried {request : ExecutionRequest} {payload : Payload}
          (carrying : (Ledger.ofTrace before).Carrying request payload)
          (quiet : command.isQuiet = true) : ∃ payload,
            ((Ledger.ofTrace before).after command answer).disk = some payload ∧
              payload.data.intent ≠ none := by
        refine ⟨payload, ?_, carrying.2 ▸ Option.some_ne_none _⟩
        rw [(Ledger.after_quiet (Ledger.ofTrace before) answer quiet).2.1]
        exact intact_disk guarded (Trace.Ruled.unfailed ruled) carrying.1
      have unchanged (untold : Event.tenure ⟨command, answer⟩ = none)
          (same : ((Ledger.ofTrace before).after command answer).disk =
            (Ledger.ofTrace before).disk) : ∃ payload,
            ((Ledger.ofTrace before).after command answer).disk = some payload ∧
              payload.data.intent ≠ none := by
        rw [tenure_kept untold] at held
        rw [same]
        exact ih held
      cases command with
      | prepare accountKey executionId request available required =>
          obtain ⟨-, -, ⟨payload, submitting⟩, -⟩ := permitted
          exact carried ⟨submitting.memory, submitting.intent⟩ rfl
      | restore accountKey executionId request required finality =>
          obtain ⟨-, -, payload, carrying, -⟩ := permitted
          exact carried carrying rfl
      | updateFinality accountKey executionId request finality =>
          obtain ⟨-, -, payload, carrying, -⟩ := permitted
          exact carried carrying rfl
      | hasClaim accountKey executionId request =>
          obtain ⟨-, -, payload, carrying⟩ := permitted
          exact carried carrying rfl
      | journalRead =>
          apply unchanged rfl
          cases answer <;> rfl
      | placeOrder request => exact unchanged rfl rfl
      | journalWrite writer payload =>
          cases answer with
          | error exc => cases regular
          | ok done =>
              rw [tenure_kept rfl] at held
              obtain ⟨file, disk, intent⟩ := ih held
              refine ⟨payload, Ledger.written_disk _ _ _, ?_⟩
              by_cases created : writer = .create
              · subst created
                cases permitted.1.symm.trans disk
              obtain ⟨previous, memory, changes⟩ : ∃ previous,
                  (Ledger.ofTrace before).memory = some previous ∧
                    (Ledger.ofTrace before).Changes previous writer payload := by
                cases writer <;> first | exact absurd rfl created | exact permitted
              cases disk.symm.trans (intact_disk guarded (Trace.Ruled.unfailed ruled) memory)
              by_cases cleared : writer = .clearCycleData
              · subst cleared
                exact absurd held orderly
              by_cases started : ∃ request, writer = .persistIntent request
              · obtain ⟨request, rfl⟩ := started
                exact absurd changes.2.2.1 intent
              rw [(changes_keep changes (fun request same => started ⟨request, same⟩) cleared).1]
              exact intent
      | _ =>
          apply unchanged rfl
          exact (Ledger.after_quiet _ _ rfl).2.1

theorem ruled_found (ruled : Trace.Ruled config trace) : trace.Found where
  sound := fun _ disk => (Trace.Guarded.consistent ruled.guarded (.inr disk)).sound
  intended := fun _ disk _ held => guarded_requested ruled.guarded (.inr disk) held
  owned := ruled_owned ruled

theorem ruled_unnumbered (ruled : Trace.Ruled config trace) {payload : Payload}
    (memory : (Ledger.ofTrace trace).memory = some payload) (missing : payload.data.intent = none) :
    payload.data.brokerOrderId = none := by
  have clean := (Trace.Guarded.consistent ruled.guarded (.inl memory)).clean missing
  rw [clean]
  rfl

end Ruled

section Operations

variable {config : SessionConfig} {object : SessionState} {trace : Trace}

/-- What an operation leaves: after `submit` in a waiting session an open session whose execution is
resolved or whose order has been sent, after `next_cycle` a journal without an intent, and after
whatever ends with a synchronisation the rows that the execution needs. -/
def Operation.Leaves (operation : Operation) (object : SessionState) (start : Trace)
    (result : Except Exc (Option ExecutionSnapshot)) (object' : SessionState) (after : Trace) : Prop :=
  match operation with
  | .submit _ => (object.Waiting → object'.isOpen = true ∧ after.Concluded start.placements) ∧
      (result.isOk = true → after.Told)
  | .nextCycle => result.isOk = true → ∃ payload, (Ledger.ofTrace after).memory = some payload ∧
      payload.data.intent = none
  | .close => True
  | _ => result.isOk = true → after.Told

theorem concludes_sync {out : ExecutionSnapshot} {earlier : Nat} (primed : Primed object trace)
    (concluded : trace.Concluded earlier) :
    Orderly (CoordinatedExecutionSession.sync config out) object trace
      (fun _ object' after => (Balanced object' after ∧ after.Told) ∧ after.Concluded earlier)
      (fun _ object' after => Balanced object' after ∧ after.Concluded earlier) := by
  obtain ⟨payload, ready⟩ := primed
  rcases concluded with resolved | later
  · apply Meets.weaken (levels_sync ready)
    · rintro _ _ _ ⟨level, told⟩
      exact ⟨⟨level.squared.balanced, told⟩,
        level.settled.concluded (resolved _ ready.settled.memory)⟩
    · intro _ _ _ level
      exact ⟨level.squared.balanced, level.settled.concluded (resolved _ ready.settled.memory)⟩
  · apply later_frame _ later
    apply Meets.weaken (levels_sync ready)
    · rintro _ _ _ ⟨level, told⟩
      exact ⟨level.squared.balanced, told⟩
    · intro _ _ _ level
      exact level.squared.balanced

theorem concludes_submit (ruled : Trace.Ruled config trace) (balanced : Balanced object trace)
    (request : ExecutionRequest) :
    Orderly (CoordinatedExecutionSession.submit config request) object trace
      (fun out object' after => Balanced object' after ∧
        (Operation.submit request).Leaves object trace (.ok (some out)) object' after)
      (fun exc object' after => Balanced object' after ∧
        (Operation.submit request).Leaves object trace (.error exc) object' after) := by
  have concluded : Orderly (CoordinatedExecutionSession.submit config request) object trace
      (fun _ object' after => (Balanced object' after ∧ after.Told) ∧
        (object.Waiting → after.Concluded trace.placements))
      (fun _ object' after => Balanced object' after ∧
        (object.Waiting → after.Concluded trace.placements)) := by
    refine (meets_bind _ _).2 ?_
    apply Meets.weaken (primes_submit (coordinated_polls config) request balanced fun payload memory =>
      ruled_unnumbered ruled memory)
    · rintro out object' after ⟨primed, concluded⟩
      apply Meets.weaken (concludes_sync primed concluded)
      · rintro _ _ _ ⟨balanced, concluded⟩
        exact ⟨balanced, fun _ => concluded⟩
      · rintro _ _ _ ⟨balanced, concluded⟩
        exact ⟨balanced, fun _ => concluded⟩
    · intro exc object' after post
      exact post
  have robust : Robust fun object' => object.Waiting → object'.isOpen = true :=
    ⟨fun _ _ held => held, fun _ _ held => held, fun _ _ _ => rfl, fun _ _ held => held⟩
  apply Meets.weaken (concluded.keeping (robust.admits.submit (fun _ => trivial) request)
    SessionState.Waiting.isOpen)
  · rintro _ _ _ ⟨⟨⟨balanced, told⟩, concluded⟩, open'⟩
    exact ⟨balanced, fun waiting => ⟨open' waiting, concluded waiting⟩, fun _ => told⟩
  · rintro _ _ _ ⟨⟨balanced, concluded⟩, open'⟩
    refine ⟨balanced, fun waiting => ⟨open' waiting, concluded waiting⟩, fun returned => ?_⟩
    cases returned

/-- Every operation of a coordinated session is orderly. -/
theorem operation_orderly (coordinated : config.coordinated = true) (operation : Operation)
    (ruled : Trace.Ruled config trace) (balanced : Balanced object trace) :
    Orderly (runOperation config operation) object trace
      (fun out object' after => Balanced object' after ∧
        operation.Leaves object trace (.ok out) object' after)
      (fun exc object' after => Balanced object' after ∧
        operation.Leaves object trace (.error exc) object' after) := by
  have polls := coordinated_polls config
  have squared {method : SessionM ExecutionSnapshot}
      (primes : Orderly method object trace (fun _ => Primed) (fun _ => Balanced)) :
      Orderly (some <$> do
        let out ← method
        CoordinatedExecutionSession.sync config out) object trace
          (fun out object' after => Balanced object' after ∧
            ((Except.ok out : Except Exc (Option ExecutionSnapshot)).isOk = true → after.Told))
          (fun exc object' after => Balanced object' after ∧
            ((Except.error exc : Except Exc (Option ExecutionSnapshot)).isOk = true → after.Told)) := by
    refine (meets_bind _ _).2 (Meets.weaken (balances_then_sync primes) ?_ ?_)
    · rintro _ _ _ ⟨squared, told⟩
      exact ⟨squared.balanced, fun _ => told⟩
    · intro _ _ _ balanced
      refine ⟨balanced, fun returned => ?_⟩
      cases returned
  unfold runOperation
  rw [coordinated]
  cases operation with
  | openSession => exact squared (primes_openSession (ruled_found ruled) balanced)
  | close =>
      refine (meets_bind _ _).2 (Meets.weaken (balances_close balanced) ?_ ?_)
      · intro _ _ _ balanced
        exact ⟨balanced, trivial⟩
      · intro _ _ _ balanced
        exact ⟨balanced, trivial⟩
  | submit request =>
      refine (meets_bind _ _).2 (Meets.weaken (concludes_submit ruled balanced request) ?_ ?_)
      · intro _ _ _ post
        exact post
      · intro _ _ _ post
        exact post
  | poll => exact squared (primes_poll balanced)
  | reconcile => exact squared (primes_reconcile polls balanced)
  | cancel => exact squared (primes_cancel polls balanced)
  | nextCycle =>
      refine (meets_bind _ _).2 (Meets.weaken (squares_nextCycle balanced) ?_ ?_)
      · rintro _ _ _ ⟨squared, cleared⟩
        exact ⟨squared.balanced, fun _ => cleared⟩
      · intro _ _ _ balanced
        exact ⟨balanced, fun returned => by cases returned⟩

theorem session_orderly (coordinated : config.coordinated = true) :
    (sessionClass config).Follows (· = [])
      (fun (trace : Trace) command => trace.permits config command ∧ trace.orderly command)
      Trace.regular (fun object trace => Coherent object trace ∧ Balanced object trace) := by
  apply (session_follows config).beside
  · intro _ _ _ _ law
    exact law.1
  · intro _
    exact .of_closed rfl
  · intro operation object trace ruled balanced
    apply Meets.weaken (operation_orderly coordinated operation ruled balanced)
    · rintro _ _ _ ⟨balanced, -⟩
      exact balanced
    · rintro _ _ _ ⟨balanced, -⟩
      exact balanced

end Operations

end QmtExecution
