import QmtExecution.Protocol.Environment
import QmtExecution.Protocol.Walk

/-! The calls that lead up to `place_order`: whatever a session is answered, they are always the same
ones, one directly after the other. -/

namespace QmtExecution

open Interaction Method

abbrev Calm {α : Type} (method : SessionM α) : Prop :=
  method.Calls fun command => command.places = false

theorem calm_operation {config : SessionConfig} {operation : Operation}
    (other : ∀ request, operation ≠ .submit request) : Calm (runOperation config operation) := by
  by_cases closing : operation = .close
  · have closes := walks_bind (admits_calm.close fun _ _ => trivial) fun _ =>
      walks_pure (none : Option ExecutionSnapshot)
    subst closing
    unfold runOperation
    cases config.coordinated with
    | false => exact closes
    | true => exact closes
  · exact admits_calm.operation closing other

/-- The durable intent of an allowed request, as the latest calls of `submit`. -/
def Trace.Intends (trace : Trace) (request : ExecutionRequest) : Prop :=
  ∃ evidence triggered begun verified intended submitted, ∃ older : Trace,
    PrecheckEvidence.allowed evidence = true ∧ trace =
      ⟨.journalWrite (.transition .intentPersisted) submitted, .ok ()⟩ ::
      ⟨.journalWrite (.persistIntent request) intended, .ok ()⟩ ::
      ⟨.journalWrite (.transition .precheckVerified) verified, .ok ()⟩ ::
      ⟨.verify request, .ok evidence⟩ ::
      ⟨.journalWrite (.transition .beginPrecheck) begun, .ok ()⟩ ::
      ⟨.journalWrite (.transition .triggered) triggered, .ok ()⟩ ::
      ⟨.executionHealthy, .ok true⟩ :: older

def SessionConfig.Coordinates (config : SessionConfig) (request : ExecutionRequest)
    (calls : Trace) : Prop :=
  if config.coordinated then match request.side with
    | .buy => ∃ asset estimate, calls =
        [⟨.prepare config.accountKey config.executionId request (.finite (BrokerAsset.cash asset))
            (.finite (CashRequirementEstimate.requiredCash estimate)), .ok ()⟩,
          ⟨.estimate request asset, .ok estimate⟩, ⟨.queryAsset, .ok asset⟩]
    | .sell => calls =
        [⟨.prepare config.accountKey config.executionId request .missing .missing, .ok ()⟩]
  else calls = [⟨.submitCoordination request, .ok ()⟩]

/-- The project hook has returned for a request that is coordinated and durable. -/
def Trace.Approaches (trace : Trace) (config : SessionConfig) (request : ExecutionRequest) : Prop :=
  ∃ calls older, config.Coordinates request calls ∧ Trace.Intends older request ∧
    trace = ⟨.beforeBrokerSubmit request, .ok ()⟩ :: (calls ++ older)

def Trace.sequenced (config : SessionConfig) (trace : Trace) : Command → Prop
  | .placeOrder request => trace.Approaches config request
  | _ => True

/-- The method places an order only after the calls that lead up to it, and returns where `ok`. -/
def Sequences {α : Type} (config : SessionConfig) (method : SessionM α) (trace : Trace)
    (ok : α → Trace → Prop) : Prop :=
  ∀ object, method.Meets (Trace.sequenced config) Trace.answers object trace
    (fun value _ after => ok value after) (fun _ _ _ => True)

section Rules

variable {α β : Type} {config : SessionConfig} {trace : Trace} {ok : α → Trace → Prop}

theorem sequenced_calm (trace : Trace) (command : Command) (calm : command.places = false) :
    trace.sequenced config command := by
  cases command with
  | placeOrder request => cases calm
  | _ => trivial

theorem Sequences.of_calm {method : SessionM α} (calm : Calm method) :
    Sequences config method trace fun _ _ => True :=
  fun _ => calm.anywhere sequenced_calm trivial trace

theorem Sequences.weaken {method : SessionM α} {ok' : α → Trace → Prop}
    (sequences : Sequences config method trace ok) (next : ∀ value after, ok value after → ok' value after) :
    Sequences config method trace ok' := by
  intro object
  apply Meets.weaken (sequences object)
  · intro value _ after reached
    exact next value after reached
  · intro _ _ _ _
    trivial

theorem sequences_bind {method : SessionM β} {next : β → SessionM α} {middle : β → Trace → Prop}
    (first : Sequences config method trace middle)
    (rest : ∀ value after, middle value after → Sequences config (next value) after ok) :
    Sequences config (method >>= next) trace ok := by
  intro object
  apply (meets_bind _ _).2
  apply Meets.weaken (first object)
  · intro value object' after reached
    exact rest value after reached object'
  · intro _ _ _ _
    trivial

theorem sequences_attempt {method : SessionM β} {next : Except Exc β → SessionM α}
    {middle : β → Trace → Prop} (first : Sequences config method trace middle)
    (rest : ∀ value after, middle value after → Sequences config (next (.ok value)) after ok)
    (handled : ∀ exc after, Sequences config (next (.error exc)) after ok) :
    Sequences config (attempt method >>= next) trace ok := by
  intro object
  apply (meets_bind _ _).2
  apply (meets_attempt _).2
  apply Meets.weaken (first object)
  · intro value object' after reached
    exact rest value after reached object'
  · intro exc object' after _
    exact handled exc after object'

theorem sequences_ask {command : Command} (permitted : trace.sequenced config command) :
    Sequences config (ask command) trace
      fun value after => after = ⟨command, .ok value⟩ :: trace := by
  intro object
  refine (meets_perform command).2 ⟨permitted, ?_, ?_⟩
  · intro value after law
    exact law.2
  · intro _ _ _
    trivial

theorem sequences_call {command : Command} (calm : command.places = false) :
    Sequences config (ask command) trace
      fun value after => after = ⟨command, .ok value⟩ :: trace :=
  sequences_ask (sequenced_calm trace command calm)

theorem sequences_pure (value : α) :
    Sequences config (pure value) trace fun v after => v = value ∧ after = trace :=
  fun _ => ⟨rfl, rfl⟩

theorem sequences_read : Sequences config read trace fun _ after => after = trace := fun _ => rfl

theorem sequences_update (change : SessionState → SessionState) :
    Sequences config (update change) trace fun _ after => after = trace := fun _ => rfl

theorem sequences_raise (exc : Exc) : Sequences config (raise exc : SessionM α) trace ok :=
  fun _ => trivial

theorem sequences_ofExcept (outcome : Except Exc α) :
    Sequences config (ofExcept outcome) trace fun value after => outcome = .ok value ∧ after = trace := by
  intro object
  cases outcome with
  | ok v => exact ⟨rfl, rfl⟩
  | error exc => trivial

theorem sequences_requireOpen :
    Sequences config ExecutionSession.requireOpen trace fun _ after => after = trace := by
  apply sequences_bind sequences_read
  rintro self after rfl
  split_ifs
  · exact sequences_raise _
  · exact fun _ => rfl

theorem sequences_journal_requireOpen :
    Sequences config ExecutionJournal.requireOpen trace fun _ after => after = trace := by
  apply sequences_bind sequences_read
  rintro self after rfl
  split
  · exact fun _ => rfl
  · exact sequences_raise _

theorem sequences_write (writer : JournalWriter) (payload : Payload) :
    Sequences config (ExecutionJournal.write writer payload) trace
      fun _ after => after = ⟨.journalWrite writer payload, .ok ()⟩ :: trace := by
  apply sequences_bind (sequences_update _)
  rintro _ after rfl
  exact sequences_ask trivial

theorem sequences_transition (event : TradeEvent) (details : Details)
    (session : Option SessionEvidence) (precheck : Option PrecheckEvidence) :
    Sequences config (ExecutionSession.transition event details session precheck) trace
      fun _ after => ∃ payload, after = ⟨.journalWrite (.transition event) payload, .ok ()⟩ :: trace := by
  apply sequences_bind sequences_read
  rintro self after rfl
  apply sequences_bind (sequences_ofExcept _)
  rintro snapshot after ⟨-, rfl⟩
  apply sequences_bind (sequences_update _)
  rintro _ after rfl
  apply sequences_bind sequences_journal_requireOpen
  rintro payload after rfl
  apply (sequences_write _ _).weaken
  intro _ _ same
  exact ⟨_, same⟩

theorem sequences_unused (request : ExecutionRequest) :
    Sequences config (ExecutionJournal.assertIdentityUnused request) trace
      fun _ after => after = trace := by
  apply sequences_bind sequences_journal_requireOpen
  rintro payload after rfl
  apply (sequences_ofExcept _).weaken
  rintro _ _ ⟨-, same⟩
  exact same

theorem sequences_persistIntent (request : ExecutionRequest) :
    Sequences config (ExecutionJournal.persistIntent request) trace fun _ after => ∃ payload,
      after = ⟨.journalWrite (.persistIntent request) payload, .ok ()⟩ :: trace := by
  apply sequences_bind (sequences_unused request)
  rintro _ after rfl
  apply sequences_bind sequences_journal_requireOpen
  rintro payload after rfl
  split_ifs
  · exact sequences_raise _
  · apply sequences_bind (sequences_ofExcept _)
    rintro _ after ⟨-, rfl⟩
    apply sequences_bind (sequences_ofExcept _)
    rintro _ after ⟨-, rfl⟩
    apply sequences_bind sequences_journal_requireOpen
    rintro payload after rfl
    apply (sequences_write _ _).weaken
    intro _ _ same
    exact ⟨_, same⟩

end Rules

section Submit

variable {config : SessionConfig} {trace : Trace} {request : ExecutionRequest}

/-- What the two session classes make of the ports of `submit`. -/
structure Ported (config : SessionConfig) (ports : SessionPorts) : Prop where
  coordinates : ∀ request trace, Sequences config (ports.submitCoordination request) trace
    fun _ after => ∃ calls, config.Coordinates request calls ∧ after = calls ++ trace
  hooks : ∀ request trace, Sequences config (ports.beforeBrokerSubmit request) trace
    fun _ after => after = ⟨.beforeBrokerSubmit request, .ok ()⟩ :: trace
  places : ∀ request trace, Trace.Approaches trace config request →
    Sequences config (ports.placeOrder request) trace fun _ _ => True

theorem ported_plain (plain : config.coordinated = false) : Ported config ExecutionSession.ports where
  coordinates := by
    intro request trace
    apply (sequences_call rfl).weaken
    rintro _ after rfl
    refine ⟨[_], ?_, rfl⟩
    unfold SessionConfig.Coordinates
    rw [plain]
    rfl
  hooks := fun _ _ => sequences_call rfl
  places := by
    intro request trace approaches
    apply Sequences.weaken (sequences_ask (show trace.sequenced config (.placeOrder request) from approaches))
    intro _ _ _
    trivial

theorem sequences_freshCash :
    Sequences config (CoordinatedExecutionSession.freshCash config request) trace
      fun amounts after => ∃ asset estimate,
        amounts = (.finite (BrokerAsset.cash asset),
          .finite (CashRequirementEstimate.requiredCash estimate)) ∧
        after = ⟨.estimate request asset, .ok estimate⟩ :: ⟨.queryAsset, .ok asset⟩ :: trace := by
  have estimated : Sequences config (CoordinatedExecutionSession.freshCash.estimated request) trace
      fun amounts after => ∃ asset estimate,
        amounts = (.finite (BrokerAsset.cash asset),
          .finite (CashRequirementEstimate.requiredCash estimate)) ∧
        after = ⟨.estimate request asset, .ok estimate⟩ :: ⟨.queryAsset, .ok asset⟩ :: trace := by
    apply sequences_bind (sequences_call rfl)
    rintro asset after rfl
    apply sequences_bind (sequences_call rfl)
    rintro estimate after rfl
    exact fun _ => ⟨asset, estimate, rfl, rfl⟩
  unfold CoordinatedExecutionSession.freshCash
  split_ifs
  · exact sequences_raise _
  · apply sequences_attempt estimated
    · intro amounts after reached
      exact fun _ => reached
    · intro exc after
      dsimp only
      split_ifs
      · exact sequences_raise _
      · exact sequences_raise _

theorem ported_coordinated (coordinated : config.coordinated = true) :
    Ported config (CoordinatedExecutionSession.ports config) where
  coordinates := by
    intro request trace
    have prepares {available required : CashArgument} {before : Trace}
        {next : Except Exc Unit → SessionM Unit} (returns : next (.ok ()) = pure ())
        (raises : ∀ exc after {ok : Unit → Trace → Prop}, Sequences config (next (.error exc)) after ok) :
        Sequences config (attempt (ask (.prepare config.accountKey config.executionId request available
          required)) >>= next) before fun _ after => after =
            ⟨.prepare config.accountKey config.executionId request available required, .ok ()⟩ ::
              before := by
      apply sequences_attempt (sequences_call rfl)
      · rintro _ after rfl
        rw [returns]
        exact fun _ => rfl
      · intro exc after
        exact raises exc after
    show Sequences config (CoordinatedExecutionSession.coordinateBeforeSubmit config request) trace _
    unfold CoordinatedExecutionSession.coordinateBeforeSubmit SessionConfig.Coordinates
    simp only [coordinated, if_true]
    cases side : request.side with
    | buy =>
        apply sequences_bind sequences_freshCash
        rintro ⟨available, required⟩ after ⟨asset, estimate, same, rfl⟩
        cases same
        apply (prepares rfl _).weaken
        · rintro _ after rfl
          exact ⟨_, ⟨asset, estimate, rfl⟩, rfl⟩
        · intro exc after ok
          dsimp only
          split_ifs <;> exact sequences_raise _
    | sell =>
        apply sequences_bind (sequences_pure _)
        rintro _ after ⟨rfl, rfl⟩
        apply (prepares rfl _).weaken
        · rintro _ after rfl
          exact ⟨_, rfl, rfl⟩
        · intro exc after ok
          dsimp only
          split_ifs <;> exact sequences_raise _
  hooks := by
    intro request trace
    apply sequences_attempt (sequences_call rfl)
    · rintro _ after rfl
      exact fun _ => rfl
    · intro exc after
      apply sequences_bind (sequences_call rfl)
      intro _ _ _
      exact sequences_raise _
  places := by
    intro request trace approaches
    apply sequences_attempt (sequences_ask (show trace.sequenced config (.placeOrder request) from approaches))
    · intro orderId after _
      exact fun _ => trivial
    · intro exc after
      apply Sequences.of_calm
      dsimp only
      split_ifs
      · exact walks_bind (admits_calm.asks rfl) fun _ => walks_raise _
      · exact walks_raise _
      · exact walks_raise _

theorem sequences_ended (event : TradeEvent) (details : Details) (reason : String) :
    Sequences config (do ExecutionSession.transition event details; ExecutionSession.snapshot reason)
      trace fun _ _ => True := .of_calm (walks_bind (admits_calm.transition _ _ _ _) fun _ => walks_snapshot _)

theorem sequences_submitIntent {ports : SessionPorts} {selfPoll : SessionM ExecutionSnapshot}
    (ported : Ported config ports) (polls : Calm selfPoll) (intends : trace.Intends request) :
    Sequences config (ExecutionSession.submitIntent selfPoll ports request) trace fun _ _ => True := by
  apply sequences_attempt (ported.coordinates request trace)
  · rintro _ after ⟨calls, coordinates, rfl⟩
    apply sequences_attempt (ported.hooks request _)
    · rintro _ after rfl
      have approaches : Trace.Approaches (⟨.beforeBrokerSubmit request, .ok ()⟩ :: (calls ++ trace))
          config request := ⟨calls, trace, coordinates, intends, rfl⟩
      apply sequences_attempt (ported.places request _ approaches)
      · intro orderId after _
        apply Sequences.of_calm
        apply walks_bind (admits_calm.persistBrokerOrderId _)
        intro _
        exact walks_bind (admits_calm.transition _ _ _ _) fun _ => polls
      · intro exc after
        dsimp only
        split_ifs
        · exact sequences_ended _ _ _
        · exact sequences_ended _ _ _
        · exact sequences_raise _
    · intro exc after
      exact .of_calm (walks_bind (admits_calm.transition _ _ _ _) fun _ => walks_raise _)
  · intro exc after
    dsimp only
    split_ifs
    · exact sequences_ended _ _ _
    · exact .of_calm (walks_bind (admits_calm.transition _ _ _ _) fun _ => walks_raise _)

theorem sequences_submit {ports : SessionPorts} {selfPoll : SessionM ExecutionSnapshot}
    (ported : Ported config ports) (polls : Calm selfPoll) :
    Sequences config (ExecutionSession.submit selfPoll ports request) trace fun _ _ => True := by
  apply sequences_bind sequences_requireOpen
  rintro _ _ rfl
  apply sequences_bind sequences_read
  rintro self _ rfl
  split_ifs
  · exact sequences_raise _
  apply sequences_bind (sequences_call rfl)
  rintro healthy _ rfl
  cases healthy with
  | false => exact sequences_raise _
  | true =>
      apply sequences_bind (sequences_unused request)
      rintro _ _ rfl
      apply sequences_bind (sequences_transition _ _ _ _)
      rintro _ _ ⟨triggered, rfl⟩
      apply sequences_bind (sequences_transition _ _ _ _)
      rintro _ _ ⟨begun, rfl⟩
      apply sequences_bind (sequences_call rfl)
      rintro evidence _ rfl
      apply sequences_bind (sequences_ofExcept _)
      rintro _ _ ⟨-, rfl⟩
      cases allowed : evidence.allowed with
      | false => exact sequences_ended _ _ _
      | true =>
          apply sequences_bind (sequences_transition _ _ _ _)
          rintro _ _ ⟨verified, rfl⟩
          apply sequences_bind (sequences_persistIntent request)
          rintro _ _ ⟨intended, rfl⟩
          apply sequences_bind (sequences_transition _ _ _ _)
          rintro _ _ ⟨submitted, rfl⟩
          apply sequences_submitIntent ported polls
          exact ⟨evidence, triggered, begun, verified, intended, submitted, _, allowed, rfl⟩

theorem session_sequenced (config : SessionConfig) :
    (sessionClass config).Follows (· = [])
      (fun (trace : Trace) command => trace.permits config command ∧ trace.sequenced config command)
      Trace.answers (fun object trace => Coherent object trace ∧ True) := by
  apply (session_follows config).beside
  · intro _ _ _ _ law
    exact law
  · intro _
    trivial
  · intro operation object trace _ _
    show Method.Meets (Trace.sequenced config) Trace.answers (runOperation config operation) object
      trace (fun _ _ _ => True) (fun _ _ _ => True)
    by_cases submits : ∃ request, operation = .submit request
    · obtain ⟨request, rfl⟩ := submits
      have wrapped {method : SessionM ExecutionSnapshot}
          (sequences : Sequences config method trace fun _ _ => True) :
          Sequences config (some <$> method) trace fun _ _ => True :=
        sequences_bind sequences fun _ _ _ _ => trivial
      unfold runOperation
      cases coordinated : config.coordinated with
      | false => exact wrapped (sequences_submit (ported_plain coordinated) admits_calm.poll) object
      | true =>
          have submitted : Sequences config (CoordinatedExecutionSession.submit config request) trace
              fun _ _ => True := by
            apply sequences_bind
            · exact sequences_submit (ported_coordinated coordinated) admits_calm.coordinatedPoll
            · intro out after _
              exact .of_calm (admits_calm.sync out)
          exact wrapped submitted object
    · apply (calm_operation _).anywhere sequenced_calm trivial
      intro request same
      exact submits ⟨request, same⟩

theorem Interaction.Guarded.earlier {permits : Trace → Command → Prop} {newer older : Trace}
    {event : Event} (guarded : Guarded (· = []) permits Trace.answers (newer ++ event :: older)) :
    permits older event.command := by
  generalize same : newer ++ event :: older = trace at guarded
  induction guarded generalizing newer with
  | initial trace first =>
      subst first
      simp at same
  | call before after command answer guarded permitted law ih =>
      obtain ⟨-, rfl⟩ := law
      cases newer with
      | nil =>
          cases same
          exact permitted
      | cons latest newer =>
          cases same
          exact ih rfl

/-- In every run of a session, with crashes, failing writes and any answers, each call of `place_order`
comes directly after the calls that lead up to it: health, `TRIGGERED`, `BEGIN_PRECHECK`, the guard's
consent, `PRECHECK_VERIFIED`, the durable intent, `INTENT_PERSISTED`, the coordination and the hook. -/
theorem placements_sequenced {config : SessionConfig}
    {phase : Phase Command Result SessionState Exc Operation (Option ExecutionSnapshot)}
    {newer older : Trace} {request : ExecutionRequest} {answer : Except Exc Int}
    (run : SessionReachable config phase (newer ++ ⟨.placeOrder request, answer⟩ :: older)) :
    older.Approaches config request :=
  (Guarded.earlier (run.lawful (session_sequenced config)).2).2

theorem placements_sequenced_shared : ∃ (newer older : Trace) (request : ExecutionRequest)
    (answer : Except Exc Int),
    (sessionRun sharedConfig unknownRun).2 = newer ++ ⟨.placeOrder request, answer⟩ :: older ∧
      older.Approaches sharedConfig request := by
  have sent : (sessionRun sharedConfig unknownRun).2.any Event.isPlacement = true := by
    decide +kernel
  obtain ⟨⟨command, answer⟩, member, placement⟩ := List.any_eq_true.1 sent
  obtain ⟨newer, older, split⟩ := List.append_of_mem member
  cases command with
  | placeOrder request =>
      have run := session_run_reachable sharedConfig unknownRun
      rw [split] at run
      exact ⟨newer, older, request, answer, split, placements_sequenced run⟩
  | _ => cases placement

end Submit

end QmtExecution
