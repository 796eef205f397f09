import QmtExecution.CoordinatedSession
import QmtExecution.Interaction.Walks

/-! One walk through every method of a session, for any property that its calls and the changes of its
memory have in common. -/

namespace QmtExecution

open Interaction Method

def Command.places : Command → Bool
  | .placeOrder _ => true
  | _ => false

/-- What no step but those of `close` undoes. -/
structure Robust (kept : SessionState → Prop) : Prop where
  taken : ∀ object snapshot, kept object → kept { object with snapshot }
  loaded : ∀ object payload, kept object → kept { object with payload := some payload }
  opened : ∀ object, kept object → kept { object with isOpen := true }
  locked : ∀ object mutexOwned, kept object → kept { object with mutexOwned }

/-- Every call but that of `place_order` is allowed, and every change of the memory keeps this of it. -/
structure Admits (allowed : Command → Prop) (kept : SessionState → Prop) : Prop extends Robust kept where
  calm : ∀ command, command.places = false → allowed command

theorem Robust.admits {kept : SessionState → Prop} (robust : Robust kept) :
    Admits (fun _ => True) kept :=
  { robust with calm := fun _ _ => trivial }

theorem admits_calm : Admits (fun command => command.places = false) (fun _ => True) where
  taken _ _ _ := trivial
  loaded _ _ _ := trivial
  opened _ _ := trivial
  locked _ _ _ := trivial
  calm _ calm := calm

/-- The `try` body of `open` once the journal is open. -/
def startSession (machine : MachineSnapshot) (existed : Bool) : SessionM ExecutionSnapshot := do
  update fun self => { self with snapshot := machine }
  ExecutionSession.bindOrMatch
  let evidence ← ask .verifySession
  Method.ofExcept evidence.validate
  if !evidence.ready then
    raise ⟨.runtimeError,
      if evidence.reason = "" then "session verification failed" else evidence.reason⟩
  else
    ExecutionSession.resume existed evidence
    update fun self => { self with isOpen := true }
    ExecutionSession.snapshot

theorem openBody_startSession (executionId : String) :
    ExecutionSession.openBody executionId =
      ExecutionJournal.openJournal executionId >>= fun opened => startSession opened.1 opened.2 :=
  rfl

section Walk

variable {allowed : Command → Prop} {kept : SessionState → Prop}

theorem walks_journal_requireOpen :
    ExecutionJournal.requireOpen.Walks allowed kept := by
  apply walks_bind walks_read
  intro self
  cases self.payload with
  | none => exact walks_raise _
  | some payload => exact walks_pure _

theorem walks_snapshot (reason : String) :
    (ExecutionSession.snapshot reason).Walks allowed kept :=
  walks_bind walks_read fun _ => walks_pure _

theorem walks_machineSnapshot :
    ExecutionJournal.machineSnapshot.Walks allowed kept := by
  apply walks_bind walks_journal_requireOpen
  intro payload
  exact walks_bind (walks_ofExcept _) fun _ => walks_pure _

theorem walks_requireOpen : ExecutionSession.requireOpen.Walks allowed kept := by
  apply walks_bind walks_read
  intro self
  split_ifs
  · exact walks_raise _
  · exact walks_pure _

namespace Admits

variable (admits : Admits allowed kept) {config : SessionConfig}

include admits

theorem asks {command : Command} (calm : command.places = false) :
    (ask command).Walks allowed kept := walks_perform (admits.calm command calm)

theorem write (writer : JournalWriter) (payload : Payload) :
    (ExecutionJournal.write writer payload).Walks allowed kept := by
  apply walks_bind
  · exact walks_update fun _ => admits.loaded _ _
  · intro _
    exact admits.asks rfl

theorem writeData (writer : JournalWriter) (data : JournalData) :
    (ExecutionJournal.writeData writer data).Walks allowed kept :=
  walks_bind walks_journal_requireOpen fun _ => admits.write _ _

theorem transition (event : TradeEvent) (details : Details)
    (session : Option SessionEvidence) (precheck : Option PrecheckEvidence) :
    (ExecutionSession.transition event details session precheck).Walks allowed kept := by
  apply walks_bind walks_read
  intro self
  apply walks_bind (walks_ofExcept _)
  intro snapshot
  refine walks_bind (walks_update fun _ => admits.taken _ _) fun _ => ?_
  exact walks_bind walks_journal_requireOpen fun _ => admits.write _ _

theorem toUnknown (reason : String) :
    (ExecutionSession.toUnknown reason).Walks allowed kept := by
  apply walks_bind walks_read
  intro self
  split_ifs
  · exact admits.transition _ _ _ _
  · exact admits.transition _ _ _ _
  · exact admits.transition _ _ _ _

theorem applyObservation (order : BrokerOrder) :
    (ExecutionSession.applyObservation order).Walks allowed kept := by
  apply walks_bind walks_journal_requireOpen
  intro payload
  apply walks_bind (walks_ofExcept _)
  intro _
  split_ifs
  · exact walks_bind (admits.transition _ _ _ _) fun _ => walks_snapshot _
  · apply walks_bind
    · exact walks_bind walks_journal_requireOpen fun _ => admits.writeData _ _
    · intro _
      apply walks_bind walks_read
      intro self
      split
      · exact walks_bind (admits.toUnknown _) fun _ => walks_snapshot _
      · exact walks_bind (admits.transition _ _ _ _) fun _ => walks_snapshot _
      · exact walks_snapshot _

theorem persistBrokerOrderId (orderId : Int) :
    (ExecutionJournal.persistBrokerOrderId orderId).Walks allowed kept := by
  unfold ExecutionJournal.persistBrokerOrderId
  split_ifs
  · exact walks_raise _
  · apply walks_bind walks_journal_requireOpen
    intro payload
    split_ifs
    · exact walks_raise _
    · exact admits.writeData _ _

theorem recoverOrder (data : JournalData) :
    (ExecutionSession.recoverOrder data).Walks allowed kept := by
  have remark : (ExecutionSession.recoverOrder.recoverByRemark data).Walks allowed kept := by
    unfold ExecutionSession.recoverOrder.recoverByRemark
    split
    · exact walks_raise _
    · apply walks_bind (admits.asks rfl)
      intro orders
      apply walks_bind (walks_ofExcept _)
      intro order
      exact walks_bind (admits.persistBrokerOrderId _) fun _ => walks_pure _
  unfold ExecutionSession.recoverOrder
  split
  · split_ifs
    · exact admits.asks rfl
    · exact remark
  · exact remark

theorem recoverUnknown : ExecutionSession.recoverUnknown.Walks allowed kept := by
  apply walks_bind walks_journal_requireOpen
  intro payload
  apply walks_bind (walks_attempt (admits.recoverOrder _))
  intro recovered
  cases recovered with
  | error exc =>
      dsimp only
      split_ifs
      · exact walks_bind (admits.transition _ _ _ _) fun _ => walks_snapshot _
      · exact walks_raise _
  | ok order => exact admits.applyObservation order

theorem bindOrMatch : ExecutionSession.bindOrMatch.Walks allowed kept := by
  apply walks_bind (admits.asks rfl)
  intro verification
  apply walks_bind walks_journal_requireOpen
  intro payload
  split
  · unfold ExecutionJournal.bindVerification
    split_ifs
    · exact walks_raise _
    · exact walks_raise _
    · exact walks_bind walks_journal_requireOpen fun _ => admits.writeData _ _
  · split_ifs
    · exact walks_raise _
    · exact walks_pure _

theorem resume (existed : Bool) (evidence : SessionEvidence) :
    (ExecutionSession.resume existed evidence).Walks allowed kept := by
  apply walks_bind walks_read
  intro self
  split_ifs
  · exact admits.transition _ _ _ _
  · exact walks_pure _
  · apply walks_bind (admits.transition _ _ _ _)
    intro _
    exact walks_bind admits.recoverUnknown fun _ => walks_pure _
  · exact walks_bind admits.recoverUnknown fun _ => walks_pure _
  · exact admits.transition _ _ _ _

theorem openJournal (executionId : String) :
    (ExecutionJournal.openJournal executionId).Walks allowed kept := by
  apply walks_bind walks_read
  intro self
  split_ifs
  · exact walks_raise _
  · apply walks_bind (admits.asks rfl)
    intro existed
    split_ifs
    · apply walks_bind (walks_attempt (admits.asks rfl))
      intro stored
      cases stored with
      | error exc =>
          dsimp only
          split_ifs
          · exact walks_raise _
          · exact walks_raise _
      | ok payload =>
          apply walks_bind (walks_ofExcept _)
          intro _
          refine walks_bind (walks_update fun _ => admits.loaded _ _) fun _ => ?_
          exact walks_bind walks_machineSnapshot fun _ => walks_pure _
    · exact walks_bind (admits.write _ _) fun _ => walks_pure _

theorem startSession (machine : MachineSnapshot) (existed : Bool) :
    (QmtExecution.startSession machine existed).Walks allowed kept := by
  refine walks_bind (walks_update fun _ => admits.taken _ _) fun _ => ?_
  apply walks_bind admits.bindOrMatch
  intro _
  apply walks_bind (admits.asks rfl)
  intro evidence
  apply walks_bind (walks_ofExcept _)
  intro _
  cases evidence.ready with
  | false => exact walks_raise _
  | true =>
      apply walks_bind (admits.resume _ _)
      intro _
      exact walks_bind (walks_update fun _ => admits.opened _) fun _ => walks_snapshot _

theorem mutexRelease : ExecutionSession.mutexRelease.Walks allowed kept := by
  apply walks_bind walks_read
  intro self
  split_ifs
  · exact walks_pure _
  · exact walks_bind (walks_update fun _ => admits.locked _ _) fun _ => admits.asks rfl

theorem mutexAcquire : ExecutionSession.mutexAcquire.Walks allowed kept := by
  apply walks_bind walks_read
  intro self
  split_ifs
  · exact walks_raise _
  · exact walks_bind (admits.asks rfl) fun _ => walks_update fun _ => admits.locked _ _

theorem openBody (executionId : String) :
    (ExecutionSession.openBody executionId).Walks allowed kept :=
  walks_bind (admits.openJournal _) fun _ => admits.startSession _ _

theorem openSession (executionId : String) :
    (ExecutionSession.openSession executionId).Walks allowed kept := by
  apply walks_bind walks_read
  intro self
  split_ifs
  · exact walks_raise _
  · exact walks_snapshot _
  · apply walks_bind admits.mutexAcquire
    intro _
    apply walks_bind (walks_attempt (admits.openBody _))
    intro ended
    cases ended with
    | error exc => exact walks_bind admits.mutexRelease fun _ => walks_raise _
    | ok out => exact walks_pure _

theorem poll : ExecutionSession.poll.Walks allowed kept := by
  apply walks_bind walks_requireOpen
  intro _
  apply walks_bind walks_journal_requireOpen
  intro payload
  split
  · apply walks_bind walks_read
    intro self
    split_ifs
    · exact admits.recoverUnknown
    · exact walks_raise _
  · split_ifs
    · exact walks_raise _
    · apply walks_bind (walks_attempt (admits.asks rfl))
      intro answered
      cases answered with
      | error exc =>
          dsimp only
          split_ifs
          · exact walks_bind (admits.toUnknown _) fun _ => walks_snapshot _
          · exact walks_raise _
      | ok order => exact admits.applyObservation order

theorem reconcile {selfPoll : SessionM ExecutionSnapshot} (polls : selfPoll.Walks allowed kept) :
    (ExecutionSession.reconcile selfPoll).Walks allowed kept := by
  apply walks_bind walks_requireOpen
  intro _
  apply walks_bind walks_read
  intro self
  split_ifs
  · exact admits.recoverUnknown
  · exact polls
  · exact walks_snapshot _

theorem cancel {selfPoll : SessionM ExecutionSnapshot} (polls : selfPoll.Walks allowed kept) :
    (ExecutionSession.cancel selfPoll).Walks allowed kept := by
  have polled (event : TradeEvent) :
      (do ExecutionSession.transition event; selfPoll).Walks allowed kept :=
    walks_bind (admits.transition _ _ _ _) fun _ => polls
  apply walks_bind walks_requireOpen
  intro _
  apply walks_bind walks_read
  intro self
  split_ifs
  · apply walks_bind walks_journal_requireOpen
    intro payload
    split
    · exact walks_raise _
    · split_ifs
      · exact walks_raise _
      · apply walks_bind
        · exact walks_bind walks_journal_requireOpen fun _ => admits.writeData _ _
        intro _
        apply walks_bind (admits.transition _ _ _ _)
        intro _
        apply walks_bind (admits.asks rfl)
        intro _
        apply walks_bind (walks_attempt (admits.asks rfl))
        intro cancelled
        split
        · split_ifs
          · exact polled _
          · exact walks_raise _
        · exact polled _
        · exact polled _
  · exact walks_raise _

theorem nextCycle : ExecutionSession.nextCycle.Walks allowed kept := by
  apply walks_bind walks_requireOpen
  intro _
  apply walks_bind walks_read
  intro self
  split_ifs
  · exact walks_raise _
  · apply walks_bind (admits.transition _ _ _ _)
    intro _
    apply walks_bind
    · exact walks_bind walks_journal_requireOpen fun _ => admits.write _ _
    · intro _
      exact walks_snapshot _

theorem close (closing : ∀ object, kept object → kept { object with isOpen := false, closed := true }) :
    ExecutionSession.close.Walks allowed kept := by
  apply walks_bind walks_read
  intro self
  split_ifs
  · exact walks_pure _
  · exact walks_bind admits.mutexRelease fun _ => walks_update closing

theorem requiredCash (request : ExecutionRequest) :
    (CoordinatedExecutionSession.requiredCashForRestore config request).Walks allowed kept := by
  unfold CoordinatedExecutionSession.requiredCashForRestore
  have estimated : (CoordinatedExecutionSession.requiredCashForRestore.estimated
      request).Walks allowed kept := by
    apply walks_bind (admits.asks rfl)
    intro asset
    exact walks_bind (admits.asks rfl) fun _ => walks_pure _
  cases request.side with
  | sell => exact walks_pure _
  | buy =>
      cases config.hasEstimator with
      | false => exact walks_raise _
      | true =>
          apply walks_bind (walks_attempt estimated)
          intro required
          cases required with
          | error exc => exact walks_raise _
          | ok required => exact walks_pure _

theorem syncRequest (request : ExecutionRequest) :
    (CoordinatedExecutionSession.syncRequest config request).Walks allowed kept := by
  apply walks_bind walks_read
  intro self
  dsimp only
  split_ifs
  · apply walks_bind (walks_attempt (admits.asks rfl))
    intro owned
    cases owned with
    | error exc =>
        dsimp only
        split_ifs
        · exact walks_pure _
        · exact walks_raise _
    | ok owned =>
        cases owned with
        | false => exact walks_pure _
        | true => exact admits.asks rfl
  · apply walks_bind (admits.asks rfl)
    intro owned
    cases owned with
    | true => exact admits.asks rfl
    | false => exact walks_bind (admits.requiredCash request) fun _ => admits.asks rfl

theorem sync (out : ExecutionSnapshot) :
    (CoordinatedExecutionSession.sync config out).Walks allowed kept := by
  have durable : CoordinatedExecutionSession.durableRequest.Walks allowed kept := by
    apply walks_bind walks_read
    intro self
    split
    · exact walks_pure _
    · split
      · exact walks_pure _
      · exact walks_bind (walks_ofExcept _) fun _ => walks_pure _
  apply walks_bind durable
  intro found
  cases found with
  | none => exact walks_pure _
  | some request => exact walks_bind (admits.syncRequest request) fun _ => walks_pure _

theorem coordinatedPoll : (CoordinatedExecutionSession.poll config).Walks allowed kept :=
  walks_bind admits.poll fun _ => admits.sync _

/-- The operations but `close` and `submit`. -/
theorem operation {operation : Operation} (unclosing : operation ≠ .close)
    (other : ∀ request, operation ≠ .submit request) :
    (runOperation config operation).Walks allowed kept := by
  have wrapped {method : SessionM ExecutionSnapshot} (walks : method.Walks allowed kept) :
      (some <$> method).Walks allowed kept := walks_bind walks fun _ => walks_pure _
  have synced {method : SessionM ExecutionSnapshot} (walks : method.Walks allowed kept) :
      (some <$> do
        let out ← method
        CoordinatedExecutionSession.sync config out).Walks allowed kept :=
    wrapped (walks_bind walks fun _ => admits.sync _)
  unfold runOperation
  cases config.coordinated with
  | false =>
      cases operation with
      | openSession => exact wrapped (admits.openSession _)
      | close => exact absurd rfl unclosing
      | submit request => exact absurd rfl (other request)
      | poll => exact wrapped admits.poll
      | reconcile => exact wrapped (admits.reconcile admits.poll)
      | cancel => exact wrapped (admits.cancel admits.poll)
      | nextCycle => exact wrapped admits.nextCycle
  | true =>
      cases operation with
      | openSession => exact synced (admits.openSession _)
      | close => exact absurd rfl unclosing
      | submit request => exact absurd rfl (other request)
      | poll => exact synced admits.poll
      | reconcile => exact synced (admits.reconcile admits.coordinatedPoll)
      | cancel => exact synced (admits.cancel admits.coordinatedPoll)
      | nextCycle => exact wrapped admits.nextCycle

theorem placeOrder (places : ∀ request, allowed (.placeOrder request)) (request : ExecutionRequest) :
    (CoordinatedExecutionSession.placeOrder config request).Walks allowed kept := by
  apply walks_bind (walks_attempt (walks_perform (places request)))
  intro answered
  cases answered with
  | ok orderId => exact walks_pure _
  | error exc =>
      dsimp only
      split_ifs
      · exact walks_bind (admits.asks rfl) fun _ => walks_raise _
      · exact walks_raise _
      · exact walks_raise _

theorem coordination (request : ExecutionRequest) :
    (CoordinatedExecutionSession.coordinateBeforeSubmit config request).Walks allowed kept := by
  have estimated : (CoordinatedExecutionSession.freshCash.estimated request).Walks allowed kept := by
    apply walks_bind (admits.asks rfl)
    intro asset
    exact walks_bind (admits.asks rfl) fun _ => walks_pure _
  have fresh : (CoordinatedExecutionSession.freshCash config request).Walks allowed kept := by
    unfold CoordinatedExecutionSession.freshCash
    split_ifs
    · exact walks_raise _
    · apply walks_bind (walks_attempt estimated)
      intro amounts
      cases amounts with
      | ok amounts => exact walks_pure _
      | error exc =>
          dsimp only
          split_ifs
          · exact walks_raise _
          · exact walks_raise _
  unfold CoordinatedExecutionSession.coordinateBeforeSubmit
  extract_lets prepare
  have prepares (amounts : CashArgument × CashArgument) : (prepare amounts).Walks allowed kept := by
    apply walks_bind (walks_attempt (admits.asks rfl))
    intro answered
    cases answered with
    | ok _ => exact walks_pure _
    | error exc =>
        dsimp only
        split_ifs
        · exact walks_raise _
        · exact walks_raise _
  cases request.side with
  | buy => exact walks_bind fresh prepares
  | sell => exact walks_bind (walks_pure _) prepares

theorem sidecar (request : ExecutionRequest) :
    (CoordinatedExecutionSession.runProjectSidecar config request).Walks allowed kept := by
  apply walks_bind (walks_attempt (admits.asks rfl))
  intro answered
  cases answered with
  | ok _ => exact walks_pure _
  | error exc => exact walks_bind (admits.asks rfl) fun _ => walks_raise _

theorem submitIntent (places : ∀ request, allowed (.placeOrder request)) (request : ExecutionRequest) :
    (ExecutionSession.submitIntent (CoordinatedExecutionSession.poll config)
      (CoordinatedExecutionSession.ports config) request).Walks allowed kept := by
  have ended (event : TradeEvent) (details : Details) (reason : String) :
      (do ExecutionSession.transition event details; ExecutionSession.snapshot reason).Walks
        allowed kept := walks_bind (admits.transition _ _ _ _) fun _ => walks_snapshot _
  have aborted (event : TradeEvent) (details : Details) (exc : Exc) :
      (do ExecutionSession.transition event details; raise exc :
        SessionM ExecutionSnapshot).Walks allowed kept :=
    walks_bind (admits.transition _ _ _ _) fun _ => walks_raise _
  apply walks_bind (walks_attempt (admits.coordination request))
  intro coordinated
  cases coordinated with
  | error exc =>
      dsimp only
      split_ifs
      · exact ended _ _ _
      · exact aborted _ _ _
  | ok _ =>
      apply walks_bind (walks_attempt (admits.sidecar request))
      intro hooked
      cases hooked with
      | error exc => exact aborted _ _ _
      | ok _ =>
          apply walks_bind (walks_attempt (admits.placeOrder places request))
          intro placed
          cases placed with
          | error exc =>
              dsimp only
              split_ifs
              · exact ended _ _ _
              · exact ended _ _ _
              · exact walks_raise _
          | ok orderId =>
              apply walks_bind (admits.persistBrokerOrderId orderId)
              intro _
              apply walks_bind (admits.transition _ _ _ _)
              intro _
              exact admits.coordinatedPoll

theorem persistIntent (request : ExecutionRequest) :
    (ExecutionJournal.persistIntent request).Walks allowed kept := by
  have unused : (ExecutionJournal.assertIdentityUnused request).Walks allowed kept :=
    walks_bind walks_journal_requireOpen fun _ => walks_ofExcept _
  apply walks_bind unused
  intro _
  apply walks_bind walks_journal_requireOpen
  intro payload
  split_ifs
  · exact walks_raise _
  · apply walks_bind (walks_ofExcept _)
    intro _
    exact walks_bind (walks_ofExcept _) fun _ => admits.writeData _ _

theorem submit (places : ∀ request, allowed (.placeOrder request)) (request : ExecutionRequest) :
    (CoordinatedExecutionSession.submit config request).Walks allowed kept := by
  have submitted : (ExecutionSession.submit (CoordinatedExecutionSession.poll config)
      (CoordinatedExecutionSession.ports config) request).Walks allowed kept := by
    apply walks_bind walks_requireOpen
    intro _
    apply walks_bind walks_read
    intro self
    split_ifs
    · exact walks_raise _
    · apply walks_bind (admits.asks rfl)
      intro healthy
      split_ifs
      · exact walks_raise _
      · apply walks_bind
        · exact walks_bind walks_journal_requireOpen fun _ => walks_ofExcept _
        intro _
        apply walks_bind (admits.transition _ _ _ _)
        intro _
        apply walks_bind (admits.transition _ _ _ _)
        intro _
        apply walks_bind (admits.asks rfl)
        intro evidence
        apply walks_bind (walks_ofExcept _)
        intro _
        split_ifs
        · exact walks_bind (admits.transition _ _ _ _) fun _ => walks_snapshot _
        · exact walks_bind (admits.transition _ _ _ _) fun _ => walks_snapshot _
        · apply walks_bind (admits.transition _ _ _ _)
          intro _
          apply walks_bind (admits.persistIntent request)
          intro _
          apply walks_bind (admits.transition _ _ _ _)
          intro _
          exact admits.submitIntent places request
  exact walks_bind submitted fun out => admits.sync out

end Admits

end Walk

end QmtExecution
