import QmtExecution.Outcomes
import QmtExecution.Protocol.Environment

/-! A journal accepts a client order id and an order remark once in every window of
consecutive intents; the window is as long as the list of used identities. -/

namespace QmtExecution

open Interaction Method

inductive Identity
  | clientOrderId
  | orderRemark
  deriving DecidableEq

def Identity.of : Identity → ExecutionRequest → String
  | .clientOrderId => ExecutionRequest.clientOrderId
  | .orderRemark => ExecutionRequest.orderRemark

def Identity.used : Identity → JournalData → List String
  | .clientOrderId => JournalData.usedClientOrderIds
  | .orderRemark => JournalData.usedOrderRemarks

def Event.persists : Event → Option ExecutionRequest
  | ⟨.journalWrite (.persistIntent request) _, .ok _⟩ => some request
  | _ => none

theorem Event.of_persists {event : Event} {request : ExecutionRequest}
    (persists : Event.persists event = some request) : ∃ payload value,
    event = ⟨.journalWrite (.persistIntent request) payload, .ok value⟩ := by
  unfold Event.persists at persists
  split at persists
  · cases persists
    exact ⟨_, _, rfl⟩
  · cases persists

def Trace.persisted (trace : Trace) : List ExecutionRequest := trace.filterMap Event.persists

section Data

variable {identity : Identity} {data : JournalData} {request : ExecutionRequest}

@[simp] theorem Identity.used_withIntent : identity.used (data.withIntent request) =
    lastOf maxUsedIdentities (identity.used data ++ [identity.of request]) := by
  cases identity <;> rfl

@[simp] theorem Identity.used_preserved : identity.used data.preserved = identity.used data := by
  cases identity <;> rfl

theorem Identity.fresh (unused : data.assertIdentityUnused request = .ok ()) :
    identity.of request ∉ identity.used data := by
  unfold JournalData.assertIdentityUnused at unused
  split_ifs at unused with client remark
  cases identity
  · exact client
  · exact remark

theorem lastOf_append {α : Type} (bound : Nat) (latest : α) (values : List α) :
    lastOf bound ((values.take bound).reverse ++ [latest]) =
      ((latest :: values).take bound).reverse := by
  cases bound with
  | zero => simp [lastOf]
  | succ bound => simp [lastOf, List.take_take]

end Data

/-- The payload remembers the latest of these identities, unless its session has failed. -/
def Payload.Remembers (payload : Payload) (identity : Identity) (trace : Trace) : Prop :=
  payload.machine.state = .failed ∨ identity.used payload.data =
    ((trace.persisted.map identity.of).take maxUsedIdentities).reverse

/-- The intent of a failed write, that is only in memory. -/
structure Payload.Detached (payload : Payload) (ledger : Ledger) : Prop where
  state : payload.machine.state = .preCheck
  intent : payload.data.intent.isSome = true
  orderId : payload.data.brokerOrderId = none
  disk : ∀ file, ledger.disk = some file → file.data.intent = none

structure Trace.Recalls (trace : Trace) (identity : Identity) : Prop where
  fresh : (Ledger.ofTrace trace).disk = none → trace.persisted = []
  disk : ∀ payload, (Ledger.ofTrace trace).disk = some payload → payload.Remembers identity trace
  memory : ∀ payload, (Ledger.ofTrace trace).memory = some payload →
    payload.Remembers identity trace ∨ payload.Detached (Ledger.ofTrace trace)

theorem remembers_changes {trace : Trace} {identity : Identity} {before payload : Payload}
    {writer : JournalWriter}
    (other : ∀ request, writer ≠ .persistIntent request)
    (held : before.Remembers identity trace ∨ before.Detached (Ledger.ofTrace trace))
    (changes : (Ledger.ofTrace trace).Changes before writer payload) :
    payload.Remembers identity trace := by
  -- the file does not hold a detached intent
  have attached (detached : before.Detached (Ledger.ofTrace trace)) :
      (Ledger.ofTrace trace).disk ≠ some before := by
    intro stored
    have intent := detached.intent
    simp [detached.disk before stored] at intent
  cases writer with
  | create => exact changes.elim
  | persistIntent request => exact absurd rfl (other request)
  | bindVerification =>
      obtain ⟨stored, -, verification, rfl⟩ := changes
      rcases held with remembers | detached
      · cases identity <;> exact remembers
      · exact absurd stored (attached detached)
  | transition event =>
      obtain ⟨warrants, session, precheck, snapshot, details, step, rfl⟩ := changes
      have edge := (advance_ok step).1
      rcases held with (failed | used) | detached
      · rw [failed] at edge
        cases edge
      · exact .inr used
      · -- a detached intent only leads to FAILED
        rw [detached.state] at edge
        obtain ⟨state, facts⟩ := snapshot
        cases event <;> cases edge
        · exact absurd warrants (attached detached)
        · exact absurd warrants (attached detached)
        · obtain ⟨request, -, stored, -⟩ := warrants
          exact absurd stored (attached detached)
        · exact .inl rfl
  | persistBrokerOrderId orderId =>
      obtain ⟨-, -, -, rfl, submitted | unknown⟩ := changes
      · rcases held with remembers | detached
        · cases identity <;> exact remembers
        · exact absurd (detached.state.symm.trans submitted.1) (by decide)
      · rcases held with remembers | detached
        · cases identity <;> exact remembers
        · exact absurd (detached.state.symm.trans unknown.1) (by decide)
  | persistCancelIntent =>
      obtain ⟨state, rfl⟩ := changes
      rcases held with remembers | detached
      · cases identity <;> exact remembers
      · simp [detached.state] at state
  | updateObservation order =>
      obtain ⟨queried, -, -, -, -, -, stored, -, rfl⟩ := changes
      rcases held with remembers | detached
      · cases identity <;> exact remembers
      · simp [detached.orderId] at stored
  | clearCycleData =>
      obtain ⟨waiting, rfl⟩ := changes
      rcases held with (failed | used) | detached
      · simp [waiting] at failed
      · exact .inr (by simpa using used)
      · simp [detached.state] at waiting

theorem Trace.persisted_cons (event : Event) (trace : Trace) : Trace.persisted (event :: trace) =
    (Event.persists event).toList ++ trace.persisted := by
  unfold Trace.persisted
  cases persists : Event.persists event <;> simp [persists]

theorem Payload.Remembers.later {payload : Payload} {identity : Identity} {trace : Trace}
    (remembers : payload.Remembers identity trace) {event : Event}
    (none : Event.persists event = none) : payload.Remembers identity (event :: trace) := by
  rw [Payload.Remembers, Trace.persisted_cons, none]
  exact remembers

theorem Payload.Detached.later {payload : Payload} {ledger after : Ledger}
    (detached : payload.Detached ledger) (same : after.disk = ledger.disk) :
    payload.Detached after :=
  { detached with disk := fun file stored => detached.disk file (same ▸ stored) }

theorem Trace.Recalls.rewritten {trace : Trace} {identity : Identity} {writer : JournalWriter}
    {payload : Payload} (recalls : trace.Recalls identity)
    (remembers : payload.Remembers identity trace) (answer : Except Exc Unit)
    (none : Event.persists ⟨.journalWrite writer payload, answer⟩ = none) :
    Trace.Recalls (⟨.journalWrite writer payload, answer⟩ :: trace) identity := by
  have memory := Ledger.written_memory (Ledger.ofTrace trace) writer payload answer
  refine ⟨fun missing => ?_, fun file stored => ?_, fun held same => ?_⟩
  · rw [Trace.persisted_cons, none]
    cases answer with
    | ok _ => cases (Ledger.written_disk _ _ _).symm.trans missing
    | error exc => exact recalls.fresh ((Ledger.unwritten_disk _ _ _ _).symm.trans missing)
  · cases answer with
    | ok _ =>
        cases (Ledger.written_disk _ _ _).symm.trans stored
        exact remembers.later none
    | error exc =>
        exact (recalls.disk file ((Ledger.unwritten_disk _ _ _ _).symm.trans stored)).later none
  · cases memory.symm.trans same
    exact .inl (remembers.later none)

theorem Trace.Recalls.persisted {trace : Trace} {identity : Identity} {before : Payload}
    {request : ExecutionRequest} (recalls : trace.Recalls identity)
    (stored : (Ledger.ofTrace trace).disk = some before) (state : before.machine.state = .preCheck)
    (missing : before.data.intent = none) (unplaced : before.data.brokerOrderId = none)
    (answer : Except Exc Unit) :
    Trace.Recalls (⟨.journalWrite (.persistIntent request)
      { before with data := before.data.withIntent request }, answer⟩ :: trace) identity := by
  have used : identity.used before.data =
      ((trace.persisted.map identity.of).take maxUsedIdentities).reverse := by
    rcases recalls.disk before stored with failed | used
    · exact absurd (state.symm.trans failed) (by decide)
    · exact used
  cases answer with
  | error exc =>
      refine ⟨fun absent => ?_, fun file held => (recalls.disk file held).later rfl, ?_⟩
      · cases stored.symm.trans absent
      · intro payload held
        cases held
        refine .inr ⟨state, rfl, unplaced, fun file held => ?_⟩
        cases stored.symm.trans held
        exact missing
  | ok _ =>
      have remembers : Payload.Remembers { before with data := before.data.withIntent request }
          identity (⟨.journalWrite (.persistIntent request)
            { before with data := before.data.withIntent request }, .ok ()⟩ :: trace) := by
        refine .inr ?_
        rw [Identity.used_withIntent, used, lastOf_append, Trace.persisted_cons]
        rfl
      refine ⟨fun absent => ?_, fun file held => ?_, fun payload held => .inl ?_⟩
      · cases absent
      · cases held
        exact remembers
      · cases held
        exact remembers

theorem recalls_step {config : SessionConfig} {trace : Trace} {identity : Identity}
    {command : Command} {answer : Except Exc (Result command)}
    (guarded : Trace.Guarded config trace) (recalls : trace.Recalls identity)
    (permitted : trace.permits config command)
    (law : trace.FileLaw command answer) :
    Trace.Recalls (⟨command, answer⟩ :: trace) identity := by
  by_cases quiet : command.isQuiet = true
  · obtain ⟨memory, disk, -⟩ := Ledger.after_quiet (Ledger.ofTrace trace) answer quiet
    have none : Event.persists ⟨command, answer⟩ = none := by
      cases command <;> first | rfl | cases quiet
    refine ⟨fun missing => ?_, fun payload held => ?_, fun payload held => ?_⟩
    · rw [Trace.persisted_cons, none]
      exact recalls.fresh (disk.symm.trans missing)
    · exact (recalls.disk payload (disk.symm.trans held)).later none
    · exact (recalls.memory payload (memory.symm.trans held)).imp (·.later none) (·.later disk)
  cases command with
  | placeOrder request =>
      refine ⟨recalls.fresh, fun payload held => (recalls.disk payload held).later rfl, ?_⟩
      exact fun payload held => (recalls.memory payload held).imp (·.later rfl) (·.later rfl)
  | journalRead =>
      cases answer with
      | error exc =>
          refine ⟨recalls.fresh, fun payload held => (recalls.disk payload held).later rfl, ?_⟩
          exact fun payload held => (recalls.memory payload held).imp (·.later rfl) (·.later rfl)
      | ok read =>
          refine ⟨recalls.fresh, fun payload held => (recalls.disk payload held).later rfl, ?_⟩
          intro payload held
          cases held
          exact .inl ((recalls.disk read law).later rfl)
  | journalWrite writer written =>
      cases writer with
      | create =>
          obtain ⟨missing, rfl⟩ := permitted
          refine recalls.rewritten (.inr ?_) answer (by cases answer <;> rfl)
          rw [recalls.fresh missing]
          cases identity <;> rfl
      | persistIntent request =>
          obtain ⟨before, memory, stored, state, missing, unused, rfl⟩ := permitted
          have clean := (Trace.Guarded.consistent guarded (.inl memory)).clean missing
          refine recalls.persisted stored state missing ?_ answer
          exact (congrArg JournalData.brokerOrderId clean :)
      | _ =>
          obtain ⟨before, memory, changes⟩ := permitted
          have remembers := remembers_changes (fun request same => by cases same)
            (recalls.memory before memory) changes
          exact recalls.rewritten remembers answer (by cases answer <;> rfl)
  | _ => exact absurd rfl quiet

theorem guarded_recalls {config : SessionConfig} {trace : Trace}
    (guarded : Trace.Guarded config trace) (identity : Identity) : trace.Recalls identity := by
  induction guarded with
  | initial trace first =>
      subst first
      refine ⟨fun _ => rfl, ?_, ?_⟩
      · intro payload held
        cases held
      · intro payload held
        cases held
  | call before after command answer guarded permitted law ih =>
      obtain ⟨law, rfl⟩ := law
      exact recalls_step guarded ih permitted law

/-- Every window of so many consecutive values has no value twice. -/
def Spaced {α : Type} (window : Nat) (values : List α) : Prop :=
  ∀ skipped, ((values.drop skipped).take window).Nodup

theorem Spaced.cons {α : Type} {window : Nat} {values : List α} (spaced : Spaced (window + 1) values)
    {value : α} (fresh : value ∉ values.take window) : Spaced (window + 1) (value :: values) := by
  intro skipped
  cases skipped with
  | zero =>
      refine List.nodup_cons.2 ⟨fresh, ?_⟩
      exact (spaced 0).sublist (List.take_sublist_take_left (Nat.le_succ window))
  | succ skipped => exact spaced skipped

theorem guarded_spaced {config : SessionConfig} {trace : Trace}
    (guarded : Trace.Guarded config trace) (identity : Identity) :
    Spaced (maxUsedIdentities + 1) (trace.persisted.map identity.of) := by
  induction guarded with
  | initial trace first =>
      subst first
      intro skipped
      simp [Trace.persisted]
  | call before after command answer guarded permitted law ih =>
      obtain ⟨law, rfl⟩ := law
      rw [Trace.persisted_cons]
      cases persists : Event.persists ⟨command, answer⟩ with
      | none => simpa using ih
      | some request =>
          obtain ⟨payload, value, same⟩ := Event.of_persists persists
          cases same
          obtain ⟨held, memory, stored, state, -, unused, -⟩ := permitted
          have used : identity.used held.data =
              ((before.persisted.map identity.of).take maxUsedIdentities).reverse := by
            rcases (guarded_recalls guarded identity).disk held stored with failed | used
            · exact absurd (state.symm.trans failed) (by decide)
            · exact used
          have fresh : identity.of request ∉ identity.used held.data := Identity.fresh unused
          rw [used, List.mem_reverse] at fresh
          exact Spaced.cons ih fresh

/-- No two of `maxUsedIdentities + 1` consecutive completed `persist_intent` calls carry the
same client order id, and no two the same order remark. -/
theorem identities_spaced {config : SessionConfig}
    {phase : Phase Command Result SessionState Exc Operation (Option ExecutionSnapshot)}
    {trace : Trace} (run : SessionReachable config phase trace) (identity : Identity) :
    Spaced (maxUsedIdentities + 1) (trace.persisted.map identity.of) :=
  guarded_spaced run.guarded identity

def thirdRequest : ExecutionRequest := { sampleRequest with
  clientOrderId := "c3", orderRemark := "r3", clientOrderId_ne := by decide
  orderRemark_ne := by decide }

/-- Three cycles with a restart between them, in the second of which the first request comes again. -/
def spacedRun : List SessionDeed :=
  let rejected : Replies := { place := .error ⟨.brokerSubmissionRejected, "rejected"⟩ }
  [.start] ++ call .openSession ++ call (.submit sampleRequest) rejected ++ call .nextCycle ++
    call (.submit sampleRequest) rejected ++ call (.submit laterRequest) rejected ++ [.crash, .start] ++
    call .openSession ++ call .nextCycle ++ call (.submit thirdRequest)

theorem identities_spaced_cycles :
    (sessionRun plainConfig spacedRun).2.persisted = [thirdRequest, laterRequest, sampleRequest] ∧
      ∀ identity : Identity, Spaced (maxUsedIdentities + 1)
        ([thirdRequest, laterRequest, sampleRequest].map identity.of) := by
  have persisted : (sessionRun plainConfig spacedRun).2.persisted =
      [thirdRequest, laterRequest, sampleRequest] := by decide +kernel
  refine ⟨persisted, fun identity => ?_⟩
  rw [← persisted]
  exact identities_spaced (session_run_reachable plainConfig spacedRun) identity

def rejecting : (command : Command) → Except Exc (Result command)
  | .journalWrite _ _ => .ok ()
  | .executionHealthy => .ok true
  | .verify _ => .ok ⟨true, true, true, true, true, true, true, ""⟩
  | .submitCoordination _ => .error ⟨.brokerSubmissionRejected, "rejected"⟩
  | _ => .error ⟨.osError, "unavailable"⟩

theorem rejecting_writes : Writes rejecting := fun _ _ => rfl

theorem rejecting_lawful (trace : Trace) (command : Command) :
    trace.answers command (rejecting command) (⟨command, rejecting command⟩ :: trace) := by
  refine ⟨?_, rfl⟩
  cases command <;> exact trivial

def waitingSnapshot : MachineSnapshot where
  state := .waitTrigger
  facts := { environmentVerified := true, accountVerified := true }

def openObject (payload : Payload) : SessionState where
  snapshot := payload.machine
  payload := some payload
  isOpen := true
  mutexOwned := true

section Cycle

variable (payload : Payload) (request : ExecutionRequest)

def intendedPayload : Payload :=
  let triggered := payload.record .triggered ⟨.trigger, waitingSnapshot.facts⟩ []
  let checking := triggered.record .beginPrecheck ⟨.preCheck, waitingSnapshot.facts⟩ []
  let verified := checking.record .precheckVerified
    ⟨.preCheck, { waitingSnapshot.facts with
      brokerSnapshotVerified := true, positionVerified := true, cashVerified := true
      quoteVerified := true }⟩ [("source", .text "execution_guard")]
  { verified with data := payload.data.withIntent request }

def submittedPayload : Payload :=
  (intendedPayload payload request).record .intentPersisted
    ⟨.submitted, { (intendedPayload payload request).machine.facts with
      intentPersisted := true, reservationPersisted := true }⟩
    [("client_order_id", .text request.clientOrderId)]

def rejectedPayload : Payload :=
  (submittedPayload payload request).record .preBrokerRejected
    ⟨.rejected, { (submittedPayload payload request).machine.facts with
      terminalOrderConfirmed := true }⟩
    [("reason", .text "rejected"), ("source", .text "before_submit_coordination"),
      ("broker_invoked", .flag false)]

variable {payload request}

theorem outcome_advance {event : TradeEvent} {details : Details}
    {session : Option SessionEvidence} {precheck : Option PrecheckEvidence}
    {snapshot : MachineSnapshot}
    (step : advance payload.machine event session precheck = .ok snapshot) :
    (ExecutionSession.transition event details session precheck).outcome rejecting
      (openObject payload) = (.ok (), openObject (payload.record event snapshot details)) :=
  outcome_transition rejecting_writes rfl step

theorem emits_persistIntent (clean : payload.data.intent = none)
    (unused : payload.data.assertIdentityUnused request = .ok ())
    (priced : request.checkNotional = .ok ()) :
    (ExecutionJournal.persistIntent request).Emits rejecting (openObject payload)
      (.journalWrite (.persistIntent request)
        { payload with data := payload.data.withIntent request })
      (.ok (), openObject { payload with data := payload.data.withIntent request }) := by
  have held : (openObject payload).payload = some payload := rfl
  refine ⟨outcome_persistIntent rejecting_writes held clean unused priced, ?_⟩
  unfold ExecutionJournal.persistIntent ExecutionJournal.writeData ExecutionJournal.write
  refine issued_next (outcome_assertIdentityUnused held unused) ?_
  refine issued_next (outcome_journal_requireOpen held) ?_
  rw [if_neg (not_not.2 clean)]
  refine issued_next ((outcome_ofExcept _ _ _).trans (congrArg (·, _) unused)) ?_
  refine issued_next ((outcome_ofExcept _ _ _).trans (congrArg (·, _) priced)) ?_
  refine issued_next (outcome_journal_requireOpen held) ?_
  refine issued_next (outcome_update _ _ _) ?_
  exact List.mem_singleton_self _

theorem outcome_rejected_intent :
    (ExecutionSession.submitIntent ExecutionSession.poll ExecutionSession.ports request).outcome
      rejecting (openObject (submittedPayload payload request)) =
        (.ok (ExecutionSession.snapshotOf (openObject (rejectedPayload payload request)) "rejected"),
          openObject (rejectedPayload payload request)) := by
  have coordination : (attempt (ExecutionSession.ports.submitCoordination request)).outcome
      rejecting (openObject (submittedPayload payload request)) =
        (.ok (.error ⟨.brokerSubmissionRejected, "rejected"⟩),
          openObject (submittedPayload payload request)) := rfl
  unfold ExecutionSession.submitIntent
  rw [outcome_bind, coordination]
  dsimp only
  rw [if_pos (by decide), outcome_bind, outcome_advance rfl]
  rfl

theorem submit_rejected (waiting : payload.machine = waitingSnapshot)
    (clean : payload.data.intent = none)
    (unused : payload.data.assertIdentityUnused request = .ok ())
    (priced : request.checkNotional = .ok ()) :
    (ExecutionSession.submit ExecutionSession.poll ExecutionSession.ports request).Emits
      rejecting (openObject payload)
      (.journalWrite (.persistIntent request) (intendedPayload payload request))
      (.ok (ExecutionSession.snapshotOf (openObject (rejectedPayload payload request)) "rejected"),
        openObject (rejectedPayload payload request)) := by
  have held : (openObject payload).payload = some payload := rfl
  have healthy : rejecting .executionHealthy = .ok true := rfl
  have verified : rejecting (.verify request) =
      .ok ⟨true, true, true, true, true, true, true, ""⟩ := rfl
  unfold ExecutionSession.submit
  refine emits_next (outcome_requireOpen rfl rfl rfl) ?_
  refine emits_next (outcome_read _ _) ?_
  rw [if_neg (by simp [openObject, waiting, waitingSnapshot])]
  refine emits_next (outcome_answered healthy) ?_
  rw [if_neg (by decide)]
  refine emits_next (outcome_assertIdentityUnused held unused) ?_
  refine emits_next (outcome_advance (by rw [waiting]; rfl)) ?_
  refine emits_next (outcome_advance rfl) ?_
  refine emits_next (outcome_answered verified) ?_
  refine emits_next (outcome_ofExcept _ _ (.ok ())) ?_
  rw [if_neg (by decide)]
  refine emits_next (outcome_advance rfl) ?_
  refine emits_first (emits_persistIntent clean unused priced) ?_
  rw [outcome_bind, outcome_advance rfl]
  exact outcome_rejected_intent

def restartedPayload (payload : Payload) (request : ExecutionRequest) : Payload :=
  { (rejectedPayload payload request).record .nextCycle waitingSnapshot [] with
    data := (payload.data.withIntent request).preserved }

theorem outcome_restarted : ExecutionSession.nextCycle.outcome rejecting
    (openObject (rejectedPayload payload request)) =
      (.ok (ExecutionSession.snapshotOf (openObject (restartedPayload payload request)) ""),
        openObject (restartedPayload payload request)) := by
  unfold ExecutionSession.nextCycle
  rw [outcome_bind, outcome_requireOpen rfl rfl rfl]
  simp only [outcome_bind, outcome_read]
  have rejected : (openObject (rejectedPayload payload request)).snapshot.state = .rejected := rfl
  rw [rejected, if_neg (by decide), outcome_bind, outcome_advance rfl]
  rfl

end Cycle

/-- An open session waits for a request and remembers these requests, the latest first. -/
structure Rested (used : List ExecutionRequest) (trace : Trace) (payload : Payload) : Prop where
  reachable : SessionReachable plainConfig (.idle (openObject payload)) trace
  waiting : payload.machine = waitingSnapshot
  clean : payload.data.intent = none
  used : ∀ identity : Identity, identity.used payload.data =
    ((used.map identity.of).take maxUsedIdentities).reverse

theorem operation_reachable {trace : Trace} {payload after : Payload} (operation : Operation)
    {out : Except Exc (Option ExecutionSnapshot)}
    (reachable : SessionReachable plainConfig (.idle (openObject payload)) trace)
    (returns : (runOperation plainConfig operation).outcome rejecting (openObject payload) =
      (out, openObject after)) :
    SessionReachable plainConfig (.idle (openObject after))
      ((((runOperation plainConfig operation).issued rejecting (openObject payload)).map
        fun command => (⟨command, rejecting command⟩ : Event)).reverse ++ trace) := by
  have operated := reachable.operation rejecting_lawful operation
  rw [List.foldl_flip_cons_eq_append, show (sessionClass plainConfig).run = runOperation plainConfig
    from rfl, returns] at operated
  exact operated

theorem Rested.cycle {used : List ExecutionRequest} {trace : Trace} {payload : Payload}
    (rested : Rested used trace payload) {request : ExecutionRequest}
    (fresh : ∀ identity : Identity,
      identity.of request ∉ (used.map identity.of).take maxUsedIdentities)
    (priced : request.checkNotional = .ok ()) :
    ∃ newer after, Rested (request :: used) (newer ++ trace) after ∧
      request ∈ Trace.persisted newer := by
  have unused : payload.data.assertIdentityUnused request = .ok () := by
    have client := fresh .clientOrderId
    have remark := fresh .orderRemark
    rw [← List.mem_reverse, ← rested.used] at client remark
    exact (if_neg client).trans (if_neg remark)
  have submits : (runOperation plainConfig (.submit request)).Emits rejecting
      (openObject payload) _ (.ok _, openObject (rejectedPayload payload request)) :=
    emits_first (submit_rejected rested.waiting rested.clean unused priced) rfl
  have restarts : (runOperation plainConfig .nextCycle).outcome rejecting
      (openObject (rejectedPayload payload request)) =
        (.ok _, openObject (restartedPayload payload request)) :=
    (outcome_bind _ _ _ _).trans (by rw [outcome_restarted]; rfl)
  have submitted := operation_reachable _ rested.reachable submits.1
  have restarted := operation_reachable _ submitted restarts
  rw [← List.append_assoc] at restarted
  refine ⟨_, _, ⟨restarted, rfl, rfl, fun identity => ?_⟩, ?_⟩
  · have kept : (restartedPayload payload request).data =
      (payload.data.withIntent request).preserved := rfl
    rw [kept, Identity.used_preserved, Identity.used_withIntent, rested.used, lastOf_append]
    rfl
  · refine List.mem_filterMap.2 ⟨_, List.mem_append_right _ (List.mem_reverse.2
      (List.mem_map_of_mem submits.2)), rfl⟩

def numbered (index : Nat) : ExecutionRequest :=
  { sampleRequest with
    clientOrderId := .ofList (List.replicate (index + 1) 'x')
    orderRemark := .ofList (List.replicate (index + 1) 'x')
    clientOrderId_ne := by simp [String.ofList_eq_empty_iff]
    orderRemark_ne := by simp }

theorem numbered_priced (index : Nat) : (numbered index).checkNotional = .ok () := by
  change sampleRequest.checkNotional = .ok ()
  decide +kernel

theorem numbered_inj {identity : Identity} {first second : Nat}
    (same : identity.of (numbered first) = identity.of (numbered second)) : first = second := by
  have same : String.ofList (List.replicate (first + 1) 'x') =
      String.ofList (List.replicate (second + 1) 'x') := by
    cases identity <;> exact same
  have lengths := congrArg List.length (String.ofList_injective same)
  simpa using lengths

theorem numbered_fresh {identity : Identity} {index : Nat} {earlier : List Nat}
    (fresh : index ∉ earlier) :
    identity.of (numbered index) ∉ (earlier.map numbered).map identity.of := by
  intro member
  simp only [List.map_map, List.mem_map, Function.comp] at member
  obtain ⟨other, earlier, same⟩ := member
  exact fresh (numbered_inj same ▸ earlier)

def openedRun : List SessionDeed := [.start] ++ call .openSession

def openedPayload : Payload :=
  ((sessionRun plainConfig openedRun).1.memory.bind SessionState.payload).getD (.create "e1")

theorem rested_opened : Rested [] (sessionRun plainConfig openedRun).2 openedPayload where
  reachable := by
    have memory : (sessionRun plainConfig openedRun).1.memory = some (openObject openedPayload) := by
      decide +kernel
    rw [← Phase.memory_eq memory]
    exact session_run_reachable plainConfig openedRun
  waiting := by decide +kernel
  clean := by decide +kernel
  used := by
    have forgotten : openedPayload.data.usedClientOrderIds = [] ∧
        openedPayload.data.usedOrderRemarks = [] := by decide +kernel
    rintro (_ | _)
    · exact forgotten.1
    · exact forgotten.2

theorem rested_numbered (count : Nat) : ∃ trace payload,
    Rested ((List.range count).reverse.map numbered) trace payload ∧
      (0 < count → numbered 0 ∈ trace.persisted) := by
  induction count with
  | zero =>
      exact ⟨_, _, rested_opened, fun positive => absurd positive (lt_irrefl 0)⟩
  | succ count ih =>
      obtain ⟨trace, payload, rested, member⟩ := ih
      have fresh (identity : Identity) : identity.of (numbered count) ∉
          (((List.range count).reverse.map numbered).map identity.of).take maxUsedIdentities :=
        fun member => numbered_fresh (by simp) (List.mem_of_mem_take member)
      obtain ⟨newer, after, rested', persisted⟩ := rested.cycle fresh (numbered_priced _)
      refine ⟨newer ++ trace, after, ?_, fun _ => ?_⟩
      · simpa [List.range_succ] using rested'
      · rw [Trace.persisted, List.filterMap_append, List.mem_append]
        rcases Nat.eq_zero_or_pos count with rfl | positive
        · exact .inl persisted
        · exact .inr (member positive)

/-- After more cycles than the journal remembers, an identity is accepted again. -/
theorem identities_repeated : ∃ phase trace, SessionReachable plainConfig phase trace ∧
    ∀ identity : Identity, ¬ (trace.persisted.map identity.of).Nodup := by
  obtain ⟨trace, payload, rested, first⟩ := rested_numbered (maxUsedIdentities + 1)
  have fresh (identity : Identity) : identity.of (numbered 0) ∉
      (((List.range (maxUsedIdentities + 1)).reverse.map numbered).map identity.of).take
        maxUsedIdentities := by
    rw [← List.map_take, ← List.map_take]
    refine numbered_fresh ?_
    rw [List.range_succ_eq_map, List.reverse_cons, List.take_left' (by simp)]
    simp
  obtain ⟨newer, after, rested, again⟩ := rested.cycle fresh (numbered_priced _)
  refine ⟨_, _, rested.reachable, fun identity unique => ?_⟩
  rw [Trace.persisted, List.filterMap_append, List.map_append, List.nodup_append] at unique
  exact unique.2.2 _ (List.mem_map_of_mem again) _ (List.mem_map_of_mem (first (Nat.succ_pos _))) rfl

end QmtExecution
