import QmtExecution.Protocol.Ledger

/-! The payloads a session holds in memory and on disk: what every permitted write keeps,
whether the write completes or raises. -/

namespace QmtExecution

open Interaction Method

def identifiedStates : List TradeState :=
  [.accepted, .working, .partiallyFilled, .pendingCancel, .cancelling, .cancelRejected, .filled,
    .cancelled]

/-- The states in which the broker may hold an order. -/
def sentStates : List TradeState :=
  [.submitted, .accepted, .working, .unknown, .partiallyFilled, .pendingCancel, .cancelling,
    .cancelRejected]

structure Payload.Consistent (executionId : String) (payload : Payload) : Prop where
  schema : payload.schemaVersion = journalSchemaVersion
  owner : payload.executionId = executionId
  sound : payload.machine.Sound
  persisted : payload.machine.facts.intentPersisted = true → payload.data.intent.isSome = true
  cancelling : payload.machine.facts.cancelIntentPersisted = true →
    payload.data.cancelIntent.isSome = true
  identified : payload.machine.state ∈ identifiedStates → payload.data.brokerOrderId.isSome = true
  reserved : payload.data.intent.isSome = true → payload.data.reservation.isSome = true
  clean : payload.data.intent = none → payload.data = payload.data.preserved
  positive : ∀ orderId, payload.data.brokerOrderId = some orderId → 0 < orderId

theorem Payload.Consistent.sent {executionId : String} {payload : Payload}
    (consistent : payload.Consistent executionId) (sent : payload.machine.state ∈ sentStates) :
    payload.data.intent.isSome = true := by
  refine consistent.persisted ?_
  have fit := consistent.sound.fit
  revert sent fit
  cases payload.machine.state <;> simp +contextual [sentStates, SafetyFacts.Fit]

theorem advance_intent_persisted {snapshot result : MachineSnapshot} {event : TradeEvent}
    {session : Option SessionEvidence} {precheck : Option PrecheckEvidence}
    (step : advance snapshot event session precheck = .ok result)
    (persisted : result.facts.intentPersisted = true) :
    snapshot.facts.intentPersisted = true ∨ event = .intentPersisted := by
  obtain ⟨-, changed, -, -⟩ := advance_ok step
  obtain ⟨state, facts⟩ := result
  dsimp only at changed persisted
  cases event
  case intentPersisted => exact .inr rfl
  case sessionReady => exact .inl (by simpa [facts_sessionReady changed] using persisted)
  case precheckVerified => exact .inl (by simpa [facts_precheckVerified changed] using persisted)
  case nextCycle => cases changed; simp at persisted
  all_goals cases changed; exact .inl persisted

theorem advance_cancel_intent {snapshot result : MachineSnapshot} {event : TradeEvent}
    {session : Option SessionEvidence} {precheck : Option PrecheckEvidence}
    (sound : snapshot.Sound) (step : advance snapshot event session precheck = .ok result)
    (persisted : result.facts.cancelIntentPersisted = true) :
    snapshot.facts.cancelIntentPersisted = true ∨ event = .cancelRequested := by
  obtain ⟨edge, changed, -, -⟩ := advance_ok step
  obtain ⟨state, facts⟩ := snapshot
  obtain ⟨state', facts'⟩ := result
  have fit := sound.fit
  dsimp only at changed persisted edge
  cases event
  case cancelRequested => exact .inr rfl
  case cancelSent => cases state <;> cases edge; exact .inl fit.2.2.2.2
  case cancelRequestRejected => cases state <;> cases edge; exact .inl fit.2.2.2.2
  case sessionReady => exact .inl (by simpa [facts_sessionReady changed] using persisted)
  case precheckVerified => exact .inl (by simpa [facts_precheckVerified changed] using persisted)
  case nextCycle => cases changed; simp at persisted
  all_goals cases changed; exact .inl persisted

theorem Payload.Consistent.create (executionId : String) :
    (Payload.create executionId).Consistent executionId where
  schema := rfl
  owner := rfl
  sound := MachineSnapshot.Sound.initial
  persisted := by simp [Payload.create]
  cancelling := by simp [Payload.create]
  identified := by simp [Payload.create, identifiedStates]
  reserved := by simp [Payload.create]
  clean := fun _ => rfl
  positive := by simp [Payload.create]

theorem warranted_identified {ledger : Ledger} {before : Payload} {event : TradeEvent}
    {executionId : String} (consistent : before.Consistent executionId)
    (warrants : ledger.Warrants before event) {state : TradeState}
    (edge : transitions before.machine.state event = some state)
    (member : state ∈ identifiedStates) : before.data.brokerOrderId.isSome = true := by
  by_cases known : before.machine.state ∈ identifiedStates
  · exact consistent.identified known
  · rcases before with ⟨_, _, _, ⟨source, facts⟩, _, data⟩
    dsimp only at *
    cases event <;> cases source <;> cases edge <;>
      first
      | (simp [identifiedStates] at member known; done)
      | (obtain ⟨request, orderId, -, stored⟩ := warrants; exact Option.isSome_of_eq_some stored)
      | (obtain ⟨queried, order, observed⟩ := warrants
         exact Option.isSome_of_eq_some observed.orderId)

theorem Payload.Consistent.record {executionId : String} {before : Payload} {ledger : Ledger}
    {event : TradeEvent} {snapshot : MachineSnapshot} {session : Option SessionEvidence}
    {precheck : Option PrecheckEvidence} {details : Details}
    (consistent : before.Consistent executionId) (warrants : ledger.Warrants before event)
    (step : advance before.machine event session precheck = .ok snapshot) :
    (before.record event snapshot details).Consistent executionId where
  schema := consistent.schema
  owner := consistent.owner
  sound := advance_sound consistent.sound step
  persisted := by
    intro persisted
    rcases advance_intent_persisted step persisted with earlier | rfl
    · exact consistent.persisted earlier
    · obtain ⟨request, -, -, stored⟩ := warrants
      exact Option.isSome_of_eq_some stored
  cancelling := by
    intro persisted
    rcases advance_cancel_intent consistent.sound step persisted with earlier | rfl
    · exact consistent.cancelling earlier
    · exact warrants.2.1
  identified := warranted_identified consistent warrants (advance_ok step).1
  reserved := consistent.reserved
  clean := consistent.clean
  positive := consistent.positive

theorem validate_identity_intent {data : JournalData} {order : BrokerOrder}
    (valid : ExecutionSession.validateIdentity data order = .ok ()) :
    data.intent.isSome = true := by
  obtain ⟨intent, stored, -⟩ := ExecutionSession.validate_identity_ok.1 valid
  exact Option.isSome_of_eq_some stored

/-- Every change a writer may make keeps the payload consistent. -/
theorem Payload.Consistent.changes {executionId : String} {before payload : Payload}
    {ledger : Ledger} {writer : JournalWriter} (consistent : before.Consistent executionId)
    (changes : ledger.Changes before writer payload) : payload.Consistent executionId := by
  have fit := consistent.sound.fit
  cases writer with
  | create => exact changes.elim
  | bindVerification =>
      obtain ⟨-, -, verification, rfl⟩ := changes
      refine { consistent with clean := fun none => ?_ }
      rw [consistent.clean none]
      rfl
  | transition event =>
      obtain ⟨warrants, session, precheck, snapshot, details, step, rfl⟩ := changes
      exact consistent.record warrants step
  | persistIntent request =>
      obtain ⟨-, state, -, -, rfl⟩ := changes
      refine { consistent with
        persisted := fun _ => rfl, cancelling := ?_, identified := ?_, reserved := fun _ => rfl
        clean := ?_, positive := ?_ }
      · simpa using consistent.cancelling
      · simpa using consistent.identified
      · simp
      · simpa using consistent.positive
  | persistBrokerOrderId orderId =>
      obtain ⟨positive, stored, -, rfl, -⟩ := changes
      refine { consistent with identified := fun _ => rfl, clean := ?_, positive := ?_ }
      · intro none
        rw [none] at stored
        cases stored
      · intro other same
        cases same
        exact positive
  | persistCancelIntent =>
      obtain ⟨state, rfl⟩ := changes
      refine { consistent with cancelling := fun _ => rfl, clean := ?_ }
      intro none
      have persisted : before.machine.facts.intentPersisted = true := by
        simp only [List.mem_cons, List.not_mem_nil, or_false] at state
        rcases state with state | state | state <;> rw [state] at fit <;> exact fit.1
      have stored := consistent.persisted persisted
      rw [none] at stored
      cases stored
  | updateObservation order =>
      obtain ⟨queried, -, -, -, -, valid, -, -, rfl⟩ := changes
      refine { consistent with clean := ?_ }
      intro none
      have stored := validate_identity_intent valid
      rw [none] at stored
      cases stored
  | clearCycleData =>
      obtain ⟨state, rfl⟩ := changes
      rw [state] at fit
      refine { consistent with
        persisted := ?_, cancelling := ?_, identified := ?_, reserved := ?_, clean := ?_
        positive := ?_ }
      · intro persisted
        simp [fit.1] at persisted
      · intro persisted
        simp [fit.2.2.2] at persisted
      · intro member
        simp [state, identifiedStates] at member
      · intro stored
        cases stored
      · intro _
        rfl
      · intro orderId stored
        cases stored

theorem Payload.Consistent.validate {executionId : String} {payload : Payload}
    (consistent : payload.Consistent executionId) : payload.validate executionId = .ok () := by
  simp [Payload.validate, consistent.schema, consistent.owner]

/-- Opening the journal on a consistent file returns the snapshot of the file. -/
theorem Payload.Consistent.opens {executionId : String} {payload : Payload}
    (consistent : payload.Consistent executionId) {object : SessionState}
    (fresh : object.payload = none) {oracle : (command : Command) → Except Exc (Result command)}
    (existed : oracle .journalExists = .ok true) (stored : oracle .journalRead = .ok payload) :
    (ExecutionJournal.openJournal executionId).outcome oracle object =
      (.ok (payload.machine, true), { object with payload := some payload }) := by
  simp [ExecutionJournal.openJournal, ExecutionJournal.machineSnapshot,
    ExecutionJournal.requireOpen, ask, fresh, existed, stored, consistent.validate,
    consistent.sound.checked]

theorem Ledger.after_payload {trace : Trace} {command : Command}
    {answer : Except Exc (Result command)} (law : trace.FileLaw command answer) {payload : Payload}
    (held : ((ofTrace trace).after command answer).memory = some payload ∨
      ((ofTrace trace).after command answer).disk = some payload) :
    (ofTrace trace).memory = some payload ∨ (ofTrace trace).disk = some payload ∨
      ∃ writer, command = .journalWrite writer payload := by
  generalize same : ofTrace trace = ledger at *
  cases command with
  | journalRead =>
      cases answer with
      | error exc => exact held.imp_right .inl
      | ok read =>
          have stored : ledger.disk = some read := same ▸ law
          rcases held with held | held
          · cases held
            exact .inr (.inl stored)
          · exact .inr (.inl held)
  | journalWrite writer written =>
      have memory : (ledger.after (.journalWrite writer written) answer).memory = some written := by
        cases writer <;> cases answer <;> rfl
      have disk : (ledger.after (.journalWrite writer written) answer).disk = some written ∨
          (ledger.after (.journalWrite writer written) answer).disk = ledger.disk := by
        cases writer <;> cases answer <;> first | exact .inl rfl | exact .inr rfl
      rw [memory] at held
      rcases disk with disk | disk <;> rw [disk] at held <;> grind
  | queryOrder orderId => exact (by simpa [after] using held : _ ∨ _).imp_right .inl
  | queryOrders => exact (by simpa [after] using held : _ ∨ _).imp_right .inl
  | updateFinality accountKey executionId request finality =>
      cases finality <;> exact held.imp_right .inl
  | _ => cases answer <;> exact held.imp_right .inl

/-- A fact that a fresh payload has and that every permitted change keeps holds of every
payload in memory or on disk, in every trace whose events are all of an allowed kind. -/
theorem Trace.Guarded.payload {config : SessionConfig} {fact : Payload → Prop}
    {allowed : Event → Prop} (created : fact (.create config.executionId))
    (changed : ∀ trace before writer payload answer, Trace.Guarded config trace → fact before →
      (Ledger.ofTrace trace).Changes before writer payload →
      allowed ⟨.journalWrite writer payload, answer⟩ → fact payload)
    {trace : Trace} (guarded : Trace.Guarded config trace) (every : ∀ event ∈ trace, allowed event)
    {payload : Payload}
    (held : (Ledger.ofTrace trace).memory = some payload ∨
      (Ledger.ofTrace trace).disk = some payload) : fact payload := by
  induction guarded generalizing payload with
  | initial trace first =>
      subst first
      rcases held with held | held <;> cases held
  | call before after command answer guarded permitted law ih =>
      obtain ⟨law, rfl⟩ := law
      obtain ⟨latest, earlier⟩ := List.forall_mem_cons.1 every
      rcases Ledger.after_payload law held with held | held | ⟨writer, rfl⟩
      · exact ih earlier (.inl held)
      · exact ih earlier (.inr held)
      · cases writer with
        | create => exact permitted.2 ▸ created
        | _ =>
            obtain ⟨previous, memory, changes⟩ := permitted
            exact changed _ _ _ _ _ guarded (ih earlier (.inl memory)) changes latest

theorem Trace.Guarded.consistent {config : SessionConfig} {trace : Trace}
    (guarded : Trace.Guarded config trace) {payload : Payload}
    (held : (Ledger.ofTrace trace).memory = some payload ∨
      (Ledger.ofTrace trace).disk = some payload) : payload.Consistent config.executionId :=
  guarded.payload (.create _)
    (fun _ _ _ _ _ _ consistent changes (_ : True) => consistent.changes changes)
    (fun _ _ => trivial) held

theorem Trace.Guarded.at {config : SessionConfig} {newer older : Trace} {event : Event}
    (guarded : Trace.Guarded config (newer ++ event :: older)) :
    Trace.Guarded config older ∧ older.permits config event.command ∧
      older.FileLaw event.command event.answer := by
  generalize same : newer ++ event :: older = trace at guarded
  induction guarded generalizing newer with
  | initial trace first =>
      subst first
      simp at same
  | call before after command answer guarded permitted law ih =>
      obtain ⟨law, rfl⟩ := law
      cases newer with
      | nil =>
          cases same
          exact ⟨guarded, permitted, law⟩
      | cons latest newer =>
          cases same
          exact ih rfl

theorem Trace.Guarded.head {config : SessionConfig} {trace : Trace} {event : Event}
    (guarded : Trace.Guarded config (event :: trace)) :
    Trace.Guarded config trace ∧ trace.permits config event.command ∧
      trace.FileLaw event.command event.answer :=
  Trace.Guarded.at (show Trace.Guarded config ([] ++ event :: trace) from guarded)

section Intent

variable {config : SessionConfig} {trace : Trace} {ledger : Ledger} {before payload : Payload}
  {writer : JournalWriter}

theorem changes_keep (changes : ledger.Changes before writer payload)
    (unstarted : ∀ request, writer ≠ .persistIntent request) (uncleared : writer ≠ .clearCycleData) :
    payload.data.intent = before.data.intent ∧
      ((∀ orderId, writer ≠ .persistBrokerOrderId orderId) →
        payload.data.brokerOrderId = before.data.brokerOrderId) := by
  cases writer with
  | create => exact changes.elim
  | bindVerification =>
      obtain ⟨-, -, verification, rfl⟩ := changes
      exact ⟨rfl, fun _ => rfl⟩
  | transition event =>
      obtain ⟨-, session, precheck, snapshot, details, -, rfl⟩ := changes
      exact ⟨rfl, fun _ => rfl⟩
  | persistIntent request => exact absurd rfl (unstarted request)
  | persistBrokerOrderId orderId =>
      obtain ⟨-, -, -, rfl, -⟩ := changes
      exact ⟨rfl, fun other => absurd rfl (other orderId)⟩
  | persistCancelIntent =>
      obtain ⟨-, rfl⟩ := changes
      exact ⟨rfl, fun _ => rfl⟩
  | updateObservation order =>
      obtain ⟨queried, -, -, -, -, -, -, -, rfl⟩ := changes
      exact ⟨rfl, fun _ => rfl⟩
  | clearCycleData => exact absurd rfl uncleared

theorem guarded_requested (guarded : Trace.Guarded config trace)
    (held : (Ledger.ofTrace trace).memory = some payload ∨ (Ledger.ofTrace trace).disk = some payload)
    {intent : Intent} (intended : payload.data.intent = some intent) :
    ∃ request, intent = .ofRequest request := by
  let Requested (payload : Payload) : Prop :=
    ∀ intent, payload.data.intent = some intent → ∃ request, intent = .ofRequest request
  have created : Requested (.create config.executionId) := by
    intro intent created
    cases created
  have fact : Requested payload := by
    refine guarded.payload created ?_ (fun _ _ => trivial) held
    intro trace before writer payload answer _ requested changes (_ : True) intent intended
    by_cases started : ∃ request, writer = .persistIntent request
    · obtain ⟨request, rfl⟩ := started
      obtain ⟨-, -, -, -, rfl⟩ := changes
      cases intended
      exact ⟨request, rfl⟩
    by_cases cleared : writer = .clearCycleData
    · subst cleared
      obtain ⟨-, rfl⟩ := changes
      cases intended
    · have same := (changes_keep changes (fun request same => started ⟨request, same⟩) cleared).1
      exact requested intent (same.symm.trans intended)
  exact fact intent intended

end Intent

end QmtExecution
