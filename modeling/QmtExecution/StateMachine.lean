import QmtExecution.Domain

/-! The execution state machine of `state_machine.py`, the finality of `finality.py`, and
the facts every snapshot produced by `advance` satisfies. -/

namespace QmtExecution

structure MachineSnapshot where
  state : TradeState := .idle
  facts : SafetyFacts := {}
  deriving DecidableEq, Repr

/-- `TRANSITIONS`. -/
def transitions : TradeState → TradeEvent → Option TradeState
  | .idle => fun
    | .sessionReady => some .waitTrigger
    | .fatal => some .failed
    | _ => none
  | .waitTrigger => fun
    | .triggered => some .trigger
    | .fatal => some .failed
    | _ => none
  | .trigger => fun
    | .beginPrecheck => some .preCheck
    | .fatal => some .failed
    | _ => none
  | .preCheck => fun
    | .precheckVerified => some .preCheck
    | .precheckRejected => some .rejected
    | .intentPersisted => some .submitted
    | .fatal => some .failed
    | _ => none
  | .submitted => fun
    | .preBrokerRejected => some .rejected
    | .preBrokerAborted => some .failed
    | .submitAccepted => some .accepted
    | .submitRejected => some .rejected
    | .submitAmbiguous => some .unknown
    | .restartRecovery => some .unknown
    | .fatal => some .failed
    | _ => none
  | .accepted => fun
    | .orderWorking => some .working
    | .orderPartial => some .partiallyFilled
    | .orderFilled => some .filled
    | .orderRejected => some .rejected
    | .cancelRequested => some .pendingCancel
    | .cancelConfirmed => some .cancelled
    | .queryAmbiguous => some .unknown
    | .restartRecovery => some .unknown
    | .fatal => some .failed
    | _ => none
  | .working => fun
    | .orderWorking => some .working
    | .orderPartial => some .partiallyFilled
    | .orderFilled => some .filled
    | .orderRejected => some .rejected
    | .cancelRequested => some .pendingCancel
    | .cancelConfirmed => some .cancelled
    | .queryAmbiguous => some .unknown
    | .restartRecovery => some .unknown
    | .fatal => some .failed
    | _ => none
  | .partiallyFilled => fun
    | .orderPartial => some .partiallyFilled
    | .orderFilled => some .filled
    | .cancelRequested => some .pendingCancel
    | .cancelConfirmed => some .cancelled
    | .queryAmbiguous => some .unknown
    | .restartRecovery => some .unknown
    | .fatal => some .failed
    | _ => none
  | .pendingCancel => fun
    | .cancelSent => some .cancelling
    | .cancelRequestRejected => some .cancelRejected
    | .orderWorking => some .working
    | .orderPartial => some .partiallyFilled
    | .cancelConfirmed => some .cancelled
    | .orderFilled => some .filled
    | .queryAmbiguous => some .unknown
    | .restartRecovery => some .unknown
    | .fatal => some .failed
    | _ => none
  | .cancelling => fun
    | .cancelStillPending => some .cancelling
    | .cancelConfirmed => some .cancelled
    | .orderWorking => some .working
    | .orderPartial => some .partiallyFilled
    | .orderFilled => some .filled
    | .queryAmbiguous => some .unknown
    | .restartRecovery => some .unknown
    | .fatal => some .failed
    | _ => none
  | .cancelRejected => fun
    | .recoveryWorking => some .working
    | .recoveryPartial => some .partiallyFilled
    | .recoveryCancelling => some .cancelling
    | .recoveryFilled => some .filled
    | .recoveryCancelled => some .cancelled
    | .recoveryRejected => some .rejected
    | .recoveryFailed => some .failed
    | .queryAmbiguous => some .unknown
    | .restartRecovery => some .unknown
    | _ => none
  | .unknown => fun
    | .recoveryAccepted => some .accepted
    | .recoveryWorking => some .working
    | .recoveryPartial => some .partiallyFilled
    | .recoveryCancelling => some .cancelling
    | .recoveryFilled => some .filled
    | .recoveryCancelled => some .cancelled
    | .recoveryRejected => some .rejected
    | .recoveryFailed => some .failed
    | .queryAmbiguous => some .unknown
    | _ => none
  | .filled => fun
    | .nextCycle => some .waitTrigger
    | _ => none
  | .cancelled => fun
    | .nextCycle => some .waitTrigger
    | _ => none
  | .rejected => fun
    | .nextCycle => some .waitTrigger
    | _ => none
  | .failed => fun _ => none

def assertInvariants (snapshot : MachineSnapshot) : Except Exc Unit :=
  let facts := snapshot.facts
  if facts.submittedOnce && !(facts.intentPersisted && facts.reservationPersisted) then
    .error ⟨.invariantViolation, "broker submission lacks durable intent/reservation"⟩
  else if snapshot.state ∈ [TradeState.submitted, .accepted, .working, .unknown,
      .partiallyFilled, .pendingCancel, .cancelling, .cancelRejected, .filled, .cancelled] &&
      !(facts.environmentVerified && facts.accountVerified) then
    .error ⟨.invariantViolation, "execution path lacks environment/account verification"⟩
  else if snapshot.state = .submitted && !(facts.brokerSnapshotVerified &&
      facts.positionVerified && facts.cashVerified && facts.quoteVerified &&
      facts.intentPersisted && facts.reservationPersisted) then
    .error ⟨.invariantViolation, "SUBMITTED lacks verified precheck or durable intent"⟩
  else if snapshot.state ∈ [TradeState.waitTrigger, .trigger, .preCheck] &&
      facts.unresolvedOrder then
    .error ⟨.invariantViolation, "unresolved order reached new-order path"⟩
  else if snapshot.state ∈ [TradeState.pendingCancel, .cancelling, .cancelRejected] &&
      !facts.cancelIntentPersisted then
    .error ⟨.invariantViolation, "cancel path lacks durable cancel intent"⟩
  else if snapshot.state ∈ [TradeState.filled, .cancelled] &&
      (facts.unresolvedOrder || !facts.terminalOrderConfirmed) then
    .error ⟨.invariantViolation, "successful terminal state lacks broker confirmation"⟩
  else if snapshot.state = .unknown && !facts.unresolvedOrder then
    .error ⟨.invariantViolation, "UNKNOWN must preserve unresolved-order evidence"⟩
  else .ok ()

/-- The facts after an event: the `if event is ...` chain of `advance`. -/
def factsAfter (facts : SafetyFacts) (sessionEvidence : Option SessionEvidence)
    (precheckEvidence : Option PrecheckEvidence) : TradeEvent → Except Exc SafetyFacts
  | .sessionReady =>
      match sessionEvidence with
      | none => .error ⟨.invariantViolation, "SESSION_READY requires SessionEvidence"⟩
      | some evidence =>
          match evidence.validate with
          | .error exc => .error exc
          | .ok () =>
              if !evidence.ready then
                .error ⟨.invariantViolation, "SESSION_READY requires ready evidence"⟩
              else .ok { facts with
                environmentVerified := evidence.environmentVerified
                accountVerified := evidence.accountVerified }
  | .precheckVerified =>
      match precheckEvidence with
      | none => .error ⟨.invariantViolation, "PRECHECK_VERIFIED requires PrecheckEvidence"⟩
      | some evidence =>
          match evidence.validate with
          | .error exc => .error exc
          | .ok () =>
              if !evidence.allowed then
                .error ⟨.invariantViolation, "PRECHECK_VERIFIED requires allowed evidence"⟩
              else .ok { facts with
                environmentVerified := evidence.environmentVerified
                accountVerified := evidence.accountVerified
                brokerSnapshotVerified := evidence.brokerSnapshotVerified
                positionVerified := evidence.positionVerified
                cashVerified := evidence.cashVerified
                quoteVerified := evidence.quoteVerified }
  | .intentPersisted => .ok { facts with intentPersisted := true, reservationPersisted := true }
  -- a pre-broker rejection or failure proves that `place_order` was not invoked
  | .preBrokerRejected | .preBrokerAborted => .ok { facts with
      submittedOnce := false, unresolvedOrder := false, terminalOrderConfirmed := true }
  | .submitAccepted | .submitAmbiguous => .ok { facts with
      submittedOnce := true, unresolvedOrder := true }
  | .submitRejected => .ok { facts with
      submittedOnce := true, unresolvedOrder := false, terminalOrderConfirmed := true }
  | .orderWorking | .orderPartial | .recoveryAccepted | .recoveryWorking | .recoveryPartial
  | .recoveryCancelling | .cancelStillPending => .ok { facts with
      submittedOnce := true, unresolvedOrder := true }
  | .cancelRequested | .cancelSent | .cancelRequestRejected => .ok { facts with
      cancelIntentPersisted := true, unresolvedOrder := true }
  | .orderFilled | .cancelConfirmed | .recoveryFilled | .recoveryCancelled | .recoveryRejected
  | .orderRejected => .ok { facts with
      submittedOnce := true, unresolvedOrder := false, terminalOrderConfirmed := true }
  | .queryAmbiguous | .restartRecovery => .ok { facts with
      brokerSnapshotVerified := false
      cashVerified := false
      quoteVerified := false
      unresolvedOrder := facts.unresolvedOrder || (facts.submittedOnce || facts.intentPersisted)
      terminalOrderConfirmed := false }
  | .recoveryFailed => .ok { facts with unresolvedOrder := true }
  | .nextCycle => .ok {
      environmentVerified := facts.environmentVerified
      accountVerified := facts.accountVerified }
  | .triggered | .beginPrecheck | .precheckRejected | .fatal => .ok facts

def advance (snapshot : MachineSnapshot) (event : TradeEvent)
    (sessionEvidence : Option SessionEvidence := none)
    (precheckEvidence : Option PrecheckEvidence := none) : Except Exc MachineSnapshot :=
  match transitions snapshot.state event with
  | none => .error ⟨.invalidTransition,
      "event '" ++ event.value ++ "' invalid from '" ++ snapshot.state.value ++ "'"⟩
  | some nextState =>
      let facts := snapshot.facts
      if event = .recoveryCancelling ∧ !facts.cancelIntentPersisted then
        .error ⟨.invalidTransition, "cannot recover CANCEL_PENDING without durable cancel intent"⟩
      else if event = .intentPersisted ∧ !(facts.brokerSnapshotVerified &&
          facts.positionVerified && facts.cashVerified && facts.quoteVerified) then
        .error ⟨.invalidTransition, "INTENT_PERSISTED requires a verified current-cycle precheck"⟩
      else
        match factsAfter facts sessionEvidence precheckEvidence event with
        | .error exc => .error exc
        | .ok facts =>
            let result := MachineSnapshot.mk nextState facts
            match assertInvariants result with
            | .error exc => .error exc
            | .ok () => .ok result

inductive ExecutionFinality
  | open
  | resolved
  | quarantined
  deriving DecidableEq, Repr

def executionFinality (snapshot : MachineSnapshot) : ExecutionFinality :=
  if snapshot.state = .failed then
    if snapshot.facts.unresolvedOrder then .quarantined else .resolved
  else if snapshot.state ∈ [TradeState.submitted, .accepted, .working, .unknown,
      .partiallyFilled, .pendingCancel, .cancelling, .cancelRejected] then .open
  else .resolved

theorem advance_ok {snapshot result : MachineSnapshot} {event : TradeEvent}
    {session : Option SessionEvidence} {precheck : Option PrecheckEvidence}
    (step : advance snapshot event session precheck = .ok result) :
    transitions snapshot.state event = some result.state ∧
      factsAfter snapshot.facts session precheck event = .ok result.facts ∧
      (event = .recoveryCancelling → snapshot.facts.cancelIntentPersisted = true) ∧
      assertInvariants result = .ok () := by
  unfold advance at step
  split at step
  · cases step
  · rename_i nextState edge
    dsimp only at step
    split_ifs at step with pending verified
    split at step
    · cases step
    · rename_i facts changed
      split at step
      · cases step
      · rename_i checked
        cases step
        refine ⟨edge, changed, fun recovering => ?_, checked⟩
        simpa [recovering] using pending

theorem facts_sessionReady {facts facts' : SafetyFacts} {session : Option SessionEvidence}
    {precheck : Option PrecheckEvidence}
    (changed : factsAfter facts session precheck .sessionReady = .ok facts') :
    facts' = { facts with environmentVerified := true, accountVerified := true } := by
  unfold factsAfter SessionEvidence.validate at changed
  cases session with
  | none => cases changed
  | some evidence =>
      rcases evidence with ⟨_ | _, _ | _, _ | _, _⟩ <;> simp_all

theorem facts_precheckVerified {facts facts' : SafetyFacts} {session : Option SessionEvidence}
    {precheck : Option PrecheckEvidence}
    (changed : factsAfter facts session precheck .precheckVerified = .ok facts') :
    facts' = { facts with
      environmentVerified := true, accountVerified := true, brokerSnapshotVerified := true
      positionVerified := true, cashVerified := true, quoteVerified := true } := by
  unfold factsAfter PrecheckEvidence.validate at changed
  cases precheck with
  | none => cases changed
  | some evidence =>
      rcases evidence with ⟨_ | _, _ | _, _ | _, _ | _, _ | _, _ | _, _ | _, _⟩ <;> simp_all

/-- The order facts that fit a state: none of them before the intent, and an unresolved
order is flagged in every state in which the broker may still hold one. -/
def SafetyFacts.Fit (facts : SafetyFacts) : TradeState → Prop
  | .idle | .waitTrigger | .trigger | .preCheck =>
      facts.intentPersisted = false ∧ facts.unresolvedOrder = false ∧
        facts.submittedOnce = false ∧ facts.cancelIntentPersisted = false
  | .submitted =>
      facts.intentPersisted = true ∧ facts.unresolvedOrder = false ∧
        facts.submittedOnce = false ∧ facts.cancelIntentPersisted = false ∧
        facts.environmentVerified = true ∧ facts.accountVerified = true
  | .accepted | .working | .unknown | .partiallyFilled =>
      facts.intentPersisted = true ∧ facts.unresolvedOrder = true ∧
        facts.environmentVerified = true ∧ facts.accountVerified = true
  | .pendingCancel | .cancelling | .cancelRejected =>
      facts.intentPersisted = true ∧ facts.unresolvedOrder = true ∧
        facts.environmentVerified = true ∧ facts.accountVerified = true ∧
        facts.cancelIntentPersisted = true
  | .filled | .cancelled =>
      facts.intentPersisted = true ∧ facts.unresolvedOrder = false ∧
        facts.environmentVerified = true ∧ facts.accountVerified = true ∧
        facts.terminalOrderConfirmed = true
  | .rejected => facts.unresolvedOrder = false
  | .failed => True

structure MachineSnapshot.Sound (snapshot : MachineSnapshot) : Prop where
  paired : snapshot.facts.intentPersisted = snapshot.facts.reservationPersisted
  once : snapshot.facts.submittedOnce = true → snapshot.facts.intentPersisted = true
  fit : snapshot.facts.Fit snapshot.state
  checked : assertInvariants snapshot = .ok ()

theorem MachineSnapshot.Sound.initial : (MachineSnapshot.mk .idle {}).Sound :=
  ⟨rfl, fun once => once, ⟨rfl, rfl, rfl, rfl⟩, rfl⟩

theorem submitted_checked {facts : SafetyFacts}
    (checked : assertInvariants ⟨.submitted, facts⟩ = .ok ()) :
    facts.environmentVerified = true ∧ facts.accountVerified = true := by
  unfold assertInvariants at checked
  simp only at checked
  split_ifs at checked with once verified
  all_goals simp_all

/-- Every step of the machine keeps the facts fitting the state. -/
theorem advance_sound {snapshot result : MachineSnapshot} {event : TradeEvent}
    {session : Option SessionEvidence} {precheck : Option PrecheckEvidence}
    (sound : snapshot.Sound) (step : advance snapshot event session precheck = .ok result) :
    result.Sound := by
  obtain ⟨edge, changed, recovering, checked⟩ := advance_ok step
  obtain ⟨paired, once, fit, -⟩ := sound
  obtain ⟨state, facts⟩ := snapshot
  obtain ⟨state', facts'⟩ := result
  dsimp only at *
  cases event
  case sessionReady =>
    obtain rfl := facts_sessionReady changed
    cases state <;> cases edge
    exact ⟨paired, once, fit, checked⟩
  case precheckVerified =>
    obtain rfl := facts_precheckVerified changed
    cases state <;> cases edge
    exact ⟨paired, once, fit, checked⟩
  case intentPersisted =>
    cases changed
    cases state <;> cases edge
    have verified := submitted_checked checked
    exact ⟨rfl, fun _ => rfl, ⟨rfl, fit.2.1, fit.2.2.1, fit.2.2.2, verified.1, verified.2⟩, checked⟩
  all_goals
    cases changed
    cases state <;> cases edge <;> refine ⟨?_, ?_, ?_, checked⟩ <;> simp_all [SafetyFacts.Fit]

/-- An event the table has in the state is taken, whatever the facts, unless it needs
evidence of its own. -/
theorem advance_enabled {snapshot : MachineSnapshot} {event : TradeEvent} {next : TradeState}
    (sound : snapshot.Sound) (edge : transitions snapshot.state event = some next)
    (plain : event ∉ [TradeEvent.sessionReady, .precheckVerified, .intentPersisted])
    (pending : event = .recoveryCancelling → snapshot.facts.cancelIntentPersisted = true) :
    ∃ result, advance snapshot event = .ok result ∧ result.state = next := by
  obtain ⟨paired, once, fit, -⟩ := sound
  obtain ⟨state, facts⟩ := snapshot
  dsimp only at *
  suffices taken : ∃ facts', factsAfter facts none none event = .ok facts' ∧
      assertInvariants ⟨next, facts'⟩ = .ok () by
    obtain ⟨facts', changed, checked⟩ := taken
    have unguarded : event ≠ .intentPersisted := by
      rintro rfl
      simp at plain
    have recovering : ¬ (event = .recoveryCancelling ∧ facts.cancelIntentPersisted = false) := by
      rintro ⟨same, missing⟩
      simp [pending same] at missing
    refine ⟨⟨next, facts'⟩, ?_, rfl⟩
    simp [advance, edge, unguarded, recovering, changed, checked]
  cases event
  case sessionReady => simp at plain
  case precheckVerified => simp at plain
  case intentPersisted => simp at plain
  all_goals
    refine ⟨_, rfl, ?_⟩
    clear plain
    cases state <;> cases edge <;> simp_all [assertInvariants, SafetyFacts.Fit]

theorem advance_sessionReady {snapshot : MachineSnapshot} {evidence : SessionEvidence}
    (sound : snapshot.Sound) (state : snapshot.state = .idle) (valid : evidence.validate = .ok ())
    (ready : evidence.ready = true) :
    advance snapshot .sessionReady (some evidence) = .ok ⟨.waitTrigger, { snapshot.facts with
      environmentVerified := true, accountVerified := true }⟩ := by
  obtain ⟨_, facts⟩ := snapshot
  obtain rfl : _ = TradeState.idle := state
  obtain ⟨-, unresolved, once, -⟩ := sound.fit
  simp only [SessionEvidence.validate, ready, Bool.true_and] at valid
  simp_all [advance, transitions, factsAfter, SessionEvidence.validate, assertInvariants]

theorem advance_precheckVerified {snapshot : MachineSnapshot} {evidence : PrecheckEvidence}
    (sound : snapshot.Sound) (state : snapshot.state = .preCheck)
    (valid : evidence.validate = .ok ()) (allowed : evidence.allowed = true) :
    advance snapshot .precheckVerified none (some evidence) = .ok ⟨.preCheck, { snapshot.facts with
      environmentVerified := true, accountVerified := true, brokerSnapshotVerified := true
      positionVerified := true, cashVerified := true, quoteVerified := true }⟩ := by
  obtain ⟨_, facts⟩ := snapshot
  obtain rfl : _ = TradeState.preCheck := state
  obtain ⟨-, unresolved, once, -⟩ := sound.fit
  simp only [PrecheckEvidence.validate, allowed, Bool.true_and] at valid
  simp_all [advance, transitions, factsAfter, PrecheckEvidence.validate, assertInvariants]

theorem advance_intentPersisted {snapshot : MachineSnapshot} (sound : snapshot.Sound)
    (state : snapshot.state = .preCheck) (environment : snapshot.facts.environmentVerified = true)
    (account : snapshot.facts.accountVerified = true)
    (broker : snapshot.facts.brokerSnapshotVerified = true)
    (position : snapshot.facts.positionVerified = true)
    (cash : snapshot.facts.cashVerified = true) (quote : snapshot.facts.quoteVerified = true) :
    advance snapshot .intentPersisted = .ok ⟨.submitted, { snapshot.facts with
      intentPersisted := true, reservationPersisted := true }⟩ := by
  obtain ⟨_, facts⟩ := snapshot
  obtain rfl : _ = TradeState.preCheck := state
  simp_all [advance, transitions, factsAfter, assertInvariants]

end QmtExecution
