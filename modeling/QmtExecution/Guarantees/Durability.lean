import QmtExecution.Protocol.Environment

/-! What holds of every journal file that is ever on disk. -/

namespace QmtExecution

open Interaction Method

/-- Every journal file that is ever on disk backs its facts by its data, and a restart can
open it. -/
theorem durable_facts_backed {config : SessionConfig}
    {phase : Phase Command Result SessionState Exc Operation (Option ExecutionSnapshot)}
    {trace : Trace} (run : SessionReachable config phase trace) {payload : Payload}
    (stored : (Ledger.ofTrace trace).disk = some payload) :
    (payload.machine.facts.intentPersisted = true ∨
        payload.machine.facts.reservationPersisted = true →
      payload.data.intent.isSome = true ∧ payload.data.reservation.isSome = true) ∧
    (payload.machine.facts.cancelIntentPersisted = true →
      payload.data.cancelIntent.isSome = true) ∧
    (payload.machine.state ∈ [TradeState.submitted, .unknown] →
      payload.data.intent.isSome = true) ∧
    (payload.machine.state ∈ [TradeState.accepted, .working, .partiallyFilled, .pendingCancel,
        .cancelling, .cancelRejected, .filled, .cancelled] →
      payload.data.intent.isSome = true ∧
        ∃ orderId, payload.data.brokerOrderId = some orderId ∧ 0 < orderId) ∧
    assertInvariants payload.machine = .ok () ∧
    ∀ (object : SessionState) (oracle : (command : Command) → Except Exc (Result command)),
      object.payload = none → oracle .journalExists = .ok true →
      oracle .journalRead = .ok payload →
      (ExecutionJournal.openJournal config.executionId).outcome oracle object =
        (.ok (payload.machine, true), { object with payload := some payload }) := by
  have consistent := run.guarded.consistent (.inr stored)
  have sound := consistent.sound
  have backed (persisted : payload.machine.facts.intentPersisted = true) :
      payload.data.intent.isSome = true ∧ payload.data.reservation.isSome = true :=
    ⟨consistent.persisted persisted, consistent.reserved (consistent.persisted persisted)⟩
  have persisted (state : payload.machine.state ∈ TradeState.submitted :: .unknown ::
      identifiedStates) : payload.machine.facts.intentPersisted = true := by
    have fit := sound.fit
    revert state fit
    cases payload.machine.state <;> simp [identifiedStates, SafetyFacts.Fit] <;> tauto
  refine ⟨fun either => backed ?_, consistent.cancelling, fun state => ?_, fun state => ⟨?_, ?_⟩,
    sound.checked, fun object oracle fresh existed read => consistent.opens fresh existed read⟩
  · exact either.elim id sound.paired.trans
  · refine (backed (persisted ?_)).1
    simp only [List.mem_cons, List.not_mem_nil, or_false] at state
    rcases state with state | state <;> simp [state]
  · exact (backed (persisted (.tail _ (.tail _ state)))).1
  · obtain ⟨orderId, known⟩ := Option.isSome_iff_exists.1 (consistent.identified state)
    exact ⟨orderId, known, consistent.positive orderId known⟩

theorem durable_facts_backed_unknown : ∃ payload,
    (Ledger.ofTrace (sessionRun plainConfig unknownRun).2).disk = some payload ∧
      payload.machine.state = .unknown ∧ payload.data.intent.isSome = true := by
  have unknown : ((Ledger.ofTrace (sessionRun plainConfig unknownRun).2).disk.map
      fun payload => payload.machine.state) = some .unknown := by decide +kernel
  obtain ⟨payload, stored, state⟩ := Option.map_eq_some_iff.1 unknown
  have backed := durable_facts_backed (session_run_reachable plainConfig unknownRun) stored
  exact ⟨payload, stored, state, backed.2.2.1 (by simp [state])⟩

end QmtExecution
