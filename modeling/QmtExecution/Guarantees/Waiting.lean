import QmtExecution.Guarantees.Answers

/-! A journal in WAIT_TRIGGER carries no data of an earlier cycle as long as `next_cycle` is
only called after a cycle that was rejected before its intent. -/

namespace QmtExecution

open Interaction Method

def JournalData.Clean (data : JournalData) : Prop :=
  data.intent = none ∧ data.brokerOrderId = none ∧ data.lastObservation = none ∧
    data.cancelIntent = none ∧ data.reservation = none

instance (data : JournalData) : Decidable data.Clean :=
  inferInstanceAs (Decidable (_ ∧ _ ∧ _ ∧ _ ∧ _))

theorem JournalData.clean_iff {data : JournalData} : data.Clean ↔ data = data.preserved := by
  unfold Clean preserved
  constructor
  · rintro ⟨intent, orderId, observation, cancelIntent, reservation⟩
    cases data
    simp_all
  · intro same
    rw [same]
    exact ⟨rfl, rfl, rfl, rfl, rfl⟩

def Event.rollsClean (event : Event) : Bool :=
  match event.command with
  | .journalWrite (.transition .nextCycle) payload => payload.data.Clean
  | _ => true

def Payload.Waiting (payload : Payload) : Prop :=
  payload.machine.state ∈ [TradeState.idle, .waitTrigger] → payload.data.Clean

theorem transitions_waiting {state state' : TradeState} {event : TradeEvent}
    (edge : transitions state event = some state')
    (waiting : state' ∈ [TradeState.idle, .waitTrigger]) :
    (state = .idle ∧ event = .sessionReady) ∨ event = .nextCycle := by
  cases state <;> cases event <;> cases edge <;> simp at *

theorem Payload.Waiting.changes {ledger : Ledger} {before payload : Payload}
    {writer : JournalWriter} {answer : Except Exc Unit} (waiting : before.Waiting)
    (changes : ledger.Changes before writer payload)
    (clean : Event.rollsClean ⟨.journalWrite writer payload, answer⟩ = true) : payload.Waiting := by
  cases writer with
  | create => exact changes.elim
  | bindVerification =>
      obtain ⟨-, -, verification, rfl⟩ := changes
      exact waiting
  | transition event =>
      obtain ⟨-, session, precheck, snapshot, details, step, rfl⟩ := changes
      intro state
      rcases transitions_waiting (advance_ok step).1 state with ⟨idle, -⟩ | rfl
      · exact waiting (by simp [idle])
      · exact of_decide_eq_true clean
  | persistIntent request =>
      obtain ⟨-, state, -, -, rfl⟩ := changes
      intro other
      simp [state] at other
  | persistBrokerOrderId orderId =>
      obtain ⟨-, held, -, rfl, -⟩ := changes
      intro state
      simp [(waiting state).1] at held
  | persistCancelIntent =>
      obtain ⟨state, rfl⟩ := changes
      intro other
      simp only [List.mem_cons, List.not_mem_nil, or_false] at state other
      rcases state with state | state | state <;> rw [state] at other <;> simp at other
  | updateObservation order =>
      obtain ⟨queried, -, -, -, -, valid, -, -, rfl⟩ := changes
      intro state
      have held := validate_identity_intent valid
      simp [(waiting state).1] at held
  | clearCycleData =>
      obtain ⟨-, rfl⟩ := changes
      exact fun _ => JournalData.clean_iff.2 rfl

theorem guarded_waiting {config : SessionConfig} {trace : Trace}
    (guarded : Trace.Guarded config trace) (rolls : ∀ event ∈ trace, event.rollsClean = true)
    {payload : Payload} (held : (Ledger.ofTrace trace).memory = some payload ∨
      (Ledger.ofTrace trace).disk = some payload) : payload.Waiting := by
  refine guarded.payload (fun _ => ⟨rfl, rfl, rfl, rfl, rfl⟩) ?_ rolls held
  intro trace before writer payload answer _ waiting changes clean
  exact waiting.changes changes clean

section Runs

variable {config : SessionConfig} {trace : Trace}
  {phase : Phase Command Result SessionState Exc Operation (Option ExecutionSnapshot)}

theorem rolled_over_on_disk {payload : Payload} {earlier : Trace}
    (run : SessionReachable config phase
      (⟨.journalWrite (.transition .nextCycle) payload, .ok ()⟩ :: earlier)) :
    payload.machine.state = .waitTrigger ∧
      (Ledger.ofTrace (⟨.journalWrite (.transition .nextCycle) payload, .ok ()⟩ :: earlier)).disk =
        some payload := by
  have guarded : Trace.Guarded config
      ([] ++ ⟨.journalWrite (.transition .nextCycle) payload, .ok ()⟩ :: earlier) := run.guarded
  obtain ⟨-, ⟨before, -, -, session, precheck, snapshot, details, step, rfl⟩, -⟩ := guarded.at
  exact ⟨transitions_nextCycle (advance_ok step).1, rfl⟩

/-- In every run in which NEXT_CYCLE is never written over a cycle's data, every file in WAIT_TRIGGER is
free of an earlier cycle, and a submission from there of a quantity that is a float reaches the broker. A
NEXT_CYCLE that is written over a cycle's data leaves them on disk in WAIT_TRIGGER. -/
theorem waiting_journal_clean (run : SessionReachable config phase trace) :
    ((∀ event ∈ trace, event.rollsClean = true) →
      (∀ payload, (Ledger.ofTrace trace).disk = some payload →
        payload.machine.state = .waitTrigger → payload.data.Clean) ∧
      ∀ object payload request oracle, phase = .idle object → object.isOpen = true →
        object.closed = false → object.mutexOwned = true → object.payload = some payload →
        object.snapshot.state = .waitTrigger → payload.data.assertIdentityUnused request = .ok () →
        request.checkNotional = .ok () → Accepting oracle request →
        .placeOrder request ∈ (ExecutionSession.submit ExecutionSession.poll ExecutionSession.ports
          request).issued oracle object) ∧
    ∀ event earlier, trace = event :: earlier → event.rollsClean = false →
      event.answer.isOk = true → ∃ stored, (Ledger.ofTrace trace).disk = some stored ∧
        stored.machine.state = .waitTrigger ∧ ¬ stored.data.Clean := by
  obtain ⟨lawful, guarded⟩ := run.lawful (session_follows config)
  refine ⟨fun rolls => ⟨?_, ?_⟩, ?_⟩
  · intro payload stored state
    exact guarded_waiting guarded rolls (.inr stored) (by simp [state])
  · rintro object payload request oracle rfl opened unclosed owned held state unused priced accepting
    obtain ⟨payload', settled, -⟩ := lawful opened
    obtain rfl : payload = payload' := Option.some.inj (held.symm.trans settled.held)
    have waiting : payload.machine.state = .waitTrigger := settled.snapshot ▸ state
    have clean := guarded_waiting guarded rolls (.inl settled.memory) (by simp [waiting])
    have sound := (Trace.Guarded.consistent guarded (.inl settled.memory)).sound
    have standing : Standing oracle object payload :=
      ⟨accepting.writes, held, settled.snapshot, sound, by rw [waiting]; decide⟩
    obtain ⟨after, payload', leads, -⟩ := ExecutionSession.submit_leads standing opened unclosed
      owned accepting waiting clean.1 unused priced
    refine leads.2 _ ?_
    unfold ExecutionSession.submitToBroker
    refine issued_first ?_
    rw [issued_attempt]
    exact List.mem_singleton_self _
  · rintro ⟨command, answer⟩ earlier rfl left completed
    unfold Event.rollsClean at left
    split at left
    · rename_i payload same
      cases same
      cases answer with
      | error exc => cases completed
      | ok value =>
          obtain ⟨state, stored⟩ := rolled_over_on_disk run
          exact ⟨payload, stored, state, of_decide_eq_false left⟩
    · cases left

end Runs

def reopenedRun : List SessionDeed :=
  [.start] ++ call .openSession ++
    call (.submit sampleRequest) { precheck := .ok ⟨false, true, true, true, true, true, true, ""⟩ } ++
    call .nextCycle ++ [.crash, .start] ++ call .openSession

def leftoverRun : List SessionDeed :=
  [.start] ++ call .openSession ++
    call (.submit sampleRequest) { order := .ok (sampleOrder .filled 100) } ++
    crashIn .nextCycle 1

/-- The file is in WAIT_TRIGGER and still holds the intent of the filled cycle, and after a
restart the next submission fails without a call of `place_order`. -/
theorem waiting_journal_leftover : (∃ payload,
    (Ledger.ofTrace (sessionRun plainConfig leftoverRun).2).disk = some payload ∧
      payload.machine.state = .waitTrigger ∧ ¬ payload.data.Clean) ∧
    (sessionRun plainConfig (leftoverRun ++ [.start] ++ call .openSession ++
      call (.submit laterRequest))).2.countP Event.isPlacement = 1 := by
  have left : ((Ledger.ofTrace (sessionRun plainConfig leftoverRun).2).disk.map
      fun payload => (payload.machine.state, payload.data.intent.isSome)) =
        some (.waitTrigger, true) := by decide +kernel
  refine ⟨?_, by decide +kernel⟩
  obtain ⟨payload, stored, facts⟩ := Option.map_eq_some_iff.1 left
  obtain ⟨state, intent⟩ := Prod.mk.inj facts
  refine ⟨payload, stored, state, fun clean => ?_⟩
  rw [clean.1] at intent
  cases intent

/-- After a rejected cycle and a restart the next submission reaches the broker; after a filled one the
file of NEXT_CYCLE holds its intent. -/
theorem waiting_journal_clean_reopened :
    (∃ object, (sessionRun plainConfig reopenedRun).1 = .idle object ∧
      .placeOrder laterRequest ∈ (ExecutionSession.submit ExecutionSession.poll
        ExecutionSession.ports laterRequest).issued
          (Replies.answer {} (sessionRun plainConfig reopenedRun).2) object) ∧
    ∃ stored, (Ledger.ofTrace (sessionRun plainConfig leftoverRun).2).disk = some stored ∧
      stored.machine.state = .waitTrigger ∧ ¬ stored.data.Clean := by
  constructor
  · have found : (sessionRun plainConfig reopenedRun).1.memory.any (fun object =>
        (object.isOpen && !object.closed && object.mutexOwned) &&
          (object.snapshot.state = .waitTrigger) && object.payload.any fun payload =>
            payload.data.assertIdentityUnused laterRequest = .ok ()) = true := by decide +kernel
    obtain ⟨object, memory, facts⟩ := (Option.any_eq_true _ _).1 found
    simp only [Bool.and_eq_true, Bool.not_eq_true', decide_eq_true_eq] at facts
    obtain ⟨⟨⟨⟨opened, unclosed⟩, owned⟩, state⟩, unused⟩ := facts
    obtain ⟨payload, held, unused⟩ := (Option.any_eq_true _ _).1 unused
    have idle := Phase.memory_eq memory
    refine ⟨object, idle, ?_⟩
    have accepting : Accepting (Replies.answer {} (sessionRun plainConfig reopenedRun).2) laterRequest :=
      ⟨fun _ _ => rfl, rfl, ⟨_, rfl, rfl, rfl⟩, rfl, rfl⟩
    exact ((waiting_journal_clean (session_run_reachable plainConfig reopenedRun)).1
      (by decide +kernel)).2 object payload laterRequest _ idle opened unclosed owned held state
        (of_decide_eq_true unused) (by decide +kernel) accepting
  · have rolled : (sessionRun plainConfig leftoverRun).2.head?.any (fun event =>
        !event.rollsClean && event.answer.isOk) = true := by decide +kernel
    obtain ⟨event, last, facts⟩ := (Option.any_eq_true _ _).1 rolled
    simp only [Bool.and_eq_true, Bool.not_eq_true'] at facts
    obtain ⟨earlier, last⟩ := List.head?_eq_some_iff.1 last
    exact (waiting_journal_clean (session_run_reachable plainConfig leftoverRun)).2 event earlier last
      facts.1 facts.2

end QmtExecution
