import QmtExecution.Formal.ThreeProcesses
import QmtExecution.Protocol.Environment

/-! The history in the journal file is a log of the state machine: its entries follow the table,
and running them again from the initial snapshot gives the stored machine. -/

namespace QmtExecution

open Interaction

/-- Running recorded events with the evidence that the release verifier takes for granted. -/
def replay (events : List TradeEvent) : Except Exc MachineSnapshot :=
  events.foldlM Formal.step Formal.initialSnapshot

/-- The history numbers the last events up to the event count, each entry's state is the one the
table gives from its predecessor, the last is the machine's state, and where nothing has been
cut off the events lead from the initial snapshot to the machine. -/
structure Payload.Faithful (payload : Payload) : Prop where
  kept : payload.history.length = min payload.eventCount maxHistory
  numbered : payload.history.map HistoryEntry.sequence =
    List.range' (payload.eventCount + 1 - payload.history.length) payload.history.length
  chained : payload.history.IsChain fun earlier later =>
    transitions earlier.state later.event = some later.state
  latest : ∀ entry, payload.history.getLast? = some entry → entry.state = payload.machine.state
  replayed : payload.eventCount ≤ maxHistory →
    replay (payload.history.map HistoryEntry.event) = .ok payload.machine

/-- Whatever evidence a step was taken with, the canonical evidence leads to the same snapshot. -/
theorem advance_canonical {snapshot result : MachineSnapshot} {event : TradeEvent}
    {session : Option SessionEvidence} {precheck : Option PrecheckEvidence}
    (step : advance snapshot event session precheck = .ok result) :
    Formal.step snapshot event = .ok result := by
  obtain ⟨edge, changed, -, checked⟩ := advance_ok step
  have assembled : result = ⟨result.state, result.facts⟩ := rfl
  cases event with
  | sessionReady =>
      have facts := facts_sessionReady changed
      have canonical : factsAfter snapshot.facts (some Formal.canonicalSessionEvidence) none
          .sessionReady = .ok result.facts := by
        rw [facts]
        rfl
      simp [Formal.step, advance, edge, canonical, ← assembled, checked]
  | precheckVerified =>
      have facts := facts_precheckVerified changed
      have canonical : factsAfter snapshot.facts none (some Formal.canonicalPrecheckEvidence)
          .precheckVerified = .ok result.facts := by
        rw [facts]
        rfl
      simp [Formal.step, advance, edge, canonical, ← assembled, checked]
  | _ => exact step

theorem lastOf_eq_drop {α : Type} (bound : Nat) (values : List α) :
    lastOf bound values = values.drop (values.length - bound) := by
  rw [lastOf, List.take_reverse, List.reverse_reverse]

namespace Payload.Faithful

theorem create (executionId : String) : (Payload.create executionId).Faithful where
  kept := rfl
  numbered := rfl
  chained := .nil
  latest := by simp [Payload.create]
  replayed := fun _ => rfl

theorem withData {payload : Payload} (faithful : payload.Faithful) (data : JournalData) :
    Payload.Faithful { payload with data } :=
  ⟨faithful.kept, faithful.numbered, faithful.chained, faithful.latest, faithful.replayed⟩

theorem record {payload : Payload} (faithful : payload.Faithful) {event : TradeEvent}
    {snapshot : MachineSnapshot} {session : Option SessionEvidence}
    {precheck : Option PrecheckEvidence} (details : Details)
    (step : advance payload.machine event session precheck = .ok snapshot) :
    (payload.record event snapshot details).Faithful := by
  let entry : HistoryEntry := ⟨payload.eventCount + 1, event, snapshot.state, details⟩
  let grown := payload.history ++ [entry]
  have kept := faithful.kept
  have size : grown.length = payload.history.length + 1 := by simp [grown]
  have cut : (payload.record event snapshot details).history =
      grown.drop (grown.length - maxHistory) := lastOf_eq_drop maxHistory grown
  have positive : 0 < maxHistory := by decide
  have count : (payload.record event snapshot details).eventCount = payload.eventCount + 1 := rfl
  have numbered : grown.map HistoryEntry.sequence =
      List.range' (payload.eventCount + 1 - payload.history.length) grown.length := by
    have last : payload.eventCount + 1 - payload.history.length + payload.history.length =
        payload.eventCount + 1 := by omega
    rw [size, List.range'_1_concat, last, List.map_append, faithful.numbered]
    rfl
  constructor
  · rw [cut, count, List.length_drop, size]
    omega
  · have start : payload.eventCount + 1 - payload.history.length +
          (grown.length - maxHistory) * 1 =
        payload.eventCount + 1 + 1 - (grown.length - (grown.length - maxHistory)) := by omega
    rw [cut, count, List.map_drop, numbered, List.drop_range', List.length_drop, start]
  · rw [cut]
    apply List.IsChain.drop
    apply List.isChain_append.2
    refine ⟨faithful.chained, List.isChain_singleton entry, ?_⟩
    intro earlier found later same
    rw [List.head?_cons, Option.mem_some_iff] at same
    subst same
    rw [faithful.latest earlier found]
    exact (advance_ok step).1
  · intro last found
    rw [cut, List.getLast?_drop, if_neg (by omega), List.getLast?_concat] at found
    cases found
    rfl
  · intro short
    rw [count] at short
    have whole : grown.length - maxHistory = 0 := by omega
    have earlier := faithful.replayed (by omega)
    rw [cut, whole, List.drop_zero, List.map_append, replay, List.foldlM_append]
    rw [replay] at earlier
    rw [earlier, List.map_singleton]
    change List.foldlM Formal.step payload.machine [event] = .ok snapshot
    rw [List.foldlM_cons, advance_canonical step]
    rfl

/-- Every change that a writer of the journal may make keeps the log. -/
theorem changes {before payload : Payload} {ledger : Ledger} {writer : JournalWriter}
    (faithful : before.Faithful) (changes : ledger.Changes before writer payload) :
    payload.Faithful := by
  cases writer with
  | create => exact changes.elim
  | bindVerification =>
      obtain ⟨-, -, verification, rfl⟩ := changes
      exact faithful.withData _
  | transition event =>
      obtain ⟨-, session, precheck, snapshot, details, step, rfl⟩ := changes
      exact faithful.record details step
  | persistIntent request =>
      obtain ⟨-, -, -, -, rfl⟩ := changes
      exact faithful.withData _
  | persistBrokerOrderId orderId =>
      obtain ⟨-, -, -, rfl, -⟩ := changes
      exact faithful.withData _
  | persistCancelIntent =>
      obtain ⟨-, rfl⟩ := changes
      exact faithful.withData _
  | updateObservation order =>
      obtain ⟨queried, -, -, -, -, -, -, -, rfl⟩ := changes
      exact faithful.withData _
  | clearCycleData =>
      obtain ⟨-, rfl⟩ := changes
      exact faithful.withData _

end Payload.Faithful

/-- In every run the journal file is a faithful log. -/
theorem journal_replays {config : SessionConfig}
    {phase : Phase Command Result SessionState Exc Operation (Option ExecutionSnapshot)}
    {trace : Trace} (run : SessionReachable config phase trace) {payload : Payload}
    (stored : (Ledger.ofTrace trace).disk = some payload) : payload.Faithful :=
  run.guarded.payload (.create _)
    (fun _ _ _ _ _ _ faithful changes (_ : True) => faithful.changes changes)
    (fun _ _ => trivial) (.inr stored)

theorem journal_replays_unknown : ∃ payload,
    (Ledger.ofTrace (sessionRun plainConfig unknownRun).2).disk = some payload ∧
      payload.machine.state = .unknown ∧
      replay (payload.history.map HistoryEntry.event) = .ok payload.machine := by
  have left : ((Ledger.ofTrace (sessionRun plainConfig unknownRun).2).disk.map
      fun payload => (payload.machine.state, decide (payload.eventCount ≤ maxHistory))) =
        some (.unknown, true) := by decide +kernel
  obtain ⟨payload, stored, facts⟩ := Option.map_eq_some_iff.1 left
  obtain ⟨state, short⟩ := Prod.mk.inj facts
  have faithful := journal_replays (session_run_reachable plainConfig unknownRun) stored
  exact ⟨payload, stored, state, faithful.replayed (of_decide_eq_true short)⟩

end QmtExecution
