import QmtExecution.Formal.Processes
import QmtExecution.Formal.Search
import QmtExecution.Guarantees.Answers

/-! The product model of `formal.py`: three machines that share the resources. A snapshot
stands for its number in the graph. -/

namespace QmtExecution.Formal

def tradeEvents : List TradeEvent := [.sessionReady, .triggered, .beginPrecheck,
  .precheckVerified, .precheckRejected, .intentPersisted, .preBrokerRejected, .preBrokerAborted,
  .submitAccepted, .submitRejected, .submitAmbiguous, .orderWorking, .orderPartial, .orderFilled,
  .orderRejected, .cancelRequested, .cancelSent, .cancelRequestRejected, .cancelStillPending,
  .cancelConfirmed, .queryAmbiguous, .recoveryAccepted, .recoveryWorking, .recoveryPartial,
  .recoveryCancelling, .recoveryFilled, .recoveryCancelled, .recoveryRejected, .recoveryFailed,
  .restartRecovery, .nextCycle, .fatal]

theorem mem_tradeEvents (event : TradeEvent) : event ∈ tradeEvents := by
  cases event <;> decide

def initialSnapshot : MachineSnapshot := ⟨.idle, {}⟩

def canonicalSessionEvidence : SessionEvidence where
  ready := true
  environmentVerified := true
  accountVerified := true

def canonicalPrecheckEvidence : PrecheckEvidence where
  allowed := true
  environmentVerified := true
  accountVerified := true
  brokerSnapshotVerified := true
  positionVerified := true
  cashVerified := true
  quoteVerified := true

def step (snapshot : MachineSnapshot) (event : TradeEvent) : Except Exc MachineSnapshot :=
  match event with
  | .sessionReady => advance snapshot event (some canonicalSessionEvidence) none
  | .precheckVerified => advance snapshot event none (some canonicalPrecheckEvidence)
  | _ => advance snapshot event

/-- The steps from a snapshot: the events of the table that `advance` accepts. -/
def localEdges (snapshot : MachineSnapshot) : List (TradeEvent × MachineSnapshot) :=
  (tradeEvents.filter fun event => (transitions snapshot.state event).isSome).filterMap
    fun event =>
      match step snapshot event with
      | .ok successor => some (event, successor)
      | .error _ => none

structure LocalGraph where
  snapshots : List MachineSnapshot
  edges : MachineSnapshot → List (TradeEvent × MachineSnapshot)
  byEvent : MachineSnapshot → TradeEvent → Option MachineSnapshot

def buildLocalGraph (fuel : ℕ) : Option LocalGraph :=
  (Search.search (fun snapshot => (localEdges snapshot).map Prod.snd) initialSnapshot fuel).map
    fun snapshots =>
      let edges := fun snapshot => if snapshot ∈ snapshots then localEdges snapshot else []
      { snapshots, edges
        byEvent := fun snapshot event =>
          ((edges snapshot).find? fun edge => edge.1 = event).map Prod.snd }

theorem mem_localEdges {snapshot target : MachineSnapshot} {event : TradeEvent} :
    (event, target) ∈ localEdges snapshot ↔ step snapshot event = .ok target := by
  simp only [localEdges, List.mem_filterMap, List.mem_filter, mem_tradeEvents, true_and]
  constructor
  · rintro ⟨other, -, edge⟩
    split at edge
    · rename_i successor done
      cases edge
      exact done
    · cases edge
  · intro done
    refine ⟨event, ?_, by rw [done]⟩
    have listed : ∃ session precheck, advance snapshot event session precheck = .ok target := by
      unfold step at done
      split at done <;> exact ⟨_, _, done⟩
    obtain ⟨_, _, taken⟩ := listed
    rw [(advance_ok taken).1, Option.isSome_some]

section Graph

variable {fuel : ℕ} {graph : LocalGraph} (built : buildLocalGraph fuel = some graph)
  {snapshot target : MachineSnapshot} {event : TradeEvent}

include built

theorem mem_edges : (event, target) ∈ graph.edges snapshot ↔
    snapshot ∈ graph.snapshots ∧ step snapshot event = .ok target := by
  obtain ⟨snapshots, -, rfl⟩ := Option.map_eq_some_iff.1 built
  dsimp only
  split_ifs with met
  · rw [mem_localEdges, and_iff_right met]
  · simp [met]

theorem byEvent_iff : graph.byEvent snapshot event = some target ↔
    snapshot ∈ graph.snapshots ∧ step snapshot event = .ok target := by
  have byEvent : graph.byEvent snapshot event =
      ((graph.edges snapshot).find? fun edge => edge.1 = event).map Prod.snd := by
    obtain ⟨snapshots, -, rfl⟩ := Option.map_eq_some_iff.1 built
    rfl
  rw [byEvent, Option.map_eq_some_iff]
  constructor
  · rintro ⟨⟨other, successor⟩, found, rfl⟩
    have same := List.find?_some found
    obtain rfl : other = event := by simpa using same
    exact (mem_edges built).1 (List.mem_of_find?_eq_some found)
  · intro edge
    have listed := (mem_edges built).2 edge
    obtain ⟨⟨other, successor⟩, found⟩ := Option.isSome_iff_exists.1 (List.find?_isSome.2
      ⟨(event, target), listed, by simp⟩ :
        ((graph.edges snapshot).find? fun edge => edge.1 = event).isSome = true)
    have same := List.find?_some found
    obtain rfl : other = event := by simpa using same
    have taken := ((mem_edges built).1 (List.mem_of_find?_eq_some found)).2
    rw [edge.2] at taken
    cases taken
    exact ⟨_, found, rfl⟩

theorem initial_mem : initialSnapshot ∈ graph.snapshots := by
  obtain ⟨snapshots, found, rfl⟩ := Option.map_eq_some_iff.1 built
  exact (Search.mem_search found).2 .refl

theorem step_mem (met : snapshot ∈ graph.snapshots) (taken : step snapshot event = .ok target) :
    target ∈ graph.snapshots := by
  obtain ⟨snapshots, found, rfl⟩ := Option.map_eq_some_iff.1 built
  refine (Search.mem_search found).2 (.tail ((Search.mem_search found).1 met) ?_)
  exact List.mem_map.2 ⟨(event, target), mem_localEdges.2 taken, rfl⟩

end Graph

instance : Finite TradeState := by
  let states : List TradeState := [.idle, .waitTrigger, .trigger, .preCheck, .submitted, .accepted,
    .working, .unknown, .partiallyFilled, .pendingCancel, .cancelling, .filled, .cancelled,
    .rejected, .cancelRejected, .failed]
  have every : ∀ state, state ∈ states := fun state => by cases state <;> decide
  exact Set.finite_univ_iff.1 (states.finite_toSet.subset fun state _ => every state)

instance : Finite SafetyFacts := by
  refine Finite.of_injective (fun facts : SafetyFacts => ((facts.environmentVerified,
    facts.accountVerified, facts.brokerSnapshotVerified, facts.positionVerified),
    (facts.cashVerified, facts.quoteVerified, facts.intentPersisted, facts.reservationPersisted),
    facts.unresolvedOrder, facts.terminalOrderConfirmed, facts.submittedOnce,
    facts.cancelIntentPersisted)) ?_
  rintro ⟨⟩ ⟨⟩ same
  simp only [Prod.mk.injEq] at same
  simp only [SafetyFacts.mk.injEq]
  tauto

instance : Finite MachineSnapshot := by
  refine Finite.of_injective (fun snapshot : MachineSnapshot => (snapshot.state, snapshot.facts)) ?_
  rintro ⟨⟩ ⟨⟩ same
  simpa using same

theorem buildLocalGraph_isSome {fuel : ℕ} (enough : Nat.card MachineSnapshot < fuel) :
    (buildLocalGraph fuel).isSome = true := by
  rw [buildLocalGraph, Option.isSome_map]
  exact Search.search_isSome _ _ enough

/-- `values[index]` of Python: a negative index counts from the end. -/
def item (values : List ℕ) (index : ℤ) : Option ℕ :=
  if 0 ≤ index then values[index.toNat]?
  else if -values.length ≤ index then values[(values.length + index).toNat]?
  else none

structure FormalScenario where
  name : String
  processes : Fin 3 → FormalProcessSpec ℤ ℤ
  cashByAccount : List ℕ
  indexed : ∀ index, (item cashByAccount (processes index).account).isSome = true

structure ProcessState where
  snapshot : MachineSnapshot
  held : Bool
  deriving DecidableEq

abbrev GlobalState := Fin 3 → ProcessState

def replaceProcess (state : GlobalState) (index : Fin 3) (snapshot : MachineSnapshot)
    (held : Bool) : GlobalState :=
  Function.update state index ⟨snapshot, held⟩

namespace FormalScenario

variable (scenario : FormalScenario)

/-- `cash_by_account[spec.account]`. -/
def capacity (index : Fin 3) : ℕ :=
  (item scenario.cashByAccount (scenario.processes index).account).get (scenario.indexed index)

def canPrepare (state : GlobalState) (index : Fin 3) : Bool :=
  Formal.canPrepare (fun other => (state other).held) scenario.processes (scenario.capacity index)
    index

def canRestore (state : GlobalState) (index : Fin 3) : Bool :=
  Formal.canRestore (fun other => (state other).held) scenario.processes index

def syncPhase (state : GlobalState) (index : Fin 3) (target : MachineSnapshot)
    (currentHeld enteredSubmitted : Bool) : Option GlobalState :=
  if enteredSubmitted then some (replaceProcess state index target false)
  else if executionFinality target = .resolved then some (replaceProcess state index target false)
  else if currentHeld then some (replaceProcess state index target true)
  else if !scenario.canRestore state index then none
  else some (replaceProcess state index target true)

def label (index : Fin 3) (what : String) : String := "p" ++ toString index.val ++ ":" ++ what

variable (graph : LocalGraph)

/-- The successors of a process whose intent is durable, before it has coordinated. -/
def uncoordinatedSuccessors (state : GlobalState) (index : Fin 3) (snapshot : MachineSnapshot) :
    List (String × GlobalState) :=
  (if scenario.canPrepare state index then
      [(label index "coordination_ok", replaceProcess state index snapshot true)]
    else (graph.byEvent snapshot .preBrokerRejected).toList.map fun rejected =>
      (label index "coordination_rejected", replaceProcess state index rejected false)) ++
  ((graph.byEvent snapshot .preBrokerAborted).toList.map fun aborted =>
      (label index "coordination_abort", replaceProcess state index aborted false)) ++
  -- a crash before coordination: the restart cannot infer that nothing was sent
  match (graph.byEvent snapshot .restartRecovery).bind fun restarted =>
      graph.byEvent restarted .recoveryFailed with
  | some failed =>
      if scenario.canRestore state index then
        [(label index "restart_precoord_quarantine", replaceProcess state index failed true)]
      else []
  | none => []

def coordinatedSuccessors (state : GlobalState) (index : Fin 3) (snapshot : MachineSnapshot) :
    List (String × GlobalState) :=
  ((graph.byEvent snapshot .preBrokerAborted).toList.map fun aborted =>
      (label index "sidecar_abort", replaceProcess state index aborted false)) ++
  [TradeEvent.submitAccepted, .submitAmbiguous, .submitRejected, .restartRecovery].filterMap
    fun event => (graph.byEvent snapshot event).map fun target =>
      (label index event.value, replaceProcess state index target (event ≠ .submitRejected))

def processSuccessors (state : GlobalState) (index : Fin 3) : List (String × GlobalState) :=
  let ⟨snapshot, held⟩ := state index
  if snapshot.state = .submitted then
    if !held then scenario.uncoordinatedSuccessors graph state index snapshot
    else coordinatedSuccessors graph state index snapshot
  else
    (graph.edges snapshot).filterMap fun (event, target) =>
      if event = .nextCycle then none
      else
        let enteredSubmitted := event = .intentPersisted && target.state = .submitted
        (scenario.syncPhase state index target held enteredSubmitted).map fun candidate =>
          (label index event.value, candidate)

def globalSuccessors (state : GlobalState) : List (String × GlobalState) :=
  (List.finRange 3).flatMap fun index => scenario.processSuccessors graph state index

end FormalScenario

def require (ok : Bool) (message : String) : Except Exc Unit :=
  if ok then .ok () else .error ⟨.runtimeError, message⟩

namespace FormalScenario

variable (scenario : FormalScenario)

def assertProcess (state : GlobalState) (left : Fin 3) : Except Exc Unit := do
  let ⟨snapshot, held⟩ := state left
  let finality := executionFinality snapshot
  let process := "p" ++ toString left.val
  require (!(held && finality = .resolved))
    (scenario.name ++ ": RESOLVED process " ++ process ++ " retained shared resources")
  require (!(held && !snapshot.facts.intentPersisted))
    (scenario.name ++ ": " ++ process ++ " holds resources without durable intent")
  require (!(!held && (finality = .open || finality = .quarantined) &&
      snapshot.state ≠ .submitted))
    (scenario.name ++ ": unresolved " ++ process ++ " lost shared claim")
  require (!((snapshot.state = .unknown || snapshot.state = .cancelRejected) && !held))
    (scenario.name ++ ": recoverable " ++ process ++ " does not hold symbol claim")
  require (!(snapshot.state = .failed && snapshot.facts.unresolvedOrder && !held))
    (scenario.name ++ ": quarantined FAILED " ++ process ++ " released symbol claim")
  ((List.finRange 3).filter (left < ·)).forM fun right =>
    require (!(held && (state right).held &&
        ((scenario.processes left).account = (scenario.processes right).account &&
          (scenario.processes left).symbol = (scenario.processes right).symbol)))
      (scenario.name ++ ": duplicate unresolved claim on (account=" ++
        toString (scenario.processes left).account ++ ", symbol=" ++
        toString (scenario.processes left).symbol ++ ")")

def activeSubmitted (state : GlobalState) (account : ℤ) : ℕ :=
  ∑ index with ((state index).held && ((scenario.processes index).account = account &&
      ((scenario.processes index).side = .buy && (state index).snapshot.facts.submittedOnce))),
    (scenario.processes index).requiredCash

def assertGlobalInvariants (state : GlobalState) : Except Exc Unit := do
  (List.finRange 3).forM (scenario.assertProcess state)
  scenario.cashByAccount.zipIdx.forM fun (capacity, account) =>
    require (scenario.activeSubmitted state account ≤ capacity)
      (scenario.name ++ ": broker-invoked active BUY cash " ++
        toString (scenario.activeSubmitted state account) ++ " exceeds capacity " ++
        toString capacity)

inductive Reachable (graph : LocalGraph) : GlobalState → Prop
  | initial : Reachable graph fun _ => ⟨initialSnapshot, false⟩
  | step {state successor : GlobalState} {name : String} (reachable : Reachable graph state)
      (member : (name, successor) ∈ scenario.globalSuccessors graph state) :
      Reachable graph successor

end FormalScenario

end QmtExecution.Formal
