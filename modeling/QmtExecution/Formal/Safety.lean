import QmtExecution.Formal.ThreeProcesses

/-! The product of three processes is safe in every scenario: what one step of one process can
do, and the invariant that carries the checks. -/

namespace QmtExecution.Formal

section Local

variable {snapshot target : MachineSnapshot} {event : TradeEvent}

theorem step_advance (taken : step snapshot event = .ok target) :
    ∃ session precheck, advance snapshot event session precheck = .ok target := by
  unfold step at taken
  split at taken <;> exact ⟨_, _, taken⟩

theorem step_sound (sound : snapshot.Sound) (taken : step snapshot event = .ok target) :
    target.Sound := by
  obtain ⟨_, _, advanced⟩ := step_advance taken
  exact advance_sound sound advanced

theorem step_edge (taken : step snapshot event = .ok target) :
    transitions snapshot.state event = some target.state := by
  obtain ⟨_, _, advanced⟩ := step_advance taken
  exact (advance_ok advanced).1

theorem step_intent (intent : snapshot.facts.intentPersisted = true) (same : event ≠ .nextCycle)
    (taken : step snapshot event = .ok target) : target.facts.intentPersisted = true := by
  obtain ⟨_, _, advanced⟩ := step_advance taken
  obtain ⟨-, changed, -, -⟩ := advance_ok advanced
  obtain ⟨_, facts⟩ := target
  cases event
  case sessionReady =>
    obtain rfl := facts_sessionReady changed
    exact intent
  case precheckVerified =>
    obtain rfl := facts_precheckVerified changed
    exact intent
  case nextCycle => exact absurd rfl same
  all_goals
    cases changed
    first | exact intent | rfl

theorem step_facts (plain : event ∉ [TradeEvent.sessionReady, .precheckVerified])
    (taken : step snapshot event = .ok target) :
    factsAfter snapshot.facts none none event = .ok target.facts := by
  unfold step at taken
  split at taken
  · simp at plain
  · simp at plain
  · exact (advance_ok taken).2.1

def quietStates : List TradeState :=
  [.idle, .waitTrigger, .trigger, .preCheck, .filled, .cancelled, .rejected]

theorem finality_quiet (quiet : snapshot.state ∈ quietStates) :
    executionFinality snapshot = .resolved := by
  simp only [quietStates, List.mem_cons, List.not_mem_nil, or_false] at quiet
  rcases quiet with state | state | state | state | state | state | state <;>
    simp [executionFinality, state]

theorem resolved_quiet (resolved : executionFinality snapshot = .resolved) :
    snapshot.state ∈ quietStates ∨ snapshot.state = .failed := by
  obtain ⟨state, facts⟩ := snapshot
  cases state
  case failed => exact .inr rfl
  all_goals simp [quietStates] <;> cases resolved

theorem quiet_edge {state next : TradeState} (quiet : state ∈ quietStates)
    (live : event ∉ [TradeEvent.nextCycle, .fatal]) (edge : transitions state event = some next) :
    next ∈ quietStates ∨ event = .intentPersisted ∧ next = .submitted := by
  cases state <;> cases event <;> cases edge <;>
    first | exact .inl (by decide) | exact .inr ⟨rfl, rfl⟩ | exact absurd live (by decide) |
      exact absurd quiet (by decide)

theorem quiet_fatal {state next : TradeState} (quiet : state ∈ quietStates)
    (edge : transitions state .fatal = some next) :
    (state = .idle ∨ state = .waitTrigger ∨ state = .trigger ∨ state = .preCheck) ∧
      next = .failed := by
  cases state <;> cases edge <;> first | exact ⟨by decide, rfl⟩ | exact absurd quiet (by decide)

theorem finality_rejected (rejected : snapshot.state = .rejected) :
    executionFinality snapshot = .resolved := by
  simp [executionFinality, rejected]

theorem finality_failed (failed : snapshot.state = .failed) :
    executionFinality snapshot =
      if snapshot.facts.unresolvedOrder then .quarantined else .resolved := by
  simp [executionFinality, failed]

theorem preBrokerRejected_resolved (taken : step snapshot .preBrokerRejected = .ok target) :
    executionFinality target = .resolved := by
  have edge := step_edge taken
  refine finality_rejected ?_
  revert edge
  cases snapshot.state <;> simp [transitions, eq_comm]

theorem submitRejected_resolved (taken : step snapshot .submitRejected = .ok target) :
    executionFinality target = .resolved := by
  have edge := step_edge taken
  refine finality_rejected ?_
  revert edge
  cases snapshot.state <;> simp [transitions, eq_comm]

theorem preBrokerAborted_resolved (taken : step snapshot .preBrokerAborted = .ok target) :
    executionFinality target = .resolved := by
  have edge := step_edge taken
  have facts := step_facts (by decide) taken
  have failed : target.state = .failed := by
    revert edge
    cases snapshot.state <;> simp [transitions, eq_comm]
  have resolved : target.facts.unresolvedOrder = false := by
    rw [← Except.ok.inj facts]
  rw [finality_failed failed, resolved]
  rfl

theorem submitted_open (submitted : snapshot.state = .submitted)
    (answered : event ∈ [TradeEvent.submitAccepted, .submitAmbiguous, .restartRecovery])
    (taken : step snapshot event = .ok target) : executionFinality target ≠ .resolved := by
  have edge := step_edge taken
  rw [submitted] at edge
  simp only [List.mem_cons, List.not_mem_nil, or_false] at answered
  rcases answered with rfl | rfl | rfl <;> simp only [transitions, Option.some.injEq] at edge <;>
    simp [executionFinality, ← edge]

/-- A restart before coordination, given up: nothing was submitted, but the order counts as
unresolved. -/
theorem restart_failed {middle : MachineSnapshot} (sound : snapshot.Sound)
    (submitted : snapshot.state = .submitted)
    (restarted : step snapshot .restartRecovery = .ok middle)
    (failed : step middle .recoveryFailed = .ok target) :
    target.state = .failed ∧ executionFinality target = .quarantined ∧
      target.facts.submittedOnce = false ∧ target.facts.intentPersisted = true := by
  have fit := sound.fit
  rw [submitted] at fit
  obtain ⟨intent, -, once, -⟩ := fit
  have middleFacts := Except.ok.inj (step_facts (by decide) restarted)
  have facts := Except.ok.inj (step_facts (by decide) failed)
  have edge := step_edge failed
  have state : target.state = .failed := by
    revert edge
    cases middle.state <;> simp [transitions, eq_comm]
  refine ⟨state, ?_, ?_, ?_⟩
  · rw [finality_failed state, ← facts]
    rfl
  · rw [← facts, ← middleFacts]
    exact once
  · rw [← facts, ← middleFacts]
    exact intent

theorem resolved_step (sound : snapshot.Sound) (resolved : executionFinality snapshot = .resolved)
    (live : event ≠ .nextCycle) (taken : step snapshot event = .ok target) :
    executionFinality target = .resolved ∨ event = .intentPersisted ∧ target.state = .submitted := by
  have edge := step_edge taken
  rcases resolved_quiet resolved with quiet | failed
  · by_cases fatal : event = .fatal
    · subst fatal
      have facts := Except.ok.inj (step_facts (by decide) taken)
      have fit := sound.fit
      obtain ⟨early, failed⟩ := quiet_fatal quiet edge
      have settled : snapshot.facts.unresolvedOrder = false := by
        rcases early with state | state | state | state <;> rw [state] at fit <;> exact fit.2.1
      left
      rw [finality_failed failed, ← facts]
      simp [settled]
    · refine (quiet_edge quiet (by simp [live, fatal]) edge).imp_left finality_quiet
  · rw [failed] at edge
    cases edge

end Local

/-- A process holds resources exactly while its execution is unresolved, but for the time
between the durable intent and the coordination. -/
structure ProcessState.Safe (process : ProcessState) : Prop where
  sound : process.snapshot.Sound
  held : process.held = true → executionFinality process.snapshot ≠ .resolved ∧
    process.snapshot.facts.intentPersisted = true
  free : process.held = false →
    executionFinality process.snapshot = .resolved ∨ process.snapshot.state = .submitted

/-- Whether what the process has reserved may stand behind an order: it has been prepared, or the
broker has been called. -/
def ProcessState.committed (process : ProcessState) : Bool :=
  process.held && (process.snapshot.state ≠ .failed || process.snapshot.facts.submittedOnce)

theorem ProcessState.Safe.no_restore {process : ProcessState} (safe : process.Safe)
    {event : TradeEvent} {target : MachineSnapshot} (idle : process.held = false)
    (other : process.snapshot.state ≠ .submitted) (live : event ≠ .nextCycle)
    (plain : ¬ (event = .intentPersisted ∧ target.state = .submitted))
    (taken : step process.snapshot event = .ok target)
    (unresolved : executionFinality target ≠ .resolved) : False := by
  have resolved := (safe.free idle).resolve_right other
  rcases resolved_step safe.sound resolved live taken with still | entered
  · exact unresolved still
  · exact plain entered

namespace FormalScenario

variable {scenario : FormalScenario} {state : GlobalState} {index : Fin 3}

inductive Moves (scenario : FormalScenario) (state : GlobalState) (index : Fin 3) :
    ProcessState → Prop
  | prepared (submitted : (state index).snapshot.state = .submitted)
      (allowed : scenario.canPrepare state index = true) :
      Moves scenario state index ⟨(state index).snapshot, true⟩
  | dropped {event : TradeEvent} {target : MachineSnapshot}
      (taken : step (state index).snapshot event = .ok target)
      (resolved : executionFinality target = .resolved) : Moves scenario state index ⟨target, false⟩
  | entered {target : MachineSnapshot}
      (taken : step (state index).snapshot .intentPersisted = .ok target)
      (submitted : target.state = .submitted) : Moves scenario state index ⟨target, false⟩
  | kept {event : TradeEvent} {target : MachineSnapshot} (held : (state index).held = true)
      (live : event ≠ .nextCycle) (taken : step (state index).snapshot event = .ok target)
      (unresolved : executionFinality target ≠ .resolved) : Moves scenario state index ⟨target, true⟩
  | quarantined {middle target : MachineSnapshot}
      (submitted : (state index).snapshot.state = .submitted)
      (restarted : step (state index).snapshot .restartRecovery = .ok middle)
      (failed : step middle .recoveryFailed = .ok target)
      (allowed : scenario.canRestore state index = true) : Moves scenario state index ⟨target, true⟩
  | restored {event : TradeEvent} {target : MachineSnapshot} (idle : (state index).held = false)
      (other : (state index).snapshot.state ≠ .submitted) (live : event ≠ .nextCycle)
      (plain : ¬ (event = .intentPersisted ∧ target.state = .submitted))
      (taken : step (state index).snapshot event = .ok target)
      (unresolved : executionFinality target ≠ .resolved) : Moves scenario state index ⟨target, true⟩

theorem syncPhase_moves {event : TradeEvent} {target : MachineSnapshot} {candidate : GlobalState}
    (other : (state index).snapshot.state ≠ .submitted) (live : event ≠ .nextCycle)
    (taken : step (state index).snapshot event = .ok target)
    (synced : scenario.syncPhase state index target (state index).held
      (event = .intentPersisted && target.state = .submitted) = some candidate) :
    ∃ process, candidate = Function.update state index process ∧
      Moves scenario state index process := by
  unfold syncPhase replaceProcess at synced
  split_ifs at synced with entered resolved held refused
  · cases synced
    simp only [Bool.and_eq_true, decide_eq_true_eq] at entered
    obtain ⟨rfl, submitted⟩ := entered
    exact ⟨_, rfl, .entered taken submitted⟩
  · cases synced
    exact ⟨_, rfl, .dropped taken resolved⟩
  · cases synced
    exact ⟨_, rfl, .kept held live taken resolved⟩
  · cases synced
    refine ⟨_, rfl, .restored (by simpa using held) other live ?_ taken resolved⟩
    simpa using entered

section Built

variable {fuel : ℕ} {graph : LocalGraph} (built : buildLocalGraph fuel = some graph)
  {name : String} {successor : GlobalState}

include built

theorem uncoordinated_moves (submitted : (state index).snapshot.state = .submitted)
    (member : (name, successor) ∈
      scenario.uncoordinatedSuccessors graph state index (state index).snapshot) :
    ∃ process, successor = Function.update state index process ∧
      Moves scenario state index process := by
  unfold uncoordinatedSuccessors replaceProcess at member
  simp only [List.mem_append] at member
  rcases member with (coordinated | aborted) | restarted
  · split_ifs at coordinated with allowed
    · cases List.mem_singleton.1 coordinated
      exact ⟨_, rfl, .prepared submitted allowed⟩
    · obtain ⟨rejected, found, same⟩ := List.mem_map.1 coordinated
      cases same
      have taken := ((byEvent_iff built).1 (Option.mem_toList.1 found)).2
      exact ⟨_, rfl, .dropped taken (preBrokerRejected_resolved taken)⟩
  · obtain ⟨failed, found, same⟩ := List.mem_map.1 aborted
    cases same
    have taken := ((byEvent_iff built).1 (Option.mem_toList.1 found)).2
    exact ⟨_, rfl, .dropped taken (preBrokerAborted_resolved taken)⟩
  · split at restarted
    · rename_i target found
      obtain ⟨middle, first, second⟩ := Option.bind_eq_some_iff.1 found
      split_ifs at restarted with allowed
      · cases List.mem_singleton.1 restarted
        exact ⟨_, rfl, .quarantined submitted ((byEvent_iff built).1 first).2
          ((byEvent_iff built).1 second).2 allowed⟩
      · cases restarted
    · cases restarted

theorem coordinated_moves (submitted : (state index).snapshot.state = .submitted)
    (held : (state index).held = true)
    (member : (name, successor) ∈
      coordinatedSuccessors graph state index (state index).snapshot) :
    ∃ process, successor = Function.update state index process ∧
      Moves scenario state index process := by
  unfold coordinatedSuccessors replaceProcess at member
  rcases List.mem_append.1 member with aborted | answered
  · obtain ⟨failed, found, same⟩ := List.mem_map.1 aborted
    cases same
    have taken := ((byEvent_iff built).1 (Option.mem_toList.1 found)).2
    exact ⟨_, rfl, .dropped taken (preBrokerAborted_resolved taken)⟩
  · obtain ⟨event, listed, same⟩ := List.mem_filterMap.1 answered
    obtain ⟨target, found, same⟩ := Option.map_eq_some_iff.1 same
    cases same
    have taken := ((byEvent_iff built).1 found).2
    by_cases rejected : event = .submitRejected
    · subst rejected
      exact ⟨_, rfl, .dropped taken (submitRejected_resolved taken)⟩
    · have other : event ∈ [TradeEvent.submitAccepted, .submitAmbiguous, .restartRecovery] := by
        simpa [rejected] using listed
      have live : event ≠ .nextCycle := by
        rintro rfl
        simp at other
      refine ⟨⟨target, true⟩, ?_, .kept held live taken (submitted_open submitted other taken)⟩
      simp [rejected]

theorem successor_moves (member : (name, successor) ∈ scenario.globalSuccessors graph state) :
    ∃ index process, successor = Function.update state index process ∧
      Moves scenario state index process := by
  obtain ⟨index, -, member⟩ := List.mem_flatMap.1 member
  refine ⟨index, ?_⟩
  unfold processSuccessors at member
  dsimp only at member
  split_ifs at member with submitted idle
  · exact uncoordinated_moves built submitted member
  · exact coordinated_moves built submitted (by simpa using idle) member
  · obtain ⟨⟨event, target⟩, edge, synced⟩ := List.mem_filterMap.1 member
    dsimp only at synced
    split_ifs at synced with next
    obtain ⟨candidate, found, same⟩ := Option.map_eq_some_iff.1 synced
    cases same
    exact syncPhase_moves submitted next ((mem_edges built).1 edge).2 found

end Built

theorem Moves.safe {process : ProcessState} (safe : ∀ other, (state other).Safe)
    (moves : Moves scenario state index process) : process.Safe := by
  have own := safe index
  cases moves with
  | prepared submitted allowed =>
      have fit := own.sound.fit
      rw [submitted] at fit
      refine ⟨own.sound, fun _ => ⟨?_, fit.1⟩, nofun⟩
      simp [executionFinality, submitted]
  | dropped taken resolved => exact ⟨step_sound own.sound taken, nofun, fun _ => .inl resolved⟩
  | entered taken submitted => exact ⟨step_sound own.sound taken, nofun, fun _ => .inr submitted⟩
  | kept held live taken unresolved =>
      have intent := step_intent (own.held held).2 live taken
      exact ⟨step_sound own.sound taken, fun _ => ⟨unresolved, intent⟩, nofun⟩
  | quarantined submitted restarted failed allowed =>
      obtain ⟨-, finality, -, intent⟩ := restart_failed own.sound submitted restarted failed
      refine ⟨step_sound (step_sound own.sound restarted) failed, fun _ => ⟨?_, intent⟩, nofun⟩
      rw [finality]
      decide
  | restored idle other live plain taken unresolved =>
      exact (own.no_restore idle other live plain taken unresolved).elim

theorem Moves.acquires {process : ProcessState} (safe : ∀ other, (state other).Safe)
    (moves : Moves scenario state index process) (held : process.held = true) :
    (state index).held = true ∨ scenario.canRestore state index = true := by
  cases moves with
  | prepared submitted allowed => exact .inr (canPrepare_iff.1 allowed).1
  | dropped taken resolved => cases held
  | entered taken submitted => cases held
  | kept before live taken unresolved => exact .inl before
  | quarantined submitted restarted failed allowed => exact .inr allowed
  | restored idle other live plain taken unresolved =>
      have own := safe index
      exact (own.no_restore idle other live plain taken unresolved).elim

theorem Moves.commits {process : ProcessState} (safe : ∀ other, (state other).Safe)
    (moves : Moves scenario state index process) (committed : process.committed = true) :
    (state index).committed = true ∨ scenario.canPrepare state index = true := by
  have own := safe index
  cases moves with
  | prepared submitted allowed => exact .inr allowed
  | dropped taken resolved => cases committed
  | entered taken submitted => cases committed
  | kept held live taken unresolved =>
      left
      have edge := step_edge taken
      have live : (state index).snapshot.state ≠ .failed := by
        intro failed
        rw [failed] at edge
        cases edge
      simp [ProcessState.committed, held, live]
  | quarantined submitted restarted failed allowed =>
      obtain ⟨state, -, once, -⟩ := restart_failed own.sound submitted restarted failed
      simp [ProcessState.committed, state, once] at committed
  | restored idle other live plain taken unresolved =>
      exact (own.no_restore idle other live plain taken unresolved).elim

def committedCash (scenario : FormalScenario) (state : GlobalState) (account : ℤ) : ℕ :=
  ∑ index with ((state index).committed && ((scenario.processes index).account = account &&
      (scenario.processes index).side = .buy)), (scenario.processes index).requiredCash

structure Safe (scenario : FormalScenario) (state : GlobalState) : Prop where
  processes : ∀ index, (state index).Safe
  exclusive : ∀ left right, left ≠ right → (state left).held = true → (state right).held = true →
    (scenario.processes left).account = (scenario.processes right).account →
      (scenario.processes left).symbol ≠ (scenario.processes right).symbol
  funded : ∀ account capacity, item scenario.cashByAccount account = some capacity →
    scenario.committedCash state account ≤ capacity

theorem committedCash_mono {later : GlobalState} {account : ℤ}
    (fewer : ∀ other, (scenario.processes other).account = account →
      (scenario.processes other).side = .buy → (later other).committed = true →
        (state other).committed = true) :
    scenario.committedCash later account ≤ scenario.committedCash state account := by
  refine Finset.sum_le_sum_of_subset fun other member => ?_
  simp only [Finset.mem_filter, Finset.mem_univ, true_and, Bool.and_eq_true,
    decide_eq_true_eq] at member ⊢
  exact ⟨fewer other member.2.1 member.2.2 member.1, member.2⟩

theorem committedCash_prepared (state : GlobalState) (process : ProcessState) {account : ℤ}
    (buys : (scenario.processes index).account = account ∧
      (scenario.processes index).side = .buy) :
    scenario.committedCash (Function.update state index process) account ≤
      (scenario.processes index).requiredCash + activeReservedCash (fun other => (state other).held)
        scenario.processes account (some index) := by
  have bound : ∀ other, (if ((Function.update state index process other).committed &&
      ((scenario.processes other).account = account && (scenario.processes other).side = .buy))
        then (scenario.processes other).requiredCash else 0) ≤
      (if other = index then (scenario.processes index).requiredCash else 0) +
        if reserves (fun other => (state other).held) scenario.processes account (some index) other
          then (scenario.processes other).requiredCash else 0 := by
    intro other
    by_cases own : other = index
    · subst own
      rw [if_pos rfl]
      split_ifs <;> omega
    · rw [Function.update_of_ne own, if_neg own, Nat.zero_add]
      split_ifs with committed reserved
      · exact le_rfl
      · simp only [ProcessState.committed, Bool.and_eq_true, decide_eq_true_eq] at committed
        simp [reserves, own, committed] at reserved
      · exact Nat.zero_le _
      · exact le_rfl
  have total := Finset.sum_le_sum fun other (_ : other ∈ Finset.univ) => bound other
  rw [Finset.sum_add_distrib, Finset.sum_ite_eq' Finset.univ index,
    if_pos (Finset.mem_univ index), ← Finset.sum_filter, ← Finset.sum_filter] at total
  exact total

theorem Safe.funded_update (safe : Safe scenario state) {process : ProcessState}
    (moves : Moves scenario state index process) {account : ℤ} {capacity : ℕ}
    (found : item scenario.cashByAccount account = some capacity) :
    scenario.committedCash (Function.update state index process) account ≤ capacity := by
  by_cases new : (scenario.processes index).account = account ∧
      (scenario.processes index).side = .buy ∧ process.committed = true ∧
        (state index).committed = false
  · obtain ⟨account_eq, buy, committed, before⟩ := new
    have allowed : scenario.canPrepare state index = true := by
      refine (moves.commits safe.processes committed).resolve_left fun already => ?_
      rw [before] at already
      cases already
    have enough := (canPrepare_iff.1 allowed).2 buy
    have limit : scenario.capacity index = capacity := by
      refine Option.some_inj.1 ?_
      rw [FormalScenario.capacity, Option.some_get, account_eq, found]
    rw [limit, account_eq] at enough
    have total := committedCash_prepared state process ⟨account_eq, buy⟩
    omega
  · refine (committedCash_mono fun other same buy committed => ?_).trans
      (safe.funded account capacity found)
    by_cases own : other = index
    · subst own
      rw [Function.update_self] at committed
      by_contra missing
      exact new ⟨same, buy, committed, by simpa using missing⟩
    · rwa [Function.update_of_ne own] at committed

theorem Safe.step (safe : Safe scenario state) {process : ProcessState}
    (moves : Moves scenario state index process) :
    Safe scenario (Function.update state index process) := by
  have apart : ∀ other, other ≠ index → (state other).held = true → process.held = true →
      (scenario.processes other).account = (scenario.processes index).account →
        (scenario.processes other).symbol ≠ (scenario.processes index).symbol := by
    intro other different taken held
    rcases moves.acquires safe.processes held with before | free
    · exact safe.exclusive other index different taken before
    · exact claimFree_iff.1 free other different taken
  refine ⟨fun other => ?_, fun left right different leftHeld rightHeld account => ?_,
    fun account capacity => safe.funded_update moves⟩
  · by_cases own : other = index
    · subst own
      rw [Function.update_self]
      exact moves.safe safe.processes
    · rw [Function.update_of_ne own]
      exact safe.processes other
  · by_cases ownLeft : left = index
    · subst ownLeft
      rw [Function.update_self] at leftHeld
      rw [Function.update_of_ne different.symm] at rightHeld
      exact (apart right different.symm rightHeld leftHeld account.symm).symm
    · rw [Function.update_of_ne ownLeft] at leftHeld
      by_cases ownRight : right = index
      · subst ownRight
        rw [Function.update_self] at rightHeld
        exact apart left different leftHeld rightHeld account
      · rw [Function.update_of_ne ownRight] at rightHeld
        exact safe.exclusive left right different leftHeld rightHeld account

theorem Safe.initial (scenario : FormalScenario) :
    Safe scenario fun _ => ⟨initialSnapshot, false⟩ := by
  refine ⟨fun _ => ⟨.initial, nofun, fun _ => .inl (by decide)⟩, nofun, fun account capacity _ => ?_⟩
  simp [committedCash, ProcessState.committed]

theorem Moves.met {fuel : ℕ} {graph : LocalGraph} (built : buildLocalGraph fuel = some graph)
    {process : ProcessState} (moves : Moves scenario state index process)
    (met : (state index).snapshot ∈ graph.snapshots) : process.snapshot ∈ graph.snapshots := by
  cases moves with
  | prepared submitted allowed => exact met
  | dropped taken resolved => exact step_mem built met taken
  | entered taken submitted => exact step_mem built met taken
  | kept held live taken unresolved => exact step_mem built met taken
  | quarantined submitted restarted failed allowed =>
      exact step_mem built (step_mem built met restarted) failed
  | restored idle other live plain taken unresolved => exact step_mem built met taken

theorem Reachable.safe {fuel : ℕ} {graph : LocalGraph} (built : buildLocalGraph fuel = some graph)
    (reachable : scenario.Reachable graph state) :
    Safe scenario state ∧ ∀ index, (state index).snapshot ∈ graph.snapshots := by
  induction reachable with
  | initial => exact ⟨.initial scenario, fun _ => initial_mem built⟩
  | step reachable member ih =>
      obtain ⟨safe, met⟩ := ih
      obtain ⟨index, process, rfl, moves⟩ := successor_moves built member
      refine ⟨safe.step moves, fun other => ?_⟩
      by_cases own : other = index
      · subst own
        rw [Function.update_self]
        exact moves.met built (met other)
      · rw [Function.update_of_ne own]
        exact met other

theorem require_ok {ok : Bool} (passes : ok = true) (message : String) :
    require ok message = .ok () :=
  if_pos passes

theorem forM_ok {α : Type} {values : List α} {check : α → Except Exc Unit}
    (passes : ∀ value ∈ values, check value = .ok ()) : values.forM check = .ok () := by
  induction values with
  | nil => rfl
  | cons value values ih =>
      change (check value >>= fun _ => values.forM check) = _
      rw [passes value (List.mem_cons_self ..)]
      exact ih fun other member => passes other (List.mem_cons_of_mem _ member)

theorem Safe.assertProcess (safe : Safe scenario state) (left : Fin 3) :
    scenario.assertProcess state left = .ok () := by
  have own := safe.processes left
  have pairs : ∀ right ∈ (List.finRange 3).filter (left < ·),
      (!((state left).held && (state right).held &&
        ((scenario.processes left).account = (scenario.processes right).account &&
          (scenario.processes left).symbol = (scenario.processes right).symbol))) = true := by
    intro right later
    have different : left ≠ right := by
      rintro rfl
      simp at later
    have apart := safe.exclusive left right different
    simp only [Bool.not_eq_true', Bool.and_eq_false_imp, Bool.and_eq_true, decide_eq_true_eq,
      decide_eq_false_iff_not]
    exact fun held same => apart held.1 held.2 same
  revert pairs own
  unfold FormalScenario.assertProcess
  cases state left with
  | mk snapshot held =>
      intro own pairs
      dsimp only at own pairs ⊢
      have unresolved : held = false → executionFinality snapshot = .resolved ∨
          snapshot.state = .submitted := own.free
      have retained : (!(held && executionFinality snapshot = .resolved)) = true := by
        cases held with
        | false => rfl
        | true => simp [(own.held rfl).1]
      have durable : (!(held && !snapshot.facts.intentPersisted)) = true := by
        cases held with
        | false => rfl
        | true =>
            have intent : snapshot.facts.intentPersisted = true := (own.held rfl).2
            simp [intent]
      have claimed : (!(!held && (executionFinality snapshot = .open ||
          executionFinality snapshot = .quarantined) && snapshot.state ≠ .submitted)) = true := by
        cases held with
        | true => rfl
        | false => rcases unresolved rfl with resolved | submitted <;> simp [*]
      have recoverable : (!((snapshot.state = .unknown || snapshot.state = .cancelRejected) &&
          !held)) = true := by
        cases held with
        | true => simp
        | false =>
            rcases unresolved rfl with resolved | submitted
            · rcases resolved_quiet resolved with quiet | failed
              · revert quiet
                cases snapshot.state <;> simp [quietStates]
              · simp [failed]
            · simp [submitted]
      have quarantined : (!(snapshot.state = .failed && snapshot.facts.unresolvedOrder &&
          !held)) = true := by
        cases held with
        | true => simp
        | false =>
            rcases unresolved rfl with resolved | submitted
            · by_cases failed : snapshot.state = .failed
              · rw [finality_failed failed] at resolved
                cases order : snapshot.facts.unresolvedOrder with
                | false => simp
                | true =>
                    rw [order] at resolved
                    cases resolved
              · simp [failed]
            · simp [submitted]
      rw [require_ok retained, require_ok durable, require_ok claimed, require_ok recoverable,
        require_ok quarantined]
      exact forM_ok fun right later => require_ok (pairs right later) _

theorem activeSubmitted_le (scenario : FormalScenario) (state : GlobalState) (account : ℤ) :
    scenario.activeSubmitted state account ≤ scenario.committedCash state account := by
  refine Finset.sum_le_sum_of_subset fun index member => ?_
  simp only [Finset.mem_filter, Finset.mem_univ, true_and, Bool.and_eq_true,
    decide_eq_true_eq] at member ⊢
  obtain ⟨held, account, buy, once⟩ := member
  exact ⟨by simp [ProcessState.committed, held, once], account, buy⟩

/-- The invariant carries every check of the product model. -/
theorem Safe.assertGlobalInvariants (safe : Safe scenario state) :
    scenario.assertGlobalInvariants state = .ok () := by
  unfold FormalScenario.assertGlobalInvariants
  rw [forM_ok fun left _ => safe.assertProcess left]
  refine forM_ok fun entry member => require_ok ?_ _
  obtain ⟨capacity, account⟩ := entry
  have found : item scenario.cashByAccount account = some capacity := by
    have listed := List.mem_zipIdx' member
    rw [item, if_pos (Int.natCast_nonneg account), Int.toNat_natCast, listed.2]
    exact List.getElem?_eq_getElem listed.1
  exact decide_eq_true ((activeSubmitted_le scenario state account).trans
    (safe.funded account capacity found))

section Progress

variable {fuel : ℕ} {graph : LocalGraph} (built : buildLocalGraph fuel = some graph)

include built

theorem submitted_progress (own : (state index).Safe)
    (met : (state index).snapshot ∈ graph.snapshots)
    (submitted : (state index).snapshot.state = .submitted) :
    scenario.processSuccessors graph state index ≠ [] := by
  have edge : transitions (state index).snapshot.state .preBrokerAborted = some .failed := by
    rw [submitted]
    rfl
  obtain ⟨target, advanced, -⟩ := advance_enabled own.sound edge (by decide) nofun
  have taken : step (state index).snapshot .preBrokerAborted = .ok target := advanced
  have found := (byEvent_iff built).2 ⟨met, taken⟩
  intro none
  unfold processSuccessors at none
  dsimp only at none
  rw [if_pos submitted] at none
  split_ifs at none
  · simp [uncoordinatedSuccessors, found] at none
  · simp [coordinatedSuccessors, found] at none

theorem Safe.progress (safe : Safe scenario state)
    (met : (state index).snapshot ∈ graph.snapshots)
    (live : (state index).snapshot.state ∉ restingStates) :
    scenario.processSuccessors graph state index ≠ [] := by
  have own := safe.processes index
  by_cases submitted : (state index).snapshot.state = .submitted
  · exact submitted_progress built own met submitted
  · have taken : ∃ event target, Formal.step (state index).snapshot event = .ok target ∧
        event ≠ TradeEvent.nextCycle ∧ event ≠ TradeEvent.intentPersisted := by
      have fatal := advance_fatal own.sound live
      split_ifs at fatal with recoverable
      · have edge : transitions (state index).snapshot.state .recoveryFailed = some .failed := by
          simp only [List.mem_cons, List.not_mem_nil, or_false] at recoverable
          rcases recoverable with unknown | rejected
          · rw [unknown]
            rfl
          · rw [rejected]
            rfl
        obtain ⟨target, advanced, -⟩ := advance_enabled own.sound edge (by decide) nofun
        exact ⟨.recoveryFailed, target, advanced, by decide, by decide⟩
      · obtain ⟨target, advanced, -⟩ := fatal
        exact ⟨.fatal, target, advanced, by decide, by decide⟩
    obtain ⟨event, target, taken, next, intent⟩ := taken
    have synced : ∃ candidate, scenario.syncPhase state index target (state index).held
        (event = .intentPersisted && target.state = .submitted) = some candidate := by
      simp only [syncPhase, intent, decide_false, Bool.false_and, Bool.false_eq_true, if_false]
      split_ifs with resolved held refused
      · exact ⟨_, rfl⟩
      · exact ⟨_, rfl⟩
      · have idle : (state index).held = false := by simpa using held
        exact (own.no_restore idle submitted next (fun both => intent both.1) taken resolved).elim
      · exact ⟨_, rfl⟩
    obtain ⟨candidate, synced⟩ := synced
    have edge := (mem_edges built).2 ⟨met, taken⟩
    have member : (label index event.value, candidate) ∈
        scenario.processSuccessors graph state index := by
      unfold processSuccessors
      dsimp only
      rw [if_neg submitted]
      refine List.mem_filterMap.2 ⟨(event, target), edge, ?_⟩
      dsimp only
      rw [if_neg next, synced]
      rfl
    exact List.ne_nil_of_mem member

end Progress

end FormalScenario

open FormalScenario

/-- The graph is built, and on it, in every scenario, every state that the search of the product can meet
passes the checks, and one without successors has all three processes at their end. -/
theorem three_processes_safe (fuel : ℕ) (scenario : FormalScenario) :
    (Nat.card MachineSnapshot < fuel → (buildLocalGraph fuel).isSome = true) ∧
      ∀ graph, buildLocalGraph fuel = some graph → ∀ state, scenario.Reachable graph state →
        scenario.assertGlobalInvariants state = .ok () ∧
          (scenario.globalSuccessors graph state = [] →
            ∀ index, (state index).snapshot.state ∈ restingStates) := by
  refine ⟨buildLocalGraph_isSome, fun graph built state reachable => ?_⟩
  obtain ⟨safe, met⟩ := reachable.safe built
  refine ⟨safe.assertGlobalInvariants, fun stuck index => ?_⟩
  by_contra live
  refine safe.progress built (met index) live ?_
  exact List.flatMap_eq_nil_iff.1 stuck index (List.mem_finRange index)

def FormalScenario.follow (scenario : FormalScenario) (graph : LocalGraph) :
    List String → GlobalState → Option GlobalState
  | [], state => some state
  | name :: names, state =>
      ((scenario.globalSuccessors graph state).find? fun successor => successor.1 = name).bind
        fun successor => scenario.follow graph names successor.2

theorem FormalScenario.Reachable.follow {scenario : FormalScenario} {graph : LocalGraph}
    {names : List String} {state final : GlobalState} (reachable : scenario.Reachable graph state)
    (leads : scenario.follow graph names state = some final) : scenario.Reachable graph final := by
  induction names generalizing state with
  | nil =>
      cases leads
      exact reachable
  | cons name names ih =>
      obtain ⟨successor, found, leads⟩ := Option.bind_eq_some_iff.1 leads
      exact ih (reachable.step (List.mem_of_find?_eq_some found)) leads

def contention : FormalScenario where
  name := "same_account_cash_contention"
  processes := ![⟨0, 0, .buy, 60⟩, ⟨0, 1, .buy, 50⟩, ⟨0, 2, .buy, 40⟩]
  cashByAccount := [100]
  indexed := by decide

def intends (process : String) : List String :=
  ["session_ready", "triggered", "begin_precheck", "precheck_verified", "intent_persisted"].map
    fun event => process ++ ":" ++ event

/-- The first and the third process hold resources, and the second has been refused. -/
def contended : List String := intends "p0" ++ intends "p1" ++ intends "p2" ++
  ["p0:coordination_ok", "p1:coordination_rejected", "p2:coordination_ok"]

def ended : List String := contended ++ ["p0:submit_accepted", "p2:submit_rejected", "p0:order_filled"]

theorem three_processes_safe_contention : ∃ graph, buildLocalGraph 100 = some graph ∧
    (∃ state, contention.follow graph contended (fun _ => ⟨initialSnapshot, false⟩) = some state ∧
      (List.finRange 3).map (fun index => (state index).held) = [true, false, true] ∧
      contention.assertGlobalInvariants state = .ok ()) ∧
    ∃ state, contention.follow graph ended (fun _ => ⟨initialSnapshot, false⟩) = some state ∧
      contention.globalSuccessors graph state = [] ∧
      ∀ index, (state index).snapshot.state ∈ restingStates := by
  have holds : ((buildLocalGraph 100).bind fun graph =>
      (contention.follow graph contended fun _ => ⟨initialSnapshot, false⟩).map fun state =>
        (List.finRange 3).map fun index => (state index).held) = some [true, false, true] := by
    decide +kernel
  have stuck : ((buildLocalGraph 100).bind fun graph =>
      (contention.follow graph ended fun _ => ⟨initialSnapshot, false⟩).map fun state =>
        (contention.globalSuccessors graph state).isEmpty) = some true := by decide +kernel
  obtain ⟨graph, built, holds⟩ := Option.bind_eq_some_iff.1 holds
  rw [built, Option.bind_some] at stuck
  obtain ⟨state, leads, held⟩ := Option.map_eq_some_iff.1 holds
  obtain ⟨final, reached, none⟩ := Option.map_eq_some_iff.1 stuck
  have safe := (three_processes_safe 100 contention).2 graph built
  have stopped := List.isEmpty_iff.1 none
  exact ⟨graph, built, ⟨state, leads, held, (safe state (Reachable.initial.follow leads)).1⟩,
    final, reached, stopped, (safe final (Reachable.initial.follow reached)).2 stopped⟩

end QmtExecution.Formal
