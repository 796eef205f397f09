import QmtExecution.Interaction.Script

/-! The span of one operation within a run of a family: from the configuration in which it was asked
for to any in which it is still under way, while the other objects and the environment move. -/

namespace QmtExecution.Interaction

variable {C : Type} {R : C → Type} {S E Op α ι W V : Type} [DecidableEq ι]

/-- An operation that an object was asked for in one configuration is under way in another. -/
inductive Family.Under (classes : ι → Class C R S E Op α)
    (answers : ι → W → (command : C) → Except E (R command) → W → Prop)
    (environment : W → W → Prop) (i : ι) (operation : Op) (asked : Config C R S E Op α ι W) :
    Config C R S E Op α ι W → Prop
  | invoke (memory : S) (idle : asked.phase i = .idle memory) :
      Under classes answers environment i operation asked
        ⟨Function.update asked.phase i (.busy operation ((classes i).run operation memory)),
          asked.world⟩
  | step (before after : Config C R S E Op α ι W)
      (under : Under classes answers environment i operation asked before)
      (step : Family.Step classes answers environment before after)
      (busy : ∃ program, after.phase i = .busy operation program) :
      Under classes answers environment i operation asked after

variable {classes : ι → Class C R S E Op α}
  {answers : ι → W → (command : C) → Except E (R command) → W → Prop}
  {environment : W → W → Prop} {initial : W → Prop} {view : ι → W → V}
  {within : ι → V → (command : C) → Except E (R command) → V → Prop}

theorem Family.Under.busy {i : ι} {operation : Op} {asked config : Config C R S E Op α ι W}
    (under : Family.Under classes answers environment i operation asked config) :
    ∃ program, config.phase i = .busy operation program := by
  cases under with
  | invoke memory idle => exact ⟨_, Function.update_self _ _ _⟩
  | step before after under step busy => exact busy

theorem Family.Under.idle {i : ι} {operation : Op} {asked config : Config C R S E Op α ι W}
    (under : Family.Under classes answers environment i operation asked config) :
    ∃ memory, asked.phase i = .idle memory := by
  induction under with
  | invoke memory idle => exact ⟨memory, idle⟩
  | step before after under step busy ih => exact ih

theorem Family.Under.reachable {i : ι} {operation : Op} {asked config : Config C R S E Op α ι W}
    (under : Family.Under classes answers environment i operation asked config)
    (reachable : Family.Reachable classes answers environment initial asked) :
    Family.Reachable classes answers environment initial config := by
  induction under with
  | invoke memory idle =>
      have invoke : (classes i).Step (answers i) (asked.phase i) asked.world (.invoke operation)
          (.busy operation ((classes i).run operation memory)) asked.world := by
        rw [idle]
        exact .invoke operation memory asked.world
      exact .step _ _ reachable (.move asked i (.invoke operation) _ _ invoke)
  | step before after under step busy ih => exact .step _ _ ih step

theorem Family.Under.delivers (views : Family.Views answers environment view within) {i : ι}
    {operation : Op} {memory : S} {asked : Config C R S E Op α ι W} {permits : V → C → Prop}
    {post : Except E α × S → V → Prop} (idle : asked.phase i = .idle memory)
    (runs : ((classes i).run operation memory).Obeys permits (within i) post (view i asked.world))
    {config : Config C R S E Op α ι W}
    (under : Family.Under classes answers environment i operation asked config)
    {program : Program C (fun command => Except E (R command)) (Except E α × S)}
    (busy : config.phase i = .busy operation program) :
    program.Obeys permits (within i) post (view i config.world) := by
  induction under generalizing program with
  | invoke other also =>
      cases idle.symm.trans also
      simp only [Function.update_self] at busy
      cases busy
      exact runs
  | step before after under step later ih =>
      obtain ⟨earlier, was⟩ := under.busy
      cases step with
      | environment world step =>
          rw [views.environment i _ _ step]
          exact ih busy
      | move j move phase world step =>
          by_cases same : i = j
          · subst same
            simp only [Function.update_self] at busy
            subst busy
            rw [was] at step
            cases step with
            | answer operation command rest reply _ _ law =>
                exact (ih was).2 reply _ (views.own i _ _ _ _ law)
          · simp only [Function.update_of_ne same] at busy
            rw [step.frame views same]
            exact ih busy

theorem Family.Under.invoked {P : Type} {respond : ι → P → Responder C R E W} {i : ι}
    {operation : Op} {asked : Config C R S E Op α ι W} {memory : S}
    (idle : asked.phase i = .idle memory) :
    Family.Under classes answers environment i operation asked
      (Family.act classes respond asked (i, .invoke operation)) := by
  have acted : Family.act classes respond asked (i, .invoke operation) =
      ⟨Function.update asked.phase i (.busy operation ((classes i).run operation memory)),
        asked.world⟩ := by
    simp only [Family.act, Class.act, idle]
  rw [acted]
  exact .invoke memory idle

theorem Family.Under.answer {P : Type} {respond : ι → P → Responder C R E W}
    (responds : ∀ i, Responds (respond i) (answers i)) {i : ι} {operation : Op}
    {asked config : Config C R S E Op α ι W}
    (under : Family.Under classes answers environment i operation asked config) (bound : Nat)
    (replies : P) : Family.Under classes answers environment i operation asked
      (Family.act classes respond config (i, .answer bound replies)) := by
  have same {config : Config C R S E Op α ι W}
      {program : Program C (fun command => Except E (R command)) (Except E α × S)}
      (busy : config.phase i = .busy operation program) :
      (⟨Function.update config.phase i (.busy operation program), config.world⟩ :
        Config C R S E Op α ι W) = config := by
    rw [← busy, Function.update_eq_self]
  induction bound generalizing config with
  | zero =>
      obtain ⟨program, busy⟩ := under.busy
      have acted : Family.act classes respond config (i, .answer 0 replies) = config := by
        simp only [Family.act, Class.act, busy]
        cases program <;> exact same busy
      rw [acted]
      exact under
  | succ bound ih =>
      obtain ⟨program, busy⟩ := under.busy
      cases program with
      | done result =>
          have acted :
              Family.act classes respond config (i, .answer (bound + 1) replies) = config := by
            simp only [Family.act, Class.act, busy]
            exact same busy
          rw [acted]
          exact under
      | call command rest =>
          have moved : (classes i).Step (answers i) (config.phase i) config.world
              (.answer command (respond i replies config.world command).1)
              (.busy operation (rest (respond i replies config.world command).1))
              (respond i replies config.world command).2 := by
            rw [busy]
            exact .answer operation command rest _ _ _ (responds i replies config.world command)
          have later := ih (.step _ _ under (.move config i _ _ _ moved)
            ⟨_, Function.update_self _ _ _⟩)
          simp only [Family.act, Class.act, Function.update_self, Function.update_idem] at later
          simpa only [Family.act, Class.act, busy, Program.drive] using later

/-- An operation that is under way in a run has been asked for in that run. -/
theorem Family.Reachable.asked {config : Config C R S E Op α ι W}
    (reachable : Family.Reachable classes answers environment initial config) {i : ι}
    {operation : Op} {program : Program C (fun command => Except E (R command)) (Except E α × S)}
    (busy : config.phase i = .busy operation program) :
    ∃ asked, Family.Reachable classes answers environment initial asked ∧
      Family.Under classes answers environment i operation asked config := by
  induction reachable generalizing operation program with
  | initial world first => cases busy
  | step before after reachable step ih =>
      have goes {earlier : Program C (fun command => Except E (R command)) (Except E α × S)}
          (was : before.phase i = .busy operation earlier) :
          ∃ asked, Family.Reachable classes answers environment initial asked ∧
            Family.Under classes answers environment i operation asked after := by
        obtain ⟨asked, first, under⟩ := ih was
        exact ⟨asked, first, .step _ _ under step ⟨_, busy⟩⟩
      cases step with
      | environment world step => exact goes busy
      | move j move phase world step =>
          by_cases same : i = j
          · subst same
            simp only [Function.update_self] at busy
            subst busy
            generalize was : before.phase i = phase at step
            cases step with
            | invoke operation memory => exact ⟨before, reachable, .invoke memory was⟩
            | answer operation command rest reply _ _ law => exact goes was
          · simp only [Function.update_of_ne same] at busy
            exact goes busy

def Phase.finished : Phase C R S E Op α → Option (Op × Except E α × S)
  | .busy operation (.done result) => some (operation, result)
  | _ => none

theorem Phase.finished_some {phase : Phase C R S E Op α} {operation : Op}
    {result : Except E α × S}
    (finished : phase.finished = some (operation, result)) :
    phase = .busy operation (.done result) := by
  unfold Phase.finished at finished
  split at finished
  · cases finished
    rfl
  · cases finished

def Phase.calling : Phase C R S E Op α → Option (Op × C)
  | .busy operation (.call command _) => some (operation, command)
  | _ => none

theorem Phase.calling_some {phase : Phase C R S E Op α} {operation : Op} {command : C}
    (calling : phase.calling = some (operation, command)) :
    ∃ rest, phase = .busy operation (.call command rest) := by
  unfold Phase.calling at calling
  split at calling
  · rename_i rest
    cases calling
    exact ⟨rest, rfl⟩
  · cases calling

end QmtExecution.Interaction
