import QmtExecution.Interaction.Program
import Mathlib.Logic.Function.Basic

/-! Families of objects that run over one shared world. An object may be dropped between
any two of its calls, by a crash of its process, and be replaced by a fresh one. What is
proved of one object over its own view of the world holds of it in the whole family. -/

namespace QmtExecution.Interaction

structure Class (C : Type) (R : C → Type) (S E Op α : Type) where
  fresh : S
  run : Op → Method C R S E α

/-- Where an object is: its process is down, or it waits for the next operation, or it is
in the middle of one. -/
inductive Phase (C : Type) (R : C → Type) (S E Op α : Type) : Type
  | down
  | idle (memory : S)
  | busy (operation : Op)
      (program : Program C (fun command => Except E (R command)) (Except E α × S))

def Phase.memory {C : Type} {R : C → Type} {S E Op α : Type} :
    Phase C R S E Op α → Option S
  | .idle memory => some memory
  | _ => none

theorem Phase.memory_eq {C : Type} {R : C → Type} {S E Op α : Type} {phase : Phase C R S E Op α}
    {memory : S} (held : phase.memory = some memory) : phase = .idle memory := by
  cases phase <;> cases held
  rfl

inductive Move (C : Type) (R : C → Type) (E Op α : Type) : Type
  | start
  | invoke (operation : Op)
  | answer (command : C) (answer : Except E (R command))
  | finish (result : Except E α)
  | crash

variable {C : Type} {R : C → Type} {S E Op α W : Type}

inductive Class.Step (cls : Class C R S E Op α)
    (answers : W → (command : C) → Except E (R command) → W → Prop) :
    Phase C R S E Op α → W → Move C R E Op α → Phase C R S E Op α → W → Prop
  | start (world : W) : Step cls answers .down world .start (.idle cls.fresh) world
  | invoke (operation : Op) (memory : S) (world : W) :
      Step cls answers (.idle memory) world (.invoke operation)
        (.busy operation (cls.run operation memory)) world
  | answer (operation : Op) (command : C) (rest : Except E (R command) → _)
      (reply : Except E (R command)) (world after : W) (law : answers world command reply after) :
      Step cls answers (.busy operation (.call command rest)) world (.answer command reply)
        (.busy operation (rest reply)) after
  | finish (operation : Op) (result : Except E α) (memory : S) (world : W) :
      Step cls answers (.busy operation (.done (result, memory))) world (.finish result)
        (.idle memory) world
  | crash (phase : Phase C R S E Op α) (world : W) :
      Step cls answers phase world .crash .down world

/-- Worlds that calls permitted by a protocol lead to. -/
inductive Guarded (initial : W → Prop) (permits : W → C → Prop)
    (answers : W → (command : C) → Except E (R command) → W → Prop) : W → Prop
  | initial (world : W) (first : initial world) : Guarded initial permits answers world
  | call (world after : W) (command : C) (answer : Except E (R command))
      (before : Guarded initial permits answers world) (permitted : permits world command)
      (law : answers world command answer after) : Guarded initial permits answers after

/-- A class that follows a protocol: every operation started in a coherent memory obeys it
and ends in a coherent memory. -/
structure Class.Follows (cls : Class C R S E Op α) (initial : W → Prop)
    (permits : W → C → Prop) (answers : W → (command : C) → Except E (R command) → W → Prop)
    (coherent : S → W → Prop) : Prop where
  fresh : ∀ world, coherent cls.fresh world
  run : ∀ operation memory world, Guarded initial permits answers world →
    coherent memory world → (cls.run operation).Meets permits answers memory world
      (fun _ => coherent) (fun _ => coherent)

def Phase.Lawful (permits : W → C → Prop)
    (answers : W → (command : C) → Except E (R command) → W → Prop)
    (coherent : S → W → Prop) (phase : Phase C R S E Op α) (world : W) : Prop :=
  match phase with
  | .down => True
  | .idle memory => coherent memory world
  | .busy _ program =>
      program.Obeys permits answers (fun result after => coherent result.2 after) world

theorem Guarded.widen {initial : W → Prop} {permits wider : W → C → Prop}
    {answers fewer : W → (command : C) → Except E (R command) → W → Prop}
    (allows : ∀ world command, permits world command → wider world command)
    (among : ∀ world command answer after, fewer world command answer after →
      answers world command answer after) {world : W}
    (guarded : Guarded initial permits fewer world) : Guarded initial wider answers world := by
  induction guarded with
  | initial world first => exact .initial world first
  | call world after command answer before permitted law ih =>
      exact .call world after command answer ih (allows _ _ permitted) (among _ _ _ _ law)

/-- A class that follows a protocol follows a second one beside it, when its operations obey the
second one wherever both have been followed. -/
theorem Class.Follows.beside {cls : Class C R S E Op α} {initial : W → Prop}
    {permits other : W → C → Prop}
    {answers fewer : W → (command : C) → Except E (R command) → W → Prop}
    {coherent steady : S → W → Prop} (follows : cls.Follows initial permits answers coherent)
    (among : ∀ world command answer after, fewer world command answer after →
      answers world command answer after)
    (fresh : ∀ world, steady cls.fresh world)
    (run : ∀ operation memory world,
      Guarded initial (fun world command => permits world command ∧ other world command) fewer
        world → steady memory world →
      (cls.run operation).Meets other fewer memory world (fun _ => steady) (fun _ => steady)) :
    cls.Follows initial (fun world command => permits world command ∧ other world command) fewer
      (fun memory world => coherent memory world ∧ steady memory world) where
  fresh world := ⟨follows.fresh world, fresh world⟩
  run := by
    intro operation memory world guarded held
    have earlier := guarded.widen (fun _ _ permitted => permitted.1) among
    have first := follows.run operation memory world earlier held.1
    have second := run operation memory world guarded held.2
    refine Program.Obeys.weaken ((Program.Obeys.narrow first among).both second) ?_
    rintro ⟨_ | _, _⟩ after post <;> exact post

section Single

variable {cls : Class C R S E Op α} {initial : W → Prop} {permits : W → C → Prop}
  {answers : W → (command : C) → Except E (R command) → W → Prop} {coherent : S → W → Prop}

theorem Class.Follows.step (follows : cls.Follows initial permits answers coherent)
    {phase phase' : Phase C R S E Op α} {world world' : W} {move : Move C R E Op α}
    (step : cls.Step answers phase world move phase' world')
    (lawful : phase.Lawful permits answers coherent world)
    (guarded : Guarded initial permits answers world) :
    phase'.Lawful permits answers coherent world' ∧ Guarded initial permits answers world' := by
  cases step with
  | start => exact ⟨follows.fresh _, guarded⟩
  | invoke operation memory =>
      refine ⟨?_, guarded⟩
      refine Program.Obeys.weaken (follows.run operation memory world guarded lawful) ?_
      intro result after post
      rcases result with ⟨_ | _, _⟩ <;> exact post
  | answer operation command rest reply =>
      rename_i law
      exact ⟨lawful.2 reply _ law, .call _ _ command reply guarded lawful.1 law⟩
  | finish => exact ⟨lawful, guarded⟩
  | crash => exact ⟨trivial, guarded⟩

/-- Where the object and its world can be after a run that starts with the object down. -/
inductive Class.Reachable (cls : Class C R S E Op α)
    (answers : W → (command : C) → Except E (R command) → W → Prop) (initial : W → Prop) :
    Phase C R S E Op α → W → Prop
  | initial (world : W) (first : initial world) : Reachable cls answers initial .down world
  | step (phase phase' : Phase C R S E Op α) (world world' : W) (move : Move C R E Op α)
      (reachable : Reachable cls answers initial phase world)
      (step : cls.Step answers phase world move phase' world') :
      Reachable cls answers initial phase' world'

/-- In every run of the object each of its calls is permitted, and between its operations
its memory is coherent. -/
theorem Class.Reachable.lawful (follows : cls.Follows initial permits answers coherent)
    {phase : Phase C R S E Op α} {world : W}
    (reachable : cls.Reachable answers initial phase world) :
    phase.Lawful permits answers coherent world ∧ Guarded initial permits answers world := by
  induction reachable with
  | initial world first => exact ⟨trivial, .initial world first⟩
  | step phase phase' world world' move reachable step ih => exact follows.step step ih.1 ih.2

end Single

section Family

variable {ι V : Type} [DecidableEq ι]

structure Config (C : Type) (R : C → Type) (S E Op α ι W : Type) where
  phase : ι → Phase C R S E Op α
  world : W

/-- One step of a family: a move of one of its objects, or a step of the environment. -/
inductive Family.Step (classes : ι → Class C R S E Op α)
    (answers : ι → W → (command : C) → Except E (R command) → W → Prop)
    (environment : W → W → Prop) :
    Config C R S E Op α ι W → Config C R S E Op α ι W → Prop
  | move (config : Config C R S E Op α ι W) (i : ι) (move : Move C R E Op α)
      (phase : Phase C R S E Op α) (world : W)
      (step : (classes i).Step (answers i) (config.phase i) config.world move phase world) :
      Step classes answers environment config ⟨Function.update config.phase i phase, world⟩
  | environment (config : Config C R S E Op α ι W) (world : W)
      (step : environment config.world world) :
      Step classes answers environment config ⟨config.phase, world⟩

inductive Family.Reachable (classes : ι → Class C R S E Op α)
    (answers : ι → W → (command : C) → Except E (R command) → W → Prop)
    (environment : W → W → Prop) (initial : W → Prop) : Config C R S E Op α ι W → Prop
  | initial (world : W) (first : initial world) :
      Reachable classes answers environment initial ⟨fun _ => .down, world⟩
  | step (before after : Config C R S E Op α ι W)
      (reachable : Reachable classes answers environment initial before)
      (step : Family.Step classes answers environment before after) :
      Reachable classes answers environment initial after

/-- How an object sees the shared world: its own calls act on its view by `within`, and
neither the calls of the others nor the environment change it. -/
structure Family.Views (answers : ι → W → (command : C) → Except E (R command) → W → Prop)
    (environment : W → W → Prop) (view : ι → W → V)
    (within : ι → V → (command : C) → Except E (R command) → V → Prop) : Prop where
  own : ∀ i world command answer after, answers i world command answer after →
    within i (view i world) command answer (view i after)
  other : ∀ i j world command answer after, j ≠ i → answers i world command answer after →
    view j after = view j world
  environment : ∀ i world after, environment world after → view i after = view i world

variable {classes : ι → Class C R S E Op α}
  {answers : ι → W → (command : C) → Except E (R command) → W → Prop}
  {environment : W → W → Prop} {initial : W → Prop} {view : ι → W → V}
  {within : ι → V → (command : C) → Except E (R command) → V → Prop}

omit [DecidableEq ι] in
theorem Class.Step.image {cls : Class C R S E Op α} {W' : Type}
    {answers : W → (command : C) → Except E (R command) → W → Prop}
    {answers' : W' → (command : C) → Except E (R command) → W' → Prop} (image : W → W')
    (calls : ∀ world command answer after, answers world command answer after →
      answers' (image world) command answer (image after)) {phase phase' : Phase C R S E Op α}
    {world world' : W} {move : Move C R E Op α} (step : cls.Step answers phase world move phase' world') :
    cls.Step answers' phase (image world) move phase' (image world') := by
  cases step with
  | start => exact .start _
  | invoke operation memory => exact .invoke operation memory _
  | answer operation command rest reply _ _ law =>
      exact .answer operation command rest reply _ _ (calls _ _ _ _ law)
  | finish operation result memory => exact .finish operation result memory _
  | crash => exact .crash _ _

omit [DecidableEq ι] in
theorem Class.Step.project (views : Family.Views answers environment view within) (i : ι)
    {phase phase' : Phase C R S E Op α} {world world' : W} {move : Move C R E Op α}
    (step : (classes i).Step (answers i) phase world move phase' world') :
    (classes i).Step (within i) phase (view i world) move phase' (view i world') := by
  exact step.image (view i) (views.own i)

omit [DecidableEq ι] in
theorem Class.Step.frame (views : Family.Views answers environment view within) {i j : ι}
    (different : j ≠ i) {phase phase' : Phase C R S E Op α} {world world' : W}
    {move : Move C R E Op α}
    (step : (classes i).Step (answers i) phase world move phase' world') :
    view j world' = view j world := by
  cases step with
  | answer operation command rest reply =>
      rename_i law
      exact views.other i j _ _ _ _ different law
  | _ => rfl

/-- In every run of the family every object follows its protocol over its own view. -/
theorem Family.Reachable.lawful (views : Family.Views answers environment view within)
    {permits : ι → V → C → Prop} {coherent : ι → S → V → Prop} {start : ι → V → Prop}
    (follows : ∀ i, (classes i).Follows (start i) (permits i) (within i) (coherent i))
    (starts : ∀ world, initial world → ∀ i, start i (view i world))
    {config : Config C R S E Op α ι W}
    (reachable : Family.Reachable classes answers environment initial config) (i : ι) :
    (config.phase i).Lawful (permits i) (within i) (coherent i) (view i config.world) ∧
      Guarded (start i) (permits i) (within i) (view i config.world) := by
  induction reachable generalizing i with
  | initial world first => exact ⟨trivial, .initial _ (starts world first i)⟩
  | step before after reachable step ih =>
      cases step with
      | move j move phase world step =>
          by_cases same : i = j
          · subst same
            simp only [Function.update_self]
            exact (follows i).step (step.project views) (ih i).1 (ih i).2
          · simp only [Function.update_of_ne same]
            rw [step.frame views same]
            exact ih i
      | environment world step =>
          rw [views.environment i _ _ step]
          exact ih i

/-- What holds at first and is kept by every permitted call and by the environment holds in every
run of the family. -/
theorem Family.Reachable.always (views : Family.Views answers environment view within)
    {permits : ι → V → C → Prop} {coherent : ι → S → V → Prop} {start : ι → V → Prop}
    (follows : ∀ i, (classes i).Follows (start i) (permits i) (within i) (coherent i))
    (starts : ∀ world, initial world → ∀ i, start i (view i world)) {fact : W → Prop}
    (first : ∀ world, initial world → fact world)
    (called : ∀ i world command answer after,
      (∀ j, Guarded (start j) (permits j) (within j) (view j world)) → fact world →
      permits i (view i world) command → answers i world command answer after → fact after)
    (moved : ∀ world after, fact world → environment world after → fact after)
    {config : Config C R S E Op α ι W}
    (reachable : Family.Reachable classes answers environment initial config) :
    fact config.world := by
  have lawful {config : Config C R S E Op α ι W}
      (reachable : Family.Reachable classes answers environment initial config) :=
    reachable.lawful views follows starts
  induction reachable with
  | initial world start => exact first world start
  | step before after reachable step ih =>
      cases step with
      | environment world step => exact moved _ _ ih step
      | move i move phase world step =>
          have earlier := lawful reachable
          cases same : before.phase i with
          | down =>
              rw [same] at step
              cases step <;> exact ih
          | idle memory =>
              rw [same] at step
              cases step <;> exact ih
          | busy operation program =>
              have obeys := (earlier i).1
              rw [same] at step obeys
              cases step with
              | answer _ command rest reply _ _ law =>
                  exact called i _ command reply _ (fun j => (earlier j).2) ih obeys.1 law
              | finish => exact ih
              | crash => exact ih

theorem Family.Reachable.image {W' : Type}
    {answers' : ι → W' → (command : C) → Except E (R command) → W' → Prop}
    {environment' : W' → W' → Prop} {initial' : W' → Prop} (image : W → W')
    (starts : ∀ world, initial world → initial' (image world))
    (calls : ∀ i world command answer after, answers i world command answer after →
      answers' i (image world) command answer (image after))
    (moves : ∀ world after, environment world after → image after = image world)
    {config : Config C R S E Op α ι W}
    (reachable : Family.Reachable classes answers environment initial config) :
    Family.Reachable classes answers' environment' initial' ⟨config.phase, image config.world⟩ := by
  induction reachable with
  | initial world first => exact .initial _ (starts world first)
  | step before after reachable step ih =>
      cases step with
      | environment world step =>
          rw [moves _ _ step]
          exact ih
      | move i move phase world step =>
          exact .step _ _ ih (.move _ i move phase _ (step.image image (calls i)))

end Family

/-- An invariant of the permitted calls holds in every guarded world. -/
theorem Guarded.invariant {initial : W → Prop} {permits : W → C → Prop}
    {answers : W → (command : C) → Except E (R command) → W → Prop} {fact : W → Prop}
    (first : ∀ world, initial world → fact world)
    (kept : ∀ world command answer after, Guarded initial permits answers world → fact world →
      permits world command → answers world command answer after → fact after)
    {world : W} (guarded : Guarded initial permits answers world) : fact world := by
  induction guarded with
  | initial world start => exact first world start
  | call world after command answer before permitted law ih =>
      exact kept world command answer after before ih permitted law

end QmtExecution.Interaction
