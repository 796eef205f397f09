import QmtExecution.Interaction.Rely
import QmtExecution.Interaction.Script

/-! The calls of one process of a team, seen apart from those of the others, from any moment of a run
on. -/

namespace QmtExecution.Interaction

variable {C : Type} {R : C → Type} {E α W V ι Op : Type} [DecidableEq ι]
  {team : Team C (fun command => Except E (R command)) ι Op α W}
  {before after : Team.Config C (fun command => Except E (R command)) ι Op α W}

/-- How a process sees the world of its team: its own calls act on its view by `within`, and the calls
of the others leave it. -/
structure Team.Sees (team : Team C (fun command => Except E (R command)) ι Op α W) (i : ι) (view : W → V)
    (within : V → (command : C) → Except E (R command) → V → Prop) : Prop where
  own : ∀ world command answer after, team.answers i world command answer after →
    within (view world) command answer (view after)
  other : ∀ j world command answer after, j ≠ i → team.answers j world command answer after →
    view after = view world
  crashed : ∀ j world after, team.crashed j world after → view after = view world

variable {i : ι} {view : W → V} {within : V → (command : C) → Except E (R command) → V → Prop}
  {permits : V → C → Prop} {initial : V → Prop} {post : Op → α → V → Prop}

/-- Where a process and its view can be in a run in which it obeys its protocol. -/
structure Team.Traced (i : ι) (view : W → V)
    (within : V → (command : C) → Except E (R command) → V → Prop) (permits : V → C → Prop)
    (initial : V → Prop) (post : Op → α → V → Prop)
    (config : Team.Config C (fun command => Except E (R command)) ι Op α W) : Prop where
  guarded : Guarded initial permits within (view config.world)
  running : ∀ operation program, config.running i = some (operation, program) →
    program.Obeys permits within (post operation) (view config.world)

/-- A step keeps a process on its protocol when every operation obeys it from the views that the
protocol leads to. -/
theorem Team.Step.traced (sees : team.Sees i view within)
    (runs : ∀ operation trace, Guarded initial permits within trace →
      (team.run i operation).Obeys permits within (post operation) trace)
    (step : Team.Step team before after) (traced : Team.Traced i view within permits initial post before) :
    Team.Traced i view within permits initial post after := by
  -- a step of another process leaves both the phase and the view of this one
  have others {j : ι} {entry : Option (Op × Program C (fun command => Except E (R command)) α)}
      {results : List (Op × α)} {world : W} (different : i ≠ j) (same : view world = view before.world) :
      Team.Traced i view within permits initial post
        ⟨Function.update before.running j entry, results, world⟩ := by
    constructor
    · simpa only [same] using traced.guarded
    · intro operation program running
      simp only [Function.update_of_ne different] at running
      simpa only [same] using traced.running operation program running
  -- a step of this one need only be checked where it leaves it
  have own {entry : Option (Op × Program C (fun command => Except E (R command)) α)}
      {results : List (Op × α)} {world : W} (guarded : Guarded initial permits within (view world))
      (obeys : ∀ operation program, entry = some (operation, program) →
        program.Obeys permits within (post operation) (view world)) :
      Team.Traced i view within permits initial post
        ⟨Function.update before.running i entry, results, world⟩ := by
    refine ⟨guarded, ?_⟩
    intro operation program running
    simp only [Function.update_self] at running
    exact obeys operation program running
  cases step with
  | invoke j operation free enabled =>
      by_cases same : i = j
      · subst same
        apply own traced.guarded
        intro other program running
        cases running
        exact runs operation _ traced.guarded
      · exact others same rfl
  | answer j operation command rest answer world busy law =>
      by_cases same : i = j
      · subst same
        have obeys := traced.running operation _ busy
        have acted := sees.own _ _ _ _ law
        apply own (.call _ _ command answer traced.guarded obeys.1 acted)
        intro other program running
        cases running
        exact obeys.2 answer _ acted
      · exact others same (sees.other j _ _ _ _ (Ne.symm same) law)
  | finish j operation value busy =>
      by_cases same : i = j
      · subst same
        apply own traced.guarded
        intro other program running
        cases running
      · exact others same rfl
  | crash j world law =>
      by_cases same : i = j
      · subst same
        apply own
        · rw [sees.crashed i _ _ law]
          exact traced.guarded
        · intro other program running
          cases running
      · exact others same (sees.crashed j _ _ law)

theorem Team.Steps.traced (sees : team.Sees i view within)
    (runs : ∀ operation trace, Guarded initial permits within trace →
      (team.run i operation).Obeys permits within (post operation) trace)
    (steps : Team.Steps team before after)
    (traced : Team.Traced i view within permits initial post before) :
    Team.Traced i view within permits initial post after := by
  induction steps with
  | refl => exact traced
  | step middle after steps step ih => exact step.traced sees runs ih

omit [DecidableEq ι] in
theorem Team.Traced.free (idle : before.running i = none) (first : initial (view before.world)) :
    Team.Traced i view within permits initial post before where
  guarded := .initial _ first
  running operation program running := by
    rw [idle] at running
    cases running

omit [DecidableEq ι] in
theorem Program.drive_reaches {respond : Responder C R E W}
    {answers : W → (command : C) → Except E (R command) → W → Prop}
    (responds : ∀ world command,
      answers world command (respond world command).1 (respond world command).2)
    (bound : Nat) (program : Program C (fun command => Except E (R command)) α) (world : W) :
    program.Reaches answers world (program.drive respond bound world).1
      (program.drive respond bound world).2 := by
  induction bound generalizing program world with
  | zero => cases program <;> exact .here _ _
  | succ bound ih =>
      cases program with
      | done value => exact .here _ _
      | call command rest =>
          exact .call command rest _ world _ _ _ (responds world command) (ih _ _)

end QmtExecution.Interaction
