import QmtExecution.Interaction.Rely

/-! Runs of a team that keep, for every operation, what its calls were answered and the worlds
that they met. -/

namespace QmtExecution.Interaction

variable {C : Type} {A : C → Type} {α W ι Op : Type}

structure Answered (W C : Type) (A : C → Type) where
  world : W
  command : C
  answer : A command

theorem Program.bind_assoc {β γ : Type} (program : Program C A α) (next : α → Program C A β)
    (last : β → Program C A γ) :
    (program.bind next).bind last = program.bind fun value => (next value).bind last := by
  induction program with
  | done value => rfl
  | call command rest ih => exact congrArg (Program.call command) (funext ih)

section Path

variable {answers : W → (command : C) → A command → W → Prop}

inductive Program.Path (answers : W → (command : C) → A command → W → Prop) :
    Program C A α → List (Answered W C A) → Program C A α → Prop
  | here (program : Program C A α) : Path answers program [] program
  | call (command : C) (rest : A command → Program C A α) (answer : A command) (world after : W)
      (trail : List (Answered W C A)) (program : Program C A α)
      (law : answers world command answer after) (onward : Path answers (rest answer) trail program) :
      Path answers (.call command rest) (⟨world, command, answer⟩ :: trail) program

theorem Program.Path.answer {program : Program C A α} {trail : List (Answered W C A)} {command : C}
    {rest : A command → Program C A α} {answer : A command} {world after : W}
    (path : program.Path answers trail (.call command rest))
    (law : answers world command answer after) :
    program.Path answers (trail ++ [⟨world, command, answer⟩]) (rest answer) := by
  generalize reached : Program.call command rest = last at path
  induction path with
  | here program =>
      subst reached
      exact .call command rest answer world after [] _ law (.here _)
  | call other next reply earlier middle trail program first onward ih =>
      exact .call other next reply earlier middle _ _ first (ih reached)

theorem Program.Path.of_done {value : α} {trail : List (Answered W C A)} {reached : Program C A α}
    (path : (Program.done value).Path answers trail reached) : trail = [] ∧ reached = .done value := by
  cases path with
  | here => exact ⟨rfl, rfl⟩

theorem Program.Path.bind_cases {β : Type} {program : Program C A β} {next : β → Program C A α}
    {trail : List (Answered W C A)} {reached : Program C A α}
    (path : (program.bind next).Path answers trail reached) :
    (∃ middle, program.Path answers trail middle ∧ reached = middle.bind next) ∨
      ∃ value first second, trail = first ++ second ∧ program.Path answers first (.done value) ∧
        (next value).Path answers second reached := by
  induction program generalizing trail with
  | done value => exact .inr ⟨value, [], trail, rfl, .here _, path⟩
  | call command rest ih =>
      cases path with
      | here => exact .inl ⟨.call command rest, .here _, rfl⟩
      | call _ _ answer world after trail _ law onward =>
          rcases ih answer onward with ⟨middle, first, rfl⟩ | ⟨value, first, second, rfl, ends, last⟩
          · exact .inl ⟨middle, .call command rest answer world after _ _ law first, rfl⟩
          · exact .inr ⟨value, _ :: first, second, rfl,
              .call command rest answer world after _ _ law ends, last⟩

end Path

namespace Team

structure Ended (C : Type) (A : C → Type) (ι Op α W : Type) where
  process : ι
  operation : Op
  trail : List (Answered W C A)
  value : α

variable [DecidableEq ι]

inductive Recorded (team : Team C A ι Op α W) (first : Config C A ι Op α W) :
    Config C A ι Op α W → (ι → List (Answered W C A)) → List (Ended C A ι Op α W) → Prop
  | refl (trails : ι → List (Answered W C A)) : Recorded team first first trails []
  | invoke (config : Config C A ι Op α W) (trails : ι → List (Answered W C A))
      (ended : List (Ended C A ι Op α W)) (recorded : Recorded team first config trails ended)
      (i : ι) (operation : Op) (free : config.running i = none)
      (enabled : team.enabled config.results operation) :
      Recorded team first
        { config with
          running := Function.update config.running i (some (operation, team.run i operation)) }
        (Function.update trails i []) ended
  | answer (config : Config C A ι Op α W) (trails : ι → List (Answered W C A))
      (ended : List (Ended C A ι Op α W)) (recorded : Recorded team first config trails ended)
      (i : ι) (operation : Op) (command : C) (rest : A command → Program C A α)
      (answer : A command) (after : W)
      (busy : config.running i = some (operation, .call command rest))
      (law : team.answers i config.world command answer after) :
      Recorded team first
        { config with
          running := Function.update config.running i (some (operation, rest answer)),
          world := after }
        (Function.update trails i (trails i ++ [⟨config.world, command, answer⟩])) ended
  | finish (config : Config C A ι Op α W) (trails : ι → List (Answered W C A))
      (ended : List (Ended C A ι Op α W)) (recorded : Recorded team first config trails ended)
      (i : ι) (operation : Op) (value : α) (busy : config.running i = some (operation, .done value)) :
      Recorded team first
        { config with
          running := Function.update config.running i none,
          results := (operation, value) :: config.results }
        trails (⟨i, operation, trails i, value⟩ :: ended)
  | crash (config : Config C A ι Op α W) (trails : ι → List (Answered W C A))
      (ended : List (Ended C A ι Op α W)) (recorded : Recorded team first config trails ended)
      (i : ι) (after : W) (law : team.crashed i config.world after) :
      Recorded team first
        { config with running := Function.update config.running i none, world := after } trails ended

variable {team : Team C A ι Op α W} {first config : Config C A ι Op α W}
  {trails : ι → List (Answered W C A)} {ended : List (Ended C A ι Op α W)}

theorem Recorded.steps (recorded : Recorded team first config trails ended) :
    Steps team first config := by
  induction recorded with
  | refl trails => exact .refl
  | invoke config trails ended recorded i operation free enabled ih =>
      exact .step _ _ ih (.invoke config i operation free enabled)
  | answer config trails ended recorded i operation command rest answer after busy law ih =>
      exact .step _ _ ih (.answer config i operation command rest answer after busy law)
  | finish config trails ended recorded i operation value busy ih =>
      exact .step _ _ ih (.finish config i operation value busy)
  | crash config trails ended recorded i after law ih =>
      exact .step _ _ ih (.crash config i after law)

theorem Steps.recorded (steps : Steps team first config) :
    ∃ trails ended, Recorded team first config trails ended := by
  induction steps with
  | refl => exact ⟨fun _ => [], [], .refl _⟩
  | step before after steps step ih =>
      obtain ⟨trails, ended, recorded⟩ := ih
      cases step with
      | invoke i operation free enabled =>
          exact ⟨_, _, .invoke _ _ _ recorded i operation free enabled⟩
      | answer i operation command rest answer after busy law =>
          exact ⟨_, _, .answer _ _ _ recorded i operation command rest answer after busy law⟩
      | finish i operation value busy => exact ⟨_, _, .finish _ _ _ recorded i operation value busy⟩
      | crash i after law => exact ⟨_, _, .crash _ _ _ recorded i after law⟩

theorem Recorded.results {world : W} (recorded : Recorded team (start world) config trails ended) :
    config.results = ended.map fun entry => (entry.operation, entry.value) := by
  induction recorded with
  | refl trails => rfl
  | invoke config trails ended recorded i operation free enabled ih => exact ih
  | answer config trails ended recorded i operation command rest answer after busy law ih => exact ih
  | finish config trails ended recorded i operation value busy ih =>
      exact congrArg ((operation, value) :: ·) ih
  | crash config trails ended recorded i after law ih => exact ih

structure Arrived (team : Team C A ι Op α W) (i : ι) (operation : Op)
    (trail : List (Answered W C A)) (program : Program C A α) : Prop where
  enabled : ∃ results, team.enabled results operation
  path : (team.run i operation).Path (team.answers i) trail program

structure Tracked (team : Team C A ι Op α W) (config : Config C A ι Op α W)
    (trails : ι → List (Answered W C A)) (ended : List (Ended C A ι Op α W)) : Prop where
  running : ∀ i operation program, config.running i = some (operation, program) →
    Arrived team i operation (trails i) program
  ended : ∀ entry ∈ ended,
    Arrived team entry.process entry.operation entry.trail (.done entry.value)

theorem Tracked.others (tracked : Tracked team config trails ended) (i : ι)
    (entry : Option (Op × Program C A α)) (trail : List (Answered W C A))
    (here : ∀ operation program, entry = some (operation, program) →
      Arrived team i operation trail program) :
    ∀ j operation program, Function.update config.running i entry j = some (operation, program) →
      Arrived team j operation (Function.update trails i trail j) program := by
  intro j operation program running
  by_cases same : j = i
  · subst same
    rw [Function.update_self] at running ⊢
    exact here operation program running
  · rw [Function.update_of_ne same] at running ⊢
    exact tracked.running j operation program running

theorem Recorded.tracked {world : W} (recorded : Recorded team (start world) config trails ended) :
    Tracked team config trails ended := by
  induction recorded with
  | refl trails =>
      constructor
      · intro i operation program running
        cases running
      · intro entry listed
        cases listed
  | invoke config trails ended recorded i operation free enabled ih =>
      refine ⟨?_, ih.ended⟩
      apply ih.others
      intro operation program running
      cases running
      exact ⟨⟨_, enabled⟩, .here _⟩
  | answer config trails ended recorded i operation command rest answer after busy law ih =>
      refine ⟨?_, ih.ended⟩
      apply ih.others
      intro operation program running
      cases running
      have arrived := ih.running i _ _ busy
      exact ⟨arrived.enabled, arrived.path.answer law⟩
  | finish config trails ended recorded i operation value busy ih =>
      constructor
      · have others := ih.others i none (trails i) (by intro _ _ running; cases running)
        rw [Function.update_eq_self] at others
        exact others
      · intro entry listed
        rcases List.mem_cons.1 listed with rfl | earlier
        · exact ih.running i operation _ busy
        · exact ih.ended entry earlier
  | crash config trails ended recorded i after law ih =>
      refine ⟨?_, ih.ended⟩
      have others := ih.others i none (trails i) (by intro _ _ running; cases running)
      rw [Function.update_eq_self] at others
      exact others

end Team

end QmtExecution.Interaction
