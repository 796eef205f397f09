import QmtExecution.Interaction.Program
import Mathlib.Logic.Function.Basic

/-! Programs of several processes over one shared world. A process may crash between any two
of its calls. Each program is checked alone, against all that the others may do between its
calls (what it relies on); its own calls must be ones on which the others can rely. -/

namespace QmtExecution.Interaction

variable {C : Type} {A : C → Type} {α W ι Op : Type}

section Interference

variable {rely : W → W → Prop} {permits : W → C → Prop}
  {answers : W → (command : C) → A command → W → Prop}

def Steadily (rely : W → W → Prop) (permits : W → C → Prop) (world : W) (command : C) : Prop :=
  ∀ middle, rely world middle → permits middle command

/-- How a call is answered when the others may move before it and after it. -/
def Interleaved (rely : W → W → Prop) (answers : W → (command : C) → A command → W → Prop)
    (world : W) (command : C) (answer : A command) (after : W) : Prop :=
  ∃ middle reached, rely world middle ∧ answers middle command answer reached ∧
    rely reached after

structure Chained (rely : W → W → Prop) : Prop where
  refl : ∀ world, rely world world
  trans : ∀ {world middle after}, rely world middle → rely middle after → rely world after

theorem Chained.and {evolves : W → W → Prop} (chained : Chained evolves) (extra : W → W → Prop)
    (refl : ∀ world, extra world world)
    (trans : ∀ {world middle after}, extra world middle → extra middle after → extra world after)
    (same : ∀ world after, rely world after ↔ evolves world after ∧ extra world after) :
    Chained rely where
  refl world := (same world world).2 ⟨chained.refl world, refl world⟩
  trans first second := by
    obtain ⟨evolved, held⟩ := (same _ _).1 first
    obtain ⟨evolved', held'⟩ := (same _ _).1 second
    exact (same _ _).2 ⟨chained.trans evolved evolved', trans held held'⟩

abbrev Program.Secure (rely : W → W → Prop) (permits : W → C → Prop)
    (answers : W → (command : C) → A command → W → Prop) (post : α → W → Prop)
    (program : Program C A α) (world : W) : Prop :=
  program.Obeys (Steadily rely permits) (Interleaved rely answers) post world

theorem Program.Secure.interfere {post : α → W → Prop} {program : Program C A α} {world after : W}
    (chained : Chained rely)
    (stable : ∀ value world after, rely world after → post value world → post value after)
    (secure : program.Secure rely permits answers post world) (moved : rely world after) :
    program.Secure rely permits answers post after := by
  cases program with
  | done value => exact stable value world after moved secure
  | call command rest =>
      constructor
      · intro middle later
        exact secure.1 middle (chained.trans moved later)
      · intro answer final interleaved
        obtain ⟨middle, reached, first, law, last⟩ := interleaved
        exact secure.2 answer final ⟨middle, reached, chained.trans moved first, law, last⟩

theorem Program.Secure.permitted {post : α → W → Prop} {command : C}
    {rest : A command → Program C A α} {world : W} (chained : Chained rely)
    (secure : (Program.call command rest).Secure rely permits answers post world) :
    permits world command := secure.1 world (chained.refl world)

theorem Program.Secure.answered {post : α → W → Prop} {command : C}
    {rest : A command → Program C A α} {world after : W} {answer : A command}
    (chained : Chained rely)
    (secure : (Program.call command rest).Secure rely permits answers post world)
    (law : answers world command answer after) :
    (rest answer).Secure rely permits answers post after :=
  secure.2 answer after ⟨world, after, chained.refl world, law, chained.refl after⟩

theorem Program.Secure.alone {post : α → W → Prop} {program : Program C A α} {world : W}
    (chained : Chained rely) (secure : program.Secure rely permits answers post world) :
    program.Obeys permits answers post world := by
  induction program generalizing world with
  | done value => exact secure
  | call command rest ih =>
      constructor
      · exact secure.permitted chained
      · intro answer after law
        exact ih answer (secure.answered chained law)

end Interference

section Alone

variable {answers : W → (command : C) → A command → W → Prop}

/-- Where a program that is answered so can be, and the world then: after any number of its
calls it may go no further. -/
inductive Program.Reaches (answers : W → (command : C) → A command → W → Prop) :
    Program C A α → W → Program C A α → W → Prop
  | here (program : Program C A α) (world : W) : Reaches answers program world program world
  | call (command : C) (rest : A command → Program C A α) (answer : A command) (world after : W)
      (program : Program C A α) (final : W) (law : answers world command answer after)
      (onward : Reaches answers (rest answer) after program final) :
      Reaches answers (.call command rest) world program final

/-- What the permitted calls keep holds wherever the program gets. -/
theorem Program.Obeys.reaches {permits : W → C → Prop} {post : α → W → Prop} {fact : W → Prop}
    (kept : ∀ world command answer after, permits world command →
      answers world command answer after → fact world → fact after)
    {program reached : Program C A α} {world after : W}
    (reaches : program.Reaches answers world reached after)
    (obeys : program.Obeys permits answers post world) (held : fact world) :
    reached.Obeys permits answers post after ∧ fact after := by
  induction reaches with
  | here program world => exact ⟨obeys, held⟩
  | call command rest answer world after program final law onward ih =>
      exact ih (obeys.2 answer after law) (kept world command answer after obeys.1 law held)

theorem Program.Reaches.mono {other : W → (command : C) → A command → W → Prop}
    (wider : ∀ world command answer after, answers world command answer after →
      other world command answer after)
    {program reached : Program C A α} {world after : W}
    (reaches : program.Reaches answers world reached after) :
    program.Reaches other world reached after := by
  induction reaches with
  | here program world => exact .here program world
  | call command rest answer world after program final law onward ih =>
      exact .call command rest answer world after program final (wider _ _ _ _ law) ih

theorem Program.reaches_end (total : ∀ world command, ∃ answer after, answers world command answer after)
    (program : Program C A α) (world : W) :
    ∃ value after, program.Reaches answers world (.done value) after := by
  induction program generalizing world with
  | done value => exact ⟨value, world, .here _ _⟩
  | call command rest ih =>
      obtain ⟨answer, after, law⟩ := total world command
      obtain ⟨value, final, onward⟩ := ih answer after
      exact ⟨value, final, .call command rest answer world after _ final law onward⟩

theorem Program.Reaches.trans {first second third : Program C A α} {world middle after : W}
    (reaches : first.Reaches answers world second middle)
    (onward : second.Reaches answers middle third after) : first.Reaches answers world third after := by
  induction reaches with
  | here program world => exact onward
  | call command rest answer world after program final law _ ih =>
      exact .call command rest answer world after _ _ law (ih onward)

theorem Program.Reaches.bind {β : Type} {program reached : Program C A α} {world after : W}
    (reaches : program.Reaches answers world reached after) (next : α → Program C A β) :
    (program.bind next).Reaches answers world (reached.bind next) after := by
  induction reaches with
  | here program world => exact .here _ _
  | call command rest answer world after program final law onward ih =>
      exact .call command _ answer world after _ _ law ih

end Alone

/-! Runs of a method, to an end or to where it stops. -/

namespace Method

variable {R : C → Type} {S E β : Type} {answers : W → (command : C) → Except E (R command) → W → Prop}
  {memory between last : S} {world middle after : W}

def Stops (answers : W → (command : C) → Except E (R command) → W → Prop)
    (method : Method C R S E α) (memory : S) (world after : W) : Prop :=
  ∃ reached, (method memory).Reaches answers world reached after

def Returns (answers : W → (command : C) → Except E (R command) → W → Prop)
    (method : Method C R S E α) (memory : S) (world : W) (value : α) (last : S) (after : W) : Prop :=
  (method memory).Reaches answers world (.done (.ok value, last)) after

theorem stops_here (method : Method C R S E α) : method.Stops answers memory world world :=
  ⟨_, .here _ _⟩

theorem returns_ofExcept {outcome : Except E α} {value : α} (same : outcome = .ok value) :
    (ofExcept outcome : Method C R S E α).Returns answers memory world value memory world := by
  subst same
  exact .here _ _

theorem returns_perform {command : C} {value : R command} (law : answers world command (.ok value) after) :
    (perform command : Method C R S E (R command)).Returns answers memory world value memory after :=
  .call command _ (.ok value) world after _ _ law (.here _ _)

theorem returns_bind {method : Method C R S E β} {next : β → Method C R S E α} {value : β} {result : α}
    (first : method.Returns answers memory world value between middle)
    (rest : (next value).Returns answers between middle result last after) :
    (method >>= next).Returns answers memory world result last after :=
  (first.bind _).trans rest

theorem stops_next {method : Method C R S E β} {next : β → Method C R S E α} {value : β}
    (first : method.Returns answers memory world value between middle)
    (rest : (next value).Stops answers between middle after) :
    (method >>= next).Stops answers memory world after := by
  obtain ⟨reached, onward⟩ := rest
  exact ⟨reached, (first.bind _).trans onward⟩

theorem stops_first {method : Method C R S E β} {next : β → Method C R S E α}
    (first : method.Stops answers memory world after) :
    (method >>= next).Stops answers memory world after := by
  obtain ⟨reached, onward⟩ := first
  exact ⟨_, onward.bind _⟩

theorem stops_attempt {method : Method C R S E α} (body : method.Stops answers memory world after) :
    method.attempt.Stops answers memory world after := by
  obtain ⟨reached, onward⟩ := body
  exact ⟨_, onward.bind _⟩

end Method

section Assures

variable {R : C → Type} {S E β : Type} {rely : W → W → Prop} {permits : W → C → Prop}
  {answers : W → (command : C) → Except E (R command) → W → Prop} {pre : W → Prop}

/-- What holds of a world keeps holding while the others move. -/
def Stable (rely : W → W → Prop) (fact : W → Prop) : Prop :=
  ∀ world after, rely world after → fact world → fact after

/-- Whatever the others do, the method issues permitted calls only; what it returns satisfies
`post`, and it may raise anything. -/
structure Method.Assures (rely : W → W → Prop) (permits : W → C → Prop)
    (answers : W → (command : C) → Except E (R command) → W → Prop) (pre : W → Prop)
    (method : Method C R S E α) (post : α → W → Prop) : Prop where
  meets : ∀ memory world, pre world →
    method.Meets (Steadily rely permits) (Interleaved rely answers) memory world
      (fun value _ after => post value after) (fun _ _ _ => True)

namespace Method

theorem assures_pure {value : α} {post : α → W → Prop} (holds : ∀ world, pre world → post value world) :
    (pure value : Method C R S E α).Assures rely permits answers pre post :=
  ⟨fun _ world held => holds world held⟩

theorem assures_raise (raised : E) {post : α → W → Prop} :
    (raise raised : Method C R S E α).Assures rely permits answers pre post :=
  ⟨fun _ _ _ => trivial⟩

theorem assures_ofExcept {outcome : Except E α} {post : α → W → Prop}
    (holds : ∀ value, outcome = .ok value → ∀ world, pre world → post value world) :
    (ofExcept outcome : Method C R S E α).Assures rely permits answers pre post := by
  cases outcome with
  | ok value => exact assures_pure (holds value rfl)
  | error raised => exact assures_raise raised

theorem assures_perform {command : C} {post : R command → W → Prop}
    (stable : Stable rely pre) (permitted : ∀ world, pre world → permits world command)
    (lasting : ∀ value, Stable rely (post value))
    (holds : ∀ world value after, pre world → answers world command (.ok value) after →
      post value after) :
    (perform command : Method C R S E (R command)).Assures rely permits answers pre post := by
  constructor
  intro memory world held
  apply (meets_perform command).2
  refine ⟨?_, ?_, fun _ _ _ => trivial⟩
  · intro middle moved
    exact permitted middle (stable world middle moved held)
  · intro value after interleaved
    obtain ⟨middle, reached, first, law, last⟩ := interleaved
    apply lasting value reached after last
    exact holds middle value reached (stable world middle first held) law

theorem assures_bind {method : Method C R S E β} {next : β → Method C R S E α}
    {between : β → W → Prop} {post : α → W → Prop}
    (first : method.Assures rely permits answers pre between)
    (rest : ∀ value, (next value).Assures rely permits answers (between value) post) :
    (method >>= next).Assures rely permits answers pre post := by
  constructor
  intro memory world held
  apply (meets_bind _ _).2
  apply Meets.weaken (first.meets memory world held)
  · intro value after reached holds
    exact (rest value).meets after reached holds
  · intro _ _ _ raised
    exact raised

theorem assures_attempt {method : Method C R S E α} {post : α → W → Prop}
    (body : method.Assures rely permits answers pre post) :
    method.attempt.Assures rely permits answers pre
      (fun outcome after => ∀ value, outcome = .ok value → post value after) := by
  constructor
  intro memory world held
  apply (meets_attempt _).2
  apply Meets.weaken (body.meets memory world held)
  · intro value _ after holds other same
    cases same
    exact holds
  · intro _ _ _ _ other same
    cases same

theorem assures_ite {condition : Prop} [Decidable condition] {yes no : Method C R S E α}
    {post : α → W → Prop}
    (positive : condition → yes.Assures rely permits answers pre post)
    (negative : ¬ condition → no.Assures rely permits answers pre post) :
    (if condition then yes else no).Assures rely permits answers pre post := by
  by_cases holds : condition
  · rw [if_pos holds]
    exact positive holds
  · rw [if_neg holds]
    exact negative holds

theorem Assures.weaken {method : Method C R S E α} {post other : α → W → Prop} {narrower : W → Prop}
    (assures : method.Assures rely permits answers pre post)
    (implies : ∀ world, narrower world → pre world)
    (concludes : ∀ value world, post value world → other value world) :
    method.Assures rely permits answers narrower other := by
  constructor
  intro memory world held
  apply Meets.weaken (assures.meets memory world (implies world held))
  · intro value _ after holds
    exact concludes value after holds
  · intro _ _ _ raised
    exact raised

theorem Assures.narrow {method : Method C R S E α} {post : α → W → Prop} {narrower : W → Prop}
    (assures : method.Assures rely permits answers pre post)
    (implies : ∀ world, narrower world → pre world) :
    method.Assures rely permits answers narrower post :=
  assures.weaken implies fun _ _ held => held

theorem assures_absurd {method : Method C R S E α} {post : α → W → Prop}
    (empty : ∀ world, ¬ pre world) : method.Assures rely permits answers pre post :=
  ⟨fun _ world held => absurd held (empty world)⟩

theorem Assures.secure {method : Method C R S E α} {post : α → W → Prop} {memory : S} {world : W}
    {promised : Except E α × S → W → Prop}
    (assures : method.Assures rely permits answers pre post) (held : pre world)
    (promises : ∀ value last after, post value after → promised (.ok value, last) after)
    (raises : ∀ raised last after, promised (.error raised, last) after) :
    (method memory).Secure rely permits answers promised world := by
  apply Program.Obeys.weaken (assures.meets memory world held)
  intro result after holds
  rcases result with ⟨raised | value, last⟩
  · exact raises raised last after
  · exact promises value last after holds

theorem assures_under {fact : Prop} {method : Method C R S E α} {post : α → W → Prop}
    (gives : ∀ world, pre world → fact)
    (body : fact → method.Assures rely permits answers pre post) :
    method.Assures rely permits answers pre post :=
  ⟨fun memory world held => (body (gives world held)).meets memory world held⟩

end Method

end Assures

structure Team (C : Type) (A : C → Type) (ι Op α W : Type) where
  run : ι → Op → Program C A α
  enabled : List (Op × α) → Op → Prop
  answers : ι → W → (command : C) → A command → W → Prop
  crashed : ι → W → W → Prop

namespace Team

structure Config (C : Type) (A : C → Type) (ι Op α W : Type) where
  running : ι → Option (Op × Program C A α)
  results : List (Op × α)
  world : W

variable [DecidableEq ι]

/-- The steps of a team. An operation may be enabled by the results that are there. -/
inductive Step (team : Team C A ι Op α W) : Config C A ι Op α W → Config C A ι Op α W → Prop
  | invoke (config : Config C A ι Op α W) (i : ι) (operation : Op)
      (free : config.running i = none) (enabled : team.enabled config.results operation) :
      Step team config
        { config with
          running := Function.update config.running i (some (operation, team.run i operation)) }
  | answer (config : Config C A ι Op α W) (i : ι) (operation : Op) (command : C)
      (rest : A command → Program C A α) (answer : A command) (after : W)
      (busy : config.running i = some (operation, .call command rest))
      (law : team.answers i config.world command answer after) :
      Step team config
        { config with
          running := Function.update config.running i (some (operation, rest answer)),
          world := after }
  | finish (config : Config C A ι Op α W) (i : ι) (operation : Op) (value : α)
      (busy : config.running i = some (operation, .done value)) :
      Step team config
        { config with
          running := Function.update config.running i none,
          results := (operation, value) :: config.results }
  | crash (config : Config C A ι Op α W) (i : ι) (after : W)
      (law : team.crashed i config.world after) :
      Step team config { config with running := Function.update config.running i none, world := after }

inductive Steps (team : Team C A ι Op α W) (first : Config C A ι Op α W) :
    Config C A ι Op α W → Prop
  | refl : Steps team first first
  | step (before after : Config C A ι Op α W) (steps : Steps team first before)
      (step : Step team before after) : Steps team first after

def start (world : W) : Config C A ι Op α W := ⟨fun _ => none, [], world⟩

/-- How the processes of a team can rely on each other. -/
structure Disciplined (team : Team C A ι Op α W) (rely : ι → W → W → Prop)
    (evolves : W → W → Prop) (permits : ι → W → C → Prop) (post : Op → α → W → Prop) : Prop where
  chained : ∀ i, Chained (rely i)
  evolution : Chained evolves
  own : ∀ i world command answer after, permits i world command →
    team.answers i world command answer after → evolves world after
  other : ∀ i j world command answer after, j ≠ i → permits i world command →
    team.answers i world command answer after → rely j world after
  crash : ∀ i world after, team.crashed i world after → evolves world after
  crashOther : ∀ i j world after, j ≠ i → team.crashed i world after → rely j world after
  relies : ∀ i world after, rely i world after → evolves world after
  lasting : ∀ operation value world after, evolves world after → post operation value world →
    post operation value after
  secure : ∀ i operation results world, team.enabled results operation →
    (∀ result ∈ results, post result.1 result.2 world) →
    (team.run i operation).Secure (rely i) (permits i) (team.answers i) (post operation) world

variable {team : Team C A ι Op α W} {rely : ι → W → W → Prop} {evolves : W → W → Prop}
  {permits : ι → W → C → Prop} {post : Op → α → W → Prop} {before after : Config C A ι Op α W}

/-- Every running program is secure, and what the results promise holds. -/
structure Secured (team : Team C A ι Op α W) (rely : ι → W → W → Prop)
    (permits : ι → W → C → Prop) (post : Op → α → W → Prop) (config : Config C A ι Op α W) :
    Prop where
  running : ∀ i operation program, config.running i = some (operation, program) →
    program.Secure (rely i) (permits i) (team.answers i) (post operation) config.world
  results : ∀ result ∈ config.results, post result.1 result.2 config.world

theorem Secured.others (disciplined : Disciplined team rely evolves permits post)
    (secured : Secured team rely permits post before) {i : ι} {world : W}
    (relied : ∀ j, j ≠ i → rely j before.world world)
    {entry : Option (Op × Program C A α)}
    (here : ∀ operation program, entry = some (operation, program) →
      program.Secure (rely i) (permits i) (team.answers i) (post operation) world) :
    ∀ j operation program, Function.update before.running i entry j = some (operation, program) →
      program.Secure (rely j) (permits j) (team.answers j) (post operation) world := by
  intro j operation program running
  by_cases same : j = i
  · subst same
    rw [Function.update_self] at running
    exact here operation program running
  · rw [Function.update_of_ne same] at running
    apply Program.Secure.interfere (disciplined.chained j) _ (secured.running j operation program running)
    · exact relied j same
    · intro value first last moved
      exact disciplined.lasting operation value first last (disciplined.relies j first last moved)

theorem Step.secured (disciplined : Disciplined team rely evolves permits post)
    (secured : Secured team rely permits post before) (step : Step team before after) :
    Secured team rely permits post after ∧ evolves before.world after.world := by
  cases step with
  | invoke i operation free enabled =>
      refine ⟨⟨?_, secured.results⟩, disciplined.evolution.refl _⟩
      apply secured.others disciplined
      · intro j _
        exact (disciplined.chained j).refl _
      · intro operation program running
        cases running
        exact disciplined.secure i operation _ _ enabled secured.results
  | answer i operation command rest reply world busy law =>
      have secure := secured.running i operation _ busy
      have permitted := secure.permitted (disciplined.chained i)
      have evolved := disciplined.own i _ command reply world permitted law
      refine ⟨⟨?_, ?_⟩, evolved⟩
      · apply secured.others disciplined
        · intro j different
          exact disciplined.other i j _ command reply world different permitted law
        · intro operation program running
          cases running
          exact secure.answered (disciplined.chained i) law
      · intro result listed
        exact disciplined.lasting _ _ _ _ evolved (secured.results result listed)
  | finish i operation value busy =>
      have done := secured.running i operation _ busy
      refine ⟨⟨?_, ?_⟩, disciplined.evolution.refl _⟩
      · apply secured.others disciplined
        · intro j _
          exact (disciplined.chained j).refl _
        · intro operation program running
          cases running
      · intro result listed
        rcases List.mem_cons.1 listed with rfl | earlier
        · exact done
        · exact secured.results result earlier
  | crash i world law =>
      have evolved := disciplined.crash i _ world law
      refine ⟨⟨?_, ?_⟩, evolved⟩
      · apply secured.others disciplined
        · intro j different
          exact disciplined.crashOther i j _ world different law
        · intro operation program running
          cases running
      · intro result listed
        exact disciplined.lasting _ _ _ _ evolved (secured.results result listed)

theorem Steps.secured (disciplined : Disciplined team rely evolves permits post)
    (secured : Secured team rely permits post before) (steps : Steps team before after) :
    Secured team rely permits post after ∧ evolves before.world after.world := by
  induction steps with
  | refl => exact ⟨secured, disciplined.evolution.refl _⟩
  | step middle after steps step ih =>
      obtain ⟨kept, evolved⟩ := Step.secured disciplined ih.1 step
      exact ⟨kept, disciplined.evolution.trans ih.2 evolved⟩

omit [DecidableEq ι] in
theorem start_secured (world : W) :
    Secured team rely permits post (start world : Config C A ι Op α W) where
  running i operation program running := by cases running
  results result listed := by cases listed

theorem Steps.one (step : Step team before after) : Steps team before after :=
  .step before after .refl step

theorem Steps.trans {first last : Config C A ι Op α W} (steps : Steps team first before)
    (onward : Steps team before last) : Steps team first last := by
  induction onward with
  | refl => exact steps
  | step middle after _ step ih => exact .step middle after ih step

theorem Steps.answers {i : ι} {operation : Op} {program reached : Program C A α} {world final : W}
    {running : ι → Option (Op × Program C A α)} {results : List (Op × α)}
    (busy : running i = some (operation, program))
    (reaches : program.Reaches (team.answers i) world reached final) :
    Steps team ⟨running, results, world⟩
      ⟨Function.update running i (some (operation, reached)), results, final⟩ := by
  induction reaches generalizing running with
  | here program world =>
      rw [← busy, Function.update_eq_self]
      exact .refl
  | call command rest answer world after program final law onward ih =>
      have step : Step team ⟨running, results, world⟩
          ⟨Function.update running i (some (operation, rest answer)), results, after⟩ :=
        .answer ⟨running, results, world⟩ i operation command rest answer after busy law
      have later := ih (Function.update_self i (some (operation, rest answer)) running)
      rw [Function.update_idem] at later
      exact (Steps.one step).trans later

/-- A free process carries out an enabled operation. -/
theorem Steps.operation {i : ι} {operation : Op} {value : α} {world final : W}
    {running : ι → Option (Op × Program C A α)} {results : List (Op × α)}
    (free : running i = none) (enabled : team.enabled results operation)
    (reaches : (team.run i operation).Reaches (team.answers i) world (.done value) final) :
    Steps team ⟨running, results, world⟩ ⟨running, (operation, value) :: results, final⟩ := by
  have invoked : Step team ⟨running, results, world⟩
      ⟨Function.update running i (some (operation, team.run i operation)), results, world⟩ :=
    .invoke ⟨running, results, world⟩ i operation free enabled
  have answered : Steps team
      ⟨Function.update running i (some (operation, team.run i operation)), results, world⟩ _ :=
    Steps.answers (Function.update_self i (some (operation, team.run i operation)) running) reaches
  rw [Function.update_idem] at answered
  have finished : Step team
      ⟨Function.update running i (some (operation, .done value)), results, final⟩ _ :=
    .finish _ i operation value (Function.update_self i _ running)
  rw [Function.update_idem, ← free, Function.update_eq_self] at finished
  exact (Steps.one invoked).trans (answered.trans (.one finished))

end Team

end QmtExecution.Interaction
