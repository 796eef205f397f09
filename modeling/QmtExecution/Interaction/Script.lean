import QmtExecution.Interaction.System

/-! Scripted runs: a list of deeds that determines a run of an object or of a family. A deed
that does not fit the phase of its object does nothing, so every script is a run. -/

namespace QmtExecution.Interaction

variable {C : Type} {R : C → Type} {S E Op α W P ι : Type}

abbrev Responder (C : Type) (R : C → Type) (E W : Type) : Type :=
  W → (command : C) → Except E (R command) × W

def Program.drive (respond : Responder C R E W) :
    Nat → Program C (fun command => Except E (R command)) α → W →
      Program C (fun command => Except E (R command)) α × W
  | bound + 1, .call command rest, world =>
      (rest (respond world command).1).drive respond bound (respond world command).2
  | _, program, world => (program, world)

def Program.ended {A : C → Type} : Program C A α → Option α
  | .done value => some value
  | .call _ _ => none

def Program.passes (check : W → C → Bool) (respond : Responder C R E W) :
    Nat → Program C (fun command => Except E (R command)) α → W → Bool
  | bound + 1, .call command rest, world => check world command &&
      (rest (respond world command).1).passes check respond bound (respond world command).2
  | _, _, _ => true

/-- What holds of a program whatever it is answered holds where these answers lead it, if each call
that they answer may be answered so. -/
theorem Program.Obeys.drive {permits : W → C → Prop}
    {answers : W → (command : C) → Except E (R command) → W → Prop} {post : α → W → Prop}
    {check : W → C → Bool} {respond : Responder C R E W}
    (lawful : ∀ world command, check world command = true →
      answers world command (respond world command).1 (respond world command).2)
    (bound : Nat) {program : Program C (fun command => Except E (R command)) α} {world : W}
    (obeys : program.Obeys permits answers post world)
    (passes : program.passes check respond bound world = true) {value : α}
    (ends : (program.drive respond bound world).1.ended = some value) :
    post value (program.drive respond bound world).2 := by
  induction bound generalizing program world with
  | zero =>
      cases program with
      | done result =>
          cases ends
          exact obeys
      | call command rest => cases ends
  | succ bound ih =>
      cases program with
      | done result =>
          cases ends
          exact obeys
      | call command rest =>
          obtain ⟨checked, onward⟩ := Bool.and_eq_true_iff.1 passes
          exact ih (obeys.2 _ _ (lawful world command checked)) onward ends

/-- The moves of an object; `replies` says how its next calls are answered. -/
inductive Deed (Op P : Type) : Type
  | start
  | invoke (operation : Op)
  | answer (bound : Nat) (replies : P)
  | finish
  | crash

def perform (operation : Op) (replies : P) : List (Deed Op P) :=
  [.invoke operation, .answer 100 replies, .finish]

def Class.act (cls : Class C R S E Op α) (respond : P → Responder C R E W) :
    Phase C R S E Op α × W → Deed Op P → Phase C R S E Op α × W
  | (_, world), .crash => (.down, world)
  | (.down, world), .start => (.idle cls.fresh, world)
  | (.idle memory, world), .invoke operation => (.busy operation (cls.run operation memory), world)
  | (.busy operation program, world), .answer bound replies =>
      (.busy operation (program.drive (respond replies) bound world).1,
        (program.drive (respond replies) bound world).2)
  | (.busy _ (.done (_, memory)), world), .finish => (.idle memory, world)
  | config, _ => config

def Class.script (cls : Class C R S E Op α) (respond : P → Responder C R E W) (world : W)
    (deeds : List (Deed Op P)) : Phase C R S E Op α × W :=
  deeds.foldl (cls.act respond) (.down, world)

def Responds (respond : P → Responder C R E W)
    (answers : W → (command : C) → Except E (R command) → W → Prop) : Prop :=
  ∀ replies world command,
    answers world command (respond replies world command).1 (respond replies world command).2

section Closed

variable {cls : Class C R S E Op α} {respond : P → Responder C R E W}
  {answers : W → (command : C) → Except E (R command) → W → Prop}
  {closed : Phase C R S E Op α → W → Prop}

theorem Class.drive_closed
    (step : ∀ phase world move phase' world', closed phase world →
      cls.Step answers phase world move phase' world' → closed phase' world')
    (responds : Responds respond answers) (bound : Nat) (replies : P) {operation : Op}
    {program : Program C (fun command => Except E (R command)) (Except E α × S)} {world : W}
    (holds : closed (.busy operation program) world) :
    closed (.busy operation (program.drive (respond replies) bound world).1)
      (program.drive (respond replies) bound world).2 := by
  induction bound generalizing program world with
  | zero => cases program <;> exact holds
  | succ bound ih =>
      cases program with
      | done result => exact holds
      | call command rest =>
          exact ih (step _ _ _ _ _ holds (.answer operation command rest _ _ _
            (responds replies world command)))

theorem Class.act_closed
    (step : ∀ phase world move phase' world', closed phase world →
      cls.Step answers phase world move phase' world' → closed phase' world')
    (responds : Responds respond answers) (deed : Deed Op P) {phase : Phase C R S E Op α}
    {world : W} (holds : closed phase world) :
    closed (cls.act respond (phase, world) deed).1 (cls.act respond (phase, world) deed).2 := by
  cases deed with
  | start =>
      cases phase with
      | down => exact step _ _ _ _ _ holds (.start world)
      | _ => exact holds
  | invoke operation =>
      cases phase with
      | idle memory => exact step _ _ _ _ _ holds (.invoke operation memory world)
      | _ => exact holds
  | answer bound replies =>
      cases phase with
      | busy operation program => exact drive_closed step responds bound replies holds
      | _ => exact holds
  | finish =>
      match phase, holds with
      | .busy operation (.done (result, memory)), holds =>
          exact step _ _ _ _ _ holds (.finish operation result memory world)
      | .busy operation (.call command rest), holds => exact holds
      | .idle memory, holds => exact holds
      | .down, holds => exact holds
  | crash => exact step _ _ _ _ _ holds (.crash phase world)

end Closed

theorem Class.script_reachable {cls : Class C R S E Op α} {respond : P → Responder C R E W}
    {answers : W → (command : C) → Except E (R command) → W → Prop} {initial : W → Prop}
    {world : W} (first : initial world) (responds : Responds respond answers)
    (deeds : List (Deed Op P)) :
    cls.Reachable answers initial (cls.script respond world deeds).1
      (cls.script respond world deeds).2 := by
  suffices continued : ∀ config : Phase C R S E Op α × W,
      cls.Reachable answers initial config.1 config.2 →
      cls.Reachable answers initial (deeds.foldl (cls.act respond) config).1
        (deeds.foldl (cls.act respond) config).2
    from continued _ (.initial world first)
  induction deeds with
  | nil => exact fun config reachable => reachable
  | cons deed deeds ih =>
      intro config reachable
      refine ih _ (Class.act_closed ?_ responds deed reachable)
      exact fun _ _ _ _ _ reachable step => .step _ _ _ _ _ reachable step

/-- An idle object can run an operation to its end while an oracle answers. -/
theorem Class.Reachable.operation {cls : Class C R S E Op α}
    {answers : W → (command : C) → Except E (R command) → W → Prop} {initial : W → Prop}
    {oracle : (command : C) → Except E (R command)} {record : W → C → W}
    (lawful : ∀ world command, answers world command (oracle command) (record world command))
    {memory : S} {world : W} (reachable : cls.Reachable answers initial (.idle memory) world)
    (operation : Op) :
    cls.Reachable answers initial (.idle ((cls.run operation).outcome oracle memory).2)
      (((cls.run operation).issued oracle memory).foldl record world) := by
  have continued : ∀ program world,
      cls.Reachable answers initial (.busy operation program) world →
      cls.Reachable answers initial (.idle (program.eval oracle).2)
        ((program.calls oracle).foldl record world) := by
    intro program
    induction program with
    | done result =>
        intro world reachable
        exact .step _ _ _ _ _ reachable (.finish operation result.1 result.2 world)
    | call command rest ih =>
        intro world reachable
        refine ih _ _ (.step _ _ _ _ _ reachable (.answer operation command rest _ _ _ ?_))
        exact lawful world command
  exact continued _ _ (.step _ _ _ _ _ reachable (.invoke operation memory world))

section Family

variable [DecidableEq ι]

def Family.act (classes : ι → Class C R S E Op α) (respond : ι → P → Responder C R E W)
    (config : Config C R S E Op α ι W) (deed : ι × Deed Op P) : Config C R S E Op α ι W :=
  let moved := (classes deed.1).act (respond deed.1) (config.phase deed.1, config.world) deed.2
  ⟨Function.update config.phase deed.1 moved.1, moved.2⟩

def Family.script (classes : ι → Class C R S E Op α) (respond : ι → P → Responder C R E W)
    (world : W) (deeds : List (ι × Deed Op P)) : Config C R S E Op α ι W :=
  deeds.foldl (Family.act classes respond) ⟨fun _ => .down, world⟩

theorem Family.Reachable.acts {classes : ι → Class C R S E Op α}
    {respond : ι → P → Responder C R E W}
    {answers : ι → W → (command : C) → Except E (R command) → W → Prop}
    {environment : W → W → Prop} {initial : W → Prop} {config : Config C R S E Op α ι W}
    (reachable : Family.Reachable classes answers environment initial config)
    (responds : ∀ i, Responds (respond i) (answers i)) (deeds : List (ι × Deed Op P)) :
    Family.Reachable classes answers environment initial
      (deeds.foldl (Family.act classes respond) config) := by
  induction deeds generalizing config with
  | nil => exact reachable
  | cons deed deeds ih =>
      apply ih
      -- the moves of one object are steps of the family that leave the other phases alone
      let closed (phase : Phase C R S E Op α) (world : W) : Prop :=
        Family.Reachable classes answers environment initial
          ⟨Function.update config.phase deed.1 phase, world⟩
      have start : closed (config.phase deed.1) config.world := by
        simpa only [closed, Function.update_eq_self] using reachable
      have step : ∀ phase world move phase' world', closed phase world →
          (classes deed.1).Step (answers deed.1) phase world move phase' world' →
          closed phase' world' := by
        intro phase world move phase' world' holds step
        have moved : Family.Step classes answers environment
            ⟨Function.update config.phase deed.1 phase, world⟩
            ⟨Function.update (Function.update config.phase deed.1 phase) deed.1 phase', world'⟩ :=
          .move _ deed.1 move phase' world' (by simpa only [Function.update_self] using step)
        rw [Function.update_idem] at moved
        exact .step _ _ holds moved
      exact Class.act_closed step (responds deed.1) deed.2 start

theorem Family.script_reachable {classes : ι → Class C R S E Op α}
    {respond : ι → P → Responder C R E W}
    {answers : ι → W → (command : C) → Except E (R command) → W → Prop}
    {environment : W → W → Prop} {initial : W → Prop} {world : W} (first : initial world)
    (responds : ∀ i, Responds (respond i) (answers i)) (deeds : List (ι × Deed Op P)) :
    Family.Reachable classes answers environment initial
      (Family.script classes respond world deeds) :=
  Family.Reachable.acts (.initial world first) responds deeds

end Family

end QmtExecution.Interaction
