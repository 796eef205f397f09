import QmtExecution.Interaction.System

/-! What a method can call at all, and what it keeps of its memory, whatever it is answered. -/

namespace QmtExecution.Interaction

namespace Program

variable {C : Type} {A : C → Type} {α W : Type}

/-- What holds of all calls and results of a program holds over every world. -/
theorem Obeys.anywhere {program : Program C A α} {allowed : C → Prop} {post : α → Prop}
    {permits : W → C → Prop} {answers : W → (command : C) → A command → W → Prop} {world : W}
    (obeys : program.Obeys (fun (_ : Unit) => allowed) (fun _ _ _ _ => True) (fun value _ => post value) ())
    (allows : ∀ world command, allowed command → permits world command) :
    program.Obeys permits answers (fun value _ => post value) world := by
  induction program generalizing world with
  | done value => exact obeys
  | call command rest ih =>
      refine ⟨allows _ _ obeys.1, fun answer after _ => ?_⟩
      exact ih answer (obeys.2 answer () trivial)

end Program

namespace Method

variable {C : Type} {R : C → Type} {S E α β W : Type} {allowed : C → Prop} {kept : S → Prop}

/-- Whatever its calls are answered, the method makes no other calls than these and keeps this of the
memory. -/
structure Walks (allowed : C → Prop) (kept : S → Prop) (method : Method C R S E α) : Prop where
  meets : ∀ memory, kept memory → method.Meets (fun (_ : Unit) => allowed) (fun _ _ _ _ => True)
    memory () (fun _ after _ => kept after) (fun _ after _ => kept after)

abbrev Calls (allowed : C → Prop) (method : Method C R S E α) : Prop :=
  method.Walks allowed fun _ => True

abbrev Preserves (kept : S → Prop) (method : Method C R S E α) : Prop :=
  method.Walks (fun _ => True) kept

theorem walks_pure (value : α) : (pure value : Method C R S E α).Walks allowed kept :=
  ⟨fun _ held => held⟩

theorem walks_raise (raised : E) : (raise raised : Method C R S E α).Walks allowed kept :=
  ⟨fun _ held => held⟩

theorem walks_read : (read : Method C R S E S).Walks allowed kept := ⟨fun _ held => held⟩

theorem walks_update {change : S → S} (changed : ∀ memory, kept memory → kept (change memory)) :
    (update change : Method C R S E Unit).Walks allowed kept := ⟨changed⟩

theorem walks_perform {command : C} (allows : allowed command) :
    (perform command : Method C R S E (R command)).Walks allowed kept :=
  ⟨fun _ held => (meets_perform command).2 ⟨allows, fun _ _ _ => held, fun _ _ _ => held⟩⟩

theorem walks_ofExcept (outcome : Except E α) :
    (ofExcept outcome : Method C R S E α).Walks allowed kept := by
  cases outcome with
  | ok value => exact walks_pure value
  | error raised => exact walks_raise raised

theorem walks_bind {method : Method C R S E β} {next : β → Method C R S E α}
    (first : method.Walks allowed kept) (rest : ∀ value, (next value).Walks allowed kept) :
    (method >>= next).Walks allowed kept := by
  constructor
  intro memory held
  apply (meets_bind _ _).2
  apply Meets.weaken (first.meets memory held)
  · intro value after _ reached
    exact (rest value).meets after reached
  · intro _ _ _ reached
    exact reached

theorem walks_attempt {method : Method C R S E α} (body : method.Walks allowed kept) :
    method.attempt.Walks allowed kept :=
  ⟨fun memory held => (meets_attempt _).2 (body.meets memory held)⟩

theorem walks_tryFinally {body final : Method C R S E Unit} (first : body.Walks allowed kept)
    (last : final.Walks allowed kept) : (tryFinally body final).Walks allowed kept :=
  walks_bind (walks_attempt first) fun ended => walks_bind last fun _ => walks_ofExcept ended

theorem Walks.obeys {method : Method C R S E α} (walks : method.Walks allowed kept) {memory : S}
    (held : kept memory) : (method memory).Obeys (fun (_ : Unit) => allowed) (fun _ _ _ _ => True)
      (fun result _ => kept result.2) () := by
  apply Program.Obeys.weaken (walks.meets memory held)
  rintro ⟨_ | _, _⟩ after post
  · exact post
  · exact post

theorem Walks.anywhere {method : Method C R S E α} (walks : method.Walks allowed kept)
    {permits : W → C → Prop} {answers : W → (command : C) → Except E (R command) → W → Prop}
    (allows : ∀ world command, allowed command → permits world command) {memory : S}
    (held : kept memory) (world : W) : method.Meets permits answers memory world
      (fun _ after _ => kept after) (fun _ after _ => kept after) := by
  apply Program.Obeys.weaken ((walks.obeys held).anywhere allows)
  rintro ⟨_ | _, _⟩ after post
  · exact post
  · exact post

theorem Walks.keeps {method : Method C R S E α} (walks : method.Walks allowed kept)
    (oracle : (command : C) → Except E (R command)) {memory : S} (held : kept memory) :
    kept (method.outcome oracle memory).2 := by
  have obeys : (method memory).Obeys (fun (_ : Unit) _ => True)
      (fun _ command answer _ => answer = oracle command) (fun result _ => kept result.2) () :=
    (walks.obeys held).anywhere fun _ _ _ => trivial
  exact ((Program.obeys_oracle _).1 obeys).2

/-- What a method keeps of the memory, beside what a protocol says of it. -/
theorem Meets.keeping {permits : W → C → Prop}
    {answers : W → (command : C) → Except E (R command) → W → Prop} {memory : S} {world : W}
    {method : Method C R S E α} {ok : α → S → W → Prop} {err : E → S → W → Prop}
    (meets : method.Meets permits answers memory world ok err) (preserves : method.Preserves kept)
    (held : kept memory) : method.Meets permits answers memory world
      (fun value s w => ok value s w ∧ kept s) (fun raised s w => err raised s w ∧ kept s) := by
  apply Program.Obeys.weaken (Program.Obeys.also meets (preserves.obeys held))
  rintro ⟨_ | _, _⟩ after post
  · exact post
  · exact post

end Method

end QmtExecution.Interaction
