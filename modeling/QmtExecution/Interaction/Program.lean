import Mathlib.Logic.Basic

/-! Programs that run by issuing calls to their environment, and methods: programs that
carry the memory of one object and may raise. A method is checked against a protocol,
which says which calls are permitted in which world. -/

namespace QmtExecution.Interaction

/-- A finite program over calls `C`; the call `command` is answered by an `A command`. -/
inductive Program (C : Type) (A : C → Type) (α : Type) : Type
  | done (value : α)
  | call (command : C) (next : A command → Program C A α)

namespace Program

variable {C : Type} {A : C → Type} {α β W : Type}

def bind : Program C A α → (α → Program C A β) → Program C A β
  | .done value, next => next value
  | .call command rest, next => .call command fun answer => (rest answer).bind next

/-- The calls of a program as calls of a larger system. -/
def within {C' : Type} {A' : C' → Type} (into : C → C')
    (back : (command : C) → A' (into command) → A command) : Program C A α → Program C' A' α
  | .done value => .done value
  | .call command rest => .call (into command) fun answer =>
      (rest (back command answer)).within into back

def eval (oracle : (command : C) → A command) : Program C A α → α
  | .done value => value
  | .call command rest => (rest (oracle command)).eval oracle

def calls (oracle : (command : C) → A command) : Program C A α → List C
  | .done _ => []
  | .call command rest => command :: (rest (oracle command)).calls oracle

theorem eval_bind (oracle : (command : C) → A command) (program : Program C A α)
    (next : α → Program C A β) :
    (program.bind next).eval oracle = (next (program.eval oracle)).eval oracle := by
  induction program with
  | done value => rfl
  | call command rest ih => exact ih (oracle command)

theorem calls_bind (oracle : (command : C) → A command) (program : Program C A α)
    (next : α → Program C A β) :
    (program.bind next).calls oracle =
      program.calls oracle ++ (next (program.eval oracle)).calls oracle := by
  induction program with
  | done value => rfl
  | call command rest ih => exact congrArg (command :: ·) (ih (oracle command))

/-- Every call the program can issue is permitted where it is issued, whatever the
environment answers, and every result satisfies `post`. -/
def Obeys (permits : W → C → Prop) (answers : W → (command : C) → A command → W → Prop)
    (post : α → W → Prop) : Program C A α → W → Prop
  | .done value, world => post value world
  | .call command rest, world => permits world command ∧
      ∀ answer after, answers world command answer after →
        (rest answer).Obeys permits answers post after

variable {permits : W → C → Prop} {answers : W → (command : C) → A command → W → Prop}

theorem Obeys.weaken {program : Program C A α} {post other : α → W → Prop} {world : W}
    (obeys : program.Obeys permits answers post world)
    (implies : ∀ value after, post value after → other value after) :
    program.Obeys permits answers other world := by
  induction program generalizing world with
  | done value => exact implies value world obeys
  | call command rest ih =>
      exact ⟨obeys.1, fun answer after law => ih answer (obeys.2 answer after law)⟩

theorem Obeys.allow {program : Program C A α} {post : α → W → Prop} {world : W}
    {wider : W → C → Prop} (obeys : program.Obeys permits answers post world)
    (allows : ∀ world command, permits world command → wider world command) :
    program.Obeys wider answers post world := by
  induction program generalizing world with
  | done value => exact obeys
  | call command rest ih =>
      exact ⟨allows _ _ obeys.1, fun answer after law => ih answer (obeys.2 answer after law)⟩

theorem Obeys.narrow {program : Program C A α} {post : α → W → Prop} {world : W}
    {fewer : W → (command : C) → A command → W → Prop}
    (obeys : program.Obeys permits answers post world)
    (among : ∀ world command answer after, fewer world command answer after →
      answers world command answer after) : program.Obeys permits fewer post world := by
  induction program generalizing world with
  | done value => exact obeys
  | call command rest ih =>
      refine ⟨obeys.1, fun answer after law => ?_⟩
      exact ih answer (obeys.2 answer after (among _ _ _ _ law))

theorem Obeys.both {program : Program C A α} {other : W → C → Prop} {post last : α → W → Prop}
    {world : W} (first : program.Obeys permits answers post world)
    (second : program.Obeys other answers last world) :
    program.Obeys (fun world command => permits world command ∧ other world command) answers
      (fun value after => post value after ∧ last value after) world := by
  induction program generalizing world with
  | done value => exact ⟨first, second⟩
  | call command rest ih =>
      refine ⟨⟨first.1, second.1⟩, fun answer after law => ?_⟩
      exact ih answer (first.2 answer after law) (second.2 answer after law)

theorem Obeys.within {C' W' : Type} {A' : C' → Type} {into : C → C'}
    {back : (command : C) → A' (into command) → A command}
    {answers' : W' → (command : C') → A' command → W' → Prop} (part : W' → W) {frame : W' → Prop}
    {program : Program C A α} {post : α → W → Prop} {world : W'}
    (obeys : program.Obeys permits answers post (part world))
    (kept : ∀ world command answer after, frame world →
      answers' world (into command) answer after →
      answers (part world) command (back command answer) (part after) ∧ frame after)
    (held : frame world) :
    (program.within into back).Obeys (fun _ _ => True) answers'
      (fun value after => post value (part after) ∧ frame after) world := by
  induction program generalizing world with
  | done value => exact ⟨obeys, held⟩
  | call command rest ih =>
      refine ⟨trivial, fun answer after law => ?_⟩
      obtain ⟨answered, still⟩ := kept world command answer after held law
      exact ih _ (obeys.2 _ _ answered) still

theorem Obeys.frame {program : Program C A α} {post : α → W → Prop} {frame : W → Prop} {world : W}
    (obeys : program.Obeys permits answers post world)
    (kept : ∀ world command answer after, frame world → answers world command answer after →
      frame after) (held : frame world) :
    program.Obeys permits answers (fun value after => post value after ∧ frame after) world := by
  induction program generalizing world with
  | done value => exact ⟨obeys, held⟩
  | call command rest ih =>
      refine ⟨obeys.1, fun answer after law => ?_⟩
      exact ih answer (obeys.2 answer after law) (kept world command answer after held law)

theorem Obeys.also {program : Program C A α} {post : α → W → Prop} {last : α → Prop} {world : W}
    (obeys : program.Obeys permits answers post world)
    (always : program.Obeys (fun (_ : Unit) _ => True) (fun _ _ _ _ => True) (fun value _ => last value)
      ()) : program.Obeys permits answers (fun value after => post value after ∧ last value) world := by
  induction program generalizing world with
  | done value => exact ⟨obeys, always⟩
  | call command rest ih =>
      refine ⟨obeys.1, fun answer after law => ?_⟩
      exact ih answer (obeys.2 answer after law) (always.2 answer () trivial)

theorem obeys_bind (program : Program C A α) (next : α → Program C A β)
    (post : β → W → Prop) (world : W) :
    (program.bind next).Obeys permits answers post world ↔
      program.Obeys permits answers
        (fun value after => (next value).Obeys permits answers post after) world := by
  induction program generalizing world with
  | done value => rfl
  | call command rest ih =>
      simp only [bind, Obeys]
      exact and_congr_right fun _ => forall_congr' fun answer =>
        forall_congr' fun after => imp_congr_right fun _ => ih answer after

/-- A program obeys a protocol against an oracle when its calls are permitted and its
result is right. -/
theorem obeys_oracle {oracle : (command : C) → A command} {permits : C → Prop} {post : α → Prop}
    (program : Program C A α) :
    program.Obeys (fun (_ : Unit) => permits) (fun _ command answer _ => answer = oracle command)
        (fun value _ => post value) () ↔
      (∀ command ∈ program.calls oracle, permits command) ∧ post (program.eval oracle) := by
  induction program with
  | done value => simp [Obeys, calls, eval]
  | call command rest ih =>
      simp only [Obeys, calls, eval, List.forall_mem_cons, and_assoc, ← ih]
      exact and_congr_right fun _ => ⟨fun obeys => obeys _ () rfl, by rintro obeys _ _ rfl; exact obeys⟩

end Program

/-- A method of an object with memory `S`. It runs on the memory, may raise an `E`, and
leaves the memory it has reached in either case; every call may be answered by an `E`. -/
def Method (C : Type) (R : C → Type) (S E α : Type) : Type :=
  S → Program C (fun command => Except E (R command)) (Except E α × S)

namespace Method

variable {C : Type} {R : C → Type} {S E α β W : Type}

protected def pure (value : α) : Method C R S E α := fun memory => .done (.ok value, memory)

protected def bind (method : Method C R S E α) (next : α → Method C R S E β) :
    Method C R S E β := fun memory =>
  (method memory).bind fun
    | (.ok value, after) => next value after
    | (.error raised, after) => .done (.error raised, after)

instance : Monad (Method C R S E) where
  pure := Method.pure
  bind := Method.bind

def raise (raised : E) : Method C R S E α := fun memory => .done (.error raised, memory)

def read : Method C R S E S := fun memory => .done (.ok memory, memory)

def update (change : S → S) : Method C R S E Unit := fun memory => .done (.ok (), change memory)

def perform (command : C) : Method C R S E (R command) := fun memory =>
  .call command fun answer => .done (answer, memory)

def ofExcept : Except E α → Method C R S E α
  | .ok value => Method.pure value
  | .error raised => raise raised

/-- The outcome of a method as a value: the body of a `try` statement. -/
def attempt (method : Method C R S E α) : Method C R S E (Except E α) := fun memory =>
  (method memory).bind fun (outcome, after) => .done (.ok outcome, after)

def tryFinally (body final : Method C R S E Unit) : Method C R S E Unit := do
  let ended ← attempt body
  final
  ofExcept ended

/-- The method obeys the protocol from this memory and world; it ends in `ok` with a value
or in `err` with an exception. -/
def Meets (permits : W → C → Prop)
    (answers : W → (command : C) → Except E (R command) → W → Prop)
    (method : Method C R S E α) (memory : S) (world : W)
    (ok : α → S → W → Prop) (err : E → S → W → Prop) : Prop :=
  (method memory).Obeys permits answers
    (fun result after => match result.1 with
      | .ok value => ok value result.2 after
      | .error raised => err raised result.2 after) world

variable {permits : W → C → Prop}
  {answers : W → (command : C) → Except E (R command) → W → Prop}
  {memory : S} {world : W}

theorem Meets.weaken {method : Method C R S E α} {ok ok' : α → S → W → Prop}
    {err err' : E → S → W → Prop} (meets : method.Meets permits answers memory world ok err)
    (value : ∀ v s w, ok v s w → ok' v s w) (raised : ∀ e s w, err e s w → err' e s w) :
    method.Meets permits answers memory world ok' err' := by
  refine Program.Obeys.weaken meets fun result after post => ?_
  rcases result with ⟨_ | _, _⟩
  · exact raised _ _ _ post
  · exact value _ _ _ post

theorem Meets.frame {method : Method C R S E α} {ok : α → S → W → Prop} {err : E → S → W → Prop}
    {frame : W → Prop} (meets : method.Meets permits answers memory world ok err)
    (kept : ∀ world command answer after, frame world → answers world command answer after →
      frame after) (held : frame world) :
    method.Meets permits answers memory world (fun value s w => ok value s w ∧ frame w)
      (fun raised s w => err raised s w ∧ frame w) := by
  refine Program.Obeys.weaken (Program.Obeys.frame meets kept held) ?_
  rintro ⟨_ | _, _⟩ after post <;> exact post

section Rules

variable {ok : α → S → W → Prop} {err : E → S → W → Prop}

@[simp] theorem meets_pure (value : α) :
    (pure value : Method C R S E α).Meets permits answers memory world ok err ↔
      ok value memory world := Iff.rfl

@[simp] theorem meets_raise (raised : E) :
    (raise raised : Method C R S E α).Meets permits answers memory world ok err ↔
      err raised memory world := Iff.rfl

@[simp] theorem meets_read {ok : S → S → W → Prop} :
    (read : Method C R S E S).Meets permits answers memory world ok err ↔
      ok memory memory world := Iff.rfl

@[simp] theorem meets_update {ok : Unit → S → W → Prop} (change : S → S) :
    (update change : Method C R S E Unit).Meets permits answers memory world ok err ↔
      ok () (change memory) world := Iff.rfl

@[simp] theorem meets_ofExcept_ok (value : α) :
    (ofExcept (.ok value) : Method C R S E α).Meets permits answers memory world ok err ↔
      ok value memory world := Iff.rfl

@[simp] theorem meets_ofExcept_error (raised : E) :
    (ofExcept (.error raised) : Method C R S E α).Meets permits answers memory world ok err ↔
      err raised memory world := Iff.rfl

theorem meets_perform (command : C) {ok : R command → S → W → Prop} :
    (perform command : Method C R S E (R command)).Meets permits answers memory world ok err ↔
      permits world command ∧
        (∀ value after, answers world command (.ok value) after → ok value memory after) ∧
        ∀ raised after, answers world command (.error raised) after → err raised memory after := by
  constructor
  · intro meets
    exact ⟨meets.1, fun value after law => meets.2 _ after law,
      fun raised after law => meets.2 _ after law⟩
  · intro ⟨permitted, value, raised⟩
    refine ⟨permitted, fun answer after law => ?_⟩
    cases answer with
    | ok v => exact value v after law
    | error e => exact raised e after law

@[simp] theorem meets_bind (method : Method C R S E β) (next : β → Method C R S E α) :
    (method >>= next).Meets permits answers memory world ok err ↔
      method.Meets permits answers memory world
        (fun value s w => (next value).Meets permits answers s w ok err) err := by
  refine (Program.obeys_bind _ _ _ _).trans ⟨fun h => ?_, fun h => ?_⟩
  all_goals
    refine Program.Obeys.weaken h fun result after post => ?_
    rcases result with ⟨_ | _, _⟩ <;> exact post

@[simp] theorem meets_attempt (method : Method C R S E α)
    {ok : Except E α → S → W → Prop} :
    method.attempt.Meets permits answers memory world ok err ↔
      method.Meets permits answers memory world
        (fun value => ok (.ok value)) (fun raised => ok (.error raised)) := by
  refine (Program.obeys_bind _ _ _ _).trans ⟨fun h => ?_, fun h => ?_⟩
  all_goals
    refine Program.Obeys.weaken h fun result after post => ?_
    rcases result with ⟨_ | _, _⟩ <;> exact post

@[simp] theorem meets_ite (condition : Prop) [Decidable condition]
    (yes no : Method C R S E α) :
    (if condition then yes else no).Meets permits answers memory world ok err ↔
      (condition → yes.Meets permits answers memory world ok err) ∧
        (¬ condition → no.Meets permits answers memory world ok err) := by
  by_cases holds : condition <;> simp [holds]

end Rules

section Outcome

variable (oracle : (command : C) → Except E (R command)) (memory : S)

/-- What a method returns or raises, and the memory it leaves, when an oracle answers. -/
def outcome (method : Method C R S E α) : Except E α × S := (method memory).eval oracle

@[simp] theorem outcome_pure (value : α) :
    (pure value : Method C R S E α).outcome oracle memory = (.ok value, memory) := rfl

@[simp] theorem outcome_raise (raised : E) :
    (raise raised : Method C R S E α).outcome oracle memory = (.error raised, memory) := rfl

@[simp] theorem outcome_read :
    (read : Method C R S E S).outcome oracle memory = (.ok memory, memory) := rfl

@[simp] theorem outcome_update (change : S → S) :
    (update change : Method C R S E Unit).outcome oracle memory = (.ok (), change memory) := rfl

@[simp] theorem outcome_perform (command : C) :
    (perform command : Method C R S E (R command)).outcome oracle memory =
      (oracle command, memory) := rfl

@[simp] theorem outcome_ofExcept (outcome : Except E α) :
    (ofExcept outcome : Method C R S E α).outcome oracle memory = (outcome, memory) := by
  cases outcome <;> rfl

@[simp] theorem outcome_bind (method : Method C R S E β) (next : β → Method C R S E α) :
    (method >>= next).outcome oracle memory =
      match method.outcome oracle memory with
      | (.ok value, after) => (next value).outcome oracle after
      | (.error raised, after) => (.error raised, after) := by
  refine (Program.eval_bind oracle _ _).trans ?_
  unfold outcome
  rcases (method memory).eval oracle with ⟨_ | _, _⟩ <;> rfl

@[simp] theorem outcome_attempt (method : Method C R S E α) :
    method.attempt.outcome oracle memory =
      (.ok (method.outcome oracle memory).1, (method.outcome oracle memory).2) :=
  Program.eval_bind oracle _ _

@[simp] theorem outcome_ite (condition : Prop) [Decidable condition] (yes no : Method C R S E α) :
    (if condition then yes else no).outcome oracle memory =
      if condition then yes.outcome oracle memory else no.outcome oracle memory := by
  by_cases holds : condition <;> simp [holds]

def issued (method : Method C R S E α) : List C := (method memory).calls oracle

@[simp] theorem issued_pure (value : α) :
    (pure value : Method C R S E α).issued oracle memory = [] := rfl

@[simp] theorem issued_raise (raised : E) :
    (raise raised : Method C R S E α).issued oracle memory = [] := rfl

@[simp] theorem issued_read : (read : Method C R S E S).issued oracle memory = [] := rfl

@[simp] theorem issued_update (change : S → S) :
    (update change : Method C R S E Unit).issued oracle memory = [] := rfl

@[simp] theorem issued_ofExcept (outcome : Except E α) :
    (ofExcept outcome : Method C R S E α).issued oracle memory = [] := by
  cases outcome <;> rfl

@[simp] theorem issued_perform (command : C) :
    (perform command : Method C R S E (R command)).issued oracle memory = [command] := rfl

@[simp] theorem issued_attempt (method : Method C R S E α) :
    method.attempt.issued oracle memory = method.issued oracle memory := by
  refine (Program.calls_bind oracle _ _).trans ?_
  rcases (method memory).eval oracle with ⟨_, _⟩
  exact List.append_nil _

theorem issued_bind (method : Method C R S E β) (next : β → Method C R S E α) :
    (method >>= next).issued oracle memory = method.issued oracle memory ++
      match method.outcome oracle memory with
      | (.ok value, after) => (next value).issued oracle after
      | (.error _, _) => [] := by
  refine (Program.calls_bind oracle _ _).trans ?_
  unfold issued outcome
  rcases (method memory).eval oracle with ⟨_ | _, _⟩ <;> rfl

variable {oracle} {memory}

theorem outcome_attempt_ok {method : Method C R S E α} {value : α} {after : S}
    (returns : method.outcome oracle memory = (.ok value, after)) :
    method.attempt.outcome oracle memory = (.ok (.ok value), after) := by
  rw [outcome_attempt, returns]

theorem meets_oracle {permits : C → Prop} {method : Method C R S E α} {ok : α → S → Prop}
    {err : E → S → Prop}
    (meets : method.Meets (fun (_ : Unit) => permits)
      (fun _ command answer _ => answer = oracle command) memory () (fun value after _ => ok value after)
      (fun raised after _ => err raised after)) :
    (∀ command ∈ method.issued oracle memory, permits command) ∧
      match method.outcome oracle memory with
      | (.ok value, after) => ok value after
      | (.error raised, after) => err raised after := by
  have obeys : (method memory).Obeys (fun (_ : Unit) => permits)
      (fun _ command answer _ => answer = oracle command) (fun result _ => match result with
        | (.ok value, after) => ok value after
        | (.error raised, after) => err raised after) () := by
    refine Program.Obeys.weaken meets fun result _ post => ?_
    rcases result with ⟨_ | _, _⟩ <;> exact post
  exact (Program.obeys_oracle _).1 obeys

theorem issued_next {method : Method C R S E β} {next : β → Method C R S E α} {value : β}
    {after : S} (returns : method.outcome oracle memory = (.ok value, after)) {command : C}
    (member : command ∈ (next value).issued oracle after) :
    command ∈ (method >>= next).issued oracle memory := by
  rw [issued_bind, returns]
  exact List.mem_append_right _ member

theorem issued_first {method : Method C R S E β} {next : β → Method C R S E α} {command : C}
    (member : command ∈ method.issued oracle memory) :
    command ∈ (method >>= next).issued oracle memory := by
  rw [issued_bind]
  exact List.mem_append_left _ member

/-- The method comes down to the rest: it ends as the rest does and issues its calls on the way. -/
def Leads (oracle : (command : C) → Except E (R command)) (memory : S)
    (method rest : Method C R S E α) (after : S) : Prop :=
  method.outcome oracle memory = rest.outcome oracle after ∧
    ∀ command ∈ rest.issued oracle after, command ∈ method.issued oracle memory

theorem leads_refl (method : Method C R S E α) : method.Leads oracle memory method memory :=
  ⟨rfl, fun _ member => member⟩

theorem leads_next {method : Method C R S E β} {next : β → Method C R S E α} {value : β}
    {middle after : S} {rest : Method C R S E α}
    (returns : method.outcome oracle memory = (.ok value, middle))
    (leads : (next value).Leads oracle middle rest after) :
    (method >>= next).Leads oracle memory rest after := by
  refine ⟨?_, fun command member => issued_next returns (leads.2 command member)⟩
  rw [outcome_bind, returns]
  exact leads.1

def Emits (oracle : (command : C) → Except E (R command)) (memory : S)
    (method : Method C R S E α) (command : C) (result : Except E α × S) : Prop :=
  method.outcome oracle memory = result ∧ command ∈ method.issued oracle memory

theorem emits_next {method : Method C R S E β} {next : β → Method C R S E α} {value : β}
    {after : S} {command : C} {result : Except E α × S}
    (returns : method.outcome oracle memory = (.ok value, after))
    (rest : (next value).Emits oracle after command result) :
    (method >>= next).Emits oracle memory command result := by
  refine ⟨?_, issued_next returns rest.2⟩
  rw [outcome_bind, returns]
  exact rest.1

theorem emits_first {method : Method C R S E β} {next : β → Method C R S E α} {value : β}
    {after : S} {command : C} {result : Except E α × S}
    (emits : method.Emits oracle memory command (.ok value, after))
    (rest : (next value).outcome oracle after = result) :
    (method >>= next).Emits oracle memory command result := by
  refine ⟨?_, issued_first emits.2⟩
  rw [outcome_bind, emits.1]
  exact rest

end Outcome

end Method

end QmtExecution.Interaction
