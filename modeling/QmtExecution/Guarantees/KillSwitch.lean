import QmtExecution.Guards
import QmtExecution.Interaction.Spans
import QmtExecution.Protocol.Sequence

/-! Sessions behind guards with limits and a kill switch, which is engaged at any moment from outside
the sessions. -/

namespace QmtExecution

open Interaction

/-- The calls of every session, its guard, and the calls there were when the switch of the guard was
engaged. -/
structure Watched (ι : Type) where
  logs : ι → Trace
  guards : ι → LimitExecutionGuard
  engaged : ι → Option Trace

namespace Watched

variable {ι : Type} [DecidableEq ι]

/-- A session is answered anything, but its guard decides what is verified. -/
def answers (i : ι) (world : Watched ι) (command : Command) (answer : Except Exc (Result command))
    (after : Watched ι) : Prop :=
  (world.logs i).FileLaw command answer ∧
    (∀ request reply, (⟨command, answer⟩ : Event) = ⟨.verify request, reply⟩ →
      ∃ inner, reply = (world.guards i).verify inner request) ∧
    after = { world with
      logs := Function.update world.logs i (⟨command, answer⟩ :: world.logs i) }

/-- Somebody engages a switch, or a process is replaced by one with a fresh guard of its limits. -/
inductive Moves (world : Watched ι) : Watched ι → Prop
  | engage (i : ι) : Moves world { world with
      guards := Function.update world.guards i (world.guards i).engageKillSwitch
      engaged := Function.update world.engaged i (some ((world.engaged i).getD (world.logs i))) }
  | replace (i : ι) : Moves world { world with
      guards := Function.update world.guards i { limits := (world.guards i).limits }
      engaged := Function.update world.engaged i none }

def initial (limits : ι → ExecutionLimits) (world : Watched ι) : Prop :=
  world = ⟨fun _ => [], fun i => { limits := limits i }, fun _ => none⟩

theorem views : Family.Views (C := Command) (R := Result) (E := Exc) Watched.answers Moves
    (fun (i : ι) world => world.logs i) (fun _ => Trace.answers) where
  own := by
    intro i world command answer after law
    obtain ⟨file, -, rfl⟩ := law
    exact ⟨file, Function.update_self _ _ _⟩
  other := by
    intro i j world command answer after different law
    obtain ⟨-, -, rfl⟩ := law
    exact Function.update_of_ne different _ _
  environment := by
    intro i world after moves
    cases moves <;> rfl

abbrev Reachable (configs : ι → SessionConfig) (limits : ι → ExecutionLimits) :
    Config Command Result SessionState Exc Operation (Option ExecutionSnapshot) ι (Watched ι) → Prop :=
  Family.Reachable (fun i => sessionClass (configs i)) Watched.answers Moves (initial limits)

end Watched

def Event.Consents (request : ExecutionRequest) : Event → Prop
  | ⟨.verify other, .ok evidence⟩ => other = request ∧ PrecheckEvidence.allowed evidence = true
  | _ => False

/-- What the guard of a session has seen: consents within its limits, and none since the switch has been
engaged. -/
structure Heeded (limits : ExecutionLimits) (log : Trace) (guard : LimitExecutionGuard)
    (engaged : Option Trace) : Prop where
  limited : guard.limits = limits
  switch : guard.killSwitch = engaged.isSome
  admits : ∀ event ∈ log, ∀ request, event.Consents request → limits.Admits request
  since : ∀ earlier, engaged = some earlier → ∃ recent, log = recent ++ earlier ∧
    ∀ event ∈ recent, ∀ request, ¬ event.Consents request

namespace Heeded

variable {limits : ExecutionLimits} {log : Trace} {guard : LimitExecutionGuard}
  {engaged : Option Trace}

theorem consents (heeded : Heeded limits log guard engaged) {event : Event}
    (decides : ∀ request reply, event = ⟨.verify request, reply⟩ →
      ∃ inner, reply = guard.verify inner request) {request : ExecutionRequest}
    (consents : event.Consents request) : engaged = none ∧ limits.Admits request := by
  obtain ⟨command, answer⟩ := event
  cases command with
  | verify other =>
      cases answer with
      | error exc => cases consents
      | ok evidence =>
          obtain ⟨rfl, allowed⟩ := consents
          obtain ⟨inner, same⟩ := decides other _ rfl
          obtain ⟨off, admits, -⟩ := LimitExecutionGuard.verify_allowed same.symm allowed
          rw [heeded.switch] at off
          rw [heeded.limited] at admits
          exact ⟨by simpa using off, admits⟩
  | _ => cases consents

theorem call (heeded : Heeded limits log guard engaged) {event : Event}
    (decides : ∀ request reply, event = ⟨.verify request, reply⟩ →
      ∃ inner, reply = guard.verify inner request) : Heeded limits (event :: log) guard engaged where
  limited := heeded.limited
  switch := heeded.switch
  admits := by
    intro other member request consents
    rcases List.mem_cons.1 member with rfl | member
    · exact (heeded.consents decides consents).2
    · exact heeded.admits other member request consents
  since := by
    intro earlier same
    obtain ⟨recent, rfl, none⟩ := heeded.since earlier same
    refine ⟨event :: recent, rfl, ?_⟩
    intro other member request consents
    rcases List.mem_cons.1 member with rfl | member
    · rw [(heeded.consents decides consents).1] at same
      cases same
    · exact none other member request consents

theorem engage (heeded : Heeded limits log guard engaged) :
    Heeded limits log guard.engageKillSwitch (some (engaged.getD log)) where
  limited := heeded.limited
  switch := rfl
  admits := heeded.admits
  since := by
    intro earlier same
    cases same
    cases engaged with
    | none => exact ⟨[], rfl, fun _ member => by cases member⟩
    | some earlier => exact heeded.since earlier rfl

end Heeded

theorem Trace.Approaches.consent {config : SessionConfig} {trace : Trace} {request : ExecutionRequest}
    (approaches : trace.Approaches config request) : ∃ before event rest,
      trace = before ++ event :: rest ∧ Event.Consents request event ∧
        ∀ event ∈ before, event.isPlacement = false := by
  obtain ⟨calls, older, coordinates, intends, rfl⟩ := approaches
  obtain ⟨evidence, triggered, begun, verified, intended, submitted, rest, allowed, rfl⟩ := intends
  have silent : ∀ event ∈ calls, event.isPlacement = false := by
    unfold SessionConfig.Coordinates at coordinates
    split_ifs at coordinates
    · split at coordinates
      · obtain ⟨asset, estimate, rfl⟩ := coordinates
        intro event member
        simp only [List.mem_cons, List.not_mem_nil, or_false] at member
        rcases member with rfl | rfl | rfl <;> rfl
      · subst coordinates
        intro event member
        rw [List.mem_singleton.1 member]
        rfl
    · subst coordinates
      intro event member
      rw [List.mem_singleton.1 member]
      rfl
  refine ⟨⟨.beforeBrokerSubmit request, .ok ()⟩ :: (calls ++
    [⟨.journalWrite (.transition .intentPersisted) submitted, .ok ()⟩,
      ⟨.journalWrite (.persistIntent request) intended, .ok ()⟩,
      ⟨.journalWrite (.transition .precheckVerified) verified, .ok ()⟩]),
    ⟨.verify request, .ok evidence⟩, ⟨.journalWrite (.transition .beginPrecheck) begun, .ok ()⟩ ::
      ⟨.journalWrite (.transition .triggered) triggered, .ok ()⟩ ::
      ⟨.executionHealthy, .ok true⟩ :: rest, ?_, ⟨rfl, allowed⟩, ?_⟩
  · rw [List.cons_append, List.append_assoc]
    rfl
  · intro event member
    rcases List.mem_cons.1 member with rfl | member
    · rfl
    · rcases List.mem_append.1 member with member | member
      · exact silent event member
      · simp only [List.mem_cons, List.not_mem_nil, or_false] at member
        rcases member with rfl | rfl | rfl <;> rfl

theorem split_older {α : Type} {before rest recent earlier : List α} {element : α}
    (same : before ++ element :: rest = recent ++ earlier) (missing : element ∉ recent) :
    ∃ middle, before = recent ++ middle ∧ earlier = middle ++ element :: rest := by
  rcases List.append_eq_append_iff.1 same with ⟨middle, rfl, more⟩ | ⟨middle, rfl, more⟩
  · cases middle with
    | nil => exact ⟨[], by simp, more.symm⟩
    | cons head middle =>
        cases more
        exact absurd (List.mem_append_right _ (List.mem_cons_self ..)) missing
  · exact ⟨middle, rfl, more⟩

theorem countP_le_one {α : Type} {kind : α → Bool} {elements : List α}
    (last : ∀ newer element older, elements = newer ++ element :: older → kind element = true →
      older.countP kind = 0) : elements.countP kind ≤ 1 := by
  induction elements with
  | nil => simp
  | cons element elements ih =>
      cases of : kind element with
      | true =>
          rw [List.countP_cons_of_pos of, last [] element elements rfl of]
      | false =>
          rw [List.countP_cons_of_neg (by simp [of])]
          apply ih
          intro newer other older same
          exact last (element :: newer) other older (by rw [same]; rfl)

namespace Watched

variable {ι : Type} [DecidableEq ι] {configs : ι → SessionConfig} {limits : ι → ExecutionLimits}
  {config : Config Command Result SessionState Exc Operation (Option ExecutionSnapshot) ι (Watched ι)}

def Heed (limits : ι → ExecutionLimits) (world : Watched ι) : Prop :=
  ∀ i, Heeded (limits i) (world.logs i) (world.guards i) (world.engaged i)

theorem Heed.moves {world after : Watched ι} (heed : Heed limits world) (moves : Moves world after) :
    Heed limits after := by
  intro j
  cases moves with
  | engage i =>
      by_cases own : j = i
      · subst own
        simpa only [Function.update_self] using (heed j).engage
      · simpa only [Function.update_of_ne own] using heed j
  | replace i =>
      by_cases own : j = i
      · subst own
        simp only [Function.update_self]
        refine ⟨(heed j).limited, rfl, (heed j).admits, ?_⟩
        intro earlier same
        cases same
      · simpa only [Function.update_of_ne own] using heed j

theorem Reachable.heed (reachable : Reachable configs limits config) : Heed limits config.world := by
  apply Family.Reachable.always views (fun i => session_follows (configs i)) _ _ _ _ reachable
  · intro world first i
    rw [first]
  · intro world first i
    rw [first]
    refine ⟨rfl, rfl, ?_, ?_⟩
    · intro event member
      cases member
    · intro earlier same
      cases same
  · intro i world command answer after _ heed _ law
    obtain ⟨-, decides, rfl⟩ := law
    intro j
    by_cases own : j = i
    · subst own
      simpa only [Function.update_self] using (heed j).call (decides · ·)
    · simpa only [Function.update_of_ne own] using heed j
  · intro world after heed moves
    exact heed.moves moves

theorem Reachable.sequenced (reachable : Reachable configs limits config) (i : ι) :
    Guarded (· = []) (fun (trace : Trace) command => trace.permits (configs i) command ∧
      trace.sequenced (configs i) command) Trace.answers (config.world.logs i) := by
  apply (Family.Reachable.lawful views (fun i => session_sequenced (configs i)) _ reachable i).2
  intro world first j
  rw [first]

/-- In every run, every order that has been sent is within the limits of its guard. Once the switch of a
guard has been engaged its session sends at most one more order, and only one whose request the guard
had consented to before, with no order sent in between. -/
theorem kill_switch_heeded (reachable : Reachable configs limits config) (i : ι) :
    (∀ request answer, (⟨.placeOrder request, answer⟩ : Event) ∈ config.world.logs i →
      (limits i).Admits request) ∧
    ∀ earlier, config.world.engaged i = some earlier → ∃ recent,
      config.world.logs i = recent ++ earlier ∧ recent.countP Event.isPlacement ≤ 1 ∧
        ∀ request answer, (⟨.placeOrder request, answer⟩ : Event) ∈ recent →
          ∃ before event rest, earlier = before ++ event :: rest ∧ Event.Consents request event ∧
            ∀ event ∈ before, event.isPlacement = false := by
  have heeded := reachable.heed i
  have sequenced := reachable.sequenced i
  -- the consent that an order rests on
  have rests {newer older : Trace} {request : ExecutionRequest} {answer : Except Exc Int}
      (split : config.world.logs i = newer ++ ⟨.placeOrder request, answer⟩ :: older) :
      ∃ before event rest, older = before ++ event :: rest ∧ Event.Consents request event ∧
        ∀ event ∈ before, event.isPlacement = false := by
    rw [split] at sequenced
    exact (Guarded.earlier sequenced).2.consent
  constructor
  · intro request answer sent
    obtain ⟨newer, older, split⟩ := List.append_of_mem sent
    obtain ⟨before, event, rest, rfl, consents, -⟩ := rests split
    apply heeded.admits event _ request consents
    rw [split]
    simp
  · intro earlier engaged
    obtain ⟨recent, log, none⟩ := heeded.since earlier engaged
    -- an order that is sent after the switch rests on a consent from before it
    have late {newer older : Trace} {request : ExecutionRequest} {answer : Except Exc Int}
        (split : recent = newer ++ ⟨.placeOrder request, answer⟩ :: older) :
        older.countP Event.isPlacement = 0 ∧ ∃ before event rest, earlier = before ++ event :: rest ∧
          Event.Consents request event ∧ ∀ event ∈ before, event.isPlacement = false := by
      have whole : config.world.logs i =
          newer ++ ⟨.placeOrder request, answer⟩ :: (older ++ earlier) := by
        rw [log, split, List.append_assoc]
        rfl
      obtain ⟨before, event, rest, same, consents, silent⟩ := rests whole
      have missing : event ∉ older := by
        intro member
        apply none event _ request consents
        rw [split]
        simp [member]
      obtain ⟨middle, rfl, older'⟩ := split_older same.symm missing
      refine ⟨?_, middle, event, rest, older', consents, ?_⟩
      · apply List.countP_eq_zero.2
        intro other member
        rw [silent other (List.mem_append_left _ member)]
        exact Bool.false_ne_true
      · intro other member
        exact silent other (List.mem_append_right _ member)
    refine ⟨recent, log, ?_, ?_⟩
    · apply countP_le_one
      intro newer event older split placement
      obtain ⟨command, answer⟩ := event
      cases command with
      | placeOrder request => exact (late split).1
      | _ => cases placement
    · intro request answer sent
      obtain ⟨newer, older, split⟩ := List.append_of_mem sent
      exact (late split).2

def respond (i : ι) (replies : Replies) : Responder Command Result Exc (Watched ι) :=
  fun world command =>
    let reply : Except Exc (Result command) := match command with
      | .verify request => (world.guards i).verify (fun _ => replies.precheck) request
      | command => replies.answer (world.logs i) command
    (reply, { world with logs := Function.update world.logs i (⟨command, reply⟩ :: world.logs i) })

theorem responds (i : ι) : Responds (respond i) (Watched.answers i) := by
  intro replies world command
  cases command with
  | verify request =>
      refine ⟨trivial, ?_, rfl⟩
      intro other reply same
      cases same
      exact ⟨fun _ => replies.precheck, rfl⟩
  | _ =>
      refine ⟨replies.fileLaw _ _, ?_, rfl⟩
      intro other reply same
      cases same

def sampleLimits : ExecutionLimits :=
  ⟨["510300.SH"], 1000, 10000, by decide, by decide, by decide, by norm_num⟩

def watched (deeds : List SessionDeed)
    (config : Config Command Result SessionState Exc Operation (Option ExecutionSnapshot) Unit
      (Watched Unit)) : Config Command Result SessionState Exc Operation (Option ExecutionSnapshot)
        Unit (Watched Unit) :=
  (deeds.map fun deed => ((), deed)).foldl (Family.act (fun _ => sessionClass sharedConfig) respond)
    config

def unstarted : Config Command Result SessionState Exc Operation (Option ExecutionSnapshot) Unit
    (Watched Unit) :=
  ⟨fun _ => .down, fun _ => [], fun _ => { limits := sampleLimits }, fun _ => none⟩

def approaching : Config Command Result SessionState Exc Operation (Option ExecutionSnapshot) Unit
    (Watched Unit) :=
  watched ([.start] ++ call .openSession ++ [.invoke (.submit sampleRequest), .answer 11 {}]) unstarted

def engagedWorld : Watched Unit := { approaching.world with
  guards := Function.update approaching.world.guards () (approaching.world.guards ()).engageKillSwitch
  engaged := Function.update approaching.world.engaged ()
    (some ((approaching.world.engaged ()).getD (approaching.world.logs ()))) }

def stopped : Config Command Result SessionState Exc Operation (Option ExecutionSnapshot) Unit
    (Watched Unit) :=
  watched ([.answer 100 { order := .ok (sampleOrder .filled 100) }, .finish] ++ call .nextCycle ++
    call (.submit laterRequest)) ⟨approaching.phase, engagedWorld⟩

theorem kill_switch_heeded_stopped : sampleLimits.Admits sampleRequest ∧
    ∃ earlier recent, stopped.world.engaged () = some earlier ∧
      stopped.world.logs () = recent ++ earlier ∧ recent.countP Event.isPlacement ≤ 1 := by
  have first : Reachable (fun _ => sharedConfig) (fun _ => sampleLimits) unstarted := .initial _ rfl
  have approached : Reachable (fun _ => sharedConfig) (fun _ => sampleLimits) approaching :=
    first.acts responds _
  have engaged : Reachable (fun _ => sharedConfig) (fun _ => sampleLimits)
      ⟨approaching.phase, engagedWorld⟩ :=
    .step _ _ approached (.environment _ engagedWorld (.engage ()))
  have reachable : Reachable (fun _ => sharedConfig) (fun _ => sampleLimits) stopped :=
    engaged.acts responds _
  obtain ⟨admits, heeds⟩ := kill_switch_heeded reachable ()
  constructor
  · have sent : (stopped.world.logs ()).any (fun event =>
        event.command = .placeOrder sampleRequest) = true := by decide +kernel
    obtain ⟨⟨command, answer⟩, member, same⟩ := List.any_eq_true.1 sent
    cases of_decide_eq_true same
    exact admits sampleRequest answer member
  · have engaged : (stopped.world.engaged ()).isSome = true := by decide +kernel
    obtain ⟨earlier, same⟩ := Option.isSome_iff_exists.1 engaged
    obtain ⟨recent, log, one, -⟩ := heeds earlier same
    exact ⟨earlier, recent, same, log, one⟩

end Watched

end QmtExecution
