import QmtExecution.Guarantees.Reopening
import QmtExecution.MiniQmt.Held
import QmtExecution.MiniQmt.Runtime

/-! What `connect` and `close` leave locked, leased and running, whatever raises on the way. -/

namespace QmtExecution.MiniQmt

open Interaction Method MiniQmtRuntime SessionIds

/-- The event queue with the answer of `Thread.start`, the locks that this process holds, and the
traders that were created and not asked to stop since. -/
structure RuntimeWorld where
  queue : SerialEventQueue Unit
  threadStart : Option (Except Exc Unit) := none
  runtimeMutex : Bool := false
  leases : LeaseWorld Unit := .empty
  running : List ℕ := []

namespace RuntimeWorld

variable {world after : RuntimeWorld}

def effect (world : RuntimeWorld) (command : RuntimeCommand)
    (answer : Except Exc (RuntimeResult command)) : RuntimeWorld :=
  match command, answer with
  | .runtimeMutexAcquire, .ok _ => { world with runtimeMutex := true }
  | .runtimeMutexRelease, .ok _ => { world with runtimeMutex := false }
  | .lease command, answer => { world with leases := world.leases.after command answer }
  | .traderFactory _, .ok (some trader) => { world with running := trader :: world.running }
  | .traderStop trader, _ => { world with running := world.running.filter (· ≠ trader) }
  | .queueStart, created =>
      { world with queue := (world.queue.start created).2, threadStart := some created }
  | .queueStop, _ => { world with queue := world.queue.stop }
  | _, _ => world

/-- Releasing a lock does not fail, and the queue answers as it does. The flags are also written by
the thread of the queue, so one that is read may have either value. -/
def Lawful (world : RuntimeWorld) (command : RuntimeCommand)
    (answer : Except Exc (RuntimeResult command)) : Prop :=
  match command, answer with
  | .runtimeMutexRelease, answer => answer = .ok ()
  | .lease command, answer => world.leases.Tolerates command answer
  | .get _, answer => ∃ value, answer = .ok value
  | .set _ _, answer => answer = .ok ()
  | .session .mutexRelease, answer => answer = .ok ()
  | .queueStart, answer => answer = (world.queue.start answer).1
  | .queueStop, answer => answer = .ok ()
  | .queueJoin onWorker, answer => answer = world.queue.join onWorker
  | _, _ => True

/-- What the other threads may make of the world meanwhile. -/
def Drifts (world after : RuntimeWorld) : Prop :=
  ∃ queue, world.queue.Drifts queue ∧ after = { world with queue }

def answers (world : RuntimeWorld) (command : RuntimeCommand)
    (answer : Except Exc (RuntimeResult command)) (after : RuntimeWorld) : Prop :=
  world.Lawful command answer ∧ (world.effect command answer).Drifts after

theorem Drifts.thread (drifts : world.Drifts after) : after.queue.thread = world.queue.thread := by
  obtain ⟨queue, drifted, rfl⟩ := drifts
  exact drifted.1

theorem Drifts.trans {middle : RuntimeWorld} (first : world.Drifts middle)
    (second : middle.Drifts after) : world.Drifts after := by
  obtain ⟨queue, ⟨thread, state⟩, rfl⟩ := first
  obtain ⟨last, ⟨thread', state'⟩, rfl⟩ := second
  refine ⟨last, ⟨thread'.trans thread, ?_⟩, rfl⟩
  rcases state' with same | ⟨other, failed⟩
  · rw [same]
    exact state
  · rcases state with same | ⟨started, -⟩
    · exact .inr ⟨fun fresh => other (same.trans fresh), failed⟩
    · exact .inr ⟨started, failed⟩

theorem Drifts.halted (drifts : world.Drifts after) (halted : world.queue.state ≠ .running) :
    after.queue.state ≠ .running := by
  obtain ⟨queue, ⟨-, same | ⟨-, failed⟩⟩, rfl⟩ := drifts
  · rw [same]
    exact halted
  · rw [failed]
    decide

/-- `Thread.start` has raised. -/
def Unstarted (world : RuntimeWorld) : Prop := ∃ exc, world.threadStart = some (.error exc)

def Running (world : RuntimeWorld) : Prop :=
  world.queue.thread = .started ∧ world.threadStart = some (.ok ())

theorem Running.started (running : world.Running) : ¬ world.Unstarted := by
  rintro ⟨exc, raised⟩
  cases running.2.symm.trans raised

theorem Running.drifts (running : world.Running) (drifts : world.Drifts after) : after.Running := by
  refine ⟨drifts.thread.trans running.1, ?_⟩
  obtain ⟨queue, -, rfl⟩ := drifts
  exact running.2

end RuntimeWorld

abbrev Ends {α : Type} (method : RuntimeM α) (self : RuntimeState) (world : RuntimeWorld)
    (ok : α → RuntimeState → RuntimeWorld → Prop)
    (err : Exc → RuntimeState → RuntimeWorld → Prop) : Prop :=
  method.Meets (fun _ _ => True) RuntimeWorld.answers self world ok err

variable {α β : Type} {self : RuntimeState} {world : RuntimeWorld} {config : MiniQmtRuntimeConfig}
  {ok : α → RuntimeState → RuntimeWorld → Prop} {err : Exc → RuntimeState → RuntimeWorld → Prop}

theorem ends_ask {command : RuntimeCommand}
    {ok : RuntimeResult command → RuntimeState → RuntimeWorld → Prop}
    (returned : ∀ value after, world.Lawful command (.ok value) →
      (world.effect command (.ok value)).Drifts after → ok value self after)
    (raised : ∀ exc after, world.Lawful command (.error exc) →
      (world.effect command (.error exc)).Drifts after → err exc self after) :
    Ends (MiniQmtRuntime.ask command) self world ok err :=
  (meets_perform command).2 ⟨trivial, fun value after law => returned value after law.1 law.2,
    fun exc after law => raised exc after law.1 law.2⟩

theorem ends_bind {method : RuntimeM β} {next : β → RuntimeM α}
    {between : β → RuntimeState → RuntimeWorld → Prop} (first : Ends method self world between err)
    (rest : ∀ value self world, between value self world → Ends (next value) self world ok err) :
    Ends (method >>= next) self world ok err :=
  (meets_bind _ _).2 (Meets.weaken first rest fun _ _ _ post => post)

theorem ends_sure {method : RuntimeM β} {next : β → RuntimeM α}
    {between : β → RuntimeState → RuntimeWorld → Prop}
    (first : Ends method self world between (fun _ _ _ => False))
    (rest : ∀ value self world, between value self world → Ends (next value) self world ok err) :
    Ends (method >>= next) self world ok err :=
  ends_bind (Meets.weaken first (fun _ _ _ post => post) fun _ _ _ impossible => impossible.elim) rest

theorem ends_update {change : RuntimeState → RuntimeState} {next : Unit → RuntimeM α}
    (rest : Ends (next ()) (change self) world ok err) :
    Ends (update change >>= next) self world ok err := (meets_bind _ _).2 rest

theorem ends_read {next : RuntimeState → RuntimeM α} (rest : Ends (next self) self world ok err) :
    Ends (Method.read >>= next) self world ok err := (meets_bind _ _).2 rest

def Steady (fact : RuntimeState → RuntimeWorld → Prop) : Prop :=
  ∀ self world after, fact self world → world.Drifts after → fact self after

def Maintains (fact : RuntimeState → RuntimeWorld → Prop) (method : RuntimeM α) : Prop :=
  ∀ self world, fact self world → Ends method self world (fun _ => fact) (fun _ => fact)

section Maintains

variable {fact : RuntimeState → RuntimeWorld → Prop}

theorem maintains_pure (value : α) : Maintains fact (pure value : RuntimeM α) :=
  fun _ _ held => held

theorem maintains_raise (exc : Exc) : Maintains fact (raise exc : RuntimeM α) :=
  fun _ _ held => held

theorem maintains_ofExcept (outcome : Except Exc α) :
    Maintains fact (Method.ofExcept outcome : RuntimeM α) := by
  cases outcome with
  | ok value => exact maintains_pure value
  | error exc => exact maintains_raise exc

theorem maintains_bind {method : RuntimeM β} {next : β → RuntimeM α}
    (first : Maintains fact method) (rest : ∀ value, Maintains fact (next value)) :
    Maintains fact (method >>= next) :=
  fun self world held => ends_bind (first self world held) fun value self world => rest value self world

theorem maintains_read : Maintains fact (Method.read : RuntimeM RuntimeState) :=
  fun _ _ held => held

theorem maintains_ask (steady : Steady fact) {command : RuntimeCommand}
    (plain : ∀ world answer, RuntimeWorld.effect world command answer = world) :
    Maintains fact (MiniQmtRuntime.ask command) := by
  intro self world held
  apply ends_ask
  · intro value after _ drifts
    rw [plain] at drifts
    exact steady self world after held drifts
  · intro exc after _ drifts
    rw [plain] at drifts
    exact steady self world after held drifts

theorem maintains_startTrader (steady : Steady fact) (trader : Option ℕ) :
    Maintains fact (startTrader trader) := by
  cases trader with
  | none => exact maintains_raise _
  | some trader =>
      apply maintains_bind (maintains_ask steady fun _ _ => rfl)
      intro registers
      cases registers with
      | false => exact maintains_raise _
      | true =>
          refine maintains_bind (maintains_ask steady fun _ _ => rfl) fun _ => ?_
          refine maintains_bind (maintains_ask steady fun _ _ => rfl) fun _ => ?_
          exact maintains_bind (maintains_ask steady fun _ _ => rfl) fun _ => maintains_ofExcept _

end Maintains

theorem ends_onSession {method : SessionM α} {session : SessionState} {kept : SessionState → Prop}
    {frame : RuntimeWorld → Prop} (stored : self.session = some session)
    (results : method.Meets (fun (_ : Unit) _ => True) (fun _ _ _ _ => True) session ()
      (fun _ after _ => kept after) (fun _ after _ => kept after))
    (steady : ∀ before after, frame before → RuntimeWorld.Drifts before after → frame after)
    (held : frame world) :
    Ends (onSession method) self world
      (fun _ after world => ∃ session, kept session ∧
        after = { self with session := some session } ∧ frame world)
      (fun _ after world => ∃ session, kept session ∧
        after = { self with session := some session } ∧ frame world) := by
  have leaves : (method session).Obeys (fun (_ : Unit) _ => True) (fun _ _ _ _ => True)
      (fun result _ => kept result.2) () := by
    apply Program.Obeys.weaken results
    intro result _ post
    rcases result with ⟨_ | _, _⟩
    · exact post
    · exact post
  unfold Ends Meets onSession
  rw [stored]
  apply (Program.obeys_bind _ _ _ _).2
  apply Program.Obeys.weaken (Program.Obeys.within (fun _ => ()) leaves
    (fun before command answer after framed law => ⟨trivial, steady before after framed law.2⟩) held)
  intro result after post
  rcases result with ⟨_ | _, last⟩
  · exact ⟨last, post.1, rfl, post.2⟩
  · exact ⟨last, post.1, rfl, post.2⟩

theorem ends_onLeases {method : LeaseM α} {ok : α → LeaseWorld Unit → Prop}
    {err : LeaseWorld Unit → Prop} (locks : Locks method world.leases ok err) :
    Ends (onLeases method) self world
      (fun value after world' => self = after ∧ ok value world'.leases ∧
        { world with leases := world'.leases }.Drifts world')
      (fun _ after world' => self = after ∧ err world'.leases ∧
        { world with leases := world'.leases }.Drifts world') := by
  have kept : ∀ (before : RuntimeWorld) command answer (after : RuntimeWorld),
      { world with leases := before.leases }.Drifts before →
      before.answers (.lease command) answer after →
      (before.leases.Tolerates command answer ∧ after.leases = before.leases.after command answer) ∧
        { world with leases := after.leases }.Drifts after := by
    rintro before command answer after ⟨queue, drifted, same⟩ ⟨tolerated, later⟩
    have first : RuntimeWorld.Drifts { world with leases := before.leases.after command answer }
        { before with leases := before.leases.after command answer } :=
      ⟨queue, drifted, by rw [same]⟩
    have leases : after.leases = before.leases.after command answer := by
      obtain ⟨last, -, rfl⟩ := later
      rfl
    rw [leases]
    exact ⟨⟨tolerated, rfl⟩, first.trans later⟩
  unfold Ends Meets onLeases
  apply (Program.obeys_bind _ _ _ _).2
  apply Program.Obeys.weaken (Program.Obeys.within (fun world : RuntimeWorld => world.leases) locks kept
    ⟨world.queue, ⟨rfl, .inl rfl⟩, rfl⟩)
  intro result after post
  rcases result with ⟨_ | _, last⟩
  · exact ⟨rfl, post.1, post.2⟩
  · exact ⟨rfl, post.1, post.2⟩

/-- What the `except` clause of `connect` can rely on. Where `Thread.start` has raised, nothing but
the exclusive lock is held. -/
structure Owned (config : MiniQmtRuntimeConfig) (runtime : RuntimeState) (world : RuntimeWorld) :
    Prop where
  mutex : world.runtimeMutex = true ↔ runtime.runtimeMutex = some true
  leases : world.leases.HeldBy runtime.sessionIdLease
  running : ∀ trader ∈ world.running, runtime.trader = some trader
  session : ∀ session, runtime.session = some session → session.closed = false
  thread : world.queue.thread = .created ↔ world.Unstarted
  unstarted : world.Unstarted → runtime.session = none ∧ world.leases.Idle ∧
    world.running = [] ∧ (world.runtimeMutex = true ↔ config.runtimeLockMode = .exclusive)

/-- A runtime that `connect` has returned: exactly one lease in shared mode, and the runtime mutex
in exclusive mode. -/
structure Holding (config : MiniQmtRuntimeConfig) (runtime : RuntimeState) (world : RuntimeWorld) :
    Prop where
  mutex : world.runtimeMutex = true ↔ runtime.runtimeMutex = some true
  leases : world.leases.HeldBy runtime.sessionIdLease
  thread : world.Running
  unclosed : runtime.closed = false
  exclusive : config.runtimeLockMode = .exclusive → world.runtimeMutex = true ∧ world.leases.Idle
  shared : config.runtimeLockMode = .shared → world.runtimeMutex = false ∧
    ∃ lease, world.leases.Only lease

structure Connected (config : MiniQmtRuntimeConfig) (runtime : RuntimeState) (world : RuntimeWorld) :
    Prop extends Holding config runtime world where
  running : ∀ trader ∈ world.running, runtime.trader = some trader
  session : ∀ session, runtime.session = some session → session.closed = false

theorem Connected.owned (connected : Connected config self world) : Owned config self world where
  mutex := connected.mutex
  leases := connected.leases
  running := connected.running
  session := connected.session
  thread := by
    simp only [connected.thread.1, connected.thread.started, iff_false]
    decide
  unstarted raised := absurd raised connected.thread.started

theorem steady_owned : Steady (Owned config) := by
  intro self world after owned drifts
  have thread := drifts.thread
  obtain ⟨queue, -, rfl⟩ := drifts
  exact { owned with thread := thread ▸ owned.thread }

theorem steady_holding : Steady (Holding config) := by
  intro self world after holding drifts
  have thread := holding.thread.drifts drifts
  obtain ⟨queue, -, rfl⟩ := drifts
  exact { holding with thread := thread }

theorem steady_connected : Steady (Connected config) := by
  intro self world after connected drifts
  have holding := steady_holding self world after connected.toHolding drifts
  obtain ⟨queue, -, rfl⟩ := drifts
  exact { holding with running := connected.running, session := connected.session }

/-- In a turn of the loop over the candidates only the candidate's own lease and trader are held. -/
structure Trying (runtime : RuntimeState) (world : RuntimeWorld) : Prop where
  thread : world.Running
  unclosed : runtime.closed = false
  session : runtime.session = none
  trader : runtime.trader = none
  sessionIdLease : runtime.sessionIdLease = none
  mutex : runtime.runtimeMutex = none
  unlocked : world.runtimeMutex = false
  leases : world.leases.HeldBy runtime.lease
  running : ∀ trader ∈ world.running, runtime.candidateTrader = some trader

/-- Between two turns nothing is held. -/
def Searching (self : RuntimeState) (world : RuntimeWorld) : Prop :=
  Trying { self with lease := none, candidateTrader := none } world

theorem steady_trying : Steady Trying := by
  intro self world after trying drifts
  have thread := trying.thread.drifts drifts
  obtain ⟨queue, -, rfl⟩ := drifts
  exact { trying with thread := thread }

theorem Searching.owned (searching : Searching self world) : Owned config self world where
  mutex := by
    have none : self.runtimeMutex = none := searching.mutex
    simp [searching.unlocked, none]
  leases := by
    have none : self.sessionIdLease = none := searching.sessionIdLease
    rw [none]
    exact searching.leases
  running trader member := by cases searching.running trader member
  session session stored := by
    rw [searching.session] at stored
    cases stored
  thread := by
    have running : world.Running := searching.thread
    simp only [running.1, running.started, iff_false]
    decide
  unstarted raised := absurd raised searching.thread.started

theorem Trying.idle (trying : Trying self world) (fresh : self.candidateTrader = none) :
    world.running = [] := by
  apply List.eq_nil_iff_forall_not_mem.2
  intro trader member
  cases fresh.symm.trans (trying.running trader member)

theorem acquireExact_trying (host : LeaseHost) (allocator : BoundedSessionIdAllocator)
    (candidate : ℤ) (trying : Trying self world) (free : self.lease = none) :
    Ends (onLeases (allocator.acquireExact host candidate)) self world
      (fun lease after world => self = after ∧ Trying { self with lease := some lease } world)
      (fun _ => Trying) := by
  have idle : world.leases.Idle := by simpa [free, LeaseWorld.HeldBy] using trying.leases
  apply Meets.weaken (ends_onLeases (acquireExact_locks host allocator candidate idle))
  · rintro lease _ world' ⟨rfl, only, drifts⟩
    have leased : Trying { self with lease := some lease } { world with leases := world'.leases } :=
      { trying with leases := only }
    exact ⟨rfl, steady_trying _ _ _ leased drifts⟩
  · rintro exc _ world' ⟨rfl, idle', drifts⟩
    have kept : Trying self { world with leases := world'.leases } := { trying with
      leases := by
        rw [free]
        exact idle' }
    exact steady_trying _ _ _ kept drifts

theorem candidateBody_trying (host : LeaseHost) (allocator : BoundedSessionIdAllocator)
    (candidate : ℤ) (trying : Trying self world) (fresh : self.candidateTrader = none)
    (free : self.lease = none) :
    Ends (candidateBody host allocator candidate) self world
      (fun _ self world => Trying self world ∧ (∃ lease, self.lease = some lease) ∧
        ∃ trader, self.candidateTrader = some trader)
      (fun _ => Trying) := by
  apply ends_bind (acquireExact_trying host allocator candidate trying free)
  rintro lease _ world ⟨rfl, leased⟩
  apply ends_update
  have idle : world.running = [] := leased.idle fresh
  have made : Ends (MiniQmtRuntime.ask (.traderFactory candidate))
      { self with lease := some lease } world
      (fun trader after world => { self with lease := some lease } = after ∧
        Trying { self with lease := some lease, candidateTrader := trader } world)
      (fun _ => Trying) := by
    apply ends_ask
    · intro trader after _ drifts
      refine ⟨rfl, ?_⟩
      apply steady_trying _ _ _ _ drifts
      cases trader with
      | none => exact { leased with running := by simp [RuntimeWorld.effect, idle] }
      | some trader => exact { leased with running := by simp [RuntimeWorld.effect, idle] }
    · intro exc after _ drifts
      exact steady_trying _ _ _ leased drifts
  apply ends_bind made
  rintro trader _ world ⟨rfl, kept⟩
  apply ends_update
  cases trader with
  | none => exact kept
  | some trader =>
      have steady : Steady fun self world => Trying self world ∧
          (∃ lease, self.lease = some lease) ∧ ∃ trader, self.candidateTrader = some trader := by
        intro self world after facts drifts
        exact ⟨steady_trying _ _ _ facts.1 drifts, facts.2⟩
      have starts := maintains_startTrader steady (some trader) _ world
        ⟨kept, ⟨lease, rfl⟩, trader, rfl⟩
      exact Meets.weaken starts (fun _ _ _ post => post) fun _ _ _ post => post.1

theorem releaseLease_ends {lease : Option SessionIdLease} (leased : world.leases.HeldBy lease) :
    Ends (releaseLease lease) self world
      (fun _ after world' => self = after ∧ world'.leases.Idle ∧
        { world with leases := world'.leases }.Drifts world')
      (fun _ _ _ => False) := by
  cases lease with
  | none => exact ⟨rfl, leased, world.queue, ⟨rfl, .inl rfl⟩, rfl⟩
  | some lease =>
      apply Meets.weaken (ends_onLeases (release_locks leased))
      · rintro _ _ world' ⟨rfl, idle, drifts⟩
        exact ⟨rfl, idle, drifts⟩
      · rintro exc _ world' ⟨-, impossible, -⟩
        exact impossible

theorem stopTrader_ends (trader : Option ℕ) (running : ∀ other ∈ world.running, trader = some other) :
    Ends (stopTrader trader) self world
      (fun _ after world' => self = after ∧ { world with running := [] }.Drifts world')
      (fun _ _ _ => False) := by
  cases trader with
  | none =>
      have idle : world.running = [] := by
        apply List.eq_nil_iff_forall_not_mem.2
        intro other member
        cases running other member
      have same : world = { world with running := [] } := by rw [← idle]
      exact ⟨rfl, world.queue, ⟨rfl, .inl rfl⟩, same⟩
  | some trader =>
      have stopped : world.running.filter (· ≠ trader) = [] := by
        apply List.filter_eq_nil_iff.2
        intro other member
        cases running other member
        simp
      unfold stopTrader bestEffortStop
      simp only [Ends, meets_bind, meets_attempt]
      apply ends_ask
      · intro _ after _ drifts
        refine ⟨rfl, ?_⟩
        rw [← stopped]
        exact drifts
      · intro exc after _ drifts
        refine ⟨rfl, ?_⟩
        rw [← stopped]
        exact drifts

theorem undoCandidate_searching (trying : Trying self world) :
    Ends undoCandidate self world (fun _ => Searching) (fun _ _ _ => False) := by
  apply ends_read
  apply ends_bind (stopTrader_ends self.candidateTrader trying.running)
  rintro _ _ world' ⟨rfl, drifts⟩
  have stopped : Trying { self with candidateTrader := none } world' := by
    apply steady_trying _ _ _ _ drifts
    exact { trying with running := by simp }
  apply Meets.weaken (releaseLease_ends stopped.leases)
  · rintro _ _ world'' ⟨rfl, idle, later⟩
    have released : Trying { self with lease := none, candidateTrader := none }
        { world' with leases := world''.leases } := { stopped with leases := idle }
    exact steady_trying _ _ _ released later
  · intro _ _ _ impossible
    exact impossible

/-- The loop ends with what one candidate holds, or holds nothing. -/
theorem runCandidates_ends (host : LeaseHost) (allocator : BoundedSessionIdAllocator)
    (shared : config.runtimeLockMode = .shared) (exact : Bool) (candidates : List ℤ)
    (searching : Searching self world) :
    Ends (runCandidates host allocator exact candidates) self world
      (fun _ self world => Searching self world ∨ Connected config self world)
      (fun _ => Owned config) := by
  induction candidates generalizing self world with
  | nil => exact .inl searching
  | cons candidate rest ih =>
      apply ends_update
      apply (meets_bind _ _).2
      apply (meets_attempt _).2
      apply Meets.weaken (candidateBody_trying host allocator candidate searching rfl rfl)
      · rintro _ self world ⟨trying, ⟨lease, leased⟩, trader, made⟩
        right
        have unlocked : self.runtimeMutex = none := trying.mutex
        have only : world.leases.Only lease := by
          have leases := trying.leases
          rw [leased] at leases
          exact leases
        exact {
          mutex := by simp [trying.unlocked, unlocked]
          leases := trying.leases
          thread := trying.thread
          unclosed := trying.unclosed
          exclusive := fun other => by cases shared.symm.trans other
          shared := fun _ => ⟨trying.unlocked, lease, only⟩
          running := trying.running
          session := fun session stored => by cases trying.session.symm.trans stored }
      · intro exc self world trying
        apply ends_sure (undoCandidate_searching trying)
        intro _ self world searching
        cases exact with
        | true => exact searching.owned
        | false => exact ih searching

theorem connectShared_ends (host : LeaseHost) (shared : config.runtimeLockMode = .shared)
    (searching : Searching self world) :
    Ends (connectShared host config) self world (fun _ => Connected config)
      (fun _ => Owned config) := by
  have steady : Steady Searching := fun self world after searching drifts =>
    steady_trying _ world after searching drifts
  apply (meets_bind _ _).2
  apply Meets.weaken (maintains_ask steady (fun _ _ => rfl) self world searching)
  · intro _ self world searching
    apply (meets_bind _ _).2
    cases BoundedSessionIdAllocator.make host config.qmtPath config.sessionIdPoolStart
      config.sessionIdPoolSize config.sessionIdAttempts with
    | error exc => exact searching.owned
    | ok allocator =>
    apply (meets_ofExcept_ok _).2
    apply (meets_bind _ _).2
    cases config.candidateIds host allocator with
    | error exc => exact searching.owned
    | ok candidates =>
    apply (meets_ofExcept_ok _).2
    apply ends_bind (runCandidates_ends host allocator shared _ candidates searching)
    intro _ self world found
    apply ends_read
    split_ifs with missing
    · rcases found with searching | connected
      · exact searching.owned
      · exact connected.owned
    · rcases found with searching | connected
      · exact absurd (.inl searching.trader) missing
      · exact connected
  · intro _ self world searching
    exact searching.owned

theorem connectExclusive_ends (connected : Connected config self world)
    (fresh : self.trader = none) :
    Ends (connectExclusive config) self world (fun _ => Connected config)
      (fun _ => Connected config) := by
  have steady : Steady fun self world => Connected config self world ∧ self.trader = none := by
    intro self world after facts drifts
    exact ⟨steady_connected _ _ _ facts.1 drifts, facts.2⟩
  have chosen : Ends (exclusiveSessionId config) self world
      (fun _ self world => Connected config self world ∧ self.trader = none)
      (fun _ => Connected config) := by
    unfold exclusiveSessionId
    cases config.sessionId with
    | some sessionId => exact ⟨connected, fresh⟩
    | none =>
        apply Meets.weaken (maintains_ask steady (fun _ _ => rfl) self world ⟨connected, fresh⟩)
        · intro _ _ _ post
          exact post
        · intro _ _ _ post
          exact post.1
  apply ends_bind chosen
  rintro sessionId self world ⟨connected, fresh⟩
  apply ends_update
  have idle : world.running = [] := by
    apply List.eq_nil_iff_forall_not_mem.2
    intro trader member
    cases fresh.symm.trans (connected.running trader member)
  have made : Ends (MiniQmtRuntime.ask (.traderFactory sessionId))
      { self with actualSessionId := some sessionId } world
      (fun trader after world => { self with actualSessionId := some sessionId } = after ∧
        Connected config { self with actualSessionId := some sessionId, trader := trader } world)
      (fun _ => Connected config) := by
    apply ends_ask
    · intro trader after _ drifts
      refine ⟨rfl, ?_⟩
      apply steady_connected _ _ _ _ drifts
      cases trader with
      | none => exact { connected with running := by simp [RuntimeWorld.effect, idle] }
      | some trader => exact { connected with running := by simp [RuntimeWorld.effect, idle] }
    · intro exc after _ drifts
      apply steady_connected _ _ _ _ drifts
      exact { connected with }
  apply ends_bind made
  rintro trader _ world ⟨rfl, connected⟩
  apply ends_update
  exact maintains_startTrader steady_connected trader _ world connected

def RuntimeWorld.fresh (config : MiniQmtRuntimeConfig) : RuntimeWorld where
  queue := { maxsize := config.eventQueueSize, maxsize_pos := config.eventQueueSize_pos }

structure Prepared (owned : Option Bool) (runtime : RuntimeState) (world : RuntimeWorld) : Prop where
  state : world.queue.state = .new
  thread : world.queue.thread = .absent
  threadStart : world.threadStart = none
  names : runtime = { runtimeMutex := owned }
  mutex : world.runtimeMutex = true ↔ owned = some true
  leases : world.leases.Idle
  running : world.running = []

/-- What `runtime_mutex` is when the queue is started. -/
def lockOf (config : MiniQmtRuntimeConfig) : Option Bool :=
  match config.runtimeLockMode with
  | .exclusive => some true
  | .shared => none

theorem steady_prepared (owned : Option Bool) : Steady (Prepared owned) := by
  intro self world after prepared drifts
  have thread := drifts.thread
  obtain ⟨queue, drifted, rfl⟩ := drifts
  refine { prepared with thread := thread.trans prepared.thread, state := ?_ }
  rcases drifted.2 with same | ⟨other, -⟩
  · exact same.trans prepared.state
  · exact absurd prepared.state other

theorem idle_running {running : List ℕ} {fact : ℕ → Prop} (idle : running = []) :
    ∀ trader ∈ running, fact trader := by
  intro trader member
  rw [idle] at member
  cases member

theorem Prepared.owned {owned : Option Bool} (prepared : Prepared owned self world) :
    Owned config self world := by
  obtain ⟨state, thread, unasked, rfl, mutex, leases, running⟩ := prepared
  exact {
    mutex := mutex
    leases := leases
    running := idle_running running
    session := fun session stored => by cases stored
    thread := by simp [thread, RuntimeWorld.Unstarted, unasked]
    unstarted := by
      rintro ⟨exc, raised⟩
      cases unasked.symm.trans raised }

def Started (config : MiniQmtRuntimeConfig) (self : RuntimeState) (world : RuntimeWorld) : Prop :=
  match config.runtimeLockMode with
  | .exclusive => Connected config self world ∧ self.trader = none
  | .shared => Searching self world

theorem lockRuntime_ends (prepared : Prepared none self world) :
    Ends (lockRuntime config) self world (fun _ => Prepared (lockOf config))
      (fun _ => Owned config) := by
  unfold lockRuntime lockOf
  cases config.runtimeLockMode with
  | shared => exact prepared
  | exclusive =>
      obtain ⟨state, thread, unasked, rfl, mutex, leases, running⟩ := prepared
      have unlocked : world.runtimeMutex = false := by simpa using mutex
      apply ends_update
      apply (meets_bind _ _).2
      apply ends_ask
      · intro _ after _ drifts
        have taken : Prepared (some true) { runtimeMutex := some true }
            { world with runtimeMutex := true } :=
          ⟨state, thread, unasked, rfl, by simp, leases, running⟩
        exact steady_prepared _ _ _ _ taken drifts
      · intro exc after _ drifts
        have freed : Prepared (some false) { runtimeMutex := some false } world :=
          ⟨state, thread, unasked, rfl, by simp [unlocked], leases, running⟩
        exact (steady_prepared _ _ _ _ freed drifts).owned

theorem queueStart_ends (prepared : Prepared (lockOf config) self world) :
    Ends (MiniQmtRuntime.ask .queueStart) self world (fun _ => Started config)
      (fun _ => Owned config) := by
  obtain ⟨state, thread, unasked, rfl, mutex, leases, running⟩ := prepared
  apply ends_ask
  · intro _ after lawful drifts
    have started : after.Running := by
      refine RuntimeWorld.Running.drifts ⟨?_, rfl⟩ drifts
      simp [RuntimeWorld.effect, SerialEventQueue.start, state]
    obtain ⟨queue, -, rfl⟩ := drifts
    unfold lockOf at mutex
    unfold Started
    cases mode : config.runtimeLockMode with
    | exclusive =>
        have owned : world.runtimeMutex = true := by simpa [mode] using mutex
        refine ⟨{
          mutex := by simp [RuntimeWorld.effect, lockOf, mode, owned]
          leases := leases
          thread := started
          unclosed := rfl
          exclusive := fun _ => ⟨owned, leases⟩
          shared := fun other => by cases mode.symm.trans other
          running := idle_running running
          session := fun session stored => by cases stored }, rfl⟩
    | shared =>
        have unlocked : world.runtimeMutex = false := by simpa [mode] using mutex
        exact {
          thread := started
          unclosed := rfl
          session := rfl
          trader := rfl
          sessionIdLease := rfl
          mutex := by simp [lockOf, mode]
          unlocked := unlocked
          leases := leases
          running := idle_running running }
  · intro exc after lawful drifts
    have created : after.queue.thread = .created := by
      rw [drifts.thread]
      simp [RuntimeWorld.effect, SerialEventQueue.start, state]
    obtain ⟨queue, -, rfl⟩ := drifts
    refine {
      mutex := mutex
      leases := leases
      running := idle_running running
      session := fun session stored => by cases stored
      thread := iff_of_true created ⟨exc, rfl⟩
      unstarted := fun _ => ⟨rfl, leases, running, mutex.trans ?_⟩ }
    unfold lockOf
    cases config.runtimeLockMode <;> simp

theorem connectTrader_ends (host : LeaseHost) (started : Started config self world) :
    Ends (connectTrader host config) self world (fun _ => Connected config)
      (fun _ => Owned config) := by
  unfold Started at started
  unfold connectTrader
  cases mode : config.runtimeLockMode with
  | shared =>
      rw [mode] at started
      exact connectShared_ends host mode started
  | exclusive =>
      rw [mode] at started
      apply Meets.weaken (connectExclusive_ends started.1 started.2)
      · intro _ _ _ connected
        exact connected
      · intro _ _ _ connected
        exact connected.owned

theorem maintains_open (config : MiniQmtRuntimeConfig) :
    Maintains (Connected config) (onSession (runOperation config.session .openSession)) := by
  intro self world connected
  cases stored : self.session with
  | none =>
      unfold Ends Meets onSession
      rw [stored]
      exact connected
  | some session =>
      have robust : Robust fun session : SessionState => session.closed = false :=
        ⟨fun _ _ same => same, fun _ _ same => same, fun _ same => same, fun _ _ same => same⟩
      have opens : (runOperation config.session .openSession).Preserves
          fun session : SessionState => session.closed = false :=
        robust.admits.operation (by decide) fun _ => nofun
      have results := opens.meets session (connected.session session stored)
      have later (session : SessionState) (world : RuntimeWorld) (unclosed : session.closed = false)
          (connected : Connected config self world) :
          Connected config { self with session := some session } world :=
        { connected with session := fun other same => by cases same; exact unclosed }
      apply Meets.weaken (ends_onSession stored results (fun before after connected drifts =>
        steady_connected self before after connected drifts) connected)
      · rintro _ _ world ⟨session, unclosed, rfl, connected⟩
        exact later session world unclosed connected
      · rintro _ _ world ⟨session, unclosed, rfl, connected⟩
        exact later session world unclosed connected

theorem maintains_setFlag {fact : RuntimeState → RuntimeWorld → Prop} (steady : Steady fact)
    (flag : RuntimeFlag) (value : Bool) (shared : flag ≠ .closed) :
    Maintains fact (setFlag flag value) := by
  cases flag with
  | closed => exact absurd rfl shared
  | _ => exact maintains_ask steady fun _ _ => rfl

theorem maintains_withTrader {fact : RuntimeState → RuntimeWorld → Prop} {action : ℕ → RuntimeM α}
    (body : ∀ trader, Maintains fact (action trader)) : Maintains fact (withTrader action) := by
  apply maintains_bind maintains_read
  intro self
  cases self.trader with
  | none => exact maintains_raise _
  | some trader => exact body trader

theorem maintains_openRuntime (host : LeaseHost) (config : MiniQmtRuntimeConfig) :
    Maintains (Connected config) (steps host config false).openRuntime := by
  have checked : Maintains (Connected config) (steps host config false).requireNotClosed := by
    apply maintains_bind (maintains_bind maintains_read fun _ => maintains_pure _)
    intro closed
    split_ifs
    · exact maintains_raise _
    · exact maintains_pure _
  refine maintains_bind checked fun _ => ?_
  refine maintains_bind (maintains_withTrader fun _ => maintains_ask steady_connected
    fun _ _ => rfl) fun _ => ?_
  refine maintains_bind (maintains_bind (maintains_open config) fun _ => maintains_pure _) fun _ => ?_
  have sets := maintains_setFlag (steady_connected : Steady (Connected config))
  refine maintains_bind (sets .transportConnected true (by decide)) fun _ => ?_
  refine maintains_bind (sets .accountHealthy true (by decide)) fun _ => ?_
  refine maintains_bind (maintains_bind (sets .brokerConnected true (by decide)) fun _ =>
    sets .recoveryReady false (by decide)) fun _ => ?_
  -- a disconnect may have been handled since `mark_transport_connected`
  apply maintains_bind (maintains_ask steady_connected fun _ _ => rfl)
  intro connected
  split_ifs
  · exact maintains_raise _
  · exact sets .recoveryReady true (by decide)

theorem Maintains.connected {method : RuntimeM α} (maintains : Maintains (Connected config) method)
    (connected : Connected config self world) :
    Ends method self world (fun _ => Connected config) (fun _ => Owned config) :=
  Meets.weaken (maintains self world connected) (fun _ _ _ connected => connected)
    fun _ _ _ connected => connected.owned

theorem connectBody_ends (host : LeaseHost) (autoOpen : Bool) (prepared : Prepared none self world) :
    Ends ((steps host config false).connectBody autoOpen) self world (fun _ => Connected config)
      (fun _ => Owned config) := by
  apply ends_bind (lockRuntime_ends prepared)
  intro _ self world prepared
  apply ends_bind (queueStart_ends prepared)
  intro _ self world started
  apply ends_bind (connectTrader_ends host started)
  intro _ self world connected
  refine Maintains.connected ?_ connected
  have asks {command : RuntimeCommand}
      (plain : ∀ world answer, RuntimeWorld.effect world command answer = world) :
      Maintains (Connected config) (MiniQmtRuntime.ask command) := maintains_ask steady_connected plain
  have sets := maintains_setFlag (steady_connected : Steady (Connected config))
  refine maintains_bind (sets .transportConnected true (by decide)) fun _ => ?_
  refine maintains_bind (maintains_withTrader fun _ => asks fun _ _ => rfl) fun _ => ?_
  refine maintains_bind (maintains_withTrader fun _ => asks fun _ _ => rfl) fun code => ?_
  refine maintains_bind (maintains_ofExcept _) fun _ => ?_
  refine maintains_bind (sets .accountHealthy true (by decide)) fun _ => ?_
  refine maintains_bind (maintains_bind (asks fun _ _ => rfl) fun _ => asks fun _ _ => rfl) fun _ => ?_
  refine maintains_bind (maintains_bind (sets .brokerConnected true (by decide)) fun _ =>
    sets .recoveryReady false (by decide)) fun _ => ?_
  refine maintains_bind (maintains_bind (asks fun _ _ => rfl) fun _ => ?_) fun _ => ?_
  · intro self world connected
    exact { connected with session := fun session stored => by cases stored; rfl }
  refine maintains_bind (sets .runtime true (by decide)) fun _ => ?_
  cases autoOpen with
  | false => exact maintains_pure _
  | true => exact maintains_openRuntime host config

/-- Every lock is released, every trader was asked to stop, and the queue does not run. -/
structure Released (runtime : RuntimeState) (world : RuntimeWorld) : Prop where
  mutex : world.runtimeMutex = false
  leases : world.leases.Idle
  running : world.running = []
  queue : world.queue.state ≠ .running
  session : ∀ session, runtime.session = some session → session.mutexOwned = false

theorem close_frees {session : SessionState} (unclosed : session.closed = false) :
    ExecutionSession.close.Meets (fun (_ : Unit) _ => True) (fun _ _ _ _ => True) session ()
      (fun _ after _ => after.mutexOwned = false) (fun _ after _ => after.mutexOwned = false) := by
  unfold ExecutionSession.close ExecutionSession.mutexRelease
  simp only [meets_bind, meets_read, meets_ite, meets_pure, meets_update, unclosed,
    Bool.false_eq_true, false_implies, not_false_eq_true, true_implies, true_and]
  constructor
  · intro free
    simpa using free
  · intro _
    exact (meets_perform _).2 ⟨trivial, fun _ _ _ => rfl, fun _ _ _ => rfl⟩

structure Closing (config : MiniQmtRuntimeConfig) (runtime : RuntimeState) (world : RuntimeWorld) :
    Prop where
  mutex : world.runtimeMutex = true ↔ runtime.runtimeMutex = some true
  leases : world.leases.HeldBy runtime.sessionIdLease
  running : ∀ trader ∈ world.running, runtime.trader = some trader
  session : ∀ session, runtime.session = some session → session.mutexOwned = false
  thread : world.queue.thread = .created ↔ world.Unstarted
  unstarted : world.Unstarted → world.leases.Idle ∧ world.running = [] ∧
    (world.runtimeMutex = true ↔ config.runtimeLockMode = .exclusive)

theorem steady_closing : Steady (Closing config) := by
  intro self world after closing drifts
  have thread := drifts.thread
  obtain ⟨queue, -, rfl⟩ := drifts
  exact { closing with thread := thread ▸ closing.thread }

theorem Closing.stopped (closing : Closing config self world) :
    Closing config self { world with queue := world.queue.stop } := by
  have thread := SerialEventQueue.stop_thread world.queue
  exact { closing with thread := thread ▸ closing.thread }

theorem closeSession_ends (owned : Owned config self world) :
    Ends closeSession self world (fun _ => Closing config) (fun _ => Closing config) := by
  have closing (session : Option SessionState) (world : RuntimeWorld) (owned : Owned config self world)
      (free : ∀ closed, session = some closed → closed.mutexOwned = false) :
      Closing config { self with session := session } world :=
    { owned with
      session := free
      unstarted := fun raised => (owned.unstarted raised).2 }
  apply ends_read
  cases stored : self.session with
  | none =>
      have closed := closing none world owned fun _ same => by cases same
      rw [← stored] at closed
      exact closed
  | some session =>
      have results := close_frees (owned.session session stored)
      apply Meets.weaken (ends_onSession stored results (fun before after owned drifts =>
        steady_owned self before after owned drifts) owned)
      · rintro _ _ world ⟨session, free, rfl, owned⟩
        exact closing (some session) world owned fun _ same => by cases same; exact free
      · rintro _ _ world ⟨session, free, rfl, owned⟩
        exact closing (some session) world owned fun _ same => by cases same; exact free

theorem releaseRuntimeMutex_ends
    (mutex : world.runtimeMutex = true ↔ self.runtimeMutex = some true) :
    Ends releaseRuntimeMutex self world
      (fun _ after world' => after.session = self.session ∧
        { world with runtimeMutex := false }.Drifts world')
      (fun _ _ _ => False) := by
  apply ends_read
  split_ifs with owned
  · apply ends_update
    apply ends_ask
    · intro _ after _ drifts
      exact ⟨rfl, drifts⟩
    · intro exc after lawful _
      cases lawful
  · have unlocked : world.runtimeMutex = false := by simpa [owned] using mutex
    have same : world = { world with runtimeMutex := false } := by rw [← unlocked]
    exact ⟨rfl, world.queue, ⟨rfl, .inl rfl⟩, same⟩

theorem unlock_ends (leased : world.leases.HeldBy self.sessionIdLease)
    (mutex : world.runtimeMutex = true ↔ self.runtimeMutex = some true) :
    Ends (do releaseLease self.sessionIdLease; releaseRuntimeMutex) self world
      (fun _ after world' => after.session = self.session ∧ world'.leases.Idle ∧
        { world with leases := world'.leases, runtimeMutex := false }.Drifts world')
      (fun _ _ _ => False) := by
  apply ends_bind (releaseLease_ends leased)
  rintro _ _ world' ⟨rfl, idle, drifts⟩
  have mutex' : world'.runtimeMutex = true ↔ self.runtimeMutex = some true := by
    obtain ⟨queue, -, same⟩ := drifts
    rw [same]
    exact mutex
  apply Meets.weaken (releaseRuntimeMutex_ends mutex')
  · rintro _ self'' world'' ⟨session, later⟩
    have leases : world''.leases = world'.leases := by
      obtain ⟨queue, -, same⟩ := later
      rw [same]
    rw [leases]
    refine ⟨session, idle, ?_⟩
    obtain ⟨queue, drifted, same⟩ := drifts
    have first : RuntimeWorld.Drifts { world with leases := world'.leases, runtimeMutex := false }
        { world' with runtimeMutex := false } := ⟨queue, drifted, by rw [same]⟩
    exact first.trans later
  · intro _ _ _ impossible
    exact impossible

/-- `Thread.start` has raised while the runtime mutex was held. -/
def Stuck (config : MiniQmtRuntimeConfig) (world : RuntimeWorld) : Prop :=
  config.runtimeLockMode = .exclusive ∧ world.Unstarted

/-- What follows `event_queue.stop` gives everything back, unless joining the queue raises because
its thread never started. -/
theorem release_ends (closing : Closing config self world) (halted : world.queue.state ≠ .running) :
    Ends (release false) self world
      (fun _ self world => Released self world ∧ ¬ world.Unstarted)
      (fun _ self world => Released self world ↔ ¬ Stuck config world) := by
  apply (meets_bind _ _).2
  apply ends_ask
  · intro _ world₁ lawful drifts
    have joined : Except.ok () = world.queue.join false := lawful
    have closing₁ : Closing config self world₁ := steady_closing _ _ _ closing drifts
    have started : ¬ world₁.Unstarted := by
      intro raised
      have created : world.queue.thread = .created :=
        drifts.thread.symm.trans (closing₁.thread.2 raised)
      rw [SerialEventQueue.join, created] at joined
      cases joined
    have halted₁ : world₁.queue.state ≠ .running := drifts.halted halted
    apply ends_read
    apply ends_sure (stopTrader_ends self.trader closing₁.running)
    rintro _ _ world₂ ⟨rfl, stopped⟩
    have facts : world₂.leases.HeldBy self.sessionIdLease ∧
        (world₂.runtimeMutex = true ↔ self.runtimeMutex = some true) ∧ world₂.running = [] ∧
        ¬ world₂.Unstarted := by
      obtain ⟨queue, -, rfl⟩ := stopped
      exact ⟨closing₁.leases, closing₁.mutex, rfl, started⟩
    apply Meets.weaken (unlock_ends facts.1 facts.2.1)
    · rintro _ last world₃ ⟨session, idle, unlocked⟩
      have halted₃ : world₃.queue.state ≠ .running := unlocked.halted (stopped.halted halted₁)
      obtain ⟨queue, -, same⟩ := unlocked
      refine ⟨⟨?_, idle, ?_, halted₃, fun closed stored =>
        closing.session closed (session.symm.trans stored)⟩, ?_⟩
      · rw [same]
      · rw [same]
        exact facts.2.2.1
      · rw [same]
        exact facts.2.2.2
    · intro _ _ _ impossible
      exact impossible.elim
  · intro exc world₁ lawful drifts
    have joined : Except.error exc = world.queue.join false := lawful
    have closing₁ : Closing config self world₁ := steady_closing _ _ _ closing drifts
    have raised : world₁.Unstarted := by
      apply closing₁.thread.1
      apply drifts.thread.trans
      cases state : world.queue.thread with
      | created => exact state
      | absent =>
          rw [SerialEventQueue.join, state] at joined
          cases joined
      | started =>
          rw [SerialEventQueue.join, state] at joined
          cases joined
    obtain ⟨leases, running, mutex⟩ := closing₁.unstarted raised
    have halted₁ : world₁.queue.state ≠ .running := drifts.halted halted
    constructor
    · rintro released ⟨exclusive, -⟩
      cases released.mutex.symm.trans (mutex.2 exclusive)
    · intro free
      have unlocked : world₁.runtimeMutex = false := by
        cases locked : world₁.runtimeMutex with
        | false => rfl
        | true => exact absurd ⟨mutex.1 locked, raised⟩ free
      exact ⟨unlocked, leases, running, halted₁, closing₁.session⟩

/-- The `except` clause gives everything back but the runtime mutex of a thread that did not start. -/
theorem cleanUp_ends (host : LeaseHost) (owned : Owned config self world) (exc : Exc) :
    Ends (do
      let _ ← attempt (steps host config false).closeSession
      (steps host config false).queueStop
      (steps host config false).release
      raise exc : RuntimeM Unit) self world (fun _ _ _ => False)
      (fun _ self world => Released self world ↔ ¬ Stuck config world) := by
  have last (self : RuntimeState) (world : RuntimeWorld) (closing : Closing config self world) :
      Ends (do
        MiniQmtRuntime.ask .queueStop
        release false
        raise exc : RuntimeM Unit) self world (fun _ _ _ => False)
        (fun _ self world => Released self world ↔ ¬ Stuck config world) := by
    apply (meets_bind _ _).2
    apply ends_ask
    · intro _ world₁ _ drifts
      have halted : world₁.queue.state ≠ .running :=
        drifts.halted (SerialEventQueue.stop_state _)
      have closing₁ : Closing config self world₁ := steady_closing _ _ _ closing.stopped drifts
      apply ends_bind (release_ends closing₁ halted)
      rintro _ self world ⟨released, started⟩
      exact iff_of_true released fun stuck => started stuck.2
    · intro exc after lawful _
      cases lawful
  apply (meets_bind _ _).2
  apply (meets_attempt _).2
  apply Meets.weaken (closeSession_ends owned)
  · intro _ self world closing
    exact last self world closing
  · intro _ self world closing
    exact last self world closing

theorem Prepared.released (prepared : Prepared none self world) : Released self world := by
  obtain ⟨state, thread, unasked, rfl, mutex, leases, running⟩ := prepared
  exact {
    mutex := by simpa using mutex
    leases := leases
    running := running
    queue := by simp [state]
    session := fun session stored => by cases stored }

theorem idle_empty : (LeaseWorld.empty : LeaseWorld Unit).Idle := by
  intro mutex listed
  cases listed

theorem connect_ends (host : LeaseHost) (config : MiniQmtRuntimeConfig) (autoOpen : Bool) :
    Ends (connect host config autoOpen) {} (.fresh config) (fun _ => Holding config)
      (fun _ self world => Released self world ↔ ¬ Stuck config world) := by
  have prepared : Prepared none {} (.fresh config) :=
    ⟨rfl, rfl, rfl, rfl, by simp [RuntimeWorld.fresh], idle_empty, rfl⟩
  apply (meets_bind _ _).2
  apply Meets.weaken (maintains_ask (steady_prepared none) (fun _ _ => rfl) _ _ prepared)
  · intro _ self world prepared
    apply (meets_bind _ _).2
    apply (meets_attempt _).2
    apply Meets.weaken (connectBody_ends host autoOpen prepared)
    · intro _ self world connected
      exact connected.toHolding
    · intro exc self world owned
      apply Meets.weaken (cleanUp_ends host owned exc)
      · intro _ _ _ impossible
        exact impossible.elim
      · intro _ _ _ released
        exact released
  · intro exc self world prepared
    refine iff_of_true prepared.released ?_
    rintro ⟨-, raised, started⟩
    cases prepared.threadStart.symm.trans started

def Unlocked (world : RuntimeWorld) : Prop := world.runtimeMutex = false ∧ world.leases.Idle

theorem stopTrader_holding (trader : Option ℕ) (holding : Holding config self world) :
    Ends (stopTrader trader) self world (fun _ after world => self = after ∧ Holding config self world)
      (fun _ _ _ => False) := by
  cases trader with
  | none => exact ⟨rfl, holding⟩
  | some trader =>
      have stopped : Holding config self
          { world with running := world.running.filter (· ≠ trader) } := { holding with }
      unfold stopTrader bestEffortStop
      simp only [Ends, meets_bind, meets_attempt]
      apply ends_ask
      · intro _ after _ drifts
        exact ⟨rfl, steady_holding _ _ _ stopped drifts⟩
      · intro exc after _ drifts
        exact ⟨rfl, steady_holding _ _ _ stopped drifts⟩

theorem Holding.locked (holding : Holding config self world) : ¬ Unlocked world := by
  intro ⟨free, idle⟩
  cases mode : config.runtimeLockMode with
  | exclusive =>
      rw [(holding.exclusive mode).1] at free
      cases free
  | shared =>
      obtain ⟨lease, only⟩ := (holding.shared mode).2
      exact only.busy idle

theorem releaseAll_ends (host : LeaseHost) (onWorker : Bool) (holding : Holding config self world) :
    Ends (steps host config onWorker).releaseAll self world
      (fun _ _ world => Unlocked world ↔ onWorker = false)
      (fun _ _ world => Unlocked world ↔ onWorker = false) := by
  apply (meets_bind _ _).2
  apply ends_ask
  · intro _ world₁ _ drifts
    have holding₁ : Holding config self world₁ := by
      apply steady_holding _ _ _ _ drifts
      exact { holding with
        thread := ⟨(SerialEventQueue.stop_thread _).trans holding.thread.1, holding.thread.2⟩ }
    apply (meets_bind _ _).2
    apply (meets_bind _ _).2
    apply ends_ask
    · intro _ world₂ lawful drifts
      have elsewhere : onWorker = false := by
        have joined : Except.ok () = world₁.queue.join onWorker := lawful
        rw [SerialEventQueue.join, holding₁.thread.1] at joined
        cases onWorker with
        | false => rfl
        | true => cases joined
      have holding₂ : Holding config self world₂ := steady_holding _ _ _ holding₁ drifts
      apply ends_read
      apply ends_sure (stopTrader_holding self.trader holding₂)
      rintro _ _ world₃ ⟨rfl, holding₃⟩
      apply Meets.weaken (unlock_ends holding₃.leases holding₃.mutex)
      · rintro _ self' world₄ ⟨-, idle, drifts⟩
        refine iff_of_true ⟨?_, idle⟩ elsewhere
        obtain ⟨queue, -, same⟩ := drifts
        rw [same]
      · intro _ _ _ impossible
        exact impossible.elim
    · intro exc world₂ lawful drifts
      have onThread : onWorker = true := by
        have joined : Except.error exc = world₁.queue.join onWorker := lawful
        rw [SerialEventQueue.join, holding₁.thread.1] at joined
        cases onWorker with
        | true => rfl
        | false => cases joined
      refine iff_of_false (steady_holding _ _ _ holding₁ drifts).locked ?_
      rw [onThread]
      decide
  · intro exc after lawful _
    cases lawful

theorem meets_anything (method : SessionM α) (session : SessionState) :
    method.Meets (fun (_ : Unit) _ => True) (fun _ _ _ _ => True) session () (fun _ _ _ => True)
      (fun _ _ _ => True) := by
  unfold Meets
  induction method session with
  | done result => rcases result with ⟨_ | _, _⟩ <;> trivial
  | call command rest ih => exact ⟨trivial, fun answer _ _ => ih answer⟩

theorem maintains_onSession (method : SessionM α) : Maintains (Holding config) (onSession method) := by
  intro self world holding
  cases stored : self.session with
  | none =>
      unfold Ends Meets onSession
      rw [stored]
      exact holding
  | some session =>
      have later (session : SessionState) (world : RuntimeWorld) (holding : Holding config self world) :
          Holding config { self with session := some session } world := { holding with }
      have steady (before after : RuntimeWorld) (holding : Holding config self before)
          (drifts : before.Drifts after) : Holding config self after :=
        steady_holding self before after holding drifts
      apply Meets.weaken (ends_onSession stored (meets_anything method session) steady holding)
      · rintro _ _ world ⟨session, _, rfl, holding⟩
        exact later session world holding
      · rintro _ _ world ⟨session, _, rfl, holding⟩
        exact later session world holding

theorem ends_tryFinally {body final : RuntimeM Unit} {fact : RuntimeState → RuntimeWorld → Prop}
    {post : RuntimeWorld → Prop} (tries : Maintains fact body)
    (ends : ∀ self world, fact self world →
      Ends final self world (fun _ _ => post) (fun _ _ => post))
    (first : fact self world) :
    Ends (tryFinally body final) self world (fun _ _ => post) (fun _ _ => post) := by
  have last (ended : Except Exc Unit) (self : RuntimeState) (world : RuntimeWorld)
      (held : fact self world) :
      Ends (do final; Method.ofExcept ended) self world (fun _ _ => post) (fun _ _ => post) := by
    apply ends_bind (ends self world held)
    intro _ self world reached
    cases ended with
    | ok _ => exact reached
    | error exc => exact reached
  apply (meets_bind _ _).2
  apply (meets_attempt _).2
  apply Meets.weaken (tries self world first)
  · intro _ self world held
    exact last _ self world held
  · intro exc self world held
    exact last _ self world held

theorem setFlag_holding (flag : RuntimeFlag) (value : Bool) (shared : flag ≠ .closed)
    (holding : Holding config self world) :
    Ends (setFlag flag value) self world (fun _ => Holding config) (fun _ _ _ => False) := by
  have written : Ends (MiniQmtRuntime.ask (.set flag value)) self world (fun _ => Holding config)
      (fun _ _ _ => False) := by
    apply ends_ask
    · intro _ after _ drifts
      exact steady_holding _ _ _ holding drifts
    · intro exc after lawful _
      cases lawful
  cases flag with
  | closed => exact absurd rfl shared
  | _ => exact written

theorem close_ends (host : LeaseHost) (onWorker : Bool) (holding : Holding config self world) :
    Ends (close host config onWorker) self world (fun _ _ world => Unlocked world ↔ onWorker = false)
      (fun _ _ world => Unlocked world ↔ onWorker = false) := by
  have revokes : Ends ((steps host config onWorker).revoke config.gate) self world
      (fun _ => Holding config) (fun _ _ _ => False) := by
    unfold RuntimeSteps.revoke
    split_ifs
    · exact setFlag_holding .confirmed false (by decide) holding
    · exact holding
  have closes : Maintains (Holding config) closeSession := by
    apply maintains_bind maintains_read
    intro self
    cases self.session with
    | none => exact maintains_pure _
    | some session => exact maintains_onSession _
  have unsubscribes : Maintains (Holding config) (steps host config onWorker).unsubscribe :=
    maintains_withTrader fun _ => maintains_ask steady_holding fun _ _ => rfl
  have tears (self : RuntimeState) (world : RuntimeWorld) (holding : Holding config self world) :
      Ends (tryFinally closeSession (tryFinally (steps host config onWorker).unsubscribe
          (steps host config onWorker).releaseAll)) self world
        (fun _ _ world => Unlocked world ↔ onWorker = false)
        (fun _ _ world => Unlocked world ↔ onWorker = false) := by
    refine ends_tryFinally closes (fun self world holding => ?_) holding
    exact ends_tryFinally unsubscribes (fun self world holding => releaseAll_ends host onWorker holding)
      holding
  apply ends_read
  rw [holding.unclosed]
  apply ends_sure revokes
  intro _ self world holding
  have disconnects : Ends (steps host config onWorker).markDisconnected self world
      (fun _ => Holding config) (fun _ _ _ => False) := by
    apply ends_sure (setFlag_holding .brokerConnected false (by decide) holding)
    intro _ self world holding
    exact setFlag_holding .recoveryReady false (by decide) holding
  apply ends_sure disconnects
  intro _ self world holding
  exact tears self world holding

/-- When `connect` raises, everything it took is given back, except where the queue's thread did not
start under the runtime mutex. When it returns, exactly the lease or the runtime mutex is held, the
session changes nothing about that, and `close` gives it back unless it runs on the queue's own
thread. -/
theorem connect_close_leak_free (host : LeaseHost) (config : MiniQmtRuntimeConfig) (autoOpen : Bool) :
    Ends (connect host config autoOpen) {} (.fresh config) (fun _ => Holding config)
        (fun _ self world => Released self world ↔ ¬ Stuck config world) ∧
      (∀ operation, Maintains (Holding config) (onSession (runOperation config.session operation))) ∧
      ∀ self world, Holding config self world → ∀ onWorker,
        Ends (close host config onWorker) self world
          (fun _ _ world => Unlocked world ↔ onWorker = false)
          (fun _ _ world => Unlocked world ↔ onWorker = false) :=
  ⟨connect_ends host config autoOpen, fun _ => maintains_onSession _,
    fun _ _ holding onWorker => close_ends host onWorker holding⟩

theorem RuntimeWorld.answers_effect (world : RuntimeWorld) {command : RuntimeCommand}
    {answer : Except Exc (RuntimeResult command)} (lawful : world.Lawful command answer) :
    RuntimeWorld.answers world command answer (world.effect command answer) :=
  ⟨lawful, _, ⟨rfl, .inl rfl⟩, rfl⟩

def tmpHost : LeaseHost where
  gettempdir := "/var/tmp"
  resolvePath path := path
  qmtPathFingerprint path := path
  seed _ := 4

def exclusiveConfig : MiniQmtRuntimeConfig where
  gate := ⟨.simulation, false, "", fun _ => rfl, nofun⟩
  qmtPath := "userdata"
  session := plainConfig
  sessionId_pos := by simp
  eventQueueSize_pos := by decide

/-- When the thread of the queue cannot be started, the runtime mutex stays locked. -/
theorem connect_leaks_runtime_mutex :
    ¬ Ends (connect tmpHost exclusiveConfig true) {} (.fresh exclusiveConfig) (fun _ _ _ => True)
      (fun _ self world => Released self world) := by
  intro claimed
  have locking := claimed.2 (.ok ()) _ (RuntimeWorld.answers_effect _ trivial)
  have starting := locking.2 (.ok ()) _ (RuntimeWorld.answers_effect _ trivial)
  have stopping := starting.2 (.error ⟨.runtimeError, "can't start new thread"⟩) _
    (RuntimeWorld.answers_effect _ rfl)
  have joining := stopping.2 (.ok ()) _ (RuntimeWorld.answers_effect _ rfl)
  have raised := joining.2
    (.error ⟨.runtimeError, "cannot join thread before it is started"⟩) _
    (RuntimeWorld.answers_effect _ rfl)
  cases raised.mutex

def pooledConfig : MiniQmtRuntimeConfig where
  gate := ⟨.simulation, false, "", fun _ => rfl, nofun⟩
  qmtPath := "userdata"
  runtimeLockMode := .shared
  sessionIdPoolStart := 300
  sessionIdPoolSize := 5
  sessionIdAttempts := 2
  session := plainConfig
  sessionId_pos := by simp
  eventQueueSize_pos := by decide

/-- The trader of 304 does not connect, and unsubscribing fails. -/
def shakyAnswer (world : RuntimeWorld) :
    (command : RuntimeCommand) → Except Exc (RuntimeResult command)
  | .get _ => .ok true
  | .lease (.lock _) => .ok world.leases.mutexes.length
  | .lease (.newLease _ _) => .ok world.leases.leases.length
  | .lease (.released lease) => .ok (world.leases.leases[lease]?.any (·.released))
  | .lease (.owned mutex) => .ok (world.leases.mutexes[mutex]?.any (·.owned))
  | .lease (.disown _) | .lease (.unlock _) | .lease (.markReleased _) => .ok ()
  | .randomSessionId => .ok 1
  | .traderFactory sessionId => .ok (some sessionId.toNat)
  | .hasRegisterCallback _ => .ok true
  | .traderConnect trader => .ok (some (if trader = 304 then -1 else 0))
  | .subscribe _ => .ok (some 0)
  | .unsubscribe _ => .error ⟨.brokerError, "not connected"⟩
  | .session command => Replies.answer {} [] command
  | .queueJoin onWorker => world.queue.join onWorker
  | .set _ _ | .makeCallback | .runtimeMutexAcquire | .runtimeMutexRelease | .queueStart
  | .queueStop | .newAllocator | .registerCallback _ | .traderStart _ | .traderStop _
  | .selectBoundAccount _ | .newOrderConfig | .newBroker | .newSession
  | .verifyBoundAccountHealthy _ => .ok ()

def present (world : RuntimeWorld) : RuntimeCommand → Bool
  | .lease (.lock path) => world.leases.mutexes.all fun mutex => !(mutex.locked && mutex.path = path)
  | .lease (.newLease _ mutex) => mutex < world.leases.mutexes.length
  | .lease (.released lease) => lease < world.leases.leases.length
  | .lease (.owned mutex) => mutex < world.leases.mutexes.length
  | .lease (.unlock mutex) => world.leases.mutexes[mutex]?.any (·.locked)
  | .queueStart => world.queue.state = .new
  | _ => true

def shaky : Responder RuntimeCommand RuntimeResult Exc RuntimeWorld := fun world command =>
  (shakyAnswer world command, world.effect command (shakyAnswer world command))

theorem shaky_lawful (world : RuntimeWorld) (command : RuntimeCommand)
    (there : present world command = true) :
    RuntimeWorld.answers world command (shaky world command).1 (shaky world command).2 := by
  apply RuntimeWorld.answers_effect
  cases command with
  | get flag => exact ⟨true, rfl⟩
  | lease command =>
      cases command with
      | lock path =>
          refine ⟨?_, rfl, rfl⟩
          rintro ⟨mutex, listed, locked, same⟩
          have free := List.all_eq_true.1 there mutex listed
          simp [locked, same] at free
      | newLease sessionId mutex =>
          have refers : mutex < world.leases.mutexes.length := of_decide_eq_true there
          exact ⟨rfl, refers, dif_pos refers⟩
      | released lease =>
          have refers : lease < world.leases.leases.length := of_decide_eq_true there
          refine ⟨?_, rfl⟩
          simp [refers]
      | owned mutex =>
          have refers : mutex < world.leases.mutexes.length := of_decide_eq_true there
          refine ⟨?_, rfl⟩
          simp [refers]
      | unlock mutex =>
          obtain ⟨found, here, locked⟩ := (Option.any_eq_true _ _).1 there
          refine ⟨?_, rfl⟩
          rw [here]
          exact congrArg some locked
      | disown mutex => rfl
      | markReleased lease => rfl
  | session command =>
      cases command with
      | mutexRelease => rfl
      | _ => exact trivial
  | queueStart =>
      have fresh : world.queue.state = .new := of_decide_eq_true there
      simp [RuntimeWorld.Lawful, shaky, shakyAnswer, SerialEventQueue.start, fresh]
  | _ => first | exact trivial | rfl

/-- `connect` as it is answered, and `close` after it. -/
def pooledConnect : Program RuntimeCommand (fun command => Except Exc (RuntimeResult command))
    (Except Exc Unit × RuntimeState) × RuntimeWorld :=
  (connect tmpHost pooledConfig true {}).drive shaky 300 (.fresh pooledConfig)

def pooledClose (self : RuntimeState) :
    Program RuntimeCommand (fun command => Except Exc (RuntimeResult command))
      (Except Exc Unit × RuntimeState) × RuntimeWorld :=
  (close tmpHost pooledConfig false self).drive shaky 300 pooledConnect.2

theorem connect_close_leak_free_shared : ∃ self closed,
    pooledConnect.1.ended = some (.ok (), self) ∧
    pooledConnect.2.leases.leases.map (·.sessionId) = [304, 300] ∧
    Holding pooledConfig self pooledConnect.2 ∧ self.actualSessionId = some 300 ∧
    self.sessionIdLease = some ⟨1, 300, 1⟩ ∧ pooledConnect.2.running = [300] ∧
    (pooledClose self).1.ended = some (.error ⟨.brokerError, "not connected"⟩, closed) ∧
    Unlocked (pooledClose self).2 := by
  have connects := (connect_close_leak_free tmpHost pooledConfig true).1
  have closes := (connect_close_leak_free tmpHost pooledConfig true).2.2
  have ran : (pooledConnect.1.ended.any fun result =>
      result.1.isOk && (result.2.actualSessionId = some 300 &&
        (result.2.sessionIdLease = some ⟨1, 300, 1⟩ && 
        ((close tmpHost pooledConfig false result.2).passes present shaky 300 pooledConnect.2 &&
        (pooledClose result.2).1.ended.any fun last =>
          last.1 = .error ⟨.brokerError, "not connected"⟩)))) = true := by decide +kernel
  obtain ⟨⟨outcome, self⟩, ended, facts⟩ := (Option.any_eq_true _ _).1 ran
  simp only [Bool.and_eq_true, decide_eq_true_eq] at facts
  obtain ⟨returned, chosen, leased, passes, closing⟩ := facts
  obtain ⟨⟨failure, closed⟩, finished, raised⟩ := (Option.any_eq_true _ _).1 closing
  cases outcome with
  | error exc => cases returned
  | ok value =>
      have raised : failure = _ := of_decide_eq_true raised
      have holding : Holding pooledConfig self pooledConnect.2 :=
        Program.Obeys.drive shaky_lawful 300 connects (by decide +kernel) ended
      have closes := Program.Obeys.drive shaky_lawful 300 (closes self _ holding false) passes finished
      rw [raised] at finished closes
      exact ⟨self, closed, ended, by decide +kernel, holding, chosen, leased, by decide +kernel, finished,
        closes.2 rfl⟩

end QmtExecution.MiniQmt
