import QmtExecution.MiniQmt.Leasing

/-! Session ids over whole runs: which attempts a call of `acquire` makes, what it ends with, and
that no two leases that are in use have one session id. -/

namespace QmtExecution.SessionIds

open Interaction LeaseWorld BoundedSessionIdAllocator

variable {ι : Type} {host : LeaseHost} {qmtPath : String} {process : ι}

namespace LeaseOperation

theorem secure (operation : LeaseOperation) {results : Results} {world : LeaseWorld ι}
    (enabled : Enabled qmtPath results operation)
    (kept : ∀ result ∈ results, result.1.Promises result.2 world) :
    (operation.run host ()).Secure (Relies host qmtPath process) (Permits host qmtPath process)
      (Answers process) operation.Promises world := by
  cases operation with
  | acquire allocator preferredKey =>
      have assures : Assured host qmtPath process (fun _ => True)
          (run host (.acquire allocator preferredKey)) fun outcome =>
            Promises (.acquire allocator preferredKey) (.ok outcome, ()) := by
        apply Method.assures_bind (acquire_assures preferredKey enabled)
        intro lease
        exact Method.assures_pure fun _ holds => holds
      exact assures.secure trivial (fun _ _ _ promised => promised) fun _ _ _ => trivial
  | acquireExact allocator sessionId =>
      have assures : Assured host qmtPath process (fun _ => True)
          (run host (.acquireExact allocator sessionId)) fun outcome =>
            Promises (.acquireExact allocator sessionId) (.ok outcome, ()) := by
        apply Method.assures_bind (acquireExact_assures sessionId enabled)
        intro lease
        exact Method.assures_pure fun _ holds => holds
      exact assures.secure trivial (fun _ _ _ promised => promised) fun _ _ _ => trivial
  | release lease =>
      obtain ⟨operation, listed⟩ := enabled
      have holds : world.Holds lease := by
        have promised := kept _ listed
        cases operation with
        | acquire allocator preferredKey => exact promised
        | acquireExact allocator sessionId => exact promised
        | release other => exact promised
      have assures : Assured host qmtPath process (fun world => world.Holds lease)
          (run host (.release lease)) fun outcome => Promises (.release lease) (.ok outcome, ()) := by
        apply Method.assures_bind (release_assures lease)
        intro _
        exact Method.assures_pure fun _ disowned => disowned
      exact assures.secure holds (fun _ _ _ promised => promised) fun _ _ _ => trivial

theorem promises_evolve {operation : LeaseOperation} {result : Except Exc LeaseOutcome × Unit}
    {world after : LeaseWorld ι} (evolves : world.Evolves host qmtPath after)
    (promised : operation.Promises result world) : operation.Promises result after := by
  unfold Promises at promised ⊢
  split at promised
  · exact evolves.disowned promised
  · exact evolves.holds promised
  · trivial

end LeaseOperation

variable [DecidableEq ι]

theorem leaseTeam_disciplined : Team.Disciplined (leaseTeam host qmtPath)
    (Relies host qmtPath : ι → _) (Evolves host qmtPath) (Permits host qmtPath)
    LeaseOperation.Promises where
  chained := relies_chained
  evolution := evolves_chained
  own _ _ _ _ _ permitted law := answers_evolves permitted law
  other _ _ _ _ _ _ different permitted law := answers_relies different permitted law
  crash process world after law := by
    rw [law]
    exact crash_evolves process
  crashOther process other world after different law := by
    rw [law]
    exact crash_relies other
  relies _ _ _ relied := relied.evolves
  lasting _ _ _ _ evolved promised := LeaseOperation.promises_evolve evolved promised
  secure _ operation _ _ enabled kept := operation.secure enabled kept

section Attempts

abbrev LeaseProgram (α : Type) := Program LeaseCommand (fun command => Except Exc (LeaseResult command)) α

abbrev Trail (ι : Type) := List (Answered (LeaseWorld ι) LeaseCommand
  fun command => Except Exc (LeaseResult command))

def attempts (trail : Trail ι) : List (LeaseWorld ι × String) :=
  trail.filterMap fun call => match call.command with
    | .lock path => some (call.world, path)
    | _ => none

def unavailable : Exc :=
  ⟨.sessionIdUnavailable, "no MiniQMT session id is available in the configured bounded attempts"⟩

omit [DecidableEq ι] in
@[simp] theorem attempts_nil : attempts ([] : Trail ι) = [] := rfl

variable {self : BoundedSessionIdAllocator} {sessionId : ℤ} {ids : List ℤ}

theorem acquireExact_calls (pos : 0 < sessionId) : ∃ next,
    self.acquireExact host sessionId () = .call (.lock (leaseFile host self.qmtPath sessionId)) next ∧
    (∀ mutex, ∃ last, next (.ok mutex) = .call (.newLease sessionId mutex) last ∧
      ∀ lease, last (.ok lease) = .done (.ok ⟨lease, sessionId, mutex⟩, ())) ∧
    next (.error ⟨.concurrentExecutionError, "another executor owns the lock"⟩) =
      .done (.error ⟨.sessionIdUnavailable,
        "MiniQMT session id " ++ toString sessionId ++ " is already leased"⟩, ()) := by
  unfold acquireExact
  rw [leasePath_ok pos]
  exact ⟨_, rfl, fun mutex => ⟨_, rfl, fun lease => rfl⟩, rfl⟩

theorem acquireFrom_turn (sessionId : ℤ) (ids : List ℤ) :
    ∃ onward : Except Exc SessionIdLease × Unit → LeaseProgram (Except Exc SessionIdLease × Unit),
    self.acquireFrom host (sessionId :: ids) () = (self.acquireExact host sessionId ()).bind onward ∧
    (∀ lease, onward (.ok lease, ()) = .done (.ok lease, ())) ∧
    ∀ message, onward (.error ⟨.sessionIdUnavailable, message⟩, ()) = self.acquireFrom host ids () :=
  ⟨_, Program.bind_assoc _ _ _, fun _ => rfl, fun _ => rfl⟩

theorem acquireFrom_calls (ids : List ℤ) (pos : 0 < sessionId) : ∃ next,
    self.acquireFrom host (sessionId :: ids) () =
      .call (.lock (leaseFile host self.qmtPath sessionId)) next ∧
    (∀ mutex, ∃ last, next (.ok mutex) = .call (.newLease sessionId mutex) last ∧
      ∀ lease, last (.ok lease) = .done (.ok ⟨lease, sessionId, mutex⟩, ())) ∧
    next (.error ⟨.concurrentExecutionError, "another executor owns the lock"⟩) =
      self.acquireFrom host ids () := by
  obtain ⟨next, calls, locked, contended⟩ : ∃ next, self.acquireExact host sessionId () = _ ∧ _ :=
    acquireExact_calls pos
  obtain ⟨onward, turn, leased, refused⟩ : ∃ onward, self.acquireFrom host (sessionId :: ids) () = _ ∧ _ :=
    acquireFrom_turn sessionId ids
  rw [calls] at turn
  refine ⟨fun answer => (next answer).bind onward, turn, ?_, ?_⟩
  · intro mutex
    obtain ⟨last, same, ends⟩ := locked mutex
    refine ⟨fun answer => (last answer).bind onward, congrArg (Program.bind · onward) same, ?_⟩
    intro lease
    exact (congrArg (Program.bind · onward) (ends lease)).trans (leased _)
  · exact (congrArg (Program.bind · onward) contended).trans (refused _)

omit [DecidableEq ι] in
theorem attempts_lock (world : LeaseWorld ι) (path : String) (answer : Except Exc ℕ) (trail : Trail ι) :
    attempts (⟨world, .lock path, answer⟩ :: trail) = (world, path) :: attempts trail := rfl

/-- The last attempt of these was the first to find its lock free. -/
def Succeeded (host : LeaseHost) (qmtPath : String) (sessionId : ℤ)
    (attempts : List (LeaseWorld ι × String)) : Prop :=
  ∃ earlier world, attempts = earlier ++ [(world, leaseFile host qmtPath sessionId)] ∧
    ¬ world.Locked (leaseFile host qmtPath sessionId) ∧
    ∀ attempt ∈ earlier, attempt.1.Locked attempt.2

def Exhausted (host : LeaseHost) (qmtPath : String) (ids : List ℤ)
    (attempts : List (LeaseWorld ι × String)) : Prop :=
  attempts.map Prod.snd = ids.map (leaseFile host qmtPath) ∧
    ∀ attempt ∈ attempts, attempt.1.Locked attempt.2

/-- Where a call of `acquire` with these candidates can be after its attempts. -/
structure Acquiring (host : LeaseHost) (qmtPath : String) (ids : List ℤ) (trail : Trail ι)
    (reached : LeaseProgram (Except Exc SessionIdLease × Unit)) : Prop where
  tried : (attempts trail).map Prod.snd <+: ids.map (leaseFile host qmtPath)
  calls : trail.length ≤ (attempts trail).length + 1
  stands : (∃ path next, reached = .call (.lock path) next) ∨
    (∃ sessionId mutex next, reached = .call (.newLease sessionId mutex) next) ∨
    (∃ lease, reached = .done (.ok lease, ()) ∧ lease.sessionId ∈ ids ∧
      Succeeded host qmtPath lease.sessionId (attempts trail)) ∨
    reached = .done (.error unavailable, ()) ∧ Exhausted host qmtPath ids (attempts trail)

omit [DecidableEq ι] in
theorem Acquiring.contended {world : LeaseWorld ι} {answer : Except Exc ℕ} {trail : Trail ι}
    {reached : LeaseProgram (Except Exc SessionIdLease × Unit)}
    (locked : world.Locked (leaseFile host qmtPath sessionId))
    (acquiring : Acquiring host qmtPath ids trail reached) :
    Acquiring host qmtPath (sessionId :: ids)
      (⟨world, .lock (leaseFile host qmtPath sessionId), answer⟩ :: trail) reached := by
  constructor
  · rw [attempts_lock, List.map_cons, List.map_cons]
    exact List.cons_prefix_cons.2 ⟨rfl, acquiring.tried⟩
  · rw [attempts_lock, List.length_cons, List.length_cons]
    have := acquiring.calls
    omega
  · rcases acquiring.stands with next | building | ⟨lease, same, listed, succeeded⟩ | ⟨same, exhausted⟩
    · exact .inl next
    · exact .inr (.inl building)
    · refine .inr (.inr (.inl ⟨lease, same, List.mem_cons_of_mem _ listed, ?_⟩))
      obtain ⟨earlier, last, all, free, others⟩ := succeeded
      refine ⟨(world, leaseFile host qmtPath sessionId) :: earlier, last, ?_, free, ?_⟩
      · rw [attempts_lock, all]
        rfl
      · exact List.forall_mem_cons.2 ⟨locked, others⟩
    · refine .inr (.inr (.inr ⟨same, ?_, ?_⟩))
      · rw [attempts_lock, List.map_cons, List.map_cons, exhausted.1]
      · rw [attempts_lock]
        exact List.forall_mem_cons.2 ⟨locked, exhausted.2⟩

omit [DecidableEq ι] in
theorem acquireFrom_path (pos : ∀ id ∈ ids, 0 < id) {trail : Trail ι}
    {reached : LeaseProgram (Except Exc SessionIdLease × Unit)}
    (path : (self.acquireFrom host ids ()).Path (Answers process) trail reached) :
    Acquiring host self.qmtPath ids trail reached := by
  induction ids generalizing trail with
  | nil =>
      obtain ⟨rfl, rfl⟩ := path.of_done
      refine ⟨List.nil_prefix, Nat.zero_le _, .inr (.inr (.inr ⟨rfl, rfl, ?_⟩))⟩
      intro attempt listed
      cases listed
  | cons sessionId rest ih =>
      obtain ⟨next, calls, locked, contended⟩ : ∃ next, self.acquireFrom host (sessionId :: rest) () = _ ∧ _ :=
        acquireFrom_calls rest (pos sessionId List.mem_cons_self)
      rw [calls] at path
      cases path with
      | here => exact ⟨List.nil_prefix, Nat.zero_le _, .inl ⟨_, _, rfl⟩⟩
      | call _ _ answer world after trail _ law onward =>
          cases answer with
          | error exc =>
              obtain ⟨held, rfl, rfl⟩ := law
              rw [contended] at onward
              exact (ih (fun id listed => pos id (List.mem_cons_of_mem _ listed)) onward).contended held
          | ok mutex =>
              have free := law.1
              have first : (attempts (⟨world, .lock (leaseFile host self.qmtPath sessionId), .ok mutex⟩ ::
                  ([] : Trail ι))).map Prod.snd <+:
                  (sessionId :: rest).map (leaseFile host self.qmtPath) := by
                rw [attempts_lock, List.map_cons, List.map_cons]
                exact List.cons_prefix_cons.2 ⟨rfl, List.nil_prefix⟩
              obtain ⟨last, builds, ends⟩ := locked mutex
              rw [builds] at onward
              cases onward with
              | here => exact ⟨first, le_add_right le_rfl, .inr (.inl ⟨_, _, _, rfl⟩)⟩
              | call _ _ answer middle later trail _ law onward =>
                  cases answer with
                  | error exc => exact law.elim
                  | ok lease =>
                      rw [ends lease] at onward
                      obtain ⟨rfl, rfl⟩ := onward.of_done
                      refine ⟨first, le_rfl, .inr (.inr (.inl ⟨_, rfl, List.mem_cons_self, ?_⟩))⟩
                      refine ⟨[], world, rfl, free, ?_⟩
                      intro attempt listed
                      cases listed

/-- What `acquire` makes of the outcome of its loop. -/
def acquired : Except Exc SessionIdLease × Unit → LeaseProgram (Except Exc LeaseOutcome × Unit)
  | (.ok lease, ()) => .done (.ok (.leased lease), ())
  | (.error exc, ()) => .done (.error exc, ())

theorem acquire_run {preferredKey : String} (candidates : self.candidateIds host preferredKey = .ok ids) :
    (LeaseOperation.acquire self preferredKey).run host () = (self.acquireFrom host ids ()).bind acquired := by
  have computed : self.acquire host preferredKey () = self.acquireFrom host ids () := by
    unfold acquire
    rw [candidates]
    rfl
  calc
    _ = (self.acquire host preferredKey ()).bind _ := rfl
    _ = (self.acquireFrom host ids ()).bind acquired := by
      rw [computed]
      apply congrArg
      funext result
      rcases result with ⟨_ | _, _⟩
      · rfl
      · rfl

omit [DecidableEq ι] in
theorem acquire_path {preferredKey : String} (candidates : self.candidateIds host preferredKey = .ok ids)
    {trail : Trail ι} {reached : LeaseProgram (Except Exc LeaseOutcome × Unit)}
    (path : ((LeaseOperation.acquire self preferredKey).run host ()).Path (Answers process) trail reached) :
    ∃ middle, Acquiring host self.qmtPath ids trail middle ∧ reached = middle.bind acquired := by
  have pos : ∀ id ∈ ids, 0 < id := candidates_pos candidates
  rw [acquire_run candidates] at path
  rcases path.bind_cases with ⟨middle, first, rfl⟩ | ⟨value, first, second, rfl, ends, last⟩
  · exact ⟨middle, acquireFrom_path pos first, rfl⟩
  · rcases value with ⟨exc | lease, _⟩
    · obtain ⟨rfl, rfl⟩ := last.of_done
      rw [List.append_nil]
      exact ⟨_, acquireFrom_path pos ends, rfl⟩
    · obtain ⟨rfl, rfl⟩ := last.of_done
      rw [List.append_nil]
      exact ⟨_, acquireFrom_path pos ends, rfl⟩

end Attempts

omit [DecidableEq ι] in
theorem candidates_valid (path : String) {poolStart poolSize tries : ℤ} (start : 0 < poolStart)
    (size : 0 < poolSize) (positive : 0 < tries) (range : poolStart + poolSize - 1 ≤ 2147483647)
    {preferredKey : String} (key : preferredKey ≠ "") :
    ∃ allocator ids, make host path poolStart poolSize tries = .ok allocator ∧
      allocator.candidateIds host preferredKey = .ok ids ∧ (ids.length : ℤ) = min tries poolSize ∧
      ids.Nodup ∧ ∀ id ∈ ids, poolStart ≤ id ∧ id ≤ poolStart + poolSize - 1 ∧ id ≤ 2147483647 := by
  obtain ⟨allocator, made, rfl, rfl, bound⟩ : ∃ allocator,
      make host path poolStart poolSize tries = .ok allocator ∧ _ := make_ok start size positive range
  refine ⟨allocator, _, made, candidateIds_ok key, ?_, candidates_nodup (candidateIds_ok key), ?_⟩
  · rw [← bound]
    exact candidates_length (candidateIds_ok key)
  · intro id listed
    obtain ⟨above, below⟩ := candidates_within (candidateIds_ok key) id listed
    exact ⟨above, below, below.trans range⟩

omit [DecidableEq ι] in
theorem Acquiring.bounded {allocator : BoundedSessionIdAllocator} {preferredKey : String} {ids : List ℤ}
    (candidates : allocator.candidateIds host preferredKey = .ok ids) {trail : Trail ι}
    {reached : LeaseProgram (Except Exc SessionIdLease × Unit)}
    (acquiring : Acquiring host qmtPath ids trail reached) :
    ((attempts trail).length : ℤ) ≤ allocator.attempts := by
  have shorter := acquiring.tried.length_le
  rw [List.length_map, List.length_map] at shorter
  have length := candidates_length candidates
  omega

omit [DecidableEq ι] in
theorem Acquiring.ends {ids : List ℤ} {trail : Trail ι} {value : Except Exc LeaseOutcome × Unit}
    {middle : LeaseProgram (Except Exc SessionIdLease × Unit)}
    (acquiring : Acquiring host qmtPath ids trail middle)
    (reached : Program.done value = middle.bind acquired) :
    (∃ lease, value = (.ok (.leased lease), ()) ∧ lease.sessionId ∈ ids ∧
      Succeeded host qmtPath lease.sessionId (attempts trail)) ∨
    value = (.error unavailable, ()) ∧ Exhausted host qmtPath ids (attempts trail) := by
  rcases acquiring.stands with ⟨path, next, rfl⟩ | ⟨sessionId, mutex, next, rfl⟩ |
    ⟨lease, rfl, among, succeeded⟩ | ⟨rfl, exhausted⟩
  · cases reached
  · cases reached
  · cases reached
    exact .inl ⟨lease, rfl, among, succeeded⟩
  · cases reached
    exact .inr ⟨rfl, exhausted⟩

theorem acquire_proceeds {config : Team.Config LeaseCommand (fun command => Except Exc (LeaseResult command)) ι
      LeaseOperation (Except Exc LeaseOutcome × Unit) (LeaseWorld ι)}
    (secured : Team.Secured (leaseTeam host qmtPath) (Relies host qmtPath) (Permits host qmtPath)
      LeaseOperation.Promises config) {i : ι} {operation : LeaseOperation} {ids : List ℤ} {trail : Trail ι}
    {middle : LeaseProgram (Except Exc SessionIdLease × Unit)}
    (acquiring : Acquiring host qmtPath ids trail middle)
    (running : config.running i = some (operation, middle.bind acquired)) :
    (∃ value, middle.bind acquired = .done value) ∨ ∃ command rest answer after,
      middle.bind acquired = .call command rest ∧ Answers i config.world command answer after := by
  rcases acquiring.stands with ⟨path, next, rfl⟩ | ⟨sessionId, mutex, next, rfl⟩ | ⟨lease, rfl, -⟩ | ⟨rfl, -⟩
  · right
    by_cases locked : config.world.Locked path
    · exact ⟨_, _, .error ⟨.concurrentExecutionError, "another executor owns the lock"⟩, _, rfl,
        locked, rfl, rfl⟩
    · exact ⟨_, _, .ok config.world.mutexes.length, _, rfl, locked, rfl, rfl⟩
  · right
    have secure := secured.running i operation _ running
    have permitted : Permits host qmtPath i config.world (.newLease sessionId mutex) :=
      secure.1 config.world ((relies_chained i).refl _)
    obtain ⟨found, here, -⟩ := permitted
    obtain ⟨refers, -⟩ := List.getElem?_eq_some_iff.1 here
    exact ⟨_, _, .ok config.world.leases.length, _, rfl, rfl, refers, rfl⟩
  · exact .inl ⟨_, rfl⟩
  · exact .inl ⟨_, rfl⟩

/-- In every run of the processes that lease session ids of a qmt path, with whatever pools: the
candidates are distinct ids of the pool; no two unreleased leases have one session id, whose lock
is held; `acquire` tries its candidates in turn, each of them once, and ends with a lease at the
first one that is free, or raises when it has tried them all and none was; and until then it has
made no more attempts than it may, and has an answer to wait for. -/
theorem session_ids_leased_once
    {config : Team.Config LeaseCommand (fun command => Except Exc (LeaseResult command)) ι
      LeaseOperation (Except Exc LeaseOutcome × Unit) (LeaseWorld ι)} {trails : ι → Trail ι}
    {ended : List (Team.Ended LeaseCommand (fun command => Except Exc (LeaseResult command)) ι
      LeaseOperation (Except Exc LeaseOutcome × Unit) (LeaseWorld ι))}
    (recorded : Team.Recorded (leaseTeam host qmtPath) (Team.start LeaseWorld.empty) config trails ended) :
    (∀ path poolStart poolSize tries preferredKey, 0 < poolStart → 0 < poolSize → 0 < tries →
      poolStart + poolSize - 1 ≤ 2147483647 → preferredKey ≠ "" →
      ∃ allocator ids, make host path poolStart poolSize tries = .ok allocator ∧
        allocator.candidateIds host preferredKey = .ok ids ∧ (ids.length : ℤ) = min tries poolSize ∧
        ids.Nodup ∧ ∀ id ∈ ids, poolStart ≤ id ∧ id ≤ poolStart + poolSize - 1 ∧ id ≤ 2147483647) ∧
    (config.world.unreleased.map (·.sessionId)).Nodup ∧
    (∀ lease ∈ config.world.unreleased,
      config.world.Locked (leaseFile host qmtPath lease.sessionId)) ∧
    (∀ entry ∈ ended, ∀ allocator preferredKey ids,
      entry.operation = .acquire allocator preferredKey →
      allocator.candidateIds host preferredKey = .ok ids →
      (attempts entry.trail).map Prod.snd <+: ids.map (leaseFile host qmtPath) ∧
      ((attempts entry.trail).length : ℤ) ≤ allocator.attempts ∧
      ((∃ attempt ∈ attempts entry.trail, ¬ attempt.1.Locked attempt.2) →
        ∃ lease, entry.value = (.ok (.leased lease), ())) ∧
      ((∃ lease, entry.value = (.ok (.leased lease), ()) ∧ lease.sessionId ∈ ids ∧
          config.world.Holds lease ∧ Succeeded host qmtPath lease.sessionId (attempts entry.trail)) ∨
        entry.value = (.error unavailable, ()) ∧ Exhausted host qmtPath ids (attempts entry.trail))) ∧
    ∀ i allocator preferredKey ids program,
      config.running i = some (.acquire allocator preferredKey, program) →
      allocator.candidateIds host preferredKey = .ok ids →
      ((attempts (trails i)).length : ℤ) ≤ allocator.attempts ∧
      ((trails i).length : ℤ) ≤ allocator.attempts + 1 ∧
      ((∃ value, program = .done value) ∨ ∃ command rest answer after,
        program = .call command rest ∧ Answers i config.world command answer after) := by
  have secured := (Team.Steps.secured leaseTeam_disciplined
    (Team.start_secured LeaseWorld.empty) recorded.steps)
  have sound : config.world.Sound host qmtPath := secured.2.sound empty_sound
  have tracked := recorded.tracked
  refine ⟨?_, sound.exclusive, ?_, ?_, ?_⟩
  · intro path poolStart poolSize tries preferredKey start size positive range key
    exact candidates_valid path start size positive range key
  · intro lease listed
    obtain ⟨mutex, found, locked, path⟩ := sound.unreleased lease listed
    exact ⟨mutex, List.mem_of_getElem? found, locked, path⟩
  · intro entry listed allocator preferredKey ids same candidates
    have promised : entry.operation.Promises entry.value config.world := by
      apply secured.1.results (entry.operation, entry.value)
      rw [recorded.results]
      exact List.mem_map_of_mem listed
    obtain ⟨⟨_, enabled⟩, path⟩ := tracked.ended entry listed
    rw [same] at promised enabled path
    obtain rfl : allocator.qmtPath = qmtPath := enabled
    obtain ⟨middle, acquiring, reached⟩ := acquire_path candidates path
    have ends := acquiring.ends reached
    refine ⟨acquiring.tried, acquiring.bounded candidates, ?_, ?_⟩
    · intro ⟨attempt, tried, free⟩
      rcases ends with ⟨lease, value, -⟩ | ⟨-, exhausted⟩
      · exact ⟨lease, value⟩
      · exact absurd (exhausted.2 attempt tried) free
    · rcases ends with ⟨lease, value, among, succeeded⟩ | refused
      · rw [value] at promised
        exact .inl ⟨lease, value, among, promised, succeeded⟩
      · exact .inr refused
  · intro i allocator preferredKey ids program running candidates
    obtain ⟨⟨_, rfl⟩, path⟩ := tracked.running i _ _ running
    obtain ⟨middle, acquiring, rfl⟩ := acquire_path candidates path
    refine ⟨acquiring.bounded candidates, ?_, acquire_proceeds secured.1 acquiring running⟩
    have := acquiring.calls
    have := acquiring.bounded candidates
    omega

section Leased

variable {self : BoundedSessionIdAllocator} {sessionId : ℤ} {ids : List ℤ} {world final : LeaseWorld ι}
  {reached : LeaseProgram (Except Exc SessionIdLease × Unit)}

def LeaseWorld.lease (world : LeaseWorld ι) (process : ι) (path : String) (sessionId : ℤ) : LeaseWorld ι :=
  (world.addMutex ⟨path, process, true, true⟩).addLease ⟨sessionId, world.mutexes.length, false⟩
    (by simp [addMutex])

omit [DecidableEq ι] in
theorem acquireFrom_free (ids : List ℤ) (pos : 0 < sessionId)
    (free : ¬ world.Locked (leaseFile host self.qmtPath sessionId)) :
    (self.acquireFrom host (sessionId :: ids) ()).Reaches (Answers process) world
      (.done (.ok ⟨world.leases.length, sessionId, world.mutexes.length⟩, ()))
      (world.lease process (leaseFile host self.qmtPath sessionId) sessionId) := by
  obtain ⟨next, calls, locked, -⟩ : ∃ next, self.acquireFrom host (sessionId :: ids) () = _ ∧ _ :=
    acquireFrom_calls ids pos
  obtain ⟨last, builds, ends⟩ := locked world.mutexes.length
  rw [calls]
  apply Program.Reaches.call _ _ (.ok world.mutexes.length) _ _ _ _ ⟨free, rfl, rfl⟩
  rw [builds]
  apply Program.Reaches.call _ _ (.ok world.leases.length) _ _ _ _ ⟨rfl, _, rfl⟩
  rw [ends]
  exact .here _ _

omit [DecidableEq ι] in
theorem acquireFrom_contended (pos : 0 < sessionId)
    (locked : world.Locked (leaseFile host self.qmtPath sessionId))
    (rest : (self.acquireFrom host ids ()).Reaches (Answers process) world reached final) :
    (self.acquireFrom host (sessionId :: ids) ()).Reaches (Answers process) world reached final := by
  obtain ⟨next, calls, -, contended⟩ : ∃ next, self.acquireFrom host (sessionId :: ids) () = _ ∧ _ :=
    acquireFrom_calls ids pos
  rw [calls]
  apply Program.Reaches.call _ _ (.error ⟨.concurrentExecutionError, "another executor owns the lock"⟩)
    _ _ _ _ ⟨locked, rfl, rfl⟩
  rw [contended]
  exact rest

def plainHost : LeaseHost where
  gettempdir := "/tmp"
  resolvePath := id
  qmtPathFingerprint := id
  seed _ := 1

theorem plainPoolStart_pos : (0 : ℤ) < 100 := by decide

def plainAllocator : BoundedSessionIdAllocator where
  qmtPath := "qmt"
  poolStart := 100
  poolSize := 2
  attempts := 2
  poolStart_pos := plainPoolStart_pos
  poolSize_pos := by decide
  attempts_pos := by decide
  attempts_le := by decide
  fits := by decide

theorem session_ids_leased_once_contended : ∃ config trails ended,
    Team.Recorded (leaseTeam plainHost "qmt") (Team.start (LeaseWorld.empty : LeaseWorld Bool)) config
      trails ended ∧
    (.acquire plainAllocator "a1", .ok (.leased ⟨0, 101, 0⟩), ()) ∈ config.results ∧
    (.acquire plainAllocator "a1", .ok (.leased ⟨1, 100, 1⟩), ()) ∈ config.results ∧
    (config.world.unreleased.map (·.sessionId)).Nodup := by
  have candidates : plainAllocator.candidateIds plainHost "a1" = .ok [101, 100] := by decide
  have ran : ∀ {process : Bool} {world final : LeaseWorld Bool} {lease : SessionIdLease},
      (plainAllocator.acquireFrom plainHost [101, 100] ()).Reaches (Answers process) world
        (.done (.ok lease, ())) final →
      ((leaseTeam plainHost "qmt").run process (.acquire plainAllocator "a1")).Reaches
        ((leaseTeam plainHost "qmt").answers process) world (.done (.ok (.leased lease), ())) final := by
    intro process world final lease reaches
    have run := reaches.bind acquired
    rw [← acquire_run candidates] at run
    exact run
  have free : ¬ (LeaseWorld.empty : LeaseWorld Bool).Locked (leaseFile plainHost "qmt" 101) := by
    rintro ⟨mutex, listed, -⟩
    cases listed
  have one : (plainAllocator.acquireFrom plainHost [101, 100] ()).Reaches (Answers true) LeaseWorld.empty
      (.done (.ok ⟨0, 101, 0⟩, ())) (LeaseWorld.empty.lease true (leaseFile plainHost "qmt" 101) 101) :=
    acquireFrom_free [100] (by decide) free
  have held : (LeaseWorld.empty.lease true (leaseFile plainHost "qmt" 101) 101).Locked
      (leaseFile plainHost "qmt" 101) := ⟨_, List.mem_singleton_self _, rfl, rfl⟩
  have other : ¬ (LeaseWorld.empty.lease true (leaseFile plainHost "qmt" 101) 101).Locked
      (leaseFile plainHost "qmt" 100) := by
    rintro ⟨mutex, listed, -, path⟩
    cases List.mem_singleton.1 listed
    cases leaseFile_injective path
  have two : (plainAllocator.acquireFrom plainHost [101, 100] ()).Reaches (Answers false) _
      (.done (.ok ⟨1, 100, 1⟩, ())) _ :=
    acquireFrom_contended (by decide) held (acquireFrom_free [] (by decide) other)
  have first : Team.Steps (leaseTeam plainHost "qmt") (Team.start (LeaseWorld.empty : LeaseWorld Bool))
      ⟨fun _ => none, [(.acquire plainAllocator "a1", .ok (.leased ⟨0, 101, 0⟩), ())], _⟩ :=
    Team.Steps.operation rfl rfl (ran one)
  have second : Team.Steps (leaseTeam plainHost "qmt")
      ⟨fun _ => none, [(.acquire plainAllocator "a1", .ok (.leased ⟨0, 101, 0⟩), ())], _⟩
      ⟨fun _ => none, [(.acquire plainAllocator "a1", .ok (.leased ⟨1, 100, 1⟩), ()),
        (.acquire plainAllocator "a1", .ok (.leased ⟨0, 101, 0⟩), ())], _⟩ :=
    Team.Steps.operation rfl rfl (ran two)
  obtain ⟨trails, ended, recorded⟩ := (first.trans second).recorded
  exact ⟨_, trails, ended, recorded, .tail _ (.head _), .head _, (session_ids_leased_once recorded).2.1⟩

end Leased

end QmtExecution.SessionIds
