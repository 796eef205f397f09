import QmtExecution.Domain
import QmtExecution.Interaction.Trails
import Mathlib.Tactic

/-! `miniqmt/session_id.py`: session ids that are leased by locks of the operating system, one lock
file for each session id of a qmt path, with the `ExecutionMutex` of `mutex.py`. -/

namespace QmtExecution.SessionIds

open Interaction Method

/-- What the allocators of one machine share: the directory for temporary files, the resolution
and the fingerprint of a path, and the number that the first eight bytes of a key's hash give. -/
structure LeaseHost where
  gettempdir : String
  resolvePath : String → String
  qmtPathFingerprint : String → String
  seed : String → ℕ

structure BoundedSessionIdAllocator where
  qmtPath : String
  poolStart : ℤ
  poolSize : ℤ
  attempts : ℤ
  poolStart_pos : 0 < poolStart
  poolSize_pos : 0 < poolSize
  attempts_pos : 0 < attempts
  attempts_le : attempts ≤ poolSize
  fits : poolStart + poolSize - 1 ≤ 2147483647

/-- What `ExecutionMutex` and `SessionIdLease` do to the files and the objects that they share:
`lock` is an attempt on the lock of a file, `owned`, `disown` and `unlock` are the steps of
`ExecutionMutex.release`. -/
inductive LeaseCommand
  | lock (path : String)
  | newLease (sessionId : ℤ) (mutex : ℕ)
  | released (lease : ℕ)
  | owned (mutex : ℕ)
  | disown (mutex : ℕ)
  | unlock (mutex : ℕ)
  | markReleased (lease : ℕ)

@[reducible] def LeaseResult : LeaseCommand → Type
  | .lock _ => ℕ
  | .newLease _ _ => ℕ
  | .released _ => Bool
  | .owned _ => Bool
  | _ => Unit

/-- A `SessionIdLease` as its callers hold it: `lease` and `mutex` name its objects. -/
structure SessionIdLease where
  lease : ℕ
  sessionId : ℤ
  mutex : ℕ
  deriving DecidableEq, Repr

abbrev LeaseM := Method LeaseCommand LeaseResult Unit Exc

def ask (command : LeaseCommand) : LeaseM (LeaseResult command) := Method.perform command

namespace BoundedSessionIdAllocator

/-- `BoundedSessionIdAllocator.__init__`. -/
def make (host : LeaseHost) (qmtPath : String) (poolStart poolSize attempts : ℤ) :
    Except Exc BoundedSessionIdAllocator :=
  if start : poolStart ≤ 0 then .error ⟨.valueError, "pool_start must be a positive plain int"⟩
  else if size : poolSize ≤ 0 then .error ⟨.valueError, "pool_size must be a positive plain int"⟩
  else if tries : attempts ≤ 0 then .error ⟨.valueError, "attempts must be a positive plain int"⟩
  else if range : 2147483647 < poolStart + poolSize - 1 then
    .error ⟨.valueError, "session id pool exceeds signed 32-bit range"⟩
  else .ok
    { qmtPath := host.resolvePath qmtPath
      poolStart := poolStart
      poolSize := poolSize
      attempts := min attempts poolSize
      poolStart_pos := not_le.1 start
      poolSize_pos := not_le.1 size
      attempts_pos := lt_min (not_le.1 tries) (not_le.1 size)
      attempts_le := min_le_right _ _
      fits := not_lt.1 range }

variable (host : LeaseHost) (self : BoundedSessionIdAllocator)

def leaseFile (qmtPath : String) (sessionId : ℤ) : String :=
  host.gettempdir ++ "/qmt-execution-core/session-leases/" ++ host.qmtPathFingerprint qmtPath ++ "-" ++
    toString sessionId ++ ".lock"

def leasePath (sessionId : ℤ) : Except Exc String :=
  if sessionId ≤ 0 then .error ⟨.valueError, "session_id must be a positive plain int"⟩
  else .ok (leaseFile host self.qmtPath sessionId)

def candidateIds (preferredKey : String) : Except Exc (List ℤ) :=
  if preferredKey = "" then .error ⟨.valueError, "preferred_key must be a non-empty string"⟩
  else
    let offset := (host.seed preferredKey : ℤ) % self.poolSize
    .ok ((List.range self.attempts.toNat).map fun (index : ℕ) =>
      self.poolStart + (offset + index) % self.poolSize)

def acquireExact (sessionId : ℤ) : LeaseM SessionIdLease := do
  let path ← Method.ofExcept (self.leasePath host sessionId)
  match ← attempt (ask (.lock path)) with
  | .ok mutex => do
      let lease ← ask (.newLease sessionId mutex)
      pure ⟨lease, sessionId, mutex⟩
  | .error exc =>
      if exc.isA .concurrentExecutionError then
        raise ⟨.sessionIdUnavailable,
          "MiniQMT session id " ++ toString sessionId ++ " is already leased"⟩
      else raise exc

def acquireFrom : List ℤ → LeaseM SessionIdLease
  | [] => raise ⟨.sessionIdUnavailable,
      "no MiniQMT session id is available in the configured bounded attempts"⟩
  | sessionId :: rest => do
      match ← attempt (self.acquireExact host sessionId) with
      | .ok lease => pure lease
      | .error exc =>
          if exc.isA .sessionIdUnavailable then acquireFrom rest else raise exc

def acquire (preferredKey : String) : LeaseM SessionIdLease := do
  let ids ← Method.ofExcept (self.candidateIds host preferredKey)
  self.acquireFrom host ids

end BoundedSessionIdAllocator

/-- `ExecutionMutex.release`. -/
def releaseMutex (mutex : ℕ) : LeaseM Unit := do
  let owned ← ask (.owned mutex)
  ask (.disown mutex)
  if owned then ask (.unlock mutex) else pure ()

def SessionIdLease.release (self : SessionIdLease) : LeaseM Unit := do
  if ← ask (.released self.lease) then pure ()
  else
    releaseMutex self.mutex
    ask (.markReleased self.lease)

/-- An `ExecutionMutex` that has been acquired: `owned` is whether it has its handle still, `locked`
whether that handle has the lock of the file. -/
structure ExecutionMutex (ι : Type) where
  path : String
  holder : ι
  owned : Bool
  locked : Bool

structure LeaseObject where
  sessionId : ℤ
  mutex : ℕ
  released : Bool

/-- The objects of all processes, with the locks that they have. A lease refers to its mutex. -/
structure LeaseWorld (ι : Type) where
  mutexes : List (ExecutionMutex ι)
  leases : List LeaseObject
  referred : ∀ lease ∈ leases, lease.mutex < mutexes.length

namespace LeaseWorld

variable {ι : Type}

def empty : LeaseWorld ι := ⟨[], [], by simp⟩

def Locked (world : LeaseWorld ι) (path : String) : Prop :=
  ∃ mutex ∈ world.mutexes, mutex.locked = true ∧ mutex.path = path

def unreleased (world : LeaseWorld ι) : List LeaseObject :=
  world.leases.filter fun lease => (world.mutexes[lease.mutex]?).any (·.owned)

def changeMutex (world : LeaseWorld ι) (mutex : ℕ) (change : ExecutionMutex ι → ExecutionMutex ι) :
    LeaseWorld ι where
  mutexes := world.mutexes.modify mutex change
  leases := world.leases
  referred lease listed := by
    rw [List.length_modify]
    exact world.referred lease listed

def disown (world : LeaseWorld ι) (mutex : ℕ) : LeaseWorld ι :=
  world.changeMutex mutex fun mutex => { mutex with owned := false }

def unlock (world : LeaseWorld ι) (mutex : ℕ) : LeaseWorld ι :=
  world.changeMutex mutex fun mutex => { mutex with locked := false }

theorem mem_modify {lease : LeaseObject} {leases : List LeaseObject} {l : ℕ}
    (listed : lease ∈ leases.modify l fun lease => { lease with released := true }) :
    ∃ old ∈ leases, old.sessionId = lease.sessionId ∧ old.mutex = lease.mutex := by
  obtain ⟨n, here⟩ := List.mem_iff_getElem?.1 listed
  rw [List.getElem?_modify] at here
  obtain ⟨old, found, same⟩ := Option.map_eq_some_iff.1 here
  refine ⟨old, List.mem_of_getElem? found, ?_⟩
  rw [← same]
  split
  · exact ⟨rfl, rfl⟩
  · exact ⟨rfl, rfl⟩

def markReleased (world : LeaseWorld ι) (lease : ℕ) : LeaseWorld ι where
  mutexes := world.mutexes
  leases := world.leases.modify lease fun lease => { lease with released := true }
  referred lease listed := by
    obtain ⟨old, present, -, same⟩ := mem_modify listed
    rw [← same]
    exact world.referred old present

def addMutex (world : LeaseWorld ι) (mutex : ExecutionMutex ι) : LeaseWorld ι where
  mutexes := world.mutexes ++ [mutex]
  leases := world.leases
  referred lease listed := by
    have := world.referred lease listed
    rw [List.length_append]
    omega

def addLease (world : LeaseWorld ι) (lease : LeaseObject)
    (refers : lease.mutex < world.mutexes.length) : LeaseWorld ι where
  mutexes := world.mutexes
  leases := world.leases ++ [lease]
  referred other listed := by
    rcases List.mem_append.1 listed with old | new
    · exact world.referred other old
    · rw [List.mem_singleton.1 new]
      exact refers

/-- How the calls of a process are answered. An attempt on a lock fails by contention alone; a
handle that has been closed cannot be unlocked again. -/
def Answers (process : ι) (world : LeaseWorld ι) :
    (command : LeaseCommand) → Except Exc (LeaseResult command) → LeaseWorld ι → Prop
  | .lock path, .ok mutex, after => ¬ world.Locked path ∧ mutex = world.mutexes.length ∧
      after = world.addMutex ⟨path, process, true, true⟩
  | .lock path, .error exc, after => world.Locked path ∧ after = world ∧
      exc = ⟨.concurrentExecutionError, "another executor owns the lock"⟩
  | .newLease sessionId mutex, .ok lease, after => lease = world.leases.length ∧
      ∃ refers, after = world.addLease ⟨sessionId, mutex, false⟩ refers
  | .released lease, .ok released, after =>
      world.leases[lease]?.map (·.released) = some released ∧ after = world
  | .owned mutex, .ok owned, after =>
      world.mutexes[mutex]?.map (·.owned) = some owned ∧ after = world
  | .disown mutex, .ok (), after => after = world.disown mutex
  | .unlock mutex, .ok (), after =>
      world.mutexes[mutex]?.map (·.locked) = some true ∧ after = world.unlock mutex
  | .unlock mutex, .error exc, after =>
      world.mutexes[mutex]?.map (·.locked) = some false ∧ after = world ∧
        exc = ⟨.valueError, "seek of closed file"⟩
  | .markReleased lease, .ok (), after => after = world.markReleased lease
  | _, .error _, _ => False

variable [DecidableEq ι]

/-- A process that ends, in whatever way, has no lock any more, and its objects are gone. -/
def crash (world : LeaseWorld ι) (process : ι) : LeaseWorld ι where
  mutexes := world.mutexes.map fun mutex =>
    if mutex.holder = process then { mutex with owned := false, locked := false } else mutex
  leases := world.leases
  referred lease listed := by
    rw [List.length_map]
    exact world.referred lease listed

end LeaseWorld

inductive LeaseOperation
  | acquire (allocator : BoundedSessionIdAllocator) (preferredKey : String)
  | acquireExact (allocator : BoundedSessionIdAllocator) (sessionId : ℤ)
  | release (lease : SessionIdLease)

inductive LeaseOutcome
  | leased (lease : SessionIdLease)
  | done

namespace LeaseOperation

def run (host : LeaseHost) : LeaseOperation → LeaseM LeaseOutcome
  | .acquire allocator preferredKey => do
      let lease ← allocator.acquire host preferredKey
      pure (.leased lease)
  | .acquireExact allocator sessionId => do
      let lease ← allocator.acquireExact host sessionId
      pure (.leased lease)
  | .release lease => do
      lease.release
      pure .done

abbrev Results : Type := List (LeaseOperation × Except Exc LeaseOutcome × Unit)

def Enabled (qmtPath : String) (results : Results) : LeaseOperation → Prop
  | .acquire allocator _ => allocator.qmtPath = qmtPath
  | .acquireExact allocator _ => allocator.qmtPath = qmtPath
  | .release lease => ∃ operation, (operation, .ok (.leased lease), ()) ∈ results

end LeaseOperation

def leaseTeam {ι : Type} [DecidableEq ι] (host : LeaseHost) (qmtPath : String) :
    Team LeaseCommand (fun command => Except Exc (LeaseResult command)) ι LeaseOperation
      (Except Exc LeaseOutcome × Unit) (LeaseWorld ι) where
  run _ operation := operation.run host ()
  enabled := LeaseOperation.Enabled qmtPath
  answers := LeaseWorld.Answers
  crashed process world after := after = world.crash process

end QmtExecution.SessionIds
