import QmtExecution.MiniQmt.SessionIds
import Mathlib

/-! No session id of a qmt path is leased twice, whatever the processes do with it, and `acquire`
finds a free candidate within its bounded attempts. -/

namespace QmtExecution.SessionIds

open Interaction Method

namespace BoundedSessionIdAllocator

variable {host : LeaseHost} {self : BoundedSessionIdAllocator} {preferredKey : String} {ids : List ℤ}

theorem make_ok {qmtPath : String} {poolStart poolSize attempts : ℤ} (start : 0 < poolStart)
    (size : 0 < poolSize) (tries : 0 < attempts) (range : poolStart + poolSize - 1 ≤ 2147483647) :
    ∃ allocator, make host qmtPath poolStart poolSize attempts = .ok allocator ∧
      allocator.poolStart = poolStart ∧ allocator.poolSize = poolSize ∧
      allocator.attempts = min attempts poolSize := by
  unfold make
  rw [dif_neg (not_le.2 start), dif_neg (not_le.2 size), dif_neg (not_le.2 tries),
    dif_neg (not_lt.2 range)]
  exact ⟨_, rfl, rfl, rfl, rfl⟩

theorem candidateIds_ok (key : preferredKey ≠ "") :
    self.candidateIds host preferredKey = .ok ((List.range self.attempts.toNat).map fun (index : ℕ) =>
      self.poolStart + ((host.seed preferredKey : ℤ) % self.poolSize + index) % self.poolSize) :=
  if_neg key

theorem candidateIds_eq (same : self.candidateIds host preferredKey = .ok ids) :
    ids = (List.range self.attempts.toNat).map fun (index : ℕ) =>
      self.poolStart + ((host.seed preferredKey : ℤ) % self.poolSize + index) % self.poolSize := by
  by_cases empty : preferredKey = ""
  · unfold candidateIds at same
    rw [if_pos empty] at same
    cases same
  · rw [candidateIds_ok empty] at same
    cases same
    rfl

theorem candidates_length (same : self.candidateIds host preferredKey = .ok ids) :
    (ids.length : ℤ) = self.attempts := by
  rw [candidateIds_eq same, List.length_map, List.length_range]
  exact Int.toNat_of_nonneg self.attempts_pos.le

theorem window_injective {size offset first second : ℤ} (nonneg : 0 ≤ first) (below : first < size)
    (nonneg' : 0 ≤ second) (below' : second < size)
    (same : (offset + first) % size = (offset + second) % size) : first = second := by
  have congruent : first % size = second % size := Int.ModEq.add_left_cancel' offset same
  rwa [Int.emod_eq_of_lt nonneg below, Int.emod_eq_of_lt nonneg' below'] at congruent

theorem candidates_nodup (same : self.candidateIds host preferredKey = .ok ids) : ids.Nodup := by
  rw [candidateIds_eq same]
  apply List.Nodup.map_on _ List.nodup_range
  intro first inside second inside' equal
  have below : ∀ index ∈ List.range self.attempts.toNat, (index : ℤ) < self.poolSize := by
    intro index listed
    have := List.mem_range.1 listed
    have := self.attempts_le
    omega
  apply Int.natCast_inj.1
  exact window_injective (Int.natCast_nonneg _) (below _ inside) (Int.natCast_nonneg _)
    (below _ inside') (add_left_cancel equal)

theorem candidates_within (same : self.candidateIds host preferredKey = .ok ids) :
    ∀ id ∈ ids, self.poolStart ≤ id ∧ id ≤ self.poolStart + self.poolSize - 1 := by
  rw [candidateIds_eq same]
  intro id listed
  obtain ⟨index, -, rfl⟩ := List.mem_map.1 listed
  have nonneg := Int.emod_nonneg
    ((host.seed preferredKey : ℤ) % self.poolSize + index) self.poolSize_pos.ne'
  have below := Int.emod_lt_of_pos
    ((host.seed preferredKey : ℤ) % self.poolSize + index) self.poolSize_pos
  omega

theorem candidates_pos (same : self.candidateIds host preferredKey = .ok ids) :
    ∀ id ∈ ids, 0 < id := by
  intro id listed
  have start := self.poolStart_pos
  have := (candidates_within same id listed).1
  omega

theorem leaseFile_injective {qmtPath : String} {first second : ℤ}
    (same : leaseFile host qmtPath first = leaseFile host qmtPath second) : first = second := by
  unfold leaseFile at same
  apply Int.repr_injective
  exact (String.append_right_inj _).1 ((String.append_left_inj _).1 same)

theorem leasePath_ok {sessionId : ℤ} (pos : 0 < sessionId) :
    self.leasePath host sessionId = .ok (leaseFile host self.qmtPath sessionId) :=
  if_neg (not_le.2 pos)

end BoundedSessionIdAllocator

open BoundedSessionIdAllocator

variable {ι : Type} {host : LeaseHost} {qmtPath : String}

/-- A lock has one owner, a mutex that has its handle has its lock, and each lease has a mutex of
its own, for the file of its session id. -/
structure LeaseWorld.Sound (host : LeaseHost) (qmtPath : String) (world : LeaseWorld ι) : Prop where
  locks : ∀ (m n : ℕ) (first second : ExecutionMutex ι), world.mutexes[m]? = some first → world.mutexes[n]? = some second →
    first.locked = true → second.locked = true → first.path = second.path → m = n
  owns : ∀ (m : ℕ) (mutex : ExecutionMutex ι), world.mutexes[m]? = some mutex → mutex.owned = true → mutex.locked = true
  leases : ∀ (l : ℕ) (lease : LeaseObject), world.leases[l]? = some lease → ∃ mutex : ExecutionMutex ι,
    world.mutexes[lease.mutex]? = some mutex ∧ mutex.path = leaseFile host qmtPath lease.sessionId ∧
      (lease.released = true → mutex.owned = false)
  apart : (world.leases.map (·.mutex)).Nodup

def LeaseWorld.Disowned (world : LeaseWorld ι) (mutex : ℕ) : Prop :=
  ∃ found : ExecutionMutex ι, world.mutexes[mutex]? = some found ∧ found.owned = false

structure LeaseWorld.Evolves (host : LeaseHost) (qmtPath : String) (world after : LeaseWorld ι) :
    Prop where
  mutexes : ∀ (m : ℕ) (mutex : ExecutionMutex ι), world.mutexes[m]? = some mutex → ∃ later : ExecutionMutex ι,
    after.mutexes[m]? = some later ∧ later.path = mutex.path ∧
    later.holder = mutex.holder ∧ (later.owned = true → mutex.owned = true)
  leases : ∀ (l : ℕ) (lease : LeaseObject), world.leases[l]? = some lease → ∃ later : LeaseObject,
    after.leases[l]? = some later ∧ later.sessionId = lease.sessionId ∧ later.mutex = lease.mutex ∧
      (later.released = true → lease.released = true ∨ after.Disowned lease.mutex)
  sound : world.Sound host qmtPath → after.Sound host qmtPath

/-- The mutex of a process for which it has not built a lease yet. -/
def LeaseWorld.Fresh (world : LeaseWorld ι) (process : ι) (mutex : ℕ) (path : String) : Prop :=
  ∃ found : ExecutionMutex ι, world.mutexes[mutex]? = some found ∧ found.holder = process ∧ found.path = path ∧
    ∀ lease ∈ world.leases, lease.mutex ≠ mutex

/-- A process can rely on the others not to lease by its own mutexes. -/
structure LeaseWorld.Relies (host : LeaseHost) (qmtPath : String) (process : ι)
    (world after : LeaseWorld ι) : Prop where
  evolves : world.Evolves host qmtPath after
  fresh : ∀ mutex path, world.Fresh process mutex path → after.Fresh process mutex path

def LeaseWorld.Permits (host : LeaseHost) (qmtPath : String) (process : ι) (world : LeaseWorld ι) :
    LeaseCommand → Prop
  | .newLease sessionId mutex => world.Fresh process mutex (leaseFile host qmtPath sessionId)
  | .unlock mutex => world.Disowned mutex
  | .markReleased l => ∀ lease : LeaseObject, world.leases[l]? = some lease → world.Disowned lease.mutex
  | _ => True

namespace LeaseWorld

variable {world middle after : LeaseWorld ι} {process : ι}

theorem Sound.unreleased (sound : world.Sound host qmtPath) (lease : LeaseObject)
    (listed : lease ∈ world.unreleased) : ∃ mutex : ExecutionMutex ι,
      world.mutexes[lease.mutex]? = some mutex ∧ mutex.locked = true ∧
      mutex.path = leaseFile host qmtPath lease.sessionId := by
  obtain ⟨present, owned⟩ := List.mem_filter.1 listed
  obtain ⟨l, here⟩ := List.mem_iff_getElem?.1 present
  obtain ⟨mutex, found, path, -⟩ := sound.leases l lease here
  rw [found] at owned
  exact ⟨mutex, found, sound.owns _ mutex found owned, path⟩

theorem Sound.exclusive (sound : world.Sound host qmtPath) :
    (world.unreleased.map (·.sessionId)).Nodup := by
  have apart : world.leases.Pairwise fun first second => first.mutex ≠ second.mutex :=
    List.pairwise_map.1 sound.apart
  have kept : world.unreleased.Pairwise fun first second => first.mutex ≠ second.mutex :=
    apart.sublist List.filter_sublist
  apply List.pairwise_map.2
  apply kept.imp_of_mem
  intro first second inside inside' different same
  obtain ⟨one, found, holds, path⟩ := sound.unreleased first inside
  obtain ⟨two, found', holds', path'⟩ := sound.unreleased second inside'
  apply different
  apply sound.locks _ _ one two found found' holds holds'
  rw [path, path', same]

theorem empty_sound : (empty : LeaseWorld ι).Sound host qmtPath := by
  constructor
  · intro m n first second found
    cases found
  · intro m mutex found
    cases found
  · intro l lease found
    cases found
  · exact List.nodup_nil

theorem Evolves.disowned {mutex : ℕ} (evolves : world.Evolves host qmtPath after)
    (disowned : world.Disowned mutex) : after.Disowned mutex := by
  obtain ⟨found, here, owned⟩ := disowned
  obtain ⟨later, there, -, -, kept⟩ := evolves.mutexes mutex found here
  refine ⟨later, there, ?_⟩
  rw [← Bool.not_eq_true]
  intro holds
  rw [kept holds] at owned
  cases owned

theorem Evolves.refl (world : LeaseWorld ι) : world.Evolves host qmtPath world := by
  constructor
  · intro m mutex found
    exact ⟨mutex, found, rfl, rfl, id⟩
  · intro l lease found
    exact ⟨lease, found, rfl, rfl, .inl⟩
  · exact id

theorem Evolves.trans (first : world.Evolves host qmtPath middle)
    (second : middle.Evolves host qmtPath after) : world.Evolves host qmtPath after := by
  constructor
  · intro m mutex found
    obtain ⟨between, found, path, holder, owned⟩ := first.mutexes m mutex found
    obtain ⟨later, found, path', holder', owned'⟩ := second.mutexes m between found
    exact ⟨later, found, path'.trans path, holder'.trans holder, owned ∘ owned'⟩
  · intro l lease found
    obtain ⟨between, found, same, mutex, released⟩ := first.leases l lease found
    obtain ⟨later, found, same', mutex', released'⟩ := second.leases l between found
    refine ⟨later, found, same'.trans same, mutex'.trans mutex, ?_⟩
    intro given
    rw [mutex] at released'
    rcases released' given with before | disowned
    · rcases released before with earlier | disowned
      · exact .inl earlier
      · exact .inr (second.disowned disowned)
    · exact .inr disowned
  · exact second.sound ∘ first.sound

theorem evolves_chained : Chained (Evolves host qmtPath : LeaseWorld ι → LeaseWorld ι → Prop) :=
  ⟨Evolves.refl, Evolves.trans⟩

theorem relies_chained (process : ι) : Chained (Relies host qmtPath process) := by
  apply evolves_chained.and fun world after => ∀ mutex path,
    world.Fresh process mutex path → after.Fresh process mutex path
  · exact fun _ _ _ => id
  · exact fun first second mutex path => second mutex path ∘ first mutex path
  · intro world after
    exact ⟨fun relies => ⟨relies.evolves, relies.fresh⟩, fun relies => ⟨relies.1, relies.2⟩⟩

theorem changeMutexes_evolves (leases : after.leases = world.leases)
    (mutexes : ∀ (m : ℕ) (later : ExecutionMutex ι), after.mutexes[m]? = some later →
      ∃ mutex : ExecutionMutex ι, world.mutexes[m]? = some mutex ∧
      later.path = mutex.path ∧ later.holder = mutex.holder ∧
      (later.owned = true → mutex.owned = true) ∧ (later.locked = true → mutex.locked = true) ∧
      ((mutex.owned = true → mutex.locked = true) → later.owned = true → later.locked = true))
    (length : after.mutexes.length = world.mutexes.length) :
    world.Evolves host qmtPath after := by
  have kept : ∀ (m : ℕ) (mutex : ExecutionMutex ι), world.mutexes[m]? = some mutex →
      ∃ later : ExecutionMutex ι, after.mutexes[m]? = some later ∧
      later.path = mutex.path ∧ later.holder = mutex.holder ∧
      (later.owned = true → mutex.owned = true) := by
    intro m mutex found
    obtain ⟨inside, -⟩ := List.getElem?_eq_some_iff.1 found
    obtain ⟨here, there⟩ : ∃ here, after.mutexes[m]? = some here :=
      ⟨_, List.getElem?_eq_getElem (length ▸ inside)⟩
    obtain ⟨same, found', path, holder, owned, -⟩ := mutexes m _ there
    cases found.symm.trans found'
    exact ⟨_, there, path, holder, owned⟩
  constructor
  · exact kept
  · intro l lease found
    rw [leases]
    exact ⟨lease, found, rfl, rfl, .inl⟩
  · intro sound
    constructor
    · intro m n first second found found' locked locked' same
      obtain ⟨one, here, path, -, -, before, -⟩ := mutexes m first found
      obtain ⟨two, here', path', -, -, before', -⟩ := mutexes n second found'
      apply sound.locks m n one two here here' (before locked) (before' locked')
      rw [← path, ← path', same]
    · intro m mutex found owned
      obtain ⟨before, here, -, -, -, -, owns⟩ := mutexes m mutex found
      exact owns (sound.owns m before here) owned
    · intro l lease found
      rw [leases] at found
      obtain ⟨mutex, here, path, released⟩ := sound.leases l lease found
      obtain ⟨later, there, same, -, owned⟩ := kept _ mutex here
      refine ⟨later, there, same.trans path, ?_⟩
      intro given
      rw [← Bool.not_eq_true]
      intro holds
      rw [released given] at owned
      cases owned holds
    · rw [leases]
      exact sound.apart

theorem changeMutex_getElem? {m n : ℕ} {change : ExecutionMutex ι → ExecutionMutex ι}
    {later : ExecutionMutex ι} (found : (world.changeMutex m change).mutexes[n]? = some later) :
    ∃ mutex, world.mutexes[n]? = some mutex ∧ (later = mutex ∨ m = n ∧ later = change mutex) := by
  unfold changeMutex at found
  rw [List.getElem?_modify] at found
  obtain ⟨mutex, here, same⟩ := Option.map_eq_some_iff.1 found
  refine ⟨mutex, here, ?_⟩
  split at same
  · exact .inr ⟨‹m = n›, same.symm⟩
  · exact .inl same.symm

theorem disown_evolves (m : ℕ) : world.Evolves host qmtPath (world.disown m) := by
  have leases : (world.disown m).leases = world.leases := rfl
  apply changeMutexes_evolves leases _ (List.length_modify _ _ _)
  intro n later found
  obtain ⟨mutex, here, rfl | ⟨-, rfl⟩⟩ := changeMutex_getElem? found
  · exact ⟨later, here, rfl, rfl, id, id, id⟩
  · refine ⟨mutex, here, rfl, rfl, ?_, id, ?_⟩
    · intro owned
      cases owned
    · intro _ owned
      cases owned

theorem unlock_evolves {m : ℕ} (disowned : world.Disowned m) :
    world.Evolves host qmtPath (world.unlock m) := by
  have leases : (world.unlock m).leases = world.leases := rfl
  apply changeMutexes_evolves leases _ (List.length_modify _ _ _)
  intro n later found
  obtain ⟨mutex, here, rfl | ⟨rfl, rfl⟩⟩ := changeMutex_getElem? found
  · exact ⟨later, here, rfl, rfl, id, id, id⟩
  · obtain ⟨same, there, owned⟩ := disowned
    cases here.symm.trans there
    refine ⟨mutex, here, rfl, rfl, id, ?_, ?_⟩
    · intro locked
      cases locked
    · intro _ holds
      cases owned.symm.trans holds

theorem crash_evolves [DecidableEq ι] (process : ι) :
    world.Evolves host qmtPath (world.crash process) := by
  have leases : (world.crash process).leases = world.leases := rfl
  apply changeMutexes_evolves leases _ (List.length_map _)
  intro n later found
  unfold crash at found
  rw [List.getElem?_map] at found
  obtain ⟨mutex, here, same⟩ := Option.map_eq_some_iff.1 found
  refine ⟨mutex, here, ?_⟩
  split at same
  · subst same
    refine ⟨rfl, rfl, ?_, ?_, ?_⟩
    · intro owned
      cases owned
    · intro locked
      cases locked
    · intro _ owned
      cases owned
  · subst same
    exact ⟨rfl, rfl, id, id, id⟩

theorem append_getElem? {α : Type} {items : List α} {item later : α} {n : ℕ}
    (found : (items ++ [item])[n]? = some later) :
    items[n]? = some later ∨ n = items.length ∧ later = item := by
  rcases lt_trichotomy n items.length with below | rfl | above
  · rw [List.getElem?_append_left below] at found
    exact .inl found
  · rw [List.getElem?_concat_length] at found
    exact .inr ⟨rfl, (Option.some.inj found).symm⟩
  · rw [List.getElem?_eq_none (by simp; omega)] at found
    cases found

theorem getElem?_append {α : Type} {items : List α} {item found : α} {n : ℕ}
    (here : items[n]? = some found) : (items ++ [item])[n]? = some found := by
  obtain ⟨inside, -⟩ := List.getElem?_eq_some_iff.1 here
  rw [List.getElem?_append_left inside]
  exact here

theorem addMutex_evolves {path : String} (unlocked : ¬ world.Locked path) :
    world.Evolves host qmtPath (world.addMutex ⟨path, process, true, true⟩) := by
  have free : ∀ (n : ℕ) (mutex : ExecutionMutex ι), world.mutexes[n]? = some mutex →
      mutex.locked = true → mutex.path ≠ path := by
    intro n mutex found locked same
    exact unlocked ⟨mutex, List.mem_of_getElem? found, locked, same⟩
  constructor
  · intro m mutex found
    exact ⟨mutex, getElem?_append found, rfl, rfl, id⟩
  · intro l lease found
    exact ⟨lease, found, rfl, rfl, .inl⟩
  · intro sound
    constructor
    · intro m n first second found found' locked locked' same
      rcases append_getElem? found with old | ⟨rfl, rfl⟩
      · rcases append_getElem? found' with old' | ⟨rfl, rfl⟩
        · exact sound.locks m n first second old old' locked locked' same
        · exact absurd same (free m first old locked)
      · rcases append_getElem? found' with old' | ⟨rfl, rfl⟩
        · exact absurd same.symm (free n second old' locked')
        · rfl
    · intro m mutex found owned
      rcases append_getElem? found with old | ⟨rfl, rfl⟩
      · exact sound.owns m mutex old owned
      · rfl
    · intro l lease found
      obtain ⟨mutex, here, path, released⟩ := sound.leases l lease found
      exact ⟨mutex, getElem?_append here, path, released⟩
    · exact sound.apart

theorem addLease_evolves {sessionId : ℤ} {m : ℕ} (refers : m < world.mutexes.length)
    (fresh : world.Fresh process m (leaseFile host qmtPath sessionId)) :
    world.Evolves host qmtPath (world.addLease ⟨sessionId, m, false⟩ refers) := by
  obtain ⟨mutex, here, holder, path, unused⟩ := fresh
  constructor
  · intro n other found
    exact ⟨other, found, rfl, rfl, id⟩
  · intro l lease found
    exact ⟨lease, getElem?_append found, rfl, rfl, .inl⟩
  · intro sound
    constructor
    · exact sound.locks
    · exact sound.owns
    · intro l lease found
      rcases append_getElem? found with old | ⟨rfl, rfl⟩
      · exact sound.leases l lease old
      · exact ⟨mutex, here, path, fun released => by cases released⟩
    · unfold addLease
      rw [List.map_append, List.map_singleton, List.nodup_append]
      refine ⟨sound.apart, List.nodup_singleton _, ?_⟩
      intro one listed two same
      obtain ⟨lease, present, rfl⟩ := List.mem_map.1 listed
      rw [List.mem_singleton.1 same]
      exact unused lease present

theorem markReleased_getElem? {l n : ℕ} {later : LeaseObject}
    (found : (world.markReleased l).leases[n]? = some later) :
    ∃ lease, world.leases[n]? = some lease ∧
      (later = lease ∨ l = n ∧ later = { lease with released := true }) := by
  unfold markReleased at found
  rw [List.getElem?_modify] at found
  obtain ⟨lease, here, same⟩ := Option.map_eq_some_iff.1 found
  refine ⟨lease, here, ?_⟩
  split at same
  · exact .inr ⟨‹l = n›, same.symm⟩
  · exact .inl same.symm

theorem markReleased_mutexes (l : ℕ) :
    (world.markReleased l).leases.map (·.mutex) = world.leases.map (·.mutex) := by
  apply List.ext_getElem?
  intro n
  unfold markReleased
  rw [List.getElem?_map, List.getElem?_map, List.getElem?_modify]
  cases world.leases[n]? with
  | none => rfl
  | some lease =>
      by_cases same : l = n
      · simp [same]
      · simp [same]

theorem markReleased_evolves {l : ℕ}
    (disowned : ∀ lease, world.leases[l]? = some lease → world.Disowned lease.mutex) :
    world.Evolves host qmtPath (world.markReleased l) := by
  constructor
  · intro m mutex found
    exact ⟨mutex, found, rfl, rfl, id⟩
  · intro n lease found
    refine ⟨if l = n then { lease with released := true } else lease, ?_, ?_⟩
    · unfold markReleased
      rw [List.getElem?_modify, found]
      rfl
    · split
      · rename_i same
        subst same
        exact ⟨rfl, rfl, fun _ => .inr (disowned lease found)⟩
      · exact ⟨rfl, rfl, .inl⟩
  · intro sound
    constructor
    · exact sound.locks
    · exact sound.owns
    · intro n later found
      obtain ⟨lease, here, rfl | ⟨rfl, rfl⟩⟩ := markReleased_getElem? found
      · exact sound.leases n later here
      · obtain ⟨mutex, there, path, -⟩ := sound.leases l lease here
        obtain ⟨same, held, owned⟩ := disowned lease here
        cases there.symm.trans held
        exact ⟨mutex, there, path, fun _ => owned⟩
    · rw [markReleased_mutexes]
      exact sound.apart

theorem answers_cases {command : LeaseCommand} {answer : Except Exc (LeaseResult command)}
    (law : world.Answers process command answer after) :
    after = world ∨
    (∃ path, ¬ world.Locked path ∧ after = world.addMutex ⟨path, process, true, true⟩) ∨
    (∃ sessionId mutex, command = .newLease sessionId mutex ∧
      ∃ refers, after = world.addLease ⟨sessionId, mutex, false⟩ refers) ∨
    (∃ mutex, after = world.disown mutex) ∨
    (∃ mutex, command = .unlock mutex ∧ after = world.unlock mutex) ∨
    ∃ lease, command = .markReleased lease ∧ after = world.markReleased lease := by
  cases command with
  | lock path =>
      cases answer with
      | ok mutex => exact .inr (.inl ⟨path, law.1, law.2.2⟩)
      | error exc => exact .inl law.2.1
  | newLease sessionId mutex =>
      cases answer with
      | ok lease => exact .inr (.inr (.inl ⟨sessionId, mutex, rfl, law.2⟩))
      | error exc => exact law.elim
  | released lease =>
      cases answer with
      | ok released => exact .inl law.2
      | error exc => exact law.elim
  | owned mutex =>
      cases answer with
      | ok owned => exact .inl law.2
      | error exc => exact law.elim
  | disown mutex =>
      cases answer with
      | ok value => exact .inr (.inr (.inr (.inl ⟨mutex, law⟩)))
      | error exc => exact law.elim
  | unlock mutex =>
      cases answer with
      | ok value => exact .inr (.inr (.inr (.inr (.inl ⟨mutex, rfl, law.2⟩))))
      | error exc => exact .inl law.2.1
  | markReleased lease =>
      cases answer with
      | ok value => exact .inr (.inr (.inr (.inr (.inr ⟨lease, rfl, law⟩))))
      | error exc => exact law.elim

theorem answers_evolves {command : LeaseCommand} {answer : Except Exc (LeaseResult command)}
    (permitted : world.Permits host qmtPath process command)
    (law : world.Answers process command answer after) : world.Evolves host qmtPath after := by
  rcases answers_cases law with rfl | ⟨path, unlocked, rfl⟩ | ⟨sessionId, mutex, rfl, refers, rfl⟩ |
    ⟨mutex, rfl⟩ | ⟨mutex, rfl, rfl⟩ | ⟨lease, rfl, rfl⟩
  · exact .refl _
  · exact addMutex_evolves unlocked
  · exact addLease_evolves refers permitted
  · exact disown_evolves mutex
  · exact unlock_evolves permitted
  · exact markReleased_evolves permitted

theorem answers_leases {command : LeaseCommand} {answer : Except Exc (LeaseResult command)}
    (law : world.Answers process command answer after) {lease : LeaseObject}
    (listed : lease ∈ after.leases) : (∃ old ∈ world.leases, old.mutex = lease.mutex) ∨
      ∃ sessionId, command = .newLease sessionId lease.mutex := by
  rcases answers_cases law with rfl | ⟨path, _, rfl⟩ | ⟨sessionId, mutex, same, _, rfl⟩ |
    ⟨mutex, rfl⟩ | ⟨mutex, -, rfl⟩ | ⟨l, -, rfl⟩
  · exact .inl ⟨lease, listed, rfl⟩
  · exact .inl ⟨lease, listed, rfl⟩
  · rcases List.mem_append.1 listed with old | new
    · exact .inl ⟨lease, old, rfl⟩
    · cases List.mem_singleton.1 new
      exact .inr ⟨sessionId, same⟩
  · exact .inl ⟨lease, listed, rfl⟩
  · exact .inl ⟨lease, listed, rfl⟩
  · obtain ⟨old, present, -, same⟩ := mem_modify listed
    exact .inl ⟨old, present, same⟩

theorem Fresh.kept {m : ℕ} {path : String} (evolves : world.Evolves host qmtPath after)
    (fresh : world.Fresh process m path)
    (leases : ∀ lease ∈ after.leases, lease.mutex = m → ∃ old ∈ world.leases, old.mutex = m) :
    after.Fresh process m path := by
  obtain ⟨mutex, here, holder, same, unused⟩ := fresh
  obtain ⟨later, there, same', holder', -⟩ := evolves.mutexes m mutex here
  refine ⟨later, there, holder'.trans holder, same'.trans same, ?_⟩
  intro lease listed equal
  obtain ⟨old, present, mine⟩ := leases lease listed equal
  exact unused old present mine

theorem answers_relies {other : ι} (different : other ≠ process) {command : LeaseCommand}
    {answer : Except Exc (LeaseResult command)}
    (permitted : world.Permits host qmtPath process command)
    (law : world.Answers process command answer after) :
    world.Relies host qmtPath other after := by
  have evolves := answers_evolves permitted law
  refine ⟨evolves, ?_⟩
  intro m path fresh
  apply fresh.kept evolves
  intro lease listed equal
  rcases answers_leases law listed with ⟨old, present, same⟩ | ⟨sessionId, rfl⟩
  · exact ⟨old, present, same.trans equal⟩
  · obtain ⟨mutex, here, holder, -, -⟩ := fresh
    obtain ⟨mine, there, held, -, -⟩ := permitted
    rw [equal] at there
    cases here.symm.trans there
    exact absurd (holder.symm.trans held) different

theorem crash_relies [DecidableEq ι] (other : ι) :
    world.Relies host qmtPath other (world.crash process) := by
  have evolves : world.Evolves host qmtPath (world.crash process) := crash_evolves process
  refine ⟨evolves, ?_⟩
  intro m path fresh
  apply fresh.kept evolves
  intro lease listed equal
  exact ⟨lease, listed, equal⟩

def Holds (world : LeaseWorld ι) (lease : SessionIdLease) : Prop :=
  ∃ object, world.leases[lease.lease]? = some object ∧ object.sessionId = lease.sessionId ∧
    object.mutex = lease.mutex ∧ (object.released = true → world.Disowned lease.mutex)

theorem Evolves.holds {lease : SessionIdLease} (evolves : world.Evolves host qmtPath after)
    (holds : world.Holds lease) : after.Holds lease := by
  obtain ⟨object, here, sessionId, mutex, released⟩ := holds
  obtain ⟨later, there, sessionId', mutex', released'⟩ := evolves.leases _ object here
  refine ⟨later, there, sessionId'.trans sessionId, mutex'.trans mutex, ?_⟩
  intro given
  rw [mutex] at released'
  rcases released' given with before | disowned
  · exact evolves.disowned (released before)
  · exact disowned

theorem Holds.mutex {lease : SessionIdLease} (holds : world.Holds lease) :
    ∃ found, world.mutexes[lease.mutex]? = some found := by
  obtain ⟨object, here, -, same, -⟩ := holds
  have inside := world.referred object (List.mem_of_getElem? here)
  rw [same] at inside
  exact ⟨_, List.getElem?_eq_getElem inside⟩

end LeaseWorld

namespace LeaseOperation

def Promises (operation : LeaseOperation) (result : Except Exc LeaseOutcome × Unit)
    (world : LeaseWorld ι) : Prop :=
  match operation, result.1 with
  | .release lease, .ok .done => world.Disowned lease.mutex
  | _, .ok (.leased lease) => world.Holds lease
  | _, _ => True

end LeaseOperation

open LeaseWorld

section Leasing

variable {process : ι} {self : BoundedSessionIdAllocator}

abbrev Assured {α : Type} (host : LeaseHost) (qmtPath : String) (process : ι)
    (pre : LeaseWorld ι → Prop) (method : LeaseM α) (post : α → LeaseWorld ι → Prop) : Prop :=
  method.Assures (Relies host qmtPath process) (Permits host qmtPath process) (Answers process) pre post

theorem stable_true : Stable (Relies host qmtPath process) fun _ : LeaseWorld ι => True :=
  fun _ _ _ _ => trivial

theorem stable_fresh (mutex : ℕ) (path : String) :
    Stable (Relies host qmtPath process) fun world => world.Fresh process mutex path :=
  fun _ _ relied fresh => relied.fresh mutex path fresh

theorem stable_holds (lease : SessionIdLease) :
    Stable (Relies host qmtPath process) fun world : LeaseWorld ι => world.Holds lease :=
  fun _ _ relied holds => relied.evolves.holds holds

theorem stable_disowned (mutex : ℕ) :
    Stable (Relies host qmtPath process) fun world : LeaseWorld ι => world.Disowned mutex :=
  fun _ _ relied disowned => relied.evolves.disowned disowned

theorem lock_assures {path : String} : Assured host qmtPath process (fun _ => True)
    (ask (.lock path)) fun (mutex : ℕ) world => world.Fresh process mutex path := by
  apply Method.assures_perform stable_true
  · exact fun _ _ => trivial
  · exact fun mutex => stable_fresh mutex path
  · intro world mutex after _ law
    obtain ⟨-, rfl, rfl⟩ := law
    refine ⟨⟨path, process, true, true⟩, List.getElem?_concat_length, rfl, rfl, ?_⟩
    intro lease listed same
    have inside := world.referred lease listed
    omega

theorem newLease_assures {sessionId : ℤ} {mutex : ℕ} : Assured host qmtPath process
    (fun world => world.Fresh process mutex (leaseFile host qmtPath sessionId))
    (ask (.newLease sessionId mutex)) fun (lease : ℕ) world => world.Holds ⟨lease, sessionId, mutex⟩ := by
  apply Method.assures_perform (stable_fresh _ _)
  · exact fun _ fresh => fresh
  · exact fun lease => stable_holds _
  · intro world lease after _ law
    obtain ⟨rfl, refers, rfl⟩ := law
    refine ⟨⟨sessionId, mutex, false⟩, List.getElem?_concat_length, rfl, rfl, ?_⟩
    intro released
    cases released

theorem acquireExact_assures (sessionId : ℤ) (path : self.qmtPath = qmtPath) :
    Assured host qmtPath process (fun _ => True) (self.acquireExact host sessionId)
      fun lease world => world.Holds lease := by
  have computed : Assured host qmtPath process (fun _ => True)
      (Method.ofExcept (self.leasePath host sessionId)) fun file _ =>
        file = leaseFile host qmtPath sessionId := by
    apply Method.assures_ofExcept
    intro file same world _
    unfold leasePath at same
    split at same
    · cases same
    · cases same
      rw [path]
  apply Method.assures_bind computed
  intro file
  apply Method.assures_under fun _ same => same
  intro same
  subst same
  apply Method.assures_bind (Method.assures_attempt (lock_assures.narrow fun _ _ => trivial))
  intro outcome
  cases outcome with
  | ok mutex =>
      apply Method.assures_bind (newLease_assures.narrow fun _ fresh => fresh mutex rfl)
      intro lease
      exact Method.assures_pure fun _ holds => holds
  | error exc =>
      apply Method.assures_ite
      · exact fun _ => Method.assures_raise _
      · exact fun _ => Method.assures_raise _

theorem acquireFrom_assures (ids : List ℤ) (path : self.qmtPath = qmtPath) :
    Assured host qmtPath process (fun _ => True) (self.acquireFrom host ids)
      fun lease world => world.Holds lease := by
  induction ids with
  | nil => exact Method.assures_raise _
  | cons sessionId rest ih =>
      apply Method.assures_bind (Method.assures_attempt (acquireExact_assures sessionId path))
      intro outcome
      cases outcome with
      | ok lease => exact Method.assures_pure fun _ holds => holds lease rfl
      | error exc =>
          apply Method.assures_ite
          · exact fun _ => ih.narrow fun _ _ => trivial
          · exact fun _ => Method.assures_raise _

theorem acquire_assures (preferredKey : String) (path : self.qmtPath = qmtPath) :
    Assured host qmtPath process (fun _ => True) (self.acquire host preferredKey)
      fun lease world => world.Holds lease := by
  have computed : Assured host qmtPath process (fun _ => True)
      (Method.ofExcept (self.candidateIds host preferredKey)) fun _ _ => True :=
    Method.assures_ofExcept fun _ _ _ _ => trivial
  apply Method.assures_bind computed
  intro ids
  exact acquireFrom_assures ids path

theorem releaseMutex_assures {lease : SessionIdLease} : Assured host qmtPath process
    (fun world => world.Holds lease) (releaseMutex lease.mutex)
    fun _ world => world.Holds lease ∧ world.Disowned lease.mutex := by
  have stable : Stable (Relies host qmtPath process)
      fun world : LeaseWorld ι => world.Holds lease ∧ world.Disowned lease.mutex :=
    fun _ _ relied held => ⟨relied.evolves.holds held.1, relied.evolves.disowned held.2⟩
  have looked : Assured host qmtPath process (fun world => world.Holds lease)
      (ask (.owned lease.mutex)) fun _ world => world.Holds lease := by
    apply Method.assures_perform (stable_holds lease)
    · exact fun _ _ => trivial
    · exact fun _ => stable_holds lease
    · intro world owned after holds law
      rw [law.2]
      exact holds
  have taken : Assured host qmtPath process (fun world => world.Holds lease)
      (ask (.disown lease.mutex)) fun _ world => world.Holds lease ∧ world.Disowned lease.mutex := by
    apply Method.assures_perform (stable_holds lease)
    · exact fun _ _ => trivial
    · exact fun _ => stable
    · intro world value after holds law
      cases law
      obtain ⟨mutex, found⟩ := holds.mutex
      have evolves : world.Evolves host qmtPath (world.disown lease.mutex) := disown_evolves _
      refine ⟨evolves.holds holds, { mutex with owned := false }, ?_, rfl⟩
      unfold disown changeMutex
      rw [List.getElem?_modify, found]
      simp
  apply Method.assures_bind looked
  intro owned
  apply Method.assures_bind taken
  intro _
  apply Method.assures_ite
  · intro _
    apply Method.assures_perform stable
    · exact fun _ held => held.2
    · exact fun _ => stable
    · intro world value after held law
      have permitted : world.Permits host qmtPath process (.unlock lease.mutex) := held.2
      have evolves := answers_evolves permitted law
      exact ⟨evolves.holds held.1, evolves.disowned held.2⟩
  · intro _
    exact Method.assures_pure fun _ held => held

theorem release_assures (lease : SessionIdLease) : Assured host qmtPath process
    (fun world => world.Holds lease) lease.release fun _ world => world.Disowned lease.mutex := by
  have looked : Assured host qmtPath process (fun world => world.Holds lease)
      (ask (.released lease.lease)) fun (released : Bool) world =>
        world.Holds lease ∧ (released = true → world.Disowned lease.mutex) := by
    apply Method.assures_perform (stable_holds lease)
    · exact fun _ _ => trivial
    · intro released world after relied held
      exact ⟨relied.evolves.holds held.1, fun given => relied.evolves.disowned (held.2 given)⟩
    · intro world released after holds law
      obtain ⟨answered, rfl⟩ := law
      refine ⟨holds, ?_⟩
      intro given
      obtain ⟨object, here, -, -, disowned⟩ := holds
      rw [here] at answered
      apply disowned
      exact (Option.some.inj answered).trans given
  apply Method.assures_bind looked
  intro released
  apply Method.assures_ite
  · intro given
    exact Method.assures_pure fun _ held => held.2 given
  · intro _
    apply Method.assures_bind (releaseMutex_assures.narrow fun _ held => held.1)
    intro _
    apply Method.assures_perform
    · intro world after relied held
      exact ⟨relied.evolves.holds held.1, relied.evolves.disowned held.2⟩
    · intro world held object here
      obtain ⟨same, there, -, mutex, -⟩ := held.1
      cases here.symm.trans there
      rw [mutex]
      exact held.2
    · exact fun _ => stable_disowned _
    · intro world value after held law
      cases law
      exact held.2

end Leasing

end QmtExecution.SessionIds
