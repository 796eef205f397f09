import QmtExecution.MiniQmt.SessionIds

/-! The locks that one process has through its leases, where any attempt on a lock may fail. -/

namespace QmtExecution.SessionIds

open Interaction Method BoundedSessionIdAllocator

namespace LeaseWorld

def after (world : LeaseWorld Unit) (command : LeaseCommand)
    (answer : Except Exc (LeaseResult command)) : LeaseWorld Unit :=
  match command, answer with
  | .lock path, .ok _ => world.addMutex ⟨path, (), true, true⟩
  | .newLease sessionId mutex, .ok _ =>
      if refers : mutex < world.mutexes.length then world.addLease ⟨sessionId, mutex, false⟩ refers
      else world
  | .disown mutex, .ok _ => world.disown mutex
  | .unlock mutex, .ok _ => world.unlock mutex
  | .markReleased lease, .ok _ => world.markReleased lease
  | _, _ => world

/-- An attempt on a lock may raise anything; the rest is answered as it is. -/
def Tolerates (world : LeaseWorld Unit) (command : LeaseCommand)
    (answer : Except Exc (LeaseResult command)) : Prop :=
  match command, answer with
  | .lock _, .error _ => True
  | command, answer => Answers () world command answer (world.after command answer)

def Idle (world : LeaseWorld Unit) : Prop := ∀ mutex ∈ world.mutexes, mutex.locked = false

/-- The lease has its lock, and the process has no other. -/
structure Only (world : LeaseWorld Unit) (lease : SessionIdLease) : Prop where
  unreleased : world.leases[lease.lease]?.map (·.released) = some false
  owned : world.mutexes[lease.mutex]?.map (·.owned) = some true
  locked : world.mutexes[lease.mutex]?.map (·.locked) = some true
  others : ∀ (m : ℕ) (mutex : ExecutionMutex Unit), world.mutexes[m]? = some mutex →
    mutex.locked = true → m = lease.mutex

def HeldBy (world : LeaseWorld Unit) : Option SessionIdLease → Prop
  | none => world.Idle
  | some lease => world.Only lease

theorem Only.busy {world : LeaseWorld Unit} {lease : SessionIdLease} (only : world.Only lease) :
    ¬ world.Idle := by
  intro idle
  obtain ⟨mutex, found, locked⟩ := Option.map_eq_some_iff.1 only.locked
  rw [idle mutex (List.mem_of_getElem? found)] at locked
  cases locked

variable {world : LeaseWorld Unit}

theorem unlock_idle {lease : SessionIdLease}
    (others : ∀ (m : ℕ) (mutex : ExecutionMutex Unit), world.mutexes[m]? = some mutex →
      mutex.locked = true → m = lease.mutex) : (world.unlock lease.mutex).Idle := by
  intro mutex listed
  obtain ⟨m, found⟩ := List.mem_iff_getElem?.1 listed
  unfold unlock changeMutex at found
  rw [List.getElem?_modify] at found
  obtain ⟨old, here, rfl⟩ := Option.map_eq_some_iff.1 found
  split_ifs with same
  · rfl
  · cases locked : old.locked with
    | false => rfl
    | true => exact absurd (others m old here locked).symm same

theorem disown_others {lease : SessionIdLease} (only : world.Only lease) :
    ∀ (m : ℕ) (mutex : ExecutionMutex Unit), (world.disown lease.mutex).mutexes[m]? = some mutex →
      mutex.locked = true → m = lease.mutex := by
  intro m mutex found locked
  unfold disown changeMutex at found
  rw [List.getElem?_modify] at found
  obtain ⟨old, here, rfl⟩ := Option.map_eq_some_iff.1 found
  refine only.others m old here ?_
  split_ifs at locked
  · exact locked
  · exact locked

theorem disown_locked {lease : SessionIdLease} (only : world.Only lease) :
    (world.disown lease.mutex).mutexes[lease.mutex]?.map (·.locked) = some true := by
  obtain ⟨mutex, found, locked⟩ := Option.map_eq_some_iff.1 only.locked
  unfold disown changeMutex
  rw [List.getElem?_modify, found]
  simpa using locked

theorem lease_only (idle : world.Idle) (sessionId : ℤ) (path : String)
    (refers : (⟨sessionId, world.mutexes.length, false⟩ : LeaseObject).mutex <
      (world.addMutex ⟨path, (), true, true⟩).mutexes.length) :
    ((world.addMutex ⟨path, (), true, true⟩).addLease ⟨sessionId, world.mutexes.length, false⟩
      refers).Only ⟨world.leases.length, sessionId, world.mutexes.length⟩ := by
  have fresh : (world.mutexes ++ [⟨path, (), true, true⟩])[world.mutexes.length]? =
      some (⟨path, (), true, true⟩ : ExecutionMutex Unit) := List.getElem?_concat_length
  refine ⟨?_, congrArg (Option.map (·.owned)) fresh, congrArg (Option.map (·.locked)) fresh, ?_⟩
  · have added : (world.leases ++ [⟨sessionId, world.mutexes.length, false⟩])[world.leases.length]? =
        some (⟨sessionId, world.mutexes.length, false⟩ : LeaseObject) := List.getElem?_concat_length
    exact congrArg (Option.map (·.released)) added
  · intro m mutex found locked
    rcases lt_trichotomy m world.mutexes.length with before | same | after
    · have old : world.mutexes[m]? = some mutex := by
        rw [← found]
        exact (List.getElem?_append_left before).symm
      rw [idle mutex (List.mem_of_getElem? old)] at locked
      cases locked
    · exact same
    · have inside := (List.getElem?_eq_some_iff.1 found).1
      simp only [addLease, addMutex, List.length_append, List.length_singleton] at inside
      omega

end LeaseWorld

open LeaseWorld

abbrev Locks {α : Type} (method : LeaseM α) (world : LeaseWorld Unit)
    (ok : α → LeaseWorld Unit → Prop) (err : LeaseWorld Unit → Prop) : Prop :=
  method.Meets (fun _ _ => True)
    (fun world command answer after => world.Tolerates command answer ∧ after = world.after command answer)
    () world (fun value _ => ok value) fun _ _ => err

variable {world : LeaseWorld Unit}

theorem acquireExact_locks (host : LeaseHost) (self : BoundedSessionIdAllocator) (sessionId : ℤ)
    (idle : world.Idle) :
    Locks (self.acquireExact host sessionId) world (fun lease after => after.Only lease) Idle := by
  unfold acquireExact
  apply (meets_bind _ _).2
  cases self.leasePath host sessionId with
  | error exc => exact idle
  | ok path =>
      apply (meets_ofExcept_ok _).2
      apply (meets_bind _ _).2
      apply (meets_attempt _).2
      refine (meets_perform _).2 ⟨trivial, ?_, ?_⟩
      · rintro mutex _ ⟨⟨-, rfl, -⟩, rfl⟩
        apply (meets_bind _ _).2
        refine (meets_perform _).2 ⟨trivial, ?_, ?_⟩
        · rintro lease _ ⟨⟨rfl, refers, same⟩, rfl⟩
          rw [same]
          exact lease_only idle sessionId path refers
        · rintro exc after ⟨impossible, -⟩
          exact impossible.elim
      · rintro exc _ ⟨-, rfl⟩
        dsimp only
        split_ifs
        · exact idle
        · exact idle

theorem release_locks {lease : SessionIdLease} (only : world.Only lease) :
    Locks lease.release world (fun _ => Idle) fun _ => False := by
  unfold SessionIdLease.release releaseMutex
  apply (meets_bind _ _).2
  refine (meets_perform _).2 ⟨trivial, ?_, fun _ _ impossible => impossible.1.elim⟩
  rintro released _ ⟨⟨found, -⟩, rfl⟩
  obtain rfl : false = released := Option.some.inj (only.unreleased.symm.trans found)
  apply (meets_bind _ _).2
  apply (meets_bind _ _).2
  refine (meets_perform _).2 ⟨trivial, ?_, fun _ _ impossible => impossible.1.elim⟩
  rintro owned _ ⟨⟨found, -⟩, rfl⟩
  obtain rfl : true = owned := Option.some.inj (only.owned.symm.trans found)
  apply (meets_bind _ _).2
  refine (meets_perform _).2 ⟨trivial, ?_, fun _ _ impossible => impossible.1.elim⟩
  rintro _ _ ⟨-, rfl⟩
  refine (meets_perform _).2 ⟨trivial, ?_, ?_⟩
  · rintro _ _ ⟨-, rfl⟩
    refine (meets_perform _).2 ⟨trivial, ?_, fun _ _ impossible => impossible.1.elim⟩
    rintro _ _ ⟨-, rfl⟩
    exact unlock_idle (disown_others only)
  · rintro exc _ ⟨⟨unlocked, -⟩, -⟩
    cases (disown_locked only).symm.trans unlocked

end QmtExecution.SessionIds
