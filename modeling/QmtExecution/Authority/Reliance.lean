import QmtExecution.Authority.Resolve

/-! What the processes that resolve one account's Runtime Authority may do, and what each of them
can rely on while the others run. -/

namespace QmtExecution

open Interaction

variable {ι : Type}

namespace AuthorityHost

variable (host : AuthorityHost ι) (accountKey : String)

theorem suffix_ne {left right : String} {first second : Char} (different : first ≠ second)
    (leftEnd : left.toList.getLast? = some first) (rightEnd : right.toList.getLast? = some second) :
    left ≠ right := by
  intro same
  rw [same, rightEnd] at leftEnd
  cases leftEnd
  exact different rfl

theorem append_last (head tail : String) {c : Char} (last : tail.toList.getLast? = some c) :
    (head ++ tail).toList.getLast? = some c := by
  rw [String.toList_append, List.getLast?_append, last]
  rfl

theorem authorityPath_last : (host.authorityPath accountKey).toList.getLast? = some 'n' :=
  append_last _ _ rfl

theorem lockPath_last : (host.lockPath accountKey).toList.getLast? = some 'k' :=
  append_last _ _ rfl

theorem temporaryPath_last (process : ι) :
    (host.temporaryPath process accountKey).toList.getLast? = some 'p' :=
  append_last _ _ rfl

theorem lockPath_ne : host.lockPath accountKey ≠ host.authorityPath accountKey :=
  suffix_ne (by decide) (host.lockPath_last accountKey) (host.authorityPath_last accountKey)

theorem temporaryPath_ne (process : ι) :
    host.temporaryPath process accountKey ≠ host.authorityPath accountKey :=
  suffix_ne (by decide) (host.temporaryPath_last accountKey process) (host.authorityPath_last accountKey)

/-- A path for a database that is none of the files of the bootstrap itself. -/
def Proper (path : String) : Prop :=
  path ≠ host.authorityPath accountKey ∧ path ≠ host.lockPath accountKey ∧
    ∀ process, path ≠ host.temporaryPath process accountKey

theorem defaultCoordinationDbPath_proper :
    host.Proper accountKey (host.defaultCoordinationDbPath accountKey) := by
  have last : (host.defaultCoordinationDbPath accountKey).toList.getLast? = some 'b' :=
    append_last _ _ rfl
  refine ⟨?_, ?_, fun process => ?_⟩
  · exact suffix_ne (by decide) last (host.authorityPath_last accountKey)
  · exact suffix_ne (by decide) last (host.lockPath_last accountKey)
  · exact suffix_ne (by decide) last (host.temporaryPath_last accountKey process)

end AuthorityHost

namespace AccountAuthority

def row (authority : AccountAuthority) : IdentityRow :=
  ⟨authority.accountKey, authority.coordinationDbUuid, authority.authorityId, identitySchemaVersion⟩

end AccountAuthority

/-- What a group of calls may create: databases at these paths, and these records. -/
structure BootstrapScope where
  path : String → Prop
  record : AccountAuthority → Prop

def BootstrapScope.all : BootstrapScope := ⟨fun _ => True, fun _ => True⟩

namespace AuthorityWorld

variable (host : AuthorityHost ι) (accountKey : String) (scope : BootstrapScope)

def authority (world : AuthorityWorld ι) : Option StoredFile :=
  world.files (host.authorityPath accountKey)

def Certified (world : AuthorityWorld ι) : Prop :=
  ∃ document, world.authority host accountKey = some (.json document)

/-- The database of a record is at its path, with its identity row and no other. -/
def Holds (world : AuthorityWorld ι) (path : String) (row : IdentityRow) : Prop :=
  ∃ db, world.files path = some (.database db) ∧ db.coordinationIdentity = [row]

/-- The changes of the world that all may rely on: the authority document stays as it is, and a
coordinator is recorded as opened only with the identity that it expects. -/
structure Evolves (world after : AuthorityWorld ι) : Prop where
  document : ∀ document, world.authority host accountKey = some (.json document) →
    after.authority host accountKey = some (.json document)
  openings : ∀ opening ∈ world.opened, opening ∈ after.opened
  certified : (∀ opening ∈ world.opened, opening.rows = [opening.expected.row]) →
    ∀ opening ∈ after.opened, opening.rows = [opening.expected.row]

/-- The changes that the holder of the lock may rely on: until the document is written, nobody
else changes a file. -/
structure Relies (process : ι) (world after : AuthorityWorld ι) : Prop where
  evolves : Evolves host accountKey world after
  owner : world.owner = some process → after.owner = some process
  files : world.owner = some process → ¬ world.Certified host accountKey → after.files = world.files

def Bootstrapping (process : ι) (world : AuthorityWorld ι) : Prop :=
  world.owner = some process ∧ ¬ world.Certified host accountKey

def Permits (process : ι) (world : AuthorityWorld ι) : AuthorityCommand → Prop
  | .lockAcquire path => path = host.lockPath accountKey
  | .lockRelease | .pathExists _ | .readText _ | .uuid4 => True
  | .connect path | .initializeTransaction path _ =>
      world.Certified host accountKey ∨ world.Bootstrapping host accountKey process ∧ scope.path path
  | .createTransaction path _ => world.Bootstrapping host accountKey process ∧ scope.path path
  | .operate _ _ => world.Certified host accountKey
  | .openTemporary path | .writeTemporary path _ =>
      world.Bootstrapping host accountKey process ∧ path = host.temporaryPath process accountKey
  | .replace source target => world.Bootstrapping host accountKey process ∧
      source = host.temporaryPath process accountKey ∧ target = host.authorityPath accountKey ∧
      ∃ authority : AccountAuthority, world.files source = some (.json authority.toPayload) ∧
        authority.validate host = .ok authority ∧ scope.record authority ∧
        (host.Proper accountKey (host.resolvePath authority.coordinationDbPath) →
          world.Holds (host.resolvePath authority.coordinationDbPath) authority.row)

variable {host accountKey scope} {process : ι} {world middle after : AuthorityWorld ι}

theorem evolves_chained : Chained (Evolves (ι := ι) host accountKey) where
  refl world := ⟨fun _ same => same, fun _ listed => listed, fun held => held⟩
  trans first second := by
    refine ⟨?_, ?_, ?_⟩
    · intro document written
      exact second.document document (first.document document written)
    · intro opening listed
      exact second.openings opening (first.openings opening listed)
    · intro held
      exact second.certified (first.certified held)

theorem Evolves.certifies (evolves : Evolves host accountKey world after)
    (certified : world.Certified host accountKey) : after.Certified host accountKey := by
  obtain ⟨document, written⟩ := certified
  exact ⟨document, evolves.document document written⟩

theorem Relies.bootstrapping (relies : Relies host accountKey process world after)
    (bootstrapping : world.Bootstrapping host accountKey process) :
    after.Bootstrapping host accountKey process ∧ after.files = world.files := by
  have same := relies.files bootstrapping.1 bootstrapping.2
  refine ⟨⟨relies.owner bootstrapping.1, ?_⟩, same⟩
  unfold Certified authority
  rw [same]
  exact bootstrapping.2

theorem relies_chained (process : ι) : Chained (Relies (ι := ι) host accountKey process) := by
  have evolves : Chained (Evolves (ι := ι) host accountKey) := evolves_chained
  refine evolves.and (fun world after =>
    (world.owner = some process → after.owner = some process) ∧
      (world.owner = some process → ¬ world.Certified host accountKey → after.files = world.files))
    (fun _ => ⟨id, fun _ _ => rfl⟩) ?_ ?_
  · intro world middle after first second
    refine ⟨fun held => second.1 (first.1 held), fun held missing => ?_⟩
    have files := first.2 held missing
    refine (second.2 (first.1 held) ?_).trans files
    unfold Certified authority
    rw [files]
    exact missing
  · intro world after
    exact ⟨fun relies => ⟨relies.evolves, relies.owner, relies.files⟩,
      fun relies => ⟨relies.1, relies.2.1, relies.2.2⟩⟩

theorem stable_bootstrapping {fact : (String → Option StoredFile) → Prop} :
    Stable (Relies host accountKey process)
      fun world => world.Bootstrapping host accountKey process ∧ fact world.files := by
  intro world after relies held
  obtain ⟨bootstrapping, same⟩ := relies.bootstrapping held.1
  exact ⟨bootstrapping, same ▸ held.2⟩

theorem stable_evolves {fact : AuthorityWorld ι → Prop}
    (kept : ∀ world after, Evolves host accountKey world after → fact world → fact after) :
    Stable (Relies host accountKey process) fact := by
  intro world after relies held
  exact kept world after relies.evolves held

/-! How a call changes the world. -/

theorem evolves_files (same : after.opened = world.opened)
    (kept : ∀ document, world.authority host accountKey = some (.json document) →
      after.authority host accountKey = some (.json document)) :
    Evolves host accountKey world after := by
  refine ⟨kept, ?_, ?_⟩
  · intro opening listed
    rw [same]
    exact listed
  · intro held opening listed
    rw [same] at listed
    exact held opening listed

theorem put_evolves {path : String} {file : StoredFile}
    (other : ∀ document, world.files path ≠ some (.json document)) :
    Evolves host accountKey world (world.put path file) := by
  apply evolves_files
  · rfl
  intro document written
  have different : host.authorityPath accountKey ≠ path := by
    rintro rfl
    exact other document written
  exact (Function.update_of_ne different _ _).trans written

theorem put_elsewhere {path : String} {file : StoredFile} (different : path ≠ host.authorityPath accountKey) :
    Evolves host accountKey world (world.put path file) := by
  apply evolves_files
  · rfl
  intro document written
  exact (Function.update_of_ne different.symm _ _).trans written

theorem touch_evolves (path : String) : Evolves host accountKey world (world.touch path) := by
  unfold touch
  split_ifs with missing
  · apply put_evolves
    intro document written
    rw [written] at missing
    cases missing
  · exact evolves_chained.refl world

theorem uncertified_evolves (missing : ¬ world.Certified host accountKey)
    (same : after.opened = world.opened) : Evolves host accountKey world after := by
  apply evolves_files same
  intro document written
  exact absurd ⟨document, written⟩ missing

theorem initialize_evolves {path : String} {expected : CoordinationDbIdentity} {db opened : CoordinationDb}
    (found : world.files path = some (.database db)) (done : db.initializeDb (some expected) = .ok opened) :
    Evolves host accountKey world { world.put path (.database opened) with
      opened := ⟨path, expected, db.coordinationIdentity⟩ :: world.opened } := by
  have written : Evolves host accountKey world (world.put path (.database opened)) := by
    apply put_evolves
    intro document other
    rw [found] at other
    cases other
  refine ⟨written.document, ?_, ?_⟩
  · intro opening listed
    exact List.mem_cons_of_mem _ listed
  · intro held opening listed
    rcases List.mem_cons.1 listed with rfl | earlier
    · exact (CoordinationDb.initializeDb_ok done).2
    · exact held opening earlier

variable [DecidableEq ι]

theorem release_evolves (process : ι) : Evolves host accountKey world (world.release process) := by
  unfold release
  split_ifs
  · exact evolves_files rfl fun _ same => same
  · exact evolves_chained.refl world

theorem changes_evolves {command : AuthorityCommand} (permitted : Permits host accountKey scope process world command)
    (changes : world.Changes process after command) : Evolves host accountKey world after := by
  cases command with
  | lockAcquire path =>
      have different : path ≠ host.authorityPath accountKey := by
        rw [permitted]
        exact host.lockPath_ne accountKey
      have kept : Evolves host accountKey world (world.put path .text) := put_elsewhere different
      obtain ⟨_, rfl | rfl⟩ := changes
      · exact kept
      · exact ⟨kept.document, kept.openings, kept.certified⟩
  | lockRelease =>
      rw [changes]
      exact release_evolves process
  | pathExists path => exact changes.elim
  | readText path => exact changes.elim
  | uuid4 => exact changes.elim
  | connect path =>
      rw [changes]
      exact touch_evolves path
  | createTransaction path identity =>
      apply uncertified_evolves permitted.1.2
      obtain ⟨_, _, _, _, rfl⟩ | ⟨_, rfl⟩ := changes
      · rfl
      · rfl
  | initializeTransaction path expected =>
      obtain ⟨db, opened, found, done, rfl⟩ | ⟨blank, rfl⟩ := changes
      · exact initialize_evolves found done
      · exact put_evolves blank.1
  | operate path operation =>
      obtain ⟨db, found, rfl⟩ | ⟨blank, rfl⟩ := changes
      · apply put_evolves
        intro document other
        rw [found] at other
        cases other
      · exact put_evolves blank.1
  | openTemporary path =>
      apply uncertified_evolves permitted.1.2
      rw [changes]
      rfl
  | writeTemporary path document =>
      apply uncertified_evolves permitted.1.2
      obtain rfl | rfl := changes
      · rfl
      · rfl
  | replace source target =>
      apply uncertified_evolves permitted.1.2
      rw [changes.2]
      rfl

/-- While a process holds the lock and the document is missing, no call of another process that is
permitted changes anything. -/
theorem changes_bootstrapping {other : ι} {command : AuthorityCommand} (different : other ≠ process)
    (bootstrapping : world.Bootstrapping host accountKey other)
    (permitted : Permits host accountKey scope process world command)
    (changes : world.Changes process after command) : after = world := by
  have foreign : ¬ world.Bootstrapping host accountKey process := by
    intro own
    have same := bootstrapping.1.symm.trans own.1
    cases same
    exact different rfl
  have unchanged : ∀ path, ¬ (world.Certified host accountKey ∨
      world.Bootstrapping host accountKey process ∧ scope.path path) := by
    intro path allowance
    obtain certified | ⟨own, _⟩ := allowance
    · exact bootstrapping.2 certified
    · exact foreign own
  cases command with
  | lockAcquire path =>
      have held := changes.1.symm.trans bootstrapping.1
      cases held
  | lockRelease =>
      rw [changes]
      apply if_neg
      intro own
      exact foreign ⟨own, bootstrapping.2⟩
  | pathExists path => exact changes.elim
  | readText path => exact changes.elim
  | uuid4 => exact changes.elim
  | connect path => exact absurd permitted (unchanged path)
  | createTransaction path identity => exact absurd permitted.1 foreign
  | initializeTransaction path expected => exact absurd permitted (unchanged path)
  | operate path operation => exact absurd permitted bootstrapping.2
  | openTemporary path => exact absurd permitted.1 foreign
  | writeTemporary path document => exact absurd permitted.1 foreign
  | replace source target => exact absurd permitted.1 foreign

theorem changes_owner {command : AuthorityCommand} (changes : world.Changes process after command) :
    after.owner = world.owner ∨ world.owner = none ∧ after.owner = some process ∨
      after = world.release process := by
  cases command with
  | lockAcquire path =>
      obtain ⟨free, rfl | rfl⟩ := changes
      · exact .inl rfl
      · exact .inr (.inl ⟨free, rfl⟩)
  | lockRelease => exact .inr (.inr changes)
  | pathExists path => exact changes.elim
  | readText path => exact changes.elim
  | uuid4 => exact changes.elim
  | connect path =>
      rw [changes, touch]
      split_ifs
      · exact .inl rfl
      · exact .inl rfl
  | createTransaction path identity =>
      obtain ⟨_, _, _, _, rfl⟩ | ⟨_, rfl⟩ := changes
      · exact .inl rfl
      · exact .inl rfl
  | initializeTransaction path expected =>
      obtain ⟨_, _, _, _, rfl⟩ | ⟨_, rfl⟩ := changes
      · exact .inl rfl
      · exact .inl rfl
  | operate path operation =>
      obtain ⟨_, _, rfl⟩ | ⟨_, rfl⟩ := changes
      · exact .inl rfl
      · exact .inl rfl
  | openTemporary path =>
      rw [changes]
      exact .inl rfl
  | writeTemporary path document =>
      obtain rfl | rfl := changes
      · exact .inl rfl
      · exact .inl rfl
  | replace source target =>
      rw [changes.2]
      exact .inl rfl

theorem release_other {other : ι} (different : other ≠ process) (held : world.owner = some other) :
    (world.release process).owner = some other := by
  rw [release, if_neg]
  · exact held
  · rw [held]
    intro same
    cases same
    exact different rfl

theorem answers_evolves {command : AuthorityCommand} {answer : Except Exc (AuthorityResult command)}
    (permitted : Permits host accountKey scope process world command)
    (law : Answers host process world command answer after) : Evolves host accountKey world after := by
  obtain rfl | changes := law.changes
  · exact evolves_chained.refl after
  · exact changes_evolves permitted changes

theorem answers_relies {other : ι} {command : AuthorityCommand}
    {answer : Except Exc (AuthorityResult command)} (different : other ≠ process)
    (permitted : Permits host accountKey scope process world command)
    (law : Answers host process world command answer after) : Relies host accountKey other world after := by
  obtain rfl | changes := law.changes
  · exact (relies_chained other).refl after
  · refine ⟨changes_evolves permitted changes, ?_, ?_⟩
    · intro held
      obtain same | ⟨free, _⟩ | rfl := changes_owner changes
      · exact same.trans held
      · cases free.symm.trans held
      · exact release_other different held
    · intro held missing
      rw [changes_bootstrapping different ⟨held, missing⟩ permitted changes]

theorem release_relies {other : ι} (different : other ≠ process) :
    Relies host accountKey other world (world.release process) := by
  have permitted : Permits host accountKey BootstrapScope.all process world .lockRelease := trivial
  have law : Answers host process world .lockRelease (.ok ()) (world.release process) := .inl ⟨rfl, rfl⟩
  exact answers_relies different permitted law

end AuthorityWorld

end QmtExecution
