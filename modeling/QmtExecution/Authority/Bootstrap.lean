import QmtExecution.Authority.Uniqueness

/-! Bootstrap under failures. Wherever a bootstrap stops, the account is left in one of three
stages: nothing is there, the database is there without the authority document, or both are there
and match. From the first the same call succeeds later, in the second every call is refused until
the database is removed, and in the third every call returns the record. -/

namespace QmtExecution

open Interaction AuthorityWorld

variable {ι : Type}

namespace AccountRuntimeAuthority

variable (host : AuthorityHost ι) (args : ResolveArgs)

abbrev target : String := host.resolvePath (dbPath host args)

def Absent (world : AuthorityWorld ι) : Prop :=
  world.authority host args.accountKey = none ∧ world.files (target host args) = none

/-- Something is at the path of the database, and there is no authority document. -/
def Orphaned (world : AuthorityWorld ι) : Prop :=
  (world.files (target host args)).isSome ∧ ¬ world.Certified host args.accountKey ∧
    (world.authority host args.accountKey = none ∨ target host args = host.authorityPath args.accountKey)

def Issued (authority : AccountAuthority) : Prop :=
  ∃ checked, checkArgs host args = .ok checked ∧ authority.IssuedFor host args checked

def Paired (authority : AccountAuthority) (world : AuthorityWorld ι) : Prop :=
  Resolved host args.accountKey authority world ∧ Issued host args authority ∧
    (host.Proper args.accountKey (target host args) → Created (target host args) authority.row world.files)

def Staged (world : AuthorityWorld ι) : Prop :=
  Absent host args world ∨ Orphaned host args world ∨ ∃ authority, Paired host args authority world

def bootstrapScope : BootstrapScope := ⟨fun path => path = target host args, Issued host args⟩

/-- No authority document, and no other file in its place but the database. -/
def Incomplete (world : AuthorityWorld ι) : Prop :=
  ¬ world.Certified host args.accountKey ∧
    (world.authority host args.accountKey = none ∨ target host args = host.authorityPath args.accountKey)

variable {host args} {world after : AuthorityWorld ι}

theorem incomplete_iff : Incomplete host args world ↔ Absent host args world ∨ Orphaned host args world := by
  constructor
  · intro incomplete
    cases found : world.files (target host args) with
    | none =>
        refine .inl ⟨?_, found⟩
        obtain missing | same := incomplete.2
        · exact missing
        · rw [same] at found
          exact found
    | some file => exact .inr ⟨by rw [found]; rfl, incomplete⟩
  · intro stage
    obtain absent | orphaned := stage
    · refine ⟨?_, .inl absent.1⟩
      intro certified
      obtain ⟨document, written⟩ := certified
      cases absent.1.symm.trans written
    · exact orphaned.2

theorem staged_of_incomplete (incomplete : Incomplete host args world) : Staged host args world := by
  obtain absent | orphaned := incomplete_iff.1 incomplete
  · exact .inl absent
  · exact .inr (.inl orphaned)

theorem incomplete_put {path : String} {file : StoredFile} (incomplete : Incomplete host args world)
    (other : path ≠ host.authorityPath args.accountKey ∨
      path = target host args ∧ ∀ document, file ≠ .json document) :
    Incomplete host args (world.put path file) := by
  by_cases same : host.authorityPath args.accountKey = path
  · obtain different | ⟨database, plain⟩ := other
    · exact absurd same.symm different
    · refine ⟨?_, .inr (database.symm.trans same.symm)⟩
      intro certified
      obtain ⟨document, written⟩ := certified
      subst same
      have put := (Function.update_self _ _ _).symm.trans written
      exact plain document (Option.some.inj put)
  · have kept : (world.put path file).authority host args.accountKey = world.authority host args.accountKey :=
      Function.update_of_ne same _ _
    refine ⟨?_, incomplete.2.imp_left fun missing => kept.trans missing⟩
    intro certified
    obtain ⟨document, written⟩ := certified
    exact incomplete.1 ⟨document, kept.symm.trans written⟩

theorem staged_files (same : after.files = world.files) (staged : Staged host args world) :
    Staged host args after := by
  unfold Staged Absent Orphaned Paired Resolved Certified authority at staged ⊢
  rw [same]
  exact staged

theorem paired_files {authority : AccountAuthority} (same : after.files = world.files)
    (paired : Paired host args authority world) : Paired host args authority after := by
  unfold Paired Resolved AuthorityWorld.authority at paired ⊢
  rw [same]
  exact paired

theorem incomplete_files (same : after.files = world.files) (incomplete : Incomplete host args world) :
    Incomplete host args after := by
  unfold Incomplete Certified authority at incomplete ⊢
  rw [same]
  exact incomplete

theorem created_put {path : String} {row : IdentityRow} {file : StoredFile} {place : String}
    (created : Created place row world.files)
    (other : path = place → ∃ db, file = .database db ∧ db.coordinationIdentity = [row]) :
    Created place row (world.put path file).files := by
  by_cases same : place = path
  · obtain ⟨db, rfl, single⟩ := other same.symm
    subst same
    exact ⟨db, Function.update_self _ _ _, single⟩
  · obtain ⟨db, found, single⟩ := created
    exact ⟨db, (Function.update_of_ne same _ _).trans found, single⟩

theorem created_blank {path : String} {row : IdentityRow} {file : StoredFile} {place : String}
    (created : Created place row world.files) (blank : world.Blank path) :
    Created place row (world.put path file).files := by
  apply created_put created
  intro same
  subst same
  obtain ⟨db, found, _⟩ := created
  exact absurd found (blank.2 db)

variable [DecidableEq ι] {process : ι}

theorem release_files (world : AuthorityWorld ι) (process : ι) :
    (world.release process).files = world.files := by
  unfold release
  split_ifs
  · rfl
  · rfl

theorem changes_created {command : AuthorityCommand} {scope : BootstrapScope} {row : IdentityRow}
    {accountKey path : String}
    (certified : world.Certified host accountKey) (proper : host.Proper accountKey path)
    (permitted : Permits host accountKey scope process world command)
    (changes : world.Changes process after command) (created : Created path row world.files) :
    Created path row after.files := by
  cases command with
  | lockAcquire lock =>
      have kept : Created path row (world.put lock .text).files := by
        apply created_put created
        intro same
        rw [permitted] at same
        exact absurd same.symm proper.2.1
      obtain ⟨_, rfl | rfl⟩ := changes
      · exact kept
      · exact kept
  | lockRelease =>
      rw [changes, release_files]
      exact created
  | pathExists path => exact changes.elim
  | readText path => exact changes.elim
  | uuid4 => exact changes.elim
  | connect other =>
      rw [changes, touch]
      split_ifs with missing
      · apply created_put created
        rintro rfl
        obtain ⟨db, found, _⟩ := created
        rw [found] at missing
        cases missing
      · exact created
  | createTransaction other identity => exact absurd certified permitted.1.2
  | initializeTransaction other expected =>
      obtain ⟨db, opened, found, done, rfl⟩ | ⟨blank, rfl⟩ := changes
      · apply created_put created
        rintro rfl
        obtain ⟨_, present, single⟩ := created
        cases found.symm.trans present
        rw [(CoordinationDb.initializeDb_ok done).1]
        exact ⟨_, rfl, (CoordinationDb.ensureMeta_identity db).trans single⟩
      · exact created_blank created blank
  | operate other operation =>
      obtain ⟨db, found, rfl⟩ | ⟨blank, rfl⟩ := changes
      · apply created_put created
        rintro rfl
        obtain ⟨_, present, single⟩ := created
        cases found.symm.trans present
        exact ⟨_, rfl, single⟩
      · exact created_blank created blank
  | openTemporary other => exact absurd certified permitted.1.2
  | writeTemporary other document => exact absurd certified permitted.1.2
  | replace source other => exact absurd certified permitted.1.2

theorem changes_paired {command : AuthorityCommand} {authority : AccountAuthority}
    (paired : Paired host args authority world)
    (permitted : Permits host args.accountKey (bootstrapScope host args) process world command)
    (changes : world.Changes process after command) : Paired host args authority after := by
  obtain ⟨⟨document, written, read⟩, issued, created⟩ := paired
  have evolves := changes_evolves permitted changes
  refine ⟨⟨document, evolves.document document written, read⟩, issued, ?_⟩
  intro proper
  exact changes_created ⟨document, written⟩ proper permitted changes (created proper)

theorem changes_incomplete {command : AuthorityCommand} (incomplete : Incomplete host args world)
    (permitted : Permits host args.accountKey (bootstrapScope host args) process world command)
    (changes : world.Changes process after command) : Staged host args after := by
  have database : ∀ {path file}, (world.Certified host args.accountKey ∨
      world.Bootstrapping host args.accountKey process ∧ path = target host args) →
      (∀ document, file ≠ .json document) → Incomplete host args (world.put path file) := by
    intro path file allowed plain
    obtain certified | ⟨_, same⟩ := allowed
    · exact absurd certified incomplete.1
    · exact incomplete_put incomplete (.inr ⟨same, plain⟩)
  have temporary := host.temporaryPath_ne args.accountKey process
  cases command with
  | lockAcquire lock =>
      have locked : Incomplete host args (world.put lock .text) := by
        apply incomplete_put incomplete
        rw [permitted]
        exact .inl (host.lockPath_ne args.accountKey)
      obtain ⟨_, rfl | rfl⟩ := changes
      · exact staged_of_incomplete locked
      · exact staged_of_incomplete locked
  | lockRelease =>
      rw [changes]
      exact staged_of_incomplete (incomplete_files (release_files world process) incomplete)
  | pathExists path => exact changes.elim
  | readText path => exact changes.elim
  | uuid4 => exact changes.elim
  | connect path =>
      rw [changes, touch]
      split_ifs
      · exact staged_of_incomplete (database permitted fun _ same => by cases same)
      · exact staged_of_incomplete incomplete
  | createTransaction path identity =>
      obtain ⟨_, _, _, _, rfl⟩ | ⟨_, rfl⟩ := changes
      · exact staged_of_incomplete (database (.inr permitted) fun _ same => by cases same)
      · exact staged_of_incomplete (database (.inr permitted) fun _ same => by cases same)
  | initializeTransaction path expected =>
      obtain ⟨_, opened, _, _, rfl⟩ | ⟨_, rfl⟩ := changes
      · have kept : Incomplete host args (world.put path (.database opened)) :=
          database permitted fun _ same => by cases same
        exact staged_of_incomplete kept
      · exact staged_of_incomplete (database permitted fun _ same => by cases same)
  | operate path operation => exact absurd permitted incomplete.1
  | openTemporary path =>
      obtain ⟨_, rfl⟩ := permitted
      rw [changes]
      exact staged_of_incomplete (incomplete_put incomplete (.inl temporary))
  | writeTemporary path document =>
      obtain ⟨_, rfl⟩ := permitted
      obtain rfl | rfl := changes
      · exact staged_of_incomplete (incomplete_put incomplete (.inl temporary))
      · exact staged_of_incomplete (incomplete_put incomplete (.inl temporary))
  | replace source other =>
      obtain ⟨_, rfl, rfl, authority, written, valid, issued, created⟩ := permitted
      obtain ⟨_, rfl⟩ := changes
      refine .inr (.inr ⟨authority, ⟨authority.toPayload, ?_, AccountAuthority.fromPayload_toPayload valid⟩,
        issued, ?_⟩)
      · exact (Function.update_of_ne temporary.symm _ _).trans ((Function.update_self _ _ _).trans written)
      · intro proper
        obtain ⟨checked, _, _, _, _, _, path⟩ := issued
        rw [path] at created
        obtain ⟨db, found, single⟩ := created proper
        refine ⟨db, ?_, single⟩
        calc
          _ = Function.update world.files (host.authorityPath args.accountKey)
                (world.files (host.temporaryPath process args.accountKey)) (target host args) :=
              Function.update_of_ne (proper.2.2 process) _ _
          _ = world.files (target host args) := Function.update_of_ne proper.1 _ _
          _ = some (.database db) := found

theorem answers_staged {command : AuthorityCommand} {answer : Except Exc (AuthorityResult command)}
    (permitted : Permits host args.accountKey (bootstrapScope host args) process world command)
    (law : Answers host process world command answer after) (staged : Staged host args world) :
    Staged host args after := by
  obtain rfl | changes := law.changes
  · exact staged
  · obtain absent | orphaned | ⟨authority, paired⟩ := staged
    · exact changes_incomplete (incomplete_iff.2 (.inl absent)) permitted changes
    · exact changes_incomplete (incomplete_iff.2 (.inr orphaned)) permitted changes
    · exact .inr (.inr ⟨authority, changes_paired paired permitted changes⟩)

def Alone (process : ι) (world : AuthorityWorld ι) : Prop :=
  world.owner = none ∨ world.owner = some process

theorem release_free (alone : Alone process world) : (world.release process).owner = none := by
  unfold release
  split_ifs with held
  · rfl
  · obtain free | owned := alone
    · exact free
    · exact absurd owned held

theorem answers_alone {command : AuthorityCommand} {answer : Except Exc (AuthorityResult command)}
    (law : Answers host process world command answer after) (alone : Alone process world) :
    Alone process after := by
  obtain rfl | changes := law.changes
  · exact alone
  · obtain same | ⟨_, held⟩ | rfl := changes_owner changes
    · unfold Alone
      rw [same]
      exact alone
    · exact .inr held
    · exact .inl (release_free alone)

/-- Wherever a call of `resolve` stops, the account is in one of the three stages, and once the lock
is released the next call can have it. -/
theorem resolve_staged {program : Program AuthorityCommand (fun command => Except Exc (AuthorityResult command))
      (Except Exc AccountAuthority × Unit)}
    (staged : Staged host args world) (alone : Alone process world)
    (reaches : (resolve host process args ()).Reaches (Answers host process) world program after) :
    Staged host args (after.release process) ∧ (after.release process).owner = none := by
  have assures : Assured host args.accountKey (bootstrapScope host args) process (fun _ => True)
      (resolve host process args) fun authority => Resolved host args.accountKey authority :=
    resolve_assures rfl rfl fun checked authority accepted issued => ⟨checked, accepted, issued⟩
  have obeys := Program.Secure.alone (relies_chained process) (assures.meets () world trivial)
  have kept : ∀ world command answer after,
      Permits host args.accountKey (bootstrapScope host args) process world command →
      Answers host process world command answer after →
      Staged host args world ∧ Alone process world → Staged host args after ∧ Alone process after := by
    intro world command answer after permitted law held
    exact ⟨answers_staged permitted law held.1, answers_alone law held.2⟩
  obtain ⟨_, reached, free⟩ := Program.Obeys.reaches kept reaches obeys ⟨staged, alone⟩
  exact ⟨staged_files (release_files after process) reached, release_free free⟩

/-! The orphaned database. -/

def Idles (host : AuthorityHost ι) (accountKey : String) (_ : AuthorityWorld ι) : AuthorityCommand → Prop
  | .lockAcquire path => path = host.lockPath accountKey
  | .lockRelease | .pathExists _ | .readText _ | .uuid4 => True
  | _ => False

theorem idle_files {accountKey : String} {command : AuthorityCommand}
    {answer : Except Exc (AuthorityResult command)} (idles : Idles host accountKey world command)
    (law : Answers host process world command answer after) :
    after.files = world.files ∨ after.files = (world.put (host.lockPath accountKey) .text).files := by
  obtain rfl | changes := law.changes
  · exact .inl rfl
  · cases command with
    | lockAcquire path =>
        cases idles
        obtain ⟨_, rfl | rfl⟩ := changes
        · exact .inr rfl
        · exact .inr rfl
    | lockRelease =>
        rw [changes]
        exact .inl (release_files world process)
    | pathExists path => exact changes.elim
    | readText path => exact changes.elim
    | uuid4 => exact changes.elim
    | _ => exact idles.elim

theorem idle_orphaned {command : AuthorityCommand} {answer : Except Exc (AuthorityResult command)}
    (idles : Idles host args.accountKey world command)
    (law : Answers host process world command answer after) (orphaned : Orphaned host args world) :
    Orphaned host args after := by
  have kept : Incomplete host args after ∧ (after.files (target host args)).isSome := by
    obtain same | locked := idle_files idles law
    · exact ⟨incomplete_files same orphaned.2, same ▸ orphaned.1⟩
    · have put : Incomplete host args (world.put (host.lockPath args.accountKey) .text) :=
        incomplete_put orphaned.2 (.inl (host.lockPath_ne args.accountKey))
      refine ⟨incomplete_files locked put, ?_⟩
      rw [locked]
      by_cases same : target host args = host.lockPath args.accountKey
      · have locked : (world.put (host.lockPath args.accountKey) .text).files (target host args) =
            some .text := by
          rw [same]
          exact Function.update_self _ _ _
        rw [locked]
        rfl
      · have kept : (world.put (host.lockPath args.accountKey) .text).files (target host args) =
            world.files (target host args) := Function.update_of_ne same _ _
        rw [kept]
        exact orphaned.1
  exact ⟨kept.2, kept.1⟩

/-- A method that nothing else interferes with, and that changes nothing but the lock. -/
abbrev Idling (host : AuthorityHost ι) (accountKey : String) (process : ι) {α : Type}
    (pre : AuthorityWorld ι → Prop) (method : AuthorityM α) (post : α → AuthorityWorld ι → Prop) : Prop :=
  method.Assures Eq (Idles host accountKey) (Answers host process) pre post

omit [DecidableEq ι] in
theorem stable_eq (fact : AuthorityWorld ι → Prop) : Stable Eq fact := by
  rintro world _ rfl held
  exact held

theorem idling_ask {command : AuthorityCommand}
    (idles : ∀ world : AuthorityWorld ι, Idles host args.accountKey world command) :
    Idling host args.accountKey process (Orphaned host args) (ask command)
      fun _ => Orphaned host args := by
  apply Method.assures_perform (stable_eq _) (fun world _ => idles world) fun _ => stable_eq _
  intro world value after orphaned law
  exact idle_orphaned (idles world) law orphaned

theorem idling_exists (path : String) :
    Idling host args.accountKey process (Orphaned host args) (ask (.pathExists path))
      fun present world => Orphaned host args world ∧ present = (world.files path).isSome := by
  apply Method.assures_perform (stable_eq _) (fun _ _ => trivial) fun _ => stable_eq _
  intro world present after orphaned law
  obtain ⟨answered, rfl⟩ := law.served
  cases answered
  exact ⟨orphaned, rfl⟩

theorem readAuthority_orphaned :
    Idling host args.accountKey process (Orphaned host args) (readAuthority host args.accountKey)
      fun found world => found = none ∧ Orphaned host args world := by
  apply Method.assures_bind (idling_exists _)
  intro present
  apply Method.assures_ite
  · intro _
    have read : Idling host args.accountKey process
        (fun world => Orphaned host args world ∧
          present = (world.files (host.authorityPath args.accountKey)).isSome)
        (ask (.readText (host.authorityPath args.accountKey))) fun found _ => found = none := by
      apply Method.assures_perform (stable_eq _) (fun _ _ => trivial) fun _ => stable_eq _
      intro world found after held law
      obtain ⟨_, law⟩ := law.served
      split at law
      · rename_i document written
        exact absurd ⟨document, written⟩ held.1.2.1
      · cases law
        rfl
      · cases law
      · cases law
    have refused : Idling host args.accountKey process
        (fun world => Orphaned host args world ∧
          present = (world.files (host.authorityPath args.accountKey)).isSome)
        (readDocument (host.authorityPath args.accountKey)) fun _ _ => False := by
      apply Method.assures_bind (Method.assures_attempt read)
      intro outcome
      split
      · apply Method.assures_pure
        intro world held
        cases held _ rfl
      · exact Method.assures_raise _
      · exact Method.assures_ite (fun _ => Method.assures_raise _) fun _ => Method.assures_raise _
    apply Method.assures_bind refused
    intro _
    exact Method.assures_absurd fun _ held => held
  · intro _
    exact Method.assures_pure fun _ held => ⟨rfl, held.1⟩

theorem runBootstrap_orphaned (checked : CheckedArgs) :
    Idling host args.accountKey process (Orphaned host args) (runBootstrap host process args checked)
      fun _ _ => False := by
  have fresh : Idling host args.accountKey process (Orphaned host args) (ask .uuid4)
      fun _ => Orphaned host args := idling_ask fun _ => trivial
  apply Method.assures_ite
  · intro _
    apply Method.assures_bind fresh
    intro authorityId
    apply Method.assures_bind fresh
    intro dbUuid
    apply Method.assures_bind (Method.assures_ofExcept fun _ _ _ held => held)
    intro identity
    have refused : Idling host args.accountKey process (Orphaned host args)
        (create host (dbPath host args) identity) fun _ _ => False := by
      apply Method.assures_bind (idling_exists _)
      intro present
      apply Method.assures_ite
      · exact fun _ => Method.assures_raise _
      · intro missing
        apply Method.assures_absurd
        intro world held
        rw [held.2] at missing
        exact missing held.1.1
    apply Method.assures_bind refused
    intro _
    exact Method.assures_absurd fun _ held => held
  · exact fun _ => Method.assures_raise _

theorem resolve_orphaned :
    Idling host args.accountKey process (Orphaned host args) (resolve host process args)
      fun _ _ => False := by
  apply Method.assures_bind (Method.assures_ofExcept fun _ _ _ held => held)
  intro checked
  have locked : Idling host args.accountKey process (Orphaned host args)
      (ask (.lockAcquire (host.lockPath args.accountKey))) fun _ => Orphaned host args :=
    idling_ask fun _ => rfl
  apply Method.assures_bind locked
  intro _
  have refused : Idling host args.accountKey process (Orphaned host args)
      (resolveLocked host process args checked) fun _ _ => False := by
    apply Method.assures_bind readAuthority_orphaned
    intro found
    cases found with
    | some authority => exact Method.assures_absurd fun _ held => by cases held.1
    | none =>
        apply Method.assures_ite
        · intro _
          exact (runBootstrap_orphaned checked).narrow fun _ held => held.2
        · exact fun _ => Method.assures_raise _
  apply Method.assures_bind (Method.assures_attempt refused)
  intro outcome
  cases outcome with
  | ok authority => exact Method.assures_absurd fun _ held => held authority rfl
  | error exc =>
      have released : Idling host args.accountKey process (fun _ => True) (ask .lockRelease)
          fun _ _ => True :=
        Method.assures_perform (stable_eq _) (fun _ _ => trivial) (fun _ => stable_eq _)
          fun _ _ _ _ _ => trivial
      apply Method.assures_bind (released.narrow fun _ _ => trivial)
      intro _
      exact Method.assures_raise _

theorem orphaned_refuses {program : Program AuthorityCommand
      (fun command => Except Exc (AuthorityResult command)) (Except Exc AccountAuthority × Unit)}
    (orphaned : Orphaned host args world)
    (reaches : (resolve host process args ()).Reaches (Answers host process) world program after) :
    Orphaned host args after ∧
      (host.Proper args.accountKey (target host args) →
        after.files (target host args) = world.files (target host args)) ∧
      ∀ authority, program ≠ .done (.ok authority, ()) := by
  have chained : Chained (Eq (α := AuthorityWorld ι)) := ⟨fun _ => rfl, fun first second => first.trans second⟩
  have refused : Idling host args.accountKey process (Orphaned host args) (resolve host process args)
      fun _ _ => False := resolve_orphaned
  have obeys := Program.Secure.alone chained (refused.meets () world orphaned)
  have kept : ∀ middle command answer after, Idles host args.accountKey middle command →
      Answers host process middle command answer after →
      (Orphaned host args middle ∧ (host.Proper args.accountKey (target host args) →
        middle.files (target host args) = world.files (target host args))) →
      Orphaned host args after ∧ (host.Proper args.accountKey (target host args) →
        after.files (target host args) = world.files (target host args)) := by
    intro middle command answer after idles law held
    refine ⟨idle_orphaned idles law held.1, ?_⟩
    intro proper
    obtain same | locked := idle_files idles law
    · rw [same]
      exact held.2 proper
    · rw [locked]
      exact (Function.update_of_ne proper.2.1 _ _).trans (held.2 proper)
  obtain ⟨done, reached, same⟩ := Program.Obeys.reaches kept reaches obeys ⟨orphaned, fun _ => rfl⟩
  refine ⟨reached, same, ?_⟩
  rintro authority rfl
  exact done

/-! A call that meets no failure. -/

def Served (host : AuthorityHost ι) (process : ι) (world : AuthorityWorld ι) (command : AuthorityCommand)
    (answer : Except Exc (AuthorityResult command)) (after : AuthorityWorld ι) : Prop :=
  world.Serves host process command answer after

abbrev Yields (host : AuthorityHost ι) (process : ι) {α : Type} (method : AuthorityM α)
    (world : AuthorityWorld ι) (post : α → AuthorityWorld ι → Prop) : Prop :=
  method.Meets (fun _ _ => True) (Served host process) () world (fun value _ after => post value after)
    fun _ _ _ => False

theorem yields_bind {α β : Type} {method : AuthorityM β} {next : β → AuthorityM α}
    {post : α → AuthorityWorld ι → Prop}
    (first : Yields host process method world fun value after => Yields host process (next value) after post) :
    Yields host process (method >>= next) world post :=
  (Method.meets_bind _ _).2 first

theorem yields_ask {command : AuthorityCommand} {post : AuthorityResult command → AuthorityWorld ι → Prop}
    (returns : ∀ answer after, world.Serves host process command answer after →
      ∃ value, answer = .ok value ∧ post value after) :
    Yields host process (ask command) world post := by
  apply (Method.meets_perform command).2
  refine ⟨trivial, ?_, ?_⟩
  · intro value after law
    obtain ⟨_, same, holds⟩ := returns _ after law
    cases same
    exact holds
  · intro exc after law
    obtain ⟨_, same, _⟩ := returns _ after law
    cases same

theorem yields_pure {α : Type} {value : α} {post : α → AuthorityWorld ι → Prop} (holds : post value world) :
    Yields host process (pure value) world post := holds

theorem yields_ofExcept {α : Type} {outcome : Except Exc α} {value : α}
    {post : α → AuthorityWorld ι → Prop} (same : outcome = .ok value) (holds : post value world) :
    Yields host process (Method.ofExcept outcome) world post := by
  subst same
  exact holds

theorem yields_attempt {α : Type} {method : AuthorityM α} {post : Except Exc α → AuthorityWorld ι → Prop}
    (body : Yields host process method world fun value => post (.ok value)) :
    Yields host process method.attempt world post := by
  apply (Method.meets_attempt _).2
  apply Method.Meets.weaken body
  · exact fun _ _ _ holds => holds
  · exact fun _ _ _ never => never.elim

theorem yields_exists {path : String} {post : Bool → AuthorityWorld ι → Prop}
    (holds : post (world.files path).isSome world) :
    Yields host process (ask (.pathExists path)) world post := by
  apply yields_ask
  intro answer after law
  obtain ⟨rfl, rfl⟩ := law
  exact ⟨_, rfl, holds⟩

theorem initialize_created (identity : CoordinationDbIdentity) :
    ({ CoordinationDb.ensureMeta {} with coordinationIdentity := [identity.row] } :
      CoordinationDb).initializeDb (some identity) =
      .ok { CoordinationDb.ensureMeta {} with coordinationIdentity := [identity.row] } := by
  have certified : ({ CoordinationDb.ensureMeta {} with coordinationIdentity := [identity.row] } :
      CoordinationDb).ensureMeta.certify identity = .ok () := CoordinationDb.certify_ok.2 rfl
  have current : ¬ (CoordinationDb.ensureMeta {}).coordinationMeta.head?.any (· ≠ coordinationSchemaVersion) := by
    decide
  unfold CoordinationDb.initializeDb
  rw [if_neg current]
  dsimp only
  rw [certified]
  rfl

theorem construct_yields {path : String} {identity : CoordinationDbIdentity}
    {post : Unit → AuthorityWorld ι → Prop}
    (created : world.files (host.resolvePath path) =
      some (.database { CoordinationDb.ensureMeta {} with coordinationIdentity := [identity.row] }))
    (holds : ∀ after, post () after) : Yields host process (construct host path identity) world post := by
  apply yields_bind
  apply yields_exists
  rw [created]
  apply yields_bind
  apply yields_ask
  rintro _ connected ⟨rfl, rfl⟩
  refine ⟨(), rfl, ?_⟩
  have same : world.touch (host.resolvePath path) = world := by
    apply if_neg
    rw [created]
    simp
  apply yields_ask
  intro answer opened law
  simp only [Serves, same, created, initialize_created] at law
  exact ⟨(), law.1, holds opened⟩

theorem create_yields {path : String} {identity : CoordinationDbIdentity}
    {post : Unit → AuthorityWorld ι → Prop} (missing : world.files (host.resolvePath path) = none)
    (holds : ∀ after, post () after) : Yields host process (create host path identity) world post := by
  apply yields_bind
  apply yields_exists
  rw [missing]
  apply yields_bind
  apply yields_ask
  rintro _ connected ⟨rfl, rfl⟩
  refine ⟨(), rfl, ?_⟩
  have empty : (world.touch (host.resolvePath path)).files (host.resolvePath path) =
      some (.database {}) := by
    rw [touch, if_pos (by rw [missing]; rfl)]
    exact Function.update_self _ _ _
  apply yields_bind
  apply yields_ask
  intro answer created law
  have filled : CoordinationDb.create identity {} =
      .ok { CoordinationDb.ensureMeta {} with coordinationIdentity := [identity.row] } := rfl
  simp only [Serves, empty, filled] at law
  obtain ⟨rfl, rfl⟩ := law
  refine ⟨(), rfl, ?_⟩
  exact construct_yields (Function.update_self _ _ _) holds

theorem writeAuthorityAtomic_yields {authority : AccountAuthority} {post : Unit → AuthorityWorld ι → Prop}
    (holds : ∀ after, post () after) :
    Yields host process (writeAuthorityAtomic host process authority) world post := by
  apply yields_bind
  apply yields_ask
  rintro _ opened ⟨rfl, rfl⟩
  refine ⟨(), rfl, ?_⟩
  apply yields_bind
  apply yields_ask
  rintro _ written ⟨rfl, rfl⟩
  refine ⟨(), rfl, ?_⟩
  apply yields_ask
  intro answer replaced law
  have present : ((((world.put (host.temporaryPath process authority.accountKey) .text).put
      (host.temporaryPath process authority.accountKey) (.json authority.toPayload)).files
        (host.temporaryPath process authority.accountKey)).isSome) = true := by
    have written : (((world.put (host.temporaryPath process authority.accountKey) .text).put
      (host.temporaryPath process authority.accountKey) (.json authority.toPayload)).files
        (host.temporaryPath process authority.accountKey)) = some (.json authority.toPayload) :=
      Function.update_self _ _ _
    rw [written]
    rfl
  exact ⟨(), ((if_pos present).mp law).1, holds replaced⟩

/-- The arguments pass the checks of `resolve`, and do not name the lock file as the database. -/
structure Accepted (host : AuthorityHost ι) (args : ResolveArgs) : Prop where
  checked : ∃ checked, checkArgs host args = .ok checked
  absolute : host.isAbsolute (dbPath host args) = true
  unlocked : target host args ≠ host.lockPath args.accountKey

omit [DecidableEq ι] in
theorem checkArgs_ok {checked : CheckedArgs} (passed : checkArgs host args = .ok checked) :
    args.accountKey ≠ "" ∧ checked.environment ∈ ["simulation", "live"] ∧ isDigest checked.digest = true := by
  obtain ⟨key, filled, passed⟩ := except_bind passed
  obtain ⟨environment, known, passed⟩ := except_bind passed
  obtain ⟨digest, valid, passed⟩ := except_bind passed
  obtain ⟨derived, _, passed⟩ := except_bind passed
  obtain ⟨member, same⟩ := requireEnvironment_ok known
  split_ifs at passed
  cases passed
  refine ⟨?_, same ▸ member, (requireAccountIdSha256_ok valid).1⟩
  intro empty
  rw [requireAccountKey, if_pos empty] at filled
  cases filled

omit [DecidableEq ι] in
theorem record_valid {checked : CheckedArgs} {authorityId dbUuid : String}
    (passed : checkArgs host args = .ok checked) (absolute : host.isAbsolute (dbPath host args) = true)
    (authorityFilled : authorityId ≠ "") (authorityValid : host.isUuid authorityId = true)
    (dbFilled : dbUuid ≠ "") (dbValid : host.isUuid dbUuid = true) :
    AccountAuthority.validate host ⟨authoritySchemaVersion, authorityId, args.accountKey,
        checked.environment, args.accountType, checked.digest, dbPath host args, dbUuid⟩ =
      .ok ⟨authoritySchemaVersion, authorityId, args.accountKey, checked.environment, args.accountType,
        checked.digest, dbPath host args, dbUuid⟩ := by
  obtain ⟨key, environment, digest⟩ := checkArgs_ok passed
  have positive : 0 < authoritySchemaVersion := by decide
  exact AccountAuthority.validate_of positive authorityFilled authorityValid key environment digest absolute
    dbFilled dbValid

theorem runBootstrap_yields {checked : CheckedArgs} {post : AccountAuthority → AuthorityWorld ι → Prop}
    (passed : checkArgs host args = .ok checked) (absolute : host.isAbsolute (dbPath host args) = true)
    (missing : world.files (target host args) = none) (holds : ∀ authority after, post authority after) :
    Yields host process (runBootstrap host process args checked) world post := by
  unfold runBootstrap
  rw [if_pos absolute]
  apply yields_bind
  apply yields_ask
  rintro _ _ ⟨⟨authorityId, authorityFilled, authorityValid, rfl⟩, rfl⟩
  refine ⟨authorityId, rfl, ?_⟩
  apply yields_bind
  apply yields_ask
  rintro _ _ ⟨⟨dbUuid, dbFilled, dbValid, rfl⟩, rfl⟩
  refine ⟨dbUuid, rfl, ?_⟩
  have identified : CoordinationDbIdentity.make identitySchemaVersion args.accountKey dbUuid authorityId =
      .ok ⟨identitySchemaVersion, args.accountKey, dbUuid, authorityId, by decide, (checkArgs_ok passed).1,
        dbFilled, authorityFilled⟩ := by
    unfold CoordinationDbIdentity.make
    rw [dif_pos (by decide), dif_neg (checkArgs_ok passed).1, dif_neg dbFilled, dif_neg authorityFilled]
  apply yields_bind
  apply yields_ofExcept identified
  apply yields_bind
  apply create_yields missing
  intro _
  apply yields_bind
  apply yields_ofExcept (record_valid passed absolute authorityFilled authorityValid dbFilled dbValid)
  apply yields_bind
  apply writeAuthorityAtomic_yields
  intro after
  exact holds _ after

theorem resolve_yields_absent (accepted : Accepted host args) (bootstrap : args.bootstrap = true)
    (absent : Absent host args world) (free : world.owner = none) :
    Yields host process (resolve host process args) world fun _ _ => True := by
  obtain ⟨checked, passed⟩ := accepted.checked
  unfold resolve
  apply yields_bind
  apply yields_ofExcept passed
  apply yields_bind
  apply yields_ask
  intro answer locked law
  simp only [Serves, if_pos free] at law
  obtain ⟨rfl, rfl⟩ := law
  refine ⟨(), rfl, ?_⟩
  have lock := host.lockPath_ne args.accountKey
  have noAuthority : (world.put (host.lockPath args.accountKey) .text).files
      (host.authorityPath args.accountKey) = none :=
    (Function.update_of_ne lock.symm _ _).trans absent.1
  have noDatabase : (world.put (host.lockPath args.accountKey) .text).files (target host args) = none :=
    (Function.update_of_ne accepted.unlocked _ _).trans absent.2
  apply yields_bind
  apply yields_attempt
  apply yields_bind
  apply yields_bind
  apply yields_exists
  have looked : (({ world.put (host.lockPath args.accountKey) .text with owner := some process } :
      AuthorityWorld ι).files (host.authorityPath args.accountKey)).isSome = false := by
    rw [noAuthority]
    rfl
  rw [if_neg (by rw [looked]; decide)]
  apply yields_pure
  dsimp only
  rw [if_pos bootstrap]
  apply runBootstrap_yields passed accepted.absolute
  · exact noDatabase
  · intro authority after
    apply yields_bind
    apply yields_ask
    rintro _ released ⟨rfl, rfl⟩
    refine ⟨(), rfl, ?_⟩
    exact yields_ofExcept rfl trivial

omit [DecidableEq ι] in
theorem verifyAuthority_issued {checked : CheckedArgs} {authority : AccountAuthority}
    (issued : authority.IssuedFor host args checked) :
    verifyAuthority host authority args checked = .ok () := by
  obtain ⟨key, environment, accountType, digest, path⟩ := issued
  unfold verifyAuthority
  rw [if_neg (by simp [key]), if_neg (by simp [environment, accountType, digest])]
  unfold verifyPath
  cases named : args.coordinationDbPath with
  | none => rfl
  | some given =>
      have same : dbPath host args = host.resolvePath given := by
        unfold dbPath
        rw [named]
      dsimp only
      rw [path, same, host.resolvePath_idem, if_neg (by simp)]

theorem resolve_yields_paired {authority : AccountAuthority} (paired : Paired host args authority world)
    (free : world.owner = none) :
    Yields host process (resolve host process args) world fun other _ => other = authority := by
  obtain ⟨⟨document, written, read⟩, ⟨checked, passed, issued⟩, _⟩ := paired
  unfold resolve
  apply yields_bind
  apply yields_ofExcept passed
  apply yields_bind
  apply yields_ask
  intro answer locked law
  simp only [Serves, if_pos free] at law
  obtain ⟨rfl, rfl⟩ := law
  refine ⟨(), rfl, ?_⟩
  have found : (world.put (host.lockPath args.accountKey) .text).files
      (host.authorityPath args.accountKey) = some (.json document) :=
    (Function.update_of_ne (host.lockPath_ne args.accountKey).symm _ _).trans written
  apply yields_bind
  apply yields_attempt
  apply yields_bind
  apply yields_bind
  apply yields_exists
  rw [if_pos (by rw [found]; rfl)]
  apply yields_bind
  apply yields_bind
  apply yields_attempt
  apply yields_ask
  intro answer after law
  simp only [Serves, found] at law
  obtain ⟨rfl, rfl⟩ := law
  refine ⟨some document, rfl, ?_⟩
  apply yields_pure
  apply yields_bind
  apply yields_ofExcept read
  have key : checkKey args.accountKey authority = .ok (some authority) := if_neg (by simp [issued.1])
  apply yields_ofExcept key
  apply yields_bind
  apply yields_ofExcept (verifyAuthority_issued issued)
  apply yields_pure
  apply yields_bind
  apply yields_ask
  rintro _ released ⟨rfl, rfl⟩
  refine ⟨(), rfl, ?_⟩
  exact yields_ofExcept rfl rfl

theorem served_total (host : AuthorityHost ι) (process : ι) (world : AuthorityWorld ι)
    (command : AuthorityCommand) : ∃ answer after, Served host process world command answer after := by
  unfold Served
  cases command with
  | lockAcquire path =>
      simp only [Serves]
      split_ifs
      · exact ⟨_, _, rfl, rfl⟩
      · exact ⟨_, _, rfl, rfl⟩
  | readText path =>
      simp only [Serves]
      split
      · exact ⟨_, _, rfl, rfl⟩
      · exact ⟨_, _, rfl, rfl⟩
      · exact ⟨_, _, rfl, rfl⟩
      · exact ⟨_, _, rfl, rfl⟩
  | uuid4 =>
      obtain ⟨text, filled, valid⟩ := host.uuid_valid
      exact ⟨_, _, ⟨text, filled, valid, rfl⟩, rfl⟩
  | createTransaction path identity =>
      simp only [Serves]
      split
      · split
        · exact ⟨_, _, rfl, rfl⟩
        · exact ⟨_, _, rfl, rfl⟩
      · exact ⟨_, _, rfl, rfl⟩
  | initializeTransaction path expected =>
      simp only [Serves]
      split
      · split
        · exact ⟨_, _, rfl, rfl⟩
        · exact ⟨_, _, rfl, rfl⟩
      · exact ⟨_, _, rfl, rfl⟩
  | operate path operation =>
      simp only [Serves]
      split
      · exact ⟨_, _, rfl, rfl⟩
      · exact ⟨_, _, rfl, rfl⟩
  | replace source other =>
      simp only [Serves]
      split_ifs
      · exact ⟨_, _, rfl, rfl⟩
      · exact ⟨_, _, rfl, rfl⟩
  | _ => exact ⟨_, _, rfl, rfl⟩

/-- A call that meets no failure comes to an end, and it returns a record with this property. -/
def Succeeds (host : AuthorityHost ι) (process : ι) (args : ResolveArgs) (world : AuthorityWorld ι)
    (post : AccountAuthority → AuthorityWorld ι → Prop) : Prop :=
  (∃ outcome final, (resolve host process args ()).Reaches (Served host process) world
    (.done (outcome, ())) final) ∧
  ∀ outcome final, (resolve host process args ()).Reaches (Served host process) world
    (.done (outcome, ())) final → ∃ authority, outcome = .ok authority ∧ post authority final

theorem succeeds_of {post : AccountAuthority → AuthorityWorld ι → Prop}
    (yields : Yields host process (resolve host process args) world post) :
    Succeeds host process args world post := by
  refine ⟨?_, ?_⟩
  · obtain ⟨⟨outcome, _⟩, final, ended⟩ :=
      Program.reaches_end (served_total host process) (resolve host process args ()) world
    exact ⟨outcome, final, ended⟩
  · intro outcome final ended
    have done := (Program.Obeys.reaches (fun _ _ _ _ _ _ _ => trivial) ended yields trivial).1
    cases outcome with
    | ok authority => exact ⟨authority, rfl, done⟩
    | error exc => exact done.elim

theorem returned_paired {authority : AccountAuthority} (staged : Staged host args world)
    (reaches : (resolve host process args ()).Reaches (Answers host process) world
      (.done (.ok authority, ())) after) : Paired host args authority after := by
  have assures : Assured host args.accountKey (bootstrapScope host args) process (fun _ => True)
      (resolve host process args) fun authority => Resolved host args.accountKey authority :=
    resolve_assures rfl rfl fun checked authority accepted issued => ⟨checked, accepted, issued⟩
  have obeys := Program.Secure.alone (relies_chained process) (assures.meets () world trivial)
  obtain ⟨resolved, reached⟩ := Program.Obeys.reaches
    (fun _ _ _ _ permitted law held => answers_staged permitted law held) reaches obeys staged
  obtain ⟨document, written, read⟩ := resolved
  obtain absent | orphaned | ⟨other, paired⟩ := reached
  · cases absent.1.symm.trans written
  · exact absurd ⟨document, written⟩ orphaned.2.1
  · obtain ⟨document', written', read'⟩ := paired.1
    cases written.symm.trans written'
    cases read.symm.trans read'
    exact paired

abbrev again (args : ResolveArgs) (bootstrap : Bool) : ResolveArgs := { args with bootstrap := bootstrap }

omit [DecidableEq ι] in
theorem absent_again (bootstrap : Bool) :
    Absent host (again args bootstrap) world = Absent host args world := rfl

omit [DecidableEq ι] in
theorem orphaned_again (bootstrap : Bool) :
    Orphaned host (again args bootstrap) world = Orphaned host args world := rfl

omit [DecidableEq ι] in
theorem paired_again (bootstrap : Bool) (authority : AccountAuthority) :
    Paired host (again args bootstrap) authority world = Paired host args authority world := rfl

/-- A later bootstrap succeeds, and leaves the authority document with the database that matches. -/
def Repeatable (host : AuthorityHost ι) (args : ResolveArgs) (world : AuthorityWorld ι) : Prop :=
  Accepted host args → ∀ later, Succeeds host later (again args true) world (Paired host args)

/-- Every later call is refused, and leaves the database as it is. -/
def Refuses (host : AuthorityHost ι) (args : ResolveArgs) (world : AuthorityWorld ι) : Prop :=
  ∀ later bootstrap program final,
    (resolve host later (again args bootstrap) ()).Reaches (Answers host later) world program final →
    Orphaned host args final ∧
      (host.Proper args.accountKey (target host args) →
        final.files (target host args) = world.files (target host args)) ∧
      ∀ authority, program ≠ .done (.ok authority, ())

def remove (path : String) (world : AuthorityWorld ι) : AuthorityWorld ι :=
  { world with files := Function.update world.files path none }

theorem Succeeds.returned {post : AccountAuthority → AuthorityWorld ι → Prop}
    (succeeds : Succeeds host process args world post) : ∃ authority final,
    (resolve host process args ()).Reaches (Answers host process) world (.done (.ok authority, ())) final ∧
      post authority final := by
  obtain ⟨⟨outcome, final, ended⟩, returns⟩ := succeeds
  obtain ⟨authority, rfl, holds⟩ := returns outcome final ended
  exact ⟨authority, final, ended.mono fun _ _ _ _ served => .inl served, holds⟩

theorem absent_succeeds (accepted : Accepted host args) (bootstrap : args.bootstrap = true)
    (absent : Absent host args world) (free : world.owner = none) :
    Succeeds host process args world (Paired host args) := by
  obtain ⟨ends, returns⟩ := succeeds_of (resolve_yields_absent accepted bootstrap absent free)
  refine ⟨ends, ?_⟩
  intro outcome final ended
  obtain ⟨authority, rfl, _⟩ := returns outcome final ended
  exact ⟨authority, rfl, returned_paired (.inl absent) (ended.mono fun _ _ _ _ served => .inl served)⟩

theorem absent_repeatable (absent : Absent host args world) (free : world.owner = none) :
    Repeatable host args world := by
  intro accepted later
  have accepted : Accepted host (again args true) :=
    ⟨accepted.checked, accepted.absolute, accepted.unlocked⟩
  rw [← absent_again true] at absent
  have succeeds : Succeeds host later (again args true) world (Paired host (again args true)) :=
    absent_succeeds accepted rfl absent free
  exact succeeds

omit [DecidableEq ι] in
theorem orphaned_removed (orphaned : Orphaned host args world) :
    Absent host args (remove (target host args) world) := by
  refine ⟨?_, Function.update_self _ _ _⟩
  by_cases same : host.authorityPath args.accountKey = target host args
  · unfold authority
    rw [same]
    exact Function.update_self _ _ _
  · have missing : world.authority host args.accountKey = none :=
      orphaned.2.2.resolve_right fun other => same other.symm
    exact (Function.update_of_ne same _ _).trans missing

/-- Wherever a bootstrap of an account with neither file stops, by a crash or an exception: both
files are missing, and the same call can be repeated; or the database is there without the
document, and every later call is refused until the database is removed, and can be repeated then;
or the document and the database are there and match, and every later call returns their record. -/
theorem bootstrap_stages (host : AuthorityHost ι) (process : ι) (args : ResolveArgs)
    {world after : AuthorityWorld ι}
    {program : Program AuthorityCommand (fun command => Except Exc (AuthorityResult command))
      (Except Exc AccountAuthority × Unit)}
    (free : world.owner = none) (absent : Absent host args world)
    (reaches : (resolve host process args ()).Reaches (Answers host process) world program after) :
    Absent host args (after.release process) ∧ Repeatable host args (after.release process) ∨
    (Orphaned host args (after.release process) ∧ Refuses host args (after.release process) ∧
      Repeatable host args (remove (target host args) (after.release process))) ∨
    ∃ authority, Paired host args authority (after.release process) ∧
      ∀ later bootstrap, Succeeds host later (again args bootstrap) (after.release process)
        fun other _ => other = authority := by
  obtain ⟨staged, released⟩ := resolve_staged (.inl absent) (.inl free) reaches
  obtain missing | orphaned | ⟨authority, paired⟩ := staged
  · exact .inl ⟨missing, absent_repeatable missing released⟩
  · refine .inr (.inl ⟨orphaned, ?_, absent_repeatable (orphaned_removed orphaned) released⟩)
    intro later bootstrap program final later_reaches
    rw [← orphaned_again bootstrap] at orphaned
    have refused := orphaned_refuses orphaned later_reaches
    exact refused
  · refine .inr (.inr ⟨authority, paired, ?_⟩)
    intro later bootstrap
    rw [← paired_again bootstrap] at paired
    exact succeeds_of (resolve_yields_paired paired released)

section Interrupted

def plainHost : AuthorityHost Bool where
  root := "/root"
  pid first := if first then "1" else "2"
  resolvePath path := path
  isAbsolute path := path.toList.head? = some '/'
  isUuid text := text = "12345678-1234-4234-8234-123456789abc"
  intOfText _ := none
  reprOf _ := none
  sha256 _ := "57fce8c4997de690c0bc55777cec5819582cd6a6cb2275f25cef3b7b5e205e33"
  resolvePath_idem _ := rfl
  absolute_ne path absolute := by
    rintro rfl
    simp at absolute
  uuid_valid := ⟨"12345678-1234-4234-8234-123456789abc", by decide, by decide⟩

def plainArgs : ResolveArgs where
  accountKey := "57fce8c4997de690c0bc55777cec5819582cd6a6cb2275f25cef3b7b5e205e33"
  environment := "simulation"
  accountType := 2
  accountIdSha256 := "0000000000000000000000000000000000000000000000000000000000000000"
  coordinationDbPath := none
  bootstrap := true

theorem plainArgs_checked : checkArgs plainHost plainArgs = .ok ⟨"simulation",
    "0000000000000000000000000000000000000000000000000000000000000000"⟩ := by
  have digest : isDigest plainArgs.accountIdSha256 = true := by decide
  have key : requireAccountKey plainArgs.accountKey = .ok plainArgs.accountKey := if_neg (by decide)
  have environment : requireEnvironment plainArgs.environment = .ok "simulation" := if_pos (by decide)
  have derived : accountKeyFromBindingIdentity plainHost "simulation" plainArgs.accountType
      plainArgs.accountIdSha256 = .ok plainArgs.accountKey := by
    unfold accountKeyFromBindingIdentity
    rw [if_neg (by decide), lower_strip_digest digest, if_neg (by rw [digest]; decide)]
    rfl
  unfold checkArgs
  rw [key, environment, requireAccountIdSha256_digest digest]
  simp only [bind, Except.bind, derived]
  exact if_neg fun different => different rfl

def emptyWorld : AuthorityWorld Bool := ⟨fun _ => none, none, []⟩

def lockedWorld : AuthorityWorld Bool :=
  { emptyWorld.put (plainHost.lockPath plainArgs.accountKey) .text with owner := some true }

def plainIdentity : CoordinationDbIdentity :=
  ⟨identitySchemaVersion, plainArgs.accountKey, "12345678-1234-4234-8234-123456789abc",
    "12345678-1234-4234-8234-123456789abc", identitySchemaVersion_pos, by decide, by decide,
    by decide⟩

def committedWorld : AuthorityWorld Bool :=
  (lockedWorld.put (target plainHost plainArgs) (.database {})).put (target plainHost plainArgs)
    (.database { CoordinationDb.ensureMeta {} with coordinationIdentity := [plainIdentity.row] })

theorem lockedWorld_files {path : String} (other : path ≠ plainHost.lockPath plainArgs.accountKey) :
    lockedWorld.files path = none := Function.update_of_ne other _ _

theorem committed_reached : (resolve plainHost true plainArgs).Stops (Answers plainHost true) ()
    emptyWorld committedWorld := by
  have proper : plainHost.Proper plainArgs.accountKey (target plainHost plainArgs) :=
    plainHost.defaultCoordinationDbPath_proper plainArgs.accountKey
  have locked : (ask (.lockAcquire (plainHost.lockPath plainArgs.accountKey))).Returns
      (Answers plainHost true) () emptyWorld () () lockedWorld := by
    apply Method.returns_perform
    have free : emptyWorld.owner = none := rfl
    refine .inl ?_
    simp only [Serves, if_pos free]
    exact ⟨trivial, rfl⟩
  have noDocument : (ask (.pathExists (plainHost.authorityPath plainArgs.accountKey))).Returns
      (Answers plainHost true) () lockedWorld false () lockedWorld := by
    apply Method.returns_perform
    refine .inl ⟨?_, rfl⟩
    rw [lockedWorld_files (plainHost.lockPath_ne _).symm]
    rfl
  have uuid : (ask .uuid4).Returns (Answers plainHost true) () lockedWorld
      "12345678-1234-4234-8234-123456789abc" () lockedWorld :=
    Method.returns_perform (.inl ⟨⟨_, by decide, by decide, rfl⟩, rfl⟩)
  have noDatabase : (ask (.pathExists (target plainHost plainArgs))).Returns
      (Answers plainHost true) () lockedWorld false () lockedWorld := by
    apply Method.returns_perform
    refine .inl ⟨?_, rfl⟩
    rw [lockedWorld_files proper.2.1]
    rfl
  have connected : (ask (.connect (target plainHost plainArgs))).Returns (Answers plainHost true) ()
      lockedWorld () () (lockedWorld.put (target plainHost plainArgs) (.database {})) := by
    apply Method.returns_perform
    refine .inl ⟨rfl, ?_⟩
    rw [touch, if_pos (by rw [lockedWorld_files proper.2.1]; rfl)]
  have created : (ask (.createTransaction (target plainHost plainArgs) plainIdentity)).Returns
      (Answers plainHost true) () (lockedWorld.put (target plainHost plainArgs) (.database {})) () ()
      committedWorld := by
    apply Method.returns_perform
    have empty : (lockedWorld.put (target plainHost plainArgs) (.database {})).files
        (target plainHost plainArgs) = some (.database {}) := lockedWorld.put_self _ _
    have filled : CoordinationDb.create plainIdentity {} =
        .ok { CoordinationDb.ensureMeta {} with coordinationIdentity := [plainIdentity.row] } := rfl
    refine .inl ?_
    simp only [Serves, empty, filled]
    exact ⟨trivial, rfl⟩
  apply Method.stops_next (Method.returns_ofExcept plainArgs_checked)
  apply Method.stops_next locked
  apply Method.stops_first
  apply Method.stops_attempt
  have missing : (readAuthority plainHost plainArgs.accountKey).Returns (Answers plainHost true) ()
      lockedWorld none () lockedWorld := Method.returns_bind noDocument (.here _ _)
  have created : (create plainHost (dbPath plainHost plainArgs) plainIdentity).Stops (Answers plainHost true)
      () lockedWorld committedWorld := by
    apply Method.stops_next noDatabase
    apply Method.stops_next connected
    apply Method.stops_next created
    exact Method.stops_here _
  have absolute : plainHost.isAbsolute (dbPath plainHost plainArgs) = true := by decide
  apply Method.stops_next missing
  have bootstrap : plainArgs.bootstrap = true := rfl
  dsimp only
  rw [if_pos bootstrap]
  unfold runBootstrap
  rw [if_pos absolute]
  apply Method.stops_next uuid
  apply Method.stops_next uuid
  have identified : CoordinationDbIdentity.make identitySchemaVersion plainArgs.accountKey
      "12345678-1234-4234-8234-123456789abc" "12345678-1234-4234-8234-123456789abc" =
      .ok plainIdentity := rfl
  apply Method.stops_next (Method.returns_ofExcept identified)
  exact Method.stops_first created

/-- A bootstrap that has stopped there has not left the pair, and no later call with its arguments
returns. -/
theorem bootstrap_not_all_or_nothing : ∃ program after,
    (resolve plainHost true plainArgs ()).Reaches (Answers plainHost true) emptyWorld program after ∧
    Absent plainHost plainArgs emptyWorld ∧ emptyWorld.owner = none ∧ plainArgs.bootstrap = true ∧
    (∀ authority, ¬ Paired plainHost plainArgs authority (after.release true)) ∧
    ∀ later bootstrap outcome final authority,
      (resolve plainHost later (again plainArgs bootstrap) ()).Reaches (Answers plainHost later)
        (after.release true) (.done (outcome, ())) final → outcome ≠ .ok authority := by
  obtain ⟨program, reached⟩ := committed_reached
  have proper : plainHost.Proper plainArgs.accountKey (target plainHost plainArgs) :=
    plainHost.defaultCoordinationDbPath_proper plainArgs.accountKey
  have orphaned : Orphaned plainHost plainArgs (committedWorld.release true) := by
    have noDocument : (committedWorld.release true).authority plainHost plainArgs.accountKey = none := by
      unfold authority
      rw [release_files]
      unfold committedWorld
      rw [put_other _ _ proper.1.symm, put_other _ _ proper.1.symm]
      exact lockedWorld_files (plainHost.lockPath_ne _).symm
    refine ⟨?_, ?_, .inl noDocument⟩
    · rw [release_files]
      unfold committedWorld
      rw [put_self]
      rfl
    · intro certified
      obtain ⟨document, written⟩ := certified
      cases noDocument.symm.trans written
  refine ⟨program, committedWorld, reached, ⟨rfl, rfl⟩, rfl, rfl, ?_, ?_⟩
  · intro authority paired
    obtain ⟨document, written, _⟩ := paired.1
    exact orphaned.2.1 ⟨document, written⟩
  · intro later bootstrap outcome final authority reaches returned
    rw [← orphaned_again bootstrap] at orphaned
    subst returned
    exact (orphaned_refuses orphaned reaches).2.2 authority rfl

theorem bootstrap_stages_committed : ∃ program,
    (resolve plainHost true plainArgs ()).Reaches (Answers plainHost true) emptyWorld program committedWorld ∧
    (Absent plainHost plainArgs (committedWorld.release true) ∧
        Repeatable plainHost plainArgs (committedWorld.release true) ∨
      (Orphaned plainHost plainArgs (committedWorld.release true) ∧
        Refuses plainHost plainArgs (committedWorld.release true) ∧
        Repeatable plainHost plainArgs
          (remove (target plainHost plainArgs) (committedWorld.release true))) ∨
      ∃ authority, Paired plainHost plainArgs authority (committedWorld.release true) ∧
        ∀ later bootstrap, Succeeds plainHost later (again plainArgs bootstrap) (committedWorld.release true)
          fun other _ => other = authority) := by
  obtain ⟨program, reached⟩ := committed_reached
  exact ⟨program, reached, bootstrap_stages plainHost true plainArgs rfl ⟨rfl, rfl⟩ reached⟩

end Interrupted

end AccountRuntimeAuthority

end QmtExecution
