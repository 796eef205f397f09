import QmtExecution.Authority.Reliance

/-! `resolve` among other processes: whatever they do, it issues permitted calls only, and what it
returns is the record of the authority document. -/

namespace QmtExecution

open Interaction

variable {ι : Type}

def AccountAuthority.IssuedFor (host : AuthorityHost ι) (args : ResolveArgs) (checked : CheckedArgs)
    (authority : AccountAuthority) : Prop :=
  authority.accountKey = args.accountKey ∧ authority.environment = checked.environment ∧
    authority.accountType = args.accountType ∧ authority.accountIdSha256 = checked.digest ∧
    authority.coordinationDbPath = AccountRuntimeAuthority.dbPath host args

namespace AccountRuntimeAuthority

open AuthorityWorld

variable (host : AuthorityHost ι) (accountKey : String) (scope : BootstrapScope) (process : ι)

def Resolved (authority : AccountAuthority) (world : AuthorityWorld ι) : Prop :=
  ∃ document, world.authority host accountKey = some (.json document) ∧
    AccountAuthority.fromPayload host document = .ok authority

def Created (path : String) (row : IdentityRow) (files : String → Option StoredFile) : Prop :=
  ∃ db, files path = some (.database db) ∧ db.coordinationIdentity = [row]

/-- The lock is held, the document is missing, and this is in the files. -/
def Underway (fact : (String → Option StoredFile) → Prop) (world : AuthorityWorld ι) : Prop :=
  world.Bootstrapping host accountKey process ∧ fact world.files

abbrev Assured [DecidableEq ι] {α : Type} (pre : AuthorityWorld ι → Prop) (method : AuthorityM α)
    (post : α → AuthorityWorld ι → Prop) : Prop :=
  method.Assures (Relies host accountKey process) (Permits host accountKey scope process)
    (Answers host process) pre post

variable {host accountKey scope process}

theorem stable_underway (fact : (String → Option StoredFile) → Prop) :
    Stable (Relies host accountKey process) (Underway host accountKey process fact) :=
  stable_bootstrapping

theorem stable_resolved (authority : AccountAuthority) :
    Stable (Relies host accountKey process) (Resolved host accountKey authority) := by
  apply stable_evolves
  intro world after evolves resolved
  obtain ⟨document, written, read⟩ := resolved
  exact ⟨document, evolves.document document written, read⟩

theorem stable_true : Stable (Relies host accountKey process) fun _ => True := fun _ _ _ _ => trivial

theorem bootstrapping_put {world : AuthorityWorld ι} {path : String} {file : StoredFile}
    (bootstrapping : world.Bootstrapping host accountKey process)
    (other : path ≠ host.authorityPath accountKey ∨ ∀ document, file ≠ .json document) :
    (world.put path file).Bootstrapping host accountKey process := by
  refine ⟨bootstrapping.1, ?_⟩
  intro certified
  obtain ⟨document, written⟩ := certified
  by_cases same : host.authorityPath accountKey = path
  · subst same
    have put := (Function.update_self _ _ _).symm.trans written
    obtain different | plain := other
    · exact different rfl
    · exact plain document (Option.some.inj put)
  · have kept := (Function.update_of_ne same _ _).symm.trans written
    exact bootstrapping.2 ⟨document, kept⟩

variable [DecidableEq ι]

theorem ask_assures {command : AuthorityCommand} {pre : AuthorityWorld ι → Prop}
    {post : AuthorityResult command → AuthorityWorld ι → Prop}
    (stable : Stable (Relies host accountKey process) pre)
    (permitted : ∀ world, pre world → Permits host accountKey scope process world command)
    (lasting : ∀ value, Stable (Relies host accountKey process) (post value))
    (holds : ∀ world value after, pre world → world.Serves host process command (.ok value) after →
      post value after) : Assured host accountKey scope process pre (ask command) post := by
  apply Method.assures_perform stable permitted lasting
  intro world value after held law
  exact holds world value after held law.served

theorem look_assures {path : String} {fact : (String → Option StoredFile) → Prop} :
    Assured host accountKey scope process (Underway host accountKey process fact) (ask (.pathExists path))
      fun present => Underway host accountKey process fun files =>
        fact files ∧ present = (files path).isSome := by
  apply ask_assures
  · exact stable_underway fact
  · exact fun _ _ => trivial
  · exact fun _ => stable_underway _
  · intro world present after held law
    obtain ⟨answered, rfl⟩ := law
    cases answered
    exact ⟨held.1, held.2, rfl⟩

theorem connect_assures {path : String} (permitted : scope.path path)
    {fact : (String → Option StoredFile) → Prop}
    (gives : ∀ files, fact files → ∃ db, files path = some (.database db)) :
    Assured host accountKey scope process (Underway host accountKey process fact) (ask (.connect path))
      fun _ => Underway host accountKey process fact := by
  apply ask_assures
  · exact stable_underway fact
  · exact fun world held => .inr ⟨held.1, permitted⟩
  · exact fun _ => stable_underway fact
  · intro world value after held law
    obtain ⟨db, found⟩ := gives world.files held.2
    have same : world.touch path = world := by
      apply if_neg
      rw [found]
      simp
    rw [law.2, same]
    exact held

theorem construct_underway {path : String} {expected : CoordinationDbIdentity} {row : IdentityRow}
    (permitted : scope.path (host.resolvePath path)) :
    Assured host accountKey scope process
      (Underway host accountKey process (Created (host.resolvePath path) row)) (construct host path expected)
      fun _ => Underway host accountKey process (Created (host.resolvePath path) row) := by
  apply Method.assures_bind look_assures
  intro present
  apply Method.assures_ite
  · intro _
    apply Method.assures_bind
    · apply connect_assures permitted
      intro files held
      obtain ⟨⟨db, found, _⟩, _⟩ := held
      exact ⟨db, found⟩
    · intro _
      apply ask_assures
      · exact stable_underway _
      · exact fun world held => .inr ⟨held.1, permitted⟩
      · exact fun _ => stable_underway _
      · intro world value after held law
        obtain ⟨db, found, single⟩ := held.2.1
        simp only [Serves, found] at law
        split at law
        · rename_i opened done
          obtain ⟨rfl, _⟩ := CoordinationDb.initializeDb_ok done
          rw [law.2]
          refine ⟨bootstrapping_put held.1 (.inr fun _ same => by cases same), db.ensureMeta, ?_, ?_⟩
          · exact Function.update_self _ _ _
          · rw [CoordinationDb.ensureMeta_identity, single]
        · cases law.1
  · exact fun _ => Method.assures_raise _

theorem create_assures {path : String} {identity : CoordinationDbIdentity}
    (permitted : scope.path (host.resolvePath path)) :
    Assured host accountKey scope process (Underway host accountKey process fun _ => True)
      (create host path identity)
      fun _ => Underway host accountKey process (Created (host.resolvePath path) identity.row) := by
  apply Method.assures_bind look_assures
  intro present
  apply Method.assures_ite
  · exact fun _ => Method.assures_raise _
  · intro absent
    have connected : Assured host accountKey scope process
        (Underway host accountKey process fun files => True ∧ present = (files (host.resolvePath path)).isSome)
        (ask (.connect (host.resolvePath path)))
        fun _ => Underway host accountKey process fun files =>
          files (host.resolvePath path) = some (.database {}) := by
      apply ask_assures
      · exact stable_underway _
      · exact fun world held => .inr ⟨held.1, permitted⟩
      · exact fun _ => stable_underway _
      · intro world value after held law
        have missing : (world.files (host.resolvePath path)).isNone = true := by
          have given := held.2.2
          rw [Bool.not_eq_true] at absent
          rw [absent] at given
          exact Option.isSome_eq_false_iff.1 given.symm
        rw [law.2, touch, if_pos missing]
        exact ⟨bootstrapping_put held.1 (.inr fun _ same => by cases same), Function.update_self _ _ _⟩
    apply Method.assures_bind connected
    intro _
    have created : Assured host accountKey scope process
        (Underway host accountKey process fun files =>
          files (host.resolvePath path) = some (.database {}))
        (ask (.createTransaction (host.resolvePath path) identity))
        fun _ => Underway host accountKey process (Created (host.resolvePath path) identity.row) := by
      apply ask_assures
      · exact stable_underway _
      · exact fun world held => ⟨held.1, permitted⟩
      · exact fun _ => stable_underway _
      · intro world value after held law
        simp only [Serves, held.2] at law
        rw [show CoordinationDb.create identity {} = .ok { CoordinationDb.ensureMeta {} with
          coordinationIdentity := [identity.row] } from rfl] at law
        rw [law.2]
        exact ⟨bootstrapping_put held.1 (.inr fun _ same => by cases same), _,
          Function.update_self _ _ _, rfl⟩
    apply Method.assures_bind created
    intro _
    exact construct_underway permitted

/-- The files while the temporary file is written: the database is there, unless its path is the
one of the temporary file. -/
def Writing (host : AuthorityHost ι) (accountKey : String) (authority : AccountAuthority)
    (files : String → Option StoredFile) : Prop :=
  host.Proper accountKey (host.resolvePath authority.coordinationDbPath) →
    Created (host.resolvePath authority.coordinationDbPath) authority.row files

omit [DecidableEq ι] in
theorem writing_put {world : AuthorityWorld ι} {authority : AccountAuthority} {file : StoredFile}
    (writing : Writing host accountKey authority world.files) :
    Writing host accountKey authority (world.put (host.temporaryPath process accountKey) file).files := by
  intro proper
  obtain ⟨db, found, single⟩ := writing proper
  exact ⟨db, (Function.update_of_ne (proper.2.2 process) _ _).trans found, single⟩

theorem writeAuthorityAtomic_assures {authority : AccountAuthority} (same : authority.accountKey = accountKey)
    (valid : authority.validate host = .ok authority)
    (issued : scope.record authority) :
    Assured host accountKey scope process
      (Underway host accountKey process (Writing host accountKey authority))
      (writeAuthorityAtomic host process authority) fun _ => Resolved host accountKey authority := by
  have temporary := host.temporaryPath_ne accountKey process
  subst same
  have opened : Assured host authority.accountKey scope process
      (Underway host authority.accountKey process (Writing host authority.accountKey authority))
      (ask (.openTemporary (host.temporaryPath process authority.accountKey)))
      fun _ => Underway host authority.accountKey process (Writing host authority.accountKey authority) := by
    apply ask_assures
    · exact stable_underway _
    · exact fun world held => ⟨held.1, rfl⟩
    · exact fun _ => stable_underway _
    · intro world value after held law
      rw [law.2]
      exact ⟨bootstrapping_put held.1 (.inl temporary), writing_put held.2⟩
  apply Method.assures_bind opened
  intro _
  have written : Assured host authority.accountKey scope process
      (Underway host authority.accountKey process (Writing host authority.accountKey authority))
      (ask (.writeTemporary (host.temporaryPath process authority.accountKey) authority.toPayload))
      fun _ => Underway host authority.accountKey process fun files =>
        files (host.temporaryPath process authority.accountKey) = some (.json authority.toPayload) ∧
          Writing host authority.accountKey authority files := by
    apply ask_assures
    · exact stable_underway _
    · exact fun world held => ⟨held.1, rfl⟩
    · exact fun _ => stable_underway _
    · intro world value after held law
      rw [law.2]
      exact ⟨bootstrapping_put held.1 (.inl temporary), Function.update_self _ _ _, writing_put held.2⟩
  apply Method.assures_bind written
  intro _
  apply ask_assures
  · exact stable_underway _
  · intro world held
    exact ⟨held.1, rfl, rfl, authority, held.2.1, valid, issued, held.2.2⟩
  · exact fun _ => stable_resolved authority
  · intro world value after held law
    have present : (world.files (host.temporaryPath process authority.accountKey)).isSome = true := by
      rw [held.2.1]
      rfl
    have moved : after = world.move (host.temporaryPath process authority.accountKey)
        (host.authorityPath authority.accountKey) := ((if_pos present).mp law).2
    refine ⟨authority.toPayload, ?_, AccountAuthority.fromPayload_toPayload valid⟩
    rw [moved]
    calc
      _ = Function.update world.files (host.authorityPath authority.accountKey)
            (world.files (host.temporaryPath process authority.accountKey))
            (host.authorityPath authority.accountKey) := Function.update_of_ne temporary.symm _ _
      _ = some (.json authority.toPayload) := (Function.update_self _ _ _).trans held.2.1

theorem runBootstrap_assures {args : ResolveArgs} {checked : CheckedArgs}
    (same : args.accountKey = accountKey) (permitted : scope.path (host.resolvePath (dbPath host args)))
    (issued : ∀ authority, authority.IssuedFor host args checked → scope.record authority) :
    Assured host accountKey scope process
      (Underway host accountKey process fun _ => True) (runBootstrap host process args checked)
      fun authority => Resolved host accountKey authority := by
  have fresh : Assured host accountKey scope process (Underway host accountKey process fun _ => True)
      (ask .uuid4) fun _ => Underway host accountKey process fun _ => True := by
    apply ask_assures
    · exact stable_underway _
    · exact fun _ _ => trivial
    · exact fun _ => stable_underway _
    · intro world text after held law
      rw [law.2]
      exact held
  apply Method.assures_ite
  · intro _
    apply Method.assures_bind fresh
    intro authorityId
    apply Method.assures_bind fresh
    intro dbUuid
    have identified : Assured host accountKey scope process
        (Underway host accountKey process fun _ => True)
        (Method.ofExcept (CoordinationDbIdentity.make identitySchemaVersion args.accountKey dbUuid authorityId))
        fun identity world => identity.row = ⟨args.accountKey, dbUuid, authorityId, identitySchemaVersion⟩ ∧
          Underway host accountKey process (fun _ => True) world := by
      apply Method.assures_ofExcept
      intro identity made world held
      exact ⟨CoordinationDbIdentity.make_ok made, held⟩
    apply Method.assures_bind identified
    intro identity
    apply Method.assures_under fun _ held => held.1
    intro row
    apply Method.assures_bind ((create_assures permitted).narrow fun _ held => held.2)
    intro _
    have recorded : Assured host accountKey scope process
        (Underway host accountKey process (Created (host.resolvePath (dbPath host args)) identity.row))
        (Method.ofExcept (AccountAuthority.validate host ⟨authoritySchemaVersion, authorityId,
          args.accountKey, checked.environment, args.accountType, checked.digest, dbPath host args, dbUuid⟩))
        fun authority world => authority = ⟨authoritySchemaVersion, authorityId, args.accountKey,
            checked.environment, args.accountType, checked.digest, dbPath host args, dbUuid⟩ ∧
          authority.validate host = .ok authority ∧
          Underway host accountKey process
            (Created (host.resolvePath (dbPath host args)) identity.row) world := by
      apply Method.assures_ofExcept
      intro authority valid world held
      have unchanged := AccountAuthority.validate_same valid
      rw [← unchanged] at valid
      exact ⟨unchanged, valid, held⟩
    apply Method.assures_bind recorded
    intro authority
    apply Method.assures_under fun _ held => And.intro held.1 held.2.1
    intro record
    obtain ⟨made, valid⟩ := record
    have written : Assured host accountKey scope process
        (fun world => authority = ⟨authoritySchemaVersion, authorityId, args.accountKey,
            checked.environment, args.accountType, checked.digest, dbPath host args, dbUuid⟩ ∧
          authority.validate host = .ok authority ∧
          Underway host accountKey process
            (Created (host.resolvePath (dbPath host args)) identity.row) world)
        (writeAuthorityAtomic host process authority) fun _ => Resolved host accountKey authority := by
      subst made
      apply Method.Assures.narrow (writeAuthorityAtomic_assures same valid (issued _ ⟨rfl, rfl, rfl, rfl, rfl⟩))
      intro world held
      obtain ⟨_, _, bootstrapping, db, found, single⟩ := held
      rw [row] at single
      exact ⟨bootstrapping, fun _ => ⟨db, found, single⟩⟩
    apply Method.assures_bind written
    intro _
    exact Method.assures_pure fun _ resolved => resolved
  · exact fun _ => Method.assures_raise _

theorem readDocument_assures :
    Assured host accountKey scope process (fun _ => True) (readDocument (host.authorityPath accountKey))
      fun document world => world.authority host accountKey = some (.json document) := by
  have read : Assured host accountKey scope process (fun _ => True)
      (ask (.readText (host.authorityPath accountKey)))
      fun found world => ∀ document, found = some document →
        world.authority host accountKey = some (.json document) := by
    apply ask_assures
    · exact stable_true
    · exact fun _ _ => trivial
    · intro found
      apply stable_evolves
      intro world after evolves held document same
      exact evolves.document document (held document same)
    · intro world found after _ law document same
      obtain ⟨rfl, law⟩ := law
      subst same
      split at law
      · rename_i written present
        cases law
        exact present
      · cases law
      · cases law
      · cases law
  apply Method.assures_bind (Method.assures_attempt read)
  intro outcome
  split
  · rename_i document
    apply Method.assures_pure
    intro world held
    exact held _ rfl document rfl
  · exact Method.assures_raise _
  · exact Method.assures_ite (fun _ => Method.assures_raise _) fun _ => Method.assures_raise _

theorem readAuthority_assures :
    Assured host accountKey scope process (fun world => world.owner = some process)
      (readAuthority host accountKey) fun found world => match found with
        | some authority => Resolved host accountKey authority world
        | none => Underway host accountKey process (fun _ => True) world := by
  have looked : Assured host accountKey scope process (fun world => world.owner = some process)
      (ask (.pathExists (host.authorityPath accountKey)))
      fun present world => present = false → Underway host accountKey process (fun _ => True) world := by
    apply ask_assures
    · intro world after relies held
      exact relies.owner held
    · exact fun _ _ => trivial
    · intro present world after relies held absent
      exact stable_underway _ world after relies (held absent)
    · intro world present after held law absent
      obtain ⟨answered, rfl⟩ := law
      subst absent
      have missing := (Except.ok.inj answered).symm
      refine ⟨⟨held, ?_⟩, trivial⟩
      intro certified
      obtain ⟨document, written⟩ := certified
      rw [show after.files (host.authorityPath accountKey) = _ from written] at missing
      cases missing
  apply Method.assures_bind looked
  intro present
  apply Method.assures_ite
  · intro _
    apply Method.assures_bind (readDocument_assures.narrow fun _ _ => trivial)
    intro document
    have parsed : Assured host accountKey scope process
        (fun world => world.authority host accountKey = some (.json document))
        (Method.ofExcept (AccountAuthority.fromPayload host document))
        fun authority world => Resolved host accountKey authority world := by
      apply Method.assures_ofExcept
      intro authority read world written
      exact ⟨document, written, read⟩
    apply Method.assures_bind parsed
    intro authority
    apply Method.assures_ofExcept
    intro found checked world resolved
    unfold checkKey at checked
    split_ifs at checked
    cases checked
    exact resolved
  · intro absent
    apply Method.assures_pure
    intro world held
    exact held (by simpa using absent)

theorem resolveLocked_assures {args : ResolveArgs} {checked : CheckedArgs} (same : args.accountKey = accountKey)
    (permitted : scope.path (host.resolvePath (dbPath host args)))
    (issued : ∀ authority, authority.IssuedFor host args checked → scope.record authority) :
    Assured host accountKey scope process (fun world => world.owner = some process)
      (resolveLocked host process args checked) fun authority => Resolved host accountKey authority := by
  subst same
  apply Method.assures_bind readAuthority_assures
  intro found
  cases found with
  | some authority =>
      apply Method.assures_bind (Method.assures_ofExcept fun _ _ _ resolved => resolved)
      intro _
      exact Method.assures_pure fun _ resolved => resolved
  | none =>
      apply Method.assures_ite
      · intro _
        exact runBootstrap_assures rfl permitted issued
      · exact fun _ => Method.assures_raise _

/-- Whatever the other processes do, `resolve` issues permitted calls only, and the record that it
returns is the one of the authority document. -/
theorem resolve_assures {args : ResolveArgs} (same : args.accountKey = accountKey)
    (permitted : scope.path (host.resolvePath (dbPath host args)))
    (issued : ∀ checked authority, checkArgs host args = .ok checked →
      authority.IssuedFor host args checked → scope.record authority) :
    Assured host accountKey scope process (fun _ => True) (resolve host process args)
      fun authority => Resolved host accountKey authority := by
  have passed : Assured host accountKey scope process (fun _ => True)
      (Method.ofExcept (checkArgs host args)) fun checked _ => checkArgs host args = .ok checked :=
    Method.assures_ofExcept fun _ checked _ _ => checked
  apply Method.assures_bind passed
  intro checked
  apply Method.assures_under fun _ held => held
  intro accepted
  have locked : Assured host accountKey scope process (fun _ => True)
      (ask (.lockAcquire (host.lockPath args.accountKey))) fun _ world => world.owner = some process := by
    apply ask_assures
    · exact stable_true
    · intro _ _
      exact congrArg host.lockPath same
    · intro _ world after relies held
      exact relies.owner held
    · intro world value after _ law
      simp only [Serves] at law
      split_ifs at law
      · rw [law.2]
      · cases law.1
  apply Method.assures_bind (locked.narrow fun _ _ => trivial)
  intro _
  apply Method.assures_bind (Method.assures_attempt (resolveLocked_assures same permitted fun authority => issued checked authority accepted))
  intro outcome
  have released : Assured host accountKey scope process
      (fun world => ∀ authority, outcome = .ok authority → Resolved host accountKey authority world)
      (ask .lockRelease)
      fun _ world => ∀ authority, outcome = .ok authority → Resolved host accountKey authority world := by
    apply ask_assures
    · intro world after relies held authority returned
      exact stable_resolved authority world after relies (held authority returned)
    · exact fun _ _ => trivial
    · intro _ world after relies held authority returned
      exact stable_resolved authority world after relies (held authority returned)
    · intro world value after held law authority returned
      obtain ⟨document, written, read⟩ := held authority returned
      rw [law.2]
      exact ⟨document, (release_evolves process).document document written, read⟩
  apply Method.assures_bind released
  intro _
  apply Method.assures_ofExcept
  intro authority returned world held
  exact held authority returned

omit [DecidableEq ι] in
theorem stable_certified :
    Stable (Relies host accountKey process) (Certified (ι := ι) host accountKey) := by
  apply stable_evolves
  intro world after evolves certified
  exact evolves.certifies certified

def Constructed (host : AuthorityHost ι) (path : String) (expected : CoordinationDbIdentity)
    (world : AuthorityWorld ι) : Prop :=
  ⟨host.resolvePath path, expected, [expected.row]⟩ ∈ world.opened

theorem construct_certified {path : String} {expected : CoordinationDbIdentity} :
    Assured host accountKey scope process (Certified host accountKey) (construct host path expected)
      fun _ world => world.Certified host accountKey ∧ Constructed host path expected world := by
  have look : Assured host accountKey scope process (Certified host accountKey)
      (ask (.pathExists (host.resolvePath path))) fun _ => Certified host accountKey := by
    apply ask_assures stable_certified
    · exact fun _ _ => trivial
    · exact fun _ => stable_certified
    · intro world value after held law
      rw [law.2]
      exact held
  have connect : Assured host accountKey scope process (Certified host accountKey)
      (ask (.connect (host.resolvePath path))) fun _ => Certified host accountKey := by
    apply ask_assures stable_certified
    · exact fun _ held => .inl held
    · exact fun _ => stable_certified
    · intro world value after held law
      rw [law.2]
      exact (touch_evolves _).certifies held
  apply Method.assures_bind look
  intro present
  apply Method.assures_ite
  · intro _
    apply Method.assures_bind connect
    intro _
    apply ask_assures stable_certified
    · exact fun _ held => .inl held
    · intro _
      apply stable_evolves
      intro world after evolves opened
      exact ⟨evolves.certifies opened.1, evolves.openings _ opened.2⟩
    · intro world value after held law
      simp only [Serves] at law
      split at law
      · split at law
        · rename_i db found _ opened done
          have single := (CoordinationDb.initializeDb_ok done).2
          rw [law.2]
          refine ⟨(initialize_evolves found done).certifies held, ?_⟩
          unfold Constructed
          rw [single]
          exact List.mem_cons_self
        · cases law.1
      · cases law.1
  · exact fun _ => Method.assures_raise _

end AccountRuntimeAuthority

end QmtExecution
