import QmtExecution.Authority.Records
import QmtExecution.Authority.Certification
import QmtExecution.Interaction.Rely

/-! `AccountRuntimeAuthority.resolve` over the files of one authority root: the per-account OS
lock, the authority document with its temporary file, and the coordination databases. Any call to
the files may raise, and a process may stop between any two of them. -/

namespace QmtExecution

open Interaction

/-- What is in a file: a complete authority document, a database, or other bytes. -/
inductive StoredFile
  | text
  | json (document : JsonDocument)
  | database (db : CoordinationDb)

inductive AuthorityCommand
  | lockAcquire (path : String)
  | lockRelease
  | pathExists (path : String)
  | readText (path : String)
  | uuid4
  | connect (path : String)
  | createTransaction (path : String) (identity : CoordinationDbIdentity)
  | initializeTransaction (path : String) (expected : CoordinationDbIdentity)
  | operate (path : String) (operation : CoordinatorOperation)
  | openTemporary (path : String)
  | writeTemporary (path : String) (document : JsonDocument)
  | replace (source target : String)

abbrev AuthorityResult : AuthorityCommand → Type
  | .pathExists _ => Bool
  | .readText _ => Option JsonDocument
  | .uuid4 => String
  | .operate _ _ => Option Bool
  | _ => Unit

abbrev AuthorityM (α : Type) : Type := Method AuthorityCommand AuthorityResult Unit Exc α

structure ResolveArgs where
  accountKey : String
  environment : String
  accountType : ℤ
  accountIdSha256 : String
  coordinationDbPath : Option String
  bootstrap : Bool
  deriving DecidableEq

namespace AuthorityHost

variable {ι : Type} (host : AuthorityHost ι)

def authorityPath (accountKey : String) : String := host.root ++ "/" ++ accountKey ++ ".authority.json"

def lockPath (accountKey : String) : String := host.root ++ "/" ++ accountKey ++ ".authority.lock"

def defaultCoordinationDbPath (accountKey : String) : String :=
  host.root ++ "/" ++ accountKey ++ ".coordination.db"

def temporaryPath (process : ι) (accountKey : String) : String :=
  host.root ++ "/." ++ accountKey ++ ".authority.json." ++ host.pid process ++ ".tmp"

end AuthorityHost

structure CheckedArgs where
  environment : String
  digest : String

namespace AccountRuntimeAuthority

variable {ι : Type} (host : AuthorityHost ι) (process : ι)

def ask (command : AuthorityCommand) : AuthorityM (AuthorityResult command) := Method.perform command

def checkArgs (args : ResolveArgs) : Except Exc CheckedArgs := do
  let key ← requireAccountKey args.accountKey
  let environment ← requireEnvironment args.environment
  let digest ← requireAccountIdSha256 args.accountIdSha256
  let derived ← accountKeyFromBindingIdentity host environment args.accountType digest
  if derived ≠ key then
    .error (runtimeAuthorityError ("account_key is inconsistent with the given " ++
      "environment/account_type/account_id identity tuple"))
  else .ok ⟨environment, digest⟩

/-- `json.loads(path.read_text())` and its `except`. -/
def readDocument (path : String) : AuthorityM JsonDocument := do
  match ← (ask (.readText path)).attempt with
  | .ok (some document) => pure document
  | .ok none =>
      Method.raise (runtimeAuthorityError ("account Runtime Authority is corrupt or unreadable: " ++ path))
  | .error exc =>
      if exc.isA .osError || exc.isA .jsonDecodeError then
        Method.raise (runtimeAuthorityError ("account Runtime Authority is corrupt or unreadable: " ++ path))
      else Method.raise exc

def checkKey (accountKey : String) (authority : AccountAuthority) :
    Except Exc (Option AccountAuthority) :=
  if authority.accountKey ≠ accountKey then
    .error (runtimeAuthorityError ("account Runtime Authority identity does not match the requested " ++
      "account_key"))
  else .ok (some authority)

def readAuthority (accountKey : String) : AuthorityM (Option AccountAuthority) := do
  let present ← ask (.pathExists (host.authorityPath accountKey))
  if present then do
    let document ← readDocument (host.authorityPath accountKey)
    let authority ← Method.ofExcept (AccountAuthority.fromPayload host document)
    Method.ofExcept (checkKey accountKey authority)
  else pure none

def verifyPath (authority : AccountAuthority) : Option String → Except Exc Unit
  | none => .ok ()
  | some path =>
      if host.resolvePath path ≠ host.resolvePath authority.coordinationDbPath then
        .error (runtimeAuthorityError ("intended coordination DB path does not match the " ++
          "Authority-certified canonical path"))
      else .ok ()

def verifyAuthority (authority : AccountAuthority) (args : ResolveArgs) (checked : CheckedArgs) :
    Except Exc Unit :=
  if authority.accountKey ≠ args.accountKey then
    .error (runtimeAuthorityError "authority account_key mismatch with the runtime account")
  else if authority.environment ≠ checked.environment || authority.accountType ≠ args.accountType ||
      authority.accountIdSha256 ≠ checked.digest then
    .error (runtimeAuthorityError ("authority environment/account identity does not match the runtime " ++
      "account binding"))
  else verifyPath host authority args.coordinationDbPath

def dbPath (args : ResolveArgs) : String :=
  match args.coordinationDbPath with
  | some path => host.resolvePath path
  | none => host.defaultCoordinationDbPath args.accountKey

def construct (path : String) (expected : CoordinationDbIdentity) : AuthorityM Unit := do
  let present ← ask (.pathExists (host.resolvePath path))
  if present then do
    ask (.connect (host.resolvePath path))
    ask (.initializeTransaction (host.resolvePath path) expected)
  else
    Method.raise ⟨.coordinationIdentityError, "certified coordination DB file is missing; refusing to " ++
      "recreate or adopt a replacement at the same path"⟩

/-- `SQLiteExecutionCoordinator.create`. -/
def create (path : String) (identity : CoordinationDbIdentity) : AuthorityM Unit := do
  let present ← ask (.pathExists (host.resolvePath path))
  if present then
    Method.raise ⟨.coordinationIdentityError,
      "refusing to create a coordination DB over an existing file"⟩
  else do
    ask (.connect (host.resolvePath path))
    ask (.createTransaction (host.resolvePath path) identity)
    construct host path identity

def writeAuthorityAtomic (authority : AccountAuthority) : AuthorityM Unit := do
  ask (.openTemporary (host.temporaryPath process authority.accountKey))
  ask (.writeTemporary (host.temporaryPath process authority.accountKey) authority.toPayload)
  ask (.replace (host.temporaryPath process authority.accountKey)
    (host.authorityPath authority.accountKey))

def runBootstrap (args : ResolveArgs) (checked : CheckedArgs) : AuthorityM AccountAuthority := do
  if host.isAbsolute (dbPath host args) then do
    let authorityId ← ask .uuid4
    let dbUuid ← ask .uuid4
    let identity ← Method.ofExcept
      (CoordinationDbIdentity.make identitySchemaVersion args.accountKey dbUuid authorityId)
    create host (dbPath host args) identity
    let authority ← Method.ofExcept (AccountAuthority.validate host ⟨authoritySchemaVersion, authorityId,
      args.accountKey, checked.environment, args.accountType, checked.digest, dbPath host args, dbUuid⟩)
    writeAuthorityAtomic host process authority
    pure authority
  else Method.raise (runtimeAuthorityError "coordination_db_path must be absolute")

def resolveLocked (args : ResolveArgs) (checked : CheckedArgs) : AuthorityM AccountAuthority := do
  match ← readAuthority host args.accountKey with
  | some authority => do
      Method.ofExcept (verifyAuthority host authority args checked)
      pure authority
  | none =>
      if args.bootstrap then runBootstrap host process args checked
      else Method.raise (runtimeAuthorityError ("account Runtime Authority is missing; explicit " ++
        "bootstrap required — refusing to silently create a second coordination domain"))

def resolve (args : ResolveArgs) : AuthorityM AccountAuthority := do
  let checked ← Method.ofExcept (checkArgs host args)
  ask (.lockAcquire (host.lockPath args.accountKey))
  let outcome ← (resolveLocked host process args checked).attempt
  ask .lockRelease
  Method.ofExcept outcome

end AccountRuntimeAuthority

/-- A coordinator that has been opened: its path, the identity it expected and the identity rows
it found in the file. -/
structure CertifiedOpening where
  path : String
  expected : CoordinationDbIdentity
  rows : List IdentityRow
  deriving DecidableEq

/-- The files, the process that holds the OS lock, and a record of the coordinators opened. -/
structure AuthorityWorld (ι : Type) where
  files : String → Option StoredFile
  owner : Option ι
  opened : List CertifiedOpening

namespace AuthorityWorld

variable {ι : Type} (world : AuthorityWorld ι)

def put (path : String) (file : StoredFile) : AuthorityWorld ι :=
  { world with files := Function.update world.files path (some file) }

theorem put_self (path : String) (file : StoredFile) : (world.put path file).files path = some file :=
  Function.update_self _ _ _

theorem put_other {path other : String} (file : StoredFile) (different : other ≠ path) :
    (world.put path file).files other = world.files other := Function.update_of_ne different _ _

/-- `sqlite3.connect` creates the file when there is none. -/
def touch (path : String) : AuthorityWorld ι :=
  if (world.files path).isNone then world.put path (.database {}) else world

def move (source target : String) : AuthorityWorld ι :=
  { world with files :=
      Function.update (Function.update world.files target (world.files source)) source none }

def release [DecidableEq ι] (process : ι) : AuthorityWorld ι :=
  if world.owner = some process then { world with owner := none } else world

/-- How a call is answered when nothing goes wrong with the files themselves. -/
def Serves [DecidableEq ι] (host : AuthorityHost ι) (process : ι) :
    (command : AuthorityCommand) → Except Exc (AuthorityResult command) → AuthorityWorld ι → Prop
  | .lockAcquire path, answer, after =>
      if world.owner = none then answer = .ok () ∧ after = { world.put path .text with owner := some process }
      else answer = .error ⟨.concurrentExecutionError, "another executor owns the lock"⟩ ∧ after = world
  | .lockRelease, answer, after => answer = .ok () ∧ after = world.release process
  | .pathExists path, answer, after => answer = .ok (world.files path).isSome ∧ after = world
  | .readText path, answer, after => after = world ∧
      match world.files path with
      | some (.json document) => answer = .ok (some document)
      | some .text => answer = .ok none
      | some (.database _) => answer = .error ⟨.valueError, "'utf-8' codec can't decode"⟩
      | none => answer = .error ⟨.osError, "No such file or directory"⟩
  | .uuid4, answer, after => (∃ text, text ≠ "" ∧ host.isUuid text = true ∧ answer = .ok text) ∧ after = world
  | .connect path, answer, after => answer = .ok () ∧ after = world.touch path
  | .createTransaction path identity, answer, after =>
      match world.files path with
      | some (.database db) =>
          match db.create identity with
          | .ok filled => answer = .ok () ∧ after = world.put path (.database filled)
          | .error exc => answer = .error exc ∧ after = world
      | _ => answer = .error ⟨.coordinationError, "unable to create coordination database"⟩ ∧ after = world
  | .initializeTransaction path expected, answer, after =>
      match world.files path with
      | some (.database db) =>
          match db.initializeDb (some expected) with
          | .ok opened => answer = .ok () ∧
              after = { world.put path (.database opened) with
                opened := ⟨path, expected, db.coordinationIdentity⟩ :: world.opened }
          | .error exc => answer = .error exc ∧ after = world
      | _ => answer = .error ⟨.coordinationError, "unable to initialize coordination database"⟩ ∧
          after = world
  | .operate path operation, answer, after =>
      match world.files path with
      | some (.database db) => answer = (operation.run db.store).1 ∧
          after = world.put path (.database { db with store := (operation.run db.store).2 })
      | _ => answer = .error ⟨.coordinationError, "coordination transaction failed"⟩ ∧ after = world
  | .openTemporary path, answer, after => answer = .ok () ∧ after = world.put path .text
  | .writeTemporary path document, answer, after => answer = .ok () ∧ after = world.put path (.json document)
  | .replace source target, answer, after =>
      if (world.files source).isSome then answer = .ok () ∧ after = world.move source target
      else answer = .error ⟨.osError, "No such file or directory"⟩ ∧ after = world

/-- What a call that raises may have done before: nothing, or all of it, or a part. -/
def Falters [DecidableEq ι] (host : AuthorityHost ι) (process : ι) (command : AuthorityCommand)
    (after : AuthorityWorld ι) : Prop :=
  match command with
  -- the lock file is created before it is locked, and its handle is closed on the way out
  | .lockAcquire path => after = world ∨ world.owner = none ∧ after = world.put path .text
  | .lockRelease => after = world.release process
  | .pathExists _ | .readText _ | .uuid4 => after = world
  | .connect path => after = world ∨ after = world.touch path
  -- an empty file that `sqlite3` has opened is a database
  | .createTransaction path _ | .initializeTransaction path _ | .operate path _ =>
      after = world ∨ (∃ answer, world.Serves host process command answer after) ∨
        (match world.files path with
          | some (.json _) | some (.database _) => False
          | _ => after = world.put path (.database {}))
  | .openTemporary path => after = world ∨ after = world.put path .text
  | .writeTemporary path document =>
      after = world ∨ after = world.put path .text ∨ after = world.put path (.json document)
  | .replace source target => after = world ∨
      ∃ answer, world.Serves host process (.replace source target) answer after

def Answers [DecidableEq ι] (host : AuthorityHost ι) (process : ι) (world : AuthorityWorld ι)
    (command : AuthorityCommand) (answer : Except Exc (AuthorityResult command))
    (after : AuthorityWorld ι) : Prop :=
  world.Serves host process command answer after ∨
    ∃ exc, answer = .error exc ∧ world.Falters host process command after

/-- Neither a document nor a database: what `sqlite3` may turn into an empty database. -/
def Blank (path : String) : Prop :=
  (∀ document, world.files path ≠ some (.json document)) ∧
    ∀ db, world.files path ≠ some (.database db)

def Changes [DecidableEq ι] (process : ι) (after : AuthorityWorld ι) : AuthorityCommand → Prop
  | .lockAcquire path => world.owner = none ∧
      (after = world.put path .text ∨ after = { world.put path .text with owner := some process })
  | .lockRelease => after = world.release process
  | .pathExists _ | .readText _ | .uuid4 => False
  | .connect path => after = world.touch path
  | .createTransaction path identity =>
      (∃ db filled, world.files path = some (.database db) ∧ db.create identity = .ok filled ∧
        after = world.put path (.database filled)) ∨
      world.Blank path ∧ after = world.put path (.database {})
  | .initializeTransaction path expected =>
      (∃ db opened, world.files path = some (.database db) ∧ db.initializeDb (some expected) = .ok opened ∧
        after = { world.put path (.database opened) with
          opened := ⟨path, expected, db.coordinationIdentity⟩ :: world.opened }) ∨
      world.Blank path ∧ after = world.put path (.database {})
  | .operate path operation =>
      (∃ db, world.files path = some (.database db) ∧
        after = world.put path (.database { db with store := (operation.run db.store).2 })) ∨
      world.Blank path ∧ after = world.put path (.database {})
  | .openTemporary path => after = world.put path .text
  | .writeTemporary path document => after = world.put path .text ∨ after = world.put path (.json document)
  | .replace source target => (world.files source).isSome ∧ after = world.move source target

variable {world} {after : AuthorityWorld ι} [DecidableEq ι] {host : AuthorityHost ι} {process : ι}

theorem Serves.changes {command : AuthorityCommand} {answer : Except Exc (AuthorityResult command)}
    (law : world.Serves host process command answer after) :
    after = world ∨ world.Changes process after command := by
  cases command with
  | lockAcquire path =>
      simp only [Serves] at law
      split_ifs at law with free
      · exact .inr ⟨free, .inr law.2⟩
      · exact .inl law.2
  | lockRelease => exact .inr law.2
  | pathExists path => exact .inl law.2
  | readText path => exact .inl law.1
  | uuid4 => exact .inl law.2
  | connect path => exact .inr law.2
  | createTransaction path identity =>
      simp only [Serves] at law
      split at law
      · rename_i db found
        split at law
        · rename_i filled created
          exact .inr (.inl ⟨db, filled, found, created, law.2⟩)
        · exact .inl law.2
      · exact .inl law.2
  | initializeTransaction path expected =>
      simp only [Serves] at law
      split at law
      · rename_i db found
        split at law
        · rename_i opened initialized
          exact .inr (.inl ⟨db, opened, found, initialized, law.2⟩)
        · exact .inl law.2
      · exact .inl law.2
  | operate path operation =>
      simp only [Serves] at law
      split at law
      · rename_i db found
        exact .inr (.inl ⟨db, found, law.2⟩)
      · exact .inl law.2
  | openTemporary path => exact .inr law.2
  | writeTemporary path document => exact .inr (.inr law.2)
  | replace source target =>
      simp only [Serves] at law
      split_ifs at law with present
      · exact .inr ⟨present, law.2⟩
      · exact .inl law.2

omit [DecidableEq ι] in
theorem falters_blank {path : String}
    (blank : match world.files path with
      | some (.json _) | some (.database _) => False
      | _ => after = world.put path (.database {})) :
    world.Blank path ∧ after = world.put path (.database {}) := by
  split at blank
  · exact blank.elim
  · exact blank.elim
  · rename_i document database
    exact ⟨⟨fun found => document found, fun found => database found⟩, blank⟩

theorem Falters.changes {command : AuthorityCommand} (law : world.Falters host process command after) :
    after = world ∨ world.Changes process after command := by
  cases command with
  | lockAcquire path => exact law.imp_right fun part => ⟨part.1, .inl part.2⟩
  | lockRelease => exact .inr law
  | pathExists path => exact .inl law
  | readText path => exact .inl law
  | uuid4 => exact .inl law
  | connect path => exact law
  | createTransaction path identity =>
      obtain same | ⟨answer, served⟩ | blank := law
      · exact .inl same
      · exact served.changes
      · exact .inr (.inr (falters_blank blank))
  | initializeTransaction path expected =>
      obtain same | ⟨answer, served⟩ | blank := law
      · exact .inl same
      · exact served.changes
      · exact .inr (.inr (falters_blank blank))
  | operate path operation =>
      obtain same | ⟨answer, served⟩ | blank := law
      · exact .inl same
      · exact served.changes
      · exact .inr (.inr (falters_blank blank))
  | openTemporary path => exact law
  | writeTemporary path document => exact law
  | replace source target =>
      obtain same | ⟨answer, served⟩ := law
      · exact .inl same
      · exact served.changes

theorem Answers.changes {command : AuthorityCommand} {answer : Except Exc (AuthorityResult command)}
    (law : Answers host process world command answer after) :
    after = world ∨ world.Changes process after command := by
  obtain served | ⟨exc, _, falters⟩ := law
  · exact served.changes
  · exact falters.changes

theorem Answers.served {command : AuthorityCommand} {value : AuthorityResult command}
    (law : Answers host process world command (.ok value) after) :
    world.Serves host process command (.ok value) after := by
  obtain served | ⟨exc, raised, _⟩ := law
  · exact served
  · cases raised

end AuthorityWorld

end QmtExecution
