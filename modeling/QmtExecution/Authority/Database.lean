import QmtExecution.Resources.Rows

/-! A coordination database as a whole: its schema version, its identity rows and the tables of
the coordinator. How the constructor of `SQLiteExecutionCoordinator` certifies it, how `create`
fills it, and what its operations do with whatever is at the path. -/

namespace QmtExecution

def coordinationSchemaVersion : ℤ := 1

def identitySchemaVersion : ℤ := 1

theorem identitySchemaVersion_pos : 0 < identitySchemaVersion := by decide

@[ext]
structure CoordinationDbIdentity where
  schemaVersion : ℤ
  accountKey : String
  dbUuid : String
  authorityId : String
  schemaVersion_pos : 0 < schemaVersion
  accountKey_ne : accountKey ≠ ""
  dbUuid_ne : dbUuid ≠ ""
  authorityId_ne : authorityId ≠ ""

instance : DecidableEq CoordinationDbIdentity :=
  fun _ _ => decidable_of_iff' _ CoordinationDbIdentity.ext_iff

structure IdentityRow where
  accountKey : String
  dbUuid : String
  authorityId : String
  identitySchemaVersion : ℤ
  deriving DecidableEq

def CoordinationDbIdentity.row (identity : CoordinationDbIdentity) : IdentityRow :=
  ⟨identity.accountKey, identity.dbUuid, identity.authorityId, identity.schemaVersion⟩

/-- A database file. A table that does not exist yet is empty: whoever opens the file for the
first time creates all of them. -/
structure CoordinationDb where
  coordinationMeta : List ℤ := []
  coordinationIdentity : List IdentityRow := []
  store : CoordinationStore := {}
  deriving DecidableEq

namespace CoordinationDb

/-- `INSERT INTO coordination_meta` into an empty table. -/
def ensureMeta (db : CoordinationDb) : CoordinationDb :=
  match db.coordinationMeta with
  | [] => { db with coordinationMeta := [coordinationSchemaVersion] }
  | _ :: _ => db

def certify (expected : CoordinationDbIdentity) (db : CoordinationDb) : Except Exc Unit :=
  if db.coordinationIdentity.length ≠ 1 then
    .error ⟨.coordinationIdentityError, "coordination DB must contain exactly one authority " ++
      "identity row for the dedicated instance"⟩
  else match db.coordinationIdentity with
  | [] => .error ⟨.coordinationIdentityError, "coordination DB has no authority identity metadata " ++
      "(legacy 0.4.0 DB is not silently adopted)"⟩
  | identity :: _ =>
      if identity.accountKey ≠ expected.accountKey || identity.dbUuid ≠ expected.dbUuid ||
          identity.authorityId ≠ expected.authorityId ||
          identity.identitySchemaVersion ≠ expected.schemaVersion then
        .error ⟨.coordinationIdentityError, "coordination DB identity does not match the certified " ++
          "account Runtime Authority (account_key / db_uuid / authority_id mismatch)"⟩
      else .ok ()

def initializeDb (expected : Option CoordinationDbIdentity) (db : CoordinationDb) :
    Except Exc CoordinationDb :=
  if db.coordinationMeta.head?.any (· ≠ coordinationSchemaVersion) then
    .error ⟨.coordinationError, "coordination schema version mismatch"⟩
  else match expected with
  | none => .ok db.ensureMeta
  | some expected => do
      db.ensureMeta.certify expected
      .ok db.ensureMeta

/-- The transaction of `create`. The account key is the primary key of `coordination_identity`. -/
def create (identity : CoordinationDbIdentity) (db : CoordinationDb) : Except Exc CoordinationDb :=
  if db.coordinationIdentity.any fun row => row.accountKey = identity.accountKey then
    .error ⟨.coordinationError, "unable to create coordination database"⟩
  else .ok { db.ensureMeta with
    coordinationIdentity := db.coordinationIdentity ++ [identity.row] }

variable {db after : CoordinationDb} {expected : CoordinationDbIdentity}

theorem ensureMeta_identity (db : CoordinationDb) :
    db.ensureMeta.coordinationIdentity = db.coordinationIdentity := by
  unfold ensureMeta
  split <;> rfl

theorem certify_ok : db.certify expected = .ok () ↔ db.coordinationIdentity = [expected.row] := by
  constructor
  · intro certified
    unfold certify at certified
    split_ifs at certified with count
    split at certified
    · cases certified
    · rename_i identity rest listed
      split_ifs at certified with mismatch
      have single : rest = [] := by simpa [listed] using count
      simp only [Bool.or_eq_true, decide_eq_true_eq, not_or, not_not] at mismatch
      obtain ⟨⟨⟨account, uuid⟩, authority⟩, version⟩ := mismatch
      rw [listed, single]
      simp [CoordinationDbIdentity.row, ← account, ← uuid, ← authority, ← version]
  · intro single
    simp [certify, single, CoordinationDbIdentity.row]

theorem initializeDb_ok (done : db.initializeDb (some expected) = .ok after) :
    after = db.ensureMeta ∧ db.coordinationIdentity = [expected.row] := by
  unfold initializeDb at done
  split_ifs at done
  obtain ⟨_, certified, done⟩ := except_bind done
  cases done
  exact ⟨rfl, (ensureMeta_identity db).symm.trans (certify_ok.1 certified)⟩

end CoordinationDb

inductive CoordinatorOperation
  | transaction (call : CoordinatorCall)
  | hasClaim (accountKey executionId : String) (request : ExecutionRequest)
  deriving DecidableEq

def CoordinatorOperation.checkArguments : CoordinatorOperation → Except Exc Unit
  | .transaction (.prepare accountKey executionId request brokerAvailableCash requiredCash) => do
      validateIdentity accountKey executionId
      match request.side with
      | .buy => do
          let _ ← finiteNonNegative brokerAvailableCash "broker_available_cash"
          let _ ← finiteNonNegative requiredCash "required_cash"
          pure ()
      | .sell => pure ()
  | .transaction (.restore accountKey executionId request requiredCash finality) => do
      validateIdentity accountKey executionId
      if finality = .resolved then pure ()
      else match request.side with
      | .buy => do
          let _ ← finiteNonNegative requiredCash "required_cash"
          pure ()
      | .sell => pure ()
  | .transaction (.updateFinality accountKey executionId _ _) => validateIdentity accountKey executionId
  | .hasClaim accountKey executionId _ => validateIdentity accountKey executionId

/-- What an operation returns or raises on the tables that it finds, and the tables it leaves. -/
def CoordinatorOperation.run (db : CoordinationStore) :
    CoordinatorOperation → Except Exc (Option Bool) × CoordinationStore
  | .transaction call =>
      match call.execute db with
      | .ok after => (.ok none, after)
      | .error exc => (.error exc, db)
  | .hasClaim accountKey executionId request =>
      ((db.hasClaim accountKey executionId request).map some, db)

def Declines {α : Type} (result : Except Exc α) : Prop :=
  ∀ exc, result = .error exc → exc.isA .coordinationError

section Declines

variable {α β : Type}

theorem Declines.ok (value : α) : Declines (.ok value : Except Exc α) := fun _ raised => by cases raised

theorem Declines.error {cls : ExcClass} {message : String}
    (caught : (⟨cls, message⟩ : Exc).isA .coordinationError) :
    Declines (.error ⟨cls, message⟩ : Except Exc α) := by
  intro exc raised
  cases raised
  exact caught

theorem Declines.bind {first : Except Exc α} {next : α → Except Exc β} (declines : Declines first)
    (rest : ∀ value, Declines (next value)) : Declines (first >>= next) := by
  intro exc raised
  cases first with
  | error refused => exact declines exc (by cases raised; rfl)
  | ok value => exact rest value exc raised

theorem Declines.next {first : Except Exc α} {next : α → Except Exc β} {value : α}
    (passed : first = .ok value) (rest : Declines (next value)) : Declines (first >>= next) := by
  rw [passed]
  exact rest

theorem Declines.ite {condition : Prop} [Decidable condition] {yes no : Except Exc α}
    (positive : Declines yes) (negative : Declines no) : Declines (if condition then yes else no) := by
  split_ifs
  · exact positive
  · exact negative

end Declines

namespace CoordinationStore

variable (db : CoordinationStore) (accountKey executionId : String) (request : ExecutionRequest)

theorem validateIdentity_declines : Declines (validateIdentity accountKey executionId) :=
  .ite (.error rfl) (.ite (.error rfl) (.ok ()))

theorem insertClaim_declines (claim : SymbolClaim) (failure : String) :
    Declines (db.insertClaim claim failure) :=
  .ite (.error rfl) (.ok _)

theorem prepareClaim_declines : Declines (db.prepareClaim accountKey executionId request) := by
  unfold prepareClaim
  split
  · exact .ite (.ok _) (.error rfl)
  · exact insertClaim_declines _ _ _

theorem prepareReservation_declines (available required : ℚ) :
    Declines (db.prepareReservation accountKey executionId request available required) := by
  unfold prepareReservation
  split
  · exact .ite (.error rfl) (.ite (.error rfl) (.ok _))
  · exact .ite (.error rfl) (.ok _)

theorem prepare_declines {brokerAvailableCash requiredCash : CashArgument}
    (passed : (CoordinatorOperation.transaction
      (.prepare accountKey executionId request brokerAvailableCash requiredCash)).checkArguments = .ok ()) :
    Declines (db.prepare accountKey executionId request brokerAvailableCash requiredCash) := by
  obtain ⟨_, -, passed⟩ := except_bind passed
  refine .bind (validateIdentity_declines _ _) fun _ => ?_
  cases side : request.side with
  | buy =>
      rw [side] at passed
      obtain ⟨available, offered, passed⟩ := except_bind passed
      obtain ⟨required, needed, -⟩ := except_bind passed
      refine .next offered (.next needed ?_)
      exact .bind (prepareClaim_declines _ _ _ _) fun _ => prepareReservation_declines _ _ _ _ _ _
  | sell => exact prepareClaim_declines _ _ _ _

theorem updateFinality_declines (finality : ExecutionFinality) :
    Declines (db.updateFinality accountKey executionId request finality) :=
  .bind (validateIdentity_declines _ _) fun _ =>
    .ite (.error rfl) (.ite (.ok _) (.ite (.error rfl) (.ok _)))

theorem restoreClaim_declines (finality : ExecutionFinality) :
    Declines (db.restoreClaim accountKey executionId request finality) := by
  unfold restoreClaim
  split
  · exact .ite (.ok _) (.error rfl)
  · exact insertClaim_declines _ _ _

theorem restore_declines {requiredCash : CashArgument} {finality : ExecutionFinality}
    (passed : (CoordinatorOperation.transaction
      (.restore accountKey executionId request requiredCash finality)).checkArguments = .ok ()) :
    Declines (db.restore accountKey executionId request requiredCash finality) := by
  obtain ⟨_, -, passed⟩ := except_bind passed
  refine .bind (validateIdentity_declines _ _) fun _ => ?_
  by_cases resolved : finality = .resolved
  · rw [if_pos resolved]
    exact updateFinality_declines _ _ _ _ _
  · rw [if_neg resolved]
    rw [if_neg resolved] at passed
    cases side : request.side with
    | buy =>
        rw [side] at passed
        obtain ⟨required, needed, -⟩ := except_bind passed
        exact .next needed (.bind (restoreClaim_declines _ _ _ _ _) fun _ => .ok _)
    | sell => exact restoreClaim_declines _ _ _ _ _

theorem hasClaim_declines : Declines (db.hasClaim accountKey executionId request) := by
  refine .bind (validateIdentity_declines _ _) fun _ => ?_
  split
  · exact .ok _
  · exact .ite (.ok _) (.error rfl)

theorem execute_declines (call : CoordinatorCall)
    (passed : (CoordinatorOperation.transaction call).checkArguments = .ok ()) :
    Declines (call.execute db) := by
  cases call with
  | prepare => exact prepare_declines _ _ _ _ passed
  | restore => exact restore_declines _ _ _ _ passed
  | updateFinality => exact updateFinality_declines _ _ _ _ _

end CoordinationStore

namespace CoordinatorOperation

variable {db : CoordinationStore} {operation : CoordinatorOperation} {exc : Exc}

theorem run_error (passed : operation.checkArguments = .ok ())
    (raised : (operation.run db).1 = .error exc) :
    exc.isA .coordinationError ∧ (operation.run db).2 = db := by
  cases operation with
  | transaction call =>
      simp only [run] at raised ⊢
      split at raised
      · cases raised
      · rename_i refused failed
        cases raised
        exact ⟨CoordinationStore.execute_declines db call passed exc failed, rfl⟩
  | hasClaim accountKey executionId request =>
      refine ⟨?_, rfl⟩
      simp only [run] at raised
      cases checked : db.hasClaim accountKey executionId request with
      | ok claimed => simp [checked, Except.map] at raised
      | error refused =>
          simp only [checked, Except.map, Except.error.injEq] at raised
          subst raised
          exact CoordinationStore.hasClaim_declines _ _ _ _ refused checked

end CoordinatorOperation

end QmtExecution
