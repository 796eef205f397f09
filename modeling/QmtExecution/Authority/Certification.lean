import QmtExecution.Authority.Database
import QmtExecution.Protocol.Environment

/-! The constructor certifies the database at its path once. Every later operation connects to
the path again and asks for no identity, so what it works on is certified exactly as long as
nobody puts another database there. -/

namespace QmtExecution

def SQLiteExecutionCoordinator.construct (expected : Option CoordinationDbIdentity)
    (file : Option CoordinationDb) : Except Exc CoordinationDb :=
  if expected.isSome && file.isNone then
    .error ⟨.coordinationIdentityError, "certified coordination DB file is missing; refusing to " ++
      "recreate or adopt a replacement at the same path"⟩
  else (file.getD {}).initializeDb expected

/-- What goes wrong in an operation whose arguments have passed. `connect` is raised by `_connect`, which
stands before the `try`; `acquire` and `statement` are an `sqlite3.Error`, which becomes a
`CoordinationError`; `escape` is what no clause makes one of, as of a string that cannot be encoded. -/
inductive OperationFault
  | connect (exc : Exc)
  | acquire
  | statement
  | escape (exc : Exc)
  deriving DecidableEq

def CoordinatorOperation.failed : CoordinatorOperation → String
  | .transaction (.prepare ..) => "coordination prepare transaction failed"
  | .transaction (.restore _ _ _ _ .resolved) => "coordination finality update failed"
  | .transaction (.restore ..) => "coordination restore transaction failed"
  | .transaction (.updateFinality ..) => "coordination finality update failed"
  | .hasClaim .. => "coordination claim query failed"

def OperationFault.raised (operation : CoordinatorOperation) : OperationFault → Exc
  | .connect exc => exc
  | .acquire => ⟨.coordinationError, "unable to acquire coordination write transaction"⟩
  | .statement => ⟨.coordinationError, operation.failed⟩
  | .escape exc => exc

/-- What happens to the file of a coordinator: one of its operations, with what goes wrong in it, or a
replacement by another database. -/
inductive FileEvent
  | call (operation : CoordinatorOperation) (fault : Option OperationFault)
  | replace (db : CoordinationDb)
  deriving DecidableEq

structure CallRecord where
  before : CoordinationDb
  result : Except Exc (Option Bool)
  after : CoordinationDb
  deriving DecidableEq

def CoordinatorOperation.perform (operation : CoordinatorOperation) (fault : Option OperationFault)
    (db : CoordinationDb) : CallRecord :=
  match operation.checkArguments, fault with
  | .error exc, _ => ⟨db, .error exc, db⟩
  | .ok (), some fault => ⟨db, .error (fault.raised operation), db⟩
  | .ok (), none =>
      let done := operation.run db.store
      ⟨db, done.1, { db with store := done.2 }⟩

def fileRun (db : CoordinationDb) : List FileEvent → List CallRecord
  | [] => []
  | .call operation fault :: events =>
      let record := operation.perform fault db
      record :: fileRun record.after events
  | .replace other :: events => fileRun other events

def replacements : List FileEvent → List CoordinationDb :=
  List.filterMap fun
    | .call _ _ => none
    | .replace db => some db

/-- The operation returned from a database with the expected identity row and no other, or it
raised a `CoordinationError` and has written nothing. -/
def CallRecord.Certified (expected : CoordinationDbIdentity) (record : CallRecord) : Prop :=
  match record.result with
  | .ok _ => record.before.coordinationIdentity = [expected.row]
  | .error exc => exc.isA .coordinationError ∧ record.after = record.before

instance (expected : CoordinationDbIdentity) (record : CallRecord) :
    Decidable (record.Certified expected) := by
  unfold CallRecord.Certified
  split <;> infer_instance

/-- The operation ends in an exception that is no `CoordinationError`: an amount that `float` does not
take, a connection that is not made, or what no clause turns into one. -/
def CoordinatorOperation.escapes (operation : CoordinatorOperation) (fault : Option OperationFault) :
    Bool :=
  match operation.checkArguments with
  | .error exc => !exc.isA .coordinationError
  | .ok () => fault.any fun fault => !(fault.raised operation).isA .coordinationError

def FileEvent.escapes : FileEvent → Bool
  | .call operation fault => operation.escapes fault
  | .replace _ => false

variable {expected : CoordinationDbIdentity} {db : CoordinationDb}

theorem construct_certifies {file : Option CoordinationDb}
    (constructed : SQLiteExecutionCoordinator.construct (some expected) file = .ok db) :
    db.coordinationIdentity = [expected.row] := by
  unfold SQLiteExecutionCoordinator.construct at constructed
  split_ifs at constructed
  obtain ⟨rfl, single⟩ := CoordinationDb.initializeDb_ok constructed
  rw [CoordinationDb.ensureMeta_identity, single]

theorem perform_certified {operation : CoordinatorOperation} {fault : Option OperationFault}
    (kept : operation.escapes fault = false)
    (certified : db.coordinationIdentity = [expected.row]) :
    (operation.perform fault db).Certified expected ∧
      (operation.perform fault db).after.coordinationIdentity = [expected.row] := by
  unfold CoordinatorOperation.perform CallRecord.Certified
  unfold CoordinatorOperation.escapes at kept
  cases passed : operation.checkArguments with
  | error exc =>
      rw [passed] at kept
      exact ⟨⟨by simpa using kept, rfl⟩, certified⟩
  | ok value =>
      rw [passed] at kept
      cases fault with
      | some fault => exact ⟨⟨by simpa using kept, rfl⟩, certified⟩
      | none =>
          dsimp only
          refine ⟨?_, certified⟩
          split
          · exact certified
          · rename_i exc raised
            obtain ⟨caught, same⟩ := CoordinatorOperation.run_error passed raised
            exact ⟨caught, by rw [same]⟩

theorem perform_escapes {operation : CoordinatorOperation} {fault : Option OperationFault}
    (escapes : operation.escapes fault = true) (db : CoordinationDb) :
    ∃ exc, (operation.perform fault db).result = .error exc ∧ exc.isA .coordinationError = false := by
  unfold CoordinatorOperation.perform
  unfold CoordinatorOperation.escapes at escapes
  cases passed : operation.checkArguments with
  | error exc =>
      rw [passed] at escapes
      exact ⟨exc, rfl, by simpa using escapes⟩
  | ok value =>
      rw [passed] at escapes
      cases fault with
      | some fault => exact ⟨_, rfl, by simpa using escapes⟩
      | none => cases escapes

theorem fileRun_certified (events : List FileEvent)
    (certified : db.coordinationIdentity = [expected.row])
    (kept : ∀ other ∈ replacements events, other.coordinationIdentity = [expected.row])
    (caught : ∀ event ∈ events, event.escapes = false) :
    ∀ record ∈ fileRun db events, record.Certified expected := by
  induction events generalizing db with
  | nil => simp [fileRun]
  | cons event events ih =>
      have later : ∀ next ∈ events, next.escapes = false := fun next listed => caught next (.tail _ listed)
      cases event with
      | call operation fault =>
          obtain ⟨here, after⟩ := perform_certified (caught _ (.head _)) certified
          intro record listed
          rcases List.mem_cons.1 listed with rfl | listed
          · exact here
          · exact ih after kept later record listed
      | replace other =>
          exact ih (kept other (.head _)) (fun next listed => kept next (.tail _ listed)) later

theorem mem_fileRun (db : CoordinationDb) {events : List FileEvent} {operation : CoordinatorOperation}
    {fault : Option OperationFault} (called : .call operation fault ∈ events) :
    ∃ found, operation.perform fault found ∈ fileRun db events := by
  induction events generalizing db with
  | nil => cases called
  | cons event events ih =>
      rcases List.mem_cons.1 called with rfl | later
      · exact ⟨db, .head _⟩
      · cases event with
        | call other fault =>
            obtain ⟨found, listed⟩ := ih (other.perform fault db).after later
            exact ⟨found, .tail _ listed⟩
        | replace other => exact ih other later

theorem fileRun_replace (others : List CoordinationDb) (db : CoordinationDb)
    (events : List FileEvent) :
    fileRun db (others.map FileEvent.replace ++ events) =
      fileRun (others.getLastD db) events := by
  induction others generalizing db with
  | nil => rfl
  | cons other others ih =>
      rw [List.map_cons, List.cons_append, List.getLastD_cons]
      exact ih other

theorem replacements_append (before after : List FileEvent) :
    replacements (before ++ after) = replacements before ++ replacements after :=
  List.filterMap_append

theorem replacements_replace (others : List CoordinationDb) :
    replacements (others.map FileEvent.replace) = others := by
  simp [replacements, List.filterMap_map]

theorem escapes_replace (others : List CoordinationDb) :
    (others.map FileEvent.replace).filter FileEvent.escapes = [] := by
  induction others with
  | nil => rfl
  | cons other others ih => exact ih

theorem replacements_escapes (events : List FileEvent) :
    replacements (events.filter FileEvent.escapes) = [] := by
  apply List.filterMap_eq_nil_iff.2
  intro event listed
  cases event with
  | call operation fault => rfl
  | replace other => cases (List.mem_filter.1 listed).2

theorem unclaimed_account (store : CoordinationStore) :
    ∃ accountKey : String, accountKey ≠ "" ∧ ∀ claim ∈ store.symbolClaim,
      claim.accountKey ≠ accountKey := by
  let longest := (store.symbolClaim.map fun claim => claim.accountKey.length).foldr max 0
  have bound : ∀ claim ∈ store.symbolClaim, claim.accountKey.length ≤ longest := by
    intro claim listed
    exact List.le_max_of_le (List.mem_map.2 ⟨claim, listed, rfl⟩) le_rfl
  refine ⟨String.ofList (List.replicate (longest + 1) 'a'), fun empty => ?_, fun claim listed same => ?_⟩
  · have := congrArg String.length empty
    simp at this
  · have size := bound claim listed
    rw [same] at size
    simp at size

theorem hasClaim_returns (db : CoordinationDb) :
    ∃ operation : CoordinatorOperation, operation.perform none db = ⟨db, .ok (some false), db⟩ := by
  obtain ⟨accountKey, nonempty, fresh⟩ := unclaimed_account db.store
  refine ⟨.hasClaim accountKey "e1" sampleRequest, ?_⟩
  have valid : validateIdentity accountKey "e1" = .ok () := by
    unfold validateIdentity
    rw [if_neg nonempty, if_neg (by decide)]
  have free : db.store.claimOf accountKey sampleRequest.symbol = none :=
    CoordinationStore.claimOf_none.2 fun claim listed same =>
      fresh claim listed (congrArg Prod.fst same)
  have checked : db.store.hasClaim accountKey "e1" sampleRequest = .ok false := by
    unfold CoordinationStore.hasClaim
    rw [valid, free]
    rfl
  simp [CoordinatorOperation.perform, CoordinatorOperation.checkArguments, CoordinatorOperation.run, valid,
    checked, Except.map]

/-- However the operations of a certified coordinator come between the replacements of its file, each is
certified: if and only if every replacement carries the expected identity and no operation escapes. -/
theorem certified_iff {file : Option CoordinationDb}
    (constructed : SQLiteExecutionCoordinator.construct (some expected) file = .ok db)
    (given : List FileEvent) :
    (∀ events, replacements events = replacements given →
      events.filter FileEvent.escapes = given.filter FileEvent.escapes →
      ∀ record ∈ fileRun db events, record.Certified expected) ↔
      (∀ other ∈ replacements given, other.coordinationIdentity = [expected.row]) ∧
        ∀ event ∈ given, event.escapes = false := by
  constructor
  · intro certified
    constructor
    · intro other listed
      obtain ⟨before, after, replaced⟩ := List.append_of_mem listed
      obtain ⟨operation, returned⟩ := hasClaim_returns other
      have caught : operation.escapes none = false := by
        by_contra escapes
        obtain ⟨exc, raised, -⟩ := perform_escapes (by simpa using escapes) other
        rw [returned] at raised
        cases raised
      -- The query comes right after the database in question has been put at the path.
      have record := certified ((before ++ [other]).map .replace ++
          (.call operation none :: (after.map .replace ++ given.filter FileEvent.escapes)))
        (by
          rw [replacements_append, replacements_replace, List.append_assoc, replaced]
          refine congrArg (before ++ other :: ·) ?_
          refine (replacements_append _ _).trans ?_
          rw [replacements_replace, replacements_escapes, List.append_nil])
        (by
          rw [List.filter_append, escapes_replace,
            List.filter_cons_of_neg (by simp [FileEvent.escapes, caught]), List.filter_append,
            escapes_replace]
          simp)
        (operation.perform none other) (by
          rw [fileRun_replace, List.getLastD_concat]
          exact .head _)
      rw [returned] at record
      exact record
    · intro event listed
      by_contra escapes
      cases event with
      | replace other => exact escapes rfl
      | call operation fault =>
          obtain ⟨found, performed⟩ := mem_fileRun db listed
          obtain ⟨exc, raised, other⟩ := perform_escapes (by simpa [FileEvent.escapes] using escapes) found
          have record := certified given rfl rfl _ performed
          unfold CallRecord.Certified at record
          rw [raised] at record
          rw [record.1] at other
          cases other
  · rintro ⟨kept, caught⟩ events replaced escaping
    apply fileRun_certified events (construct_certifies constructed) (replaced ▸ kept)
    intro event listed
    by_contra escapes
    have also : event ∈ events.filter FileEvent.escapes :=
      List.mem_filter.2 ⟨listed, by simpa using escapes⟩
    rw [escaping] at also
    exact escapes (caught event (List.mem_filter.1 also).1)

def certifiedIdentity : CoordinationDbIdentity where
  schemaVersion := identitySchemaVersion
  accountKey := "a1"
  dbUuid := "00000000-0000-4000-8000-000000000001"
  authorityId := "00000000-0000-4000-8000-00000000000a"
  schemaVersion_pos := identitySchemaVersion_pos
  accountKey_ne := sampleAccount_ne
  dbUuid_ne := by decide
  authorityId_ne := by decide

def createdDb (identity : CoordinationDbIdentity) : CoordinationDb where
  coordinationMeta := [coordinationSchemaVersion]
  coordinationIdentity := [identity.row]

def recreatedDb : CoordinationDb :=
  createdDb { certifiedIdentity with
    dbUuid := "00000000-0000-4000-8000-000000000002", dbUuid_ne := by decide }

def backupDb : CoordinationDb := { createdDb certifiedIdentity with
  store := { symbolClaim := [⟨"a1", "510300.SH", "e2", "c9", .open⟩] } }

/-- A claim is prepared, the backup is put in place, another execution is refused its claim there and
meets a locked database, and the holder is released. -/
def backupRun : List FileEvent :=
  [.call (.transaction (.prepare "a1" "e1" sampleRequest (.finite 1000) (.finite 400))) none,
    .replace backupDb,
    .call (.hasClaim "a1" "e1" sampleRequest) none,
    .call (.transaction (.prepare "a1" "e1" sampleRequest (.finite 1000) (.finite 400))) (some .acquire),
    .call (.transaction (.updateFinality "a1" "e2" { sampleRequest with
      clientOrderId := "c9", clientOrderId_ne := by decide } .resolved)) none]

theorem certified_iff_backup :
    (fileRun (createdDb certifiedIdentity) backupRun).map (fun record => record.result.toOption) =
        [some none, none, none, some none] ∧
      ∀ record ∈ fileRun (createdDb certifiedIdentity) backupRun,
        record.Certified certifiedIdentity := by
  have constructed : SQLiteExecutionCoordinator.construct (some certifiedIdentity)
      (some (createdDb certifiedIdentity)) = .ok (createdDb certifiedIdentity) := by decide +kernel
  refine ⟨by decide +kernel, ?_⟩
  exact (certified_iff constructed backupRun).2 ⟨by decide +kernel, by decide +kernel⟩ backupRun rfl rfl

/-- A recreated database at the path of a certified coordinator takes a claim and a reservation. -/
theorem recreated_db_written :
    ∃ db, SQLiteExecutionCoordinator.construct (some certifiedIdentity)
        (some (createdDb certifiedIdentity)) = .ok db ∧
      ∃ record ∈ fileRun db [.replace recreatedDb,
          .call (.transaction (.prepare "a1" "e1" sampleRequest (.finite 100) (.finite 10))) none],
        ¬ record.Certified certifiedIdentity ∧ record.result = .ok none ∧
          record.after ≠ record.before := by
  refine ⟨createdDb certifiedIdentity, by decide +kernel, _, .head _, ?_⟩
  decide +kernel

end QmtExecution
