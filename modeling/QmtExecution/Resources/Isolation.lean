import QmtExecution.Resources.Coupling

/-! A transaction touches no row of another identity, and it neither reads nor writes a row of
another account. -/

namespace QmtExecution

open Resources

namespace CoordinationStore

structure Constrained (db : CoordinationStore) : Prop where
  symbols : Keyed SymbolClaim.slot db.symbolClaim
  identities : Keyed SymbolClaim.holder db.symbolClaim
  reservations : Keyed CashReservation.holder db.cashReservation
  nonneg : ∀ row ∈ db.cashReservation, 0 ≤ row.requiredCash

def account (accountKey : String) (db : CoordinationStore) : CoordinationStore where
  symbolClaim := db.symbolClaim.filter fun claim => claim.accountKey = accountKey
  cashReservation := db.cashReservation.filter fun row => row.accountKey = accountKey

/-- On the rows of its account alone, a transaction does what it does on the whole tables. -/
def Local (accountKey : String)
    (transaction : CoordinationStore → Except Exc CoordinationStore) : Prop :=
  ∀ db, transaction (db.account accountKey) = (transaction db).map (account accountKey)

section Local

variable {accountKey : String} {first second : CoordinationStore → Except Exc CoordinationStore}

theorem Local.ok {change : CoordinationStore → CoordinationStore}
    (same : ∀ db, change (db.account accountKey) = (change db).account accountKey) :
    Local accountKey fun db => .ok (change db) := by
  intro db
  exact congrArg Except.ok (same db)

theorem Local.bind (here : Local accountKey first) (rest : Local accountKey second) :
    Local accountKey fun db => first db >>= second := by
  intro db
  change first (db.account accountKey) >>= second = (first db >>= second).map (account accountKey)
  rw [here db]
  cases first db with
  | error exc => rfl
  | ok middle => exact rest middle

theorem Local.after {α : Type} {value : Except Exc α}
    {next : α → CoordinationStore → Except Exc CoordinationStore}
    (rest : ∀ v, Local accountKey (next v)) :
    Local accountKey fun db => value >>= fun v => next v db := by
  intro db
  cases value with
  | error exc => rfl
  | ok v => exact rest v db

theorem Local.ite {condition : CoordinationStore → Prop} [∀ db, Decidable (condition db)]
    (same : ∀ db, condition (db.account accountKey) ↔ condition db)
    (positive : Local accountKey first) (negative : Local accountKey second) :
    Local accountKey fun db => if condition db then first db else second db := by
  intro db
  by_cases holds : condition db
  · have kept := (same db).2 holds
    simp only [holds, kept, if_true]
    exact positive db
  · have lost : ¬ condition (db.account accountKey) := fun kept => holds ((same db).1 kept)
    simp only [holds, lost, if_false]
    exact negative db

end Local

section Rows

variable (accountKey : String) (db : CoordinationStore)

@[simp] theorem claimOf_account (symbol : String) :
    (db.account accountKey).claimOf accountKey symbol = db.claimOf accountKey symbol := by
  unfold claimOf account
  rw [List.find?_filter]
  congr 1
  funext claim
  by_cases own : claim.accountKey = accountKey <;> simp [own]

@[simp] theorem reservationOf_account (executionId clientOrderId : String) :
    (db.account accountKey).reservationOf accountKey executionId clientOrderId =
      db.reservationOf accountKey executionId clientOrderId := by
  unfold reservationOf account
  rw [List.find?_filter]
  congr 1
  funext row
  by_cases own : row.accountKey = accountKey <;> simp [CashReservation.carries, own]

@[simp] theorem activeReservedCash_account :
    (db.account accountKey).activeReservedCash accountKey = db.activeReservedCash accountKey := by
  unfold activeReservedCash account
  rw [List.filter_filter]
  congr 3
  funext row
  by_cases own : row.accountKey = accountKey <;> simp [own]

theorem insertReservation_account (row : CashReservation) (own : row.accountKey = accountKey) :
    (db.account accountKey).insertReservation row =
      (db.insertReservation row).account accountKey := by
  simp [insertReservation, account, own]

theorem setFinality_account (symbol : String) (finality : ExecutionFinality) :
    (db.account accountKey).setFinality accountKey symbol finality =
      (db.setFinality accountKey symbol finality).account accountKey := by
  unfold setFinality account
  simp only [List.filter_map]
  congr 3
  funext claim
  simp only [Function.comp]
  split_ifs <;> rfl

theorem deleteClaim_account (symbol executionId clientOrderId : String) :
    (db.account accountKey).deleteClaim accountKey symbol executionId clientOrderId =
      (db.deleteClaim accountKey symbol executionId clientOrderId).account accountKey := by
  unfold deleteClaim account
  simp only [List.filter_filter]
  congr 2
  funext claim
  exact Bool.and_comm _ _

theorem updateReservation_account (executionId clientOrderId : String)
    {change : CashReservation → CashReservation}
    (same : ∀ row, (change row).accountKey = row.accountKey) :
    (db.account accountKey).updateReservation accountKey executionId clientOrderId change =
      (db.updateReservation accountKey executionId clientOrderId change).account accountKey := by
  unfold updateReservation account
  simp only [List.filter_map]
  congr 3
  funext row
  simp only [Function.comp]
  split_ifs
  · rw [same]
  · rfl

end Rows

section Transactions

variable {accountKey : String} (executionId : String) (request : ExecutionRequest)

theorem insertClaim_local (claim : SymbolClaim) (own : claim.accountKey = accountKey)
    (failure : String) : Local accountKey fun db => db.insertClaim claim failure := by
  unfold insertClaim
  apply Local.ite
  · intro db
    simp only [account, List.any_filter]
    apply Eq.congr _ rfl
    congr 1
    funext row
    by_cases here : row.accountKey = accountKey <;> simp [here, own]
  · intro db
    rfl
  · apply Local.ok
    intro db
    simp [account, own]

theorem prepareClaim_local :
    Local accountKey fun db => db.prepareClaim accountKey executionId request := by
  intro db
  dsimp only
  unfold prepareClaim
  rw [claimOf_account]
  cases db.claimOf accountKey request.symbol with
  | none =>
      dsimp only
      exact insertClaim_local
        ⟨accountKey, request.symbol, executionId, request.clientOrderId, .open⟩ rfl _ db
  | some claim =>
      dsimp only
      split_ifs <;> rfl

theorem prepareReservation_local (available required : ℚ) :
    Local accountKey fun db =>
      db.prepareReservation accountKey executionId request available required := by
  intro db
  dsimp only
  unfold prepareReservation
  rw [reservationOf_account]
  cases db.reservationOf accountKey executionId request.clientOrderId with
  | some row =>
      dsimp only
      split_ifs <;> rfl
  | none =>
      dsimp only
      rw [activeReservedCash_account]
      split_ifs
      · rfl
      · exact congrArg Except.ok (insertReservation_account accountKey db _ rfl)

theorem prepare_local (brokerAvailableCash requiredCash : CashArgument) :
    Local accountKey fun db =>
      db.prepare accountKey executionId request brokerAvailableCash requiredCash := by
  unfold prepare
  apply Local.after
  intro _
  cases request.side with
  | sell => exact prepareClaim_local executionId request
  | buy =>
      apply Local.after
      intro available
      apply Local.after
      intro required
      exact (prepareClaim_local executionId request).bind
        (prepareReservation_local executionId request available required)

theorem updateFinality_local (finality : ExecutionFinality) :
    Local accountKey fun db => db.updateFinality accountKey executionId request finality := by
  unfold updateFinality
  apply Local.after
  intro _
  dsimp only
  apply Local.ite
  · intro db
    rw [claimOf_account]
  · intro db
    rfl
  · apply Local.ite
    · intro db
      exact Iff.rfl
    · apply Local.ok
      intro db
      have deactivated : ∀ row : CashReservation, (if row.active then { row with active := false }
          else row).accountKey = row.accountKey := by
        intro row
        split_ifs <;> rfl
      rw [claimOf_account, ← updateReservation_account _ _ _ _ deactivated]
      split_ifs
      · rw [deleteClaim_account]
      · rfl
    · apply Local.ite
      · intro db
        rw [claimOf_account]
      · intro db
        rfl
      · apply Local.ok
        intro db
        exact setFinality_account accountKey db request.symbol finality

theorem restoreClaim_local (finality : ExecutionFinality) :
    Local accountKey fun db => db.restoreClaim accountKey executionId request finality := by
  intro db
  dsimp only
  unfold restoreClaim
  rw [claimOf_account]
  cases db.claimOf accountKey request.symbol with
  | none =>
      dsimp only
      exact insertClaim_local
        ⟨accountKey, request.symbol, executionId, request.clientOrderId, finality⟩ rfl _ db
  | some claim =>
      dsimp only
      split_ifs
      · exact congrArg Except.ok (setFinality_account accountKey db request.symbol finality)
      · rfl

theorem restoreReservation_account (db : CoordinationStore) (required : ℚ) :
    (db.account accountKey).restoreReservation accountKey executionId request required =
      (db.restoreReservation accountKey executionId request required).account accountKey := by
  unfold restoreReservation
  rw [reservationOf_account]
  cases db.reservationOf accountKey executionId request.clientOrderId with
  | none => exact insertReservation_account accountKey db _ rfl
  | some row => exact updateReservation_account accountKey db _ _ fun _ => rfl

theorem restore_local (requiredCash : CashArgument) (finality : ExecutionFinality) :
    Local accountKey fun db =>
      db.restore accountKey executionId request requiredCash finality := by
  unfold restore
  apply Local.after
  intro _
  apply Local.ite
  · intro db
    exact Iff.rfl
  · exact updateFinality_local executionId request finality
  · cases request.side with
    | sell => exact restoreClaim_local executionId request finality
    | buy =>
        apply Local.after
        intro required
        exact (restoreClaim_local executionId request finality).bind
          (Local.ok fun db => restoreReservation_account executionId request db required)

theorem execute_local (call : CoordinatorCall) :
    Local call.accountKey fun db => call.execute db := by
  cases call with
  | prepare => exact prepare_local _ _ _ _
  | restore => exact restore_local _ _ _ _
  | updateFinality => exact updateFinality_local _ _ _

end Transactions

/-- A transaction, committed or not, leaves the rows of every other identity as they are; and on
any two contents with the same rows of its account it commits or raises alike, and leaves the
same rows of that account. -/
theorem transactions_isolated (call : CoordinatorCall) :
    (∀ db : CoordinationStore, Constrained db →
      (db.after call).others call.holder = db.others call.holder) ∧
    ∀ db db' : CoordinationStore,
      db.account call.accountKey = db'.account call.accountKey →
        (call.execute db).map (account call.accountKey) =
          (call.execute db').map (account call.accountKey) := by
  constructor
  · intro db constrained
    exact after_others constrained.symbols call
  · intro db db' same
    calc (call.execute db).map (account call.accountKey)
        = call.execute (db.account call.accountKey) := (execute_local call db).symm
      _ = call.execute (db'.account call.accountKey) := by rw [same]
      _ = (call.execute db').map (account call.accountKey) := execute_local call db'

def sharedTables : CoordinationStore :=
  { boughtTables with symbolClaim := boughtTables.symbolClaim ++
    [⟨"a2", "510300.SH", "e1", "c1", .open⟩] }

theorem transactions_isolated_beside :
    (sharedTables.after (.updateFinality "a1" "e2" sampleRequest .resolved)).others
        ⟨"a1", "e2", "c1"⟩ = sharedTables.others ⟨"a1", "e2", "c1"⟩ ∧
      ((CoordinatorCall.updateFinality "a1" "e2" sampleRequest .resolved).execute sharedTables).map
          (account "a1") =
        ((CoordinatorCall.updateFinality "a1" "e2" sampleRequest .resolved).execute
          boughtTables).map (account "a1") := by
  have isolated := transactions_isolated (.updateFinality "a1" "e2" sampleRequest .resolved)
  constructor
  · apply isolated.1
    constructor
    · exact (by decide : (sharedTables.symbolClaim.map SymbolClaim.slot).Nodup)
    · exact (by decide : (sharedTables.symbolClaim.map SymbolClaim.holder).Nodup)
    · exact (by decide : (sharedTables.cashReservation.map CashReservation.holder).Nodup)
    · simp [sharedTables, boughtTables]
  · apply isolated.2
    decide +kernel

end CoordinationStore

end QmtExecution
