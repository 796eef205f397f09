import QmtExecution.Resources.Coupling

/-! The cash that the reservations of one account hold together: a prepared BUY never raises it
over the broker's cash, and a prepare that raises or is repeated changes nothing. -/

namespace QmtExecution.CoordinationStore

variable {db after : CoordinationStore} {accountKey executionId : String}
  {request : ExecutionRequest}

def heldCash (accountKey : String) (rows : List CashReservation) : ℚ :=
  ((rows.filter fun row => row.accountKey = accountKey && row.active).map
    CashReservation.requiredCash).sum

@[simp] theorem heldCash_nil (accountKey : String) : heldCash accountKey [] = 0 := rfl

@[simp] theorem heldCash_cons (accountKey : String) (row : CashReservation)
    (rows : List CashReservation) :
    heldCash accountKey (row :: rows) =
      (if row.accountKey = accountKey ∧ row.active = true then row.requiredCash else 0) +
        heldCash accountKey rows := by
  unfold heldCash
  by_cases counted : row.accountKey = accountKey ∧ row.active = true
  · simp [counted]
  · have skipped : (decide (row.accountKey = accountKey) && row.active) = false :=
      Bool.eq_false_iff.2 fun both => counted (by simpa using both)
    rw [List.filter_cons, skipped, if_neg counted]
    simp

theorem heldCash_append (accountKey : String) (rows others : List CashReservation) :
    heldCash accountKey (rows ++ others) = heldCash accountKey rows + heldCash accountKey others := by
  induction rows with
  | nil => simp
  | cons row rows ih =>
      rw [List.cons_append, heldCash_cons, heldCash_cons, ih]
      ring

theorem heldCash_released (accountKey : String) (holder : Holder) {rows : List CashReservation}
    (nonneg : ∀ row ∈ rows, 0 ≤ row.requiredCash) :
    heldCash accountKey (rows.map fun row =>
      if row.holder = holder then { row with active := false } else row) ≤
      heldCash accountKey rows := by
  induction rows with
  | nil => simp
  | cons row rows ih =>
      have rest := ih fun other member => nonneg other (List.mem_cons_of_mem _ member)
      have here := nonneg row List.mem_cons_self
      rw [List.map_cons, heldCash_cons, heldCash_cons]
      apply add_le_add _ rest
      by_cases own : row.holder = holder
      · simp only [own, if_true, Bool.false_eq_true, and_false, if_false]
        split_ifs
        · exact here
        · exact le_rfl
      · simp only [own, if_false]
        exact le_rfl

theorem activeReservedCash_held (db : CoordinationStore) (accountKey : String) :
    db.activeReservedCash accountKey = heldCash accountKey db.cashReservation := rfl

/-- A newly reserved BUY fits into the broker's cash with all that the account has reserved. -/
theorem prepare_affords {brokerAvailableCash requiredCash : CashArgument}
    (done : db.prepare accountKey executionId request brokerAvailableCash requiredCash = .ok after)
    (buy : request.side = .buy)
    (new : ∀ row ∈ db.cashReservation,
      row.holder ≠ ⟨accountKey, executionId, request.clientOrderId⟩) :
    ∃ available, brokerAvailableCash = .finite available ∧
      after.activeReservedCash accountKey ≤ available + epsilon := by
  obtain ⟨-, effect⟩ := prepare_ok done
  rw [buy] at effect
  obtain ⟨available, required, rfl, -, -, reserves, afforded⟩ := effect
  refine ⟨available, rfl, ?_⟩
  rcases reserves with ⟨⟨row, member, own, -⟩, -⟩ | ⟨-, same⟩ | ⟨row, member, own, -⟩
  · exact absurd own (new row member)
  · have bound := afforded new
    rw [activeReservedCash_held, same, heldCash_append, heldCash_cons, heldCash_nil]
    rw [activeReservedCash_held] at bound
    simp only [and_self, if_true, add_zero]
    linarith
  · exact absurd own (new row member)

theorem claimOf_insert {claim : SymbolClaim} (vacant : db.Vacant claim.holder claim.symbol) :
    CoordinationStore.claimOf { db with symbolClaim := db.symbolClaim ++ [claim] }
      claim.accountKey claim.symbol = some claim := by
  have free := vacant.claimOf
  unfold claimOf at free ⊢
  rw [List.find?_append, show claim.holder.accountKey = claim.accountKey from rfl] at *
  rw [free]
  simp

theorem prepareClaim_owned
    (done : db.prepareClaim accountKey executionId request = .ok after) :
    ∃ claim, after.claimOf accountKey request.symbol = some claim ∧
      claim.carries executionId request.clientOrderId = true := by
  unfold prepareClaim at done
  split at done
  · rename_i claim found
    split_ifs at done with own
    cases done
    exact ⟨claim, found, own⟩
  · obtain ⟨vacant, rfl⟩ := insertClaim_ok done
    exact ⟨_, claimOf_insert vacant, by simp [SymbolClaim.carries]⟩

theorem prepareClaim_of_owned {claim : SymbolClaim}
    (found : db.claimOf accountKey request.symbol = some claim)
    (own : claim.carries executionId request.clientOrderId = true) :
    db.prepareClaim accountKey executionId request = .ok db := by
  simp [prepareClaim, found, own]

theorem reservationOf_insert {row : CashReservation}
    (missing : ∀ other ∈ db.cashReservation, other.holder ≠ row.holder) :
    (db.insertReservation row).reservationOf row.accountKey row.executionId row.clientOrderId =
      some row := by
  have absent : db.reservationOf row.accountKey row.executionId row.clientOrderId = none :=
    reservationOf_none.2 missing
  unfold reservationOf at absent ⊢
  rw [insertReservation, List.find?_append, absent]
  simp [CashReservation.carries]

theorem prepareReservation_again {available required : ℚ}
    (done : db.prepareReservation accountKey executionId request available required = .ok after) :
    after.prepareReservation accountKey executionId request available required = .ok after := by
  unfold prepareReservation at done
  split at done
  · rename_i row found
    split_ifs at done with released changed
    cases done
    simp [prepareReservation, found, released, changed]
  · rename_i missing
    dsimp only at done
    split_ifs at done
    cases done
    let row : CashReservation :=
      ⟨accountKey, executionId, request.clientOrderId, request.symbol, required, true⟩
    have absent : ∀ other ∈ db.cashReservation, other.holder ≠ row.holder :=
      reservationOf_none.1 missing
    have found : (db.insertReservation row).reservationOf accountKey executionId
        request.clientOrderId = some row := reservationOf_insert absent
    simp [prepareReservation, row, found, epsilon]

theorem prepareReservation_claims {available required : ℚ}
    (done : db.prepareReservation accountKey executionId request available required = .ok after) :
    after.symbolClaim = db.symbolClaim := by
  unfold prepareReservation at done
  split at done
  · split_ifs at done
    cases done
    rfl
  · dsimp only at done
    split_ifs at done
    cases done
    rfl

theorem prepare_again {brokerAvailableCash requiredCash : CashArgument}
    (done : db.prepare accountKey executionId request brokerAvailableCash requiredCash = .ok after) :
    after.prepare accountKey executionId request brokerAvailableCash requiredCash = .ok after := by
  unfold prepare at done ⊢
  obtain ⟨_, valid, done⟩ := except_bind done
  rw [valid]
  cases side : request.side with
  | sell =>
      rw [side] at done
      obtain ⟨claim, found, own⟩ := prepareClaim_owned done
      exact prepareClaim_of_owned found own
  | buy =>
      rw [side] at done
      obtain ⟨available, offered, done⟩ := except_bind done
      obtain ⟨required, needed, done⟩ := except_bind done
      obtain ⟨middle, claimed, done⟩ := except_bind done
      obtain ⟨claim, found, own⟩ := prepareClaim_owned claimed
      have kept : after.claimOf accountKey request.symbol = some claim := by
        unfold claimOf at found ⊢
        rw [prepareReservation_claims done]
        exact found
      have first := prepareClaim_of_owned kept own
      have second := prepareReservation_again done
      rw [offered, needed]
      show (after.prepareClaim accountKey executionId request >>= fun db =>
        db.prepareReservation accountKey executionId request available required) = .ok after
      rw [first]
      exact second

theorem prepare_known {brokerAvailableCash requiredCash : CashArgument}
    (done : db.prepare accountKey executionId request brokerAvailableCash requiredCash = .ok after)
    (buy : request.side = .buy)
    (known : ¬ ∀ row ∈ db.cashReservation,
      row.holder ≠ ⟨accountKey, executionId, request.clientOrderId⟩) :
    after.cashReservation = db.cashReservation := by
  unfold prepare at done
  obtain ⟨-, -, done⟩ := except_bind done
  rw [buy] at done
  obtain ⟨available, -, done⟩ := except_bind done
  obtain ⟨required, -, done⟩ := except_bind done
  obtain ⟨middle, claimed, done⟩ := except_bind done
  have kept := (prepareClaim_ok claimed).2
  unfold prepareReservation at done
  split at done
  · split_ifs at done
    cases done
    exact kept
  · rename_i missing
    rw [← kept] at known
    exact absurd (reservationOf_none.1 missing) known

/-- The calls of one account that only prepare with this cash and report finalities. -/
def Funded (accountKey : String) (cash : ℚ) : CoordinatorCall → Prop
  | .prepare account _ _ brokerAvailableCash _ =>
      account = accountKey ∧ brokerAvailableCash = .finite cash
  | .restore _ _ _ _ _ => False
  | .updateFinality account _ _ _ => account = accountKey

structure Covered (accountKey : String) (cash : ℚ) (db : CoordinationStore) : Prop where
  nonneg : ∀ row ∈ db.cashReservation, 0 ≤ row.requiredCash
  fits : db.activeReservedCash accountKey ≤ cash + epsilon

theorem Covered.prepare {cash : ℚ} {requiredCash : CashArgument}
    (covered : Covered accountKey cash db)
    (done : db.prepare accountKey executionId request (.finite cash) requiredCash = .ok after) :
    Covered accountKey cash after := by
  obtain ⟨-, effect⟩ := prepare_ok done
  cases side : request.side with
  | sell =>
      rw [side] at effect
      constructor
      · rw [effect]
        exact covered.nonneg
      · rw [activeReservedCash_held, effect]
        exact covered.fits
  | buy =>
      rw [side] at effect
      obtain ⟨available, required, offered, -, positive, reserves, -⟩ := effect
      by_cases new : ∀ row ∈ db.cashReservation,
          row.holder ≠ ⟨accountKey, executionId, request.clientOrderId⟩
      · constructor
        · intro row member
          rcases reserves with ⟨-, same⟩ | ⟨-, same⟩ | ⟨other, listed, own, -⟩
          · rw [same] at member
            exact covered.nonneg row member
          · rw [same, List.mem_append, List.mem_singleton] at member
            rcases member with member | rfl
            · exact covered.nonneg row member
            · exact positive
          · exact absurd own (new other listed)
        · obtain ⟨bound, same, fits⟩ := prepare_affords done side new
          cases same
          exact fits
      · -- A known identity passes no check of the cash, but its row stays as it is.
        have again := prepare_known done side new
        constructor
        · rw [again]
          exact covered.nonneg
        · rw [activeReservedCash_held, again]
          exact covered.fits

theorem Covered.updateFinality {cash : ℚ} {finality : ExecutionFinality}
    (covered : Covered accountKey cash db)
    (done : db.updateFinality accountKey executionId request finality = .ok after) :
    Covered accountKey cash after := by
  have effect := updateFinality_ok done
  by_cases resolved : finality = .resolved
  · rw [if_pos resolved] at effect
    have same := effect.2.2
    constructor
    · intro row member
      rw [same] at member
      obtain ⟨old, listed, rfl⟩ := List.mem_map.1 member
      have positive := covered.nonneg old listed
      split_ifs
      · exact positive
      · exact positive
    · calc after.activeReservedCash accountKey
          ≤ db.activeReservedCash accountKey := by
            rw [activeReservedCash_held, activeReservedCash_held, same]
            exact heldCash_released accountKey _ covered.nonneg
        _ ≤ cash + epsilon := covered.fits
  · rw [if_neg resolved] at effect
    have same := effect.2.2
    constructor
    · rw [same]
      exact covered.nonneg
    · rw [activeReservedCash_held, same]
      exact covered.fits

theorem Ran.covered {cash : ℚ} {calls : List CoordinatorCall} (run : Ran calls db)
    (positive : 0 ≤ cash) (funded : ∀ call ∈ calls, Funded accountKey cash call) :
    Covered accountKey cash db := by
  induction run with
  | created =>
      constructor
      · simp
      · simp only [activeReservedCash, List.filter_nil, List.map_nil, List.sum_nil, epsilon]
        linarith
  | @committed calls db after call run done ih =>
      have earlier := ih fun call member => funded call (List.mem_append_left _ member)
      have latest := funded call (List.mem_append_right _ (List.mem_singleton_self call))
      cases call with
      | prepare account executionId request brokerAvailableCash requiredCash =>
          obtain ⟨rfl, rfl⟩ := latest
          exact earlier.prepare done
      | restore => exact latest.elim
      | updateFinality account executionId request finality =>
          cases latest
          exact earlier.updateFinality done
  | raised call run ih => exact ih fun call member => funded call (List.mem_append_left _ member)

/-- On the tables that any transactions have left: a new BUY reservation fits into the broker's
cash together with all active ones, a prepare that raises changes nothing, one that has
committed can be repeated without effect, and while an account only prepares with one cash
figure and reports finalities its active reservations never exceed the figure. -/
theorem reservations_afforded {calls : List CoordinatorCall} (run : Ran calls db)
    (accountKey executionId : String) (request : ExecutionRequest)
    (brokerAvailableCash requiredCash : CashArgument) :
    (∀ after, db.prepare accountKey executionId request brokerAvailableCash requiredCash =
        .ok after →
      (request.side = .buy → (∀ row ∈ db.cashReservation,
          row.holder ≠ ⟨accountKey, executionId, request.clientOrderId⟩) →
        ∃ available, brokerAvailableCash = .finite available ∧
          after.activeReservedCash accountKey ≤ available + epsilon) ∧
      after.prepare accountKey executionId request brokerAvailableCash requiredCash = .ok after) ∧
    (∀ exc, db.prepare accountKey executionId request brokerAvailableCash requiredCash =
        .error exc →
      db.after (.prepare accountKey executionId request brokerAvailableCash requiredCash) = db) ∧
    ∀ cash, 0 ≤ cash → (∀ call ∈ calls, Funded accountKey cash call) →
      db.activeReservedCash accountKey ≤ cash + epsilon := by
  refine ⟨fun after done => ⟨prepare_affords done, prepare_again done⟩, ?_, ?_⟩
  · intro exc raised
    simp only [CoordinationStore.after, CoordinatorCall.execute, raised]
  · intro cash positive funded
    exact (run.covered positive funded).fits

def bondRequest : ExecutionRequest := { sampleRequest with
  clientOrderId := "bond1", symbol := "511260.SH", clientOrderId_ne := by decide
  symbol_ne := by decide }

def goldRequest : ExecutionRequest := { sampleRequest with
  clientOrderId := "gold1", symbol := "518800.SH", clientOrderId_ne := by decide
  symbol_ne := by decide }

def spendingCalls : List CoordinatorCall :=
  [.prepare "a1" "e1" sampleRequest (.finite 12) (.finite 7),
    .prepare "a1" "e2" bondRequest (.finite 12) (.finite 4),
    .prepare "a1" "e3" goldRequest (.finite 12) (.finite 3)]

def openedTables : CoordinationStore where
  symbolClaim := [⟨"a1", "510300.SH", "e1", "c1", .open⟩]
  cashReservation := [⟨"a1", "e1", "c1", "510300.SH", 7, true⟩]

def spentTables : CoordinationStore where
  symbolClaim := openedTables.symbolClaim ++ [⟨"a1", "511260.SH", "e2", "bond1", .open⟩]
  cashReservation := openedTables.cashReservation ++ [⟨"a1", "e2", "bond1", "511260.SH", 4, true⟩]

theorem reservations_afforded_twice :
    Ran spendingCalls spentTables ∧
      spentTables.prepare "a1" "e2" bondRequest (.finite 12) (.finite 4) = .ok spentTables ∧
      spentTables.after (.prepare "a1" "e3" goldRequest (.finite 12) (.finite 3)) = spentTables ∧
      spentTables.activeReservedCash "a1" = 11 ∧
      spentTables.activeReservedCash "a1" ≤ 12 + epsilon := by
  have opened : Ran [.prepare "a1" "e1" sampleRequest (.finite 12) (.finite 7)] openedTables :=
    .committed .created (by decide +kernel)
  have done : openedTables.prepare "a1" "e2" bondRequest (.finite 12) (.finite 4) =
      .ok spentTables := by decide +kernel
  have reserved : Ran ([.prepare "a1" "e1" sampleRequest (.finite 12) (.finite 7)] ++
      [.prepare "a1" "e2" bondRequest (.finite 12) (.finite 4)]) spentTables := .committed opened done
  have spent : Ran spendingCalls spentTables :=
    reserved.raised (.prepare "a1" "e3" goldRequest (.finite 12) (.finite 3))
  have second := reservations_afforded opened "a1" "e2" bondRequest (.finite 12) (.finite 4)
  have third := reservations_afforded spent "a1" "e3" goldRequest (.finite 12) (.finite 3)
  refine ⟨spent, (second.1 spentTables done).2, ?_, by decide +kernel, ?_⟩
  · apply third.2.1 ⟨.cashReservationRejected, "conservative BUY cash requirement exceeds fresh broker " ++
      "cash minus active cross-process reservations"⟩
    decide +kernel
  · apply third.2.2 12
    · norm_num
    · simp [spendingCalls, Funded]

end QmtExecution.CoordinationStore
