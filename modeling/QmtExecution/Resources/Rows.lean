import QmtExecution.Coordination
import QmtExecution.Resources.Keyed

/-! The transactions of the coordinator as changes of its two tables: what a transaction that
commits has done, for any tables. -/

namespace QmtExecution

open Resources

/-- The identity under which an execution holds rows. -/
@[ext] structure Holder where
  accountKey : String
  executionId : String
  clientOrderId : String
  deriving DecidableEq

def SymbolClaim.holder (claim : SymbolClaim) : Holder :=
  ⟨claim.accountKey, claim.executionId, claim.clientOrderId⟩

def SymbolClaim.slot (claim : SymbolClaim) : String × String := (claim.accountKey, claim.symbol)

def CashReservation.holder (row : CashReservation) : Holder :=
  ⟨row.accountKey, row.executionId, row.clientOrderId⟩

inductive CoordinatorCall
  | prepare (accountKey executionId : String) (request : ExecutionRequest)
      (brokerAvailableCash requiredCash : CashArgument)
  | restore (accountKey executionId : String) (request : ExecutionRequest)
      (requiredCash : CashArgument) (finality : ExecutionFinality)
  | updateFinality (accountKey executionId : String) (request : ExecutionRequest)
      (finality : ExecutionFinality)
  deriving DecidableEq

namespace CoordinatorCall

def accountKey : CoordinatorCall → String
  | prepare accountKey _ _ _ _ | restore accountKey _ _ _ _ | updateFinality accountKey _ _ _ =>
      accountKey

def executionId : CoordinatorCall → String
  | prepare _ executionId _ _ _ | restore _ executionId _ _ _ | updateFinality _ executionId _ _ =>
      executionId

def request : CoordinatorCall → ExecutionRequest
  | prepare _ _ request _ _ | restore _ _ request _ _ | updateFinality _ _ request _ => request

def requiredCash : CoordinatorCall → Option CashArgument
  | prepare _ _ _ _ requiredCash | restore _ _ _ requiredCash _ => some requiredCash
  | updateFinality _ _ _ _ => none

def holder (call : CoordinatorCall) : Holder :=
  ⟨call.accountKey, call.executionId, call.request.clientOrderId⟩

def releases : CoordinatorCall → Bool
  | prepare _ _ _ _ _ => false
  | restore _ _ _ _ finality | updateFinality _ _ _ finality => finality = .resolved

def execute (db : CoordinationStore) : CoordinatorCall → Except Exc CoordinationStore
  | prepare accountKey executionId request brokerAvailableCash requiredCash =>
      db.prepare accountKey executionId request brokerAvailableCash requiredCash
  | restore accountKey executionId request requiredCash finality =>
      db.restore accountKey executionId request requiredCash finality
  | updateFinality accountKey executionId request finality =>
      db.updateFinality accountKey executionId request finality

end CoordinatorCall

/-- The tables after a transaction, which is rolled back if it raises. -/
def CoordinationStore.after (db : CoordinationStore) (call : CoordinatorCall) :
    CoordinationStore :=
  match call.execute db with
  | .ok after => after
  | .error _ => db

namespace CoordinationStore

variable {db after : CoordinationStore} {accountKey executionId : String}
  {request : ExecutionRequest} {holder : Holder} {symbol : String}

def claimed (db : CoordinationStore) : List (Holder × String) :=
  db.symbolClaim.map fun claim => (claim.holder, claim.symbol)

def Vacant (db : CoordinationStore) (holder : Holder) (symbol : String) : Prop :=
  ∀ claim ∈ db.symbolClaim, claim.holder ≠ holder ∧ claim.slot ≠ (holder.accountKey, symbol)

theorem claimOf_some {symbol : String} {claim : SymbolClaim}
    (found : db.claimOf accountKey symbol = some claim) :
    claim ∈ db.symbolClaim ∧ claim.slot = (accountKey, symbol) := by
  have matched := List.find?_some found
  simp only [Bool.and_eq_true, decide_eq_true_eq] at matched
  exact ⟨List.mem_of_find?_eq_some found, Prod.ext matched.1 matched.2⟩

theorem claimOf_none {symbol : String} :
    db.claimOf accountKey symbol = none ↔
      ∀ claim ∈ db.symbolClaim, claim.slot ≠ (accountKey, symbol) := by
  simp [claimOf, SymbolClaim.slot]

theorem claim_carries {claim : SymbolClaim} {symbol : String}
    (slot : claim.slot = (accountKey, symbol)) {clientOrderId : String} :
    claim.carries executionId clientOrderId = true ↔
      claim.holder = ⟨accountKey, executionId, clientOrderId⟩ := by
  have account : claim.accountKey = accountKey := congrArg Prod.fst slot
  simp [SymbolClaim.carries, SymbolClaim.holder, account]

theorem reservation_carries {row : CashReservation} {clientOrderId : String} :
    row.carries accountKey executionId clientOrderId = true ↔
      row.holder = ⟨accountKey, executionId, clientOrderId⟩ := by
  simp [CashReservation.carries, CashReservation.holder, and_assoc]

theorem reservationOf_some {clientOrderId : String} {row : CashReservation}
    (found : db.reservationOf accountKey executionId clientOrderId = some row) :
    row ∈ db.cashReservation ∧ row.holder = ⟨accountKey, executionId, clientOrderId⟩ := by
  unfold reservationOf at found
  have matched := List.find?_some found
  exact ⟨List.mem_of_find?_eq_some found, reservation_carries.1 matched⟩

theorem reservationOf_none {clientOrderId : String} :
    db.reservationOf accountKey executionId clientOrderId = none ↔
      ∀ row ∈ db.cashReservation, row.holder ≠ ⟨accountKey, executionId, clientOrderId⟩ := by
  simp only [reservationOf, List.find?_eq_none, reservation_carries, ne_eq]

theorem insertClaim_ok {claim : SymbolClaim} {failure : String}
    (inserted : db.insertClaim claim failure = .ok after) :
    db.Vacant claim.holder claim.symbol ∧
      after = { db with symbolClaim := db.symbolClaim ++ [claim] } := by
  unfold insertClaim at inserted
  split_ifs at inserted with conflict
  cases inserted
  refine ⟨fun row member => ⟨fun same => conflict ?_, fun same => conflict ?_⟩, rfl⟩
  · simp only [SymbolClaim.holder, Holder.mk.injEq] at same
    exact List.any_eq_true.2 ⟨row, member, by simp [SymbolClaim.carries, same]⟩
  · simp only [SymbolClaim.slot, SymbolClaim.holder, Prod.mk.injEq] at same
    exact List.any_eq_true.2 ⟨row, member, by simp [same]⟩

theorem insertClaim_vacant {claim : SymbolClaim} (vacant : db.Vacant claim.holder claim.symbol)
    (failure : String) :
    db.insertClaim claim failure = .ok { db with symbolClaim := db.symbolClaim ++ [claim] } := by
  unfold insertClaim
  rw [if_neg]
  intro conflict
  obtain ⟨row, member, clash⟩ := List.any_eq_true.1 conflict
  simp only [Bool.or_eq_true, Bool.and_eq_true, decide_eq_true_eq, SymbolClaim.carries] at clash
  rcases clash with slot | identity
  · exact (vacant row member).2 (Prod.ext slot.1 slot.2)
  · exact (vacant row member).1 (Holder.ext identity.1 identity.2.1 identity.2.2)

theorem Vacant.claimOf (vacant : db.Vacant holder symbol) :
    db.claimOf holder.accountKey symbol = none :=
  claimOf_none.2 fun claim member => (vacant claim member).2

theorem setFinality_claimed (accountKey symbol : String) (finality : ExecutionFinality) :
    (db.setFinality accountKey symbol finality).claimed = db.claimed := by
  simp only [claimed, setFinality, List.map_map]
  refine List.map_congr_left fun claim _ => ?_
  simp only [Function.comp]
  split_ifs <;> rfl

def Claims (db after : CoordinationStore) (holder : Holder) (symbol : String) : Prop :=
  (holder, symbol) ∈ db.claimed ∧ after.claimed = db.claimed ∨
    db.Vacant holder symbol ∧ after.claimed = db.claimed ++ [(holder, symbol)]

/-- The amount is reserved afterwards: the reservation was there, is new, or is renewed. -/
def Reserves (db after : CoordinationStore) (holder : Holder) (symbol : String) (amount : ℚ) :
    Prop :=
  (∃ row ∈ db.cashReservation, row.holder = holder ∧ row.active = true ∧
      |row.requiredCash - amount| ≤ epsilon) ∧ after.cashReservation = db.cashReservation ∨
    (∀ row ∈ db.cashReservation, row.holder ≠ holder) ∧
      after.cashReservation = db.cashReservation ++
        [⟨holder.accountKey, holder.executionId, holder.clientOrderId, symbol, amount, true⟩] ∨
    ∃ row ∈ db.cashReservation, row.holder = holder ∧
      after.cashReservation = db.cashReservation.map fun other =>
        if other.holder = holder then
          { other with requiredCash := max amount row.requiredCash, active := true }
        else other

def Marks (db after : CoordinationStore) (holder : Holder) (symbol : String) : Prop :=
  (holder, symbol) ∈ db.claimed ∧ after.claimed = db.claimed ∧
    after.cashReservation = db.cashReservation

/-- The holder gives up the symbol, which nobody else has, and its reservation. -/
def Releases (db after : CoordinationStore) (holder : Holder) (symbol : String) : Prop :=
  (∀ claim, db.claimOf holder.accountKey symbol = some claim → claim.holder = holder) ∧
    after.claimed = db.claimed.filter (· ≠ (holder, symbol)) ∧
    after.cashReservation = db.cashReservation.map fun row =>
      if row.holder = holder then { row with active := false } else row

theorem claimed_of_slot {claim : SymbolClaim} {symbol : String} (member : claim ∈ db.symbolClaim)
    (same : claim.holder = holder) (slot : claim.slot = (holder.accountKey, symbol)) :
    (holder, symbol) ∈ db.claimed := by
  refine List.mem_map.2 ⟨claim, member, ?_⟩
  rw [same, show claim.symbol = symbol from congrArg Prod.snd slot]

theorem insertClaim_claims {symbol : String} {finality : ExecutionFinality} {failure : String}
    (inserted : db.insertClaim ⟨holder.accountKey, symbol, holder.executionId,
      holder.clientOrderId, finality⟩ failure = .ok after) :
    Claims db after holder symbol ∧ after.cashReservation = db.cashReservation := by
  obtain ⟨vacant, rfl⟩ := insertClaim_ok inserted
  exact ⟨.inr ⟨vacant, by simp [claimed, SymbolClaim.holder]⟩, rfl⟩

theorem prepareClaim_ok
    (done : db.prepareClaim accountKey executionId request = .ok after) :
    Claims db after ⟨accountKey, executionId, request.clientOrderId⟩ request.symbol ∧
      after.cashReservation = db.cashReservation := by
  unfold prepareClaim at done
  split at done
  · rename_i claim found
    split_ifs at done with own
    cases done
    obtain ⟨member, slot⟩ := claimOf_some found
    exact ⟨.inl ⟨claimed_of_slot member ((claim_carries slot).1 own) slot, rfl⟩, rfl⟩
  · exact insertClaim_claims done

theorem restoreClaim_ok {finality : ExecutionFinality}
    (done : db.restoreClaim accountKey executionId request finality = .ok after) :
    Claims db after ⟨accountKey, executionId, request.clientOrderId⟩ request.symbol ∧
      after.cashReservation = db.cashReservation := by
  unfold restoreClaim at done
  split at done
  · rename_i claim found
    split_ifs at done with own
    cases done
    obtain ⟨member, slot⟩ := claimOf_some found
    exact ⟨.inl ⟨claimed_of_slot member ((claim_carries slot).1 own) slot,
      setFinality_claimed _ _ _⟩, rfl⟩
  · exact insertClaim_claims done

theorem prepareReservation_ok {available required : ℚ}
    (done : db.prepareReservation accountKey executionId request available required = .ok after) :
    after.claimed = db.claimed ∧
      Reserves db after ⟨accountKey, executionId, request.clientOrderId⟩ request.symbol required ∧
      ((∀ row ∈ db.cashReservation,
          row.holder ≠ ⟨accountKey, executionId, request.clientOrderId⟩) →
        required ≤ available - db.activeReservedCash accountKey + epsilon) := by
  unfold prepareReservation at done
  split at done
  · rename_i row found
    obtain ⟨member, own⟩ := reservationOf_some found
    split_ifs at done with released changed
    cases done
    refine ⟨rfl, .inl ⟨⟨row, member, own, by simpa using released, not_lt.1 changed⟩, rfl⟩, ?_⟩
    exact fun missing => absurd own (missing row member)
  · rename_i missing
    dsimp only at done
    split_ifs at done with short
    cases done
    exact ⟨rfl, .inr (.inl ⟨reservationOf_none.1 missing, rfl⟩), fun _ => not_lt.1 short⟩

theorem restoreReservation_reserves (db : CoordinationStore) (accountKey executionId : String)
    (request : ExecutionRequest) (required : ℚ) :
    (db.restoreReservation accountKey executionId request required).claimed = db.claimed ∧
      Reserves db (db.restoreReservation accountKey executionId request required)
        ⟨accountKey, executionId, request.clientOrderId⟩ request.symbol required := by
  unfold restoreReservation
  split
  · rename_i missing
    exact ⟨rfl, .inr (.inl ⟨reservationOf_none.1 missing, rfl⟩)⟩
  · rename_i row found
    obtain ⟨member, own⟩ := reservationOf_some found
    refine ⟨rfl, .inr (.inr ⟨row, member, own, ?_⟩)⟩
    simp only [updateReservation, reservation_carries]

theorem finite_ok {value : CashArgument} {label : String} {amount : ℚ}
    (valid : finiteNonNegative value label = .ok amount) : value = .finite amount ∧ 0 ≤ amount := by
  unfold finiteNonNegative at valid
  split at valid
  · cases valid
  · cases valid
  · cases valid
  · split_ifs at valid with negative
    cases valid
    exact ⟨rfl, not_lt.1 negative⟩

theorem prepare_ok {brokerAvailableCash requiredCash : CashArgument}
    (done : db.prepare accountKey executionId request brokerAvailableCash requiredCash = .ok after) :
    Claims db after ⟨accountKey, executionId, request.clientOrderId⟩ request.symbol ∧
      match request.side with
      | .buy => ∃ available required, brokerAvailableCash = .finite available ∧
          requiredCash = .finite required ∧ 0 ≤ required ∧
          Reserves db after ⟨accountKey, executionId, request.clientOrderId⟩ request.symbol
            required ∧
          ((∀ row ∈ db.cashReservation,
              row.holder ≠ ⟨accountKey, executionId, request.clientOrderId⟩) →
            required ≤ available - db.activeReservedCash accountKey + epsilon)
      | .sell => after.cashReservation = db.cashReservation := by
  unfold prepare at done
  obtain ⟨-, -, done⟩ := except_bind done
  cases side : request.side with
  | sell =>
      rw [side] at done
      exact prepareClaim_ok done
  | buy =>
      rw [side] at done
      obtain ⟨available, offered, done⟩ := except_bind done
      obtain ⟨required, needed, done⟩ := except_bind done
      obtain ⟨middle, claimed, done⟩ := except_bind done
      obtain ⟨claims, kept⟩ := prepareClaim_ok claimed
      obtain ⟨same, reserves, afforded⟩ := prepareReservation_ok done
      have reserved : middle.activeReservedCash accountKey = db.activeReservedCash accountKey := by
        simp only [activeReservedCash, kept]
      obtain ⟨rfl, -⟩ := finite_ok offered
      obtain ⟨rfl, nonneg⟩ := finite_ok needed
      rw [kept, reserved] at afforded
      refine ⟨?_, available, required, rfl, rfl, nonneg, ?_, afforded⟩
      · simpa only [Claims, same] using claims
      · simpa only [Reserves, kept] using reserves

theorem restore_ok {requiredCash : CashArgument} {finality : ExecutionFinality}
    (unresolved : finality ≠ .resolved)
    (done : db.restore accountKey executionId request requiredCash finality = .ok after) :
    Claims db after ⟨accountKey, executionId, request.clientOrderId⟩ request.symbol ∧
      match request.side with
      | .buy => ∃ required, requiredCash = .finite required ∧ 0 ≤ required ∧
          Reserves db after ⟨accountKey, executionId, request.clientOrderId⟩ request.symbol required
      | .sell => after.cashReservation = db.cashReservation := by
  unfold restore at done
  obtain ⟨-, -, done⟩ := except_bind done
  rw [if_neg unresolved] at done
  cases side : request.side with
  | sell =>
      rw [side] at done
      exact restoreClaim_ok done
  | buy =>
      rw [side] at done
      obtain ⟨required, needed, done⟩ := except_bind done
      obtain ⟨middle, claimed, done⟩ := except_bind done
      cases done
      obtain ⟨claims, kept⟩ := restoreClaim_ok claimed
      obtain ⟨same, reserves⟩ :=
        restoreReservation_reserves middle accountKey executionId request required
      obtain ⟨rfl, nonneg⟩ := finite_ok needed
      refine ⟨?_, required, rfl, nonneg, ?_⟩
      · simpa only [Claims, same] using claims
      · simpa only [Reserves, kept] using reserves

theorem deleteClaim_claimed (holder : Holder) (symbol : String) :
    (db.deleteClaim holder.accountKey symbol holder.executionId holder.clientOrderId).claimed =
      db.claimed.filter (· ≠ (holder, symbol)) := by
  simp only [claimed, deleteClaim, List.filter_map]
  congr 1
  refine List.filter_congr fun claim _ => ?_
  rw [Bool.eq_iff_iff]
  simp [SymbolClaim.carries, SymbolClaim.holder, Holder.ext_iff]
  tauto

theorem claimed_filter_none {symbol : String}
    (free : db.claimOf holder.accountKey symbol = none) :
    db.claimed.filter (· ≠ (holder, symbol)) = db.claimed := by
  refine List.filter_eq_self.2 fun entry member => ?_
  obtain ⟨claim, listed, rfl⟩ := List.mem_map.1 member
  simp only [ne_eq, decide_eq_true_eq]
  intro same
  obtain ⟨rfl, rfl⟩ := Prod.mk.inj same
  exact claimOf_none.1 free claim listed rfl

theorem updateReservation_released (holder : Holder) :
    (db.updateReservation holder.accountKey holder.executionId holder.clientOrderId fun row =>
      if row.active then { row with active := false } else row).cashReservation =
      db.cashReservation.map fun row =>
        if row.holder = holder then { row with active := false } else row := by
  simp only [updateReservation, reservation_carries]
  refine List.map_congr_left fun row _ => ?_
  split_ifs with own active
  · rfl
  · have inactive : row.active = false := by simpa using active
    rw [← inactive]
  · rfl

theorem updateFinality_ok {finality : ExecutionFinality}
    (done : db.updateFinality accountKey executionId request finality = .ok after) :
    if finality = .resolved then
      Releases db after ⟨accountKey, executionId, request.clientOrderId⟩ request.symbol
    else Marks db after ⟨accountKey, executionId, request.clientOrderId⟩ request.symbol := by
  unfold updateFinality at done
  obtain ⟨-, -, done⟩ := except_bind done
  dsimp only at done
  split_ifs at done with foreign resolved held missing
  all_goals
    have owned : ∀ claim, db.claimOf accountKey request.symbol = some claim →
        claim.holder = ⟨accountKey, executionId, request.clientOrderId⟩ := by
      intro claim found
      rw [found] at foreign
      simpa [claim_carries (claimOf_some found).2] using foreign
  · cases done
    rw [if_pos resolved]
    exact ⟨owned, deleteClaim_claimed ⟨accountKey, executionId, request.clientOrderId⟩ _,
      updateReservation_released ⟨accountKey, executionId, request.clientOrderId⟩⟩
  · cases done
    rw [if_pos resolved]
    have free : db.claimOf accountKey request.symbol = none := by simpa using held
    refine ⟨owned, ?_, updateReservation_released ⟨accountKey, executionId, request.clientOrderId⟩⟩
    exact (claimed_filter_none free).symm
  · cases done
    rw [if_neg resolved]
    obtain ⟨claim, found⟩ := Option.ne_none_iff_exists'.1 (by simpa using missing)
    obtain ⟨member, slot⟩ := claimOf_some found
    exact ⟨claimed_of_slot member (owned claim found) slot, setFinality_claimed _ _ _, rfl⟩

end CoordinationStore

open CoordinationStore

/-- What a committed transaction has done: it releases, or it leaves the holder its symbol
and, for a BUY, its reservation. -/
theorem execute_ok {db after : CoordinationStore} {call : CoordinatorCall}
    (done : call.execute db = .ok after) :
    if call.releases then Releases db after call.holder call.request.symbol
    else Marks db after call.holder call.request.symbol ∨
      Claims db after call.holder call.request.symbol ∧ match call.request.side with
        | .buy => ∃ amount, call.requiredCash = some (.finite amount) ∧
            Reserves db after call.holder call.request.symbol amount
        | .sell => after.cashReservation = db.cashReservation := by
  cases call with
  | prepare accountKey executionId request brokerAvailableCash requiredCash =>
      obtain ⟨claims, reserves⟩ := prepare_ok done
      refine .inr ⟨claims, ?_⟩
      cases side : request.side with
      | sell => simpa only [CoordinatorCall.request, side] using reserves
      | buy =>
          simp only [side] at reserves
          obtain ⟨-, required, -, rfl, -, reserves, -⟩ := reserves
          simp only [CoordinatorCall.request, side]
          exact ⟨required, rfl, reserves⟩
  | restore accountKey executionId request requiredCash finality =>
      by_cases resolved : finality = .resolved
      · subst resolved
        obtain ⟨-, -, done⟩ := except_bind done
        exact updateFinality_ok done
      · obtain ⟨claims, reserves⟩ := restore_ok resolved done
        simp only [CoordinatorCall.releases, resolved, decide_false, Bool.false_eq_true, if_false]
        refine .inr ⟨claims, ?_⟩
        cases side : request.side with
        | sell => simpa only [CoordinatorCall.request, side] using reserves
        | buy =>
            simp only [side] at reserves
            obtain ⟨required, rfl, -, reserves⟩ := reserves
            simp only [CoordinatorCall.request, side]
            exact ⟨required, rfl, reserves⟩
  | updateFinality accountKey executionId request finality =>
      have effect := updateFinality_ok done
      by_cases resolved : finality = .resolved
      · subst resolved
        exact effect
      · simp only [CoordinatorCall.releases, resolved, decide_false, Bool.false_eq_true, if_false]
          at effect ⊢
        exact .inl effect

def CoordinationStore.others (db : CoordinationStore) (holder : Holder) :
    List SymbolClaim × List CashReservation :=
  (db.symbolClaim.filter (·.holder ≠ holder), db.cashReservation.filter (·.holder ≠ holder))

namespace CoordinationStore

variable {db after : CoordinationStore} {accountKey executionId symbol : String}
  {request : ExecutionRequest} {holder : Holder}

theorem insertClaim_others {claim : SymbolClaim} {failure : String}
    (inserted : db.insertClaim claim failure = .ok after) :
    after.others claim.holder = db.others claim.holder := by
  obtain ⟨-, rfl⟩ := insertClaim_ok inserted
  simp [others]

theorem setFinality_others (keyed : Keyed SymbolClaim.slot db.symbolClaim) {claim : SymbolClaim}
    (found : db.claimOf accountKey symbol = some claim) (finality : ExecutionFinality) :
    (db.setFinality accountKey symbol finality).others claim.holder = db.others claim.holder := by
  obtain ⟨member, slot⟩ := claimOf_some found
  refine Prod.ext ?_ rfl
  simp only [others, setFinality, List.filter_map]
  have holders : (fun row : SymbolClaim => decide (row.holder ≠ claim.holder)) ∘ (fun row =>
      if row.accountKey = accountKey && row.symbol = symbol then { row with finality } else row) =
        fun row => decide (row.holder ≠ claim.holder) := by
    funext row
    simp only [Function.comp]
    split_ifs <;> rfl
  rw [holders]
  refine (List.map_congr_left fun row listed => ?_).trans (List.map_id _)
  rw [List.mem_filter] at listed
  rw [if_neg]
  · rfl
  · intro same
    simp only [Bool.and_eq_true, decide_eq_true_eq] at same
    have here : row.slot = (accountKey, symbol) := Prod.ext same.1 same.2
    have own := keyed.eq listed.1 member (here.trans slot.symm)
    exact of_decide_eq_true listed.2 (congrArg SymbolClaim.holder own)

theorem deleteClaim_others (holder : Holder) (symbol : String) :
    (db.deleteClaim holder.accountKey symbol holder.executionId holder.clientOrderId).others holder =
      db.others holder := by
  refine Prod.ext ?_ rfl
  simp only [others, deleteClaim, List.filter_filter]
  refine List.filter_congr fun row _ => ?_
  rw [Bool.eq_iff_iff]
  simp [SymbolClaim.carries, SymbolClaim.holder, Holder.ext_iff]
  tauto

theorem prepareClaim_others
    (done : db.prepareClaim accountKey executionId request = .ok after) :
    after.others ⟨accountKey, executionId, request.clientOrderId⟩ =
      db.others ⟨accountKey, executionId, request.clientOrderId⟩ := by
  unfold prepareClaim at done
  split at done
  · split_ifs at done
    cases done
    rfl
  · exact insertClaim_others done

theorem restoreClaim_others (keyed : Keyed SymbolClaim.slot db.symbolClaim)
    {finality : ExecutionFinality}
    (done : db.restoreClaim accountKey executionId request finality = .ok after) :
    after.others ⟨accountKey, executionId, request.clientOrderId⟩ =
      db.others ⟨accountKey, executionId, request.clientOrderId⟩ := by
  unfold restoreClaim at done
  split at done
  · rename_i claim found
    split_ifs at done with own
    cases done
    rw [← (claim_carries (claimOf_some found).2).1 own]
    exact setFinality_others keyed found finality
  · exact insertClaim_others done

theorem insertReservation_others (row : CashReservation) :
    (db.insertReservation row).others row.holder = db.others row.holder := by
  simp [others, insertReservation]

theorem updateReservation_others (holder : Holder) {change : CashReservation → CashReservation}
    (same : ∀ row, (change row).holder = row.holder) :
    (db.updateReservation holder.accountKey holder.executionId holder.clientOrderId change).others
      holder = db.others holder := by
  refine Prod.ext rfl ?_
  simp only [others, updateReservation, reservation_carries, List.filter_map]
  have holders : (fun row : CashReservation => decide (row.holder ≠ holder)) ∘ (fun row =>
      if row.holder = ⟨holder.accountKey, holder.executionId, holder.clientOrderId⟩ then change row
        else row) = fun row => decide (row.holder ≠ holder) := by
    funext row
    simp only [Function.comp]
    split_ifs
    · rw [same]
    · rfl
  rw [holders]
  refine (List.map_congr_left fun row listed => ?_).trans (List.map_id _)
  rw [if_neg]
  · rfl
  · exact of_decide_eq_true (List.mem_filter.1 listed).2

theorem prepareReservation_others {available required : ℚ}
    (done : db.prepareReservation accountKey executionId request available required = .ok after) :
    after.others ⟨accountKey, executionId, request.clientOrderId⟩ =
      db.others ⟨accountKey, executionId, request.clientOrderId⟩ := by
  unfold prepareReservation at done
  split at done
  · split_ifs at done
    cases done
    rfl
  · dsimp only at done
    split_ifs at done
    cases done
    exact insertReservation_others _

theorem restoreReservation_others (db : CoordinationStore) (accountKey executionId : String)
    (request : ExecutionRequest) (required : ℚ) :
    (db.restoreReservation accountKey executionId request required).others
        ⟨accountKey, executionId, request.clientOrderId⟩ =
      db.others ⟨accountKey, executionId, request.clientOrderId⟩ := by
  unfold restoreReservation
  split
  · exact insertReservation_others _
  · exact updateReservation_others ⟨accountKey, executionId, request.clientOrderId⟩ fun _ => rfl

theorem updateFinality_others (keyed : Keyed SymbolClaim.slot db.symbolClaim)
    {finality : ExecutionFinality}
    (done : db.updateFinality accountKey executionId request finality = .ok after) :
    after.others ⟨accountKey, executionId, request.clientOrderId⟩ =
      db.others ⟨accountKey, executionId, request.clientOrderId⟩ := by
  unfold updateFinality at done
  obtain ⟨-, -, done⟩ := except_bind done
  dsimp only at done
  have deactivated : ∀ row : CashReservation, (if row.active then { row with active := false }
      else row).holder = row.holder := by
    intro row
    split_ifs <;> rfl
  split_ifs at done with foreign resolved held missing
  · cases done
    rw [updateReservation_others ⟨accountKey, executionId, request.clientOrderId⟩ deactivated]
    exact deleteClaim_others ⟨accountKey, executionId, request.clientOrderId⟩ _
  · cases done
    exact updateReservation_others ⟨accountKey, executionId, request.clientOrderId⟩ deactivated
  · cases done
    obtain ⟨claim, found⟩ := Option.ne_none_iff_exists'.1 (by simpa using missing)
    rw [found] at foreign
    rw [← (claim_carries (claimOf_some found).2).1 (by simpa using foreign)]
    exact setFinality_others keyed found finality

end CoordinationStore

theorem after_others {db : CoordinationStore} (keyed : Keyed SymbolClaim.slot db.symbolClaim)
    (call : CoordinatorCall) : (db.after call).others call.holder = db.others call.holder := by
  unfold CoordinationStore.after
  cases done : call.execute db with
  | error exc => rfl
  | ok after =>
      cases call with
      | prepare accountKey executionId request brokerAvailableCash requiredCash =>
          obtain ⟨-, -, done⟩ := except_bind done
          cases side : request.side with
          | sell =>
              rw [side] at done
              exact prepareClaim_others done
          | buy =>
              rw [side] at done
              obtain ⟨_, -, done⟩ := except_bind done
              obtain ⟨_, -, done⟩ := except_bind done
              obtain ⟨middle, claimed, done⟩ := except_bind done
              exact (prepareReservation_others done).trans (prepareClaim_others claimed)
      | restore accountKey executionId request requiredCash finality =>
          obtain ⟨-, -, done⟩ := except_bind done
          split_ifs at done with resolved
          · exact updateFinality_others keyed done
          · cases side : request.side with
            | sell =>
                rw [side] at done
                exact restoreClaim_others keyed done
            | buy =>
                rw [side] at done
                obtain ⟨_, -, done⟩ := except_bind done
                obtain ⟨middle, claimed, done⟩ := except_bind done
                cases done
                exact (restoreReservation_others ..).trans (restoreClaim_others keyed claimed)
      | updateFinality accountKey executionId request finality =>
          exact updateFinality_others keyed done

end QmtExecution
