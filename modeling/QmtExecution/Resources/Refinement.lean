import QmtExecution.Formal.Processes
import QmtExecution.Resources.Coupling

/-! The coordinator decides as the resource model does: reading a process as held when the claim
of its symbol carries its identity. -/

namespace QmtExecution

open Resources CoordinationStore

structure Process where
  accountKey : String
  executionId : String
  request : ExecutionRequest
  requiredCash : ℕ
  accountKey_ne : accountKey ≠ ""
  executionId_ne : executionId ≠ ""

namespace Process

def holder (process : Process) : Holder :=
  ⟨process.accountKey, process.executionId, process.request.clientOrderId⟩

def spec (process : Process) : Formal.FormalProcessSpec String String :=
  ⟨process.accountKey, process.request.symbol, process.request.side, process.requiredCash⟩

/-- The transaction is one of the process: for its request, and for a BUY for its cash. -/
structure Issues (process : Process) (call : CoordinatorCall) : Prop where
  accountKey : call.accountKey = process.accountKey
  executionId : call.executionId = process.executionId
  request : call.request = process.request
  requiredCash : process.request.side = .buy → ∀ amount, call.requiredCash = some amount →
    amount = .finite process.requiredCash

theorem Issues.holder {process : Process} {call : CoordinatorCall} (issued : process.Issues call) :
    call.holder = process.holder := by
  simp only [CoordinatorCall.holder, Process.holder, issued.accountKey, issued.executionId,
    issued.request]

end Process

def CoordinatorCall.prepares : CoordinatorCall → Bool
  | prepare _ _ _ _ _ => true
  | restore _ _ _ _ _ | updateFinality _ _ _ _ => false

variable {n : ℕ} {processes : Fin n → Process} {released : List Holder}
  {db after : CoordinationStore}

/-- The tables after some transactions of the processes, and who has released. Nobody
prepares again after a release; a transaction that raises is rolled back. -/
inductive Played (processes : Fin n → Process) : List Holder → CoordinationStore → Prop
  | created : Played processes [] {}
  | committed {released : List Holder} {db after : CoordinationStore} {call : CoordinatorCall}
      {index : Fin n} (run : Played processes released db)
      (issued : (processes index).Issues call)
      (fresh : call.prepares = true → call.holder ∉ released)
      (done : call.execute db = .ok after) :
      Played processes (if call.releases then call.holder :: released else released) after
  | raised {released : List Holder} {db : CoordinationStore} (call : CoordinatorCall)
      (run : Played processes released db) : Played processes released db

def heldBy (processes : Fin n → Process) (db : CoordinationStore) (index : Fin n) : Bool :=
  (db.claimOf (processes index).accountKey (processes index).request.symbol).any fun claim =>
    claim.carries (processes index).executionId (processes index).request.clientOrderId

def specs (processes : Fin n → Process) (index : Fin n) : Formal.FormalProcessSpec String String :=
  (processes index).spec

noncomputable def requestOf (processes : Fin n → Process) : Holder → ExecutionRequest :=
  Function.extend (fun index => (processes index).holder) (fun index => (processes index).request)
    fun _ => sampleRequest

theorem requestOf_holder (distinct : Function.Injective fun index => (processes index).holder)
    (index : Fin n) : requestOf processes (processes index).holder = (processes index).request :=
  distinct.extend_apply _ _ index

/-- What holds of the tables while only the processes use them: every row is of a process, a
reservation is of what the process costs, and is inactive only after a release. -/
structure Modelled (processes : Fin n → Process) (released : List Holder)
    (db : CoordinationStore) : Prop where
  coupled : Coupled (requestOf processes) db
  owned : ∀ entry ∈ db.claimed, ∃ index, entry.1 = (processes index).holder
  priced : ∀ row ∈ db.cashReservation, ∃ index, row.holder = (processes index).holder ∧
    row.requiredCash = (processes index).requiredCash
  lapsed : ∀ row ∈ db.cashReservation, row.active = false → row.holder ∈ released

theorem Modelled.empty : Modelled processes [] {} :=
  ⟨.empty _, by simp [claimed], by simp, by simp⟩

namespace CoordinationStore

variable {holder : Holder} {symbol : String} {amount : ℚ}

theorem Reserves.priced (reserves : Reserves db after holder symbol amount)
    (same : ∀ row ∈ db.cashReservation, row.holder = holder → row.requiredCash = amount)
    {row : CashReservation} (member : row ∈ after.cashReservation) :
    row.holder = holder ∧ row.requiredCash = amount ∨
      ∃ earlier ∈ db.cashReservation, row.holder = earlier.holder ∧
        row.requiredCash = earlier.requiredCash := by
  rcases reserves with ⟨-, kept⟩ | ⟨-, added⟩ | ⟨own, listed, mine, renewed⟩
  · exact .inr ⟨row, kept ▸ member, rfl, rfl⟩
  · rw [added, List.mem_append, List.mem_singleton] at member
    rcases member with member | rfl
    · exact .inr ⟨row, member, rfl, rfl⟩
    · exact .inl ⟨rfl, rfl⟩
  · rw [renewed] at member
    obtain ⟨earlier, present, rfl⟩ := List.mem_map.1 member
    split_ifs with foreign
    · refine .inl ⟨foreign, ?_⟩
      rw [same own listed mine, max_self]
    · exact .inr ⟨earlier, present, rfl, rfl⟩

theorem Reserves.inactive (reserves : Reserves db after holder symbol amount)
    {row : CashReservation} (member : row ∈ after.cashReservation) (inactive : row.active = false) :
    row ∈ db.cashReservation := by
  rcases reserves with ⟨-, kept⟩ | ⟨-, added⟩ | ⟨own, -, -, renewed⟩
  · exact kept ▸ member
  · rw [added, List.mem_append, List.mem_singleton] at member
    rcases member with member | rfl
    · exact member
    · cases inactive
  · rw [renewed] at member
    obtain ⟨earlier, present, rfl⟩ := List.mem_map.1 member
    split_ifs at inactive ⊢ with mine
    exact present

theorem Releases.inactive (releases : Releases db after holder symbol) {row : CashReservation}
    (member : row ∈ after.cashReservation) : row.holder = holder ∨ row ∈ db.cashReservation := by
  rw [releases.2.2] at member
  obtain ⟨earlier, present, rfl⟩ := List.mem_map.1 member
  split_ifs with mine
  · exact .inl mine
  · exact .inr present

theorem Releases.cash (releases : Releases db after holder symbol) {row : CashReservation}
    (member : row ∈ after.cashReservation) :
    ∃ earlier ∈ db.cashReservation, row.holder = earlier.holder ∧
      row.requiredCash = earlier.requiredCash := by
  rw [releases.2.2] at member
  obtain ⟨earlier, present, rfl⟩ := List.mem_map.1 member
  refine ⟨earlier, present, ?_⟩
  split_ifs <;> exact ⟨rfl, rfl⟩

end CoordinationStore

section Step

variable (distinct : Function.Injective fun index => (processes index).holder)
  {call : CoordinatorCall} {index : Fin n} (issued : (processes index).Issues call)
  (modelled : Modelled processes released db) (done : call.execute db = .ok after)

include distinct issued modelled done

theorem issued_ok :
    Coupled (requestOf processes) after ∧
    if call.releases then
      Releases db after (processes index).holder (processes index).request.symbol
    else Marks db after (processes index).holder (processes index).request.symbol ∨
      Claims db after (processes index).holder (processes index).request.symbol ∧
        match (processes index).request.side with
        | .buy => Reserves db after (processes index).holder (processes index).request.symbol
            (processes index).requiredCash
        | .sell => after.cashReservation = db.cashReservation := by
  have effect := execute_ok done
  rw [issued.holder, issued.request] at effect
  refine ⟨modelled.coupled.execute ?_ done, ?_⟩
  · rw [issued.holder, requestOf_holder distinct, issued.request]
  · split_ifs at effect ⊢
    · exact effect
    · refine effect.imp_right fun ⟨claims, reserves⟩ => ⟨claims, ?_⟩
      cases side : (processes index).request.side with
      | sell => simpa only [side] using reserves
      | buy =>
          rw [side] at reserves
          obtain ⟨amount, asked, reserves⟩ := reserves
          cases issued.requiredCash side _ asked
          exact reserves

/-- A committed transaction of a process keeps what holds of the tables. -/
theorem Modelled.execute :
    Modelled processes (if call.releases then call.holder :: released else released) after := by
  obtain ⟨coupled, effect⟩ := issued_ok distinct issued modelled done
  split_ifs at effect ⊢
  · refine ⟨coupled, fun entry member => ?_, fun row member => ?_, fun row member inactive => ?_⟩
    · exact modelled.owned entry (effect.claimed_iff.1 member).1
    · obtain ⟨earlier, present, same, cash⟩ := effect.cash member
      rw [same, cash]
      exact modelled.priced earlier present
    · rw [issued.holder, List.mem_cons]
      rcases effect.inactive member with own | present
      · exact .inl own
      · exact .inr (modelled.lapsed row present inactive)
  · rcases effect with ⟨-, claims, rows⟩ | ⟨claims, reserves⟩
    · exact ⟨coupled, claims ▸ modelled.owned, rows ▸ modelled.priced, rows ▸ modelled.lapsed⟩
    · have owned : ∀ entry ∈ after.claimed, ∃ index, entry.1 = (processes index).holder := by
        intro entry member
        rcases claims.claimed_iff.1 member with earlier | rfl
        · exact modelled.owned entry earlier
        · exact ⟨index, rfl⟩
      cases side : (processes index).request.side with
      | sell =>
          rw [side] at reserves
          exact ⟨coupled, owned, reserves ▸ modelled.priced, reserves ▸ modelled.lapsed⟩
      | buy =>
          simp only [side] at reserves
          refine ⟨coupled, owned, fun row member => ?_, fun row member inactive => ?_⟩
          · have same : ∀ row ∈ db.cashReservation, row.holder = (processes index).holder →
                row.requiredCash = (processes index).requiredCash := by
              intro row present own
              obtain ⟨other, owner, cash⟩ := modelled.priced row present
              rw [cash, distinct (own.symm.trans owner)]
            rcases reserves.priced same member with ⟨own, cash⟩ | ⟨earlier, present, own, cash⟩
            · exact ⟨index, own, cash⟩
            · rw [own, cash]
              exact modelled.priced earlier present
          · exact modelled.lapsed row (reserves.inactive member inactive) inactive

end Step

theorem Played.modelled (distinct : Function.Injective fun index => (processes index).holder)
    (played : Played processes released db) : Modelled processes released db := by
  induction played with
  | created => exact .empty
  | committed run issued fresh done ih => exact ih.execute distinct issued done
  | raised call run ih => exact ih

theorem Modelled.heldBy_iff (modelled : Modelled processes released db) {index : Fin n} :
    heldBy processes db index = true ↔
      ((processes index).holder, (processes index).request.symbol) ∈ db.claimed := by
  simp only [heldBy, Option.any_eq_true]
  constructor
  · rintro ⟨claim, found, own⟩
    obtain ⟨member, slot⟩ := claimOf_some found
    exact claimed_of_slot member ((claim_carries slot).1 own) slot
  · intro member
    obtain ⟨claim, listed, same⟩ := List.mem_map.1 member
    obtain ⟨holder, symbol⟩ := Prod.mk.inj same
    have slot : claim.slot = ((processes index).accountKey, (processes index).request.symbol) :=
      Prod.ext (congrArg Holder.accountKey holder) symbol
    cases found : db.claimOf (processes index).accountKey (processes index).request.symbol with
    | none => exact absurd slot (claimOf_none.1 found claim listed)
    | some other =>
        obtain ⟨present, taken⟩ := claimOf_some found
        obtain rfl := modelled.coupled.keyed_slots.eq listed present (slot.trans taken.symm)
        exact ⟨claim, rfl, (claim_carries slot).2 holder⟩

section Reading

variable (distinct : Function.Injective fun index => (processes index).holder)
  (modelled : Modelled processes released db)

include distinct modelled

theorem Modelled.claim_held {claim : SymbolClaim} (member : claim ∈ db.symbolClaim) :
    ∃ index, claim.holder = (processes index).holder ∧
      claim.symbol = (processes index).request.symbol ∧ heldBy processes db index = true := by
  have listed : (claim.holder, claim.symbol) ∈ db.claimed := List.mem_map.2 ⟨claim, member, rfl⟩
  obtain ⟨index, owner⟩ := modelled.owned _ listed
  have symbol : claim.symbol = (processes index).request.symbol := by
    have carried := modelled.coupled.claims _ listed
    rwa [owner, requestOf_holder distinct] at carried
  refine ⟨index, owner, symbol, (modelled.heldBy_iff).2 ?_⟩
  rwa [← symbol, ← owner]

theorem Modelled.vacant_iff {index : Fin n} (idle : heldBy processes db index = false) :
    db.Vacant (processes index).holder (processes index).request.symbol ↔
      Formal.claimFree (heldBy processes db) (specs processes) index = true := by
  rw [Formal.claimFree_iff]
  constructor
  · intro vacant other different held account symbol
    obtain ⟨claim, listed, same⟩ := List.mem_map.1 ((modelled.heldBy_iff).1 held)
    obtain ⟨owner, carried⟩ := Prod.mk.inj same
    refine (vacant claim listed).2 (Prod.ext ?_ (carried.trans symbol))
    exact (congrArg Holder.accountKey owner).trans account
  · intro free claim member
    obtain ⟨other, owner, symbol, held⟩ := modelled.claim_held distinct member
    have different : other ≠ index := by
      rintro rfl
      rw [idle] at held
      cases held
    refine ⟨fun same => different (distinct (owner.symm.trans same)), fun slot => ?_⟩
    have account : claim.accountKey = (processes other).accountKey :=
      congrArg Holder.accountKey owner
    exact free other different held (account.symm.trans (congrArg Prod.fst slot))
      (symbol.symm.trans (congrArg Prod.snd slot))

theorem Modelled.unreserved {index : Fin n} (idle : heldBy processes db index = false)
    (fresh : (processes index).holder ∉ released) :
    ∀ row ∈ db.cashReservation, row.holder ≠ (processes index).holder := by
  intro row member own
  cases active : row.active with
  | false => exact fresh (own ▸ modelled.lapsed row member active)
  | true =>
      have buy := (modelled.coupled.buys row member).1
      rw [own] at buy
      have claimed := (modelled.coupled.active_iff _ buy).1 ⟨row, member, own, active⟩
      rw [requestOf_holder distinct, ← modelled.heldBy_iff, idle] at claimed
      cases claimed

theorem Modelled.activeReservedCash_eq (accountKey : String) :
    db.activeReservedCash accountKey =
      Formal.activeReservedCash (heldBy processes db) (specs processes) accountKey none := by
  have rows := modelled.coupled.rows.filter fun row => row.accountKey = accountKey && row.active
  have holders : Keyed (fun index => (processes index).holder) ((List.finRange n).filter
      (Formal.reserves (heldBy processes db) (specs processes) accountKey none)) :=
    ((List.nodup_finRange n).filter _).map distinct
  have same : ∀ holder, holder ∈ (db.cashReservation.filter fun row =>
      row.accountKey = accountKey && row.active).map CashReservation.holder ↔
        holder ∈ ((List.finRange n).filter (Formal.reserves (heldBy processes db)
          (specs processes) accountKey none)).map fun index => (processes index).holder := by
    intro holder
    simp only [List.mem_map, List.mem_filter, Bool.and_eq_true, decide_eq_true_eq,
      List.mem_finRange, true_and, Formal.reserves, Bool.not_eq_true', decide_eq_false_iff_not,
      reduceCtorEq, not_false_eq_true]
    constructor
    · rintro ⟨row, ⟨member, account, active⟩, rfl⟩
      obtain ⟨index, owner, -⟩ := modelled.priced row member
      have buy := (modelled.coupled.buys row member).1
      have claimed := (modelled.coupled.active_iff _ buy).1 ⟨row, member, rfl, active⟩
      rw [owner, requestOf_holder distinct] at buy claimed
      refine ⟨index, ⟨(modelled.heldBy_iff).2 claimed, ?_, buy⟩, owner.symm⟩
      exact (congrArg Holder.accountKey owner).symm.trans account
    · rintro ⟨index, ⟨held, account, buy⟩, rfl⟩
      have claimed := (modelled.heldBy_iff).1 held
      rw [← requestOf_holder distinct index] at claimed
      obtain ⟨row, member, own, active⟩ := (modelled.coupled.active_iff (processes index).holder
        (by rw [requestOf_holder distinct]; exact buy)).2 claimed
      exact ⟨row, ⟨member, (congrArg Holder.accountKey own).trans account, active⟩, own⟩
  have sums := rows.sum_eq holders same db.reserved
  have left : (db.cashReservation.filter fun row =>
      row.accountKey = accountKey && row.active).map CashReservation.requiredCash =
        (db.cashReservation.filter fun row => row.accountKey = accountKey && row.active).map
          fun row => db.reserved row.holder :=
    List.map_congr_left fun row listed =>
      (modelled.coupled.reserved_eq (List.mem_of_mem_filter listed)).symm
  rw [activeReservedCash, left, sums, Formal.activeReservedCash_list, Nat.cast_list_sum,
    List.map_map]
  refine congrArg List.sum (List.map_congr_left fun index listed => ?_)
  have there : (processes index).holder ∈ ((List.finRange n).filter (Formal.reserves
      (heldBy processes db) (specs processes) accountKey none)).map fun index =>
        (processes index).holder := List.mem_map_of_mem listed
  obtain ⟨row, present, own⟩ := List.mem_map.1 ((same _).2 there)
  have member := List.mem_of_mem_filter present
  obtain ⟨other, owner, cash⟩ := modelled.priced row member
  rw [← own, modelled.coupled.reserved_eq member, cash, distinct (own.symm.trans owner)]
  rfl

/-- The cash test of the coordinator is that of the model: whole amounts differ by more than
the tolerance or not at all. -/
theorem Modelled.affords_iff {index : Fin n} (idle : heldBy processes db index = false)
    (available : ℤ) :
    ((processes index).requiredCash : ℚ) ≤
        available - db.activeReservedCash (processes index).accountKey + epsilon ↔
      ((processes index).requiredCash : ℤ) ≤ available -
        Formal.activeReservedCash (heldBy processes db) (specs processes)
          (processes index).accountKey (some index) := by
  rw [modelled.activeReservedCash_eq distinct, Formal.activeReservedCash_some idle]
  generalize Formal.activeReservedCash (heldBy processes db) (specs processes)
    (processes index).accountKey none = active
  have tolerance : epsilon < 1 := by norm_num [epsilon]
  constructor
  · intro enough
    have strict : ((processes index).requiredCash : ℚ) < ((available - active + 1 : ℤ) : ℚ) := by
      push_cast
      linarith
    have whole : ((processes index).requiredCash : ℤ) < available - active + 1 := by
      exact_mod_cast strict
    omega
  · intro enough
    have positive : 0 ≤ epsilon := by norm_num [epsilon]
    have cast : ((processes index).requiredCash : ℚ) ≤ ((available - active : ℤ) : ℚ) := by
      exact_mod_cast enough
    push_cast at cast
    linarith

theorem Modelled.claims_held {index : Fin n} {others : List Holder}
    (kept : Modelled processes others after)
    (claims : Claims db after (processes index).holder (processes index).request.symbol) :
    heldBy processes after = Function.update (heldBy processes db) index true := by
  funext other
  rw [Bool.eq_iff_iff, kept.heldBy_iff, claims.claimed_iff, ← modelled.heldBy_iff]
  by_cases own : other = index
  · subst own
    simp
  · rw [Function.update_of_ne own]
    exact or_iff_left fun same => own (distinct (congrArg Prod.fst same))

theorem Modelled.releases_held {index : Fin n} {others : List Holder}
    (kept : Modelled processes others after)
    (releases : Releases db after (processes index).holder (processes index).request.symbol) :
    heldBy processes after = Function.update (heldBy processes db) index false := by
  funext other
  rw [Bool.eq_iff_iff, kept.heldBy_iff, releases.claimed_iff, ← modelled.heldBy_iff]
  by_cases own : other = index
  · subst own
    simp
  · rw [Function.update_of_ne own]
    exact and_iff_left fun same => own (distinct (congrArg Prod.fst same))

theorem Modelled.insertClaim {index : Fin n} (idle : heldBy processes db index = false)
    (free : Formal.claimFree (heldBy processes db) (specs processes) index = true)
    (finality : ExecutionFinality) (failure : String) :
    db.claimOf (processes index).accountKey (processes index).request.symbol = none ∧
      ∃ after, db.insertClaim ⟨(processes index).accountKey, (processes index).request.symbol,
        (processes index).executionId, (processes index).request.clientOrderId, finality⟩ failure =
          .ok after ∧ after.cashReservation = db.cashReservation := by
  have vacant := (modelled.vacant_iff distinct idle).2 free
  exact ⟨vacant.claimOf, _, insertClaim_vacant vacant failure, rfl⟩

theorem Modelled.claimFree_of_claims {index : Fin n} (idle : heldBy processes db index = false)
    (claims : Claims db after (processes index).holder (processes index).request.symbol) :
    Formal.claimFree (heldBy processes db) (specs processes) index = true := by
  rcases claims with ⟨member, -⟩ | ⟨vacant, -⟩
  · rw [← modelled.heldBy_iff, idle] at member
    cases member
  · exact (modelled.vacant_iff distinct idle).1 vacant

theorem Modelled.prepare_iff {index : Fin n} (idle : heldBy processes db index = false)
    (fresh : (processes index).holder ∉ released) (available : ℤ) :
    (∃ after, db.prepare (processes index).accountKey (processes index).executionId
        (processes index).request (.finite available) (.finite (processes index).requiredCash) =
          .ok after) ↔
      Formal.canPrepare (heldBy processes db) (specs processes) available index = true := by
  have unreserved := modelled.unreserved distinct idle fresh
  have affords := modelled.affords_iff distinct idle available
  rw [Formal.canPrepare_iff]
  constructor
  · rintro ⟨after, done⟩
    obtain ⟨claims, reserves⟩ := prepare_ok done
    refine ⟨modelled.claimFree_of_claims distinct idle claims, fun buy => ?_⟩
    have side : (processes index).request.side = .buy := buy
    simp only [side] at reserves
    obtain ⟨_, _, offered, asked, -, -, enough⟩ := reserves
    cases offered
    cases asked
    exact affords.1 (enough unreserved)
  · rintro ⟨free, enough⟩
    obtain ⟨none, middle, inserted, kept⟩ := modelled.insertClaim distinct idle free .open
      "coordination prepare transaction failed"
    have identity : validateIdentity (processes index).accountKey (processes index).executionId =
        .ok () := by
      simp only [validateIdentity, (processes index).accountKey_ne,
        (processes index).executionId_ne, if_false]
    have claimed : db.prepareClaim (processes index).accountKey (processes index).executionId
        (processes index).request = .ok middle := by
      simp only [prepareClaim, none, inserted]
    unfold prepare
    rw [identity]
    cases side : (processes index).request.side with
    | sell => exact ⟨middle, claimed⟩
    | buy =>
        have affordable := enough side
        have offered : ¬ (available : ℚ) < 0 := by
          have nonneg : 0 ≤ available := by
            have reserved := Nat.cast_nonneg (α := ℤ) (Formal.activeReservedCash
              (heldBy processes db) (specs processes) (processes index).accountKey (some index))
            have asked := Nat.cast_nonneg (α := ℤ) (processes index).requiredCash
            simp only [specs, Process.spec] at affordable
            omega
          exact_mod_cast not_lt.2 nonneg
        have missing : middle.reservationOf (processes index).accountKey
            (processes index).executionId (processes index).request.clientOrderId = Option.none := by
          rw [reservationOf_none, kept]
          exact unreserved
        have short : ¬ available - middle.activeReservedCash (processes index).accountKey + epsilon <
            (processes index).requiredCash := by
          simp only [activeReservedCash, kept]
          exact not_lt.2 (affords.2 affordable)
        have costs : ¬ ((processes index).requiredCash : ℚ) < 0 := not_lt.2 (Nat.cast_nonneg _)
        refine ⟨middle.insertReservation ⟨(processes index).accountKey,
          (processes index).executionId, (processes index).request.clientOrderId,
          (processes index).request.symbol, (processes index).requiredCash, true⟩, ?_⟩
        simp only [finiteNonNegative, offered, costs, if_false, bind, Except.bind, claimed,
          prepareReservation, missing, short]

theorem Modelled.restore_iff {index : Fin n} (idle : heldBy processes db index = false)
    {finality : ExecutionFinality} (unresolved : finality ≠ .resolved) :
    (∃ after, db.restore (processes index).accountKey (processes index).executionId
        (processes index).request (.finite (processes index).requiredCash) finality = .ok after) ↔
      Formal.canRestore (heldBy processes db) (specs processes) index = true := by
  constructor
  · rintro ⟨after, done⟩
    exact modelled.claimFree_of_claims distinct idle (restore_ok unresolved done).1
  · intro free
    obtain ⟨none, middle, inserted, -⟩ := modelled.insertClaim distinct idle free finality
      "coordination restore transaction failed"
    have identity : validateIdentity (processes index).accountKey (processes index).executionId =
        .ok () := by
      simp only [validateIdentity, (processes index).accountKey_ne,
        (processes index).executionId_ne, if_false]
    have claimed : db.restoreClaim (processes index).accountKey (processes index).executionId
        (processes index).request finality = .ok middle := by
      simp only [restoreClaim, none, inserted]
    have costs : ¬ ((processes index).requiredCash : ℚ) < 0 := not_lt.2 (Nat.cast_nonneg _)
    unfold restore
    rw [identity]
    simp only [unresolved, if_false, bind, Except.bind]
    cases side : (processes index).request.side with
    | sell => exact ⟨middle, claimed⟩
    | buy =>
        refine ⟨middle.restoreReservation (processes index).accountKey
          (processes index).executionId (processes index).request
            (processes index).requiredCash, ?_⟩
        simp only [finiteNonNegative, costs, if_false, claimed]

theorem Modelled.held_after {call : CoordinatorCall} {index : Fin n}
    (issued : (processes index).Issues call) (done : call.execute db = .ok after) :
    heldBy processes after = Function.update (heldBy processes db) index (!call.releases) := by
  have kept := modelled.execute distinct issued done
  obtain ⟨-, effect⟩ := issued_ok distinct issued modelled done
  cases releases : call.releases with
  | true =>
      rw [releases, if_pos rfl] at effect kept
      exact modelled.releases_held distinct kept effect
  | false =>
      rw [releases, if_neg Bool.false_ne_true] at effect kept
      have claims := effect.elim (fun marks => .inl ⟨marks.1, marks.2.1⟩) And.left
      exact modelled.claims_held distinct kept claims

end Reading

/-- The coordinator refines the resource model, whatever the processes have done before: a
process that is not held prepares or restores exactly when the model lets it, a transaction
that commits changes its own flag as in the model, and one that raises changes none. -/
theorem coordinator_refines (distinct : Function.Injective fun index => (processes index).holder)
    (played : Played processes released db) (index : Fin n) :
    (heldBy processes db index = false →
      ((processes index).holder ∉ released → ∀ available : ℤ,
        (∃ after, db.prepare (processes index).accountKey (processes index).executionId
            (processes index).request (.finite available)
            (.finite (processes index).requiredCash) = .ok after) ↔
          Formal.canPrepare (heldBy processes db) (specs processes) available index = true) ∧
      ∀ finality : ExecutionFinality, finality ≠ .resolved →
        ((∃ after, db.restore (processes index).accountKey (processes index).executionId
            (processes index).request (.finite (processes index).requiredCash) finality =
              .ok after) ↔
          Formal.canRestore (heldBy processes db) (specs processes) index = true)) ∧
      ∀ call : CoordinatorCall, (processes index).Issues call →
        (∀ after, call.execute db = .ok after → heldBy processes after =
          Function.update (heldBy processes db) index (!call.releases)) ∧
        ∀ exc, call.execute db = .error exc →
          heldBy processes (db.after call) = heldBy processes db := by
  have modelled := played.modelled distinct
  refine ⟨fun idle => ⟨fun fresh available => ?_, fun finality unresolved => ?_⟩,
    fun call issued => ⟨fun after done => ?_, fun exc raised => ?_⟩⟩
  · exact modelled.prepare_iff distinct idle fresh available
  · exact modelled.restore_iff distinct idle unresolved
  · exact modelled.held_after distinct issued done
  · rw [CoordinationStore.after, raised]

def contenders : Fin 2 → Process :=
  ![⟨"a1", "e1", sampleRequest, 10, sampleAccount_ne, by decide⟩,
    ⟨"a1", "e2", laterRequest, 10, sampleAccount_ne, by decide⟩]

theorem coordinator_refines_contended :
    ¬ ∃ after, boughtTables.prepare "a1" "e2" laterRequest (.finite (100 : ℤ))
      (.finite (10 : ℕ)) = .ok after := by
  have distinct : Function.Injective fun index => (contenders index).holder := by decide +kernel
  have issued : (contenders 0).Issues
      (.prepare "a1" "e1" sampleRequest (.finite 100) (.finite 10)) := by
    refine ⟨rfl, rfl, rfl, fun _ amount asked => ?_⟩
    cases asked
    rfl
  have done : (CoordinatorCall.prepare "a1" "e1" sampleRequest (.finite 100) (.finite 10)).execute
      {} = .ok boughtTables := by decide +kernel
  have played : Played contenders [] boughtTables :=
    .committed .created issued (by decide +kernel) done
  have refines := coordinator_refines distinct played 1
  have decided := (refines.1 (by decide +kernel)).1 (by decide +kernel) 100
  exact decided.not.2 (by decide +kernel)

end QmtExecution
