import QmtExecution.Protocol.Environment
import QmtExecution.Resources.Rows

/-! The two tables of the coordinator agree: whoever claims a symbol for a BUY has cash
reserved, and nobody else has. -/

namespace QmtExecution

open Resources CoordinationStore

namespace CoordinationStore

def Active (db : CoordinationStore) (holder : Holder) : Prop :=
  ∃ row ∈ db.cashReservation, row.holder = holder ∧ row.active = true

/-- Where an identity only ever stands for one request, the tables have no two rows for a
symbol of an account or for an identity, the rows carry the symbol of the request, and an
identity that buys has active cash exactly when it has its symbol. -/
structure Coupled (assigned : Holder → ExecutionRequest) (db : CoordinationStore) : Prop where
  slots : Keyed (fun entry : Holder × String => (entry.1.accountKey, entry.2)) db.claimed
  holders : Keyed Prod.fst db.claimed
  rows : Keyed CashReservation.holder db.cashReservation
  claims : ∀ entry ∈ db.claimed, entry.2 = (assigned entry.1).symbol
  buys : ∀ row ∈ db.cashReservation,
    (assigned row.holder).side = .buy ∧ row.symbol = (assigned row.holder).symbol
  active_iff : ∀ holder, (assigned holder).side = .buy →
    (db.Active holder ↔ (holder, (assigned holder).symbol) ∈ db.claimed)

theorem Coupled.empty (assigned : Holder → ExecutionRequest) : Coupled assigned {} where
  slots := .nil
  holders := .nil
  rows := .nil
  claims := by simp [claimed]
  buys := by simp
  active_iff := by simp [Active, claimed]

theorem vacant_iff {db : CoordinationStore} {holder : Holder} {symbol : String} :
    db.Vacant holder symbol ↔ ∀ entry ∈ db.claimed,
      entry.1 ≠ holder ∧ (entry.1.accountKey, entry.2) ≠ (holder.accountKey, symbol) := by
  simp only [Vacant, claimed, List.forall_mem_map]
  exact Iff.rfl

section Step

variable {assigned : Holder → ExecutionRequest} {db after : CoordinationStore}
  {holder other : Holder}

theorem Claims.claimed_iff {symbol : String} (claims : Claims db after holder symbol)
    {entry : Holder × String} :
    entry ∈ after.claimed ↔ entry ∈ db.claimed ∨ entry = (holder, symbol) := by
  rcases claims with ⟨member, same⟩ | ⟨-, same⟩
  · rw [same]
    exact ⟨.inl, fun listed => listed.elim id (· ▸ member)⟩
  · rw [same, List.mem_append, List.mem_singleton]

theorem Claims.keyed {symbol : String} (claims : Claims db after holder symbol)
    (slots : Keyed (fun entry : Holder × String => (entry.1.accountKey, entry.2)) db.claimed)
    (holders : Keyed Prod.fst db.claimed) :
    Keyed (fun entry : Holder × String => (entry.1.accountKey, entry.2)) after.claimed ∧
      Keyed Prod.fst after.claimed := by
  rcases claims with ⟨-, same⟩ | ⟨vacant, same⟩
  · rw [same]
    exact ⟨slots, holders⟩
  · rw [same]
    have free := vacant_iff.1 vacant
    exact ⟨slots.append fun entry member => (free entry member).2,
      holders.append fun entry member => (free entry member).1⟩

theorem Reserves.keyed {symbol : String} {amount : ℚ} (reserves : Reserves db after holder symbol amount)
    (rows : Keyed CashReservation.holder db.cashReservation) :
    Keyed CashReservation.holder after.cashReservation := by
  rcases reserves with ⟨-, same⟩ | ⟨fresh, same⟩ | ⟨row, -, -, same⟩
  · rwa [same]
  · rw [same]
    exact rows.append fresh
  · rw [same]
    refine rows.map fun other => ?_
    split_ifs <;> rfl

theorem Reserves.rows {symbol : String} {amount : ℚ} (reserves : Reserves db after holder symbol amount)
    {row : CashReservation} (member : row ∈ after.cashReservation) :
    row.holder = holder ∧ row.symbol = symbol ∨
      ∃ earlier ∈ db.cashReservation, row.holder = earlier.holder ∧ row.symbol = earlier.symbol := by
  rcases reserves with ⟨-, same⟩ | ⟨-, same⟩ | ⟨own, -, -, same⟩
  · exact .inr ⟨row, same ▸ member, rfl, rfl⟩
  · rw [same, List.mem_append, List.mem_singleton] at member
    rcases member with member | rfl
    · exact .inr ⟨row, member, rfl, rfl⟩
    · exact .inl ⟨rfl, rfl⟩
  · rw [same] at member
    obtain ⟨earlier, listed, rfl⟩ := List.mem_map.1 member
    refine .inr ⟨earlier, listed, ?_⟩
    split_ifs <;> exact ⟨rfl, rfl⟩

theorem Reserves.active {symbol : String} {amount : ℚ}
    (reserves : Reserves db after holder symbol amount) : after.Active holder := by
  rcases reserves with ⟨⟨row, member, own, active, -⟩, same⟩ | ⟨-, same⟩ | ⟨row, member, own, same⟩
  · exact ⟨row, same ▸ member, own, active⟩
  · exact ⟨_, same ▸ List.mem_append_right _ (List.mem_singleton_self _), rfl, rfl⟩
  · refine ⟨_, same ▸ List.mem_map_of_mem member, ?_⟩
    rw [if_pos own]
    exact ⟨own, rfl⟩

theorem Reserves.active_other {symbol : String} {amount : ℚ}
    (reserves : Reserves db after holder symbol amount) (different : other ≠ holder) :
    after.Active other ↔ db.Active other := by
  rcases reserves with ⟨-, same⟩ | ⟨-, same⟩ | ⟨row, -, -, same⟩
  · simp only [Active, same]
  · simp only [Active, same, List.mem_append, List.mem_singleton]
    constructor
    · rintro ⟨row, member | rfl, own, active⟩
      · exact ⟨row, member, own, active⟩
      · exact absurd own.symm different
    · rintro ⟨row, member, own, active⟩
      exact ⟨row, .inl member, own, active⟩
  · simp only [Active, same, List.mem_map, exists_exists_and_eq_and]
    refine exists_congr fun earlier => and_congr_right fun _ => ?_
    split_ifs with own
    · exact ⟨fun found => absurd (found.1.symm.trans own) different,
        fun found => absurd (found.1.symm.trans own) different⟩
    · exact Iff.rfl

theorem Releases.claimed_iff {symbol : String} (releases : Releases db after holder symbol)
    {entry : Holder × String} :
    entry ∈ after.claimed ↔ entry ∈ db.claimed ∧ entry ≠ (holder, symbol) := by
  rw [releases.2.1, List.mem_filter, decide_eq_true_eq]

theorem Releases.rows {symbol : String} (releases : Releases db after holder symbol)
    {row : CashReservation} (member : row ∈ after.cashReservation) :
    ∃ earlier ∈ db.cashReservation, row.holder = earlier.holder ∧ row.symbol = earlier.symbol := by
  rw [releases.2.2] at member
  obtain ⟨earlier, listed, rfl⟩ := List.mem_map.1 member
  refine ⟨earlier, listed, ?_⟩
  split_ifs <;> exact ⟨rfl, rfl⟩

theorem Releases.not_active {symbol : String} (releases : Releases db after holder symbol) :
    ¬ after.Active holder := by
  rintro ⟨row, member, own, active⟩
  rw [releases.2.2] at member
  obtain ⟨earlier, -, rfl⟩ := List.mem_map.1 member
  split_ifs at own active with mine
  exact mine own

theorem Releases.active_other {symbol : String} (releases : Releases db after holder symbol)
    (different : other ≠ holder) : after.Active other ↔ db.Active other := by
  simp only [Active, releases.2.2, List.mem_map, exists_exists_and_eq_and]
  refine exists_congr fun earlier => and_congr_right fun _ => ?_
  split_ifs with own
  · exact ⟨fun found => absurd (found.1.symm.trans own) different,
      fun found => absurd (found.1.symm.trans own) different⟩
  · exact Iff.rfl

theorem Coupled.release (coupled : Coupled assigned db)
    (releases : Releases db after holder (assigned holder).symbol) : Coupled assigned after where
  slots := releases.2.1 ▸ coupled.slots.filter _
  holders := releases.2.1 ▸ coupled.holders.filter _
  rows := by
    rw [releases.2.2]
    refine coupled.rows.map fun row => ?_
    split_ifs <;> rfl
  claims entry member := coupled.claims entry (releases.claimed_iff.1 member).1
  buys row member := by
    obtain ⟨earlier, listed, same, symbol⟩ := releases.rows member
    rw [same, symbol]
    exact coupled.buys earlier listed
  active_iff other buy := by
    rw [releases.claimed_iff]
    by_cases own : other = holder
    · subst own
      exact ⟨fun active => absurd active releases.not_active, fun found => absurd rfl found.2⟩
    · rw [releases.active_other own, coupled.active_iff other buy]
      exact ⟨fun member => ⟨member, fun same => own (congrArg Prod.fst same)⟩, And.left⟩

theorem Coupled.mark (coupled : Coupled assigned db) {symbol : String}
    (marks : Marks db after holder symbol) : Coupled assigned after where
  slots := marks.2.1 ▸ coupled.slots
  holders := marks.2.1 ▸ coupled.holders
  rows := marks.2.2 ▸ coupled.rows
  claims := marks.2.1 ▸ coupled.claims
  buys := marks.2.2 ▸ coupled.buys
  active_iff other buy := by
    simp only [Active, marks.2.1, marks.2.2]
    exact coupled.active_iff other buy

theorem Coupled.sell (coupled : Coupled assigned db)
    (claims : Claims db after holder (assigned holder).symbol)
    (side : (assigned holder).side = .sell) (same : after.cashReservation = db.cashReservation) :
    Coupled assigned after where
  slots := (claims.keyed coupled.slots coupled.holders).1
  holders := (claims.keyed coupled.slots coupled.holders).2
  rows := same ▸ coupled.rows
  claims entry member := by
    rcases claims.claimed_iff.1 member with earlier | rfl
    · exact coupled.claims entry earlier
    · rfl
  buys := same ▸ coupled.buys
  active_iff other buy := by
    have different : other ≠ holder := by
      rintro rfl
      rw [side] at buy
      cases buy
    simp only [Active, same]
    rw [claims.claimed_iff]
    exact (coupled.active_iff other buy).trans ⟨.inl, fun found =>
      found.resolve_right fun equal => different (congrArg Prod.fst equal)⟩

theorem Coupled.buy (coupled : Coupled assigned db)
    (claims : Claims db after holder (assigned holder).symbol)
    (side : (assigned holder).side = .buy) {amount : ℚ}
    (reserves : Reserves db after holder (assigned holder).symbol amount) :
    Coupled assigned after where
  slots := (claims.keyed coupled.slots coupled.holders).1
  holders := (claims.keyed coupled.slots coupled.holders).2
  rows := reserves.keyed coupled.rows
  claims entry member := by
    rcases claims.claimed_iff.1 member with earlier | rfl
    · exact coupled.claims entry earlier
    · rfl
  buys row member := by
    rcases reserves.rows member with ⟨own, symbol⟩ | ⟨earlier, listed, same, symbol⟩
    · rw [own]
      exact ⟨side, symbol⟩
    · rw [same, symbol]
      exact coupled.buys earlier listed
  active_iff other buy := by
    rw [claims.claimed_iff]
    by_cases own : other = holder
    · subst own
      exact ⟨fun _ => .inr rfl, fun _ => reserves.active⟩
    · rw [reserves.active_other own, coupled.active_iff other buy]
      exact ⟨.inl, fun found => found.resolve_right fun equal => own (congrArg Prod.fst equal)⟩

/-- A committed transaction for the request of its identity keeps the tables in agreement. -/
theorem Coupled.execute (coupled : Coupled assigned db) {call : CoordinatorCall}
    (fixed : call.request = assigned call.holder) (done : call.execute db = .ok after) :
    Coupled assigned after := by
  have effect := execute_ok done
  rw [fixed] at effect
  split_ifs at effect
  · exact coupled.release effect
  · rcases effect with marks | ⟨claims, reserves⟩
    · exact coupled.mark marks
    · cases side : (assigned call.holder).side with
      | sell =>
          rw [side] at reserves
          exact coupled.sell claims side reserves
      | buy =>
          rw [side] at reserves
          obtain ⟨amount, -, reserves⟩ := reserves
          exact coupled.buy claims side reserves

end Step

/-- The tables after some transactions, of which any may have raised and been rolled back. -/
inductive Ran : List CoordinatorCall → CoordinationStore → Prop
  | created : Ran [] {}
  | committed {calls : List CoordinatorCall} {db after : CoordinationStore}
      {call : CoordinatorCall} (run : Ran calls db) (done : call.execute db = .ok after) :
      Ran (calls ++ [call]) after
  | raised {calls : List CoordinatorCall} {db : CoordinationStore} (call : CoordinatorCall)
      (run : Ran calls db) : Ran (calls ++ [call]) db

theorem Ran.coupled {assigned : Holder → ExecutionRequest} {calls : List CoordinatorCall}
    {db : CoordinationStore} (run : Ran calls db)
    (fixed : ∀ call ∈ calls, call.request = assigned call.holder) : Coupled assigned db := by
  induction run with
  | created => exact .empty assigned
  | committed run done ih =>
      have earlier := ih fun call member => fixed call (List.mem_append_left _ member)
      exact earlier.execute (fixed _ (List.mem_append_right _ (List.mem_singleton_self _))) done
  | raised call run ih => exact ih fun call member => fixed call (List.mem_append_left _ member)

def reserved (db : CoordinationStore) (holder : Holder) : ℚ :=
  match db.reservationOf holder.accountKey holder.executionId holder.clientOrderId with
  | some row => row.requiredCash
  | none => 0

def buyClaims (db : CoordinationStore) (assigned : Holder → ExecutionRequest)
    (accountKey : String) : List SymbolClaim :=
  db.symbolClaim.filter fun claim =>
    claim.accountKey = accountKey && (assigned claim.holder).side = .buy

theorem Coupled.keyed_claims {assigned : Holder → ExecutionRequest} {db : CoordinationStore}
    (coupled : Coupled assigned db) : Keyed SymbolClaim.holder db.symbolClaim := by
  have holders := coupled.holders
  rwa [Keyed, claimed, List.map_map] at holders

theorem Coupled.keyed_slots {assigned : Holder → ExecutionRequest} {db : CoordinationStore}
    (coupled : Coupled assigned db) : Keyed SymbolClaim.slot db.symbolClaim := by
  have slots := coupled.slots
  rwa [Keyed, claimed, List.map_map] at slots

theorem Coupled.claim_iff {assigned : Holder → ExecutionRequest} {db : CoordinationStore}
    (coupled : Coupled assigned db) {holder : Holder} :
    (holder, (assigned holder).symbol) ∈ db.claimed ↔
      ∃ claim ∈ db.symbolClaim, claim.holder = holder := by
  constructor
  · intro member
    obtain ⟨claim, listed, same⟩ := List.mem_map.1 member
    exact ⟨claim, listed, congrArg Prod.fst same⟩
  · rintro ⟨claim, listed, rfl⟩
    have member : (claim.holder, claim.symbol) ∈ db.claimed := List.mem_map.2 ⟨claim, listed, rfl⟩
    have carried : claim.symbol = (assigned claim.holder).symbol := coupled.claims _ member
    rwa [← carried]

theorem Coupled.reserved_eq {assigned : Holder → ExecutionRequest} {db : CoordinationStore}
    (coupled : Coupled assigned db) {row : CashReservation} (member : row ∈ db.cashReservation) :
    db.reserved row.holder = row.requiredCash := by
  unfold reserved
  split
  · rename_i other found
    obtain ⟨listed, same⟩ := reservationOf_some found
    rw [coupled.rows.eq listed member same]
  · rename_i missing
    exact absurd rfl (reservationOf_none.1 missing row member)

theorem Coupled.holders_iff {assigned : Holder → ExecutionRequest} {db : CoordinationStore}
    (coupled : Coupled assigned db) (accountKey : String) (holder : Holder) :
    holder ∈ (db.cashReservation.filter fun row =>
        row.accountKey = accountKey && row.active).map CashReservation.holder ↔
      holder ∈ (db.buyClaims assigned accountKey).map SymbolClaim.holder := by
  simp only [buyClaims, List.mem_map, List.mem_filter, Bool.and_eq_true, decide_eq_true_eq]
  constructor
  · rintro ⟨row, ⟨member, account, active⟩, rfl⟩
    have buy := (coupled.buys row member).1
    obtain ⟨claim, listed, same⟩ :=
      coupled.claim_iff.1 ((coupled.active_iff _ buy).1 ⟨row, member, rfl, active⟩)
    refine ⟨claim, ⟨listed, ?_, same ▸ buy⟩, same⟩
    exact (congrArg Holder.accountKey same).trans account
  · rintro ⟨claim, ⟨listed, account, buy⟩, rfl⟩
    obtain ⟨row, member, same, active⟩ :=
      (coupled.active_iff _ buy).2 (coupled.claim_iff.2 ⟨claim, listed, rfl⟩)
    exact ⟨row, ⟨member, (congrArg Holder.accountKey same).trans account, active⟩, same⟩

theorem Coupled.activeReservedCash_eq {assigned : Holder → ExecutionRequest}
    {db : CoordinationStore} (coupled : Coupled assigned db) (accountKey : String) :
    db.activeReservedCash accountKey =
      ((db.buyClaims assigned accountKey).map fun claim => db.reserved claim.holder).sum := by
  have rows := coupled.rows.filter fun row => row.accountKey = accountKey && row.active
  have claims := coupled.keyed_claims.filter fun claim =>
    claim.accountKey = accountKey && (assigned claim.holder).side = .buy
  have amounts : db.activeReservedCash accountKey =
      ((db.cashReservation.filter fun row => row.accountKey = accountKey && row.active).map
        fun row => db.reserved row.holder).sum := by
    refine congrArg List.sum (List.map_congr_left fun row listed => ?_)
    exact (coupled.reserved_eq (List.mem_of_mem_filter listed)).symm
  rw [amounts]
  exact rows.sum_eq claims (coupled.holders_iff accountKey) db.reserved

/-- After any transactions that use each identity for one request, a symbol of an account and an
identity have at most one claim, a BUY has active cash exactly when it has a claim, both for
the symbol of its request, a SELL has none, and the reserved cash of an account is that of
its BUY claims. -/
theorem ran_coupled (assigned : Holder → ExecutionRequest) {calls : List CoordinatorCall}
    {db : CoordinationStore} (run : Ran calls db)
    (fixed : ∀ call ∈ calls, call.request = assigned call.holder) :
    (db.symbolClaim.map SymbolClaim.slot).Nodup ∧ (db.symbolClaim.map SymbolClaim.holder).Nodup ∧
      (∀ holder, (assigned holder).side = .buy →
        ((∃ row ∈ db.cashReservation, row.holder = holder ∧ row.active = true) ↔
          ∃ claim ∈ db.symbolClaim, claim.holder = holder)) ∧
      (∀ claim ∈ db.symbolClaim, claim.symbol = (assigned claim.holder).symbol) ∧
      (∀ row ∈ db.cashReservation, row.symbol = (assigned row.holder).symbol) ∧
      (∀ row ∈ db.cashReservation, (assigned row.holder).side ≠ .sell) ∧
      ∀ accountKey, db.activeReservedCash accountKey =
        ((db.buyClaims assigned accountKey).map fun claim => db.reserved claim.holder).sum := by
  have coupled := run.coupled fixed
  refine ⟨coupled.keyed_slots, coupled.keyed_claims, fun holder buy => ?_, fun claim listed => ?_,
    fun row member => (coupled.buys row member).2, fun row member sell => ?_,
    coupled.activeReservedCash_eq⟩
  · exact (coupled.active_iff holder buy).trans coupled.claim_iff
  · exact coupled.claims (claim.holder, claim.symbol) (List.mem_map.2 ⟨claim, listed, rfl⟩)
  · have buy := (coupled.buys row member).1
    rw [sell] at buy
    cases buy

def boughtTables : CoordinationStore where
  symbolClaim := [⟨"a1", "510300.SH", "e1", "c1", .open⟩]
  cashReservation := [⟨"a1", "e1", "c1", "510300.SH", 10, true⟩]

theorem ran_coupled_contended :
    boughtTables.activeReservedCash "a1" =
      ((boughtTables.buyClaims (fun _ => sampleRequest) "a1").map fun claim =>
        boughtTables.reserved claim.holder).sum := by
  have prepared : Ran [.prepare "a1" "e1" sampleRequest (.finite 100) (.finite 10)] boughtTables :=
    .committed .created (by decide +kernel)
  have contended := prepared.raised (.prepare "a1" "e2" sampleRequest (.finite 100) (.finite 10))
  exact (ran_coupled (fun _ => sampleRequest) contended (by decide +kernel)).2.2.2.2.2.2 "a1"

end CoordinationStore

end QmtExecution
