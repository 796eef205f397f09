import QmtExecution.Interaction.Spans
import QmtExecution.Protocol.Orderly
import QmtExecution.Shared.World

/-! The rows that a session has in the coordinator's tables: those of its durable intent, and none
once its cycle is over, unless a call of the coordinator has left it in doubt. -/

namespace QmtExecution

open Interaction Resources CoordinationStore

def SessionConfig.Owns (config : SessionConfig) (holder : Holder) : Prop :=
  holder.accountKey = config.accountKey ∧ holder.executionId = config.executionId

/-- The tables have no claim and no active reservation of the session. -/
structure SessionConfig.Rowless (config : SessionConfig) (db : CoordinationStore) : Prop where
  claims : ∀ claim ∈ db.symbolClaim, ¬ config.Owns claim.holder
  reservations : ∀ row ∈ db.cashReservation, config.Owns row.holder → row.active = false

def Event.isClearing : Event → Bool
  | ⟨.journalWrite .clearCycleData _, _⟩ => true
  | _ => false

/-- No cycle has been cleared while nobody knew of the rows. -/
def Trace.undoubted : Trace → Bool
  | [] => true
  | event :: trace => Trace.undoubted trace && !(event.isClearing && Trace.tenure trace = .doubtful)

/-- The rows of the session are those of its durable intent, cash is only reserved beside a claim,
and where the session knows of no rows there are none. -/
structure Anchored (config : SessionConfig) (db : CoordinationStore) (trace : Trace) : Prop where
  claims : ∀ entry ∈ db.claimed, config.Owns entry.1 → ∃ payload request,
    (Ledger.ofTrace trace).disk = some payload ∧ payload.data.intent = some (.ofRequest request) ∧
      entry = (config.holder request, request.symbol)
  backed : ∀ holder, config.Owns holder → db.Active holder → ∃ symbol, (holder, symbol) ∈ db.claimed
  vacant : trace.tenure = .vacant → ∀ entry ∈ db.claimed, ¬ config.Owns entry.1

theorem execute_active_other {db after : CoordinationStore} {call : CoordinatorCall}
    (done : call.execute db = .ok after) {other : Holder} (different : other ≠ call.holder) :
    after.Active other ↔ db.Active other := by
  have effect := execute_ok done
  split_ifs at effect
  · exact effect.active_other different
  · rcases effect with marks | ⟨-, reserves⟩
    · simp only [Active, marks.2.2]
    · cases side : call.request.side with
      | sell =>
          rw [side] at reserves
          simp only [Active, show after.cashReservation = db.cashReservation from reserves]
      | buy =>
          rw [side] at reserves
          obtain ⟨amount, -, reserves⟩ := reserves
          exact reserves.active_other different

theorem hasClaim_listed {db : CoordinationStore}
    (slots : Keyed (fun entry : Holder × String => (entry.1.accountKey, entry.2)) db.claimed)
    {accountKey executionId : String} {request : ExecutionRequest}
    (listed : (⟨accountKey, executionId, request.clientOrderId⟩, request.symbol) ∈ db.claimed) :
    db.hasClaim accountKey executionId request = .ok true ∨
      ∃ exc, db.hasClaim accountKey executionId request = .error exc ∧
        exc.isA .symbolClaimConflict = false := by
  unfold CoordinationStore.hasClaim
  cases checked : validateIdentity accountKey executionId with
  | error exc =>
      refine .inr ⟨exc, rfl, ?_⟩
      unfold validateIdentity at checked
      split_ifs at checked
      · cases checked
        rfl
      · cases checked
        rfl
  | ok _ =>
      left
      dsimp only [bind, Except.bind]
      split
      · rename_i missing
        obtain ⟨claim, member, same⟩ := List.mem_map.1 listed
        refine absurd ?_ (claimOf_none.1 missing claim member)
        exact Prod.ext (show claim.accountKey = accountKey from
          congrArg (fun entry : Holder × String => entry.1.accountKey) same)
          (show claim.symbol = request.symbol from congrArg Prod.snd same)
      · rename_i claim found
        obtain ⟨member, slot⟩ := claimOf_some found
        have entry : (claim.holder, claim.symbol) ∈ db.claimed := List.mem_map_of_mem member
        have one := slots.eq entry listed slot
        rw [if_pos ((claim_carries slot).2 (congrArg Prod.fst one))]

namespace Anchored

variable {config : SessionConfig} {db after : CoordinationStore} {trace : Trace} {command : Command}
  {answer : Except Exc (Result command)}

theorem initial (config : SessionConfig) : Anchored config {} [] where
  claims := by
    intro entry listed
    cases listed
  backed := by
    rintro holder - ⟨row, listed, -⟩
    cases listed
  vacant := by
    intro _ entry listed
    cases listed

theorem rowless (anchored : Anchored config db trace)
    (free : ∀ entry ∈ db.claimed, ¬ config.Owns entry.1) : config.Rowless db where
  claims := by
    intro claim listed
    exact free _ (List.mem_map_of_mem listed)
  reservations := by
    intro row listed own
    by_contra active
    obtain ⟨symbol, claimed⟩ := anchored.backed row.holder own ⟨row, listed, rfl, by simpa using active⟩
    exact free _ claimed own

theorem other (anchored : Anchored config db trace) {call : CoordinatorCall}
    (done : call.execute db = .ok after) (foreign : ¬ config.Owns call.holder) :
    Anchored config after trace := by
  have apart {holder : Holder} (own : config.Owns holder) : holder ≠ call.holder := by
    intro same
    exact foreign (same ▸ own)
  constructor
  · intro entry listed own
    exact anchored.claims entry ((execute_other done (apart own)).1 listed) own
  · intro holder own active
    obtain ⟨symbol, claimed⟩ :=
      anchored.backed holder own ((execute_active_other done (apart own)).1 active)
    exact ⟨symbol, (execute_other done (apart own)).2 claimed⟩
  · intro vacant entry listed own
    exact anchored.vacant vacant entry ((execute_other done (apart own)).1 listed) own

theorem kept (anchored : Anchored config db trace) {event : Event}
    (untold : event.tenure = none)
    (durable : ∀ payload request, (Ledger.ofTrace trace).disk = some payload →
      payload.data.intent = some (.ofRequest request) → ∃ payload',
        (Ledger.ofTrace (event :: trace)).disk = some payload' ∧
          payload'.data.intent = some (.ofRequest request)) :
    Anchored config db (event :: trace) := by
  refine ⟨?_, anchored.backed, ?_⟩
  · intro entry listed own
    obtain ⟨payload, request, disk, intent, same⟩ := anchored.claims entry listed own
    obtain ⟨payload', disk', intent'⟩ := durable payload request disk intent
    exact ⟨payload', request, disk', intent', same⟩
  · rw [tenure_kept untold]
    exact anchored.vacant

theorem free (anchored : Anchored config db trace) (trace' : Trace)
    (free : ∀ entry ∈ db.claimed, ¬ config.Owns entry.1) : Anchored config db trace' :=
  ⟨fun entry listed own => absurd own (free entry listed), anchored.backed, fun _ => free⟩

/-- What a session tells the coordinator is about the request of its durable intent. -/
structure Speaks (trace : Trace) (request : ExecutionRequest) : Prop where
  durable : ∃ payload, (Ledger.ofTrace trace).disk = some payload ∧
    payload.data.intent = some (.ofRequest request)

theorem Speaks.quiet {request : ExecutionRequest} (speaks : Speaks trace request)
    (quiet : command.isQuiet = true) (answer : Except Exc (Result command)) :
    Speaks (⟨command, answer⟩ :: trace) request := by
  obtain ⟨payload, disk, intent⟩ := speaks.durable
  exact ⟨payload, (Ledger.after_quiet _ answer quiet).2.1.trans disk, intent⟩

theorem speaks (ruled : Trace.Ruled config trace) {request : ExecutionRequest} {payload : Payload}
    (carrying : (Ledger.ofTrace trace).Carrying request payload) : Speaks trace request :=
  ⟨payload, intact_disk ruled.guarded ruled.unfailed carrying.1, carrying.2⟩

theorem named (anchored : Anchored config db trace) {request : ExecutionRequest}
    (speaks : Speaks trace request) {entry : Holder × String} (listed : entry ∈ db.claimed)
    (own : config.Owns entry.1) : entry = (config.holder request, request.symbol) := by
  obtain ⟨payload, disk, intent⟩ := speaks.durable
  obtain ⟨payload', request', disk', intent', same⟩ := anchored.claims entry listed own
  cases disk.symm.trans disk'
  have rows := Option.some.inj (intent'.symm.trans intent)
  rw [same, SessionConfig.holder, SessionConfig.holder]
  rw [show request'.clientOrderId = request.clientOrderId from congrArg Intent.clientOrderId rows,
    show request'.symbol = request.symbol from congrArg Intent.symbol rows]

theorem commits (anchored : Anchored config db trace) {call : CoordinatorCall}
    (speaks : Speaks trace call.request) (mine : call.holder = config.holder call.request)
    (done : call.execute db = .ok after) :
    (∀ entry ∈ after.claimed, config.Owns entry.1 →
      entry = (config.holder call.request, call.request.symbol) ∧ call.releases = false) ∧
    ∀ holder, config.Owns holder → after.Active holder → ∃ symbol, (holder, symbol) ∈ after.claimed := by
  have effect := execute_ok done
  split_ifs at effect with releases
  · have gone (entry : Holder × String) (listed : entry ∈ after.claimed)
        (own : config.Owns entry.1) : False := by
      obtain ⟨known, other⟩ := effect.claimed_iff.1 listed
      rw [mine] at other
      exact other (anchored.named speaks known own)
    refine ⟨fun entry listed own => (gone entry listed own).elim, fun holder own active => ?_⟩
    by_cases same : holder = call.holder
    · subst same
      exact absurd active effect.not_active
    · obtain ⟨symbol, claimed⟩ :=
        anchored.backed holder own ((execute_active_other done same).1 active)
      refine ⟨symbol, effect.claimed_iff.2 ⟨claimed, fun entry => ?_⟩⟩
      exact same (congrArg Prod.fst entry)
  · have keeps : call.releases = false := by simpa using releases
    constructor
    · intro entry listed own
      refine ⟨?_, keeps⟩
      rcases effect with marks | ⟨claims, -⟩
      · rw [marks.2.1] at listed
        exact anchored.named speaks listed own
      · rcases claims.claimed_iff.1 listed with known | same
        · exact anchored.named speaks known own
        · rw [same, mine]
    · intro holder own active
      by_cases same : holder = call.holder
      · subst same
        exact ⟨_, execute_claims done keeps⟩
      · obtain ⟨symbol, claimed⟩ :=
          anchored.backed holder own ((execute_active_other done same).1 active)
        exact ⟨symbol, execute_keeps done keeps claimed⟩

theorem transact (anchored : Anchored config db trace) {call : CoordinatorCall}
    (same : command.transaction = some call) (speaks : Speaks trace call.request)
    (quiet : command.isQuiet = true) (mine : call.holder = config.holder call.request)
    (law : db.Answers command answer after) : Anchored config after (⟨command, answer⟩ :: trace) := by
  have told : Trace.tenure (⟨command, answer⟩ :: trace) = .vacant →
      answer.isOk = true ∧ call.releases = true := by
    cases command with
    | prepare accountKey executionId request available required => cases answer <;> nofun
    | restore accountKey executionId request required finality => cases answer <;> nofun
    | updateFinality accountKey executionId request finality =>
        cases same
        cases answer with
        | ok value => cases finality <;> first | exact fun _ => ⟨rfl, rfl⟩ | nofun
        | error exc => nofun
    | _ => cases same
  unfold Answers at law
  simp only [same] at law
  obtain ⟨payload, disk, intent⟩ := (speaks.quiet quiet answer).durable
  rcases law with done | ⟨failed, rfl⟩
  · obtain ⟨claims, backed⟩ := anchored.commits speaks mine done
    refine ⟨fun entry listed own => ?_, backed, fun vacant entry listed own => ?_⟩
    · exact ⟨payload, call.request, disk, intent, (claims entry listed own).1⟩
    · have keeps := (claims entry listed own).2
      rw [(told vacant).2] at keeps
      cases keeps
  · refine ⟨fun entry listed own => ?_, anchored.backed, fun vacant => ?_⟩
    · exact ⟨payload, call.request, disk, intent, anchored.named speaks listed own⟩
    · have returned := (told vacant).1
      rw [failed] at returned
      cases returned

theorem asks (anchored : Anchored config db trace) {request : ExecutionRequest}
    (speaks : Speaks trace request)
    (slots : Keyed (fun entry : Holder × String => (entry.1.accountKey, entry.2)) db.claimed)
    {answer : Except Exc Bool}
    (law : db.Answers (.hasClaim config.accountKey config.executionId request) answer after) :
    Anchored config after
      (⟨.hasClaim config.accountKey config.executionId request, answer⟩ :: trace) := by
  obtain ⟨rfl, replies⟩ := law
  obtain ⟨payload, disk, intent⟩ := speaks.durable
  refine ⟨fun entry listed own => ?_, anchored.backed, fun vacant entry listed own => ?_⟩
  · exact ⟨payload, request, disk, intent, anchored.named speaks listed own⟩
  · have same := anchored.named speaks listed own
    have known : after.hasClaim config.accountKey config.executionId request = .ok true ∨
        ∃ exc, after.hasClaim config.accountKey config.executionId request = .error exc ∧
          exc.isA .symbolClaimConflict = false := hasClaim_listed slots (same ▸ listed)
    have untrue : answer ≠ .ok true := by
      rintro rfl
      cases vacant
    have undoubted (exc : Exc) (clear : exc.isA .symbolClaimConflict = false) : answer ≠ .error exc := by
      rintro rfl
      simp [Trace.tenure, Event.tenure, clear] at vacant
    rcases replies _ _ _ _ rfl with told | ⟨exc, told, clear⟩
    · rcases known with owned | ⟨exc, failed, clear⟩
      · exact untrue (told.trans owned)
      · exact undoubted exc clear (told.trans failed)
    · exact undoubted exc clear told

theorem writes (anchored : Anchored config db trace) (ruled : Trace.Ruled config trace)
    {writer : JournalWriter} {payload : Payload}
    (permitted : trace.permits config (.journalWrite writer payload))
    (orderly : trace.orderly (.journalWrite writer payload))
    (undoubted : Trace.undoubted (⟨.journalWrite writer payload, .ok ()⟩ :: trace) = true) :
    Anchored config db (⟨.journalWrite writer payload, .ok ()⟩ :: trace) := by
  have clears (none : ∀ payload request, (Ledger.ofTrace trace).disk = some payload →
      payload.data.intent ≠ some (.ofRequest request)) :
      Anchored config db (⟨.journalWrite writer payload, .ok ()⟩ :: trace) := by
    apply anchored.free
    intro entry listed own
    obtain ⟨payload, request, disk, intent, -⟩ := anchored.claims entry listed own
    exact none payload request disk intent
  by_cases created : writer = .create
  · subst created
    apply clears
    intro other request disk
    cases permitted.1.symm.trans disk
  obtain ⟨before, memory, changes⟩ : ∃ before, (Ledger.ofTrace trace).memory = some before ∧
      (Ledger.ofTrace trace).Changes before writer payload := by
    cases writer <;> first | exact absurd rfl created | exact permitted
  have durable := intact_disk ruled.guarded ruled.unfailed memory
  by_cases started : ∃ request, writer = .persistIntent request
  · obtain ⟨request, rfl⟩ := started
    apply clears
    intro other request' disk
    cases durable.symm.trans disk
    rw [changes.2.2.1]
    nofun
  by_cases cleared : writer = .clearCycleData
  · subst cleared
    apply anchored.free
    apply anchored.vacant
    have held : trace.tenure ≠ .held := orderly
    have known : trace.tenure ≠ .doubtful := by
      simpa [Trace.undoubted, Event.isClearing] using (Bool.and_eq_true_iff.1 undoubted).2
    cases tenure : trace.tenure with
    | vacant => rfl
    | held => exact absurd tenure held
    | doubtful => exact absurd tenure known
  · apply anchored.kept rfl
    intro other request disk intent
    cases durable.symm.trans disk
    refine ⟨payload, Ledger.written_disk _ _ _, ?_⟩
    rw [(changes_keep changes (fun request same => started ⟨request, same⟩) cleared).1]
    exact intent

theorem call (anchored : Anchored config db trace) (ruled : Trace.Ruled config trace)
    (slots : Keyed (fun entry : Holder × String => (entry.1.accountKey, entry.2)) db.claimed)
    (permitted : trace.permits config command) (orderly : trace.orderly command)
    (regular : Event.Regular ⟨command, answer⟩) (law : db.Answers command answer after)
    (undoubted : Trace.undoubted (⟨command, answer⟩ :: trace) = true) :
    Anchored config after (⟨command, answer⟩ :: trace) := by
  have still (silent : command.transaction = none) : after = db := by
    unfold Answers at law
    simp only [silent] at law
    exact law.1
  have durable (same : (Ledger.ofTrace (⟨command, answer⟩ :: trace)).disk = (Ledger.ofTrace trace).disk)
      (payload : Payload) (request : ExecutionRequest)
      (disk : (Ledger.ofTrace trace).disk = some payload)
      (intent : payload.data.intent = some (.ofRequest request)) : ∃ payload',
        (Ledger.ofTrace (⟨command, answer⟩ :: trace)).disk = some payload' ∧
          payload'.data.intent = some (.ofRequest request) := ⟨payload, same.trans disk, intent⟩
  cases command with
  | prepare accountKey executionId request available required =>
      obtain ⟨rfl, rfl, ⟨payload, submitting⟩, -⟩ := permitted
      exact anchored.transact rfl (speaks ruled ⟨submitting.memory, submitting.intent⟩) rfl rfl law
  | restore accountKey executionId request required finality =>
      obtain ⟨rfl, rfl, payload, carrying, -⟩ := permitted
      exact anchored.transact rfl (speaks ruled carrying) rfl rfl law
  | updateFinality accountKey executionId request finality =>
      obtain ⟨rfl, rfl, payload, carrying, -⟩ := permitted
      exact anchored.transact rfl (speaks ruled carrying) rfl rfl law
  | hasClaim accountKey executionId request =>
      obtain ⟨rfl, rfl, payload, carrying⟩ := permitted
      exact anchored.asks (speaks ruled carrying) slots law
  | journalWrite writer payload =>
      cases answer with
      | error exc => cases regular
      | ok done =>
          rw [still rfl]
          exact anchored.writes ruled permitted orderly undoubted
  | journalRead =>
      rw [still rfl]
      apply anchored.kept rfl (durable _)
      cases answer <;> rfl
  | placeOrder request =>
      rw [still rfl]
      exact anchored.kept rfl (durable rfl)
  | _ =>
      rw [still rfl]
      exact anchored.kept rfl (durable (Ledger.after_quiet _ answer rfl).2.1)

end Anchored

namespace Shared

variable {ι : Type} [DecidableEq ι] {configs : ι → SessionConfig}
  {config : Config Command Result SessionState Exc Operation (Option ExecutionSnapshot) ι (Shared ι)}

/-- The answers that the world gives while journal writes complete and releases raise no exception of
the broker. -/
def regular (i : ι) (world : Shared ι) (command : Command) (answer : Except Exc (Result command))
    (after : Shared ι) : Prop :=
  Shared.answers i world command answer after ∧ Event.Regular ⟨command, answer⟩

theorem regular_views : Family.Views (C := Command) (R := Result) (E := Exc) Shared.regular
    (fun (world after : Shared ι) => after = world) (fun i world => world.logs i)
    (fun _ => Trace.regular) where
  own := by
    intro i world command answer after law
    exact ⟨views.own i world command answer after law.1, law.2⟩
  other := by
    intro i j world command answer after different law
    exact views.other i j world command answer after different law.1
  environment := by
    intro i world after same
    rw [same]

/-- The runs of sessions on one coordinator whose journal writes complete. -/
abbrev Undisturbed (configs : ι → SessionConfig) :
    Config Command Result SessionState Exc Operation (Option ExecutionSnapshot) ι (Shared ι) → Prop :=
  Family.Reachable (fun i => sessionClass (configs i)) Shared.regular (fun world after => after = world)
    initial

theorem Undisturbed.shared (reachable : Undisturbed configs config) : Reachable configs config := by
  apply Family.Reachable.image id _ _ _ reachable
  · intro world first
    exact first
  · intro i world command answer after law
    exact law.1
  · intro world after same
    exact same

theorem Undisturbed.lawful (coordinated : ∀ i, (configs i).coordinated = true)
    (reachable : Undisturbed configs config) (i : ι) :
    (config.phase i).Lawful
        (fun (trace : Trace) command => trace.permits (configs i) command ∧ trace.orderly command)
        Trace.regular (fun object trace => Coherent object trace ∧ Balanced object trace)
        (config.world.logs i) ∧ Trace.Ruled (configs i) (config.world.logs i) :=
  Family.Reachable.lawful regular_views (fun i => session_orderly (coordinated i))
    (fun _ first => first.2) reachable i

/-- What the tables and the calls of one session have to do with each other, in all sessions. -/
structure Each (kept : SessionConfig → CoordinationStore → Trace → Prop)
    (configs : ι → SessionConfig) (world : Shared ι) : Prop where
  tenancy : Tenancy configs world
  each : ∀ i, kept (configs i) world.store (world.logs i)

theorem Undisturbed.each (kept : SessionConfig → CoordinationStore → Trace → Prop)
    (coordinated : ∀ i, (configs i).coordinated = true) (distinct : Distinct configs)
    (first : ∀ config, kept config {} [])
    (own : ∀ (config : SessionConfig) (db after : CoordinationStore) (trace : Trace)
      (command : Command) (answer : Except Exc (Result command)), config.coordinated = true →
      Trace.Ruled config trace →
      Keyed (fun entry : Holder × String => (entry.1.accountKey, entry.2)) db.claimed →
      kept config db trace → trace.permits config command → trace.orderly command →
      trace.FileLaw command answer → Event.Regular ⟨command, answer⟩ →
      db.Answers command answer after → kept config after (⟨command, answer⟩ :: trace))
    (other : ∀ (config : SessionConfig) (db after : CoordinationStore) (trace : Trace)
      (call : CoordinatorCall), kept config db trace → call.execute db = .ok after →
      ¬ config.Owns call.holder → kept config after trace)
    (reachable : Undisturbed configs config) (i : ι) :
    kept (configs i) config.world.store (config.world.logs i) := by
  suffices all : Each kept configs config.world from all.each i
  apply Family.Reachable.always regular_views (fun i => session_orderly (coordinated i))
    (fun _ first => first.2) _ _ _ reachable
  · intro world start
    refine ⟨Reachable.tenancy coordinated distinct (.initial world start), fun i => ?_⟩
    rw [start.1, start.2 i]
    exact first (configs i)
  · intro i world command answer after ruled held permitted law
    obtain ⟨tenancy, each⟩ := held
    obtain ⟨answers, regular⟩ := law
    refine ⟨tenancy.call coordinated distinct i (Trace.Ruled.guarded (ruled i)) permitted.1 answers, ?_⟩
    obtain ⟨file, store, logs⟩ := answers
    intro j
    rw [logs]
    by_cases mine : j = i
    · subst mine
      rw [Function.update_self]
      exact own _ _ _ _ _ _ (coordinated j) (ruled j) tenancy.slots (each j) permitted.1 permitted.2
        file regular store
    · rw [Function.update_of_ne mine]
      rcases store.cases with unchanged | ⟨call, same, done⟩
      · rw [unchanged]
        exact each j
      · apply other _ _ _ _ call (each j) done
        intro owned
        rw [permitted_holder permitted.1 same] at owned
        exact mine (distinct (Prod.ext owned.1.symm owned.2.symm))
  · intro world after held same
    rw [same]
    exact held

theorem Undisturbed.anchored (coordinated : ∀ i, (configs i).coordinated = true)
    (distinct : Distinct configs) (reachable : Undisturbed configs config) (i : ι)
    (undoubted : (config.world.logs i).undoubted = true) :
    Anchored (configs i) config.world.store (config.world.logs i) := by
  revert undoubted
  apply Undisturbed.each (fun config db trace => Trace.undoubted trace = true →
    Anchored config db trace) coordinated distinct _ _ _ reachable
  · intro config _
    exact .initial config
  · intro config db after trace command answer _ ruled slots anchored permitted orderly _ regular law
      undoubted
    exact (anchored (Bool.and_eq_true_iff.1 undoubted).1).call ruled slots permitted orderly regular law
      undoubted
  · intro config db after trace call anchored done foreign undoubted
    exact (anchored undoubted).other done foreign

theorem Undisturbed.leaves (coordinated : ∀ i, (configs i).coordinated = true) {i : ι}
    {operation : Operation} {memory memory' : SessionState}
    {result : Except Exc (Option ExecutionSnapshot)}
    {asked : Config Command Result SessionState Exc Operation (Option ExecutionSnapshot) ι (Shared ι)}
    (reachable : Undisturbed configs asked) (idle : asked.phase i = .idle memory)
    (under : Family.Under (fun i => sessionClass (configs i)) Shared.regular
      (fun world after => after = world) i operation asked config)
    (ended : config.phase i = .busy operation (.done (result, memory'))) :
    Balanced memory' (config.world.logs i) ∧
      operation.Leaves memory (asked.world.logs i) result memory' (config.world.logs i) := by
  have lawful := reachable.lawful coordinated i
  rw [idle] at lawful
  obtain ⟨⟨-, balanced⟩, ruled⟩ := lawful
  have runs := operation_orderly (coordinated i) operation ruled balanced
  have delivers : ((sessionClass (configs i)).run operation memory).Obeys Trace.orderly Trace.regular
      (fun result after => Balanced result.2 after ∧
        operation.Leaves memory (asked.world.logs i) result.1 result.2 after)
      (asked.world.logs i) := by
    apply Program.Obeys.weaken runs
    rintro ⟨result, object⟩ after post
    cases result <;> exact post
  exact under.delivers regular_views idle delivers ended

theorem updateFinality_raised {db : CoordinationStore} {accountKey executionId : String}
    {request : ExecutionRequest} {finality : ExecutionFinality} {exc : Exc}
    (raised : db.updateFinality accountKey executionId request finality = .error exc) :
    exc.isA .brokerError = false := by
  unfold CoordinationStore.updateFinality validateIdentity at raised
  dsimp only [bind, Except.bind] at raised
  split_ifs at raised <;> cases raised <;> rfl

def comply (i : ι) (replies : Replies) : Responder Command Result Exc (Shared ι) :=
  respond i { replies with write := fun _ => .ok () }

theorem complies (i : ι) : Responds (comply i) (regular i) := by
  intro replies world command
  refine ⟨responds i _ world command, ?_⟩
  cases command with
  | journalWrite writer payload => rfl
  | updateFinality accountKey executionId request finality =>
      show Event.Regular ⟨.updateFinality accountKey executionId request finality,
        (transact world.store replies.coordinator
          (.updateFinality accountKey executionId request finality)).1⟩
      unfold transact
      split
      · trivial
      · rename_i exc _ raised
        exact updateFinality_raised raised
      · rfl
  | _ => trivial

def complying (configs : ι → SessionConfig) (deeds : List (ι × SessionDeed)) :
    Config Command Result SessionState Exc Operation (Option ExecutionSnapshot) ι (Shared ι) :=
  Family.script (fun i => sessionClass (configs i)) comply ⟨{}, fun _ => []⟩ deeds

theorem complying_undisturbed (configs : ι → SessionConfig) (deeds : List (ι × SessionDeed)) :
    Undisturbed configs (complying configs deeds) :=
  Family.script_reachable ⟨rfl, fun _ => rfl⟩ complies deeds

/-- In every run whose journal writes complete and in which no cycle is cleared while the last call
of the coordinator has raised, the rows of a session are those of the intent in its journal. -/
theorem rows_follow_intent (coordinated : ∀ i, (configs i).coordinated = true)
    (distinct : Distinct configs) (reachable : Undisturbed configs config) {i : ι}
    (undoubted : (config.world.logs i).undoubted = true) :
    (∀ claim ∈ config.world.store.symbolClaim, (configs i).Owns claim.holder → ∃ payload request,
      (Ledger.ofTrace (config.world.logs i)).disk = some payload ∧
        payload.data.intent = some (.ofRequest request) ∧
        claim.holder = (configs i).holder request ∧ claim.symbol = request.symbol) ∧
    ∀ row ∈ config.world.store.cashReservation, (configs i).Owns row.holder → row.active = true →
      ∃ payload request, (Ledger.ofTrace (config.world.logs i)).disk = some payload ∧
        payload.data.intent = some (.ofRequest request) ∧ row.holder = (configs i).holder request ∧
        ((configs i).holder request, request.symbol) ∈ config.world.store.claimed := by
  have anchored := reachable.anchored coordinated distinct i undoubted
  constructor
  · intro claim listed own
    obtain ⟨payload, request, disk, intent, same⟩ :=
      anchored.claims (claim.holder, claim.symbol) (List.mem_map_of_mem listed) own
    exact ⟨payload, request, disk, intent, congrArg Prod.fst same, congrArg Prod.snd same⟩
  · intro row listed own active
    obtain ⟨symbol, claimed⟩ := anchored.backed row.holder own ⟨row, listed, rfl, active⟩
    obtain ⟨payload, request, disk, intent, same⟩ := anchored.claims (row.holder, symbol) claimed own
    exact ⟨payload, request, disk, intent, congrArg Prod.fst same, same ▸ claimed⟩

def pair (second : Bool) : SessionConfig := ⟨if second then "e2" else "e1", "a1", true, true⟩

theorem pair_distinct : Distinct pair := by
  intro i j same
  revert same
  cases i <;> cases j <;> decide

def deedsOf (second : Bool) (deeds : List SessionDeed) : List (Bool × SessionDeed) :=
  deeds.map fun deed => (second, deed)

def occupied : List (Bool × SessionDeed) :=
  deedsOf true ([.start] ++ call .openSession ++ call (.submit laterRequest)) ++
    deedsOf false ([.start] ++ call .openSession)

theorem rows_follow_intent_occupied : (∃ claim ∈ (complying pair occupied).world.store.symbolClaim,
      (pair true).Owns claim.holder) ∧
    ∀ claim ∈ (complying pair occupied).world.store.symbolClaim, (pair true).Owns claim.holder →
      ∃ payload request, (Ledger.ofTrace ((complying pair occupied).world.logs true)).disk =
        some payload ∧ payload.data.intent = some (.ofRequest request) ∧
        claim.holder = (pair true).holder request ∧ claim.symbol = request.symbol := by
  refine ⟨?_, (rows_follow_intent (fun _ => rfl) pair_distinct (complying_undisturbed pair occupied)
    (i := true) (by decide +kernel)).1⟩
  have owned : (complying pair occupied).world.store.symbolClaim.any (fun claim =>
      claim.accountKey = "a1" && claim.executionId = "e2") = true := by decide +kernel
  obtain ⟨claim, listed, own⟩ := List.any_eq_true.1 owned
  rw [Bool.and_eq_true, decide_eq_true_eq, decide_eq_true_eq] at own
  exact ⟨claim, listed, own⟩

/-- Once `next_cycle` has returned, the session has no rows. -/
theorem cycle_leaves_no_rows (coordinated : ∀ i, (configs i).coordinated = true)
    (distinct : Distinct configs) (reachable : Undisturbed configs config) {i : ι}
    {out : Option ExecutionSnapshot} {memory : SessionState}
    (ended : (config.phase i).finished = some (.nextCycle, .ok out, memory))
    (undoubted : (config.world.logs i).undoubted = true) :
    (configs i).Rowless config.world.store := by
  have busy := Phase.finished_some ended
  obtain ⟨asked, earlier, under⟩ := reachable.asked busy
  obtain ⟨idle, before⟩ := under.idle
  obtain ⟨-, cleared⟩ := Undisturbed.leaves coordinated earlier before under busy
  obtain ⟨payload, kept, none⟩ := cleared rfl
  obtain ⟨-, ruled⟩ := reachable.lawful coordinated i
  have disk := intact_disk (Trace.Ruled.guarded ruled) (Trace.Ruled.unfailed ruled) kept
  have anchored := reachable.anchored coordinated distinct i undoubted
  apply anchored.rowless
  intro entry listed own
  obtain ⟨payload', request, disk', intent, -⟩ := anchored.claims entry listed own
  cases disk.symm.trans disk'
  rw [none] at intent
  cases intent

def cycled : List (Bool × SessionDeed) :=
  deedsOf false ([.start] ++ call .openSession ++
    call (.submit sampleRequest) { order := .ok (sampleOrder .filled 100) } ++
    [.invoke .nextCycle, .answer 100 {}])

theorem cycle_leaves_no_rows_cycled : (pair false).Rowless (complying pair cycled).world.store := by
  have ended : ((complying pair cycled).phase false).finished.any (fun done =>
      done.1 = .nextCycle && done.2.1.isOk) = true := by decide +kernel
  obtain ⟨⟨operation, result, memory⟩, finished, facts⟩ := (Option.any_eq_true _ _).1 ended
  rw [Bool.and_eq_true, decide_eq_true_eq] at facts
  obtain ⟨rfl, returned⟩ := facts
  cases result with
  | error exc => cases returned
  | ok out =>
      exact cycle_leaves_no_rows (fun _ => rfl) pair_distinct (complying_undisturbed pair cycled)
        finished (by decide +kernel)

/-- A `submit` of a waiting session that ends without a call of `place_order` leaves a resolved
execution, and no rows if the last call of the coordinator has not raised. -/
theorem unplaced_submit_leaves_no_rows (coordinated : ∀ i, (configs i).coordinated = true)
    (distinct : Distinct configs)
    {asked : Config Command Result SessionState Exc Operation (Option ExecutionSnapshot) ι (Shared ι)}
    (reachable : Undisturbed configs asked) {i : ι} {request : ExecutionRequest}
    {memory memory' : SessionState} {result : Except Exc (Option ExecutionSnapshot)}
    (idle : asked.phase i = .idle memory) (waiting : memory.Waiting)
    (under : Family.Under (fun i => sessionClass (configs i)) regular
      (fun world after => after = world) i (.submit request) asked config)
    (ended : (config.phase i).finished = some (.submit request, result, memory'))
    (unplaced : (config.world.logs i).placements = (asked.world.logs i).placements) :
    (∃ payload, (Ledger.ofTrace (config.world.logs i)).disk = some payload ∧
      executionFinality payload.machine = .resolved) ∧
    ((config.world.logs i).undoubted = true → (config.world.logs i).tenure ≠ .doubtful →
      (configs i).Rowless config.world.store) := by
  obtain ⟨balanced, concluded, -⟩ :=
    reachable.leaves coordinated idle under (Phase.finished_some ended)
  obtain ⟨isOpen, concluded⟩ := concluded waiting
  obtain ⟨payload, level⟩ := balanced isOpen
  have later := under.reachable reachable
  obtain ⟨-, ruled⟩ := Undisturbed.lawful coordinated later i
  have resolved : executionFinality payload.machine = .resolved := by
    rcases concluded with resolved | placed
    · exact resolved payload level.settled.memory
    · omega
  refine ⟨⟨payload, ?_, resolved⟩, fun undoubted known => ?_⟩
  · exact intact_disk (Trace.Ruled.guarded ruled) (Trace.Ruled.unfailed ruled) level.settled.memory
  · have anchored := Undisturbed.anchored coordinated distinct later i undoubted
    apply anchored.rowless
    apply anchored.vacant
    cases tenure : (config.world.logs i).tenure with
    | vacant => rfl
    | held => exact absurd tenure (level.cleared resolved)
    | doubtful => exact absurd tenure known

def refused : Config Command Result SessionState Exc Operation (Option ExecutionSnapshot) Bool
    (Shared Bool) :=
  Family.act (fun i => sessionClass (pair i)) comply
    (Family.act (fun i => sessionClass (pair i)) comply (complying pair occupied)
      (false, .invoke (.submit sampleRequest))) (false, .answer 100 {})

theorem unplaced_submit_leaves_no_rows_refused : refused.world.store.symbolClaim ≠ [] ∧
    (pair false).Rowless refused.world.store := by
  refine ⟨by decide +kernel, ?_⟩
  have waits : ((complying pair occupied).phase false).memory.any (fun memory =>
      memory.isOpen && !memory.closed && memory.mutexOwned && memory.snapshot.state = .waitTrigger) =
      true := by decide +kernel
  obtain ⟨memory, idle, facts⟩ := (Option.any_eq_true _ _).1 waits
  simp only [Bool.and_eq_true, Bool.not_eq_true', decide_eq_true_eq] at facts
  obtain ⟨⟨⟨isOpen, unclosed⟩, owned⟩, state⟩ := facts
  have ended : (refused.phase false).finished.any (fun done =>
      done.1 = .submit sampleRequest) = true := by decide +kernel
  obtain ⟨⟨operation, result, memory'⟩, finished, same⟩ := (Option.any_eq_true _ _).1 ended
  cases of_decide_eq_true same
  have under : Family.Under (fun i => sessionClass (pair i)) regular
      (fun world after => after = world) false (.submit sampleRequest) (complying pair occupied)
      refused := (Family.Under.invoked (Phase.memory_eq idle)).answer complies 100 {}
  exact (unplaced_submit_leaves_no_rows (fun _ => rfl) pair_distinct
    (complying_undisturbed pair occupied) (Phase.memory_eq idle) ⟨isOpen, unclosed, owned, state⟩ under
    finished (by decide +kernel)).2 (by decide +kernel) (by decide +kernel)

end Shared

end QmtExecution
