import QmtExecution.Guarantees.Observation
import QmtExecution.Shared.Cycles

/-! The product model's invariant on the sessions themselves: an unresolved execution has its rows,
unless a restart has found it SUBMITTED without knowing them to be there. -/

namespace QmtExecution

open Interaction Resources CoordinationStore

/-- The rows of an execution: the claim of its symbol and, for a BUY, reserved cash. -/
structure SessionConfig.Rows (config : SessionConfig) (db : CoordinationStore)
    (request : ExecutionRequest) : Prop where
  claim : (config.holder request, request.symbol) ∈ db.claimed
  cash : request.side = .buy → db.Active (config.holder request)

section Rows

variable {config : SessionConfig} {db after : CoordinationStore} {call : CoordinatorCall}
  {request : ExecutionRequest}

theorem execute_active_keeps (done : call.execute db = .ok after) (keeps : call.releases = false)
    {holder : Holder} (active : db.Active holder) : after.Active holder := by
  by_cases own : holder = call.holder
  · have effect := execute_ok done
    rw [keeps] at effect
    simp only [Bool.false_eq_true, if_false] at effect
    rcases effect with marks | ⟨-, reserves⟩
    · simpa only [Active, marks.2.2] using active
    · cases side : call.request.side with
      | sell =>
          rw [side] at reserves
          simpa only [Active, show after.cashReservation = db.cashReservation from reserves] using active
      | buy =>
          rw [side] at reserves
          obtain ⟨amount, -, reserves⟩ := reserves
          rw [own]
          exact reserves.active
  · exact (execute_active_other done own).2 active

theorem SessionConfig.Rows.kept (rows : config.Rows db request) (done : call.execute db = .ok after)
    (keeps : call.releases = false) : config.Rows after request :=
  ⟨execute_keeps done keeps rows.claim, fun buy => execute_active_keeps done keeps (rows.cash buy)⟩

theorem SessionConfig.Rows.other (rows : config.Rows db request) (done : call.execute db = .ok after)
    (different : config.holder request ≠ call.holder) : config.Rows after request :=
  ⟨(execute_other done different).2 rows.claim,
    fun buy => (execute_active_other done different).2 (rows.cash buy)⟩

theorem SessionConfig.Rows.answers (rows : config.Rows db request) {command : Command}
    {answer : Except Exc (Result command)} (law : db.Answers command answer after)
    (keeps : Event.isRelease ⟨command, answer⟩ = false) : config.Rows after request := by
  rcases law.cases with unchanged | ⟨call, same, done⟩
  · rw [unchanged]
    exact rows
  · exact rows.kept done ((release_event same).symm.trans keeps)

theorem SessionConfig.Rows.prepared {available required : CashArgument}
    (done : db.prepare config.accountKey config.executionId request available required = .ok after) :
    config.Rows after request := by
  obtain ⟨claims, reserves⟩ := prepare_ok done
  refine ⟨claims.claimed_iff.2 (.inr rfl), fun buy => ?_⟩
  simp only [buy] at reserves
  obtain ⟨_, _, _, _, _, reserves, _⟩ := reserves
  exact reserves.active

theorem SessionConfig.Rows.restored {required : CashArgument} {finality : ExecutionFinality}
    (unresolved : finality ≠ .resolved)
    (done : db.restore config.accountKey config.executionId request required finality = .ok after) :
    config.Rows after request := by
  obtain ⟨claims, reserves⟩ := restore_ok unresolved done
  refine ⟨claims.claimed_iff.2 (.inr rfl), fun buy => ?_⟩
  simp only [buy] at reserves
  obtain ⟨_, _, _, reserves⟩ := reserves
  exact reserves.active

end Rows

/-- What a call tells of the rows of the current intent: that they are there, or that they may be gone. -/
def Event.secures : Event → Option Bool
  | ⟨.prepare _ _ _ _ _, .ok _⟩ | ⟨.restore _ _ _ _ _, .ok _⟩ => some true
  | ⟨.updateFinality _ _ _ .resolved, _⟩ | ⟨.journalWrite (.persistIntent _) _, _⟩ => some false
  | _ => none

def Trace.secured : Trace → Bool
  | [] => false
  | event :: trace => event.secures.getD (Trace.secured trace)

/-- What a call makes of the debt of an execution to the coordinator: a restart incurs it that finds
the execution SUBMITTED without rows that it knows of, and a `restore` that returns settles it. -/
def Event.owes (secured : Bool) : Event → Option Bool
  | ⟨.restore _ _ _ _ _, .ok _⟩ | ⟨.journalWrite (.persistIntent _) _, _⟩ => some false
  | ⟨.journalRead, .ok payload⟩ =>
      if payload.machine.state = .submitted then some (!secured) else none
  | _ => none

def Trace.owing : Trace → Bool
  | [] => false
  | event :: trace => (event.owes (Trace.secured trace)).getD (Trace.owing trace)

/-- The order of a SUBMITTED execution has been sent and not been rejected, or a new process has read
the journal. -/
structure Ledger.Handed (ledger : Ledger) : Prop where
  spent : ledger.armed = none
  unrejected : ∀ request exc, ledger.placed = some (request, .error exc) →
    exc.isA .brokerSubmissionRejected = false

/-- An unresolved execution has its rows, unless it is SUBMITTED and its order has not been sent, or it
owes them. -/
structure Covered (config : SessionConfig) (db : CoordinationStore) (trace : Trace) : Prop where
  prepared : ∀ request available required,
    (Ledger.ofTrace trace).prepared = some (request, available, required) → config.Rows db request
  secured : trace.secured = true → ∀ payload request, (Ledger.ofTrace trace).disk = some payload →
    payload.data.intent = some (.ofRequest request) → config.Rows db request
  unresolved : ∀ payload request, (Ledger.ofTrace trace).disk = some payload →
    payload.data.intent = some (.ofRequest request) →
    executionFinality payload.machine ≠ .resolved →
    (payload.machine.state = .submitted → (Ledger.ofTrace trace).Handed) → trace.owing = false →
    config.Rows db request

theorem ofRequest_injective : Function.Injective Intent.ofRequest := by
  intro request other same
  have rebuilt := request_of_ofRequest request
  rw [same, request_of_ofRequest other] at rebuilt
  exact (Except.ok.inj rebuilt).symm

theorem placed_spent {trace : Trace} {sent : ExecutionRequest × Except Exc Int}
    (placed : (Ledger.ofTrace trace).placed = some sent) : (Ledger.ofTrace trace).armed = none := by
  induction trace with
  | nil => cases placed
  | cons event trace ih =>
      obtain ⟨command, answer⟩ := event
      by_cases quiet : command.isQuiet = true
      · obtain ⟨-, -, armed, same, -⟩ := Ledger.after_quiet (Ledger.ofTrace trace) answer quiet
        exact armed.trans (ih (same.symm.trans placed))
      · cases command with
        | placeOrder request => rfl
        | journalRead =>
            cases answer with
            | ok payload => rfl
            | error exc => exact ih placed
        | journalWrite writer payload =>
            cases writer with
            | persistIntent request => cases answer <;> cases placed
            | _ => cases answer <;> exact ih placed
        | _ => exact absurd rfl quiet

theorem Ledger.Handed.unreleasable {ledger : Ledger} {request : ExecutionRequest} {payload : Payload}
    (handed : payload.machine.state = .submitted → ledger.Handed)
    (unresolved : executionFinality payload.machine ≠ .resolved) :
    ¬ ledger.Releasable request payload := by
  rintro (resolved | ⟨submitted, -, armed | ⟨exc, placed, rejected⟩⟩)
  · exact unresolved resolved
  · rw [(handed submitted).spent] at armed
    cases armed
  · rw [(handed submitted).unrejected request exc placed] at rejected
    cases rejected

theorem Ledger.Departs.handed {trace : Trace} {event : TradeEvent} {before result : MachineSnapshot}
    {session : Option SessionEvidence} {precheck : Option PrecheckEvidence}
    (departs : (Ledger.ofTrace trace).Departs event) (submitted : before.state = .submitted)
    (step : advance before event session precheck = .ok result)
    (unresolved : executionFinality result ≠ .resolved) : (Ledger.ofTrace trace).Handed := by
  obtain ⟨edge, changed, -, -⟩ := advance_ok step
  obtain ⟨state, facts⟩ := before
  obtain ⟨state', facts'⟩ := result
  dsimp only at edge changed submitted
  subst submitted
  cases event with
  | submitAccepted =>
      obtain ⟨request, orderId, placed⟩ := departs
      refine ⟨placed_spent placed, ?_⟩
      intro other exc also
      cases placed.symm.trans also
  | submitAmbiguous =>
      obtain ⟨request, exc, placed, definite⟩ := departs
      refine ⟨placed_spent placed, ?_⟩
      intro other exc' also
      cases placed.symm.trans also
      exact definite
  | restartRecovery =>
      obtain ⟨armed, placed⟩ := departs
      refine ⟨armed, ?_⟩
      intro other exc also
      cases placed.symm.trans also
  | preBrokerRejected | submitRejected | preBrokerAborted =>
      cases edge
      cases changed
      exact absurd rfl unresolved
  | _ => exact departs.elim

theorem advance_unresolved {snapshot result : MachineSnapshot} {event : TradeEvent}
    {session : Option SessionEvidence} {precheck : Option PrecheckEvidence} (sound : snapshot.Sound)
    (step : advance snapshot event session precheck = .ok result)
    (resolved : executionFinality snapshot = .resolved)
    (unresolved : executionFinality result ≠ .resolved) :
    event = .intentPersisted ∧ result.state = .submitted := by
  obtain ⟨edge, changed, -, -⟩ := advance_ok step
  have fit := sound.fit
  obtain ⟨state, facts⟩ := snapshot
  obtain ⟨state', facts'⟩ := result
  dsimp only at *
  unfold executionFinality at resolved unresolved
  cases event
  case intentPersisted =>
    cases state <;> cases edge
    exact ⟨rfl, rfl⟩
  case fatal =>
    cases changed
    cases state <;> cases edge <;> simp_all [SafetyFacts.Fit]
  all_goals
    cases state <;> cases edge <;> simp_all

namespace Covered

variable {config : SessionConfig} {db after : CoordinationStore} {trace : Trace} {command : Command}
  {answer : Except Exc (Result command)}

theorem initial (config : SessionConfig) : Covered config {} [] where
  prepared := by
    intro request available required prepared
    cases prepared
  secured := by
    intro secured
    cases secured
  unresolved := by
    intro payload request disk
    cases disk

theorem rows (covered : Covered config db trace)
    (kept : ∀ request, config.Rows db request → config.Rows after request) :
    Covered config after trace where
  prepared := by
    intro request available required prepared
    exact kept request (covered.prepared request available required prepared)
  secured := by
    intro secured payload request disk intent
    exact kept request (covered.secured secured payload request disk intent)
  unresolved := by
    intro payload request disk intent unresolved handed owing
    exact kept request (covered.unresolved payload request disk intent unresolved handed owing)

theorem other (covered : Covered config db trace) {call : CoordinatorCall}
    (done : call.execute db = .ok after)
    (different : ∀ request, config.holder request ≠ call.holder) : Covered config after trace :=
  covered.rows fun request rows => rows.other done (different request)

theorem still (covered : Covered config db trace) {event : Event} (untold : event.secures = none)
    (unpaid : event.owes trace.secured = none)
    (disk : (Ledger.ofTrace (event :: trace)).disk = (Ledger.ofTrace trace).disk)
    (armed : (Ledger.ofTrace (event :: trace)).armed = (Ledger.ofTrace trace).armed)
    (placed : (Ledger.ofTrace (event :: trace)).placed = (Ledger.ofTrace trace).placed)
    (prepared : ∀ request available required,
      (Ledger.ofTrace (event :: trace)).prepared = some (request, available, required) →
        (Ledger.ofTrace trace).prepared = some (request, available, required)) :
    Covered config db (event :: trace) where
  prepared := by
    intro request available required now
    exact covered.prepared request available required (prepared request available required now)
  secured := by
    intro secured payload request now intent
    rw [Trace.secured, untold] at secured
    exact covered.secured secured payload request (disk.symm.trans now) intent
  unresolved := by
    intro payload request now intent unresolved handed owing
    rw [Trace.owing, unpaid] at owing
    apply covered.unresolved payload request (disk.symm.trans now) intent unresolved _ owing
    intro submitted
    obtain ⟨spent, unrejected⟩ := handed submitted
    rw [armed] at spent
    rw [placed] at unrejected
    exact ⟨spent, unrejected⟩

theorem settled (covered : Covered config db trace) {event : Event} {request : ExecutionRequest}
    (rows : config.Rows db request) (speaks : Anchored.Speaks (event :: trace) request)
    (prepared : ∀ other available required,
      (Ledger.ofTrace (event :: trace)).prepared = some (other, available, required) →
        other = request ∨ (Ledger.ofTrace trace).prepared = some (other, available, required)) :
    Covered config db (event :: trace) := by
  have durable : ∀ payload other, (Ledger.ofTrace (event :: trace)).disk = some payload →
      payload.data.intent = some (.ofRequest other) → config.Rows db other := by
    intro payload other disk intent
    obtain ⟨payload', disk', intent'⟩ := speaks.durable
    cases disk.symm.trans disk'
    rw [ofRequest_injective (Option.some.inj (intent.symm.trans intent'))]
    exact rows
  refine ⟨?_, fun _ => durable, fun payload other disk intent _ _ _ => durable payload other disk intent⟩
  intro other available required now
  rcases prepared other available required now with rfl | earlier
  · exact rows
  · exact covered.prepared other available required earlier

theorem released (ruled : Trace.Ruled config trace)
    {request : ExecutionRequest} {payload : Payload} {answer : Except Exc Unit}
    (carrying : (Ledger.ofTrace trace).Carrying request payload)
    (allowed : .resolved = executionFinality payload.machine ∨
      (Ledger.ofTrace trace).Releasable request payload) :
    Covered config after (⟨.updateFinality config.accountKey config.executionId request .resolved,
      answer⟩ :: trace) where
  prepared := by
    intro other available required prepared
    cases prepared
  secured := by
    intro secured
    cases secured
  unresolved := by
    intro payload' other disk intent unresolved handed _
    have durable := intact_disk (Trace.Ruled.guarded ruled) (Trace.Ruled.unfailed ruled) carrying.1
    cases durable.symm.trans disk
    rcases allowed with resolved | releasable
    · exact absurd resolved.symm unresolved
    · exfalso
      apply Ledger.Handed.unreleasable _ unresolved releasable
      intro submitted
      exact ⟨(handed submitted).spent, (handed submitted).unrejected⟩

theorem read (covered : Covered config db trace) {payload : Payload}
    (file : (Ledger.ofTrace trace).disk = some payload) :
    Covered config db (⟨.journalRead, .ok payload⟩ :: trace) where
  prepared := by
    intro request available required prepared
    cases prepared
  secured := by
    intro secured payload' request disk intent
    exact covered.secured secured payload' request disk intent
  unresolved := by
    intro payload' request disk intent unresolved _ owing
    cases file.symm.trans disk
    have owes : Event.owes trace.secured ⟨.journalRead, .ok payload⟩ =
        if payload.machine.state = .submitted then some (!trace.secured) else none := rfl
    rw [Trace.owing, owes] at owing
    by_cases submitted : payload.machine.state = .submitted
    · rw [if_pos submitted] at owing
      exact covered.secured (by simpa using owing) payload request file intent
    · rw [if_neg submitted] at owing
      exact covered.unresolved payload request file intent unresolved
        (fun also => absurd also submitted) owing

theorem writes (covered : Covered config db trace) (ruled : Trace.Ruled config trace)
    {writer : JournalWriter} {payload : Payload}
    (permitted : trace.permits config (.journalWrite writer payload))
    (orderly : trace.orderly (.journalWrite writer payload)) :
    Covered config db (⟨.journalWrite writer payload, .ok ()⟩ :: trace) := by
  by_cases created : writer = .create
  · subst created
    obtain ⟨-, rfl⟩ := permitted
    refine ⟨covered.prepared, ?_, ?_⟩
    · intro _ payload request disk intent
      cases disk
      cases intent
    · intro payload request disk intent
      cases disk
      cases intent
  obtain ⟨before, memory, changes⟩ : ∃ before, (Ledger.ofTrace trace).memory = some before ∧
      (Ledger.ofTrace trace).Changes before writer payload := by
    cases writer <;> first | exact absurd rfl created | exact permitted
  have guarded := Trace.Ruled.guarded ruled
  have durable := intact_disk guarded (Trace.Ruled.unfailed ruled) memory
  have sound := (Trace.Guarded.consistent guarded (.inl memory)).sound
  by_cases started : ∃ request, writer = .persistIntent request
  · obtain ⟨request, rfl⟩ := started
    refine ⟨?_, ?_, ?_⟩
    · intro other available required prepared
      cases prepared
    · intro secured
      cases secured
    · intro payload' other disk intent unresolved
      exfalso
      apply unresolved
      cases disk
      obtain ⟨-, state, -, -, rfl⟩ := changes
      show executionFinality before.machine = .resolved
      unfold executionFinality
      rw [state]
      rfl
  by_cases cleared : writer = .clearCycleData
  · subst cleared
    obtain ⟨-, rfl⟩ := changes
    refine ⟨covered.prepared, ?_, ?_⟩
    · intro _ payload' request disk intent
      cases disk
      cases intent
    · intro payload' request disk intent
      cases disk
      cases intent
  have kept := (changes_keep changes (fun request same => started ⟨request, same⟩) cleared).1
  have disk : (Ledger.ofTrace (⟨.journalWrite writer payload, .ok ()⟩ :: trace)).disk = some payload :=
    Ledger.written_disk _ _ _
  have rest : Event.secures ⟨.journalWrite writer payload, .ok ()⟩ = none ∧
      Event.owes trace.secured ⟨.journalWrite writer payload, .ok ()⟩ = none ∧
      (Ledger.ofTrace (⟨.journalWrite writer payload, .ok ()⟩ :: trace)).armed =
        (Ledger.ofTrace trace).armed ∧
      (Ledger.ofTrace (⟨.journalWrite writer payload, .ok ()⟩ :: trace)).placed =
        (Ledger.ofTrace trace).placed ∧
      (Ledger.ofTrace (⟨.journalWrite writer payload, .ok ()⟩ :: trace)).prepared =
        (Ledger.ofTrace trace).prepared := by
    cases writer <;> first | exact ⟨rfl, rfl, rfl, rfl, rfl⟩ | exact absurd ⟨_, rfl⟩ started
  obtain ⟨untold, unpaid, armed, placed, prepared⟩ := rest
  refine ⟨?_, ?_, ?_⟩
  · intro request available required now
    exact covered.prepared request available required (prepared.symm.trans now)
  · intro secured payload' request now intent
    cases disk.symm.trans now
    rw [Trace.secured, untold] at secured
    exact covered.secured secured before request durable (kept.symm.trans intent)
  · intro payload' request now intent unresolved handed owing
    cases disk.symm.trans now
    rw [Trace.owing, unpaid] at owing
    have carried : before.data.intent = some (.ofRequest request) := kept.symm.trans intent
    by_cases moved : ∃ event, writer = .transition event
    · obtain ⟨event, rfl⟩ := moved
      obtain ⟨warrants, session, precheck, snapshot, details, step, rfl⟩ := changes
      by_cases resolved : executionFinality before.machine = .resolved
      · -- only the durable intent leaves a resolved state, and its order has not been sent
        obtain ⟨rfl, submitted⟩ := advance_unresolved sound step resolved unresolved
        obtain ⟨request', started, -⟩ := warrants
        have spent := (handed submitted).spent
        rw [armed, started] at spent
        cases spent
      · apply covered.unresolved before request durable carried resolved _ owing
        intro submitted
        exact Ledger.Departs.handed (orderly before memory submitted) submitted step unresolved
    · have machine := changes_machine changes fun event same => moved ⟨event, same⟩
      rw [machine] at unresolved handed
      apply covered.unresolved before request durable carried unresolved _ owing
      intro submitted
      obtain ⟨spent, unrejected⟩ := handed submitted
      rw [armed] at spent
      rw [placed] at unrejected
      exact ⟨spent, unrejected⟩

theorem call (coordinated : config.coordinated = true) (covered : Covered config db trace)
    (ruled : Trace.Ruled config trace)
    (permitted : trace.permits config command) (orderly : trace.orderly command)
    (regular : Event.Regular ⟨command, answer⟩) (file : trace.FileLaw command answer)
    (law : db.Answers command answer after) : Covered config after (⟨command, answer⟩ :: trace) := by
  have kept (keeps : Event.isRelease ⟨command, answer⟩ = false) : Covered config after trace :=
    covered.rows fun request rows => rows.answers law keeps
  -- a call that concerns neither the journal nor the order nor the rows
  have idle (quiet : command.isQuiet = true) (keeps : Event.isRelease ⟨command, answer⟩ = false)
      (untold : Event.secures ⟨command, answer⟩ = none)
      (unpaid : Event.owes trace.secured ⟨command, answer⟩ = none)
      (unprepared : ∀ request available required, (command = .prepare config.accountKey
        config.executionId request available required ∧ answer.isOk = true) → False) :
      Covered config after (⟨command, answer⟩ :: trace) := by
    obtain ⟨-, disk, armed, placed, -⟩ := Ledger.after_quiet (Ledger.ofTrace trace) answer quiet
    apply (kept keeps).still untold unpaid disk armed placed
    intro request available required prepared
    rcases Ledger.after_prepared permitted prepared with ⟨earlier, -⟩ | new
    · exact earlier
    · exact (unprepared request available required new).elim
  cases command with
  | prepare accountKey executionId request available required =>
      obtain ⟨rfl, rfl, ⟨payload, submitting⟩, -⟩ := permitted
      have speaks := Anchored.speaks ruled ⟨submitting.memory, submitting.intent⟩
      cases answer with
      | error exc =>
          apply idle rfl rfl rfl rfl
          rintro _ _ _ ⟨-, returned⟩
          cases returned
      | ok value =>
          rcases law with done | ⟨failed, -⟩
          · apply (kept rfl).settled (SessionConfig.Rows.prepared done) (speaks.quiet rfl _)
            intro other available' required' prepared
            cases prepared
            exact .inl rfl
          · cases failed
  | restore accountKey executionId request required finality =>
      obtain ⟨rfl, rfl, payload, carrying, -, unresolved⟩ := permitted
      have speaks := Anchored.speaks ruled carrying
      have keeps : Event.isRelease ⟨.restore config.accountKey config.executionId request required
          finality, answer⟩ = false := by
        cases finality <;> first | rfl | exact absurd rfl unresolved
      cases answer with
      | error exc =>
          apply idle rfl keeps rfl rfl
          rintro _ _ _ ⟨other, -⟩
          cases other
      | ok value =>
          rcases law with done | ⟨failed, -⟩
          · apply (kept keeps).settled (SessionConfig.Rows.restored unresolved done)
              (speaks.quiet rfl _)
            intro other available' required' prepared
            exact .inr prepared
          · cases failed
  | updateFinality accountKey executionId request finality =>
      obtain ⟨rfl, rfl, payload, carrying, allowed⟩ := permitted
      by_cases resolved : finality = .resolved
      · subst resolved
        apply released ruled carrying
        rcases allowed with same | ⟨-, releasable⟩
        · exact .inl same
        · exact .inr releasable
      · have told : Event.isRelease ⟨.updateFinality config.accountKey config.executionId request
            finality, answer⟩ = false ∧ Event.secures ⟨.updateFinality config.accountKey
              config.executionId request finality, answer⟩ = none := by
          cases finality <;> first | exact ⟨rfl, rfl⟩ | exact absurd rfl resolved
        apply idle rfl told.1 told.2 rfl
        rintro _ _ _ ⟨other, -⟩
        cases other
  | journalWrite writer payload =>
      cases answer with
      | error exc => cases regular
      | ok done =>
          rw [show after = db from law.1]
          exact covered.writes ruled permitted orderly
  | journalRead =>
      rw [show after = db from law.1]
      cases answer with
      | ok payload => exact covered.read file
      | error exc => exact covered.still rfl rfl rfl rfl rfl fun _ _ _ prepared => prepared
  | placeOrder request =>
      obtain ⟨⟨payload, submitting⟩, -, prepares⟩ := permitted
      rw [show after = db from law.1]
      refine ⟨covered.prepared, covered.secured, ?_⟩
      intro payload' other disk intent _ _ _
      obtain ⟨available, required, prepared, -⟩ := prepares coordinated
      cases submitting.disk.symm.trans disk
      rw [ofRequest_injective (Option.some.inj (intent.symm.trans submitting.intent))]
      exact covered.prepared request available required prepared
  | _ =>
      apply idle rfl rfl rfl rfl
      rintro _ _ _ ⟨other, -⟩
      cases other

end Covered

/-- What the session has been told is there is there, and a claim comes with reserved cash. -/
structure Backed (config : SessionConfig) (db : CoordinationStore) (trace : Trace) : Prop where
  anchored : Anchored config db trace
  held : trace.tenure = .held → ∀ payload request, (Ledger.ofTrace trace).disk = some payload →
    payload.data.intent = some (.ofRequest request) →
    (config.holder request, request.symbol) ∈ db.claimed
  cash : ∀ payload request, (Ledger.ofTrace trace).disk = some payload →
    payload.data.intent = some (.ofRequest request) →
    (config.holder request, request.symbol) ∈ db.claimed → config.Rows db request

theorem hasClaim_true {db : CoordinationStore} {accountKey executionId : String}
    {request : ExecutionRequest} (owned : db.hasClaim accountKey executionId request = .ok true) :
    (⟨accountKey, executionId, request.clientOrderId⟩, request.symbol) ∈ db.claimed := by
  unfold CoordinationStore.hasClaim at owned
  obtain ⟨-, -, owned⟩ := except_bind owned
  split at owned
  · cases owned
  · rename_i claim found
    split_ifs at owned with own
    obtain ⟨member, slot⟩ := claimOf_some found
    exact claimed_of_slot member ((claim_carries slot).1 own) slot

namespace Backed

variable {config : SessionConfig} {db after : CoordinationStore} {trace : Trace} {command : Command}
  {answer : Except Exc (Result command)}

theorem initial (config : SessionConfig) : Backed config {} [] where
  anchored := .initial config
  held := by
    intro held
    cases held
  cash := by
    intro payload request disk
    cases disk

theorem other (backed : Backed config db trace) {call : CoordinatorCall}
    (done : call.execute db = .ok after) (foreign : ¬ config.Owns call.holder) :
    Backed config after trace := by
  have apart (request : ExecutionRequest) : config.holder request ≠ call.holder := by
    intro same
    exact foreign (same ▸ ⟨rfl, rfl⟩)
  refine ⟨backed.anchored.other done foreign, ?_, ?_⟩
  · intro held payload request disk intent
    exact (execute_other done (apart request)).2 (backed.held held payload request disk intent)
  · intro payload request disk intent listed
    have earlier := (execute_other done (apart request)).1 listed
    exact (backed.cash payload request disk intent earlier).other done (apart request)

theorem settled (anchored : Anchored config after (⟨command, answer⟩ :: trace))
    {request : ExecutionRequest} (rows : config.Rows after request)
    (speaks : Anchored.Speaks (⟨command, answer⟩ :: trace) request) :
    Backed config after (⟨command, answer⟩ :: trace) := by
  have durable : ∀ payload other, (Ledger.ofTrace (⟨command, answer⟩ :: trace)).disk = some payload →
      payload.data.intent = some (.ofRequest other) → config.Rows after other := by
    intro payload other disk intent
    obtain ⟨payload', disk', intent'⟩ := speaks.durable
    cases disk.symm.trans disk'
    rw [ofRequest_injective (Option.some.inj (intent.symm.trans intent'))]
    exact rows
  refine ⟨anchored, fun _ payload other disk intent => (durable payload other disk intent).claim, ?_⟩
  intro payload other disk intent _
  exact durable payload other disk intent

theorem still (backed : Backed config db trace)
    (anchored : Anchored config db (⟨command, answer⟩ :: trace))
    (untold : Event.tenure ⟨command, answer⟩ = none)
    (durable : ∀ payload request, (Ledger.ofTrace (⟨command, answer⟩ :: trace)).disk = some payload →
      payload.data.intent = some (.ofRequest request) → ∃ payload',
        (Ledger.ofTrace trace).disk = some payload' ∧
          payload'.data.intent = some (.ofRequest request)) :
    Backed config db (⟨command, answer⟩ :: trace) := by
  refine ⟨anchored, ?_, ?_⟩
  · intro held payload request disk intent
    rw [tenure_kept untold] at held
    obtain ⟨payload', disk', intent'⟩ := durable payload request disk intent
    exact backed.held held payload' request disk' intent'
  · intro payload request disk intent listed
    obtain ⟨payload', disk', intent'⟩ := durable payload request disk intent
    exact backed.cash payload' request disk' intent' listed

theorem unsure (backed : Backed config db trace)
    (anchored : Anchored config db (⟨command, answer⟩ :: trace)) (quiet : command.isQuiet = true)
    (unheld : Trace.tenure (⟨command, answer⟩ :: trace) ≠ .held) :
    Backed config db (⟨command, answer⟩ :: trace) := by
  refine ⟨anchored, fun held => absurd held unheld, ?_⟩
  intro payload request disk intent listed
  have same := (Ledger.after_quiet (Ledger.ofTrace trace) answer quiet).2.1
  exact backed.cash payload request (same.symm.trans disk) intent listed

theorem transact (backed : Backed config db trace) {call : CoordinatorCall}
    (anchored : Anchored config after (⟨command, answer⟩ :: trace))
    (same : command.transaction = some call) (speaks : Anchored.Speaks trace call.request)
    (mine : call.holder = config.holder call.request) (quiet : command.isQuiet = true)
    (law : db.Answers command answer after)
    (doubtful : answer.isOk = false → Trace.tenure (⟨command, answer⟩ :: trace) ≠ .held)
    (vacant : call.releases = true → Trace.tenure (⟨command, answer⟩ :: trace) ≠ .held) :
    Backed config after (⟨command, answer⟩ :: trace) := by
  unfold Answers at law
  simp only [same] at law
  rcases law with done | ⟨failed, rfl⟩
  · cases releases : call.releases with
    | true =>
        refine ⟨anchored, fun held => absurd held (vacant releases), ?_⟩
        intro payload request disk intent listed
        have own : config.Owns (config.holder request) := ⟨rfl, rfl⟩
        have gone := (backed.anchored.commits speaks mine done).1 _ listed own
        rw [releases] at gone
        cases gone.2
    | false =>
        apply settled anchored _ (speaks.quiet quiet answer)
        have effect := execute_ok done
        rw [releases] at effect
        simp only [Bool.false_eq_true, if_false] at effect
        have claim : (config.holder call.request, call.request.symbol) ∈ after.claimed :=
          mine ▸ execute_claims done releases
        refine ⟨claim, fun buy => ?_⟩
        rcases effect with marks | ⟨-, reserves⟩
        · obtain ⟨payload, disk, intent⟩ := speaks.durable
          have rows := backed.cash payload call.request disk intent (marks.2.1 ▸ claim)
          exact (rows.kept done releases).cash buy
        · simp only [buy] at reserves
          obtain ⟨amount, -, reserves⟩ := reserves
          rw [← mine]
          exact reserves.active
  · exact backed.unsure anchored quiet (doubtful failed)

theorem writes (backed : Backed config db trace) (ruled : Trace.Ruled config trace)
    {writer : JournalWriter} {payload : Payload}
    (anchored : Anchored config db (⟨.journalWrite writer payload, .ok ()⟩ :: trace))
    (permitted : trace.permits config (.journalWrite writer payload)) :
    Backed config db (⟨.journalWrite writer payload, .ok ()⟩ :: trace) := by
  have disk : (Ledger.ofTrace (⟨.journalWrite writer payload, .ok ()⟩ :: trace)).disk = some payload :=
    Ledger.written_disk _ _ _
  by_cases created : writer = .create
  · subst created
    obtain ⟨-, rfl⟩ := permitted
    apply backed.still anchored rfl
    intro payload' request now intent
    cases disk.symm.trans now
    cases intent
  obtain ⟨before, memory, changes⟩ : ∃ before, (Ledger.ofTrace trace).memory = some before ∧
      (Ledger.ofTrace trace).Changes before writer payload := by
    cases writer <;> first | exact absurd rfl created | exact permitted
  have durable := intact_disk (Trace.Ruled.guarded ruled) (Trace.Ruled.unfailed ruled) memory
  by_cases started : ∃ request, writer = .persistIntent request
  · obtain ⟨request, rfl⟩ := started
    have unowned {entry : Holder × String} (listed : entry ∈ db.claimed) : ¬ config.Owns entry.1 := by
      intro own
      obtain ⟨payload', request', disk', intent', -⟩ := backed.anchored.claims entry listed own
      cases durable.symm.trans disk'
      rw [changes.2.2.1] at intent'
      cases intent'
    refine ⟨anchored, ?_, ?_⟩
    · intro held
      rw [tenure_kept rfl] at held
      obtain ⟨payload', disk', intended⟩ := ruled_owned ruled held
      cases durable.symm.trans disk'
      exact absurd changes.2.2.1 intended
    · intro payload' other _ _ listed
      exact absurd ⟨rfl, rfl⟩ (unowned listed)
  apply backed.still anchored rfl
  intro payload' request now intent
  cases disk.symm.trans now
  by_cases cleared : writer = .clearCycleData
  · subst cleared
    obtain ⟨-, rfl⟩ := changes
    cases intent
  · have kept := (changes_keep changes (fun request same => started ⟨request, same⟩) cleared).1
    exact ⟨before, durable, kept.symm.trans intent⟩

theorem call (backed : Backed config db trace) (ruled : Trace.Ruled config trace)
    (anchored : Anchored config after (⟨command, answer⟩ :: trace))
    (permitted : trace.permits config command) (regular : Event.Regular ⟨command, answer⟩)
    (law : db.Answers command answer after) : Backed config after (⟨command, answer⟩ :: trace) := by
  have quietly (still' : after = db) (quiet : command.isQuiet = true)
      (untold : Event.tenure ⟨command, answer⟩ = none) :
      Backed config after (⟨command, answer⟩ :: trace) := by
    subst still'
    apply backed.still anchored untold
    intro payload request disk intent
    have same := (Ledger.after_quiet (Ledger.ofTrace trace) answer quiet).2.1
    exact ⟨payload, same.symm.trans disk, intent⟩
  cases command with
  | prepare accountKey executionId request available required =>
      obtain ⟨rfl, rfl, ⟨payload, submitting⟩, -⟩ := permitted
      apply backed.transact anchored rfl
        (Anchored.speaks ruled ⟨submitting.memory, submitting.intent⟩) rfl rfl law
      · cases answer <;> simp [Trace.tenure, Event.tenure, Except.isOk, Except.toBool]
      · intro released
        cases released
  | restore accountKey executionId request required finality =>
      obtain ⟨rfl, rfl, payload, carrying, -, unresolved⟩ := permitted
      apply backed.transact anchored rfl (Anchored.speaks ruled carrying) rfl rfl law
      · cases answer <;> simp [Trace.tenure, Event.tenure, Except.isOk, Except.toBool]
      · intro released
        exact absurd (of_decide_eq_true released) unresolved
  | updateFinality accountKey executionId request finality =>
      obtain ⟨rfl, rfl, payload, carrying, -⟩ := permitted
      apply backed.transact anchored rfl (Anchored.speaks ruled carrying) rfl rfl law
      · cases answer <;> simp [Trace.tenure, Event.tenure, Except.isOk, Except.toBool]
      · intro released
        cases of_decide_eq_true released
        exact released_tenure answer
  | hasClaim accountKey executionId request =>
      obtain ⟨rfl, rfl, payload, carrying⟩ := permitted
      have speaks := Anchored.speaks ruled carrying
      obtain ⟨rfl, replies⟩ := law
      by_cases owned : answer = .ok true
      · subst owned
        have told : after.hasClaim config.accountKey config.executionId request = .ok true := by
          rcases replies _ _ _ _ rfl with same | ⟨exc, same, -⟩
          · exact same.symm
          · cases same
        obtain ⟨payload', disk, intent⟩ := speaks.durable
        exact settled anchored (backed.cash payload' request disk intent (hasClaim_true told))
          (speaks.quiet rfl _)
      · apply backed.unsure anchored rfl
        cases answer with
        | ok value => cases value <;> simp_all [Trace.tenure, Event.tenure]
        | error exc =>
            simp only [Trace.tenure, Event.tenure, Option.getD_some]
            split_ifs <;> decide
  | journalWrite writer payload =>
      cases answer with
      | error exc => cases regular
      | ok done =>
          obtain ⟨rfl, -⟩ := law
          exact backed.writes ruled anchored permitted
  | journalRead =>
      obtain ⟨rfl, -⟩ := law
      apply backed.still anchored rfl
      intro payload request disk intent
      cases answer <;> exact ⟨payload, disk, intent⟩
  | placeOrder request =>
      obtain ⟨rfl, -⟩ := law
      apply backed.still anchored rfl
      intro payload other disk intent
      exact ⟨payload, disk, intent⟩
  | _ => exact quietly law.1 rfl rfl

end Backed

namespace Shared

variable {ι : Type} {configs : ι → SessionConfig}
  {config : Config Command Result SessionState Exc Operation (Option ExecutionSnapshot) ι (Shared ι)}

variable [DecidableEq ι]

theorem Undisturbed.covered (coordinated : ∀ i, (configs i).coordinated = true)
    (distinct : Distinct configs) (reachable : Undisturbed configs config) (i : ι) :
    Covered (configs i) config.world.store (config.world.logs i) := by
  apply Undisturbed.each Covered coordinated distinct Covered.initial _ _ reachable
  · intro config db after trace command answer coordinated ruled _ covered permitted orderly file
      regular law
    exact covered.call coordinated ruled permitted orderly regular file law
  · intro config db after trace call covered done foreign
    apply covered.other done
    intro request mine
    exact foreign (mine ▸ ⟨rfl, rfl⟩)

theorem Undisturbed.backed (coordinated : ∀ i, (configs i).coordinated = true)
    (distinct : Distinct configs) (reachable : Undisturbed configs config) (i : ι)
    (undoubted : (config.world.logs i).undoubted = true) :
    Backed (configs i) config.world.store (config.world.logs i) := by
  revert undoubted
  apply Undisturbed.each (fun config db trace => Trace.undoubted trace = true →
    Backed config db trace) coordinated distinct _ _ _ reachable
  · intro config _
    exact .initial config
  · intro config db after trace command answer _ ruled slots backed permitted orderly _ regular law
      undoubted
    have earlier := backed (Bool.and_eq_true_iff.1 undoubted).1
    exact earlier.call ruled
      (earlier.anchored.call ruled slots permitted orderly regular law undoubted) permitted regular law
  · intro config db after trace call backed done foreign undoubted
    exact (backed undoubted).other done foreign

/-- At every point of every run whose journal writes complete, with crashes and failures of the
coordinator between any two calls, an execution that its journal records as unresolved and not as
SUBMITTED has the claim of its symbol and, for a BUY, reserved cash, unless a restart has found it
SUBMITTED without rows that it knows of and no `restore` has returned since. -/
theorem unresolved_own_rows (coordinated : ∀ i, (configs i).coordinated = true)
    (distinct : Distinct configs) (reachable : Undisturbed configs config) {i : ι}
    {payload : Payload} {request : ExecutionRequest}
    (disk : (Ledger.ofTrace (config.world.logs i)).disk = some payload)
    (intent : payload.data.intent = some (.ofRequest request))
    (unresolved : executionFinality payload.machine ≠ .resolved)
    (moved : payload.machine.state ≠ .submitted) (settled : (config.world.logs i).owing = false) :
    ((configs i).holder request, request.symbol) ∈ config.world.store.claimed ∧
      (request.side = .buy → config.world.store.Active ((configs i).holder request)) := by
  have rows := (Undisturbed.covered coordinated distinct reachable i).unresolved payload request disk
    intent unresolved (fun submitted => absurd submitted moved) settled
  exact ⟨rows.claim, rows.cash⟩

theorem unresolved_own_rows_occupied :
    ((pair true).holder laterRequest, laterRequest.symbol) ∈
      (complying pair occupied).world.store.claimed := by
  have recorded : (Ledger.ofTrace ((complying pair occupied).world.logs true)).disk.any (fun payload =>
      payload.data.intent = some (.ofRequest laterRequest) && payload.machine.state = .unknown) = true := by
    decide +kernel
  obtain ⟨payload, disk, facts⟩ := (Option.any_eq_true _ _).1 recorded
  rw [Bool.and_eq_true, decide_eq_true_eq, decide_eq_true_eq] at facts
  obtain ⟨intent, state⟩ := facts
  have unresolved : executionFinality payload.machine ≠ .resolved := by
    unfold executionFinality
    rw [state]
    simp
  exact (unresolved_own_rows (fun _ => rfl) pair_distinct (complying_undisturbed pair occupied) disk
    intent unresolved (by rw [state]; decide) (by decide +kernel)).1

/-- Whenever an operation other than `close` returns, the rows of its session are those that its journal
asks for: an unresolved execution has its claim and, for a BUY, reserved cash, and a resolved one has
no rows. -/
theorem returned_in_agreement (coordinated : ∀ i, (configs i).coordinated = true)
    (distinct : Distinct configs) (reachable : Undisturbed configs config) {i : ι}
    {operation : Operation} {out : Option ExecutionSnapshot} {memory : SessionState}
    (ended : (config.phase i).finished = some (operation, .ok out, memory))
    (unclosed : operation ≠ .close) (undoubted : (config.world.logs i).undoubted = true) :
    ∃ payload, (Ledger.ofTrace (config.world.logs i)).disk = some payload ∧
      (executionFinality payload.machine = .resolved → (configs i).Rowless config.world.store) ∧
      (executionFinality payload.machine ≠ .resolved → ∀ request,
        payload.data.intent = some (.ofRequest request) →
          ((configs i).holder request, request.symbol) ∈ config.world.store.claimed ∧
            (request.side = .buy → config.world.store.Active ((configs i).holder request))) := by
  have busy := Phase.finished_some ended
  obtain ⟨asked, earlier, under⟩ := reachable.asked busy
  obtain ⟨idle, before⟩ := under.idle
  obtain ⟨-, leaves⟩ := Undisturbed.leaves coordinated earlier before under busy
  obtain ⟨-, ruled⟩ := reachable.lawful coordinated i
  have backed := Undisturbed.backed coordinated distinct reachable i undoubted
  have told : ∃ payload, (Ledger.ofTrace (config.world.logs i)).memory = some payload ∧
      (payload.data.intent ≠ none → (config.world.logs i).tenure =
        if executionFinality payload.machine = .resolved then .vacant else .held) := by
    cases operation with
    | close => exact absurd rfl unclosed
    | submit request => exact leaves.2 rfl
    | nextCycle =>
        obtain ⟨payload, kept, none⟩ := leaves rfl
        exact ⟨payload, kept, fun intended => absurd none intended⟩
    | openSession | poll | reconcile | cancel => exact leaves rfl
  obtain ⟨payload, kept, tells⟩ := told
  have disk := intact_disk (Trace.Ruled.guarded ruled) (Trace.Ruled.unfailed ruled) kept
  refine ⟨payload, disk, fun resolved => ?_, fun unresolved request intent => ?_⟩
  · apply backed.anchored.rowless
    intro entry listed own
    obtain ⟨payload', request, disk', intent, -⟩ := backed.anchored.claims entry listed own
    cases disk.symm.trans disk'
    have vacant := tells (by rw [intent]; exact Option.some_ne_none _)
    rw [if_pos resolved] at vacant
    exact backed.anchored.vacant vacant entry listed own
  · have held := tells (by rw [intent]; exact Option.some_ne_none _)
    rw [if_neg unresolved] at held
    have rows := backed.cash payload request disk intent (backed.held held payload request disk intent)
    exact ⟨rows.claim, rows.cash⟩

def returning : List (Bool × SessionDeed) :=
  deedsOf true ([.start] ++ call .openSession ++ [.invoke (.submit laterRequest), .answer 100 {}])

theorem returned_in_agreement_returning :
    ((pair true).holder laterRequest, laterRequest.symbol) ∈
      (complying pair returning).world.store.claimed := by
  have ended : ((complying pair returning).phase true).finished.any (fun done =>
      done.1 = .submit laterRequest && done.2.1.isOk) = true := by decide +kernel
  obtain ⟨⟨operation, result, memory⟩, finished, facts⟩ := (Option.any_eq_true _ _).1 ended
  rw [Bool.and_eq_true, decide_eq_true_eq] at facts
  obtain ⟨rfl, returned⟩ := facts
  cases result with
  | error exc => cases returned
  | ok out =>
      obtain ⟨payload, disk, -, owns⟩ := returned_in_agreement (fun _ => rfl) pair_distinct
        (complying_undisturbed pair returning) finished (by decide) (by decide +kernel)
      have recorded : (Ledger.ofTrace ((complying pair returning).world.logs true)).disk.all
          (fun payload => payload.data.intent = some (.ofRequest laterRequest) &&
            payload.machine.state = .unknown) = true := by decide +kernel
      rw [disk, Option.all_some, Bool.and_eq_true, decide_eq_true_eq, decide_eq_true_eq] at recorded
      obtain ⟨intent, state⟩ := recorded
      apply (owns _ laterRequest intent).1
      unfold executionFinality
      rw [state]
      simp

end Shared

end QmtExecution
