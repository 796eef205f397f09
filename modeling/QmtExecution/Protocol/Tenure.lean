import QmtExecution.Guarantees.Legality
import QmtExecution.Guarantees.Stability

/-! Where an execution stands with the coordinator: what the latest call has told the session about
its rows. A cycle is never cleared while they are known to be there. -/

namespace QmtExecution

open Interaction Method

/-- What the latest call to the coordinator has told: there are no rows of the execution, they are
there, or the call has raised and nobody knows. -/
inductive Tenure
  | vacant
  | held
  | doubtful
  deriving DecidableEq

def Event.tenure : Event → Option Tenure
  | ⟨.prepare _ _ _ _ _, answer⟩ => some (if answer.isOk then .held else .doubtful)
  | ⟨.restore _ _ _ _ _, answer⟩ => some (if answer.isOk then .held else .doubtful)
  | ⟨.updateFinality _ _ _ finality, answer⟩ =>
      some (if answer.isOk then if finality = .resolved then .vacant else .held else .doubtful)
  | ⟨.hasClaim _ _ _, .ok owned⟩ => some (if owned then .held else .vacant)
  | ⟨.hasClaim _ _ _, .error exc⟩ =>
      some (if exc.isA .symbolClaimConflict then .vacant else .doubtful)
  | _ => none

def Trace.tenure : Trace → Tenure
  | [] => .vacant
  | event :: trace => event.tenure.getD (Trace.tenure trace)

theorem tenure_kept {event : Event} (untold : event.tenure = none) (trace : Trace) :
    Trace.tenure (event :: trace) = Trace.tenure trace := by
  unfold Trace.tenure
  rw [untold]
  cases trace <;> rfl

/-- The events that take an execution out of SUBMITTED: it ends without an order, or `place_order`
has returned or left the outcome open, or a new process has found it. -/
def Ledger.Departs (ledger : Ledger) : TradeEvent → Prop
  | .preBrokerRejected | .preBrokerAborted | .submitRejected => True
  | .submitAccepted => ∃ request orderId, ledger.placed = some (request, .ok orderId)
  | .submitAmbiguous => ∃ request exc, ledger.placed = some (request, .error exc) ∧
      exc.isA .brokerSubmissionRejected = false
  | .restartRecovery => ledger.armed = none ∧ ledger.placed = none
  | _ => False

def Trace.orderly (trace : Trace) : Command → Prop
  | .journalWrite (.transition event) _ => ∀ before, (Ledger.ofTrace trace).memory = some before →
      before.machine.state = .submitted → (Ledger.ofTrace trace).Departs event
  | .journalWrite .clearCycleData _ => trace.tenure ≠ .held
  | .restore _ _ _ _ _ => trace.tenure = .vacant
  | _ => True

/-- Journal writes complete, and a release raises no exception of the broker. -/
def Event.Regular : Event → Prop
  | ⟨.journalWrite _ _, answer⟩ => answer.isOk = true
  | ⟨.updateFinality _ _ _ _, .error exc⟩ => exc.isA .brokerError = false
  | _ => True

def Trace.regular (trace : Trace) (command : Command) (answer : Except Exc (Result command))
    (after : Trace) : Prop :=
  trace.answers command answer after ∧ Event.Regular ⟨command, answer⟩

abbrev Trace.Ruled (config : SessionConfig) : Trace → Prop :=
  Interaction.Guarded (· = [])
    (fun trace command => trace.permits config command ∧ trace.orderly command) Trace.regular

/-- An open session between two calls: its memory, its trace and its rows go together. -/
structure Bearing (object : SessionState) (trace : Trace) (payload : Payload) : Prop where
  settled : Settled object trace payload
  sound : payload.machine.Sound
  intended : ∀ intent, payload.data.intent = some intent → ∃ request, intent = .ofRequest request
  unowned : payload.data.intent = none → trace.tenure ≠ .held

structure Ready (object : SessionState) (trace : Trace) (payload : Payload) : Prop extends
    Bearing object trace payload where
  unnamed : payload.machine.state = .submitted → payload.data.brokerOrderId = none
  spent : payload.machine.state = .submitted → (Ledger.ofTrace trace).armed = none

def Cleared (trace : Trace) (payload : Payload) : Prop :=
  executionFinality payload.machine = .resolved → trace.tenure ≠ .held

/-- The session has told the coordinator where its execution stands. -/
structure Level (object : SessionState) (trace : Trace) (payload : Payload) : Prop extends
    Ready object trace payload where
  cleared : Cleared trace payload

def Primed (object : SessionState) (trace : Trace) : Prop := ∃ payload, Ready object trace payload

def Squared (object : SessionState) (trace : Trace) : Prop := ∃ payload, Level object trace payload

def Balanced (object : SessionState) (trace : Trace) : Prop :=
  object.isOpen = true → Squared object trace

abbrev Orderly {α : Type} (method : SessionM α) (object : SessionState) (trace : Trace)
    (ok : α → SessionState → Trace → Prop) (err : Exc → SessionState → Trace → Prop) : Prop :=
  method.Meets Trace.orderly Trace.regular object trace ok err

theorem Squared.balanced {object : SessionState} {trace : Trace} (squared : Squared object trace) :
    Balanced object trace := fun _ => squared

theorem Squared.primed {object : SessionState} {trace : Trace} (squared : Squared object trace) :
    Primed object trace := by
  obtain ⟨payload, level⟩ := squared
  exact ⟨payload, level.toReady⟩

theorem Cleared.of_sent {trace : Trace} {payload : Payload}
    (sent : payload.machine.state ∈ sentStates) : Cleared trace payload := by
  intro resolved
  revert sent resolved
  unfold executionFinality sentStates
  cases payload.machine.state <;> simp

section Rules

variable {α : Type} {object : SessionState} {trace : Trace} {payload : Payload}
  {err : Exc → SessionState → Trace → Prop}

theorem orderly_ask {command : Command} {ok : Result command → SessionState → Trace → Prop}
    (permitted : trace.orderly command)
    (answered : ∀ value, trace.FileLaw command (.ok value) → Event.Regular ⟨command, .ok value⟩ →
      ok value object (⟨command, .ok value⟩ :: trace))
    (raised : ∀ exc, Event.Regular ⟨command, .error exc⟩ →
      err exc object (⟨command, .error exc⟩ :: trace)) :
    Orderly (ask command) object trace ok err := by
  refine (meets_perform command).2 ⟨permitted, ?_, ?_⟩
  · intro value after law
    obtain ⟨⟨file, rfl⟩, regular⟩ := law
    exact answered value file regular
  · intro exc after law
    obtain ⟨⟨-, rfl⟩, regular⟩ := law
    exact raised exc regular

theorem orderly_ofExcept {outcome : Except Exc α} {ok : α → SessionState → Trace → Prop}
    (value : ∀ v, outcome = .ok v → ok v object trace)
    (raised : ∀ exc, outcome = .error exc → err exc object trace) :
    Orderly (ofExcept outcome) object trace ok err := by
  cases outcome with
  | ok v => exact value v rfl
  | error exc => exact raised exc rfl

theorem orderly_journal_requireOpen {ok : Payload → SessionState → Trace → Prop}
    (settled : Settled object trace payload) (next : ok payload object trace) :
    Orderly ExecutionJournal.requireOpen object trace ok err := by
  simpa [ExecutionJournal.requireOpen, settled.held] using next

theorem orderly_write {writer : JournalWriter} {ok : Unit → SessionState → Trace → Prop}
    (permitted : trace.orderly (.journalWrite writer payload))
    (answered : ok () { object with payload := some payload }
      (⟨.journalWrite writer payload, .ok ()⟩ :: trace)) :
    Orderly (ExecutionJournal.write writer payload) object trace ok err := by
  simp only [ExecutionJournal.write, Orderly, meets_bind, meets_update]
  apply orderly_ask permitted
  · intro value _ _
    exact answered
  · intro exc regular
    cases regular

theorem Bearing.quiet (bearing : Bearing object trace payload) {command : Command}
    (quiet : command.isQuiet = true) (answer : Except Exc (Result command))
    (untold : Event.tenure ⟨command, answer⟩ = none) :
    Bearing object (⟨command, answer⟩ :: trace) payload where
  settled := bearing.settled.quiet quiet answer
  sound := bearing.sound
  intended := bearing.intended
  unowned := by
    rw [tenure_kept untold]
    exact bearing.unowned

theorem Bearing.told (bearing : Bearing object trace payload) {command : Command}
    (quiet : command.isQuiet = true) (answer : Except Exc (Result command))
    (held : payload.data.intent.isSome = true) :
    Bearing object (⟨command, answer⟩ :: trace) payload where
  settled := bearing.settled.quiet quiet answer
  sound := bearing.sound
  intended := bearing.intended
  unowned := by
    intro missing
    rw [missing] at held
    cases held

theorem Ready.quiet (ready : Ready object trace payload) {command : Command}
    (quiet : command.isQuiet = true) (answer : Except Exc (Result command))
    (untold : Event.tenure ⟨command, answer⟩ = none) :
    Ready object (⟨command, answer⟩ :: trace) payload :=
  ⟨ready.toBearing.quiet quiet answer untold, ready.unnamed, fun submitted =>
    (Ledger.after_quiet _ answer quiet).2.2.1.trans (ready.spent submitted)⟩

theorem Ready.told (ready : Ready object trace payload) {command : Command}
    (quiet : command.isQuiet = true) (answer : Except Exc (Result command))
    (held : payload.data.intent.isSome = true) :
    Ready object (⟨command, answer⟩ :: trace) payload :=
  ⟨ready.toBearing.told quiet answer held, ready.unnamed, fun submitted =>
    (Ledger.after_quiet _ answer quiet).2.2.1.trans (ready.spent submitted)⟩

theorem Ready.of_moved (bearing : Bearing object trace payload)
    (moved : payload.machine.state ≠ .submitted) : Ready object trace payload :=
  ⟨bearing, fun submitted => absurd submitted moved, fun submitted => absurd submitted moved⟩

theorem Cleared.congr {after : Trace} {payload' : Payload} (cleared : Cleared trace payload)
    (same : after.tenure = trace.tenure) (machine : payload'.machine = payload.machine) :
    Cleared after payload' := by
  intro resolved
  rw [machine] at resolved
  rw [same]
  exact cleared resolved

theorem Bearing.data (bearing : Bearing object trace payload) (writer : JournalWriter)
    {data : JournalData} (same : data.intent = payload.data.intent) :
    Bearing { object with payload := some { payload with data } }
      (⟨.journalWrite writer { payload with data }, .ok ()⟩ :: trace) { payload with data } where
  settled := bearing.settled.data writer data _
  sound := bearing.sound
  intended := by
    intro intent held
    exact bearing.intended intent (same.symm.trans held)
  unowned := by
    intro missing
    rw [tenure_kept rfl]
    exact bearing.unowned (same.symm.trans missing)

theorem orderly_writeData {writer : JournalWriter} {data : JournalData}
    {ok : Unit → SessionState → Trace → Prop} (bearing : Bearing object trace payload)
    (same : data.intent = payload.data.intent)
    (permitted : trace.orderly (.journalWrite writer { payload with data }))
    (next : ∀ object', Bearing object' (⟨.journalWrite writer { payload with data }, .ok ()⟩ :: trace)
        { payload with data } →
      ok () object' (⟨.journalWrite writer { payload with data }, .ok ()⟩ :: trace)) :
    Orderly (ExecutionJournal.writeData writer data) object trace ok err := by
  simp only [ExecutionJournal.writeData, Orderly, meets_bind]
  apply orderly_journal_requireOpen bearing.settled
  exact orderly_write permitted (next _ (bearing.data writer same))

theorem orderly_advance {event : TradeEvent} {details : Details}
    {session : Option SessionEvidence} {precheck : Option PrecheckEvidence}
    {ok : Unit → SessionState → Trace → Prop} (bearing : Bearing object trace payload)
    (departs : payload.machine.state = .submitted → (Ledger.ofTrace trace).Departs event)
    (refused : ∀ exc, advance payload.machine event session precheck = .error exc →
      err exc object trace)
    (next : ∀ snapshot object',
      advance payload.machine event session precheck = .ok snapshot →
      Bearing object' (⟨.journalWrite (.transition event) (payload.record event snapshot details),
        .ok ()⟩ :: trace) (payload.record event snapshot details) →
      ok () object' (⟨.journalWrite (.transition event) (payload.record event snapshot details),
        .ok ()⟩ :: trace)) :
    Orderly (ExecutionSession.transition event details session precheck) object trace ok err := by
  simp only [ExecutionSession.transition, Orderly, meets_bind, meets_read, meets_update]
  rw [bearing.settled.snapshot]
  refine orderly_ofExcept (fun snapshot step => ?_) refused
  simp only [ExecutionJournal.transition, meets_bind, ExecutionJournal.requireOpen, meets_read,
    bearing.settled.held, meets_pure]
  apply orderly_write
  · intro before memory submitted
    cases bearing.settled.memory.symm.trans memory
    exact departs submitted
  · apply next snapshot _ step
    refine ⟨⟨rfl, rfl, Ledger.written_memory _ _ _ _⟩, advance_sound bearing.sound step, ?_, ?_⟩
    · exact bearing.intended
    · intro missing
      rw [tenure_kept rfl]
      exact bearing.unowned missing

theorem advance_moved {machine snapshot : MachineSnapshot} {event : TradeEvent}
    {session : Option SessionEvidence} {precheck : Option PrecheckEvidence}
    (step : advance machine event session precheck = .ok snapshot)
    (other : event ≠ .intentPersisted) : snapshot.state ≠ .submitted := by
  intro submitted
  have edge := (advance_ok step).1
  rw [submitted] at edge
  exact other (transitions_submitted edge)

theorem orderly_transition {event : TradeEvent} {details : Details}
    {session : Option SessionEvidence} {precheck : Option PrecheckEvidence}
    {ok : Unit → SessionState → Trace → Prop} (bearing : Bearing object trace payload)
    (departs : payload.machine.state = .submitted → (Ledger.ofTrace trace).Departs event)
    (other : event ≠ .intentPersisted)
    (refused : ∀ exc, advance payload.machine event session precheck = .error exc →
      err exc object trace)
    (next : ∀ snapshot object',
      advance payload.machine event session precheck = .ok snapshot →
      Ready object' (⟨.journalWrite (.transition event) (payload.record event snapshot details),
        .ok ()⟩ :: trace) (payload.record event snapshot details) →
      ok () object' (⟨.journalWrite (.transition event) (payload.record event snapshot details),
        .ok ()⟩ :: trace)) :
    Orderly (ExecutionSession.transition event details session precheck) object trace ok err := by
  apply orderly_advance bearing departs refused
  intro snapshot object' step bearing'
  exact next snapshot object' step (.of_moved bearing' (advance_moved step other))

end Rules

section Session

variable {object : SessionState} {trace : Trace} {payload : Payload}

theorem Ready.squared (ready : Ready object trace payload) (cleared : Cleared trace payload) :
    Squared object trace := ⟨payload, ready, cleared⟩

theorem Level.squared (level : Level object trace payload) : Squared object trace := ⟨payload, level⟩

theorem Ready.balanced (ready : Ready object trace payload) (cleared : Cleared trace payload) :
    Balanced object trace := (ready.squared cleared).balanced

theorem primes_snapshot {reason : String} (primed : Primed object trace) :
    Orderly (ExecutionSession.snapshot reason) object trace (fun _ => Primed)
      (fun _ => Balanced) := by
  simpa [ExecutionSession.snapshot] using primed

theorem primes_transition {event : TradeEvent} {details : Details} {reason : String}
    (ready : Ready object trace payload) (cleared : Cleared trace payload)
    (departs : payload.machine.state = .submitted → (Ledger.ofTrace trace).Departs event)
    (other : event ≠ .intentPersisted) :
    Orderly (do ExecutionSession.transition event details; ExecutionSession.snapshot reason) object
      trace (fun _ => Primed) (fun _ => Balanced) := by
  refine (meets_bind _ _).2 (orderly_transition ready.toBearing departs other ?_ ?_)
  · intro exc _
    exact ready.balanced cleared
  · intro snapshot object' step ready'
    exact primes_snapshot ⟨_, ready'⟩

theorem primes_toUnknown {reason : String} (ready : Ready object trace payload)
    (cleared : Cleared trace payload) (moved : payload.machine.state ≠ .submitted) :
    Orderly (do ExecutionSession.toUnknown reason; ExecutionSession.snapshot reason) object trace
      (fun _ => Primed) (fun _ => Balanced) := by
  have departs (event : TradeEvent) (submitted : payload.machine.state = .submitted) :
      (Ledger.ofTrace trace).Departs event := absurd submitted moved
  simp only [ExecutionSession.toUnknown, Orderly, meets_bind, meets_read, meets_ite]
  refine ⟨fun _ => ?_, fun _ => ⟨fun _ => ?_, fun _ => ?_⟩⟩
  all_goals
    apply (meets_bind _ _).1
    exact primes_transition ready cleared (departs _) (by decide)

theorem primes_applyObservation {order : BrokerOrder} (ready : Ready object trace payload)
    (cleared : Cleared trace payload) (moved : payload.machine.state ≠ .submitted) :
    Orderly (ExecutionSession.applyObservation order) object trace (fun _ => Primed)
      (fun _ => Balanced) := by
  have departs (event : TradeEvent) (submitted : payload.machine.state = .submitted) :
      (Ledger.ofTrace trace).Departs event := absurd submitted moved
  unfold ExecutionSession.applyObservation
  refine (meets_bind _ _).2 (orderly_journal_requireOpen ready.settled ?_)
  refine (meets_bind _ _).2 (orderly_ofExcept (fun _ _ => ?_) fun _ _ => ready.balanced cleared)
  refine (meets_ite _ _ _).2 ⟨fun _ => ?_, fun _ => ?_⟩
  · exact primes_transition ready cleared (departs _) (by decide)
  · unfold ExecutionJournal.updateObservation
    refine (meets_bind _ _).2 ((meets_bind _ _).2 (orderly_journal_requireOpen ready.settled ?_))
    refine orderly_writeData ready.toBearing rfl trivial ?_
    intro object' bearing
    have ready' : Ready object' _ _ := .of_moved bearing moved
    simp only [meets_bind, meets_read]
    split
    · exact primes_toUnknown ready' (cleared.congr rfl rfl) moved
    · rename_i event known
      apply primes_transition ready' (cleared.congr rfl rfl)
      · intro submitted
        exact absurd submitted moved
      · rintro rfl
        rcases event_for_observation_ok known with same | same | member
        · cases same
        · cases same
        · simp [observationEvents] at member
    · exact primes_snapshot ⟨_, ready'⟩

def Lost (object : SessionState) (trace : Trace) : Prop :=
  ∃ payload, Ready object trace payload ∧ payload.machine.state = .unknown

theorem Ready.of_unknown (bearing : Bearing object trace payload)
    (unknown : payload.machine.state = .unknown) : Ready object trace payload := by
  apply Ready.of_moved bearing
  rw [unknown]
  decide

theorem Cleared.of_unknown (unknown : payload.machine.state = .unknown) : Cleared trace payload := by
  apply Cleared.of_sent
  rw [unknown]
  decide

theorem loses_recoverByRemark (ready : Ready object trace payload)
    (unknown : payload.machine.state = .unknown) :
    Orderly (ExecutionSession.recoverOrder.recoverByRemark payload.data) object trace
      (fun _ => Lost) (fun _ => Lost) := by
  unfold ExecutionSession.recoverOrder.recoverByRemark
  split
  · exact ⟨payload, ready, unknown⟩
  · refine (meets_bind _ _).2 (orderly_ask trivial (fun orders _ _ => ?_) fun exc _ => ?_)
    · have ready' : Ready object (⟨.queryOrders, .ok orders⟩ :: trace) payload :=
        ready.quiet rfl _ rfl
      refine (meets_bind _ _).2 (orderly_ofExcept (fun order _ => ?_) fun _ _ => ?_)
      · simp only [meets_bind, ExecutionJournal.persistBrokerOrderId, meets_ite, meets_raise]
        refine ⟨fun _ => ⟨payload, ready', unknown⟩, fun _ => ?_⟩
        refine orderly_journal_requireOpen ready'.settled ?_
        refine ⟨fun _ => ⟨payload, ready', unknown⟩, fun _ => ?_⟩
        refine orderly_writeData ready'.toBearing rfl trivial ?_
        intro object' bearing
        exact ⟨_, .of_unknown bearing unknown, unknown⟩
      · exact ⟨payload, ready', unknown⟩
    · exact ⟨payload, ready.quiet rfl _ rfl, unknown⟩

theorem primes_recoverUnknown (ready : Ready object trace payload)
    (unknown : payload.machine.state = .unknown) :
    Orderly ExecutionSession.recoverUnknown object trace (fun _ => Primed) (fun _ => Balanced) := by
  unfold ExecutionSession.recoverUnknown
  refine (meets_bind _ _).2 (orderly_journal_requireOpen ready.settled ?_)
  refine (meets_bind _ _).2 ((meets_attempt _).2 ?_)
  have recovers : Orderly (ExecutionSession.recoverOrder payload.data) object trace
      (fun _ => Lost) (fun _ => Lost) := by
    unfold ExecutionSession.recoverOrder
    split
    · rename_i orderId stored
      refine (meets_ite _ _ _).2 ⟨fun _ => ?_, fun _ => loses_recoverByRemark ready unknown⟩
      apply orderly_ask (show trace.orderly (.queryOrder orderId) from trivial)
      · intro order _ _
        exact ⟨payload, ready.quiet rfl _ rfl, unknown⟩
      · intro exc _
        exact ⟨payload, ready.quiet rfl _ rfl, unknown⟩
    · exact loses_recoverByRemark ready unknown
  have moved {payload : Payload} (unknown : payload.machine.state = .unknown) :
      payload.machine.state ≠ .submitted := by
    rw [unknown]
    decide
  apply Meets.weaken recovers
  · rintro order object' after ⟨payload', ready', unknown'⟩
    exact primes_applyObservation ready' (.of_unknown unknown') (moved unknown')
  · rintro exc object' after ⟨payload', ready', unknown'⟩
    refine (meets_ite _ _ _).2 ⟨fun _ => ?_, fun _ => ready'.balanced (.of_unknown unknown')⟩
    apply primes_transition ready' (.of_unknown unknown')
    · intro submitted
      exact absurd submitted (moved unknown')
    · decide

theorem orderly_requireOpen {ok : Unit → SessionState → Trace → Prop}
    (balanced : Balanced object trace)
    (next : ∀ payload, Ready object trace payload → Cleared trace payload → ok () object trace) :
    Orderly ExecutionSession.requireOpen object trace ok (fun _ => Balanced) := by
  simp only [ExecutionSession.requireOpen, Orderly, meets_bind, meets_read, meets_ite, meets_raise,
    meets_pure]
  refine ⟨fun _ => balanced, fun opened => ?_⟩
  simp only [Bool.or_eq_true, not_or] at opened
  obtain ⟨payload, level⟩ := balanced (by simpa using opened.1.1)
  exact next payload level.toReady level.cleared

theorem primes_poll (balanced : Balanced object trace) :
    Orderly ExecutionSession.poll object trace (fun _ => Primed) (fun _ => Balanced) := by
  unfold ExecutionSession.poll
  refine (meets_bind _ _).2 (orderly_requireOpen balanced fun payload ready cleared => ?_)
  refine (meets_bind _ _).2 (orderly_journal_requireOpen ready.settled ?_)
  split
  · simp only [meets_bind, meets_read, meets_ite, meets_raise, ready.settled.snapshot]
    exact ⟨primes_recoverUnknown ready, fun _ => balanced⟩
  · rename_i orderId stored
    have moved : payload.machine.state ≠ .submitted := by
      intro submitted
      rw [ready.unnamed submitted] at stored
      cases stored
    refine (meets_ite _ _ _).2 ⟨fun _ => balanced, fun _ => ?_⟩
    refine (meets_bind _ _).2 ((meets_attempt _).2 (orderly_ask trivial ?_ ?_))
    · intro order _ _
      exact primes_applyObservation (ready.quiet rfl _ rfl) (cleared.congr rfl rfl) moved
    · intro exc _
      refine (meets_ite _ _ _).2 ⟨fun _ => ?_, fun _ => ?_⟩
      · exact primes_toUnknown (ready.quiet rfl _ rfl) (cleared.congr rfl rfl) moved
      · exact (ready.quiet rfl _ rfl).balanced (cleared.congr rfl rfl)

end Session

section Sync

variable {config : SessionConfig} {object : SessionState} {trace : Trace} {payload : Payload}
  {request : ExecutionRequest}

theorem levels_requiredCash (ready : Ready object trace payload)
    (unresolved : executionFinality payload.machine ≠ .resolved) :
    Orderly (CoordinatedExecutionSession.requiredCashForRestore config request) object trace
      (fun _ object after => Ready object after payload ∧ after.tenure = trace.tenure)
      (fun _ object after => Level object after payload) := by
  have cleared (trace : Trace) : Cleared trace payload := fun resolved => absurd resolved unresolved
  unfold CoordinatedExecutionSession.requiredCashForRestore
  split
  · exact ⟨ready, rfl⟩
  · simp only [Orderly, meets_ite, meets_raise, meets_bind, meets_attempt,
      CoordinatedExecutionSession.requiredCashForRestore.estimated]
    refine ⟨fun _ => ⟨ready, cleared _⟩, fun _ => ?_⟩
    refine orderly_ask (show trace.orderly .queryAsset from trivial) (fun asset _ _ => ?_)
      fun exc _ => ⟨ready.quiet rfl _ rfl, cleared _⟩
    have ready' : Ready object (⟨.queryAsset, .ok asset⟩ :: trace) payload := ready.quiet rfl _ rfl
    refine orderly_ask (show Trace.orderly _ (.estimate request asset) from trivial)
      (fun estimate _ _ => ⟨ready'.quiet rfl _ rfl, rfl⟩) fun exc _ => ?_
    exact ⟨ready'.quiet rfl _ rfl, cleared _⟩

def Trace.Told (trace : Trace) : Prop :=
  ∃ payload, (Ledger.ofTrace trace).memory = some payload ∧ (payload.data.intent ≠ none →
    trace.tenure = if executionFinality payload.machine = .resolved then .vacant else .held)

theorem Settled.told (settled : Settled object trace payload)
    (same : trace.tenure =
      if executionFinality payload.machine = .resolved then .vacant else .held) : trace.Told :=
  ⟨payload, settled.memory, fun _ => same⟩

theorem levels_syncRequest (ready : Ready object trace payload)
    (held : payload.data.intent = some (.ofRequest request)) :
    Orderly (CoordinatedExecutionSession.syncRequest config request) object trace
      (fun _ object after => Level object after payload ∧ after.Told)
      (fun _ object after => Level object after payload) := by
  have intent : payload.data.intent.isSome = true := Option.isSome_of_eq_some held
  unfold CoordinatedExecutionSession.syncRequest
  simp only [Orderly, meets_bind, meets_read, meets_ite, meets_attempt, ready.settled.snapshot]
  refine ⟨fun resolved => ?_, fun unresolved => ?_⟩
  · have vacated {after : Trace} (ready' : Ready object after payload) (vacant : after.tenure = .vacant) :
        Level object after payload ∧ after.Told := by
      refine ⟨⟨ready', fun _ => ?_⟩, ready'.settled.told ?_⟩
      · rw [vacant]
        decide
      · rw [if_pos resolved]
        exact vacant
    refine orderly_ask (show trace.orderly (.hasClaim _ _ request) from trivial)
      (fun owned _ _ => ?_) fun exc _ => ?_
    · have ready' : Ready object (⟨.hasClaim config.accountKey config.executionId request,
          .ok owned⟩ :: trace) payload := ready.told rfl _ intent
      refine ⟨fun _ => ?_, fun unowned => ?_⟩
      · apply orderly_ask (show Trace.orderly _ (.updateFinality _ _ request _) from trivial)
        · intro value _ _
          apply vacated (ready'.told rfl _ intent)
          simp [Trace.tenure, Event.tenure, ready.settled.snapshot, resolved, Except.isOk, Except.toBool]
        · intro exc _
          refine ⟨ready'.told rfl _ intent, fun _ => ?_⟩
          simp [Trace.tenure, Event.tenure, Except.isOk, Except.toBool]
      · apply vacated ready'
        simp [Trace.tenure, Event.tenure, unowned]
    · have ready' : Ready object (⟨.hasClaim config.accountKey config.executionId request,
          .error exc⟩ :: trace) payload := ready.told rfl _ intent
      simp only [meets_pure, meets_raise]
      refine ⟨fun conflict => vacated ready' ?_, fun _ => ⟨ready', fun _ => ?_⟩⟩
      · simp [Trace.tenure, Event.tenure, conflict]
      · simp only [Trace.tenure, Event.tenure, Option.getD_some]
        split_ifs
        decide
  · have cleared (trace : Trace) : Cleared trace payload := fun resolved => absurd resolved unresolved
    have kept {object : SessionState} {after : Trace} (ready' : Ready object after payload)
        (held : after.tenure = .held) : Level object after payload ∧ after.Told := by
      refine ⟨⟨ready', cleared _⟩, ready'.settled.told ?_⟩
      rw [if_neg unresolved]
      exact held
    refine orderly_ask (show trace.orderly (.hasClaim _ _ request) from trivial)
      (fun owned _ _ => ?_) fun exc _ => ⟨ready.told rfl _ intent, cleared _⟩
    have ready' : Ready object (⟨.hasClaim config.accountKey config.executionId request,
        .ok owned⟩ :: trace) payload := ready.told rfl _ intent
    refine ⟨fun _ => ?_, fun unowned => ?_⟩
    · apply orderly_ask (show Trace.orderly _ (.updateFinality _ _ request _) from trivial)
      · intro value _ _
        apply kept (ready'.told rfl _ intent)
        simp [Trace.tenure, Event.tenure, ready.settled.snapshot, unresolved, Except.isOk,
          Except.toBool]
      · intro exc _
        exact ⟨ready'.told rfl _ intent, cleared _⟩
    · apply Meets.weaken (levels_requiredCash ready' unresolved)
      · rintro required object' after ⟨ready, same⟩
        have vacant : after.tenure = .vacant := by
          rw [same]
          simp [Trace.tenure, Event.tenure, unowned]
        apply orderly_ask (show after.orderly (.restore _ _ request _ _) from vacant)
        · intro value _ _
          apply kept (ready.told rfl _ intent)
          simp [Trace.tenure, Event.tenure, Except.isOk, Except.toBool]
        · intro exc _
          exact ⟨ready.told rfl _ intent, cleared _⟩
      · intro exc object' after level
        exact level

theorem request_of_ofRequest (request : ExecutionRequest) :
    CoordinatedExecutionSession.requestOf (.ofRequest request) = .ok request := by
  unfold CoordinatedExecutionSession.requestOf
  rw [dif_pos]
  · rfl
  · exact ⟨request.clientOrderId_ne, request.symbol_ne, request.strategyId_ne,
      request.orderRemark_ne, request.qty_pos, request.limitPrice_pos⟩

theorem levels_sync {out : ExecutionSnapshot} (ready : Ready object trace payload) :
    Orderly (CoordinatedExecutionSession.sync config out) object trace
      (fun _ object after => Level object after payload ∧ after.Told)
      (fun _ object after => Level object after payload) := by
  unfold CoordinatedExecutionSession.sync CoordinatedExecutionSession.durableRequest
  simp only [Orderly, meets_bind, meets_read, ready.settled.held]
  split
  · rename_i missing
    refine ⟨⟨ready, fun _ => ready.unowned missing⟩, payload, ready.settled.memory, ?_⟩
    intro intended
    exact absurd missing intended
  · rename_i intent held
    simp only [meets_bind]
    have rebuilds (exc : Exc) (refused : CoordinatedExecutionSession.requestOf intent = .error exc) :
        Level object trace payload := by
      obtain ⟨request, rfl⟩ := ready.intended intent held
      rw [request_of_ofRequest] at refused
      cases refused
    refine orderly_ofExcept (fun request rebuilt => ?_) rebuilds
    have durable : payload.data.intent = some (.ofRequest request) := by
      rw [CoordinatedExecutionSession.request_of_ok rebuilt]
      exact held
    simp only [meets_pure, meets_bind]
    exact levels_syncRequest ready durable

theorem balances_then_sync {method : SessionM ExecutionSnapshot}
    (primes : Orderly method object trace (fun _ => Primed) (fun _ => Balanced)) :
    Orderly (do
      let out ← method
      CoordinatedExecutionSession.sync config out) object trace
        (fun _ object after => Squared object after ∧ after.Told) (fun _ => Balanced) := by
  refine (meets_bind _ _).2 (Meets.weaken primes ?_ ?_)
  · rintro out object' after ⟨payload, ready⟩
    apply Meets.weaken (levels_sync ready)
    · rintro _ _ _ ⟨level, told⟩
      exact ⟨level.squared, told⟩
    · intro _ _ _ level
      exact level.squared.balanced
  · intro exc object' after balanced
    exact balanced

/-- What the operations rely on in the `poll` that they end with. -/
def Polls (selfPoll : SessionM ExecutionSnapshot) : Prop :=
  ∀ object trace, Balanced object trace →
    Orderly selfPoll object trace (fun _ => Primed) (fun _ => Balanced)

theorem coordinated_polls (config : SessionConfig) : Polls (CoordinatedExecutionSession.poll config) := by
  intro object trace balanced
  apply Meets.weaken (balances_then_sync (primes_poll balanced))
  · rintro _ _ _ ⟨squared, -⟩
    exact squared.primed
  · intro _ _ _ balanced
    exact balanced

variable {selfPoll : SessionM ExecutionSnapshot}

theorem primes_reconcile (polls : Polls selfPoll) (balanced : Balanced object trace) :
    Orderly (ExecutionSession.reconcile selfPoll) object trace (fun _ => Primed)
      (fun _ => Balanced) := by
  unfold ExecutionSession.reconcile
  refine (meets_bind _ _).2 (orderly_requireOpen balanced fun payload ready cleared => ?_)
  simp only [meets_bind, meets_read, meets_ite, ready.settled.snapshot]
  refine ⟨primes_recoverUnknown ready, fun _ => ⟨fun _ => polls _ _ balanced, fun _ => ?_⟩⟩
  exact primes_snapshot ⟨payload, ready⟩

theorem primes_cancelled {event : TradeEvent} (polls : Polls selfPoll)
    (ready : Ready object trace payload) (pending : payload.machine.state = .pendingCancel)
    (which : event = .cancelSent ∨ event = .cancelRequestRejected) :
    Orderly (do ExecutionSession.transition event; selfPoll) object trace (fun _ => Primed)
      (fun _ => Balanced) := by
  refine (meets_bind _ _).2 (orderly_transition ready.toBearing ?_ ?_ ?_ ?_)
  · intro submitted
    rw [pending] at submitted
    cases submitted
  · rcases which with rfl | rfl <;> decide
  · intro exc _
    apply ready.balanced
    apply Cleared.of_sent
    rw [pending]
    decide
  · intro snapshot object' step ready'
    apply polls
    apply ready'.balanced
    apply Cleared.of_sent
    have edge := (advance_ok step).1
    rw [pending] at edge
    rcases which with rfl | rfl
    · rw [Payload.record_machine, ← Option.some.inj edge]
      decide
    · rw [Payload.record_machine, ← Option.some.inj edge]
      decide

theorem primes_cancel (polls : Polls selfPoll) (balanced : Balanced object trace) :
    Orderly (ExecutionSession.cancel selfPoll) object trace (fun _ => Primed)
      (fun _ => Balanced) := by
  unfold ExecutionSession.cancel
  refine (meets_bind _ _).2 (orderly_requireOpen balanced fun payload ready cleared => ?_)
  simp only [meets_bind, meets_read, meets_ite, ready.settled.snapshot, meets_raise]
  refine ⟨fun _ => balanced, fun active => orderly_journal_requireOpen ready.settled ?_⟩
  split
  · exact balanced
  · rename_i orderId stored
    refine (meets_ite _ _ _).2 ⟨fun _ => balanced, fun _ => ?_⟩
    simp only [meets_bind, ExecutionJournal.persistCancelIntent]
    refine orderly_journal_requireOpen ready.settled ?_
    refine orderly_writeData ready.toBearing rfl trivial ?_
    intro object₁ bearing
    have moved : payload.machine.state ≠ .submitted := by
      intro submitted
      rw [submitted] at active
      simp at active
    have ready₁ : Ready object₁ _ _ := .of_moved bearing moved
    refine orderly_transition bearing (fun submitted => absurd submitted moved) (by decide)
      (fun _ _ => ready₁.balanced (cleared.congr rfl rfl)) ?_
    intro snapshot object₂ step ready₂
    have pending : snapshot.state = .pendingCancel := transitions_cancelRequested (advance_ok step).1
    have quit (trace : Trace) : Cleared trace (Payload.record { payload with
        data := { payload.data with cancelIntent := some ⟨true⟩ } } .cancelRequested snapshot []) := by
      apply Cleared.of_sent
      rw [Payload.record_machine, pending]
      decide
    refine orderly_ask (show Trace.orderly _ (.beforeBrokerCancel orderId) from trivial)
      (fun _ _ _ => ?_) fun exc _ => (ready₂.quiet rfl _ rfl).balanced (quit _)
    have ready₃ : Ready object₂ (⟨.beforeBrokerCancel orderId, .ok ()⟩ :: _) _ :=
      ready₂.quiet rfl _ rfl
    refine (meets_attempt _).2 (orderly_ask (show Trace.orderly _ (.cancelOrder orderId) from trivial)
      ?_ ?_)
    · rintro (_ | _) _ _
      · exact primes_cancelled polls (ready₃.quiet rfl _ rfl) pending (.inl rfl)
      · exact primes_cancelled polls (ready₃.quiet rfl _ rfl) pending (.inr rfl)
    · intro exc _
      refine (meets_ite _ _ _).2 ⟨fun _ => ?_, fun _ => (ready₃.quiet rfl _ rfl).balanced (quit _)⟩
      exact primes_cancelled polls (ready₃.quiet rfl _ rfl) pending (.inr rfl)

end Sync

end QmtExecution
