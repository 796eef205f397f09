import QmtExecution.Protocol.Durable

/-! The methods of the journal and of `ExecutionSession` follow the protocol. -/

namespace QmtExecution

open Interaction Method

/-- The calls that leave the journal and the sending of orders alone. -/
def Command.isQuiet : Command → Bool
  | .journalRead | .journalWrite _ _ | .placeOrder _ => false
  | _ => true

namespace Ledger

variable {ledger : Ledger} {command : Command} {answer : Except Exc (Result command)}

theorem after_quiet (ledger : Ledger) (answer : Except Exc (Result command))
    (quiet : command.isQuiet = true) :
    (ledger.after command answer).memory = ledger.memory ∧
      (ledger.after command answer).disk = ledger.disk ∧
      (ledger.after command answer).armed = ledger.armed ∧
      (ledger.after command answer).placed = ledger.placed ∧
      (ledger.after command answer).failed = ledger.failed := by
  cases command with
  | journalRead => cases quiet
  | journalWrite writer payload => cases quiet
  | placeOrder request => cases quiet
  | queryOrder orderId => simp [after]
  | queryOrders => simp [after]
  | updateFinality accountKey executionId request finality => cases finality <;> simp [after]
  | _ => cases answer <;> simp [after]

theorem Submitting.quiet {request : ExecutionRequest} {payload : Payload}
    (submitting : ledger.Submitting request payload) (quiet : command.isQuiet = true) :
    (ledger.after command answer).Submitting request payload := by
  obtain ⟨memory, disk, armed, -, -⟩ := after_quiet ledger answer quiet
  exact { submitting with
    armed := armed.trans submitting.armed
    disk := disk.trans submitting.disk
    memory := memory.trans submitting.memory }

end Ledger

/-- The memory of the session and the trace agree on the payload of the journal. -/
structure Settled (object : SessionState) (trace : Trace) (payload : Payload) : Prop where
  held : object.payload = some payload
  snapshot : object.snapshot = payload.machine
  memory : (Ledger.ofTrace trace).memory = some payload

/-- A SUBMITTED execution whose order id is in memory is the trace of a failed write. -/
def Known (trace : Trace) (payload : Payload) : Prop :=
  payload.machine.state = .submitted → payload.data.brokerOrderId ≠ none →
    (Ledger.ofTrace trace).failed = true

/-- What holds of an open session between its operations. -/
def Kept (object : SessionState) (trace : Trace) : Prop :=
  ∃ payload, Settled object trace payload ∧ Known trace payload

def Coherent (object : SessionState) (trace : Trace) : Prop := object.isOpen = true → Kept object trace

theorem Kept.coherent {object : SessionState} {trace : Trace} (kept : Kept object trace) :
    Coherent object trace := fun _ => kept

theorem Settled.quiet {object : SessionState} {trace : Trace} {payload : Payload}
    (settled : Settled object trace payload) {command : Command} (quiet : command.isQuiet = true)
    (answer : Except Exc (Result command)) :
    Settled object (⟨command, answer⟩ :: trace) payload :=
  { settled with memory := (Ledger.after_quiet _ _ quiet).1.trans settled.memory }

theorem Known.quiet {trace : Trace} {payload : Payload} (known : Known trace payload)
    {command : Command} (quiet : command.isQuiet = true) (answer : Except Exc (Result command)) :
    Known (⟨command, answer⟩ :: trace) payload := fun state stored =>
  (Ledger.after_quiet _ _ quiet).2.2.2.2.trans (known state stored)

theorem Kept.quiet {object : SessionState} {trace : Trace} (kept : Kept object trace)
    {command : Command} (quiet : command.isQuiet = true) (answer : Except Exc (Result command)) :
    Kept object (⟨command, answer⟩ :: trace) := by
  obtain ⟨payload, settled, known⟩ := kept
  exact ⟨payload, settled.quiet quiet answer, known.quiet quiet answer⟩

abbrev Runs {α : Type} (config : SessionConfig) (method : SessionM α) (object : SessionState)
    (trace : Trace) (ok : α → SessionState → Trace → Prop)
    (err : Exc → SessionState → Trace → Prop) : Prop :=
  method.Meets (Trace.permits config) Trace.answers object trace ok err

/-- The method follows the protocol and leaves the session as it is between operations. -/
abbrev Keeps {α : Type} (config : SessionConfig) (method : SessionM α) (object : SessionState)
    (trace : Trace) : Prop :=
  Runs config method object trace (fun _ => Kept) (fun _ => Coherent)

section Journal

variable {α : Type} {config : SessionConfig} {object : SessionState} {trace : Trace}
  {payload : Payload} {err : Exc → SessionState → Trace → Prop}

theorem runs_ask {command : Command} {ok : Result command → SessionState → Trace → Prop}
    (permitted : trace.permits config command)
    (answered : ∀ value, trace.FileLaw command (.ok value) →
      ok value object (⟨command, .ok value⟩ :: trace))
    (raised : ∀ exc, trace.FileLaw command (.error exc) →
      err exc object (⟨command, .error exc⟩ :: trace)) :
    Runs config (ask command) object trace ok err := by
  refine (meets_perform command).2 ⟨permitted, ?_, ?_⟩
  · rintro value after ⟨law, rfl⟩
    exact answered value law
  · rintro exc after ⟨law, rfl⟩
    exact raised exc law

theorem runs_ofExcept {outcome : Except Exc α} {ok : α → SessionState → Trace → Prop}
    (value : ∀ v, outcome = .ok v → ok v object trace)
    (raised : ∀ exc, outcome = .error exc → err exc object trace) :
    Runs config (ofExcept outcome) object trace ok err := by
  cases outcome with
  | ok v => exact value v rfl
  | error exc => exact raised exc rfl

theorem runs_journal_requireOpen {ok : Payload → SessionState → Trace → Prop}
    (settled : Settled object trace payload) (next : ok payload object trace) :
    Runs config ExecutionJournal.requireOpen object trace ok err := by
  simpa [ExecutionJournal.requireOpen, settled.held] using next

theorem runs_write {writer : JournalWriter} {ok : Unit → SessionState → Trace → Prop}
    (permitted : trace.permits config (.journalWrite writer payload))
    (answered : ok () { object with payload := some payload }
      (⟨.journalWrite writer payload, .ok ()⟩ :: trace))
    (raised : ∀ exc, err exc { object with payload := some payload }
      (⟨.journalWrite writer payload, .error exc⟩ :: trace)) :
    Runs config (ExecutionJournal.write writer payload) object trace ok err := by
  simp only [ExecutionJournal.write, Runs, meets_bind, meets_update]
  exact runs_ask permitted (fun _ _ => answered) (fun exc _ => raised exc)

theorem Ledger.written_memory (ledger : Ledger) (writer : JournalWriter) (payload : Payload)
    (answer : Except Exc Unit) :
    (ledger.after (.journalWrite writer payload) answer).memory = some payload := by
  cases writer <;> cases answer <;> rfl

theorem Ledger.written_disk (ledger : Ledger) (writer : JournalWriter) (payload : Payload) :
    (ledger.after (.journalWrite writer payload) (.ok ())).disk = some payload := by
  cases writer <;> rfl

theorem Ledger.unwritten_disk (ledger : Ledger) (writer : JournalWriter) (payload : Payload)
    (exc : Exc) :
    (ledger.after (.journalWrite writer payload) (.error exc)).disk = ledger.disk := by
  cases writer <;> rfl

theorem Ledger.written_failed (ledger : Ledger) (writer : JournalWriter) (payload : Payload)
    (exc : Exc) : (ledger.after (.journalWrite writer payload) (.error exc)).failed = true := by
  cases writer <;> rfl

theorem Settled.data (settled : Settled object trace payload) (writer : JournalWriter)
    (data : JournalData) (answer : Except Exc Unit) :
    Settled { object with payload := some { payload with data } }
      (⟨.journalWrite writer { payload with data }, answer⟩ :: trace)
      { payload with data } where
  held := rfl
  snapshot := settled.snapshot
  memory := Ledger.written_memory _ _ _ _

theorem Settled.coherent_failed (settled : Settled object trace payload)
    (failed : (Ledger.ofTrace trace).failed = true) : Coherent object trace :=
  Kept.coherent ⟨payload, settled, fun _ _ => failed⟩

theorem runs_writeData {writer : JournalWriter} {data : JournalData}
    {ok : Unit → SessionState → Trace → Prop} (settled : Settled object trace payload)
    (changes : (Ledger.ofTrace trace).Changes payload writer { payload with data })
    (next : ∀ object' after, Settled object' after { payload with data } →
      after = ⟨.journalWrite writer { payload with data }, .ok ()⟩ :: trace → ok () object' after)
    (raised : ∀ exc object' after, Settled object' after { payload with data } →
      (Ledger.ofTrace after).failed = true →
      after = ⟨.journalWrite writer { payload with data }, .error exc⟩ :: trace →
      err exc object' after) :
    Runs config (ExecutionJournal.writeData writer data) object trace ok err := by
  simp only [ExecutionJournal.writeData, Runs, meets_bind]
  refine runs_journal_requireOpen settled (runs_write ?_ ?_ ?_)
  · cases writer with
    | create => exact changes.elim
    | _ => exact ⟨payload, settled.memory, changes⟩
  · exact next _ _ (settled.data _ _ _) rfl
  · intro exc
    exact raised _ _ _ (settled.data _ _ _) (Ledger.written_failed _ _ _ _) rfl

theorem runs_persistBrokerOrderId {orderId : Int} {ok : Unit → SessionState → Trace → Prop}
    (settled : Settled object trace payload) (held : payload.data.intent.isSome = true)
    (source : (payload.machine.state = .submitted ∧ (Ledger.ofTrace trace).disk = some payload ∧
        ∃ request, (Ledger.ofTrace trace).placed = some (request, .ok orderId)) ∨
      (payload.machine.state = .unknown ∧
        ∃ order, (Ledger.ofTrace trace).asked = some (payload, .ok order) ∧
          order.orderId = orderId))
    (refused : ∀ exc, err exc object trace)
    (next : ∀ object' after,
      Settled object' after { payload with
        data := { payload.data with brokerOrderId := some orderId } } →
      after = ⟨.journalWrite (.persistBrokerOrderId orderId) { payload with
        data := { payload.data with brokerOrderId := some orderId } }, .ok ()⟩ :: trace →
      (payload.data.brokerOrderId = none ∨ payload.data.brokerOrderId = some orderId) →
      ok () object' after)
    (raised : ∀ exc object' after,
      Settled object' after { payload with
        data := { payload.data with brokerOrderId := some orderId } } →
      (Ledger.ofTrace after).failed = true →
      after = ⟨.journalWrite (.persistBrokerOrderId orderId) { payload with
        data := { payload.data with brokerOrderId := some orderId } }, .error exc⟩ :: trace →
      err exc object' after) :
    Runs config (ExecutionJournal.persistBrokerOrderId orderId) object trace ok err := by
  unfold ExecutionJournal.persistBrokerOrderId
  refine (meets_ite _ _ _).2 ⟨fun _ => refused _, fun positive => ?_⟩
  refine (meets_bind _ _).2 (runs_journal_requireOpen settled ?_)
  refine (meets_ite _ _ _).2 ⟨fun _ => refused _, fun agrees => ?_⟩
  have stored : payload.data.brokerOrderId = none ∨ payload.data.brokerOrderId = some orderId := by
    by_contra conflict
    exact agrees (not_or.1 conflict)
  refine runs_writeData settled ⟨not_le.1 positive, held, stored, rfl, source⟩ ?_ raised
  intro object' after settled' same
  exact next object' after settled' same stored

theorem transitions_submitted {state : TradeState} {event : TradeEvent}
    (edge : transitions state event = some .submitted) : event = .intentPersisted := by
  cases state <;> cases event <;> cases edge
  rfl

theorem transitions_intentPersisted {state state' : TradeState}
    (edge : transitions state .intentPersisted = some state') : state' = .submitted := by
  cases state <;> cases edge
  rfl

theorem transitions_precheckVerified {state state' : TradeState}
    (edge : transitions state .precheckVerified = some state') : state' = .preCheck := by
  cases state <;> cases edge
  rfl

theorem transitions_cancelRequested {state state' : TradeState}
    (edge : transitions state .cancelRequested = some state') : state' = .pendingCancel := by
  cases state <;> cases edge <;> rfl

theorem runs_transition {event : TradeEvent} {details : Details}
    {session : Option SessionEvidence} {precheck : Option PrecheckEvidence}
    {ok : Unit → SessionState → Trace → Prop} (settled : Settled object trace payload)
    (refused : ∀ exc, advance payload.machine event session precheck = .error exc →
      Coherent object trace)
    (warrants : ∀ snapshot, advance payload.machine event session precheck = .ok snapshot →
      (Ledger.ofTrace trace).Warrants payload event)
    (next : ∀ snapshot object' after,
      advance payload.machine event session precheck = .ok snapshot →
      Settled object' after (payload.record event snapshot details) →
      (event ≠ .intentPersisted → Known after (payload.record event snapshot details)) →
      after = ⟨.journalWrite (.transition event) (payload.record event snapshot details),
        .ok ()⟩ :: trace →
      ok () object' after) :
    Runs config (ExecutionSession.transition event details session precheck) object trace ok
      (fun _ => Coherent) := by
  simp only [ExecutionSession.transition, Runs, meets_bind, meets_read, meets_update]
  rw [settled.snapshot]
  refine runs_ofExcept (fun snapshot step => ?_) refused
  simp only [ExecutionJournal.transition, meets_bind, ExecutionJournal.requireOpen, meets_read,
    settled.held, meets_pure]
  have permitted : trace.permits config
      (.journalWrite (.transition event) (payload.record event snapshot details)) :=
    ⟨payload, settled.memory, warrants snapshot step, session, precheck, snapshot, details, step,
      rfl⟩
  refine runs_write permitted ?_ ?_
  · have after : Settled { object with
          snapshot, payload := some (payload.record event snapshot details) }
        (⟨.journalWrite (.transition event) (payload.record event snapshot details), .ok ()⟩ ::
          trace) (payload.record event snapshot details) :=
      ⟨rfl, rfl, Ledger.written_memory _ _ _ _⟩
    refine next snapshot _ _ step after (fun other state => ?_) rfl
    have edge := (advance_ok step).1
    rw [show snapshot.state = .submitted from state] at edge
    exact absurd (transitions_submitted edge) other
  · intro exc
    exact Settled.coherent_failed ⟨rfl, rfl, Ledger.written_memory _ _ _ _⟩
      (Ledger.written_failed _ _ _ _)

end Journal

section Session

variable {config : SessionConfig} {object : SessionState} {trace : Trace} {payload : Payload}

theorem keeps_transition {event : TradeEvent} {details : Details}
    {session : Option SessionEvidence} {precheck : Option PrecheckEvidence}
    (settled : Settled object trace payload) (known : Known trace payload)
    (other : event ≠ .intentPersisted)
    (warrants : ∀ snapshot, advance payload.machine event session precheck = .ok snapshot →
      (Ledger.ofTrace trace).Warrants payload event) :
    Keeps config (ExecutionSession.transition event details session precheck) object trace :=
  runs_transition settled (fun _ _ => Kept.coherent ⟨payload, settled, known⟩) warrants
    fun _ _ _ _ settled' known' _ => ⟨_, settled', known' other⟩

theorem keeps_snapshot {reason : String} (kept : Kept object trace) :
    Keeps config (ExecutionSession.snapshot reason) object trace := by
  simpa [ExecutionSession.snapshot] using kept

theorem keeps_then_snapshot {method : SessionM Unit} {reason : String}
    (keeps : Keeps config method object trace) :
    Keeps config (do method; ExecutionSession.snapshot reason) object trace := by
  refine (meets_bind _ _).2 (Meets.weaken keeps ?_ fun _ _ _ coherent => coherent)
  intro _ object' after kept
  exact keeps_snapshot kept

theorem keeps_toUnknown {reason : String} (settled : Settled object trace payload)
    (known : Known trace payload)
    (warrants : transitions payload.machine.state .queryAmbiguous = none →
      (Ledger.ofTrace trace).Warrants payload .fatal) :
    Keeps config (ExecutionSession.toUnknown reason) object trace := by
  simp only [ExecutionSession.toUnknown, Keeps, Runs, meets_bind, meets_read, meets_ite,
    settled.snapshot]
  refine ⟨fun _ => ?_, fun _ => ⟨fun _ => ?_, fun missing => ?_⟩⟩
  · exact keeps_transition settled known (by decide) fun _ _ => trivial
  · exact keeps_transition settled known (by decide) fun _ _ => trivial
  · refine keeps_transition settled known (by decide) fun _ _ => warrants ?_
    simpa using missing

theorem Ledger.Observed.warrants {ledger : Ledger} {before queried : Payload}
    {event : TradeEvent} {order : BrokerOrder} (observed : ledger.Observed before event queried order) :
    ledger.Warrants before event := by
  rcases event_for_observation_ok observed.event with rfl | rfl | member
  · trivial
  · trivial
  · simp only [observationEvents, List.mem_cons, List.not_mem_nil, or_false] at member
    rcases member with rfl | rfl | rfl | rfl | rfl | rfl | rfl | rfl | rfl | rfl | rfl | rfl | rfl
    all_goals exact ⟨queried, order, observed⟩

/-- The latest query, made with `queried` in memory, has identified this order, and the
payload has changed since by at most its order id. -/
structure Sighted (trace : Trace) (payload queried : Payload) (order : BrokerOrder) : Prop where
  asked : (Ledger.ofTrace trace).asked = some (queried, .ok order)
  machine : payload.machine = queried.machine
  intent : payload.data.intent = queried.data.intent
  observation : payload.data.lastObservation = queried.data.lastObservation
  stored : payload.data.brokerOrderId.isSome = true
  kept : queried.data.brokerOrderId = none ∨
    queried.data.brokerOrderId = payload.data.brokerOrderId

theorem Sighted.validated {queried : Payload} {order : BrokerOrder}
    (sighted : Sighted trace payload queried order)
    (valid : ExecutionSession.validateIdentity payload.data order = .ok ()) :
    payload.data.brokerOrderId = some order.orderId ∧
      ExecutionSession.validateIdentity queried.data order = .ok () := by
  obtain ⟨intent, held, known, identity⟩ := ExecutionSession.validate_identity_ok.1 valid
  have stored : payload.data.brokerOrderId = some order.orderId := by
    rcases known with none | stored
    · have some := sighted.stored
      simp [none] at some
    · exact stored
  refine ⟨stored, ExecutionSession.validate_identity_ok.2 ?_⟩
  exact ⟨intent, sighted.intent ▸ held, sighted.kept.imp_right (·.trans stored), identity⟩

theorem keeps_applyObservation {queried : Payload} {order : BrokerOrder}
    (settled : Settled object trace payload) (known : Known trace payload)
    (sighted : Sighted trace payload queried order) :
    Keeps config (ExecutionSession.applyObservation order) object trace := by
  unfold ExecutionSession.applyObservation
  refine (meets_bind _ _).2 (runs_journal_requireOpen settled ?_)
  refine (meets_bind _ _).2 (runs_ofExcept (fun _ valid => ?_) fun _ _ =>
    Kept.coherent ⟨payload, settled, known⟩)
  obtain ⟨stored, identity⟩ := sighted.validated valid
  have previous : ExecutionSession.movedBackwards payload.data order =
      ExecutionSession.movedBackwards queried.data order := by
    simp [ExecutionSession.movedBackwards, sighted.observation]
  refine (meets_ite _ _ _).2 ⟨fun backwards => ?_, fun forwards => ?_⟩
  · refine keeps_then_snapshot (keeps_transition settled known (by decide) fun _ _ => .inr ?_)
    refine ⟨queried, _, sighted.asked, sighted.machine, ?_⟩
    simp [Ledger.unacceptable, identity, previous ▸ backwards]
  · unfold ExecutionJournal.updateObservation
    refine (meets_bind _ _).2 ((meets_bind _ _).2 (runs_journal_requireOpen settled ?_))
    refine runs_writeData settled ⟨queried, sighted.asked, sighted.machine, sighted.intent,
      sighted.observation, valid, stored, by simpa using forwards, rfl⟩ ?_
      fun _ _ _ settled' failed _ => settled'.coherent_failed failed
    rintro object' after settled' rfl
    simp only [meets_bind, meets_read, settled'.snapshot]
    split
    · rename_i exc refused
      refine keeps_then_snapshot (keeps_toUnknown settled' known fun _ => .inr ?_)
      refine ⟨queried, _, sighted.asked, sighted.machine, ?_⟩
      have refused : eventForObservation queried.machine.state order.status = .error exc :=
        sighted.machine ▸ refused
      simp [Ledger.unacceptable, identity, refused, Except.isOk, Except.toBool]
    · rename_i event refines
      refine keeps_then_snapshot (keeps_transition settled' known ?_ fun _ _ => ?_)
      · rintro rfl
        rcases event_for_observation_ok refines with same | same | member
        · cases same
        · cases same
        · simp [observationEvents] at member
      · exact Ledger.Observed.warrants ⟨sighted.asked, rfl, sighted.machine, sighted.intent,
          identity, stored, rfl, refines⟩
    · exact keeps_snapshot ⟨_, settled', known⟩

theorem Ledger.observe_asked {ledger : Ledger} (memory : ledger.memory = some payload)
    (answer : Except Exc BrokerOrder) : (ledger.observe answer).asked = some (payload, answer) := by
  simp [Ledger.observe, memory]

theorem Known.of_unknown (unknown : payload.machine.state = .unknown) : Known trace payload := by
  intro submitted
  rw [unknown] at submitted
  cases submitted

/-- A recovery that ends without an order leaves the session UNKNOWN. -/
def Recovering (object : SessionState) (trace : Trace) : Prop :=
  ∃ payload, Settled object trace payload ∧ payload.machine.state = .unknown ∧
    ((Ledger.ofTrace trace).asked.isSome = true ∨ payload.data.intent = none)

def Recovered (order : BrokerOrder) (object : SessionState) (trace : Trace) : Prop :=
  ∃ payload queried, Settled object trace payload ∧ payload.machine.state = .unknown ∧
    Sighted trace payload queried order

theorem runs_recoverByRemark (settled : Settled object trace payload)
    (unknown : payload.machine.state = .unknown) :
    Runs config (ExecutionSession.recoverOrder.recoverByRemark payload.data) object trace Recovered
      (fun _ => Recovering) := by
  unfold ExecutionSession.recoverOrder.recoverByRemark
  split
  · rename_i missing
    exact ⟨payload, settled, unknown, .inr missing⟩
  · rename_i intent held
    have asked (answer : Except Exc (List BrokerOrder)) :
        (Ledger.ofTrace (⟨.queryOrders, answer⟩ :: trace)).asked.isSome = true :=
      Option.isSome_of_eq_some (Ledger.observe_asked settled.memory _)
    refine (meets_bind _ _).2 (runs_ask ⟨payload, settled.memory, unknown⟩ ?_ ?_)
    · intro orders _
      have settled₀ := settled
      replace settled := settled₀.quiet rfl (.ok orders)
      have recovering : Recovering object (⟨.queryOrders, .ok orders⟩ :: trace) :=
        ⟨payload, settled, unknown, .inl (asked _)⟩
      refine (meets_bind _ _).2 (runs_ofExcept (fun order found => ?_) fun exc _ => ?_)
      · have identified : (Ledger.ofTrace (⟨.queryOrders, .ok orders⟩ :: trace)).asked =
            some (payload, .ok order) := by
          refine (Ledger.observe_asked settled₀.memory _).trans ?_
          simp [Ledger.matched, settled₀.memory, held, Except.bind, found]
        refine (meets_bind _ _).2 (runs_persistBrokerOrderId settled
          (Option.isSome_of_eq_some held) (.inr ⟨unknown, order, identified, rfl⟩)
          (fun _ => recovering) ?_ ?_)
        · rintro object' after settled' rfl stored
          exact ⟨_, payload, settled', unknown, identified, rfl, rfl, rfl, rfl, stored⟩
        · rintro exc object' after settled' - rfl
          exact ⟨_, settled', unknown, .inl (asked _)⟩
      · exact recovering
    · intro exc _
      exact ⟨payload, settled.quiet rfl _, unknown, .inl (asked _)⟩

theorem runs_recoverOrder (settled : Settled object trace payload)
    (unknown : payload.machine.state = .unknown) :
    Runs config (ExecutionSession.recoverOrder payload.data) object trace Recovered
      (fun _ => Recovering) := by
  unfold ExecutionSession.recoverOrder
  split
  · rename_i orderId stored
    refine (meets_ite _ _ _).2 ⟨fun positive => ?_, fun _ => runs_recoverByRemark settled unknown⟩
    have permitted : trace.permits config (.queryOrder orderId) := by
      refine ⟨positive, payload, settled.memory, stored, fun submitted => ?_⟩
      rw [unknown] at submitted
      cases submitted
    refine runs_ask permitted (fun order _ => ?_) fun exc _ => ?_
    · exact ⟨payload, payload, settled.quiet rfl _, unknown,
        Ledger.observe_asked settled.memory _, rfl, rfl, rfl, Option.isSome_of_eq_some stored,
        .inr rfl⟩
    · exact ⟨payload, settled.quiet rfl _, unknown,
        .inl (Option.isSome_of_eq_some (Ledger.observe_asked settled.memory _))⟩
  · exact runs_recoverByRemark settled unknown

theorem keeps_recoverUnknown (settled : Settled object trace payload)
    (unknown : payload.machine.state = .unknown) :
    Keeps config ExecutionSession.recoverUnknown object trace := by
  unfold ExecutionSession.recoverUnknown
  refine (meets_bind _ _).2 (runs_journal_requireOpen settled ?_)
  refine (meets_bind _ _).2 ((meets_attempt _).2 ?_)
  refine Meets.weaken (runs_recoverOrder settled unknown) ?_ ?_
  · intro order object' after recovered
    obtain ⟨payload', queried, settled', unknown', sighted⟩ := recovered
    exact keeps_applyObservation settled' (.of_unknown unknown') sighted
  · intro exc object' after recovering
    obtain ⟨payload', settled', unknown', asked⟩ := recovering
    refine (meets_ite _ _ _).2 ⟨fun _ => ?_, fun _ => ?_⟩
    · exact keeps_then_snapshot (keeps_transition settled' (.of_unknown unknown') (by decide)
        fun _ _ => asked)
    · exact Kept.coherent ⟨payload', settled', .of_unknown unknown'⟩

theorem runs_requireOpen {ok : Unit → SessionState → Trace → Prop}
    (coherent : Coherent object trace) (next : Kept object trace → ok () object trace) :
    Runs config ExecutionSession.requireOpen object trace ok (fun _ => Coherent) := by
  simp only [ExecutionSession.requireOpen, Runs, meets_bind, meets_read, meets_ite, meets_raise,
    meets_pure]
  refine ⟨fun _ => coherent, fun opened => next (coherent ?_)⟩
  simp only [Bool.or_eq_true, not_or] at opened
  simpa using opened.1.1

theorem keeps_poll (coherent : Coherent object trace) :
    Keeps config ExecutionSession.poll object trace := by
  unfold ExecutionSession.poll
  refine (meets_bind _ _).2 (runs_requireOpen coherent ?_)
  rintro ⟨payload, settled, known⟩
  refine (meets_bind _ _).2 (runs_journal_requireOpen settled ?_)
  split
  · simp only [meets_bind, meets_read, meets_ite, meets_raise, settled.snapshot]
    exact ⟨keeps_recoverUnknown settled, fun _ => coherent⟩
  · rename_i orderId stored
    refine (meets_ite _ _ _).2 ⟨fun _ => coherent, fun positive => ?_⟩
    refine (meets_bind _ _).2 ((meets_attempt _).2 (runs_ask ?_ ?_ ?_))
    · exact ⟨not_le.1 positive, payload, settled.memory, stored, fun submitted =>
        known submitted (stored ▸ Option.some_ne_none _)⟩
    · intro order _
      refine keeps_applyObservation (settled.quiet rfl _) (known.quiet rfl _)
        ⟨Ledger.observe_asked settled.memory _, rfl, rfl, rfl, Option.isSome_of_eq_some stored,
          .inr rfl⟩
    · intro exc _
      refine (meets_ite _ _ _).2 ⟨fun ambiguous => ?_, fun _ => ?_⟩
      · refine keeps_then_snapshot (keeps_toUnknown (settled.quiet rfl _) (known.quiet rfl _)
          fun _ => .inr ?_)
        exact ⟨payload, _, Ledger.observe_asked settled.memory _, rfl, ambiguous⟩
      · exact Kept.coherent ⟨payload, settled.quiet rfl _, known.quiet rfl _⟩

theorem keeps_reconcile {selfPoll : SessionM ExecutionSnapshot}
    (polls : ∀ object trace, Coherent object trace → Keeps config selfPoll object trace)
    (coherent : Coherent object trace) :
    Keeps config (ExecutionSession.reconcile selfPoll) object trace := by
  unfold ExecutionSession.reconcile
  refine (meets_bind _ _).2 (runs_requireOpen coherent ?_)
  rintro ⟨payload, settled, known⟩
  simp only [meets_bind, meets_read, meets_ite, settled.snapshot]
  refine ⟨keeps_recoverUnknown settled, fun _ => ⟨fun _ => polls _ _ coherent, fun _ => ?_⟩⟩
  exact keeps_snapshot ⟨payload, settled, known⟩

theorem keeps_cancel {selfPoll : SessionM ExecutionSnapshot}
    (polls : ∀ object trace, Coherent object trace → Keeps config selfPoll object trace)
    (coherent : Coherent object trace) :
    Keeps config (ExecutionSession.cancel selfPoll) object trace := by
  -- once the cancellation is requested, every outcome of the broker call ends in `poll`
  have ending : ∀ (event : TradeEvent) (payload : Payload) (object : SessionState) (trace : Trace),
      Settled object trace payload → payload.machine.state = .pendingCancel →
      event = .cancelSent ∨ event = .cancelRequestRejected →
      Keeps config (do ExecutionSession.transition event; selfPoll) object trace := by
    intro event payload object trace settled pending which
    have known : Known trace payload := fun submitted => by rw [pending] at submitted; cases submitted
    refine (meets_bind _ _).2 (Meets.weaken (keeps_transition settled known ?_ ?_) ?_ ?_)
    · rcases which with rfl | rfl <;> decide
    · rcases which with rfl | rfl <;> exact fun _ _ => trivial
    · exact fun _ object' after kept => polls object' after kept.coherent
    · exact fun _ _ _ coherent => coherent
  unfold ExecutionSession.cancel
  refine (meets_bind _ _).2 (runs_requireOpen coherent ?_)
  rintro ⟨payload, settled, known⟩
  simp only [meets_bind, meets_read, meets_ite, settled.snapshot, meets_raise]
  refine ⟨fun _ => coherent, fun active => runs_journal_requireOpen settled ?_⟩
  split
  · exact coherent
  · rename_i orderId stored
    refine (meets_ite _ _ _).2 ⟨fun _ => coherent, fun positive => ?_⟩
    simp only [meets_bind, ExecutionJournal.persistCancelIntent]
    refine runs_journal_requireOpen settled (runs_writeData settled ⟨not_not.1 active, rfl⟩ ?_
      fun _ _ _ settled' failed _ => settled'.coherent_failed failed)
    rintro object₁ trace₁ settled₁ rfl
    refine runs_transition settled₁ (fun _ _ => Kept.coherent ⟨_, settled₁, known⟩)
      (fun _ _ => ⟨rfl, rfl, orderId, stored, not_le.1 positive⟩) ?_
    rintro snapshot object₂ trace₂ step settled₂ known₂ rfl
    have pending := transitions_cancelRequested (advance_ok step).1
    refine runs_ask ⟨_, rfl, settled₂.memory, pending, stored⟩ (fun _ _ => ?_) fun exc _ => ?_
    · have settled₃ : Settled object₂ (⟨.beforeBrokerCancel orderId, .ok ()⟩ :: _) _ :=
        settled₂.quiet rfl _
      refine (meets_attempt _).2 (runs_ask ⟨_, rfl, settled₃.memory, pending, stored⟩ ?_ ?_)
      · rintro (_ | _) _
        · exact ending .cancelSent _ _ _ (settled₃.quiet rfl _) pending (.inl rfl)
        · exact ending .cancelRequestRejected _ _ _ (settled₃.quiet rfl _) pending (.inr rfl)
      · intro exc _
        refine (meets_ite _ _ _).2 ⟨fun _ => ?_, fun _ => ?_⟩
        · exact ending .cancelRequestRejected _ _ _ (settled₃.quiet rfl _) pending (.inr rfl)
        · exact Kept.coherent
            ⟨_, settled₃.quiet rfl _, ((known₂ (by decide)).quiet rfl _).quiet rfl _⟩
    · exact Kept.coherent ⟨_, settled₂.quiet rfl _, (known₂ (by decide)).quiet rfl _⟩

end Session

/-- The execution of `request` is being submitted and no call of its order has been made. -/
structure Staged (object : SessionState) (trace : Trace) (request : ExecutionRequest)
    (payload : Payload) : Prop where
  settled : Settled object trace payload
  submitting : (Ledger.ofTrace trace).Submitting request payload
  sound : payload.machine.Sound

def Prepared (config : SessionConfig) (trace : Trace) (request : ExecutionRequest) : Prop :=
  config.coordinated = true → ∃ available required,
    (Ledger.ofTrace trace).prepared = some (request, available, required) ∧
      (Ledger.ofTrace trace).Estimated request available required

/-- What `submit` relies on in its hooks and in the broker's `place_order`. -/
structure SessionPorts.Lawful (config : SessionConfig) (ports : SessionPorts) : Prop where
  coordination : ∀ request object trace payload, Staged object trace request payload →
    Runs config (ports.submitCoordination request) object trace
      (fun _ object after => Staged object after request payload ∧ Prepared config after request)
      (fun _ object after => Staged object after request payload)
  sidecar : ∀ request object trace payload, Staged object trace request payload →
    Prepared config trace request →
    Runs config (ports.beforeBrokerSubmit request) object trace
      (fun _ object after => Staged object after request payload ∧
        Prepared config after request ∧ (Ledger.ofTrace after).sidecar = some request)
      (fun _ object after => Staged object after request payload)
  place : ∀ request object trace payload, Staged object trace request payload →
    Prepared config trace request → (Ledger.ofTrace trace).sidecar = some request →
    Runs config (ports.placeOrder request) object trace
      (fun orderId object after => Settled object after payload ∧
        (Ledger.ofTrace after).disk = some payload ∧
        (Ledger.ofTrace after).placed = some (request, .ok orderId))
      (fun exc object after => Settled object after payload ∧
        ∃ raised, (Ledger.ofTrace after).placed = some (request, .error raised) ∧
          (exc.isA .brokerSubmissionRejected = true →
            raised.isA .brokerSubmissionRejected = true))

section Submit

variable {config : SessionConfig} {object : SessionState} {trace : Trace} {payload : Payload}
  {ports : SessionPorts} {request : ExecutionRequest} {selfPoll : SessionM ExecutionSnapshot}

theorem Known.of_none (none : payload.data.brokerOrderId = none) : Known trace payload :=
  fun _ stored => absurd none stored

theorem Staged.coherent (staged : Staged object trace request payload) : Coherent object trace :=
  Kept.coherent ⟨payload, staged.settled, .of_none staged.submitting.orderId⟩

theorem keeps_submitToBroker (lawful : ports.Lawful config)
    (polls : ∀ object trace, Coherent object trace → Keeps config selfPoll object trace)
    (staged : Staged object trace request payload) (prepared : Prepared config trace request)
    (sidecar : (Ledger.ofTrace trace).sidecar = some request) :
    Keeps config (ExecutionSession.submitToBroker selfPoll ports request) object trace := by
  have none := staged.submitting.orderId
  have held := Option.isSome_of_eq_some staged.submitting.intent
  have state := staged.submitting.state
  unfold ExecutionSession.submitToBroker
  refine (meets_bind _ _).2 ((meets_attempt _).2 ?_)
  refine Meets.weaken (lawful.place _ _ _ _ staged prepared sidecar) ?_ ?_
  · rintro orderId object' after ⟨settled, disk, placed⟩
    refine (meets_bind _ _).2 (runs_persistBrokerOrderId settled held
      (.inl ⟨state, disk, request, placed⟩) (fun _ => ?_) ?_
      fun _ _ _ settled' failed _ => settled'.coherent_failed failed)
    · exact Kept.coherent ⟨payload, settled, .of_none none⟩
    · rintro object₁ trace₁ settled₁ rfl -
      refine (meets_bind _ _).2 (runs_transition settled₁ ?_ ?_ ?_)
      · -- an accepted submission is always a step of the machine
        intro exc refused
        have edge : transitions payload.machine.state .submitAccepted = some .accepted := by
          rw [state]
          rfl
        obtain ⟨result, step, -⟩ := advance_enabled staged.sound edge (by decide) nofun
        rw [step] at refused
        cases refused
      · exact fun _ _ => ⟨request, orderId, placed, rfl⟩
      · rintro snapshot object₂ trace₂ step settled₂ known₂ -
        exact polls _ _ (Kept.coherent ⟨_, settled₂, known₂ (by decide)⟩)
  · rintro exc object' after ⟨settled, raised, placed, definite⟩
    refine (meets_ite _ _ _).2 ⟨fun rejected => ?_, fun _ => (meets_ite _ _ _).2 ⟨fun _ => ?_,
      fun _ => Kept.coherent ⟨payload, settled, .of_none none⟩⟩⟩
    · exact keeps_then_snapshot (keeps_transition settled (.of_none none) (by decide)
        fun _ _ => ⟨request, raised, placed, definite rejected⟩)
    · exact keeps_then_snapshot (keeps_transition settled (.of_none none) (by decide)
        fun _ _ => ⟨request, raised, placed⟩)

theorem keeps_submitIntent (lawful : ports.Lawful config)
    (polls : ∀ object trace, Coherent object trace → Keeps config selfPoll object trace)
    (staged : Staged object trace request payload) :
    Keeps config (ExecutionSession.submitIntent selfPoll ports request) object trace := by
  -- a stage that fails before the broker call ends the execution without it
  have ending : ∀ (event : TradeEvent) (details : Details) (object : SessionState) (trace : Trace),
      Staged object trace request payload → event = .preBrokerRejected ∨ event = .preBrokerAborted →
      Keeps config (ExecutionSession.transition event details) object trace := by
    intro event details object trace staged which
    refine keeps_transition staged.settled (.of_none staged.submitting.orderId) ?_ fun _ _ => ?_
    · rcases which with rfl | rfl <;> decide
    · rcases which with rfl | rfl <;> exact ⟨request, staged.submitting⟩
  unfold ExecutionSession.submitIntent
  refine (meets_bind _ _).2 ((meets_attempt _).2 ?_)
  refine Meets.weaken (lawful.coordination _ _ _ _ staged) ?_ ?_
  · rintro - object₁ trace₁ ⟨staged₁, prepared₁⟩
    refine (meets_bind _ _).2 ((meets_attempt _).2 ?_)
    refine Meets.weaken (lawful.sidecar _ _ _ _ staged₁ prepared₁) ?_ ?_
    · rintro - object₂ trace₂ ⟨staged₂, prepared₂, sidecar⟩
      exact keeps_submitToBroker lawful polls staged₂ prepared₂ sidecar
    · rintro exc object₂ trace₂ staged₂
      refine (meets_bind _ _).2 (Meets.weaken (ending _ _ _ _ staged₂ (.inr rfl)) ?_ ?_)
      · exact fun _ _ _ kept => kept.coherent
      · exact fun _ _ _ coherent => coherent
  · rintro exc object₁ trace₁ staged₁
    refine (meets_ite _ _ _).2 ⟨fun _ => ?_, fun _ => ?_⟩
    · exact keeps_then_snapshot (ending _ _ _ _ staged₁ (.inl rfl))
    · refine (meets_bind _ _).2 (Meets.weaken (ending _ _ _ _ staged₁ (.inr rfl)) ?_ ?_)
      · exact fun _ _ _ kept => kept.coherent
      · exact fun _ _ _ coherent => coherent

theorem runs_assertIdentityUnused {ok : Unit → SessionState → Trace → Prop}
    (settled : Settled object trace payload) (coherent : Coherent object trace)
    (next : payload.data.assertIdentityUnused request = .ok () → ok () object trace) :
    Runs config (ExecutionJournal.assertIdentityUnused request) object trace ok
      (fun _ => Coherent) := by
  unfold ExecutionJournal.assertIdentityUnused
  refine (meets_bind _ _).2 (runs_journal_requireOpen settled ?_)
  exact runs_ofExcept (fun _ unused => next unused) fun _ _ => coherent

theorem keeps_persistIntent (request : ExecutionRequest) (lawful : ports.Lawful config)
    (polls : ∀ object trace, Coherent object trace → Keeps config selfPoll object trace)
    (settled : Settled object trace payload) (known : Known trace payload)
    (sound : payload.machine.Sound) (disk : (Ledger.ofTrace trace).disk = some payload)
    (state : payload.machine.state = .preCheck)
    (clean : payload.data.intent = none → payload.data.brokerOrderId = none) :
    Keeps config (do
      ExecutionJournal.persistIntent request
      ExecutionSession.transition .intentPersisted
        [("client_order_id", .text request.clientOrderId)]
      ExecutionSession.submitIntent selfPoll ports request) object trace := by
  have coherent : Coherent object trace := Kept.coherent ⟨payload, settled, known⟩
  refine (meets_bind _ _).2 ?_
  unfold ExecutionJournal.persistIntent
  refine (meets_bind _ _).2 (runs_assertIdentityUnused settled coherent fun unused => ?_)
  refine (meets_bind _ _).2 (runs_journal_requireOpen settled ?_)
  refine (meets_ite _ _ _).2 ⟨fun _ => coherent, fun missing => ?_⟩
  have none : payload.data.intent = none := not_not.1 missing
  simp only [unused, meets_bind, meets_ofExcept_ok]
  refine runs_ofExcept (fun _ _ => ?_) fun _ _ => coherent
  refine runs_writeData settled ⟨disk, state, none, unused, rfl⟩ ?_
    fun _ _ _ settled' failed _ => settled'.coherent_failed failed
  rintro object₁ trace₁ settled₁ rfl
  refine runs_transition settled₁
    (fun _ _ => Kept.coherent ⟨_, settled₁, .of_none (clean none)⟩)
    (fun _ _ => ⟨request, rfl, rfl, rfl⟩) ?_
  rintro snapshot object₂ trace₂ step settled₂ - rfl
  have submitted : snapshot.state = .submitted := transitions_intentPersisted (advance_ok step).1
  exact keeps_submitIntent lawful polls
    ⟨settled₂, ⟨rfl, rfl, settled₂.memory, submitted, rfl, clean none⟩, advance_sound sound step⟩

theorem keeps_submit (lawful : ports.Lawful config)
    (polls : ∀ object trace, Coherent object trace → Keeps config selfPoll object trace)
    (guarded : Trace.Guarded config trace) (coherent : Coherent object trace) :
    Keeps config (ExecutionSession.submit selfPoll ports request) object trace := by
  unfold ExecutionSession.submit
  refine (meets_bind _ _).2 (runs_requireOpen coherent ?_)
  rintro ⟨payload, settled₀, known₀⟩
  have consistent := guarded.consistent (.inl settled₀.memory)
  simp only [meets_bind, meets_read, meets_ite, settled₀.snapshot, meets_raise]
  refine ⟨fun _ => coherent, fun waiting => runs_ask trivial (fun healthy _ => ?_) fun exc _ => ?_⟩
  · have settled : Settled object (⟨.executionHealthy, .ok healthy⟩ :: trace) payload :=
      settled₀.quiet rfl _
    have kept : Coherent object (⟨.executionHealthy, .ok healthy⟩ :: trace) :=
      Kept.coherent ⟨payload, settled, known₀.quiet rfl _⟩
    refine ⟨fun _ => kept, fun _ => runs_assertIdentityUnused settled kept fun _ => ?_⟩
    refine runs_transition settled (fun _ _ => kept) (fun _ _ => trivial) ?_
    rintro snapshot₁ object₁ trace₁ step₁ settled₁ known₁ written₁
    have disk₁ : (Ledger.ofTrace trace₁).disk = some (payload.record .triggered snapshot₁ []) := by
      rw [written₁]
      exact Ledger.written_disk _ _ _
    refine runs_transition settled₁ (fun _ _ => Kept.coherent ⟨_, settled₁, known₁ (by decide)⟩)
      (fun _ _ => disk₁) ?_
    rintro snapshot₂ object₂ trace₂ step₂ settled₂ known₂ written₂
    have disk₂ : (Ledger.ofTrace trace₂).disk =
        some ((payload.record .triggered snapshot₁ []).record .beginPrecheck snapshot₂ []) := by
      rw [written₂]
      exact Ledger.written_disk _ _ _
    refine runs_ask trivial (fun evidence _ => ?_) fun exc _ => Kept.coherent
      ⟨_, settled₂.quiet rfl _, (known₂ (by decide)).quiet rfl _⟩
    have settled₃ : Settled object₂ (⟨.verify request, .ok evidence⟩ :: trace₂) _ :=
      settled₂.quiet rfl _
    have known₃ : Known (⟨.verify request, .ok evidence⟩ :: trace₂) _ :=
      (known₂ (by decide)).quiet rfl _
    refine runs_ofExcept (fun _ _ => ⟨fun _ => ?_, fun _ => ?_⟩) fun _ _ =>
      Kept.coherent ⟨_, settled₃, known₃⟩
    · exact (meets_bind _ _).1 (keeps_then_snapshot (keeps_transition settled₃ known₃ (by decide)
        fun _ _ => disk₂))
    · refine runs_transition settled₃ (fun _ _ => Kept.coherent ⟨_, settled₃, known₃⟩)
        (fun _ _ => disk₂) ?_
      rintro snapshot₄ object₄ trace₄ step₄ settled₄ known₄ rfl
      have sound := advance_sound (advance_sound (advance_sound consistent.sound step₁) step₂) step₄
      have state : snapshot₄.state = .preCheck := transitions_precheckVerified (advance_ok step₄).1
      have clean : payload.data.intent = none → payload.data.brokerOrderId = none := fun none => by
        rw [consistent.clean none]
        rfl
      have keeps := keeps_persistIntent request lawful polls settled₄ (known₄ (by decide)) sound rfl
        state clean
      simpa only [Keeps, Runs, meets_bind] using keeps
  · exact Kept.coherent ⟨payload, settled₀.quiet rfl _, known₀.quiet rfl _⟩

end Submit

end QmtExecution
