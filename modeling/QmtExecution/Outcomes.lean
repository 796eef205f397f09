import QmtExecution.CoordinatedSession

/-! What the methods of a session do when every journal write succeeds and an oracle gives
the other answers. -/

namespace QmtExecution

open Interaction Method

def Writes (oracle : (command : Command) → Except Exc (Result command)) : Prop :=
  ∀ writer payload, oracle (.journalWrite writer payload) = .ok ()

section

variable {oracle : (command : Command) → Except Exc (Result command)} {object : SessionState}
  {payload : Payload}

@[simp] theorem outcome_ask (command : Command) :
    (ask command).outcome oracle object = (oracle command, object) := rfl

theorem outcome_answered {command : Command} {answer : Except Exc (Result command)}
    (answered : oracle command = answer) : (ask command).outcome oracle object = (answer, object) :=
  congrArg (·, object) answered

theorem outcome_journal_requireOpen (held : object.payload = some payload) :
    ExecutionJournal.requireOpen.outcome oracle object = (.ok payload, object) := by
  simp [ExecutionJournal.requireOpen, held]

theorem outcome_requireOpen (opened : object.isOpen = true) (unclosed : object.closed = false)
    (owned : object.mutexOwned = true) :
    ExecutionSession.requireOpen.outcome oracle object = (.ok (), object) := by
  simp [ExecutionSession.requireOpen, opened, unclosed, owned]

theorem outcome_write (writes : Writes oracle) (writer : JournalWriter) (payload : Payload) :
    (ExecutionJournal.write writer payload).outcome oracle object =
      (.ok (), { object with payload := some payload }) := by
  simp only [ExecutionJournal.write, outcome_bind, outcome_update]
  exact congrArg (·, _) (writes writer payload)

theorem outcome_writeData (writes : Writes oracle) (held : object.payload = some payload)
    (writer : JournalWriter) (data : JournalData) :
    (ExecutionJournal.writeData writer data).outcome oracle object =
      (.ok (), { object with payload := some { payload with data } }) := by
  simp [ExecutionJournal.writeData, outcome_journal_requireOpen held, outcome_write writes]

theorem outcome_transition (writes : Writes oracle) (held : object.payload = some payload)
    {event : TradeEvent} {details : Details} {session : Option SessionEvidence}
    {precheck : Option PrecheckEvidence} {snapshot : MachineSnapshot}
    (step : advance object.snapshot event session precheck = .ok snapshot) :
    (ExecutionSession.transition event details session precheck).outcome oracle object =
      (.ok (), { object with
        snapshot, payload := some (payload.record event snapshot details) }) := by
  simp [ExecutionSession.transition, ExecutionJournal.transition, step,
    ExecutionJournal.requireOpen, held, outcome_write writes]

theorem outcome_transition_refused {event : TradeEvent} {details : Details}
    {session : Option SessionEvidence} {precheck : Option PrecheckEvidence} {exc : Exc}
    (refused : advance object.snapshot event session precheck = .error exc) :
    (ExecutionSession.transition event details session precheck).outcome oracle object =
      (.error exc, object) := by
  simp [ExecutionSession.transition, refused]

theorem outcome_assertIdentityUnused (held : object.payload = some payload)
    {request : ExecutionRequest} (unused : payload.data.assertIdentityUnused request = .ok ()) :
    (ExecutionJournal.assertIdentityUnused request).outcome oracle object = (.ok (), object) := by
  simp [ExecutionJournal.assertIdentityUnused, outcome_journal_requireOpen held, unused]

theorem outcome_persistIntent (writes : Writes oracle) (held : object.payload = some payload)
    {request : ExecutionRequest} (fresh : payload.data.intent = none)
    (unused : payload.data.assertIdentityUnused request = .ok ())
    (priced : request.checkNotional = .ok ()) :
    (ExecutionJournal.persistIntent request).outcome oracle object =
      (.ok (), { object with
        payload := some { payload with data := payload.data.withIntent request } }) := by
  simp [ExecutionJournal.persistIntent, outcome_assertIdentityUnused held unused,
    outcome_journal_requireOpen held, fresh, unused, priced, outcome_writeData writes held]

end

/-- The method only issues these calls and ends as said when an oracle answers. -/
abbrev Against {α : Type} (oracle : (command : Command) → Except Exc (Result command))
    (permits : Command → Prop) (method : SessionM α) (object : SessionState)
    (ok : α → SessionState → Unit → Prop) (err : Exc → SessionState → Unit → Prop) : Prop :=
  method.Meets (fun (_ : Unit) => permits) (fun _ command answer _ => answer = oracle command)
    object () ok err

section Against

variable {α : Type} {oracle : (command : Command) → Except Exc (Result command)}
  {permits : Command → Prop} {object : SessionState} {payload : Payload}
  {err : Exc → SessionState → Unit → Prop}

theorem against_ask {command : Command} {ok : Result command → SessionState → Unit → Prop}
    (permitted : permits command)
    (answered : ∀ value, oracle command = .ok value → ok value object ())
    (raised : ∀ exc, oracle command = .error exc → err exc object ()) :
    Against oracle permits (ask command) object ok err :=
  (meets_perform command).2 ⟨permitted, fun value _ same => answered value same.symm,
    fun exc _ same => raised exc same.symm⟩

theorem against_journal_requireOpen {ok : Payload → SessionState → Unit → Prop}
    (held : object.payload = some payload) (next : ok payload object ()) :
    Against oracle permits ExecutionJournal.requireOpen object ok err := by
  simpa [Against, ExecutionJournal.requireOpen, held] using next

theorem against_ofExcept {outcome : Except Exc α} {ok : α → SessionState → Unit → Prop}
    (value : ∀ v, outcome = .ok v → ok v object ())
    (raised : ∀ exc, outcome = .error exc → err exc object ()) :
    Against oracle permits (ofExcept outcome) object ok err := by
  cases outcome with
  | ok v => exact value v rfl
  | error exc => exact raised exc rfl

theorem against_write {writer : JournalWriter} {ok : Unit → SessionState → Unit → Prop}
    (permitted : permits (.journalWrite writer payload))
    (answered : ok () { object with payload := some payload } ())
    (raised : ∀ exc, err exc { object with payload := some payload } ()) :
    Against oracle permits (ExecutionJournal.write writer payload) object ok err := by
  simp only [ExecutionJournal.write, Against, meets_bind, meets_update]
  exact against_ask permitted (fun _ _ => answered) fun exc _ => raised exc

theorem against_writeData {writer : JournalWriter} {data : JournalData}
    {ok : Unit → SessionState → Unit → Prop} (held : object.payload = some payload)
    (permitted : permits (.journalWrite writer { payload with data }))
    (answered : ok () { object with payload := some { payload with data } } ())
    (raised : ∀ exc, err exc { object with payload := some { payload with data } } ()) :
    Against oracle permits (ExecutionJournal.writeData writer data) object ok err :=
  (meets_bind _ _).2 (against_journal_requireOpen held (against_write permitted answered raised))

end Against

end QmtExecution
