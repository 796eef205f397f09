import QmtExecution.Protocol.Environment

/-! `place_order` is called at most once for each durable intent, and only for an intent
that the journal file already records as SUBMITTED. -/

namespace QmtExecution

open Interaction

/-- The intent of `request` has been persisted in `trace` and `place_order` has not been
called since. -/
def Trace.Unsent (trace : Trace) (request : ExecutionRequest) : Prop :=
  ∃ (between : Trace) (payload : Payload) (earlier : Trace),
    trace = between ++ ⟨.journalWrite (.persistIntent request) payload, .ok ()⟩ :: earlier ∧
      ∀ event ∈ between, event.isPlacement = false

theorem Trace.Unsent.later {trace : Trace} {request : ExecutionRequest}
    (unsent : trace.Unsent request) {event : Event} (other : event.isPlacement = false) :
    Trace.Unsent (event :: trace) request := by
  obtain ⟨between, payload, earlier, rfl, none⟩ := unsent
  exact ⟨event :: between, payload, earlier, rfl, List.forall_mem_cons.2 ⟨other, none⟩⟩

theorem armed_unsent {trace : Trace} {request : ExecutionRequest}
    (armed : (Ledger.ofTrace trace).armed = some request) : trace.Unsent request := by
  induction trace with
  | nil => cases armed
  | cons event trace ih =>
      obtain ⟨command, answer⟩ := event
      by_cases quiet : command.isQuiet = true
      · have kept : (Ledger.ofTrace trace).armed = some request :=
          (Ledger.after_quiet _ _ quiet).2.2.1.symm.trans armed
        refine (ih kept).later ?_
        cases command <;> first | rfl | cases quiet
      · cases command with
        | placeOrder other => cases armed
        | journalRead =>
            cases answer with
            | ok payload => cases armed
            | error exc => exact (ih armed).later rfl
        | journalWrite writer payload =>
            cases writer with
            | persistIntent other =>
                cases answer with
                | ok _ =>
                    have same := (Ledger.armed_persisted _ other payload).symm.trans armed
                    rw [Option.some_inj] at same
                    subst same
                    exact ⟨[], payload, trace, rfl, by simp⟩
                | error exc =>
                    have missing := (Ledger.armed_unpersisted _ other payload exc).symm.trans armed
                    cases missing
            | _ => cases answer <;> exact (ih armed).later rfl
        | _ => exact absurd rfl quiet

/-- Each call of `place_order` is made for the request of a persisted intent that no other
call was made for, while the file records the intent in state SUBMITTED. -/
theorem no_blind_resend {config : SessionConfig}
    {phase : Phase Command Result SessionState Exc Operation (Option ExecutionSnapshot)}
    {newer older : Trace} {request : ExecutionRequest} {answer : Except Exc Int}
    (run : SessionReachable config phase (newer ++ ⟨.placeOrder request, answer⟩ :: older)) :
    older.Unsent request ∧ ∃ payload, (Ledger.ofTrace older).disk = some payload ∧
      payload.machine.state = .submitted ∧ payload.data.intent = some (.ofRequest request) := by
  obtain ⟨-, permitted, -⟩ := run.guarded.at
  obtain ⟨⟨payload, submitting⟩, -, -⟩ := permitted
  exact ⟨armed_unsent submitting.armed, payload, submitting.disk, submitting.state,
    submitting.intent⟩

def Event.placed (event : Event) : Option ExecutionRequest :=
  match event.command with
  | .placeOrder request => some request
  | _ => none

/-- A cycle whose order is filled, and after a restart one whose outcome the broker leaves open. -/
def resentRun : List SessionDeed :=
  [.start] ++ call .openSession ++
    call (.submit sampleRequest) { order := .ok (sampleOrder .filled 100) } ++
    call .nextCycle ++ [.crash, .start] ++ call .openSession ++ call (.submit laterRequest) ++
    [.crash, .start] ++ call .openSession

theorem no_blind_resend_restarted :
    (sessionRun plainConfig resentRun).2.countP Event.isPlacement = 2 ∧
      ∀ request ∈ [sampleRequest, laterRequest], ∃ (newer older : Trace) (answer : Except Exc Int),
        (sessionRun plainConfig resentRun).2 = newer ++ ⟨.placeOrder request, answer⟩ :: older ∧
          older.Unsent request ∧ ∃ payload, (Ledger.ofTrace older).disk = some payload ∧
            payload.data.intent = some (.ofRequest request) := by
  refine ⟨by decide +kernel, ?_⟩
  intro request sent
  have placed : ∀ request ∈ [sampleRequest, laterRequest],
      (sessionRun plainConfig resentRun).2.any (fun event => event.placed = some request) = true := by
    decide +kernel
  obtain ⟨⟨command, answer⟩, member, same⟩ := List.any_eq_true.1 (placed request sent)
  obtain ⟨newer, older, split⟩ := List.append_of_mem member
  cases command with
  | placeOrder other =>
      obtain rfl : other = request := Option.some.inj (of_decide_eq_true same)
      have run := session_run_reachable plainConfig resentRun
      rw [split] at run
      obtain ⟨unsent, payload, disk, -, intent⟩ := no_blind_resend run
      exact ⟨newer, older, answer, split, unsent, payload, disk, intent⟩
  | _ => cases of_decide_eq_true same

end QmtExecution
