import QmtExecution.Interaction.Walks
import QmtExecution.Interaction.Threads
import QmtExecution.MiniQmt.Health
import Mathlib.Tactic

/-! After transport or account health has been revoked, no order is sent before a recovery. -/

namespace QmtExecution.MiniQmt

open Interaction Method Health

abbrev HealthTrace := List HealthCall

def callsOf (thread : RuntimeThread) (log : List (RuntimeThread × HealthCall)) : HealthTrace :=
  (log.filter (·.1 = thread)).map (·.2)

def HealthCall.Plain : HealthCall → Prop
  | ⟨.get _, answer⟩ => ∃ value, answer = .ok value
  | ⟨.set _ _, answer⟩ => answer = .ok ()
  | ⟨.confirm _, answer⟩ => answer = .ok ()
  | ⟨.queueHealthy, answer⟩ => ∃ value, answer = .ok value
  | ⟨.queueFail _, answer⟩ => answer = .ok ()
  | ⟨.queueGet, answer⟩ => ∃ item, answer = .ok item
  | ⟨.taskDone, answer⟩ => answer = .ok ()
  | _ => True

def HealthTrace.Extends (trace : HealthTrace) (command : HealthCommand)
    (answer : Except Exc (HealthResult command)) (after : HealthTrace) : Prop :=
  (⟨command, answer⟩ : HealthCall).Plain ∧ after = ⟨command, answer⟩ :: trace

namespace HealthWorld

variable {world : HealthWorld} {thread : RuntimeThread} {call : HealthCall}

theorem Truthful.plain (truthful : world.Truthful call) : call.Plain := by
  obtain ⟨command, answer⟩ := call
  cases command with
  | get flag => exact ⟨_, truthful⟩
  | queueHealthy => exact ⟨_, truthful⟩
  | set | confirm | queueFail | queueGet | taskDone => exact truthful
  | _ => trivial

end HealthWorld

theorem callsOf_own (thread : RuntimeThread) (call : HealthCall)
    (log : List (RuntimeThread × HealthCall)) :
    callsOf thread ((thread, call) :: log) = call :: callsOf thread log := by
  simp [callsOf]

theorem callsOf_other {thread other : RuntimeThread} (different : other ≠ thread) (call : HealthCall)
    (log : List (RuntimeThread × HealthCall)) :
    callsOf thread ((other, call) :: log) = callsOf thread log := by
  simp [callsOf, different]

theorem callsOf_append (thread : RuntimeThread) (recent log : List (RuntimeThread × HealthCall)) :
    callsOf thread (recent ++ log) = callsOf thread recent ++ callsOf thread log := by
  simp [callsOf]

theorem mem_callsOf {thread : RuntimeThread} {call : HealthCall}
    {log : List (RuntimeThread × HealthCall)} : call ∈ callsOf thread log ↔ (thread, call) ∈ log := by
  simp only [callsOf, List.mem_map, List.mem_filter, decide_eq_true_eq, Prod.exists,
    exists_eq_right]

variable {settings : RuntimeSettings}

theorem health_sees (thread : RuntimeThread) : (healthTeam settings).Sees thread
    (fun world => callsOf thread world.log) HealthTrace.Extends where
  own := by
    intro world command answer after law
    obtain ⟨truthful, rfl⟩ := law
    exact ⟨truthful.plain, callsOf_own _ _ _⟩
  other := by
    intro other world command answer after different law
    obtain ⟨-, rfl⟩ := law
    exact callsOf_other different _ _
  crashed := by
    intro other world after law
    cases law

def HealthCommand.enables : HealthCommand → Bool
  | .set .recoveryReady true => true
  | .set .confirmed true => true
  | .set .closed false => true
  | .confirm _ => true
  | .orderStock _ => true
  | _ => false

structure RuntimeSettings.Accepts (settings : RuntimeSettings) (token : String) : Prop where
  live : settings.gate.environment = .live
  enabled : settings.gate.liveTradingEnabled = true
  digest : settings.tokenSha256 token = settings.gate.confirmationTokenSha256

def opened : HealthTrace :=
  [⟨.get .brokerConnected, .ok true⟩,
    ⟨.set .recoveryReady false, .ok ()⟩,
    ⟨.set .brokerConnected true, .ok ()⟩,
    ⟨.set .accountHealthy true, .ok ()⟩,
    ⟨.set .transportConnected true, .ok ()⟩,
    ⟨.openSession, .ok ()⟩,
    ⟨.verifyBoundAccountHealthy, .ok ()⟩,
    ⟨.get .closed, .ok false⟩]

def revoked (settings : RuntimeSettings) : HealthTrace :=
  if settings.gate.environment = .live then [⟨.set .confirmed false, .ok ()⟩] else []

def recovered (settings : RuntimeSettings) (out : ExecutionSnapshot) (evidence : SessionEvidence) :
    HealthTrace :=
  [⟨.get .brokerConnected, .ok true⟩,
    ⟨.verifySession, .ok evidence⟩,
    ⟨.reconcile, .ok out⟩,
    ⟨.set .accountHealthy true, .ok ()⟩,
    ⟨.subscribe, .ok (some 0)⟩,
    ⟨.verifyBoundAccountHealthy, .ok ()⟩,
    ⟨.set .recoveryReady false, .ok ()⟩,
    ⟨.set .brokerConnected true, .ok ()⟩,
    ⟨.set .transportConnected true, .ok ()⟩,
    ⟨.traderConnect, .ok (some 0)⟩,
    ⟨.queueHealthy, .ok true⟩,
    ⟨.set .accountHealthy false, .ok ()⟩,
    ⟨.set .transportConnected false, .ok ()⟩,
    ⟨.set .recoveryReady false, .ok ()⟩] ++
  (revoked settings ++ [⟨.get .closed, .ok false⟩])

inductive Recovery (settings : RuntimeSettings) : HealthTrace → Prop
  | opened : Recovery settings opened
  | recovered (out : ExecutionSnapshot) (evidence : SessionEvidence)
      (resolved : out.state ≠ .unknown ∧ out.state ≠ .failed) (ready : evidence.ready = true) :
      Recovery settings (recovered settings out evidence)

def checks (settings : RuntimeSettings) : HealthTrace :=
  (if settings.gate.environment = .live then [⟨.get .confirmed, .ok true⟩] else []) ++
  [⟨.get .accountHealthy, .ok true⟩,
    ⟨.get .transportConnected, .ok true⟩,
    ⟨.queueHealthy, .ok true⟩,
    ⟨.get .recoveryReady, .ok true⟩,
    ⟨.get .brokerConnected, .ok true⟩]

/-- The calls of `handle_callback` for an event, as far as they are made before it is passed on. -/
def reacted (settings : RuntimeSettings) (runtime : Bool) : QmtCallbackEvent → HealthTrace
  | .malformed _ _ => []
  | .brokerDisconnected =>
      (if runtime then [⟨.set .recoveryReady false, .ok ()⟩, ⟨.set .brokerConnected false, .ok ()⟩]
        else []) ++
      (revoked settings ++ [⟨.set .accountHealthy false, .ok ()⟩, ⟨.set .transportConnected false, .ok ()⟩])
  | .accountStatusObserved accountId accountType status =>
      if runtime && isUnhealthy settings accountId accountType status then
        ⟨.set .recoveryReady false, .ok ()⟩ ::
          (revoked settings ++ [⟨.set .accountHealthy false, .ok ()⟩])
      else []
  | .observed => []

/-- How the handling of an event ends: it is passed on, or the queue has failed. -/
inductive Passed (settings : RuntimeSettings) : QmtCallbackEvent → HealthTrace → Prop
  | unobserved (event : QmtCallbackEvent) (unheard : settings.observes = false)
      (formed : ∀ callbackName error, event ≠ .malformed callbackName error) :
      Passed settings event []
  | observed (event : QmtCallbackEvent)
      (formed : ∀ callbackName error, event ≠ .malformed callbackName error) :
      Passed settings event [⟨.observe event, .ok ()⟩]
  | raised (event : QmtCallbackEvent) (exc : Exc)
      (formed : ∀ callbackName error, event ≠ .malformed callbackName error) :
      Passed settings event [⟨.queueFail exc, .ok ()⟩, ⟨.observe event, .error exc⟩]
  | malformed (callbackName error : String) (exc : Exc) :
      Passed settings (.malformed callbackName error) [⟨.queueFail exc, .ok ()⟩]

def Handled (settings : RuntimeSettings) (event : QmtCallbackEvent) (runtime : Bool)
    (calls : HealthTrace) : Prop :=
  ∃ passed, Passed settings event passed ∧ calls = passed ++ (reacted settings runtime event ++
    [⟨.get .runtime, .ok runtime⟩, ⟨.queueGet, .ok (some event)⟩])

/-- What the threads may do, each after its own calls; `base` are those of the main thread that do not
count. -/
def RuntimeSettings.permits (settings : RuntimeSettings) (base : HealthTrace) (thread : RuntimeThread)
    (trace : HealthTrace) (command : HealthCommand) : Prop :=
  match thread with
  | .main => match command with
    | .set .recoveryReady true =>
        ∃ steps older, trace = steps ++ (older ++ base) ∧ Recovery settings steps
    | .confirm token => settings.Accepts token
    | .orderStock _ => ∃ older, trace = checks settings ++ (older ++ base)
    | command => command.enables = false
  | .worker => command.enables = false ∧ (command = .taskDone →
      (∃ older, trace = ⟨.queueGet, .ok none⟩ :: older) ∨
      ∃ event runtime calls older, Handled settings event runtime calls ∧ trace = calls ++ older)
  | .broker _ => command = .queueHealthy ∨ ∃ exc, command = .queueFail exc

section Specifications

variable {α β : Type} {permits : HealthTrace → HealthCommand → Prop} {trace : HealthTrace}
  {ok : α → HealthTrace → Prop}

/-- The method issues permitted calls only, and returns where `ok`. -/
def Issues (permits : HealthTrace → HealthCommand → Prop) (method : HealthM α) (trace : HealthTrace)
    (ok : α → HealthTrace → Prop) : Prop :=
  method.Meets permits HealthTrace.Extends () trace (fun value _ after => ok value after)
    (fun _ _ _ => True)

theorem Issues.weaken {method : HealthM α} {ok' : α → HealthTrace → Prop}
    (issues : Issues permits method trace ok) (next : ∀ value after, ok value after → ok' value after) :
    Issues permits method trace ok' := by
  apply Meets.weaken issues
  · intro value _ after holds
    exact next value after holds
  · intro _ _ _ _
    trivial

theorem issues_bind {method : HealthM β} {next : β → HealthM α} {middle : β → HealthTrace → Prop}
    (first : Issues permits method trace middle)
    (rest : ∀ value after, middle value after → Issues permits (next value) after ok) :
    Issues permits (method >>= next) trace ok := by
  apply (meets_bind _ _).2
  apply Meets.weaken first
  · intro value _ after holds
    exact rest value after holds
  · intro _ _ _ _
    trivial

theorem issues_attempt {method : HealthM β} {next : Except Exc β → HealthM α}
    {middle : β → HealthTrace → Prop} {failed : Exc → HealthTrace → Prop}
    (first : method.Meets permits HealthTrace.Extends () trace (fun value _ after => middle value after)
      (fun exc _ after => failed exc after))
    (rest : ∀ value after, middle value after → Issues permits (next (.ok value)) after ok)
    (handled : ∀ exc after, failed exc after → Issues permits (next (.error exc)) after ok) :
    Issues permits (attempt method >>= next) trace ok := by
  apply (meets_bind _ _).2
  apply (meets_attempt _).2
  apply Meets.weaken first
  · intro value _ after holds
    exact rest value after holds
  · intro exc _ after holds
    exact handled exc after holds

theorem issues_ask {command : HealthCommand} (permitted : permits trace command) :
    Issues permits (ask command) trace fun value after =>
      (⟨command, .ok value⟩ : HealthCall).Plain ∧ after = ⟨command, .ok value⟩ :: trace := by
  apply (meets_perform command).2
  refine ⟨permitted, ?_, fun _ _ _ => trivial⟩
  intro value after extended
  exact extended

theorem issues_raise (exc : Exc) : Issues permits (raise exc : HealthM α) trace ok := trivial

theorem issues_ofExcept (outcome : Except Exc α) :
    Issues permits (ofExcept outcome) trace fun value after => outcome = .ok value ∧ after = trace := by
  cases outcome with
  | ok value => exact ⟨rfl, rfl⟩
  | error exc => trivial

theorem Issues.of_calls {method : HealthM α} {allowed : HealthCommand → Prop}
    (calls : method.Calls allowed) (allows : ∀ trace command, allowed command → permits trace command) :
    Issues permits method trace fun _ _ => True :=
  calls.anywhere allows trivial trace

end Specifications

section Operations

variable {base trace : HealthTrace} {thread : RuntimeThread}

theorem permits_calm {command : HealthCommand} (calm : command.enables = false) :
    settings.permits base .main trace command := by
  cases command with
  | set flag value => cases flag <;> cases value <;> first | exact calm | cases calm
  | confirm token => cases calm
  | orderStock order => cases calm
  | _ => exact calm

theorem issues_call {command : HealthCommand} (calm : command.enables = false) :
    Issues (settings.permits base .main) (ask command) trace fun value after =>
      (⟨command, .ok value⟩ : HealthCall).Plain ∧ after = ⟨command, .ok value⟩ :: trace :=
  issues_ask (permits_calm calm)

theorem issues_set {flag : RuntimeFlag} {value : Bool}
    (calm : (HealthCommand.set flag value).enables = false) :
    Issues (settings.permits base .main) (ask (.set flag value)) trace fun _ after =>
      after = ⟨.set flag value, .ok ()⟩ :: trace := by
  apply (issues_call calm).weaken
  rintro - after ⟨-, rfl⟩
  rfl

theorem issues_requireNotClosed : Issues (settings.permits base .main) requireNotClosed trace
    fun _ after => after = ⟨.get .closed, .ok false⟩ :: trace := by
  apply issues_bind (issues_call rfl)
  rintro closed after ⟨-, rfl⟩
  cases closed with
  | true => exact issues_raise _
  | false => exact rfl

theorem issues_revoke : Issues (settings.permits base .main) (revoke settings) trace
    fun _ after => after = revoked settings ++ trace := by
  unfold revoke RuntimeSteps.revoke revoked
  split_ifs
  · exact issues_set rfl
  · exact rfl

theorem issues_markTransportConnected : Issues (settings.permits base .main)
    markTransportConnected trace fun _ after =>
      after = ⟨.set .recoveryReady false, .ok ()⟩ :: ⟨.set .brokerConnected true, .ok ()⟩ :: trace := by
  apply issues_bind (issues_set rfl)
  rintro - after rfl
  exact issues_set rfl

theorem issues_markRecoveryComplete {steps older : HealthTrace}
    (recovery : Recovery settings (⟨.get .brokerConnected, .ok true⟩ :: steps))
    (after : base <:+ older) (same : trace = steps ++ older) :
    Issues (settings.permits base .main) markRecoveryComplete trace fun _ _ => True := by
  obtain ⟨between, rfl⟩ := after
  apply issues_bind (issues_call rfl)
  rintro connected after ⟨-, rfl⟩
  cases connected with
  | false => exact issues_raise _
  | true =>
      have permitted : settings.permits base .main
          (⟨.get .brokerConnected, .ok true⟩ :: trace) (.set .recoveryReady true) := by
        rw [same]
        exact ⟨_, between, rfl, recovery⟩
      apply (issues_ask permitted).weaken
      intro _ _ _
      trivial

theorem issues_openRuntime (later : base <:+ trace) :
    Issues (settings.permits base .main) openRuntime trace fun _ _ => True := by
  apply issues_bind issues_requireNotClosed
  rintro - after rfl
  apply issues_bind (issues_call rfl)
  rintro - after ⟨-, rfl⟩
  apply issues_bind (issues_call rfl)
  rintro - after ⟨-, rfl⟩
  apply issues_bind (issues_set rfl)
  rintro - after rfl
  apply issues_bind (issues_set rfl)
  rintro - after rfl
  apply issues_bind issues_markTransportConnected
  rintro - after rfl
  exact issues_markRecoveryComplete .opened later rfl

theorem issues_confirm {token : String} :
    Issues (settings.permits base .main) (Health.confirm settings token) trace
      fun _ _ => True := by
  unfold Health.confirm
  split_ifs with simulated disabled empty mismatch
  · exact issues_raise _
  · exact issues_raise _
  · exact issues_raise _
  · exact issues_raise _
  · have accepts : settings.Accepts token :=
      ⟨not_not.1 simulated, by simpa using disabled, not_not.1 mismatch⟩
    apply (issues_ask accepts).weaken
    intro _ _ _
    trivial

theorem requireExactZero_ok {value : Option ℤ} {label : String} {result : Unit}
    (exact : requireExactZero value label = .ok result) : value = some 0 := by
  unfold requireExactZero at exact
  split_ifs at exact with zero
  exact zero

theorem checkReconciled_ok {out : ExecutionSnapshot} {result : Unit}
    (resolved : checkReconciled out = .ok result) : out.state ≠ .unknown ∧ out.state ≠ .failed := by
  unfold checkReconciled at resolved
  split_ifs at resolved with open_
  exact not_or.1 open_

theorem checkReady_ok {evidence : SessionEvidence} {result : Unit}
    (checked : checkReady evidence = .ok result) : evidence.ready = true := by
  unfold checkReady at checked
  cases valid : evidence.validate with
  | error exc =>
      rw [valid] at checked
      cases checked
  | ok _ =>
      rw [valid] at checked
      change (if evidence.ready then _ else _) = _ at checked
      split_ifs at checked with ready
      exact ready

theorem issues_recoverAfterDisconnect {runtimeToken : Option String} (later : base <:+ trace) :
    Issues (settings.permits base .main) (recoverAfterDisconnect settings runtimeToken) trace
      fun _ _ => True := by
  apply issues_bind issues_requireNotClosed
  rintro - after rfl
  apply issues_bind issues_revoke
  rintro - after rfl
  apply issues_bind (issues_set rfl)
  rintro - after rfl
  apply issues_bind (issues_set rfl)
  rintro - after rfl
  apply issues_bind (issues_set rfl)
  rintro - after rfl
  apply issues_bind (issues_call rfl)
  rintro healthy after ⟨-, rfl⟩
  cases healthy with
  | false => exact issues_raise _
  | true =>
      apply issues_bind (issues_call rfl)
      rintro code after ⟨-, rfl⟩
      apply issues_bind (issues_ofExcept _)
      rintro _ after ⟨connected, rfl⟩
      cases requireExactZero_ok connected
      apply issues_bind (issues_set rfl)
      rintro - after rfl
      apply issues_bind issues_markTransportConnected
      rintro - after rfl
      apply issues_bind (issues_call rfl)
      rintro - after ⟨-, rfl⟩
      apply issues_bind (issues_call rfl)
      rintro code after ⟨-, rfl⟩
      apply issues_bind (issues_ofExcept _)
      rintro _ after ⟨subscribed, rfl⟩
      cases requireExactZero_ok subscribed
      apply issues_bind (issues_set rfl)
      rintro - after rfl
      apply issues_bind (issues_call rfl)
      rintro out after ⟨-, rfl⟩
      apply issues_bind (issues_ofExcept _)
      rintro _ after ⟨resolved, rfl⟩
      apply issues_bind (issues_call rfl)
      rintro evidence after ⟨-, rfl⟩
      apply issues_bind (issues_ofExcept _)
      rintro _ after ⟨ready, rfl⟩
      have recovery : Recovery settings (recovered settings out evidence) :=
        .recovered out evidence (checkReconciled_ok resolved) (checkReady_ok ready)
      apply issues_bind (issues_markRecoveryComplete recovery later _)
      · rintro - after -
        split_ifs
        · cases runtimeToken with
          | none => exact issues_raise _
          | some token => exact issues_confirm
        · trivial
      · simp

theorem calm_ask {command : HealthCommand} (calm : command.enables = false) :
    (Health.ask command).Calls (·.enables = false) :=
  walks_perform calm

theorem issues_connectBody {autoOpen : Bool} (later : base <:+ trace) :
    (steps.connectBody autoOpen).Meets (settings.permits base .main) HealthTrace.Extends () trace
      (fun _ _ _ => True) (fun _ _ _ => True) := by
  apply issues_bind (issues_call rfl)
  rintro - after ⟨-, rfl⟩
  apply issues_bind (issues_call rfl)
  rintro - after ⟨-, rfl⟩
  apply issues_bind (issues_set rfl)
  rintro - after rfl
  apply issues_bind (issues_call rfl)
  rintro - after ⟨-, rfl⟩
  apply issues_bind (issues_call rfl)
  rintro code after ⟨-, rfl⟩
  apply issues_bind (issues_ofExcept _)
  rintro _ after ⟨-, rfl⟩
  apply issues_bind (issues_set rfl)
  rintro - after rfl
  apply issues_bind issues_markTransportConnected
  rintro - after rfl
  apply issues_bind (issues_call rfl)
  rintro - after ⟨-, rfl⟩
  apply issues_bind (issues_set rfl)
  rintro - after rfl
  cases autoOpen with
  | false => trivial
  | true =>
      exact issues_openRuntime (later.trans
        (List.suffix_append [_, _, _, _, _, _, _, _, _, _] trace))

theorem issues_connect {autoOpen : Bool} (later : base <:+ trace) :
    Issues (settings.permits base .main) (connect autoOpen) trace fun _ _ => True := by
  apply issues_attempt (issues_connectBody later)
  · intro _ after _
    trivial
  · intro exc after _
    have closing : (do
        let _ ← attempt (ask .closeSession)
        ask .queueStop
        ask .release
        raise exc : HealthM Unit).Calls (·.enables = false) := by
      apply walks_bind (walks_attempt (calm_ask rfl))
      intro _
      apply walks_bind (calm_ask rfl)
      intro _
      apply walks_bind (calm_ask rfl)
      intro _
      exact walks_raise exc
    exact Issues.of_calls closing fun _ _ calm => permits_calm calm

theorem issues_confirmLive {token : String} :
    Issues (settings.permits base .main) (confirmLive settings token) trace fun _ _ => True := by
  apply issues_bind issues_requireNotClosed
  rintro - after rfl
  exact issues_confirm

theorem issues_unhealthy {after : HealthTrace → Prop} :
    Issues (settings.permits base .main) (pure false) trace fun healthy later =>
      healthy = true → after later :=
  nofun

theorem issues_healthProbe : Issues (settings.permits base .main) healthProbe trace
    fun healthy after => healthy = true → after = ⟨.get .accountHealthy, .ok true⟩ ::
      ⟨.get .transportConnected, .ok true⟩ :: ⟨.queueHealthy, .ok true⟩ :: trace := by
  apply issues_bind (issues_call rfl)
  rintro running after ⟨-, rfl⟩
  cases running with
  | false => exact issues_unhealthy
  | true =>
      apply issues_bind (issues_call rfl)
      rintro transport after ⟨-, rfl⟩
      cases transport with
      | false => exact issues_unhealthy
      | true =>
          apply (issues_call rfl).weaken
          rintro account after ⟨-, rfl⟩ rfl
          rfl

theorem issues_executionAllowed : Issues (settings.permits base .main) (executionAllowed settings) trace
    fun allowed after => allowed = true → after =
      (if settings.gate.environment = .live then [⟨.get .confirmed, .ok true⟩] else []) ++ trace := by
  unfold executionAllowed
  cases environment : settings.gate.environment with
  | simulation => exact fun _ => rfl
  | live =>
      dsimp only
      cases enabled : settings.gate.liveTradingEnabled with
      | false => exact issues_unhealthy
      | true =>
          apply (issues_call rfl).weaken
          rintro confirmed after ⟨-, rfl⟩ rfl
          rfl

theorem issues_executionHealthy : Issues (settings.permits base .main) (executionHealthy settings) trace
    fun healthy after => healthy = true → after = checks settings ++ trace := by
  apply issues_bind (issues_call rfl)
  rintro connected after ⟨-, rfl⟩
  cases connected with
  | false => exact issues_unhealthy
  | true =>
      apply issues_bind (issues_call rfl)
      rintro ready after ⟨-, rfl⟩
      cases ready with
      | false => exact issues_unhealthy
      | true =>
          apply issues_bind issues_healthProbe
          intro healthy after later
          cases healthy with
          | false => exact issues_unhealthy
          | true =>
              apply issues_executionAllowed.weaken
              intro allowed last checked holds
              rw [checked holds, later rfl]
              simp [checks]

theorem issues_placeOrder {request : ExecutionRequest} (later : base <:+ trace) :
    Issues (settings.permits base .main) (placeOrder settings request) trace fun _ _ => True := by
  apply issues_bind issues_executionHealthy
  intro healthy after checked
  cases healthy with
  | false => exact issues_raise _
  | true =>
      apply issues_bind (issues_ofExcept _)
      rintro _ after ⟨-, rfl⟩
      have permitted : settings.permits base .main after (.orderStock (stockOrder settings request)) := by
        obtain ⟨older, rfl⟩ := later
        exact ⟨older, checked rfl⟩
      have sent : (ask (.orderStock (stockOrder settings request))).Meets (settings.permits base .main)
          HealthTrace.Extends () after (fun _ _ _ => True) (fun _ _ _ => True) := by
        apply (meets_perform _).2
        exact ⟨permitted, fun _ _ _ => trivial, fun _ _ _ => trivial⟩
      apply issues_attempt sent
      · intro result after _
        exact (issues_ofExcept _).weaken fun _ _ _ => trivial
      · intro exc after _
        exact (issues_ofExcept _).weaken fun _ _ _ => trivial

theorem calm_revoke : (revoke settings).Calls (·.enables = false) := by
  unfold revoke RuntimeSteps.revoke
  split_ifs
  · exact calm_ask rfl
  · exact walks_pure _

theorem calm_markDisconnected : markDisconnected.Calls (·.enables = false) :=
  walks_bind (calm_ask rfl) fun _ => calm_ask rfl

theorem calm_close : (Health.close settings).Calls (·.enables = false) := by
  have released : steps.releaseAll.Calls (·.enables = false) := by
    apply walks_bind (calm_ask rfl)
    intro _
    apply walks_bind (calm_ask rfl)
    intro _
    exact calm_ask rfl
  apply walks_bind (calm_ask rfl)
  intro closed
  split_ifs
  · exact walks_pure _
  · apply walks_bind calm_revoke
    intro _
    apply walks_bind calm_markDisconnected
    intro _
    exact walks_tryFinally (calm_ask rfl) (walks_tryFinally (calm_ask rfl) released)

theorem calls_tryEmit (full : Bool) :
    (tryEmit full).Calls fun command => command = .queueHealthy ∨ ∃ exc, command = .queueFail exc := by
  apply walks_bind (walks_perform (.inl rfl))
  intro running
  split_ifs
  · exact walks_pure _
  · apply walks_bind (walks_perform (.inr ⟨_, rfl⟩))
    intro _
    exact walks_pure _
  · exact walks_pure _

theorem permits_own {command : HealthCommand} (calm : command.enables = false)
    (unfinished : command ≠ .taskDone) : settings.permits base .worker trace command :=
  ⟨calm, fun done => absurd done unfinished⟩

theorem issues_own {command : HealthCommand} (calm : command.enables = false)
    (unfinished : command ≠ .taskDone) :
    Issues (settings.permits base .worker) (ask command) trace fun value after =>
      (⟨command, .ok value⟩ : HealthCall).Plain ∧ after = ⟨command, .ok value⟩ :: trace :=
  issues_ask (permits_own calm unfinished)

theorem worker_set {flag : RuntimeFlag} {value : Bool}
    (calm : (HealthCommand.set flag value).enables = false) :
    (ask (.set flag value)).Meets (settings.permits base .worker) HealthTrace.Extends () trace
      (fun _ _ after => after = ⟨.set flag value, .ok ()⟩ :: trace) (fun _ _ _ => False) := by
  apply (meets_perform _).2
  refine ⟨permits_own calm nofun, ?_, ?_⟩
  · intro result after extended
    exact extended.2
  · intro exc after extended
    cases extended.1

theorem worker_revoke :
    (revoke settings).Meets (settings.permits base .worker) HealthTrace.Extends () trace
      (fun _ _ after => after = revoked settings ++ trace) (fun _ _ _ => False) := by
  unfold revoke RuntimeSteps.revoke revoked
  split_ifs
  · exact worker_set rfl
  · exact rfl

theorem worker_react {event : QmtCallbackEvent} {runtime : Bool} :
    (react settings runtime event).Meets (settings.permits base .worker) HealthTrace.Extends () trace
      (fun _ _ after => (∀ callbackName error, event ≠ .malformed callbackName error) ∧
        after = reacted settings runtime event ++ trace)
      (fun _ _ after => (∃ callbackName error, event = .malformed callbackName error) ∧
        after = trace) := by
  cases event with
  | malformed callbackName error => exact ⟨⟨callbackName, error, rfl⟩, rfl⟩
  | observed => exact ⟨by simp, rfl⟩
  | brokerDisconnected =>
      apply (meets_bind _ _).2
      apply Meets.weaken (worker_set rfl) _ fun _ _ _ => False.elim
      rintro - ⟨⟩ after rfl
      apply (meets_bind _ _).2
      apply Meets.weaken (worker_set rfl) _ fun _ _ _ => False.elim
      rintro - ⟨⟩ after rfl
      apply (meets_bind _ _).2
      apply Meets.weaken worker_revoke _ fun _ _ _ => False.elim
      rintro - ⟨⟩ after rfl
      cases runtime with
      | false => exact ⟨by simp, by simp [reacted]⟩
      | true =>
          apply (meets_bind _ _).2
          apply Meets.weaken (worker_set rfl) _ fun _ _ _ => False.elim
          rintro - ⟨⟩ after rfl
          apply Meets.weaken (worker_set rfl) _ fun _ _ _ => False.elim
          rintro - ⟨⟩ after rfl
          exact ⟨by simp, by simp [reacted]⟩
  | accountStatusObserved accountId accountType status =>
      simp only [react, reacted]
      split_ifs
      · apply (meets_bind _ _).2
        apply Meets.weaken (worker_set rfl) _ fun _ _ _ => False.elim
        rintro - ⟨⟩ after rfl
        apply (meets_bind _ _).2
        apply Meets.weaken worker_revoke _ fun _ _ _ => False.elim
        rintro - ⟨⟩ after rfl
        apply Meets.weaken (worker_set rfl) _ fun _ _ _ => False.elim
        rintro - ⟨⟩ after rfl
        exact ⟨by simp, by simp⟩
      · exact ⟨by simp, rfl⟩

/-- The calls for an event end with the event passed on, or with an exception that fails the queue. -/
theorem worker_handleCallback {event : QmtCallbackEvent} :
    (handleCallback settings event).Meets (settings.permits base .worker) HealthTrace.Extends ()
      (⟨.queueGet, .ok (some event)⟩ :: trace)
      (fun _ _ after => ∃ runtime calls, Handled settings event runtime calls ∧ after = calls ++ trace)
      (fun exc _ after => ∃ runtime calls, Handled settings event runtime calls ∧
        ⟨.queueFail exc, .ok ()⟩ :: after = calls ++ trace) := by
  apply (meets_bind _ _).2
  apply (meets_perform _).2
  refine ⟨permits_own rfl nofun, ?_, ?_⟩
  · rintro runtime after ⟨-, rfl⟩
    apply (meets_bind _ _).2
    apply Meets.weaken worker_react
    · rintro - ⟨⟩ after ⟨formed, rfl⟩
      cases observes : settings.observes with
      | false =>
          refine ⟨runtime, _, ⟨[], .unobserved event observes formed, rfl⟩, ?_⟩
          simp
      | true =>
          apply (meets_perform _).2
          refine ⟨permits_own rfl nofun, ?_, ?_⟩
          · rintro result after ⟨-, rfl⟩
            refine ⟨runtime, _, ⟨_, .observed event formed, rfl⟩, ?_⟩
            simp
          · rintro exc after ⟨-, rfl⟩
            refine ⟨runtime, _, ⟨_, .raised event exc formed, rfl⟩, ?_⟩
            simp
    · rintro exc ⟨⟩ after ⟨⟨callbackName, error, rfl⟩, rfl⟩
      exact ⟨runtime, _, ⟨_, .malformed callbackName error exc, rfl⟩, rfl⟩
  · rintro exc after ⟨⟨_, plain⟩, -⟩
    cases plain

theorem issues_turn : Issues (settings.permits base .worker) (turn settings) trace fun _ _ => True := by
  have finish {trace : HealthTrace} (handled :
      (∃ older, trace = ⟨.queueGet, .ok none⟩ :: older) ∨
        ∃ event runtime calls older, Handled settings event runtime calls ∧ trace = calls ++ older) :
      Issues (settings.permits base .worker) (ask .taskDone) trace fun _ _ => True := by
    have permitted : settings.permits base .worker trace .taskDone := ⟨rfl, fun _ => handled⟩
    apply (issues_ask permitted).weaken
    intro _ _ _
    trivial
  apply issues_bind (issues_own rfl (by nofun))
  rintro item after ⟨-, rfl⟩
  cases item with
  | none =>
      apply issues_bind (finish (.inl ⟨trace, rfl⟩))
      intro _ _ _
      trivial
  | some event =>
      apply issues_attempt worker_handleCallback
      · rintro - after ⟨runtime, calls, handled, rfl⟩
        apply issues_bind (finish (.inr ⟨event, runtime, calls, trace, handled, rfl⟩))
        intro _ after _
        apply issues_bind (issues_own rfl (by nofun))
        intro _ _ _
        trivial
      · rintro exc after ⟨runtime, calls, handled, same⟩
        apply issues_bind (issues_own rfl (by nofun))
        rintro - later ⟨-, rfl⟩
        apply issues_bind (finish (.inr ⟨event, runtime, calls, trace, handled, same⟩))
        intro _ _ _
        trivial

theorem issues_run (operation : HealthOperation) (later : base <:+ trace) :
    Issues (settings.permits base thread) (operation.run settings thread) trace fun _ _ => True := by
  have wrapped {α : Type} {method : HealthM α} {outcome : α → HealthOutcome}
      (issues : Issues (settings.permits base thread) method trace fun _ _ => True) :
      Issues (settings.permits base thread) (do
        let value ← method
        pure (outcome value)) trace fun _ _ => True :=
    issues_bind issues fun _ _ _ => trivial
  unfold HealthOperation.run
  split_ifs with own
  · cases operation with
    | turn =>
        cases of_decide_eq_true own
        exact wrapped issues_turn
    | tryEmit full =>
        cases thread with
        | broker n => exact wrapped (Issues.of_calls (calls_tryEmit full) fun _ _ own => own)
        | _ => cases own
    | connect autoOpen =>
        cases of_decide_eq_true own
        exact wrapped (issues_connect later)
    | openRuntime =>
        cases of_decide_eq_true own
        exact wrapped (issues_openRuntime later)
    | recoverAfterDisconnect token =>
        cases of_decide_eq_true own
        exact wrapped (issues_recoverAfterDisconnect later)
    | confirmLive token =>
        cases of_decide_eq_true own
        exact wrapped issues_confirmLive
    | executionHealthy =>
        cases of_decide_eq_true own
        exact wrapped (issues_executionHealthy.weaken fun _ _ _ => trivial)
    | placeOrder request =>
        cases of_decide_eq_true own
        exact wrapped (issues_placeOrder later)
    | close =>
        cases of_decide_eq_true own
        exact wrapped (Issues.of_calls calm_close fun _ _ calm => permits_calm calm)
  · trivial

end Operations

section Runs

variable {base trace : HealthTrace} {thread : RuntimeThread}
  {before after : Team.Config HealthCommand (fun command => Except Exc (HealthResult command))
    RuntimeThread HealthOperation (Except Exc HealthOutcome × Unit) HealthWorld}

/-- What the calls of a thread are, from where they are `base`. -/
abbrev Kept (settings : RuntimeSettings) (base : HealthTrace) (thread : RuntimeThread)
    (trace : HealthTrace) : Prop :=
  Guarded (· = base) (settings.permits base thread) HealthTrace.Extends trace

theorem Kept.suffix (kept : Kept settings base thread trace) : base <:+ trace := by
  apply Guarded.invariant _ _ kept
  · rintro trace rfl
    exact List.suffix_refl trace
  · intro trace command answer after _ later _ law
    obtain ⟨-, rfl⟩ := law
    exact later.trans (List.suffix_cons _ _)

theorem Kept.earlier (kept : Kept settings base thread trace) (newer : HealthTrace) (call : HealthCall)
    (older : HealthTrace) (split : trace = newer ++ call :: (older ++ base)) :
    settings.permits base thread (older ++ base) call.command := by
  induction kept generalizing newer with
  | initial trace first =>
      have lengths := congrArg List.length (first.symm.trans split)
      simp only [List.length_append, List.length_cons] at lengths
      omega
  | call trace after command answer before permitted law ih =>
      obtain ⟨-, rfl⟩ := law
      cases newer with
      | nil =>
          cases split
          exact permitted
      | cons head newer =>
          cases split
          exact ih newer rfl

/-- The protocol that a thread keeps from any moment on at which it is free. -/
theorem health_traced (thread : RuntimeThread) (steps : Team.Steps (healthTeam settings) before after)
    (free : before.running thread = none) :
    Team.Traced thread (fun world : HealthWorld => callsOf thread world.log) HealthTrace.Extends
      (settings.permits (callsOf thread before.world.log) thread)
      (· = callsOf thread before.world.log) (fun _ _ _ => True) after := by
  have first : Team.Traced thread (fun world : HealthWorld => callsOf thread world.log)
      HealthTrace.Extends (settings.permits (callsOf thread before.world.log) thread)
      (· = callsOf thread before.world.log) (fun _ _ _ => True) before := .free free rfl
  apply Team.Steps.traced (health_sees thread) _ steps first
  intro operation trace kept
  apply Program.Obeys.weaken (issues_run operation (Kept.suffix kept))
  intro _ _ _
  trivial

def HealthCommand.assigns (flag : RuntimeFlag) : HealthCommand → Option Bool
  | .set other value => if other = flag then some value else none
  | .confirm _ => if flag = .confirmed then some true else none
  | _ => none

def assigned (flag : RuntimeFlag) (log : List (RuntimeThread × HealthCall)) : Option Bool :=
  log.findSome? fun entry => entry.2.command.assigns flag

/-- A queue that has failed or is stopped does not run again. -/
def Halted (state : EventQueueState) : Prop := state = .failed ∨ state = .stopped

structure Since (before world : HealthWorld) (recent : List (RuntimeThread × HealthCall)) : Prop where
  log : world.log = recent ++ before.log
  flags : ∀ flag, world.flags flag = (assigned flag recent).getD (before.flags flag)
  reads : ∀ newer thread flag answer older,
    recent = newer ++ (thread, ⟨.get flag, answer⟩) :: older →
      answer = .ok ((assigned flag older).getD (before.flags flag))
  halted : Halted before.queue → Halted world.queue
  probes : Halted before.queue → ∀ thread answer, (thread, ⟨.queueHealthy, answer⟩) ∈ recent →
    answer = .ok false
  plain : ∀ entry ∈ recent, entry.2.Plain
  failed : ∀ thread exc answer, (thread, ⟨.queueFail exc, answer⟩) ∈ recent → Halted world.queue

theorem assigns_some {command : HealthCommand} {flag : RuntimeFlag} {value : Bool}
    (assigns : command.assigns flag = some value) :
    command = .set flag value ∨ flag = .confirmed ∧ ∃ token, command = .confirm token := by
  cases command with
  | set other given =>
      simp only [HealthCommand.assigns] at assigns
      split_ifs at assigns with same
      cases same
      cases assigns
      exact .inl rfl
  | confirm token =>
      simp only [HealthCommand.assigns] at assigns
      split_ifs at assigns with same
      exact .inr ⟨same, token, rfl⟩
  | _ => cases assigns

theorem flagsAfter_assigns (flags : RuntimeFlag → Bool) (command : HealthCommand) (flag : RuntimeFlag) :
    HealthWorld.flagsAfter flags command flag = (command.assigns flag).getD (flags flag) := by
  cases command with
  | set other value =>
      by_cases same : flag = other
      · subst same
        simp [HealthWorld.flagsAfter, HealthCommand.assigns]
      · simp [HealthWorld.flagsAfter, HealthCommand.assigns, same, Ne.symm same]
  | confirm token =>
      by_cases same : flag = .confirmed
      · subst same
        simp [HealthWorld.flagsAfter, HealthCommand.assigns]
      · simp [HealthWorld.flagsAfter, HealthCommand.assigns, same]
  | _ => rfl

theorem queueAfter_halted {state : EventQueueState} (halted : Halted state) (command : HealthCommand) :
    Halted (HealthWorld.queueAfter state command) := by
  cases command <;> rcases halted with rfl | rfl <;>
    first | exact .inl rfl | exact .inr rfl

theorem Since.step {start world : HealthWorld} {recent : List (RuntimeThread × HealthCall)}
    (since : Since start world recent) {command : HealthCommand}
    {answer : Except Exc (HealthResult command)} {next : HealthWorld}
    (law : HealthWorld.Answers thread world command answer next) :
    Since start next ((thread, ⟨command, answer⟩) :: recent) := by
  obtain ⟨truthful, rfl⟩ := law
  constructor
  · rw [HealthWorld.after, since.log]
    rfl
  · intro flag
    change HealthWorld.flagsAfter world.flags command flag = _
    rw [flagsAfter_assigns, since.flags]
    unfold assigned
    rw [List.findSome?_cons]
    cases command.assigns flag <;> rfl
  · intro newer other flag reply older split
    cases newer with
    | nil =>
        cases split
        rw [← since.flags]
        exact truthful
    | cons head newer =>
        cases split
        exact since.reads newer other flag reply older rfl
  · intro halted
    exact queueAfter_halted (since.halted halted) command
  · intro halted other reply member
    rcases List.mem_cons.1 member with same | member
    · cases same
      have running : reply = .ok (decide (world.queue = .running)) := truthful
      rcases since.halted halted with state | state <;> rw [running, state] <;> rfl
    · exact since.probes halted other reply member
  · intro entry member
    rcases List.mem_cons.1 member with rfl | member
    · exact truthful.plain
    · exact since.plain entry member
  · intro other exc reply member
    rcases List.mem_cons.1 member with same | member
    · cases same
      exact .inl rfl
    · exact queueAfter_halted (since.failed other exc reply member) command

theorem Since.steps (steps : Team.Steps (healthTeam settings) before after) :
    ∃ recent, Since before.world after.world recent := by
  induction steps with
  | refl =>
      refine ⟨[], rfl, fun _ => rfl, ?_, id, ?_, ?_, ?_⟩
      · intro newer _ _ _ older split
        simp at split
      · intro _ _ _ member
        cases member
      · intro _ member
        cases member
      · intro _ _ _ member
        cases member
  | step middle after steps step ih =>
      obtain ⟨recent, since⟩ := ih
      cases step with
      | invoke i operation free enabled => exact ⟨recent, since⟩
      | answer i operation command rest answer world busy law => exact ⟨_, since.step law⟩
      | finish i operation value busy => exact ⟨recent, since⟩
      | crash i world law => cases law

theorem Since.calls {start world : HealthWorld} {recent : List (RuntimeThread × HealthCall)}
    (since : Since start world recent) (thread : RuntimeThread) :
    callsOf thread world.log = callsOf thread recent ++ callsOf thread start.log := by
  rw [since.log, callsOf_append]

theorem Since.assigned {start world : HealthWorld} {recent : List (RuntimeThread × HealthCall)}
    (since : Since start world recent) {flag : RuntimeFlag} {value : Bool} (was : start.flags flag = !value)
    (read : (thread, ⟨.get flag, .ok value⟩) ∈ recent) :
    ∃ entry ∈ recent, entry.2.command.assigns flag = some value := by
  obtain ⟨newer, older, split⟩ := List.append_of_mem read
  have answered := since.reads newer thread flag _ older split
  rw [was] at answered
  cases found : MiniQmt.assigned flag older with
  | none =>
      rw [found] at answered
      cases value <;> cases answered
  | some other =>
      rw [found, Option.getD_some] at answered
      cases answered
      obtain ⟨entry, member, assigns⟩ := List.exists_of_findSome?_eq_some found
      refine ⟨entry, ?_, assigns⟩
      rw [split]
      exact List.mem_append_right _ (List.mem_cons_of_mem _ member)

theorem start_steps_calls (steps : Team.Steps (healthTeam settings)
      (Team.start (HealthWorld.initial settings)) after) (thread : RuntimeThread) :
    Kept settings [] thread (callsOf thread after.world.log) :=
  (health_traced thread steps rfl).guarded

theorem others_calm (steps : Team.Steps (healthTeam settings)
      (Team.start (HealthWorld.initial settings)) after) {call : HealthCall}
    (called : (thread, call) ∈ after.world.log) (enables : call.command.enables = true) :
    thread = .main := by
  obtain ⟨newer, older, split⟩ := List.append_of_mem (mem_callsOf.2 called)
  have permitted := (start_steps_calls steps thread).earlier newer call older (by
    rw [split, List.append_nil])
  cases thread with
  | main => rfl
  | worker =>
      rw [permitted.1] at enables
      cases enables
  | broker n =>
      rcases permitted with same | ⟨exc, same⟩ <;> rw [same] at enables <;> cases enables

theorem Since.given {recent : List (RuntimeThread × HealthCall)}
    (since : Since before.world after.world recent)
    (reachable : Team.Steps (healthTeam settings) (Team.start (HealthWorld.initial settings)) before)
    (onward : Team.Steps (healthTeam settings) before after) (free : before.running .main = none)
    {entry : RuntimeThread × HealthCall} (member : entry ∈ recent)
    (enables : entry.2.command.enables = true) : ∃ newer older,
      callsOf .main recent = newer ++ entry.2 :: older ∧
        settings.permits (callsOf .main before.world.log) .main
          (older ++ callsOf .main before.world.log) entry.2.command := by
  obtain ⟨thread, call⟩ := entry
  have called : (thread, call) ∈ after.world.log := by
    rw [since.log]
    exact List.mem_append_left _ member
  cases others_calm (reachable.trans onward) called enables
  obtain ⟨newer, older, split⟩ := List.append_of_mem (mem_callsOf.2 member)
  refine ⟨newer, older, split, Kept.earlier (health_traced .main onward free).guarded newer call older ?_⟩
  rw [since.calls, split]
  simp

theorem Since.unassigned {recent : List (RuntimeThread × HealthCall)}
    (since : Since before.world after.world recent)
    (reads : Team.Steps (healthTeam settings) (Team.start (HealthWorld.initial settings)) after)
    (silence : callsOf .main recent = []) {entry : RuntimeThread × HealthCall} (member : entry ∈ recent)
    (other : entry.1 ≠ .worker) (flag : RuntimeFlag) : entry.2.command.assigns flag = none := by
  obtain ⟨thread, call⟩ := entry
  cases thread with
  | worker => exact absurd rfl other
  | main =>
      have called := mem_callsOf.2 member
      rw [silence] at called
      cases called
  | broker n =>
      obtain ⟨newer, older, split⟩ := List.append_of_mem (mem_callsOf.2 member)
      have permitted := (start_steps_calls reads (.broker n)).earlier
        newer call (older ++ callsOf (.broker n) before.world.log)
        (by rw [since.calls, split]; simp)
      rcases permitted with same | ⟨exc, same⟩ <;> rw [same] <;> rfl

section Scripts

structure HealthReplies where
  item : Option QmtCallbackEvent := none
  code : Option ℤ := some 0
  out : ExecutionSnapshot := { state := .waitTrigger }
  evidence : SessionEvidence := ⟨true, true, true, ""⟩
  heard : Except Exc Unit := .ok ()

def HealthReplies.answer (replies : HealthReplies) (world : HealthWorld) :
    (command : HealthCommand) → Except Exc (HealthResult command)
  | .get flag => .ok (world.flags flag)
  | .queueHealthy => .ok (world.queue = .running)
  | .queueGet => .ok replies.item
  | .queueDrained => .ok false
  | .traderConnect => .ok replies.code
  | .subscribe => .ok replies.code
  | .reconcile => .ok replies.out
  | .verifySession => .ok replies.evidence
  | .orderStock _ => .ok replies.code
  | .set _ _ | .confirm _ | .queueStart | .queueStop | .queueFail _ | .taskDone | .acquire
  | .selectBoundAccount | .build | .release | .verifyBoundAccountHealthy | .unsubscribe | .openSession
  | .closeSession => .ok ()
  | .observe _ => replies.heard

def HealthReplies.respond (replies : HealthReplies) (thread : RuntimeThread) :
    Responder HealthCommand HealthResult Exc HealthWorld := fun world command =>
  (replies.answer world command, world.after thread ⟨command, replies.answer world command⟩)

theorem HealthReplies.truthful (replies : HealthReplies) (thread : RuntimeThread) (world : HealthWorld)
    (command : HealthCommand) : HealthWorld.Answers thread world command
      (replies.respond thread world command).1 (replies.respond thread world command).2 := by
  refine ⟨?_, rfl⟩
  cases command with
  | queueGet => exact ⟨_, rfl⟩
  | queueDrained => exact ⟨false, rfl, by simp⟩
  | get | set | confirm | queueHealthy | queueStop | queueFail | taskDone => rfl
  | _ => trivial

def liveSettings : RuntimeSettings where
  gate := ⟨.live, true, "digest", nofun, fun _ _ => by decide⟩
  tokenSha256 token := if token = "token" then "digest" else ""
  accountId := "1"
  securityAccountType := 2
  accountStatusOk := 0
  observes := true
  orderConfig := ⟨23, 24⟩
  priceType := 11
  strategyName := "alpha"

def begun (operation : HealthOperation) (thread : RuntimeThread) (replies : HealthReplies) (bound : ℕ)
    (world : HealthWorld) :=
  (operation.run liveSettings thread ()).drive (replies.respond thread) bound world

theorem begun_steps (operation : HealthOperation) (thread : RuntimeThread) (replies : HealthReplies)
    (bound : ℕ) {world : HealthWorld} {results : HealthOperation.Results}
    (enabled : HealthOperation.Enabled results operation) :
    Team.Steps (healthTeam liveSettings) ⟨fun _ => none, results, world⟩
      ⟨Function.update (fun _ => none) thread
        (some (operation, (begun operation thread replies bound world).1)), results,
        (begun operation thread replies bound world).2⟩ := by
  have invoked : Team.Step (healthTeam liveSettings) ⟨fun _ => none, results, world⟩
      ⟨Function.update (fun _ => none) thread
        (some (operation, operation.run liveSettings thread ())), results, world⟩ :=
    .invoke ⟨fun _ => none, results, world⟩ thread operation rfl enabled
  have answered : Team.Steps (healthTeam liveSettings) ⟨Function.update (fun _ => none) thread
      (some (operation, operation.run liveSettings thread ())), results, world⟩ _ :=
    Team.Steps.answers (Function.update_self ..)
      (Program.drive_reaches (replies.truthful thread) bound _ world)
  rw [Function.update_idem] at answered
  exact (Team.Steps.one invoked).trans answered

def performed (operation : HealthOperation) (thread : RuntimeThread) (replies : HealthReplies)
    (world : HealthWorld) :=
  begun operation thread replies 100 world

theorem performed_steps {operation : HealthOperation} {thread : RuntimeThread} {replies : HealthReplies}
    {world : HealthWorld} {results : HealthOperation.Results} {value : Except Exc HealthOutcome × Unit}
    (enabled : HealthOperation.Enabled results operation)
    (ends : (performed operation thread replies world).1 = .done value) :
    Team.Steps (healthTeam liveSettings) ⟨fun _ => none, results, world⟩
      ⟨fun _ => none, (operation, value) :: results, (performed operation thread replies world).2⟩ := by
  apply Team.Steps.operation (i := thread) rfl enabled
  rw [← ends]
  exact Program.drive_reaches (replies.truthful thread) 100 _ world

def connectedWorld : HealthWorld := (performed (.connect true) .main {} (.initial liveSettings)).2

def confirmedWorld : HealthWorld := (performed (.confirmLive "token") .main {} connectedWorld).2

def disconnectedWorld : HealthWorld :=
  (performed .turn .worker { item := some .brokerDisconnected } confirmedWorld).2

def recoveredWorld : HealthWorld :=
  (performed (.recoverAfterDisconnect (some "token")) .main {} disconnectedWorld).2

def confirmedResults : HealthOperation.Results :=
  [(.confirmLive "token", .ok .done, ()), (.connect true, .ok .done, ())]

theorem confirmed_steps : Team.Steps (healthTeam liveSettings)
    (Team.start (HealthWorld.initial liveSettings)) ⟨fun _ => none, confirmedResults, confirmedWorld⟩ := by
  have connected : Team.Steps (healthTeam liveSettings) (Team.start (HealthWorld.initial liveSettings))
      ⟨fun _ => none, [(.connect true, .ok .done, ())], connectedWorld⟩ :=
    performed_steps (by simp [HealthOperation.Enabled]) rfl
  exact connected.trans (performed_steps ⟨true, by simp⟩ rfl)

theorem disconnected_steps : Team.Steps (healthTeam liveSettings)
    (Team.start (HealthWorld.initial liveSettings))
    ⟨fun _ => none, (.turn, .ok (.holds true), ()) :: confirmedResults, disconnectedWorld⟩ :=
  confirmed_steps.trans (performed_steps
    (by simp [HealthOperation.Enabled, HealthOperation.On, confirmedResults]) rfl)

theorem recovered_steps : Team.Steps (healthTeam liveSettings)
    ⟨fun _ => none, (.turn, .ok (.holds true), ()) :: confirmedResults, disconnectedWorld⟩
    ⟨fun _ => none, (.recoverAfterDisconnect (some "token"), .ok .done, ()) ::
      (.turn, .ok (.holds true), ()) :: confirmedResults, recoveredWorld⟩ :=
  performed_steps ⟨true, by simp [confirmedResults]⟩ rfl

end Scripts

/-- Once health has been revoked, while the main thread is between two operations, no order is sent until
the main thread has gone through a whole recovery, and in the live environment has confirmed with the
right token; and none is sent again after the event queue has failed or the runtime has been closed. -/
theorem no_order_before_recovery
    (reachable : Team.Steps (healthTeam settings) (Team.start (HealthWorld.initial settings)) before)
    (onward : Team.Steps (healthTeam settings) before after) (free : before.running .main = none)
    {operation : HealthOperation} {order : StockOrder} {rest}
    (sending : after.running .main = some (operation, .call (.orderStock order) rest)) :
    ∃ recent, after.world.log = recent ++ before.world.log ∧ ¬ Halted before.world.queue ∧
      (before.world.flags .recoveryReady = false → before.world.flags .closed = false ∧
        ∃ newer steps older, callsOf .main recent =
          newer ++ ⟨.set .recoveryReady true, .ok ()⟩ :: (steps ++ older) ∧ Recovery settings steps) ∧
      (settings.gate.environment = .live → before.world.flags .confirmed = false →
        ∃ token, settings.Accepts token ∧ ⟨.confirm token, .ok ()⟩ ∈ callsOf .main recent) := by
  obtain ⟨recent, since⟩ := Since.steps onward
  have traced := health_traced .main onward free
  -- the checks of the order have been made since
  have checked : ∃ older, callsOf .main recent = checks settings ++ older := by
    obtain ⟨older, same⟩ := (traced.running operation _ sending).1
    refine ⟨older, ?_⟩
    rw [since.calls, ← List.append_assoc] at same
    exact List.append_cancel_right same
  obtain ⟨older, checked⟩ := checked
  have read (call : HealthCall) (member : call ∈ checks settings) : (.main, call) ∈ recent := by
    apply mem_callsOf.1
    rw [checked]
    exact List.mem_append_left _ member
  have given {entry : RuntimeThread × HealthCall} (member : entry ∈ recent) :=
    since.given reachable onward free member
  refine ⟨recent, since.log, ?_, ?_, ?_⟩
  · intro halted
    have probed := since.probes halted .main _
      (read ⟨.queueHealthy, .ok true⟩ (by simp [checks]))
    cases probed
  · intro down
    obtain ⟨⟨thread, ⟨command, answer⟩⟩, member, assigns⟩ := since.assigned down
      (read ⟨.get .recoveryReady, .ok true⟩ (by simp [checks]))
    rcases assigns_some assigns with rfl | ⟨⟨⟩, -⟩
    cases since.plain _ member
    obtain ⟨newer, earlier, split, steps, older, sequence, recovery⟩ := given member rfl
    rw [← List.append_assoc] at sequence
    cases List.append_cancel_right sequence
    refine ⟨?_, newer, steps, older, split, recovery⟩
    -- the runtime was not closed when the recovery began, and no call opens it again
    have unclosed : (.main, ⟨.get .closed, .ok false⟩) ∈ recent := by
      apply mem_callsOf.1
      rw [split]
      cases recovery <;> simp [opened, recovered]
    by_contra closed
    obtain ⟨⟨thread, ⟨command, answer⟩⟩, member, assigns⟩ :=
      since.assigned (by simpa using closed) unclosed
    rcases assigns_some assigns with rfl | ⟨⟨⟩, -⟩
    obtain ⟨_, _, _, permitted⟩ := given member rfl
    cases permitted
  · intro live unconfirmed
    obtain ⟨⟨thread, ⟨command, answer⟩⟩, member, assigns⟩ := since.assigned unconfirmed
      (read ⟨.get .confirmed, .ok true⟩ (by simp [checks, live]))
    rcases assigns_some assigns with rfl | ⟨-, token, rfl⟩
    · obtain ⟨_, _, _, permitted⟩ := given member rfl
      cases permitted
    · cases since.plain _ member
      obtain ⟨newer, older, split, accepts⟩ := given member rfl
      refine ⟨token, accepts, ?_⟩
      rw [split]
      simp

def liveRequest : ExecutionRequest where
  clientOrderId := "live-1"
  symbol := "159919.SZ"
  side := .buy
  qty := 700
  limitPrice := 9
  strategyId := "grid"
  orderRemark := "live-r1"
  clientOrderId_ne := by decide
  symbol_ne := by decide
  strategyId_ne := by decide
  orderRemark_ne := by decide
  qty_pos := by decide
  limitPrice_pos := by norm_num

def sendingWorld : HealthWorld := (begun (.placeOrder liveRequest) .main {} 6 recoveredWorld).2

theorem no_order_before_recovery_recovered : ∃ recent,
    sendingWorld.log = recent ++ disconnectedWorld.log ∧
    (∃ newer steps older, callsOf .main recent =
      newer ++ ⟨.set .recoveryReady true, .ok ()⟩ :: (steps ++ older) ∧ Recovery liveSettings steps) ∧
    ∃ token, liveSettings.Accepts token ∧ ⟨.confirm token, .ok ()⟩ ∈ callsOf .main recent := by
  have recovered := recovered_steps.trans (begun_steps (.placeOrder liveRequest) .main {} 6
    ⟨true, by simp [confirmedResults]⟩)
  have sending : ∃ rest, (begun (.placeOrder liveRequest) .main {} 6 recoveredWorld).1 =
      .call (.orderStock (stockOrder liveSettings liveRequest)) rest := ⟨_, rfl⟩
  obtain ⟨rest, sending⟩ := sending
  rw [sending] at recovered
  obtain ⟨recent, log, -, recovers, confirms⟩ :=
    no_order_before_recovery disconnected_steps recovered rfl rfl
  exact ⟨recent, log, (recovers rfl).2, confirms rfl rfl⟩

/-- The flags that the handling of an event takes away. -/
def takes (settings : RuntimeSettings) (runtime : Bool) : QmtCallbackEvent → RuntimeFlag → Bool
  | .brokerDisconnected, flag => match flag with
    | .transportConnected | .accountHealthy => true
    | .confirmed => settings.gate.environment = .live
    | .brokerConnected | .recoveryReady => runtime
    | _ => false
  | .accountStatusObserved accountId accountType status, flag =>
      runtime && isUnhealthy settings accountId accountType status && match flag with
      | .accountHealthy | .recoveryReady => true
      | .confirmed => settings.gate.environment = .live
      | _ => false
  | _, _ => false

def assignedBy (flag : RuntimeFlag) (calls : HealthTrace) : Option Bool :=
  calls.findSome? (·.command.assigns flag)

theorem assignedBy_append (flag : RuntimeFlag) (first second : HealthTrace) :
    assignedBy flag (first ++ second) = (assignedBy flag first).or (assignedBy flag second) :=
  List.findSome?_append

theorem assignedBy_reacted (runtime : Bool) (event : QmtCallbackEvent) (flag : RuntimeFlag) :
    assignedBy flag (reacted settings runtime event) =
      if takes settings runtime event flag then some false else none := by
  cases event with
  | malformed callbackName error => rfl
  | observed => rfl
  | brokerDisconnected =>
      cases runtime <;> cases flag <;> by_cases live : settings.gate.environment = .live <;>
        simp [reacted, revoked, takes, assignedBy, HealthCommand.assigns, live]
  | accountStatusObserved accountId accountType status =>
      cases unhealthy : runtime && isUnhealthy settings accountId accountType status with
      | false => simp [reacted, takes, unhealthy, assignedBy]
      | true =>
          cases flag <;> by_cases live : settings.gate.environment = .live <;>
            simp [reacted, revoked, takes, unhealthy, assignedBy, HealthCommand.assigns, live]

theorem Passed.assigns {event : QmtCallbackEvent} {passed : HealthTrace}
    (passes : Passed settings event passed) (flag : RuntimeFlag) : assignedBy flag passed = none := by
  cases passes <;> rfl

theorem Handled.assigns {event : QmtCallbackEvent} {runtime : Bool} {calls : HealthTrace}
    (handled : Handled settings event runtime calls) (flag : RuntimeFlag) :
    assignedBy flag calls = if takes settings runtime event flag then some false else none := by
  obtain ⟨passed, passes, rfl⟩ := handled
  rw [assignedBy_append, assignedBy_append, passes.assigns, assignedBy_reacted, Option.none_or]
  exact Option.or_none

theorem assigned_own {thread : RuntimeThread} {recent : List (RuntimeThread × HealthCall)}
    (own : ∀ entry ∈ recent, entry.1 ≠ thread → ∀ flag, entry.2.command.assigns flag = none)
    (flag : RuntimeFlag) : assigned flag recent = assignedBy flag (callsOf thread recent) := by
  induction recent with
  | nil => rfl
  | cons entry recent ih =>
      have rest := ih fun other member => own other (List.mem_cons_of_mem _ member)
      obtain ⟨other, call⟩ := entry
      by_cases same : other = thread
      · subst same
        rw [callsOf_own]
        unfold assigned assignedBy at rest ⊢
        rw [List.findSome?_cons, List.findSome?_cons, rest]
      · rw [callsOf_other same, ← rest]
        unfold assigned
        rw [List.findSome?_cons, own (other, call) (List.mem_cons_self ..) same]

theorem first_unique {α : Type} (kind : α → Prop) {first second : List α} {head other : α}
    {tail rest : List α} (same : first ++ head :: tail = second ++ other :: rest)
    (before : ∀ x ∈ first, ¬ kind x) (earlier : ∀ x ∈ second, ¬ kind x) (is : kind head)
    (also : kind other) : first = second ∧ head = other ∧ tail = rest := by
  induction first generalizing second with
  | nil =>
      cases second with
      | nil =>
          cases same
          exact ⟨rfl, rfl, rfl⟩
      | cons x second =>
          cases same
          exact absurd is (earlier _ (List.mem_cons_self ..))
  | cons x first ih =>
      cases second with
      | nil =>
          cases same
          exact absurd also (before _ (List.mem_cons_self ..))
      | cons y second =>
          rw [List.cons_append, List.cons_append, List.cons.injEq] at same
          obtain ⟨rfl, same⟩ := same
          obtain ⟨rfl, rfl, rfl⟩ := ih same (fun z member => before z (List.mem_cons_of_mem _ member))
            (fun z member => earlier z (List.mem_cons_of_mem _ member))
          exact ⟨rfl, rfl, rfl⟩

def HealthCall.gets (call : HealthCall) : Bool :=
  match call.command with
  | .queueGet => true
  | _ => false

theorem reacted_gets {runtime : Bool} {event : QmtCallbackEvent} :
    ∀ call ∈ reacted settings runtime event, call.gets = false := by
  cases event with
  | malformed callbackName error => simp [reacted]
  | observed => simp [reacted]
  | brokerDisconnected =>
      cases runtime <;> by_cases live : settings.gate.environment = .live <;>
        simp [reacted, revoked, HealthCall.gets, live]
  | accountStatusObserved accountId accountType status =>
      cases unhealthy : runtime && isUnhealthy settings accountId accountType status with
      | false => simp [reacted, unhealthy]
      | true =>
          by_cases live : settings.gate.environment = .live <;>
            simp [reacted, revoked, unhealthy, HealthCall.gets, live]

theorem Passed.gets {event : QmtCallbackEvent} {passed : HealthTrace}
    (passes : Passed settings event passed) : ∀ call ∈ passed, call.gets = false := by
  cases passes <;> simp [HealthCall.gets]

theorem Handled.gets {event : QmtCallbackEvent} {runtime : Bool} {calls : HealthTrace}
    (handled : Handled settings event runtime calls) : ∃ later,
      calls = later ++ [⟨.queueGet, .ok (some event)⟩] ∧ (∀ call ∈ later, call.gets = false) ∧
        ⟨.get .runtime, .ok runtime⟩ ∈ later := by
  obtain ⟨passed, passes, rfl⟩ := handled
  refine ⟨passed ++ (reacted settings runtime event ++ [⟨.get .runtime, .ok runtime⟩]), by simp, ?_,
    by simp⟩
  intro call member
  rcases List.mem_append.1 member with member | member
  · exact passes.gets call member
  · rcases List.mem_append.1 member with member | member
    · exact reacted_gets call member
    · rw [List.mem_singleton.1 member]
      rfl

theorem Handled.malformed {callbackName error : String} {runtime : Bool} {calls : HealthTrace}
    (handled : Handled settings (.malformed callbackName error) runtime calls) :
    ∃ exc, ⟨.queueFail exc, .ok ()⟩ ∈ calls := by
  obtain ⟨passed, passes, rfl⟩ := handled
  cases passes with
  | malformed _ _ exc => exact ⟨exc, by simp⟩
  | unobserved _ _ formed | observed _ formed | raised _ _ formed =>
      exact absurd rfl (formed callbackName error)

theorem reacted_observes {runtime : Bool} {event other : QmtCallbackEvent} {answer : Except Exc Unit} :
    ⟨.observe other, answer⟩ ∉ reacted settings runtime event := by
  cases event with
  | malformed callbackName error => simp [reacted]
  | observed => simp [reacted]
  | brokerDisconnected =>
      cases runtime <;> by_cases live : settings.gate.environment = .live <;>
        simp [reacted, revoked, live]
  | accountStatusObserved accountId accountType status =>
      cases unhealthy : runtime && isUnhealthy settings accountId accountType status with
      | false => simp [reacted, unhealthy]
      | true =>
          by_cases live : settings.gate.environment = .live <;>
            simp [reacted, revoked, unhealthy, live]

theorem Handled.raised {event other : QmtCallbackEvent} {runtime : Bool} {calls : HealthTrace} {exc : Exc}
    (handled : Handled settings event runtime calls) (raised : ⟨.observe other, .error exc⟩ ∈ calls) :
    ⟨.queueFail exc, .ok ()⟩ ∈ calls := by
  obtain ⟨passed, passes, rfl⟩ := handled
  have told : ⟨.observe other, .error exc⟩ ∈ passed := by
    rcases List.mem_append.1 raised with told | reacts
    · exact told
    · rcases List.mem_append.1 reacts with reacts | first
      · exact absurd reacts reacted_observes
      · simp at first
  cases passes with
  | unobserved => cases told
  | observed event => simp at told
  | raised event other => simp_all
  | malformed callbackName error other => simp at told

/-- The calls of a turn that has ended are those of a whole handling. -/
theorem ended_turn {event : QmtCallbackEvent} {calls older : HealthTrace}
    (permitted : settings.permits base .worker (calls ++ ⟨.queueGet, .ok (some event)⟩ :: older)
      .taskDone) (one : ∀ call ∈ calls, call.gets = false) :
    ∃ runtime, Handled settings event runtime (calls ++ [⟨.queueGet, .ok (some event)⟩]) ∧
      ⟨.get .runtime, .ok runtime⟩ ∈ calls := by
  have single (later : HealthTrace) {rest : HealthTrace} {item : Option QmtCallbackEvent}
      (same : calls ++ ⟨.queueGet, .ok (some event)⟩ :: older =
        later ++ ⟨.queueGet, .ok item⟩ :: rest) (quiet : ∀ call ∈ later, call.gets = false) :
      calls = later ∧ some event = item := by
    obtain ⟨rfl, first, -⟩ := first_unique (fun call : HealthCall => call.gets = true) same
      (fun call member => by simp [one call member]) (fun call member => by simp [quiet call member])
      rfl rfl
    cases first
    exact ⟨rfl, rfl⟩
  rcases permitted.2 rfl with ⟨rest, same⟩ | ⟨other, runtime, whole, rest, handled, same⟩
  · obtain ⟨-, none⟩ := single [] same fun _ member => by cases member
    cases none
  · obtain ⟨later, rfl, quiet, found⟩ := handled.gets
    rw [List.append_assoc] at same
    obtain ⟨rfl, item⟩ := single later same quiet
    cases item
    exact ⟨runtime, handled, found⟩

/-- Handling an event, while the main thread does nothing, takes away exactly the flags that the event
takes; a malformed event and an observation handler that raises halt the queue. -/
theorem handled_event_revokes
    (reachable : Team.Steps (healthTeam settings) (Team.start (HealthWorld.initial settings)) before)
    (onward : Team.Steps (healthTeam settings) before after) (free : before.running .worker = none)
    (silent : callsOf .main after.world.log = callsOf .main before.world.log)
    {event : QmtCallbackEvent} {calls : HealthTrace}
    (handled : callsOf .worker after.world.log = ⟨.taskDone, .ok ()⟩ ::
      (calls ++ ⟨.queueGet, .ok (some event)⟩ :: callsOf .worker before.world.log))
    (one : ∀ call ∈ calls, call.gets = false) :
    (∀ flag, after.world.flags flag = (before.world.flags flag &&
      !takes settings (before.world.flags .runtime) event flag)) ∧
    ((∃ callbackName error, event = .malformed callbackName error) → Halted after.world.queue) ∧
    (∀ other exc, ⟨.observe other, .error exc⟩ ∈ calls → Halted after.world.queue) := by
  have reads := reachable.trans onward
  have kept := (health_traced .worker onward free).guarded
  obtain ⟨recent, since⟩ := Since.steps onward
  have turn : callsOf .worker recent = ⟨.taskDone, .ok ()⟩ :: (calls ++ [⟨.queueGet, .ok (some event)⟩]) := by
    have whole := (since.calls .worker).symm.trans handled
    apply List.append_cancel_right (whole.trans _)
    simp
  have silence : callsOf .main recent = [] := by
    have whole := (since.calls .main).symm.trans silent
    exact List.append_cancel_right (whole.trans (List.nil_append _).symm)
  have permitted := Kept.earlier kept [] ⟨.taskDone, .ok ()⟩
    (calls ++ [⟨.queueGet, .ok (some event)⟩]) (by rw [handled]; simp)
  rw [List.append_assoc] at permitted
  obtain ⟨runtime, whole, found⟩ := ended_turn permitted one
  have assigned_eq (flag : RuntimeFlag) : assigned flag recent =
      if takes settings runtime event flag then some false else none := by
    -- the other threads assign nothing
    rw [assigned_own fun entry member other => since.unassigned reads silence member other, turn]
    exact whole.assigns flag
  have published : before.world.flags .runtime = runtime := by
    by_contra other
    have read : (.worker, ⟨.get .runtime, .ok runtime⟩) ∈ recent := by
      apply mem_callsOf.1
      rw [turn]
      simp [found]
    obtain ⟨entry, member, assigns⟩ := since.assigned (Bool.eq_not.2 other) read
    have unassigned := assigned_eq .runtime
    rw [if_neg (by cases event <;> simp [takes])] at unassigned
    rw [List.findSome?_eq_none_iff.1 unassigned entry member] at assigns
    cases assigns
  have halts {exc : Exc} (member : ⟨.queueFail exc, .ok ()⟩ ∈ calls) : Halted after.world.queue := by
    apply since.failed .worker exc (.ok ())
    apply mem_callsOf.1
    rw [turn]
    simp [member]
  refine ⟨?_, ?_, ?_⟩
  · intro flag
    rw [since.flags, assigned_eq, published]
    cases takes settings runtime event flag <;> simp
  · rintro ⟨callbackName, error, rfl⟩
    obtain ⟨exc, member⟩ := whole.malformed
    have failed : ⟨.queueFail exc, .ok ()⟩ ∈ calls := by simpa using member
    exact halts failed
  · intro other exc raised
    have member := whole.raised (List.mem_append_left _ raised)
    have failed : ⟨.queueFail exc, .ok ()⟩ ∈ calls := by simpa using member
    exact halts failed

def handledWorld : HealthWorld :=
  (begun .turn .worker { item := some .brokerDisconnected, heard := .error ⟨.valueError, "handler"⟩ } 10
    confirmedWorld).2

theorem handled_event_revokes_disconnected :
    handledWorld.flags .confirmed = false ∧ handledWorld.flags .recoveryReady = false ∧
      handledWorld.flags .runtime = true ∧ Halted handledWorld.queue := by
  have handled : callsOf .worker handledWorld.log = ⟨.taskDone, .ok ()⟩ ::
      (([⟨.queueFail ⟨.valueError, "handler"⟩, .ok ()⟩,
          ⟨.observe .brokerDisconnected, .error ⟨.valueError, "handler"⟩⟩] ++
        (reacted liveSettings true .brokerDisconnected ++ [⟨.get .runtime, .ok true⟩])) ++
        ⟨.queueGet, .ok (some .brokerDisconnected)⟩ :: callsOf .worker confirmedWorld.log) := by rfl
  have one : ∀ call ∈ [⟨.queueFail ⟨.valueError, "handler"⟩, .ok ()⟩,
        ⟨.observe .brokerDisconnected, .error ⟨.valueError, "handler"⟩⟩] ++
      (reacted liveSettings true .brokerDisconnected ++ [⟨.get .runtime, .ok true⟩]),
      call.gets = false := by
    intro call member
    rcases List.mem_append.1 member with ends | member
    · rcases List.mem_cons.1 ends with rfl | ends
      · rfl
      · rw [List.mem_singleton.1 ends]
        rfl
    · rcases List.mem_append.1 member with reacts | read
      · exact reacted_gets call reacts
      · rw [List.mem_singleton.1 read]
        rfl
  have turned : Team.Steps (healthTeam liveSettings) ⟨fun _ => none, confirmedResults, confirmedWorld⟩ _ :=
    begun_steps .turn .worker
      { item := some .brokerDisconnected, heard := .error ⟨.valueError, "handler"⟩ } 10
      (by simp [HealthOperation.Enabled, HealthOperation.On, confirmedResults])
  obtain ⟨revokes, -, halts⟩ := handled_event_revokes confirmed_steps turned rfl rfl handled one
  exact ⟨revokes .confirmed, revokes .recoveryReady, revokes .runtime,
    halts .brokerDisconnected ⟨.valueError, "handler"⟩ (by simp)⟩

end Runs

end QmtExecution.MiniQmt
