import QmtExecution.EventQueue
import Mathlib.Logic.Function.Basic
import Mathlib.Logic.Relation

/-! Any number of threads that emit into, start and stop one event queue, and its worker: while
the queue is healthy nothing was lost. -/

namespace QmtExecution

inductive QueueWorker (ε : Type)
  | absent
  | waiting
  | handling (item : QueueItem ε)
  | handled
  | ended

/-- Where a thread is in a call of the queue; `late` says that `start` was called before its
`try_emit` began. -/
inductive QueueCaller (ε : Type)
  | idle
  | entering (event : ε) (late : Bool)
  | putting (event : ε) (late : Bool)
  | overflowing (late : Bool)
  | stopping

/-- The queue with its threads, and what has happened: the events put and handled in order, what
handlers have raised, and what each `try_emit` has returned. -/
structure EventSystem (ι ε : Type) where
  queue : SerialEventQueue ε
  worker : QueueWorker ε := .absent
  caller : ι → QueueCaller ε := fun _ => .idle
  startCalled : Bool := false
  puts : List ε := []
  handled : List ε := []
  raised : List Exc := []
  returned : List (Bool × Bool) := []

def EventSystem.initial (ι : Type) {ε : Type} (maxsize : ℕ) (positive : 0 < maxsize) :
    EventSystem ι ε where
  queue := { maxsize := maxsize, maxsize_pos := positive }

def QueueWorker.current {ε : Type} : QueueWorker ε → List (QueueItem ε)
  | .handling item => [item]
  | _ => []

namespace EventSystem

variable {ι ε : Type}

/-- Before `start` nothing has happened but refused calls. -/
structure Pristine (system : EventSystem ι ε) : Prop where
  uncalled : system.startCalled = false
  thread : system.queue.thread = .absent
  worker : system.worker = .absent
  queue : system.queue.queue = []
  puts : system.puts = []
  handled : system.handled = []
  raised : system.raised = []
  callers : ∀ i, system.caller i = .idle ∨ ∃ event, system.caller i = .entering event false
  returned : ∀ call ∈ system.returned, call.1 = false

/-- The handled events, the one in hand and the queued ones are the events put. -/
structure Lossless (system : EventSystem ι ε) : Prop where
  events : system.handled.map QueueItem.event ++ system.worker.current ++ system.queue.queue =
    system.puts.map QueueItem.event
  raised : system.raised = []
  callers : ∀ i, system.caller i ≠ .stopping
  returned : ∀ call ∈ system.returned, call.1 = true → call.2 = true

/-- What holds in every state of the queue; a stopped or failed queue promises nothing. -/
def Sound (system : EventSystem ι ε) : Prop :=
  match system.queue.state with
  | .new => system.Pristine
  | .running => system.Lossless
  | .stopped | .failed => True

section

variable {system : EventSystem ι ε}

theorem sound_pristine (fresh : system.queue.state = .new) (pristine : system.Pristine) :
    system.Sound := by
  unfold Sound
  rw [fresh]
  exact pristine

theorem sound_lossless (running : system.queue.state = .running) (lossless : system.Lossless) :
    system.Sound := by
  unfold Sound
  rw [running]
  exact lossless

theorem healthy_iff : system.queue.healthy = true ↔ system.queue.state = .running := by
  simp [SerialEventQueue.healthy]

def Ended (system : EventSystem ι ε) : Prop :=
  system.queue.state = .stopped ∨ system.queue.state = .failed

theorem Ended.sound (ended : system.Ended) : system.Sound := by
  unfold Sound
  rcases ended with stopped | failed
  · rw [stopped]
    exact trivial
  · rw [failed]
    exact trivial

theorem putNowait_some {queue stored : SerialEventQueue ε} {item : QueueItem ε}
    (put : queue.putNowait item = some stored) :
    stored = { queue with queue := queue.queue ++ [item] } := by
  unfold SerialEventQueue.putNowait at put
  split_ifs at put
  cases put
  rfl

end

variable [DecidableEq ι]

def move (system : EventSystem ι ε) (i : ι) (caller : QueueCaller ε) : EventSystem ι ε :=
  { system with caller := Function.update system.caller i caller }

/-- The worker takes its first turn once `Thread.start` has succeeded. -/
def start (system : EventSystem ι ε) (created : Except Exc Unit) : EventSystem ι ε :=
  let queue := (system.queue.start created).2
  { system with
    queue := queue
    startCalled := true
    worker := if system.queue.thread ≠ .started ∧ queue.thread = .started then .waiting
      else system.worker }

inductive Step : EventSystem ι ε → EventSystem ι ε → Prop
  | start (system : EventSystem ι ε) (i : ι) (created : Except Exc Unit)
      (idle : system.caller i = .idle) :
      Step system (system.start created)
  | tryEmit (system : EventSystem ι ε) (i : ι) (event : ε) (idle : system.caller i = .idle) :
      Step system (system.move i (.entering event system.startCalled))
  | grant (system : EventSystem ι ε) (i : ι) (event : ε) (late : Bool)
      (entering : system.caller i = .entering event late)
      (accepting : system.queue.state = .running) :
      Step system (system.move i (.putting event late))
  | refuse (system : EventSystem ι ε) (i : ι) (event : ε) (late : Bool)
      (entering : system.caller i = .entering event late)
      (refusing : system.queue.state ≠ .running) :
      Step system { system.move i .idle with returned := system.returned ++ [(late, false)] }
  | put (system : EventSystem ι ε) (i : ι) (event : ε) (late : Bool) (queue : SerialEventQueue ε)
      (putting : system.caller i = .putting event late)
      (stored : system.queue.putNowait (.event event) = some queue) :
      Step system { system.move i .idle with
        queue := queue, puts := system.puts ++ [event]
        returned := system.returned ++ [(late, true)] }
  | full (system : EventSystem ι ε) (i : ι) (event : ε) (late : Bool)
      (putting : system.caller i = .putting event late)
      (full : system.queue.putNowait (.event event) = none) :
      Step system (system.move i (.overflowing late))
  | overflow (system : EventSystem ι ε) (i : ι) (late : Bool)
      (overflowing : system.caller i = .overflowing late) :
      Step system { system.move i .idle with
        queue := system.queue.fail SerialEventQueue.overflow
        returned := system.returned ++ [(late, false)] }
  | stop (system : EventSystem ι ε) (i : ι) (idle : system.caller i = .idle) :
      Step system { system.move i (if system.queue.markStopped.1 then .stopping else .idle) with
        queue := system.queue.markStopped.2 }
  | putStop (system : EventSystem ι ε) (i : ι) (stopping : system.caller i = .stopping) :
      Step system { system.move i .idle with queue := system.queue.putStop }
  | get (system : EventSystem ι ε) (item : QueueItem ε) (rest : List (QueueItem ε))
      (waiting : system.worker = .waiting) (queued : system.queue.queue = item :: rest) :
      Step system { system with
        queue := { system.queue with queue := rest }, worker := .handling item }
  | handle (system : EventSystem ι ε) (event : ε)
      (handling : system.worker = .handling (.event event)) :
      Step system { system with worker := .handled, handled := system.handled ++ [event] }
  | raise (system : EventSystem ι ε) (event : ε) (exc : Exc)
      (handling : system.worker = .handling (.event event)) :
      Step system { system with
        queue := system.queue.fail exc, worker := .ended, raised := system.raised ++ [exc] }
  | sentinel (system : EventSystem ι ε) (handling : system.worker = .handling .stop) :
      Step system { system with worker := .ended }
  | turn (system : EventSystem ι ε) (done : system.worker = .handled) :
      Step system { system with worker := if system.queue.drained then .ended else .waiting }

def Reachable (system : EventSystem ι ε) : Prop :=
  ∃ maxsize positive, Relation.ReflTransGen Step (initial ι maxsize positive) system

section

variable {before after system : EventSystem ι ε}

@[simp] theorem move_queue (i : ι) (caller : QueueCaller ε) :
    (system.move i caller).queue = system.queue := rfl

@[simp] theorem move_worker (i : ι) (caller : QueueCaller ε) :
    (system.move i caller).worker = system.worker := rfl

theorem move_caller (system : EventSystem ι ε) (i j : ι) (caller : QueueCaller ε) :
    (system.move i caller).caller j = caller ∨
      (system.move i caller).caller j = system.caller j := by
  by_cases same : j = i
  · subst same
    exact .inl (Function.update_self _ _ _)
  · exact .inr (Function.update_of_ne same _ _)

theorem Step.ended (step : Step before after) (ended : before.Ended) : after.Ended := by
  cases step with
  | start i created idle =>
      unfold Ended EventSystem.start SerialEventQueue.start
      rcases ended with stopped | failed
      · rw [stopped]
        exact .inl stopped
      · rw [failed]
        exact .inr failed
  | put i event late queue putting stored =>
      rw [putNowait_some stored]
      exact ended
  | overflow => exact .inr rfl
  | stop i idle =>
      unfold Ended SerialEventQueue.markStopped
      rcases ended with stopped | failed
      · rw [stopped]
        exact .inl stopped
      · rw [failed]
        exact .inr failed
  | putStop i stopping =>
      unfold Ended SerialEventQueue.putStop SerialEventQueue.putNowait
      split_ifs
      · exact ended
      · exact ended
  | raise => exact .inr rfl
  | _ => exact ended

theorem Step.pristine (step : Step before after) (fresh : before.queue.state = .new)
    (pristine : before.Pristine) : after.Sound := by
  have running {caller : QueueCaller ε} {i : ι} (held : before.caller i = caller)
      (idle : caller ≠ .idle) : ∃ event, caller = .entering event false := by
    rcases pristine.callers i with same | ⟨event, same⟩
    · exact absurd (held.symm.trans same) idle
    · exact ⟨event, held.symm.trans same⟩
  cases step with
  | start i created idle =>
      have lossless : (before.start created).Lossless := by
        constructor
        · cases created <;>
            simp [EventSystem.start, SerialEventQueue.start, fresh, pristine.thread,
              pristine.worker, pristine.queue, pristine.puts, pristine.handled,
              QueueWorker.current]
        · exact pristine.raised
        · intro j stopping
          obtain ⟨event, same⟩ := running stopping (by simp)
          cases same
        · intro call member late
          rw [pristine.returned call member] at late
          cases late
      refine sound_lossless ?_ lossless
      cases created <;> simp [EventSystem.start, SerialEventQueue.start, fresh]
  | tryEmit i event idle =>
      refine sound_pristine fresh { pristine with callers := fun j => ?_ }
      rcases move_caller before i j (.entering event before.startCalled) with
        moved | kept
      · rw [moved, pristine.uncalled]
        exact .inr ⟨event, rfl⟩
      · rw [kept]
        exact pristine.callers j
  | grant i event late entering accepting =>
      rw [fresh] at accepting
      cases accepting
  | refuse i event late entering refusing =>
      obtain ⟨_, same⟩ := running entering (by simp)
      cases same
      refine sound_pristine fresh
        { pristine with callers := fun j => ?_, returned := fun call member => ?_ }
      · rcases move_caller before i j .idle with moved | kept
        · exact .inl moved
        · rw [show (before.move i .idle).caller j = before.caller j from kept]
          exact pristine.callers j
      · rcases List.mem_append.1 member with earlier | new
        · exact pristine.returned call earlier
        · rw [List.mem_singleton.1 new]
  | put i event late queue putting stored =>
      obtain ⟨_, same⟩ := running putting (by simp)
      cases same
  | full i event late putting full =>
      obtain ⟨_, same⟩ := running putting (by simp)
      cases same
  | overflow i late overflowing =>
      obtain ⟨_, same⟩ := running overflowing (by simp)
      cases same
  | stop i idle =>
      apply Ended.sound
      unfold Ended SerialEventQueue.markStopped
      rw [fresh]
      exact .inl rfl
  | putStop i stopping =>
      obtain ⟨_, same⟩ := running stopping (by simp)
      cases same
  | get item rest waiting queued => cases pristine.worker.symm.trans waiting
  | handle event handling => cases pristine.worker.symm.trans handling
  | raise event exc handling => cases pristine.worker.symm.trans handling
  | sentinel handling => cases pristine.worker.symm.trans handling
  | turn done => cases pristine.worker.symm.trans done

theorem Step.lossless (step : Step before after) (running : before.queue.state = .running)
    (lossless : before.Lossless) : after.Sound := by
  have moved {i : ι} {caller : QueueCaller ε} (other : caller ≠ .stopping) (j : ι) :
      (before.move i caller).caller j ≠ .stopping := by
    rcases move_caller before i j caller with moved | kept
    · rw [moved]
      exact other
    · rw [kept]
      exact lossless.callers j
  cases step with
  | start i created idle =>
      have same : before.start created = { before with startCalled := true } := by
        simp [EventSystem.start, SerialEventQueue.start, running]
      rw [same]
      exact sound_lossless running { lossless with }
  | tryEmit i event idle =>
      exact sound_lossless running { lossless with callers := moved (by simp) }
  | grant i event late entering accepting =>
      exact sound_lossless running { lossless with callers := moved (by simp) }
  | refuse i event late entering refusing => exact absurd running refusing
  | put i event late queue putting stored =>
      rw [putNowait_some stored]
      refine sound_lossless running ⟨?_, lossless.raised, moved (by simp), ?_⟩
      · have events := lossless.events
        simp only [move_worker, List.map_append, List.map_cons, List.map_nil]
        rw [← events, List.append_assoc, List.append_assoc, List.append_assoc]
        rfl
      · intro call member late
        rcases List.mem_append.1 member with earlier | new
        · exact lossless.returned call earlier late
        · rw [List.mem_singleton.1 new]
  | full i event late putting full =>
      exact sound_lossless running { lossless with callers := moved (by simp) }
  | overflow i late overflowing => exact Ended.sound (.inr rfl)
  | stop i idle =>
      apply Ended.sound
      unfold Ended SerialEventQueue.markStopped
      rw [running]
      exact .inl rfl
  | putStop i stopping => exact absurd stopping (lossless.callers i)
  | get item rest waiting queued =>
      refine sound_lossless running { lossless with events := ?_ }
      have events := lossless.events
      rw [waiting, queued] at events
      simpa [QueueWorker.current] using events
  | handle event handling =>
      refine sound_lossless running { lossless with events := ?_ }
      have events := lossless.events
      rw [handling] at events
      simpa [QueueWorker.current] using events
  | raise event exc handling => exact Ended.sound (.inr rfl)
  | sentinel handling =>
      -- The sentinel is not among the events put, so a running queue never hands it out.
      have events := lossless.events
      rw [handling] at events
      have member : QueueItem.stop ∈ before.puts.map QueueItem.event := by
        rw [← events]
        simp [QueueWorker.current]
      simp at member
  | turn done =>
      have waits : before.queue.drained = false := by simp [SerialEventQueue.drained, running]
      refine sound_lossless running { lossless with events := ?_ }
      have events := lossless.events
      rw [done] at events
      simpa [waits, QueueWorker.current] using events

theorem Step.sound (step : Step before after) (sound : before.Sound) : after.Sound := by
  unfold Sound at sound
  cases state : before.queue.state with
  | new =>
      rw [state] at sound
      exact step.pristine state sound
  | running =>
      rw [state] at sound
      exact step.lossless state sound
  | stopped => exact (step.ended (.inl state)).sound
  | failed => exact (step.ended (.inr state)).sound

theorem Reachable.sound (reachable : system.Reachable) : system.Sound := by
  obtain ⟨maxsize, positive, steps⟩ := reachable
  induction steps with
  | refl => exact sound_pristine rfl ⟨rfl, rfl, rfl, rfl, rfl, rfl, rfl, fun _ => .inl rfl, nofun⟩
  | tail _ step ih => exact step.sound ih

theorem ended_forever (steps : Relation.ReflTransGen Step before after) (ended : before.Ended) :
    after.Ended := by
  induction steps with
  | refl => exact ended
  | tail _ step ih => exact step.ended ih

theorem Step.healthy_or_ended (step : Step before after) (running : before.queue.state = .running) :
    after.queue.state = .running ∨ after.Ended := by
  cases step with
  | start i created idle =>
      left
      simp [EventSystem.start, SerialEventQueue.start, running]
  | put i event late queue putting stored =>
      rw [putNowait_some stored]
      exact .inl running
  | overflow => exact .inr (.inr rfl)
  | stop i idle =>
      right
      left
      simp [SerialEventQueue.markStopped, running]
  | putStop i stopping =>
      left
      unfold SerialEventQueue.putStop SerialEventQueue.putNowait
      split_ifs
      · exact running
      · exact running
  | raise => exact .inr (.inr rfl)
  | _ => exact .inl running

theorem healthy_or_ended (steps : Relation.ReflTransGen Step before after)
    (running : before.queue.state = .running) :
    after.queue.state = .running ∨ after.Ended := by
  induction steps with
  | refl => exact .inl running
  | tail _ step ih =>
      rcases ih with running | ended
      · exact step.healthy_or_ended running
      · exact .inr (step.ended ended)

/-- While the queue is healthy the handled events, the one being handled and the queued ones are
the events put, in put order; no handler has raised; every `try_emit` begun after `start` has
accepted its event. Health once lost is lost for ever. -/
theorem healthy_queue_lost_nothing (reachable : system.Reachable)
    (healthy : system.queue.healthy = true) :
    (system.handled.map QueueItem.event ++ system.worker.current ++ system.queue.queue =
        system.puts.map QueueItem.event ∧
      system.raised = [] ∧ ∀ call ∈ system.returned, call.1 = true → call.2 = true) ∧
    ∀ later last, Relation.ReflTransGen Step system later → later.queue.healthy = false →
      Relation.ReflTransGen Step later last → last.queue.healthy = false := by
  have running := healthy_iff.1 healthy
  constructor
  · have sound := reachable.sound
    unfold Sound at sound
    rw [running] at sound
    exact ⟨sound.events, sound.raised, sound.returned⟩
  · intro later last lost unhealthy steps
    have ended : later.Ended := by
      rcases healthy_or_ended lost running with still | ended
      · rw [healthy_iff.2 still] at unhealthy
        cases unhealthy
      · exact ended
    rcases ended_forever steps ended with stopped | failed
    · simp [SerialEventQueue.healthy, stopped]
    · simp [SerialEventQueue.healthy, failed]

/-- Two threads that are both admitted before either puts; the worker has handled the first event put and
has the second in hand when a third is put, and then the queue is stopped. -/
theorem healthy_queue_lost_nothing_race : ∃ system stopped : EventSystem Bool ℕ,
    system.puts = [2, 1, 3] ∧ system.handled = [2] ∧ system.worker.current = [.event 1] ∧
      system.queue.queue = [.event 3] ∧
      system.handled.map QueueItem.event ++ system.worker.current ++ system.queue.queue =
        system.puts.map QueueItem.event ∧
      (∀ call ∈ system.returned, call.1 = true → call.2 = true) ∧
      Relation.ReflTransGen Step system stopped ∧ (stopped.start (.ok ())).queue.healthy = false := by
  let first := initial Bool (ε := ℕ) 2 (by decide)
  have started : Relation.ReflTransGen Step first (first.start (.ok ())) :=
    .single (.start first true (.ok ()) rfl)
  have entered := (started.tail (.tryEmit _ true 1 rfl)).tail (.tryEmit _ false 2 rfl)
  have admitted := (entered.tail (.grant _ true 1 true rfl rfl)).tail (.grant _ false 2 true rfl rfl)
  have put := (admitted.tail (.put _ false 2 true _ rfl rfl)).tail (.put _ true 1 true _ rfl rfl)
  have handled := ((put.tail (.get _ (.event 2) _ rfl rfl)).tail (.handle _ 2 rfl)).tail (.turn _ rfl)
  have taken := handled.tail (.get _ (.event 1) _ rfl rfl)
  have third := ((taken.tail (.tryEmit _ false 3 rfl)).tail (.grant _ false 3 true rfl rfl)).tail
    (.put _ false 3 true _ rfl rfl)
  obtain ⟨⟨events, -, returned⟩, forever⟩ := healthy_queue_lost_nothing ⟨2, by decide, third⟩ rfl
  exact ⟨_, _, rfl, rfl, rfl, rfl, events, returned, .single (.stop _ true rfl),
    forever _ _ (.single (.stop _ true rfl)) rfl (.single (.start _ false (.ok ()) rfl))⟩

end

end EventSystem

end QmtExecution
