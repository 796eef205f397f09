import QmtExecution.Domain

/-! `SerialEventQueue`, `event_queue.py`: each lock-protected block and each access to the
`queue.Queue` of a method is a definition of its own. -/

namespace QmtExecution

inductive EventQueueState
  | new
  | running
  | stopped
  | failed
  deriving DecidableEq, Repr

/-- An item of the queue; `stop` is the sentinel `_STOP`. -/
inductive QueueItem (ε : Type)
  | event (event : ε)
  | stop
  deriving DecidableEq

/-- The worker thread as `_thread` holds it. -/
inductive QueueThread
  | absent
  | created
  | started
  deriving DecidableEq, Repr

structure SerialEventQueue (ε : Type) where
  maxsize : ℕ
  queue : List (QueueItem ε) := []
  state : EventQueueState := .new
  failure : Option Exc := none
  thread : QueueThread := .absent
  maxsize_pos : 0 < maxsize

namespace SerialEventQueue

variable {ε : Type}

def healthy (self : SerialEventQueue ε) : Bool := self.state = .running

/-- `start`, where `created` is what `Thread.start` does. -/
def start (self : SerialEventQueue ε) (created : Except Exc Unit) :
    Except Exc Unit × SerialEventQueue ε :=
  match self.state with
  | .running => (.ok (), self)
  | .new => match created with
    | .ok () => (.ok (), { self with state := .running, thread := .started })
    | .error exc => (.error exc, { self with state := .running, thread := .created })
  | .stopped => (.error ⟨.eventQueueUnhealthy, "event queue cannot start from stopped"⟩, self)
  | .failed => (.error ⟨.eventQueueUnhealthy, "event queue cannot start from failed"⟩, self)

/-- `put_nowait`; `none` is `queue.Full`. -/
def putNowait (self : SerialEventQueue ε) (item : QueueItem ε) : Option (SerialEventQueue ε) :=
  if self.queue.length < self.maxsize then some { self with queue := self.queue ++ [item] }
  else none

def fail (self : SerialEventQueue ε) (exc : Exc) : SerialEventQueue ε :=
  { self with state := .failed, failure := some exc }

def overflow : Exc := ⟨.eventQueueUnhealthy, "event queue overflow"⟩

/-- The locked block of `stop`, and whether `stop` goes on to put the sentinel. -/
def markStopped (self : SerialEventQueue ε) : Bool × SerialEventQueue ε :=
  match self.state with
  | .new => (false, { self with state := .stopped })
  | .stopped | .failed => (false, self)
  | .running => (true, { self with state := .stopped })

/-- A full queue gets no sentinel. -/
def putStop (self : SerialEventQueue ε) : SerialEventQueue ε :=
  (self.putNowait .stop).getD self

/-- `stop` as a whole. -/
def stop (self : SerialEventQueue ε) : SerialEventQueue ε :=
  if self.markStopped.1 then self.markStopped.2.putStop else self.markStopped.2

/-- `join`; `onWorker` says that the caller is the worker thread itself. -/
def join (self : SerialEventQueue ε) (onWorker : Bool) : Except Exc Unit :=
  match self.thread with
  | .absent => .ok ()
  | .created => .error ⟨.runtimeError, "cannot join thread before it is started"⟩
  | .started =>
      if onWorker then .error ⟨.runtimeError, "cannot join current thread"⟩ else .ok ()

/-- The locked block at the end of a turn of `_run`. -/
def drained (self : SerialEventQueue ε) : Bool := self.state = .stopped && self.queue.isEmpty

/-- What emitters and the worker may make of the queue between two calls of its owner. -/
def Drifts (before after : SerialEventQueue ε) : Prop :=
  after.thread = before.thread ∧
    (after.state = before.state ∨ before.state ≠ .new ∧ after.state = .failed)

theorem stop_state (self : SerialEventQueue ε) : self.stop.state ≠ .running := by
  unfold stop markStopped putStop putNowait
  cases state : self.state <;> simp [state]
  split_ifs <;> simp

theorem stop_thread (self : SerialEventQueue ε) : self.stop.thread = self.thread := by
  unfold stop markStopped putStop putNowait
  cases state : self.state <;> simp
  split_ifs <;> rfl

end SerialEventQueue

end QmtExecution
