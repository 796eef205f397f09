import QmtExecution.Protocol.Methods

/-! Both session classes follow the protocol in every operation. -/

namespace QmtExecution

open Interaction Method

section Lifecycle

variable {config : SessionConfig} {object : SessionState} {trace : Trace} {payload : Payload}

theorem transitions_nextCycle {state state' : TradeState}
    (edge : transitions state .nextCycle = some state') : state' = .waitTrigger := by
  cases state <;> cases edge <;> rfl

theorem keeps_nextCycle (coherent : Coherent object trace) :
    Keeps config ExecutionSession.nextCycle object trace := by
  unfold ExecutionSession.nextCycle
  refine (meets_bind _ _).2 (runs_requireOpen coherent ?_)
  rintro ⟨payload, settled, known⟩
  simp only [meets_bind, meets_read, meets_ite, settled.snapshot, meets_raise]
  refine ⟨fun _ => coherent, fun _ => ?_⟩
  refine runs_transition settled (fun _ _ => coherent) (fun _ _ => trivial) ?_
  rintro snapshot object₁ trace₁ step settled₁ - rfl
  have waiting : snapshot.state = .waitTrigger := transitions_nextCycle (advance_ok step).1
  simp only [ExecutionJournal.clearCycleData, meets_bind]
  refine runs_journal_requireOpen settled₁ (runs_write ⟨_, settled₁.memory, waiting, rfl⟩ ?_ ?_)
  · exact keeps_snapshot ⟨_, settled₁.data _ _ _, .of_none rfl⟩
  · exact fun _ => Kept.coherent ⟨_, settled₁.data _ _ _, .of_none rfl⟩

structure Opening (object : SessionState) (trace : Trace) (payload : Payload) : Prop where
  settled : Settled object trace payload
  disk : (Ledger.ofTrace trace).disk = some payload
  closed : object.isOpen = false

theorem Coherent.of_closed (closed : object.isOpen = false) : Coherent object trace := by
  intro opened
  rw [closed] at opened
  cases opened

theorem runs_openJournal (closed : object.isOpen = false) :
    Runs config (ExecutionJournal.openJournal config.executionId) object trace
      (fun machine object after => ∃ payload,
        Opening { object with snapshot := machine.1 } after payload ∧
          (machine.2 = false → payload.machine = {}))
      (fun _ object _ => object.isOpen = false) := by
  unfold ExecutionJournal.openJournal
  simp only [meets_bind, meets_read, meets_ite, meets_raise]
  refine ⟨fun _ => closed, fun _ => runs_ask trivial (fun existed law => ?_) fun _ _ => closed⟩
  refine ⟨fun _ => ?_, fun missing => ?_⟩
  · refine (meets_attempt _).2 (runs_ask trivial (fun payload stored => ?_) fun exc _ => ?_)
    · simp only [meets_bind, meets_update, ExecutionJournal.machineSnapshot,
        ExecutionJournal.requireOpen, meets_read, meets_pure]
      refine runs_ofExcept (fun _ _ => runs_ofExcept (fun _ _ => ?_) fun _ _ => closed)
        fun _ _ => closed
      refine ⟨payload, ⟨⟨rfl, rfl, rfl⟩, stored, closed⟩, ?_⟩
      intro fresh
      cases fresh
    · simp only [meets_ite, meets_raise]
      exact ⟨fun _ => closed, fun _ => closed⟩
  · have absent : (Ledger.ofTrace trace).disk = none := by
      have law : existed = (Ledger.ofTrace trace).disk.isSome := law
      simpa [missing] using law.symm
    simp only [meets_pure]
    refine runs_write ⟨absent, rfl⟩ ?_ fun _ => closed
    exact ⟨.create config.executionId, ⟨⟨rfl, rfl, rfl⟩, rfl, closed⟩, fun _ => rfl⟩

theorem runs_bindOrMatch (opening : Opening object trace payload) :
    Runs config ExecutionSession.bindOrMatch object trace
      (fun _ object after => ∃ payload', Opening object after payload' ∧
        payload'.machine = payload.machine)
      (fun _ object _ => object.isOpen = false) := by
  have closed := opening.closed
  unfold ExecutionSession.bindOrMatch
  refine (meets_bind _ _).2 (runs_ask trivial (fun verification _ => ?_) fun _ _ => closed)
  have settled : Settled object (⟨.verifyStateMachine, .ok verification⟩ :: trace) payload :=
    opening.settled.quiet rfl _
  refine (meets_bind _ _).2 (runs_journal_requireOpen settled ?_)
  split
  · rename_i unbound
    unfold ExecutionJournal.bindVerification
    simp only [meets_ite, meets_raise, meets_bind]
    refine ⟨fun _ => closed, fun _ => ⟨fun _ => closed, fun _ => ?_⟩⟩
    refine runs_journal_requireOpen settled ?_
    simp only [ExecutionJournal.writeData, meets_bind]
    refine runs_journal_requireOpen settled (runs_write ?_ ?_ fun _ => closed)
    · exact ⟨payload, settled.memory, opening.disk, unbound, _, rfl⟩
    · exact ⟨_, ⟨settled.data _ _ _, rfl, closed⟩, rfl⟩
  · simp only [meets_ite, meets_raise, meets_pure]
    exact ⟨fun _ => closed, fun _ => ⟨payload, ⟨settled, opening.disk, closed⟩, rfl⟩⟩

theorem keeps_discard {α : Type} {method : SessionM α} (keeps : Keeps config method object trace) :
    Keeps config (discard method) object trace :=
  (meets_bind _ _).2 (Meets.weaken keeps (fun _ _ _ kept => kept) fun _ _ _ coherent => coherent)

theorem Known.of_state {state : TradeState} (same : payload.machine.state = state)
    (other : state ≠ .submitted) : Known trace payload :=
  fun submitted => absurd (same.symm.trans submitted) other

theorem transitions_restartRecovery {state state' : TradeState}
    (edge : transitions state .restartRecovery = some state') : state' = .unknown := by
  cases state <;> cases edge <;> rfl

theorem keeps_resume {existed : Bool} {evidence : SessionEvidence}
    (settled : Settled object trace payload) (closed : object.isOpen = false)
    (fresh : existed = false → payload.machine.state = .idle) :
    Keeps config (ExecutionSession.resume existed evidence) object trace := by
  simp only [ExecutionSession.resume, Keeps, Runs, meets_bind, meets_read, meets_ite, meets_pure,
    settled.snapshot]
  refine ⟨fun unused => ?_, fun used => ⟨fun resting => ?_, fun unrested => ⟨fun _ => ?_,
    fun settledOrder => ⟨fun unknown => ?_, fun known => ?_⟩⟩⟩⟩
  · have idle : payload.machine.state = .idle := by
      rcases unused with missing | idle
      · exact fresh (by simpa using missing)
      · exact idle
    exact keeps_transition settled (.of_state idle (by decide)) (by decide) fun _ _ => trivial
  · refine ⟨payload, settled, fun submitted => ?_⟩
    simp [submitted] at resting
  · refine runs_transition settled (fun _ _ => .of_closed closed) (fun _ _ => trivial) ?_
    rintro snapshot object' after step settled' - -
    have unknown : snapshot.state = .unknown := transitions_restartRecovery (advance_ok step).1
    exact keeps_discard (keeps_recoverUnknown settled' unknown)
  · exact keeps_discard (keeps_recoverUnknown settled unknown)
  · have interrupted : payload.machine.state ∈ [TradeState.trigger, .preCheck] := by
      revert used unrested settledOrder known
      cases payload.machine.state <;> simp
    refine keeps_transition settled (fun submitted => ?_) (by decide) fun _ _ => .inl interrupted
    simp [submitted] at interrupted

theorem Settled.congr {object' : SessionState} (settled : Settled object trace payload)
    (held : object'.payload = object.payload) (snapshot : object'.snapshot = object.snapshot) :
    Settled object' trace payload :=
  ⟨held.trans settled.held, snapshot.trans settled.snapshot, settled.memory⟩

theorem keeps_openBody (closed : object.isOpen = false) :
    Keeps config (ExecutionSession.openBody config.executionId) object trace := by
  unfold ExecutionSession.openBody
  refine (meets_bind _ _).2 (Meets.weaken (runs_openJournal closed) ?_ fun _ _ _ => .of_closed)
  rintro ⟨machine, existed⟩ object₁ trace₁ ⟨payload₁, opening₁, fresh⟩
  simp only [meets_bind, meets_update]
  refine Meets.weaken (runs_bindOrMatch opening₁) ?_ fun _ _ _ => .of_closed
  rintro - object₂ trace₂ ⟨payload₂, ⟨settled₂, -, closed₂⟩, same⟩
  refine runs_ask trivial (fun evidence _ => ?_) fun _ _ => .of_closed closed₂
  refine runs_ofExcept (fun _ _ => (meets_ite _ _ _).2 ⟨fun _ => .of_closed closed₂, fun _ => ?_⟩)
    fun _ _ => .of_closed closed₂
  refine (meets_bind _ _).2 (Meets.weaken (keeps_resume (settled₂.quiet rfl _) closed₂ ?_) ?_ ?_)
  · intro missing
    rw [same, fresh missing]
  · rintro - object₃ trace₃ ⟨payload₃, settled₃, known₃⟩
    simp only [meets_bind, meets_update]
    exact keeps_snapshot ⟨payload₃, settled₃.congr rfl rfl, known₃⟩
  · exact fun _ _ _ coherent => coherent

theorem Coherent.quiet (coherent : Coherent object trace) {command : Command}
    (quiet : command.isQuiet = true) (answer : Except Exc (Result command)) :
    Coherent object (⟨command, answer⟩ :: trace) :=
  fun opened => (coherent opened).quiet quiet answer

theorem Coherent.congr {object' : SessionState} (coherent : Coherent object trace)
    (held : object'.payload = object.payload) (snapshot : object'.snapshot = object.snapshot)
    (opened : object'.isOpen = true → object.isOpen = true) : Coherent object' trace := by
  intro isOpen
  obtain ⟨payload, settled, known⟩ := coherent (opened isOpen)
  exact ⟨payload, settled.congr held snapshot, known⟩

theorem runs_mutexRelease {ok : Unit → SessionState → Trace → Prop} (coherent : Coherent object trace)
    (next : ∀ object' after, Coherent object' after → ok () object' after) :
    Runs config ExecutionSession.mutexRelease object trace ok (fun _ => Coherent) := by
  simp only [ExecutionSession.mutexRelease, Runs, meets_bind, meets_read, meets_ite, meets_pure,
    meets_update]
  refine ⟨fun _ => next _ _ coherent, fun _ => runs_ask trivial (fun _ _ => next _ _ ?_)
    fun _ _ => ?_⟩
  all_goals
    refine Coherent.quiet ?_ rfl _
    exact coherent.congr rfl rfl id

theorem keeps_openSession (coherent : Coherent object trace) :
    Keeps config (ExecutionSession.openSession config.executionId) object trace := by
  simp only [ExecutionSession.openSession, Keeps, Runs, meets_bind, meets_read, meets_ite,
    meets_raise]
  refine ⟨fun _ => coherent, fun _ => ⟨fun opened => keeps_snapshot (coherent opened),
    fun unopened => ?_⟩⟩
  have closed : object.isOpen = false := by simpa using unopened
  simp only [ExecutionSession.mutexAcquire, meets_bind, meets_read, meets_ite, meets_raise,
    meets_update]
  refine ⟨fun _ => coherent, fun _ => runs_ask trivial (fun _ _ => ?_) fun _ _ =>
    coherent.quiet rfl _⟩
  refine (meets_attempt _).2 (Meets.weaken (keeps_openBody closed) ?_ ?_)
  · exact fun _ _ _ kept => kept
  · rintro exc object' after coherent'
    simp only [meets_bind, meets_raise]
    exact runs_mutexRelease coherent' fun _ _ coherent => coherent

theorem runs_close (coherent : Coherent object trace) :
    Runs config ExecutionSession.close object trace (fun _ => Coherent) (fun _ => Coherent) := by
  simp only [ExecutionSession.close, Runs, meets_bind, meets_read, meets_ite, meets_pure]
  refine ⟨fun _ => coherent, fun _ => runs_mutexRelease coherent fun _ _ _ => ?_⟩
  exact .of_closed rfl

end Lifecycle

section Ports

variable {config : SessionConfig} {object : SessionState} {trace : Trace} {payload : Payload}
  {request : ExecutionRequest}

theorem Staged.quiet (staged : Staged object trace request payload) {command : Command}
    (quiet : command.isQuiet = true) (answer : Except Exc (Result command)) :
    Staged object (⟨command, answer⟩ :: trace) request payload :=
  ⟨staged.settled.quiet quiet answer, staged.submitting.quiet quiet, staged.sound⟩

theorem runs_placeOrder {ok : Int → SessionState → Trace → Prop}
    {err : Exc → SessionState → Trace → Prop} (staged : Staged object trace request payload)
    (prepared : Prepared config trace request)
    (sidecar : (Ledger.ofTrace trace).sidecar = some request)
    (next : ∀ orderId after, Settled object after payload →
      (Ledger.ofTrace after).disk = some payload →
      (Ledger.ofTrace after).placed = some (request, .ok orderId) → ok orderId object after)
    (raised : ∀ exc after, Settled object after payload →
      (Ledger.ofTrace after).disk = some payload →
      (Ledger.ofTrace after).placed = some (request, .error exc) → err exc object after) :
    Runs config (ask (.placeOrder request)) object trace ok err := by
  have settled (answer : Except Exc Int) :
      Settled object (⟨.placeOrder request, answer⟩ :: trace) payload :=
    ⟨staged.settled.held, staged.settled.snapshot, staged.submitting.memory⟩
  refine runs_ask ⟨⟨payload, staged.submitting⟩, sidecar, prepared⟩ (fun orderId _ => ?_)
    fun exc _ => ?_
  · exact next orderId _ (settled _) staged.submitting.disk rfl
  · exact raised exc _ (settled _) staged.submitting.disk rfl

theorem session_ports_lawful (plain : config.coordinated = false) :
    ExecutionSession.ports.Lawful config where
  coordination := by
    intro request object trace payload staged
    refine runs_ask ⟨payload, staged.submitting⟩ (fun _ _ => ⟨staged.quiet rfl _, ?_⟩)
      fun _ _ => staged.quiet rfl _
    intro coordinated
    rw [plain] at coordinated
    cases coordinated
  sidecar := by
    intro request object trace payload staged prepared
    refine runs_ask ⟨payload, staged.submitting⟩ (fun _ _ => ⟨staged.quiet rfl _, ?_, rfl⟩)
      fun _ _ => staged.quiet rfl _
    exact prepared
  place := by
    intro request object trace payload staged prepared sidecar
    refine runs_placeOrder staged prepared sidecar ?_ ?_
    · exact fun orderId after settled disk placed => ⟨settled, disk, placed⟩
    · exact fun exc after settled _ placed => ⟨settled, exc, placed, id⟩

theorem runs_freshCash (staged : Staged object trace request payload) :
    Runs config (CoordinatedExecutionSession.freshCash config request) object trace
      (fun amounts object after => Staged object after request payload ∧
        (Ledger.ofTrace after).Estimated request amounts.1 amounts.2)
      (fun _ object after => Staged object after request payload) := by
  simp only [CoordinatedExecutionSession.freshCash, Runs, meets_ite, meets_raise, meets_bind,
    meets_attempt, CoordinatedExecutionSession.freshCash.estimated]
  refine ⟨fun _ => staged, fun _ => runs_ask trivial (fun asset _ => ?_) fun exc _ => ?_⟩
  · refine runs_ask trivial (fun estimate _ => ?_) fun exc _ => ?_
    · exact ⟨(staged.quiet rfl _).quiet rfl _, fun _ => ⟨asset, estimate, rfl, rfl, rfl, rfl⟩⟩
    · have staged' : Staged object (⟨.estimate request asset, .error exc⟩ ::
          ⟨.queryAsset, .ok asset⟩ :: trace) request payload :=
        (staged.quiet rfl _).quiet rfl _
      exact ⟨fun _ => staged', fun _ => staged'⟩
  · exact ⟨fun _ => staged.quiet rfl _, fun _ => staged.quiet rfl _⟩

theorem runs_prepare {available required : CashArgument}
    (staged : Staged object trace request payload)
    (estimated : (Ledger.ofTrace trace).Estimated request available required) :
    Runs config (ask (.prepare config.accountKey config.executionId request available required))
      object trace
      (fun _ object after => Staged object after request payload ∧ Prepared config after request)
      (fun _ object after => Staged object after request payload) :=
  runs_ask ⟨rfl, rfl, ⟨payload, staged.submitting⟩, estimated⟩
    (fun _ _ => ⟨staged.quiet rfl _, fun _ => ⟨available, required, rfl, estimated⟩⟩)
    fun _ _ => staged.quiet rfl _

theorem runs_attempt_prepare {α : Type} {available required : CashArgument}
    {next : Except Exc Unit → SessionM α} {ok : α → SessionState → Trace → Prop}
    {err : Exc → SessionState → Trace → Prop} (staged : Staged object trace request payload)
    (estimated : (Ledger.ofTrace trace).Estimated request available required)
    (prepared : ∀ object after, Staged object after request payload ∧ Prepared config after request →
      Runs config (next (.ok ())) object after ok err)
    (refused : ∀ exc object after, Staged object after request payload →
      Runs config (next (.error exc)) object after ok err) :
    Runs config (attempt (ask (.prepare config.accountKey config.executionId request available
      required)) >>= next) object trace ok err := by
  refine (meets_bind _ _).2 ((meets_attempt _).2 ?_)
  apply Meets.weaken (runs_prepare staged estimated)
  · intro _ object after post
    exact prepared object after post
  · intro exc object after kept
    exact refused exc object after kept

theorem runs_coordinateBeforeSubmit (staged : Staged object trace request payload) :
    Runs config (CoordinatedExecutionSession.coordinateBeforeSubmit config request) object trace
      (fun _ object after => Staged object after request payload ∧ Prepared config after request)
      (fun _ object after => Staged object after request payload) := by
  unfold CoordinatedExecutionSession.coordinateBeforeSubmit
  cases side : request.side with
  | buy =>
      refine (meets_bind _ _).2 (Meets.weaken (runs_freshCash staged) ?_ fun _ _ _ staged => staged)
      rintro ⟨available, required⟩ object after ⟨staged, estimated⟩
      apply runs_attempt_prepare staged estimated
      · intro object after prepared
        exact prepared
      · intro exc object after kept
        exact (meets_ite _ _ _).2 ⟨fun _ => kept, fun _ => kept⟩
  | sell =>
      refine (meets_bind _ _).2 ((meets_pure _).2 ?_)
      have unestimated : (Ledger.ofTrace trace).Estimated request .missing .missing := by
        intro buy
        rw [side] at buy
        cases buy
      apply runs_attempt_prepare staged unestimated
      · intro object after prepared
        exact prepared
      · intro exc object after kept
        exact (meets_ite _ _ _).2 ⟨fun _ => kept, fun _ => kept⟩

theorem runs_release {ok : Unit → SessionState → Trace → Prop}
    {err : Exc → SessionState → Trace → Prop} (settled : Settled object trace payload)
    (held : payload.data.intent = some (.ofRequest request))
    (releasable : (Ledger.ofTrace trace).Releasable request payload)
    (next : ok () object (⟨.updateFinality config.accountKey config.executionId request .resolved,
      .ok ()⟩ :: trace))
    (raised : ∀ exc, err exc object (⟨.updateFinality config.accountKey config.executionId request
      .resolved, .error exc⟩ :: trace)) :
    Runs config (ask (.updateFinality config.accountKey config.executionId request .resolved))
      object trace ok err :=
  runs_ask ⟨rfl, rfl, payload, ⟨settled.memory, held⟩, .inr ⟨rfl, releasable⟩⟩
    (fun _ _ => next) fun exc _ => raised exc

theorem coordinated_ports_lawful : (CoordinatedExecutionSession.ports config).Lawful config where
  coordination := fun _ _ _ _ staged => runs_coordinateBeforeSubmit staged
  sidecar := by
    intro request object trace payload staged prepared
    refine (meets_bind _ _).2 ((meets_attempt _).2
      (runs_ask ⟨payload, staged.submitting⟩ (fun _ _ => ?_) fun exc _ => ?_))
    · exact ⟨staged.quiet rfl _, prepared, rfl⟩
    · have staged' : Staged object (⟨.beforeBrokerSubmit request, .error exc⟩ :: trace) request
          payload := staged.quiet rfl _
      refine (meets_bind _ _).2 (runs_release staged'.settled staged'.submitting.intent
        (.inr ⟨staged'.submitting.state, staged'.submitting.disk, .inl staged'.submitting.armed⟩)
        ?_ fun _ => ?_)
      all_goals exact staged'.quiet rfl _
  place := by
    intro request object trace payload staged prepared sidecar
    refine (meets_bind _ _).2 ((meets_attempt _).2 (runs_placeOrder staged prepared sidecar ?_ ?_))
    · exact fun orderId after settled disk placed => ⟨settled, disk, placed⟩
    · intro exc after settled disk placed
      refine (meets_ite _ _ _).2 ⟨fun rejected => ?_, fun accepted => (meets_ite _ _ _).2
        ⟨fun _ => ?_, fun _ => ?_⟩⟩
      · refine (meets_bind _ _).2 (runs_release settled staged.submitting.intent
          (.inr ⟨staged.submitting.state, disk, .inr ⟨exc, placed, rejected⟩⟩) ?_ fun _ => ?_)
        · exact ⟨settled.quiet rfl _, exc, placed, id⟩
        · exact ⟨settled.quiet rfl _, exc, placed, fun _ => rejected⟩
      · exact ⟨settled, exc, placed, id⟩
      · exact ⟨settled, exc, placed, by simp [Exc.isA, ExcClass.base]⟩

end Ports

section Sync

variable {config : SessionConfig} {object : SessionState} {trace : Trace} {payload : Payload}
  {request : ExecutionRequest}

theorem runs_requiredCash (settled : Settled object trace payload) (known : Known trace payload) :
    Runs config (CoordinatedExecutionSession.requiredCashForRestore config request) object trace
      (fun _ object after => Settled object after payload ∧ Known after payload)
      (fun _ => Coherent) := by
  have kept : Kept object trace := ⟨payload, settled, known⟩
  unfold CoordinatedExecutionSession.requiredCashForRestore
  split
  · exact ⟨settled, known⟩
  · simp only [Runs, meets_ite, meets_raise, meets_bind, meets_attempt,
      CoordinatedExecutionSession.requiredCashForRestore.estimated]
    refine ⟨fun _ => kept.coherent, fun _ => runs_ask trivial (fun asset _ => ?_) fun _ _ => ?_⟩
    · refine runs_ask trivial (fun _ _ => ⟨?_, ?_⟩) fun _ _ => Kept.coherent ?_
      · exact (settled.quiet rfl _).quiet rfl _
      · exact (known.quiet rfl _).quiet rfl _
      · exact (kept.quiet rfl _).quiet rfl _
    · exact (kept.quiet rfl _).coherent

theorem keeps_updateFinality {finality : ExecutionFinality} (settled : Settled object trace payload)
    (known : Known trace payload) (held : payload.data.intent = some (.ofRequest request))
    (same : finality = executionFinality payload.machine) :
    Keeps config (ask (.updateFinality config.accountKey config.executionId request finality))
      object trace := by
  have kept : Kept object trace := ⟨payload, settled, known⟩
  refine runs_ask ⟨rfl, rfl, payload, ⟨settled.memory, held⟩, .inl same⟩ (fun _ _ => ?_) fun _ _ => ?_
  · exact kept.quiet rfl _
  · exact (kept.quiet rfl _).coherent

theorem keeps_syncRequest (settled : Settled object trace payload) (known : Known trace payload)
    (held : payload.data.intent = some (.ofRequest request)) :
    Keeps config (CoordinatedExecutionSession.syncRequest config request) object trace := by
  have settled' (owned : Except Exc Bool) : Settled object
      (⟨.hasClaim config.accountKey config.executionId request, owned⟩ :: trace) payload :=
    settled.quiet rfl _
  have known' (owned : Except Exc Bool) : Known
      (⟨.hasClaim config.accountKey config.executionId request, owned⟩ :: trace) payload :=
    known.quiet rfl _
  have finality : executionFinality object.snapshot = executionFinality payload.machine := by
    rw [settled.snapshot]
  unfold CoordinatedExecutionSession.syncRequest
  simp only [Keeps, Runs, meets_bind, meets_read, meets_ite, meets_attempt]
  refine ⟨fun _ => ?_, fun unresolved => ?_⟩
  · refine runs_ask ⟨rfl, rfl, payload, settled.memory, held⟩ (fun owned _ => ?_) fun exc _ => ?_
    · simp only [meets_pure]
      refine ⟨fun _ => ?_, fun _ => ⟨payload, settled' _, known' _⟩⟩
      exact keeps_updateFinality (settled' _) (known' _) held finality
    · simp only [meets_pure, meets_raise]
      exact ⟨fun _ => ⟨payload, settled' _, known' _⟩,
        fun _ => Kept.coherent ⟨payload, settled' _, known' _⟩⟩
  · refine runs_ask ⟨rfl, rfl, payload, settled.memory, held⟩ (fun owned _ => ⟨fun _ => ?_,
      fun _ => ?_⟩) fun exc _ => Kept.coherent ⟨payload, settled' _, known' _⟩
    · exact keeps_updateFinality (settled' _) (known' _) held finality
    · refine Meets.weaken (runs_requiredCash (settled' _) (known' _)) ?_ fun _ _ _ coherent => coherent
      rintro required object₁ trace₁ ⟨settled₁, known₁⟩
      refine runs_ask ⟨rfl, rfl, payload, ⟨settled₁.memory, held⟩, finality, unresolved⟩
        (fun _ _ => ?_) fun _ _ => Kept.coherent ?_
      all_goals exact ⟨payload, settled₁.quiet rfl _, known₁.quiet rfl _⟩

theorem keeps_sync {out : ExecutionSnapshot} (kept : Kept object trace) :
    Keeps config (CoordinatedExecutionSession.sync config out) object trace := by
  obtain ⟨payload, settled, known⟩ := kept
  unfold CoordinatedExecutionSession.sync CoordinatedExecutionSession.durableRequest
  simp only [Keeps, Runs, meets_bind, meets_read, settled.held]
  split
  · exact ⟨payload, settled, known⟩
  · rename_i intent held
    simp only [meets_bind]
    refine runs_ofExcept (fun request rebuilt => ?_) fun _ _ => Kept.coherent ⟨payload, settled, known⟩
    have durable : payload.data.intent = some (.ofRequest request) := by
      rw [CoordinatedExecutionSession.request_of_ok rebuilt]
      exact held
    simp only [meets_pure, meets_bind]
    exact keeps_syncRequest settled known durable

theorem keeps_then_sync {method : SessionM ExecutionSnapshot}
    (keeps : Keeps config method object trace) :
    Keeps config (do
      let out ← method
      CoordinatedExecutionSession.sync config out) object trace :=
  (meets_bind _ _).2 (Meets.weaken keeps (fun _ _ _ kept => keeps_sync kept)
    fun _ _ _ coherent => coherent)

theorem keeps_coordinated_poll (coherent : Coherent object trace) :
    Keeps config (CoordinatedExecutionSession.poll config) object trace :=
  keeps_then_sync (keeps_poll coherent)

theorem keeps_some {method : SessionM ExecutionSnapshot} (keeps : Keeps config method object trace) :
    Runs config (some <$> method) object trace (fun _ => Coherent) (fun _ => Coherent) :=
  (meets_bind _ _).2 (Meets.weaken keeps (fun _ _ _ kept => kept.coherent)
    fun _ _ _ coherent => coherent)

end Sync

/-- Every operation of either session class follows the protocol. -/
theorem session_follows (config : SessionConfig) :
    (sessionClass config).Follows (· = []) (Trace.permits config) Trace.answers Coherent where
  fresh := fun _ => .of_closed rfl
  run := by
    intro operation object trace guarded coherent
    have closes : Runs config (do ExecutionSession.close; pure none) object trace
        (fun (_ : Option ExecutionSnapshot) => Coherent) (fun _ => Coherent) :=
      (meets_bind _ _).2 (runs_close coherent)
    have cycles : Keeps config ExecutionSession.nextCycle object trace := keeps_nextCycle coherent
    cases shared : config.coordinated with
    | false =>
        have polls : ∀ object trace, Coherent object trace →
            Keeps config ExecutionSession.poll object trace := fun _ _ coherent => keeps_poll coherent
        have ports := session_ports_lawful shared
        cases operation <;> simp only [sessionClass, runOperation, shared]
        case openSession => exact keeps_some (keeps_openSession coherent)
        case close => exact closes
        case submit request => exact keeps_some (keeps_submit ports polls guarded coherent)
        case poll => exact keeps_some (polls _ _ coherent)
        case reconcile => exact keeps_some (keeps_reconcile polls coherent)
        case cancel => exact keeps_some (keeps_cancel polls coherent)
        case nextCycle => exact keeps_some cycles
    | true =>
        have polls : ∀ object trace, Coherent object trace →
            Keeps config (CoordinatedExecutionSession.poll config) object trace :=
          fun _ _ coherent => keeps_coordinated_poll coherent
        cases operation <;> simp only [sessionClass, runOperation, shared]
        case openSession => exact keeps_some (keeps_then_sync (keeps_openSession coherent))
        case close => exact closes
        case submit request => exact keeps_some (keeps_then_sync
          (keeps_submit coordinated_ports_lawful polls guarded coherent))
        case poll => exact keeps_some (polls _ _ coherent)
        case reconcile => exact keeps_some (keeps_then_sync (keeps_reconcile polls coherent))
        case cancel => exact keeps_some (keeps_then_sync (keeps_cancel polls coherent))
        case nextCycle => exact keeps_some cycles

end QmtExecution
