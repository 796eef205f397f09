import QmtExecution.Shared.World

/-! One live order for a symbol of an account: sessions that share the coordinator and the broker's
book, over any interleaving of their calls, any crashes and any failures of the coordinator. -/

namespace QmtExecution

open Interaction Resources

/-- An order in the broker's book, and the session that has placed it, if any. -/
structure Booked (ι : Type) where
  accountKey : String
  owner : Option ι
  orderId : Int
  symbol : String
  orderRemark : String
  terminal : Bool

/-- Sessions on one coordinator and one broker. -/
structure Market (ι : Type) where
  shared : Shared ι
  book : List (Booked ι)

namespace Booked

variable {ι : Type}

/-- The order takes no id and no remark that an order of the account has. -/
def Fresh (entry : Booked ι) (book : List (Booked ι)) : Prop :=
  ∀ other ∈ book, other.accountKey = entry.accountKey →
    other.orderId ≠ entry.orderId ∧ other.orderRemark ≠ entry.orderRemark

structure Placed (config : SessionConfig) (i : ι) (request : ExecutionRequest)
    (book : List (Booked ι)) (entry : Booked ι) : Prop where
  account : entry.accountKey = config.accountKey
  owner : entry.owner = some i
  symbol : entry.symbol = request.symbol
  remark : entry.orderRemark = request.orderRemark
  fresh : entry.Fresh book

structure Describes (entry : Booked ι) (order : BrokerOrder) : Prop where
  orderId : entry.orderId = order.orderId
  remark : order.orderRemark = "" ∨ order.orderRemark = entry.orderRemark
  terminal : order.status.isTerminal = true → entry.terminal = true

end Booked

namespace Market

variable {ι : Type} [DecidableEq ι]

/-- What the broker makes of a call: `BrokerSubmissionRejected` means that there is no order, any
other exception leaves open whether there is one, and what a query reports is in the book. A
journal write completes. -/
def Books (config : SessionConfig) (i : ι) (book : List (Booked ι)) :
    (command : Command) → Except Exc (Result command) → List (Booked ι) → Prop
  | .placeOrder request, .ok orderId, after => ∃ entry, Booked.Placed config i request book entry ∧
      (0 < orderId → entry.orderId = orderId) ∧ after = entry :: book
  | .placeOrder request, .error exc, after => after = book ∨
      exc.isA .brokerSubmissionRejected = false ∧
        ∃ entry, Booked.Placed config i request book entry ∧ after = entry :: book
  | .queryOrder orderId, .ok order, after => after = book ∧ ∃ entry ∈ book,
      entry.accountKey = config.accountKey ∧ entry.orderId = orderId ∧ entry.Describes order
  | .queryOrders, .ok orders, after => after = book ∧ ∀ order ∈ orders, ∃ entry ∈ book,
      entry.accountKey = config.accountKey ∧ entry.Describes order
  | .journalWrite _ _, answer, after => answer = .ok () ∧ after = book
  | _, _, after => after = book

def answers (configs : ι → SessionConfig) (i : ι) (world : Market ι) (command : Command)
    (answer : Except Exc (Result command)) (after : Market ι) : Prop :=
  Shared.answers i world.shared command answer after.shared ∧
    Books (configs i) i world.book command answer after.book

/-- Orders end, and others than the sessions place orders, under remarks and ids of their own. -/
def Moves (world after : Market ι) : Prop :=
  after.shared = world.shared ∧
    ((∃ ends : Booked ι → Bool, after.book = world.book.map fun entry =>
        { entry with terminal := entry.terminal || ends entry }) ∨
      ∃ entry : Booked ι, entry.owner = none ∧ entry.Fresh world.book ∧
        after.book = entry :: world.book)

def initial (world : Market ι) : Prop := Shared.initial world.shared ∧ world.book = []

abbrev Reachable (configs : ι → SessionConfig) :
    Config Command Result SessionState Exc Operation (Option ExecutionSnapshot) ι (Market ι) → Prop :=
  Family.Reachable (fun i => sessionClass (configs i)) (answers configs) Moves initial

theorem views (configs : ι → SessionConfig) :
    Family.Views (C := Command) (R := Result) (E := Exc) (answers configs) (@Moves ι)
      (fun i world => world.shared.logs i) (fun _ => Trace.answers) where
  own i world command answer after law := Shared.views.own i _ command answer _ law.1
  other i j world command answer after different law :=
    Shared.views.other i j _ command answer _ different law.1
  environment := by
    intro i world after moved
    rw [moved.1]

end Market

section Guarded

variable {config : SessionConfig} {trace : Trace} {payload : Payload}

theorem guarded_intended (guarded : Trace.Guarded config trace) (tolerated : trace.tolerated = true)
    {order : Outstanding} (outstanding : (Ledger.ofTrace trace).outstanding = some order)
    (held : (Ledger.ofTrace trace).memory = some payload ∨ (Ledger.ofTrace trace).disk = some payload) :
    payload.data.intent = some (.ofRequest order.request) := by
  induction guarded generalizing payload with
  | initial trace first =>
      subst first
      cases outstanding
  | call before after command answer guarded permitted law ih =>
      obtain ⟨law, rfl⟩ := law
      obtain ⟨-, tolerated⟩ := Bool.and_eq_true_iff.1 tolerated
      rcases Ledger.after_outstanding outstanding with earlier | ⟨request, reply, same, origin⟩
      · have retaining := guarded_retaining guarded tolerated (earlier ▸ Option.some_ne_none _)
        rcases Ledger.after_payload law held with held | held | ⟨writer, rfl⟩
        · exact ih tolerated earlier (.inl held)
        · exact ih tolerated earlier (.inr held)
        · by_cases created : writer = .create
          · subst created
            obtain ⟨disk, stored, -⟩ := retaining.disk
            cases permitted.1.symm.trans stored
          · obtain ⟨previous, memory, changes⟩ : ∃ previous,
                (Ledger.ofTrace before).memory = some previous ∧
                  (Ledger.ofTrace before).Changes previous writer payload := by
              cases writer <;> first | exact absurd rfl created | exact permitted
            have intended := ih tolerated earlier (.inl memory)
            obtain ⟨kept, known, unresolved⟩ := retaining.memory
            cases memory.symm.trans known
            refine (changes_keep changes ?_ ?_).1.trans intended
            · intro request same
              subst same
              cases intended.symm.trans changes.2.2.1
            · intro same
              subst same
              have sent := unresolved.2
              simp [changes.1, sentStates] at sent
      · cases same
        obtain ⟨⟨submitted, submitting⟩, -, -⟩ := permitted
        have same : payload = submitted := by
          rcases held with held | held
          · exact Option.some.inj (held.symm.trans submitting.memory)
          · exact Option.some.inj (held.symm.trans submitting.disk)
        rw [same, Outstanding.ofAnswer_request origin]
        exact submitting.intent

theorem guarded_placed (guarded : Trace.Guarded config trace) {request : ExecutionRequest}
    {answer : Except Exc Int} (placed : (Ledger.ofTrace trace).placed = some (request, answer))
    (memory : (Ledger.ofTrace trace).memory = some payload) :
    payload.data.intent = none ∨ payload.data.intent = some (.ofRequest request) := by
  induction guarded generalizing payload with
  | initial trace first =>
      subst first
      cases placed
  | call before after command reply guarded permitted law ih =>
      obtain ⟨law, rfl⟩ := law
      by_cases quiet : command.isQuiet = true
      · obtain ⟨memory', -, -, placed', -⟩ := Ledger.after_quiet (Ledger.ofTrace before) reply quiet
        exact ih (placed'.symm.trans placed) (memory'.symm.trans memory)
      cases command with
      | placeOrder other =>
          obtain ⟨⟨submitted, submitting⟩, -, -⟩ := permitted
          cases placed
          cases submitting.memory.symm.trans memory
          exact .inr submitting.intent
      | journalRead =>
          cases reply with
          | error exc => exact ih placed memory
          | ok read => cases placed
      | journalWrite writer written =>
          cases (Ledger.written_memory _ _ _ _).symm.trans memory
          by_cases started : ∃ other, writer = .persistIntent other
          · obtain ⟨other, rfl⟩ := started
            cases reply <;> cases placed
          have kept : (Ledger.ofTrace before).placed = some (request, answer) := by
            cases writer <;> first | exact absurd ⟨_, rfl⟩ started | (cases reply <;> exact placed)
          by_cases created : writer = .create
          · subst created
            left
            rw [permitted.2]
            rfl
          by_cases cleared : writer = .clearCycleData
          · subst cleared
            obtain ⟨previous, -, -, rfl⟩ := permitted
            exact .inl rfl
          obtain ⟨previous, memory, changes⟩ : ∃ previous,
              (Ledger.ofTrace before).memory = some previous ∧
                (Ledger.ofTrace before).Changes previous writer payload := by
            cases writer <;> first | exact absurd rfl created | exact permitted
          have same := (changes_keep changes (fun other same => started ⟨other, same⟩) cleared).1
          rw [same]
          exact ih kept memory
      | _ => exact absurd rfl quiet

end Guarded

section Book

variable {ι : Type} {book after : List (Booked ι)} {accountKey : String} {orderId : Int}
  {orderRemark : String}

def Apart (book : List (Booked ι)) : Prop :=
  ∀ entry ∈ book, ∀ other ∈ book, entry.accountKey = other.accountKey →
    entry.orderId = other.orderId ∨ entry.orderRemark = other.orderRemark → entry = other

def Listed (book : List (Booked ι)) (accountKey : String) (orderId : Int) (orderRemark : String) :
    Prop :=
  ∃ entry ∈ book, entry.accountKey = accountKey ∧ entry.orderId = orderId ∧
    entry.orderRemark = orderRemark

/-- Nothing leaves the book, and of the sessions' orders that are live none is new but those of the
session named. -/
structure Grows (placing : Option ι) (book after : List (Booked ι)) : Prop where
  listed : ∀ {accountKey orderId orderRemark}, Listed book accountKey orderId orderRemark →
    Listed after accountKey orderId orderRemark
  live : ∀ entry ∈ after, ∀ i, entry.owner = some i → placing ≠ some i → entry.terminal = false →
    entry ∈ book
  identified : Apart book → Apart after

theorem Grows.refl (placing : Option ι) (book : List (Booked ι)) : Grows placing book book where
  listed := id
  live := fun _ listed _ _ _ _ => listed
  identified := id

theorem Apart.cons (identified : Apart book) {entry : Booked ι} (fresh : entry.Fresh book) :
    Apart (entry :: book) := by
  intro first listed second listed' account shared
  rcases List.mem_cons.1 listed with same | known
  · rcases List.mem_cons.1 listed' with same' | known'
    · exact same.trans same'.symm
    · subst same
      obtain ⟨orderId, remark⟩ := fresh second known' account.symm
      rcases shared with same | same
      · exact absurd same.symm orderId
      · exact absurd same.symm remark
  · rcases List.mem_cons.1 listed' with same' | known'
    · subst same'
      obtain ⟨orderId, remark⟩ := fresh first known account
      rcases shared with same | same
      · exact absurd same orderId
      · exact absurd same remark
    · exact identified first known second known' account shared

theorem Grows.cons {entry : Booked ι} (fresh : entry.Fresh book) :
    Grows entry.owner book (entry :: book) where
  listed := by
    intro accountKey orderId orderRemark known
    obtain ⟨other, listed, same⟩ := known
    exact ⟨other, List.mem_cons_of_mem _ listed, same⟩
  live := by
    intro other listed i owner different live
    rcases List.mem_cons.1 listed with rfl | listed
    · exact absurd owner different
    · exact listed
  identified := fun identified => identified.cons fresh

theorem Grows.ends (ends : Booked ι → Bool) : Grows none book (book.map fun entry =>
    { entry with terminal := entry.terminal || ends entry }) where
  listed := by
    intro accountKey orderId orderRemark known
    obtain ⟨entry, listed, same⟩ := known
    exact ⟨_, List.mem_map.2 ⟨entry, listed, rfl⟩, same⟩
  live := by
    intro entry listed i owner different live
    obtain ⟨earlier, known, rfl⟩ := List.mem_map.1 listed
    obtain ⟨live, unended⟩ := Bool.or_eq_false_iff.1 live
    rw [unended, Bool.or_false]
    exact known
  identified := by
    intro identified entry listed other listed' account shared
    obtain ⟨first, known, rfl⟩ := List.mem_map.1 listed
    obtain ⟨second, known', rfl⟩ := List.mem_map.1 listed'
    rw [identified first known second known' account shared]

end Book

namespace Market

variable {ι : Type} {config : SessionConfig} {i : ι} {book after : List (Booked ι)} {trace : Trace}
  {command : Command} {answer : Except Exc (Result command)}

theorem Moves.grows {world next : Market ι} (moves : Moves world next) :
    Grows none world.book next.book := by
  obtain ⟨-, ⟨ends, same⟩ | ⟨entry, foreign, fresh, same⟩⟩ := moves
  · rw [same]
    exact .ends ends
  · rw [same]
    exact foreign ▸ .cons fresh

theorem Books.grows (books : Books config i book command answer after) :
    Grows (some i) book after ∧ (Event.isPlacement ⟨command, answer⟩ = false → after = book) := by
  have placed {request : ExecutionRequest} {entry : Booked ι}
      (made : Booked.Placed config i request book entry) : Grows (some i) book (entry :: book) :=
    made.owner ▸ .cons made.fresh
  cases command with
  | placeOrder request =>
      cases answer with
      | ok orderId =>
          obtain ⟨entry, made, -, rfl⟩ := books
          exact ⟨placed made, fun other => by cases other⟩
      | error exc =>
          rcases books with rfl | ⟨-, entry, made, rfl⟩
          · exact ⟨.refl _ _, fun _ => rfl⟩
          · exact ⟨placed made, fun other => by cases other⟩
  | queryOrder orderId =>
      cases answer with
      | ok order =>
          obtain ⟨rfl, -⟩ := books
          exact ⟨.refl _ _, fun _ => rfl⟩
      | error exc =>
          obtain rfl := books
          exact ⟨.refl _ _, fun _ => rfl⟩
  | queryOrders =>
      cases answer with
      | ok orders =>
          obtain ⟨rfl, -⟩ := books
          exact ⟨.refl _ _, fun _ => rfl⟩
      | error exc =>
          obtain rfl := books
          exact ⟨.refl _ _, fun _ => rfl⟩
  | journalWrite writer payload =>
      obtain ⟨-, rfl⟩ := books
      exact ⟨.refl _ _, fun _ => rfl⟩
  | _ =>
      obtain rfl := books
      exact ⟨.refl _ _, fun _ => rfl⟩

end Market

/-- What a session knows of its orders is in the book: the live ones are outstanding, and the ids it
has seen belong to orders of its account under the remark of its intent. -/
structure Faithful {ι : Type} (config : SessionConfig) (i : ι) (book : List (Booked ι))
    (trace : Trace) : Prop where
  intact : (Ledger.ofTrace trace).failed = false
  tolerated : trace.tolerated = true
  live : ∀ entry ∈ book, entry.owner = some i → entry.terminal = false →
    entry.accountKey = config.accountKey ∧ ∃ order, (Ledger.ofTrace trace).outstanding = some order ∧
      entry.orderRemark = order.request.orderRemark ∧ entry.symbol = order.request.symbol
  named : ∀ order orderId, (Ledger.ofTrace trace).outstanding = some order →
    order.orderId = some orderId → Listed book config.accountKey orderId order.request.orderRemark
  stored : ∀ payload orderId intent,
    (Ledger.ofTrace trace).memory = some payload ∨ (Ledger.ofTrace trace).disk = some payload →
    payload.data.brokerOrderId = some orderId → payload.data.intent = some intent →
      Listed book config.accountKey orderId intent.orderRemark
  asked : ∀ queried order intent, (Ledger.ofTrace trace).asked = some (queried, .ok order) →
    queried.data.intent = some intent →
      Listed book config.accountKey order.orderId intent.orderRemark
  placed : ∀ request orderId, (Ledger.ofTrace trace).placed = some (request, .ok orderId) →
    0 < orderId → Listed book config.accountKey orderId request.orderRemark

namespace Faithful

variable {ι : Type} {config : SessionConfig} {i : ι} {book after : List (Booked ι)} {trace : Trace}
  {command : Command} {answer : Except Exc (Result command)}

theorem initial (config : SessionConfig) (i : ι) : Faithful config i [] [] where
  intact := rfl
  tolerated := rfl
  live := by
    intro entry listed
    cases listed
  named := by
    intro order orderId outstanding
    cases outstanding
  stored := by
    intro payload orderId intent held
    rcases held with held | held <;> cases held
  asked := by
    intro queried order intent asked
    cases asked
  placed := by
    intro request orderId placed
    cases placed

theorem grows (faithful : Faithful config i book trace) {placing : Option ι}
    (grows : Grows placing book after) (other : placing ≠ some i) :
    Faithful config i after trace where
  intact := faithful.intact
  tolerated := faithful.tolerated
  live := by
    intro entry listed owner live
    exact faithful.live entry (grows.live entry listed i owner other live) owner live
  named order orderId outstanding same := grows.listed (faithful.named order orderId outstanding same)
  stored payload orderId intent kept known held :=
    grows.listed (faithful.stored payload orderId intent kept known held)
  asked queried order intent asked held :=
    grows.listed (faithful.asked queried order intent asked held)
  placed request orderId placed positive :=
    grows.listed (faithful.placed request orderId placed positive)

structure Finds (config : SessionConfig) (book : List (Booked ι)) (queried : Payload)
    (answer : Except Exc BrokerOrder) : Prop where
  entry : ∀ order intent, answer = .ok order → queried.data.intent = some intent →
    ∃ entry ∈ book, entry.accountKey = config.accountKey ∧ entry.orderId = order.orderId ∧
      entry.orderRemark = intent.orderRemark ∧
        (order.status.isTerminal = true → entry.terminal = true)

theorem finds_single (faithful : Faithful config i book trace) (identified : Apart book)
    {orderId : Int} {reply : Except Exc BrokerOrder} {queried : Payload}
    (memory : (Ledger.ofTrace trace).memory = some queried)
    (stored : queried.data.brokerOrderId = some orderId)
    (books : Market.Books config i book (.queryOrder orderId) reply after) :
    Finds config book queried reply := by
  constructor
  intro order intent returned held
  subst returned
  obtain ⟨-, entry, listed, account, same, describes⟩ := books
  obtain ⟨known, listed', account', same', remark⟩ :=
    faithful.stored queried orderId intent (.inl memory) stored held
  have one : entry = known := by
    apply identified entry listed known listed' (account.trans account'.symm)
    exact .inl (same.trans same'.symm)
  subst one
  exact ⟨entry, listed, account, describes.orderId, remark, describes.terminal⟩

theorem finds_listed {replies : Except Exc (List BrokerOrder)} {queried : Payload}
    (guarded : Trace.Guarded config trace)
    (memory : (Ledger.ofTrace trace).memory = some queried)
    (books : Market.Books config i book .queryOrders replies after) :
    Finds config book queried ((Ledger.ofTrace trace).matched replies) := by
  constructor
  intro order intent found held
  have remarked : intent.orderRemark ≠ "" := by
    obtain ⟨request, rfl⟩ := guarded_requested guarded (.inl memory) held
    exact request.orderRemark_ne
  cases replies with
  | error exc =>
      simp [Ledger.matched, memory, held, Except.bind] at found
  | ok orders =>
      have matched : findUniqueManagedOrder orders intent.symbol intent.side intent.qty
          intent.orderRemark = .ok order := by
        simpa [Ledger.matched, memory, held, Except.bind] using found
      obtain ⟨listed, remark, -⟩ := find_unique_ok matched
      obtain ⟨-, every⟩ := books
      obtain ⟨entry, booked, account, describes⟩ := every order listed
      refine ⟨entry, booked, account, describes.orderId, ?_, describes.terminal⟩
      rcases describes.remark with missing | same
      · exact absurd (remark.symm.trans missing) remarked
      · exact same.symm.trans remark

theorem observe_outstanding_eq {ledger : Ledger} {queried : Payload}
    (memory : ledger.memory = some queried) (reply : Except Exc BrokerOrder) :
    (ledger.observe reply).outstanding =
      ledger.outstanding.filter fun order => !order.reported queried.data reply := by
  unfold Ledger.observe
  rw [memory]

section Query

variable {queried : Payload} {reply : Except Exc BrokerOrder} (faithful : Faithful config i book trace)
  (guarded : Trace.Guarded config trace) (identified : Apart book)
  (memory : (Ledger.ofTrace trace).memory = some queried) (finds : Finds config book queried reply)

include faithful guarded identified memory finds

theorem reported_terminal {order : Outstanding}
    (outstanding : (Ledger.ofTrace trace).outstanding = some order)
    (reported : order.reported queried.data reply = true) {entry : Booked ι} (listed : entry ∈ book)
    (account : entry.accountKey = config.accountKey)
    (remark : entry.orderRemark = order.request.orderRemark) : entry.terminal = true := by
  have intended := guarded_intended guarded faithful.tolerated outstanding (.inl memory)
  cases reply with
  | error exc => cases reported
  | ok found =>
      unfold Outstanding.reported at reported
      simp only [Bool.and_eq_true] at reported
      obtain ⟨known, listed', account', -, remark', ends⟩ := finds.entry found _ rfl intended
      have one : entry = known := by
        apply identified entry listed known listed' (account.trans account'.symm)
        exact .inr (remark.trans remark'.symm)
      subst one
      exact ends reported.1

/-- What is final under the identity of the intent is the outstanding order. -/
theorem mistaken_reported {order : Outstanding}
    (outstanding : (Ledger.ofTrace trace).outstanding = some order)
    (mistaken : Ledger.mistaken queried reply = true) :
    order.reported queried.data reply = true := by
  have intended := guarded_intended guarded faithful.tolerated outstanding (.inl memory)
  cases reply with
  | error exc => cases mistaken
  | ok found =>
      unfold Ledger.mistaken at mistaken
      simp only [Bool.and_eq_true] at mistaken
      unfold Outstanding.reported
      simp only [Bool.and_eq_true]
      refine ⟨mistaken.1, mistaken.2, ?_⟩
      cases named : order.orderId with
      | none => rfl
      | some orderId =>
          obtain ⟨entry, listed, account, same, remark⟩ :=
            faithful.named order orderId outstanding named
          obtain ⟨known, listed', account', same', remark', -⟩ := finds.entry found _ rfl intended
          have one : entry = known := by
            apply identified entry listed known listed' (account.trans account'.symm)
            exact .inr (remark.trans remark'.symm)
          subst one
          simp [same.symm.trans same']

theorem tolerates (unsubmitted : queried.machine.state ≠ .submitted) :
    (Ledger.ofTrace trace).tolerates reply = true := by
  unfold Ledger.tolerates
  rw [memory]
  cases outstanding : (Ledger.ofTrace trace).outstanding with
  | none => rfl
  | some order =>
      cases mistaken : Ledger.mistaken queried reply with
      | false => simp [unsubmitted, mistaken]
      | true =>
          have reported := mistaken_reported faithful guarded identified memory finds outstanding mistaken
          simp [reported]

theorem observe {event : Event} (unsubmitted : queried.machine.state ≠ .submitted)
    (effect : Ledger.ofTrace (event :: trace) = (Ledger.ofTrace trace).observe reply)
    (admits : (Ledger.ofTrace trace).admits event.command event.answer =
      (Ledger.ofTrace trace).tolerates reply) :
    Faithful config i book (event :: trace) := by
  constructor
  · rw [effect, Ledger.observe_failed]
    exact faithful.intact
  · show ((Ledger.ofTrace trace).admits event.command event.answer && trace.tolerated) = true
    rw [admits, faithful.tolerated, faithful.tolerates guarded identified memory finds unsubmitted]
    rfl
  · intro entry listed owner live
    obtain ⟨account, order, outstanding, remark, symbol⟩ := faithful.live entry listed owner live
    refine ⟨account, order, ?_, remark, symbol⟩
    rw [effect, observe_outstanding_eq memory, outstanding, Option.filter_some]
    cases reported : order.reported queried.data reply with
    | false => rfl
    | true =>
        have ended := reported_terminal faithful guarded identified memory finds outstanding reported
          listed account remark
        cases live.symm.trans ended
  · intro order orderId outstanding
    rw [effect, observe_outstanding_eq memory] at outstanding
    exact faithful.named order orderId (Option.filter_eq_some_iff.1 outstanding).1
  · intro payload orderId intent known
    rw [effect, Ledger.observe_memory, Ledger.observe_disk] at known
    exact faithful.stored payload orderId intent known
  · intro other order intent asked held
    rw [effect, Ledger.observe_asked memory] at asked
    cases asked
    obtain ⟨entry, listed, account, same, remark, -⟩ := finds.entry order intent rfl held
    exact ⟨entry, listed, account, same, remark⟩
  · intro request orderId placed
    rw [effect, Ledger.observe_placed] at placed
    exact faithful.placed request orderId placed

end Query

theorem kept {event : Event} (faithful : Faithful config i book trace)
    (intact : (Ledger.ofTrace (event :: trace)).failed = (Ledger.ofTrace trace).failed)
    (admitted : (Ledger.ofTrace trace).admits event.command event.answer = true)
    (outstanding : (Ledger.ofTrace (event :: trace)).outstanding = (Ledger.ofTrace trace).outstanding)
    (stored : ∀ payload orderId intent, (Ledger.ofTrace (event :: trace)).memory = some payload ∨
      (Ledger.ofTrace (event :: trace)).disk = some payload →
      payload.data.brokerOrderId = some orderId → payload.data.intent = some intent →
        Listed book config.accountKey orderId intent.orderRemark)
    (asked : ∀ queried answer, (Ledger.ofTrace (event :: trace)).asked = some (queried, answer) →
      (Ledger.ofTrace trace).asked = some (queried, answer))
    (placed : ∀ request answer, (Ledger.ofTrace (event :: trace)).placed = some (request, answer) →
      (Ledger.ofTrace trace).placed = some (request, answer)) :
    Faithful config i book (event :: trace) where
  intact := intact.trans faithful.intact
  tolerated := Bool.and_eq_true_iff.2 ⟨admitted, faithful.tolerated⟩
  live := by
    rw [outstanding]
    exact faithful.live
  named := by
    rw [outstanding]
    exact faithful.named
  stored := stored
  asked queried order intent known := faithful.asked queried order intent (asked _ _ known)
  placed request orderId known := faithful.placed request orderId (placed _ _ known)

theorem write (faithful : Faithful config i book trace) (guarded : Trace.Guarded config trace)
    {writer : JournalWriter} {payload : Payload}
    (permitted : trace.permits config (.journalWrite writer payload)) :
    Faithful config i book (⟨.journalWrite writer payload, .ok ()⟩ :: trace) := by
  have memory : (Ledger.ofTrace (⟨.journalWrite writer payload, .ok ()⟩ :: trace)).memory =
      some payload := Ledger.written_memory _ _ _ _
  have disk : (Ledger.ofTrace (⟨.journalWrite writer payload, .ok ()⟩ :: trace)).disk =
      some payload := Ledger.written_disk _ _ _
  apply faithful.kept
  · cases writer <;> rfl
  · rfl
  · cases writer <;> rfl
  · intro other orderId intent held known intended
    have same : other = payload := by
      rcases held with held | held
      · exact Option.some.inj (held.symm.trans memory)
      · exact Option.some.inj (held.symm.trans disk)
    subst same
    by_cases created : writer = .create
    · subst created
      rw [permitted.2] at known
      cases known
    obtain ⟨before, memory', changes⟩ : ∃ before, (Ledger.ofTrace trace).memory = some before ∧
        (Ledger.ofTrace trace).Changes before writer other := by
      cases writer <;> first | exact absurd rfl created | exact permitted
    by_cases started : ∃ request, writer = .persistIntent request
    · obtain ⟨request, rfl⟩ := started
      obtain ⟨-, -, missing, -, rfl⟩ := changes
      have clean := (guarded.consistent (.inl memory')).clean missing
      have unknown : before.data.brokerOrderId = none := (congrArg JournalData.brokerOrderId clean :)
      cases unknown.symm.trans known
    by_cases cleared : writer = .clearCycleData
    · subst cleared
      obtain ⟨-, rfl⟩ := changes
      cases intended
    obtain ⟨sameIntent, sameId⟩ :=
      changes_keep changes (fun request same => started ⟨request, same⟩) cleared
    have intended' := sameIntent.symm.trans intended
    by_cases persisted : ∃ orderId, writer = .persistBrokerOrderId orderId
    · obtain ⟨persisted, rfl⟩ := persisted
      obtain ⟨positive, -, -, rfl, origin⟩ := changes
      have same : persisted = orderId := Option.some.inj known
      subst same
      rcases origin with ⟨-, -, request, placed⟩ | ⟨-, order, asked, same⟩
      · have listed := faithful.placed request persisted placed positive
        rcases guarded_placed guarded placed memory' with missing | carried
        · cases missing.symm.trans intended'
        · cases carried.symm.trans intended'
          exact listed
      · exact same ▸ faithful.asked before order intent asked intended'
    · have known' := (sameId fun orderId same => persisted ⟨orderId, same⟩).symm.trans known
      exact faithful.stored before orderId intent (.inl memory') known' intended'
  · intro queried answer asked
    cases writer with
    | persistIntent request => cases asked
    | _ => exact asked
  · intro request answer placed
    cases writer with
    | persistIntent request => cases placed
    | _ => exact placed

theorem place (faithful : Faithful config i book trace) (guarded : Trace.Guarded config trace)
    {request : ExecutionRequest} {answer : Except Exc Int}
    (permitted : trace.permits config (.placeOrder request))
    (books : Market.Books config i book (.placeOrder request) answer after) :
    Faithful config i after (⟨.placeOrder request, answer⟩ :: trace) := by
  obtain ⟨⟨payload, submitting⟩, -, -⟩ := permitted
  have vacant : (Ledger.ofTrace trace).outstanding = none := by
    by_contra outstanding
    have retaining := guarded_retaining guarded faithful.tolerated outstanding
    cases retaining.armed.symm.trans submitting.armed
  have dead : ∀ entry ∈ book, entry.owner = some i → entry.terminal = true := by
    intro entry listed owner
    cases live : entry.terminal with
    | true => rfl
    | false =>
        obtain ⟨-, order, outstanding, -⟩ := faithful.live entry listed owner live
        cases vacant.symm.trans outstanding
  have grows := (Market.Books.grows books).1
  have made : after = book ∧ (∃ exc, answer = .error exc) ∨ ∃ entry,
      Booked.Placed config i request book entry ∧ after = entry :: book ∧
        Outstanding.ofAnswer request answer ≠ none ∧
          ∀ orderId, answer = .ok orderId → 0 < orderId → entry.orderId = orderId := by
    cases answer with
    | ok orderId =>
        obtain ⟨entry, made, named, same⟩ := books
        refine .inr ⟨entry, made, same, Option.some_ne_none _, ?_⟩
        intro other known positive
        cases known
        exact named positive
    | error exc =>
        rcases books with same | ⟨unrejected, entry, made, same⟩
        · exact .inl ⟨same, exc, rfl⟩
        · refine .inr ⟨entry, made, same, ?_, fun orderId known => by cases known⟩
          simp [Outstanding.ofAnswer, unrejected]
  have recorded (orderId : Int) (returned : answer = .ok orderId) (positive : 0 < orderId) :
      Listed after config.accountKey orderId request.orderRemark := by
    rcases made with ⟨-, exc, raised⟩ | ⟨entry, made, same, -, named⟩
    · cases returned.symm.trans raised
    · rw [same]
      exact ⟨entry, List.mem_cons_self, made.account, named orderId returned positive, made.remark⟩
  constructor
  · exact faithful.intact
  · exact faithful.tolerated
  · intro entry listed owner live
    rcases made with ⟨same, -⟩ | ⟨fresh, made, same, sent, -⟩
    · rw [same] at listed
      cases live.symm.trans (dead entry listed owner)
    · rw [same] at listed
      rcases List.mem_cons.1 listed with here | listed
      · obtain ⟨order, outstanding⟩ := Option.ne_none_iff_exists'.1 sent
        refine ⟨here ▸ made.account, order, outstanding, ?_, ?_⟩
        · rw [Outstanding.ofAnswer_request outstanding, here]
          exact made.remark
        · rw [Outstanding.ofAnswer_request outstanding, here]
          exact made.symbol
      · cases live.symm.trans (dead entry listed owner)
  · intro order orderId outstanding known
    rw [Outstanding.ofAnswer_request outstanding]
    cases answer with
    | ok returned =>
        cases outstanding
        by_cases positive : 0 < returned
        · simp only [positive, if_true, Option.some.injEq] at known
          exact known ▸ recorded returned rfl positive
        · simp [positive] at known
    | error exc =>
        change (if exc.isA .brokerSubmissionRejected then none else some ⟨request, none⟩) =
          some order at outstanding
        split_ifs at outstanding
        cases outstanding
        cases known
  · intro other orderId intent held known intended
    exact grows.listed (faithful.stored other orderId intent held known intended)
  · intro queried order intent asked
    cases asked
  · intro other orderId placed positive
    cases placed
    exact recorded orderId rfl positive

theorem call (faithful : Faithful config i book trace) (guarded : Trace.Guarded config trace)
    (identified : Apart book) (permitted : trace.permits config command)
    (law : trace.FileLaw command answer) (books : Market.Books config i book command answer after) :
    Faithful config i after (⟨command, answer⟩ :: trace) := by
  have unchanged := (Market.Books.grows books).2
  cases command with
  | placeOrder request => exact faithful.place guarded permitted books
  | queryOrder orderId =>
      obtain rfl := unchanged rfl
      obtain ⟨-, queried, memory, stored, unsent⟩ := permitted
      have finds := faithful.finds_single identified memory stored books
      apply faithful.observe guarded identified memory finds
      · intro submitted
        cases (unsent submitted).symm.trans faithful.intact
      · rfl
      · rfl
  | queryOrders =>
      obtain rfl := unchanged rfl
      obtain ⟨queried, memory, unknown⟩ := permitted
      have finds := finds_listed guarded memory books
      apply faithful.observe guarded identified memory finds
      · intro submitted
        cases unknown.symm.trans submitted
      · rfl
      · rfl
  | journalWrite writer payload =>
      obtain ⟨rfl, rfl⟩ := books
      exact faithful.write guarded permitted
  | journalRead =>
      obtain rfl := unchanged rfl
      cases answer with
      | error exc => exact faithful.kept rfl rfl rfl faithful.stored (fun _ _ => id) fun _ _ => id
      | ok read =>
          apply faithful.kept rfl rfl rfl
          · intro payload orderId intent held
            have disk : (Ledger.ofTrace trace).disk = some payload := by
              rcases held with held | held
              · cases held
                exact law
              · exact held
            exact faithful.stored payload orderId intent (.inr disk)
          · intro queried reply asked
            cases asked
          · intro request reply placed
            cases placed
  | cancelOrder orderId =>
      obtain rfl := unchanged rfl
      apply faithful.kept rfl rfl rfl
      · exact faithful.stored
      · intro queried reply asked
        cases asked
      · exact fun _ _ => id
  | updateFinality accountKey executionId request finality =>
      obtain rfl := unchanged rfl
      cases finality <;>
        exact faithful.kept rfl rfl rfl faithful.stored (fun _ _ => id) fun _ _ => id
  | _ =>
      obtain rfl := unchanged rfl
      cases answer <;>
        exact faithful.kept rfl rfl rfl faithful.stored (fun _ _ => id) fun _ _ => id

end Faithful

namespace Market

variable {ι : Type} [DecidableEq ι] {configs : ι → SessionConfig}
  {config : Config Command Result SessionState Exc Operation (Option ExecutionSnapshot) ι (Market ι)}

/-- In every run the orders of an account are told apart by id and by remark, and every session is
faithful to the book. -/
theorem Reachable.faithful (reachable : Reachable configs config) :
    Apart config.world.book ∧
      ∀ i, Faithful (configs i) i config.world.book (config.world.shared.logs i) := by
  have beginning (world : Market ι) (first : initial world) : Apart world.book ∧
      ∀ i, Faithful (configs i) i world.book (world.shared.logs i) := by
    obtain ⟨⟨-, unlogged⟩, empty⟩ := first
    rw [empty]
    refine ⟨?_, ?_⟩
    · intro entry listed
      cases listed
    · intro i
      rw [unlogged i]
      exact .initial (configs i) i
  refine Family.Reachable.always (views configs) (fun i => session_follows (configs i))
    (fun world first => first.1.2) beginning ?_ ?_ reachable
  · intro i world command answer after guarded fact permitted law
    obtain ⟨identified, faithful⟩ := fact
    obtain ⟨⟨file, -, logs⟩, books⟩ := law
    have grows := (Books.grows books).1
    refine ⟨grows.identified identified, ?_⟩
    intro j
    rw [logs]
    by_cases own : j = i
    · subst own
      rw [Function.update_self]
      exact (faithful j).call (guarded j) identified permitted file books
    · rw [Function.update_of_ne own]
      apply (faithful j).grows grows
      intro same
      exact own (Option.some.inj same).symm
  · intro world after fact moves
    obtain ⟨identified, faithful⟩ := fact
    refine ⟨moves.grows.identified identified, ?_⟩
    intro i
    rw [moves.1]
    exact (faithful i).grows moves.grows (Option.some_ne_none i).symm

theorem Reachable.shared (reachable : Reachable configs config) :
    Shared.Reachable configs ⟨config.phase, config.world.shared⟩ := by
  apply Family.Reachable.image Market.shared _ _ _ reachable
  · intro world first
    exact first.1
  · intro i world command answer after law
    exact law.1
  · intro world after moves
    exact moves.1

/-- In every run of sessions on one coordinator and one broker, with crashes and with failures of
the coordinator between any two calls, two orders of one symbol of an account that the sessions
have placed and that are live are one order of one session. -/
theorem live_orders_exclusive (coordinated : ∀ i, (configs i).coordinated = true)
    (distinct : Shared.Distinct configs) (reachable : Reachable configs config)
    {first second : Booked ι} (listed : first ∈ config.world.book)
    (listed' : second ∈ config.world.book) {i j : ι} (owner : first.owner = some i)
    (owner' : second.owner = some j) (live : first.terminal = false) (live' : second.terminal = false)
    (account : first.accountKey = second.accountKey) (symbol : first.symbol = second.symbol) :
    i = j ∧ first = second := by
  obtain ⟨identified, faithful⟩ := reachable.faithful
  have tenancy := reachable.shared.tenancy coordinated distinct
  obtain ⟨own, order, outstanding, remark, same⟩ := (faithful i).live first listed owner live
  obtain ⟨own', order', outstanding', remark', same'⟩ :=
    (faithful j).live second listed' owner' live'
  have claim := tenancy.outstanding i order (faithful i).tolerated outstanding
  have claim' := tenancy.outstanding j order' (faithful j).tolerated outstanding'
  have slot : ((configs i).accountKey, order.request.symbol) =
      ((configs j).accountKey, order'.request.symbol) := by
    rw [← own, ← own', ← same, ← same', account, symbol]
  have entry := tenancy.slots.eq claim claim' slot
  have one : i = j := distinct.holder (congrArg Prod.fst entry)
  subst one
  cases outstanding.symm.trans outstanding'
  refine ⟨rfl, identified first listed second listed' account ?_⟩
  exact .inr (remark.trans remark'.symm)

instance (entry : Booked ι) (book : List (Booked ι)) : Decidable (entry.Fresh book) :=
  inferInstanceAs (Decidable (∀ other ∈ book, _ → _))

def accepted (config : SessionConfig) (i : ι) (book : List (Booked ι)) (request : ExecutionRequest) :
    Booked ι :=
  ⟨config.accountKey, some i, book.length + 1, request.symbol, request.orderRemark, false⟩

def unseen (config : SessionConfig) (i : ι) (book : List (Booked ι)) (replies : Replies)
    (command : Command) : Replies :=
  { replies with
    write := fun _ => .ok ()
    order := .error ⟨.brokerQueryAmbiguous, "not visible"⟩
    orders := .error ⟨.brokerQueryAmbiguous, "not visible"⟩
    place := match command with
      | .placeOrder request =>
          if (accepted config i book request).Fresh book then .ok (book.length + 1)
          else .error ⟨.brokerSubmissionRejected, "remark in use"⟩
      | _ => replies.place }

def enter (config : SessionConfig) (i : ι) (book : List (Booked ι)) : Command → List (Booked ι)
  | .placeOrder request =>
      if (accepted config i book request).Fresh book then accepted config i book request :: book
      else book
  | _ => book

def respond (configs : ι → SessionConfig) (i : ι) (replies : Replies) :
    Responder Command Result Exc (Market ι) := fun world command =>
  let reply := Shared.respond i (unseen (configs i) i world.book replies command) world.shared command
  (reply.1, ⟨reply.2, enter (configs i) i world.book command⟩)

theorem responds (configs : ι → SessionConfig) (i : ι) :
    Responds (respond configs i) (answers configs i) := by
  intro replies world command
  refine ⟨Shared.responds i _ world.shared command, ?_⟩
  cases command with
  | placeOrder request =>
      show Books (configs i) i world.book (.placeOrder request) (if _ then _ else _) (if _ then _ else _)
      split_ifs with fresh
      · exact ⟨accepted (configs i) i world.book request, ⟨rfl, rfl, rfl, rfl, fresh⟩, fun _ => rfl, rfl⟩
      · exact .inl rfl
  | journalWrite writer payload => exact ⟨rfl, rfl⟩
  | _ => rfl

def rivals (second : Bool) : SessionConfig := ⟨if second then "e2" else "e1", "a1", true, true⟩

def rivalDeeds : List (Bool × SessionDeed) :=
  ((([.start] : List SessionDeed) ++ call .openSession ++ call (.submit sampleRequest)).map
      fun deed => (false, deed)) ++
    (([.start] : List SessionDeed) ++ call .openSession ++ call (.submit laterRequest)).map
      fun deed => (true, deed)

def rivalRun : Config Command Result SessionState Exc Operation (Option ExecutionSnapshot) Bool
    (Market Bool) :=
  Family.script (fun i => sessionClass (rivals i)) (respond rivals) ⟨⟨{}, fun _ => []⟩, []⟩ rivalDeeds

theorem live_orders_exclusive_rivals : ∃ first ∈ rivalRun.world.book, first.terminal = false ∧
    ∀ second ∈ rivalRun.world.book, second.owner = some true → second.terminal = false →
      first.accountKey = second.accountKey → first.symbol ≠ second.symbol := by
  have placed : rivalRun.world.book.any (fun first => first.owner = some false && !first.terminal) =
      true := by decide +kernel
  obtain ⟨first, listed, facts⟩ := List.any_eq_true.1 placed
  simp only [Bool.and_eq_true, decide_eq_true_eq, Bool.not_eq_true'] at facts
  refine ⟨first, listed, facts.2, ?_⟩
  intro second listed' owner' live' account symbol
  have reachable : Reachable rivals rivalRun :=
    Family.script_reachable ⟨⟨rfl, fun _ => rfl⟩, rfl⟩ (responds rivals) rivalDeeds
  have distinct : Shared.Distinct rivals := by
    intro i j same
    revert same
    cases i <;> cases j <;> decide
  have one := live_orders_exclusive (fun _ => rfl) distinct reachable listed listed' facts.1 owner'
    facts.2 live' account symbol
  cases one.1

end Market

end QmtExecution
