import QmtExecution.Authority.Bootstrap

/-! One coordination domain per account: whatever the processes of an account do, all of them
resolve the same record, and a coordinator that expects its identity has found it. -/

namespace QmtExecution

open Interaction

variable {ι : Type}

/-- What a process does for the account: it resolves the authority, constructs a coordinator with
the identity that a resolved authority gives, and works with a constructed coordinator. -/
inductive AuthorityOperation
  | resolve (args : ResolveArgs)
  | construct (path : String) (expected : CoordinationDbIdentity)
  | operate (path : String) (operation : CoordinatorOperation)

inductive AuthorityOutcome
  | authority (authority : AccountAuthority)
  | constructed
  | answered (answer : Option Bool)

namespace AuthorityOperation

open AccountRuntimeAuthority

def run (host : AuthorityHost ι) (process : ι) : AuthorityOperation → AuthorityM AuthorityOutcome
  | .resolve args => do
      let authority ← AccountRuntimeAuthority.resolve host process args
      pure (.authority authority)
  | .construct path expected => do
      AccountRuntimeAuthority.construct host path expected
      pure .constructed
  | .operate path operation => do
      AccountRuntimeAuthority.ask (.connect (host.resolvePath path))
      let answer ← AccountRuntimeAuthority.ask (.operate (host.resolvePath path) operation)
      pure (.answered answer)

abbrev Results : Type := List (AuthorityOperation × Except Exc AuthorityOutcome × Unit)

def Enabled (accountKey : String) (results : Results) : AuthorityOperation → Prop
  | .resolve args => args.accountKey = accountKey
  | .construct _ expected => ∃ args authority,
      (.resolve args, .ok (.authority authority), ()) ∈ results ∧ authority.identity = .ok expected
  | .operate path _ => ∃ expected, (.construct path expected, .ok .constructed, ()) ∈ results

def Promises (host : AuthorityHost ι) (accountKey : String) (operation : AuthorityOperation)
    (result : Except Exc AuthorityOutcome × Unit) (world : AuthorityWorld ι) : Prop :=
  match operation, result.1 with
  | .resolve _, .ok (.authority authority) => Resolved host accountKey authority world
  | .construct path expected, .ok .constructed =>
      world.Certified host accountKey ∧ Constructed host path expected world
  | _, _ => True

end AuthorityOperation

variable [DecidableEq ι] (host : AuthorityHost ι) (accountKey : String)

def authorityTeam : Team AuthorityCommand (fun command => Except Exc (AuthorityResult command)) ι
    AuthorityOperation (Except Exc AuthorityOutcome × Unit) (AuthorityWorld ι) where
  run process operation := operation.run host process ()
  enabled := AuthorityOperation.Enabled accountKey
  answers := AuthorityWorld.Answers host
  crashed process world after := after = world.release process

namespace AuthorityOperation

open AccountRuntimeAuthority AuthorityWorld

variable {host accountKey} {process : ι}

theorem secure (operation : AuthorityOperation) {results : Results} {world : AuthorityWorld ι}
    (enabled : Enabled accountKey results operation)
    (kept : ∀ result ∈ results, Promises host accountKey result.1 result.2 world) :
    (operation.run host process ()).Secure (Relies host accountKey process)
      (Permits host accountKey BootstrapScope.all process) (Answers host process)
      (Promises host accountKey operation) world := by
  cases operation with
  | resolve args =>
      have assures : Assured host accountKey BootstrapScope.all process (fun _ => True)
          (run host process (.resolve args)) fun outcome =>
            Promises host accountKey (.resolve args) (.ok outcome, ()) := by
        apply Method.assures_bind (resolve_assures enabled trivial fun _ _ _ _ => trivial)
        intro authority
        exact Method.assures_pure fun _ resolved => resolved
      exact assures.secure trivial (fun _ _ _ held => held) fun _ _ _ => trivial
  | construct path expected =>
      obtain ⟨args, authority, listed, _⟩ := enabled
      obtain ⟨document, written, _⟩ := kept _ listed
      have assures : Assured host accountKey BootstrapScope.all process (Certified host accountKey)
          (run host process (.construct path expected)) fun outcome =>
            Promises host accountKey (.construct path expected) (.ok outcome, ()) := by
        apply Method.assures_bind construct_certified
        intro _
        exact Method.assures_pure fun _ constructed => constructed
      exact assures.secure ⟨document, written⟩ (fun _ _ _ held => held) fun _ _ _ => trivial
  | operate path operation =>
      obtain ⟨expected, listed⟩ := enabled
      have connect : Assured host accountKey BootstrapScope.all process (Certified host accountKey)
          (AccountRuntimeAuthority.ask (.connect (host.resolvePath path)))
          fun _ => Certified host accountKey := by
        apply ask_assures stable_certified
        · exact fun _ held => .inl held
        · exact fun _ => stable_certified
        · intro world value after held law
          rw [law.2]
          exact (touch_evolves _).certifies held
      have assures : Assured host accountKey BootstrapScope.all process (Certified host accountKey)
          (run host process (.operate path operation)) fun _ _ => True := by
        apply Method.assures_bind connect
        intro _
        have answer : Assured host accountKey BootstrapScope.all process (Certified host accountKey)
            (AccountRuntimeAuthority.ask (.operate (host.resolvePath path) operation)) fun _ _ => True :=
          ask_assures stable_certified (fun _ held => held) (fun _ => stable_true)
            fun _ _ _ _ _ => trivial
        apply Method.assures_bind answer
        intro _
        exact Method.assures_pure fun _ _ => trivial
      exact assures.secure (kept _ listed).1 (fun _ _ _ _ => trivial) fun _ _ _ => trivial

omit [DecidableEq ι] in
theorem promises_evolve {operation : AuthorityOperation} {result : Except Exc AuthorityOutcome × Unit}
    {world after : AuthorityWorld ι} (evolves : Evolves host accountKey world after)
    (promised : Promises host accountKey operation result world) :
    Promises host accountKey operation result after := by
  unfold Promises at promised ⊢
  split at promised
  · obtain ⟨document, written, read⟩ := promised
    exact ⟨document, evolves.document document written, read⟩
  · exact ⟨evolves.certifies promised.1, evolves.openings _ promised.2⟩
  · trivial

end AuthorityOperation

open AuthorityWorld in
theorem authorityTeam_disciplined : Team.Disciplined (authorityTeam host accountKey)
    (Relies host accountKey) (Evolves host accountKey) (Permits host accountKey BootstrapScope.all)
    (AuthorityOperation.Promises host accountKey) where
  chained := relies_chained
  evolution := evolves_chained
  own _ _ _ _ _ permitted law := answers_evolves permitted law
  other _ _ _ _ _ _ different permitted law := answers_relies different permitted law
  crash process world after law := by
    rw [law]
    exact release_evolves process
  crashOther process other world after different law := by
    rw [law]
    exact release_relies different
  relies _ _ _ relied := relied.evolves
  lasting _ _ _ _ evolved promised := AuthorityOperation.promises_evolve evolved promised
  secure _ operation _ _ enabled kept := operation.secure enabled kept

/-- In every run of the processes of an account, whatever they find in the authority root at the
start: all records resolved are one; the authority document, once written, stays; and a
coordinator constructed with the identity of the record has found exactly that identity row in the
file that it opened. -/
theorem one_coordination_domain (first : AuthorityWorld ι)
    {config : Team.Config AuthorityCommand (fun command => Except Exc (AuthorityResult command)) ι
      AuthorityOperation (Except Exc AuthorityOutcome × Unit) (AuthorityWorld ι)}
    (steps : Team.Steps (authorityTeam host accountKey) (Team.start first) config) :
    (∀ args authority others other,
      (.resolve args, .ok (.authority authority), ()) ∈ config.results →
      (.resolve others, .ok (.authority other), ()) ∈ config.results →
      authority.authorityId = other.authorityId ∧
        authority.coordinationDbUuid = other.coordinationDbUuid ∧
        authority.coordinationDbPath = other.coordinationDbPath) ∧
    (∀ later, Team.Steps (authorityTeam host accountKey) config later →
      ∀ document, config.world.authority host accountKey = some (.json document) →
        later.world.authority host accountKey = some (.json document)) ∧
    ∀ args authority path expected,
      (.resolve args, .ok (.authority authority), ()) ∈ config.results →
      authority.identity = .ok expected →
      (.construct path expected, .ok .constructed, ()) ∈ config.results →
      ∃ opening ∈ config.world.opened, opening.path = host.resolvePath path ∧
        opening.rows = [⟨authority.accountKey, authority.coordinationDbUuid, authority.authorityId, 1⟩] := by
  have disciplined := authorityTeam_disciplined host accountKey
  have secured := (Team.Steps.secured disciplined (Team.start_secured first) steps).1
  refine ⟨?_, ?_, ?_⟩
  · intro args authority others other one two
    obtain ⟨document, written, read⟩ := secured.results _ one
    obtain ⟨document', written', read'⟩ := secured.results _ two
    cases written.symm.trans written'
    cases read.symm.trans read'
    exact ⟨rfl, rfl, rfl⟩
  · intro later onward
    exact (Team.Steps.secured disciplined secured onward).2.document
  · intro args authority path expected _ identified constructed
    obtain ⟨_, opened⟩ := secured.results _ constructed
    refine ⟨_, opened, rfl, ?_⟩
    rw [AccountAuthority.identity_row identified]

section Resolved

open AccountRuntimeAuthority AuthorityWorld

theorem resolve_ran {ι : Type} [DecidableEq ι] {host : AuthorityHost ι} {process : ι} {args : ResolveArgs}
    {world final : AuthorityWorld ι} {authority : AccountAuthority}
    (ended : (AccountRuntimeAuthority.resolve host process args ()).Reaches (Answers host process) world
      (.done (.ok authority, ())) final) :
    ((authorityTeam host args.accountKey).run process (.resolve args)).Reaches (Answers host process) world
      (.done (.ok (.authority authority), ())) final := by
  have returns : (AccountRuntimeAuthority.resolve host process args).Returns (Answers host process) () world
      authority () final := ended
  exact Method.returns_bind returns (.here _ _)

theorem resolves_twice {ι : Type} [DecidableEq ι] {host : AuthorityHost ι} {args : ResolveArgs} (one two : ι)
    {world : AuthorityWorld ι} (accepted : Accepted host args) (bootstrap : args.bootstrap = true)
    (absent : Absent host args world) (unlocked : world.owner = none) : ∃ config authority other,
    Team.Steps (authorityTeam host args.accountKey) (Team.start world) config ∧
    (.resolve args, .ok (.authority authority), ()) ∈ config.results ∧
    (.resolve (again args false), .ok (.authority other), ()) ∈ config.results := by
  have created : Succeeds host one args world (Paired host args) :=
    absent_succeeds accepted bootstrap absent unlocked
  obtain ⟨authority, final, first, paired⟩ := created.returned
  have free := (resolve_staged (.inl absent) (.inl unlocked) first).2
  have kept : Paired host args authority (final.release one) := paired_files (release_files final one) paired
  rw [← paired_again false] at kept
  have verified : Succeeds host two (again args false) (final.release one) fun other _ => other = authority :=
    succeeds_of (resolve_yields_paired kept free)
  obtain ⟨other, last, second, _⟩ := verified.returned
  have bootstrapped : Team.Steps (authorityTeam host args.accountKey) (Team.start world)
      ⟨fun _ => none, [(.resolve args, .ok (.authority authority), ())], final⟩ :=
    Team.Steps.operation rfl rfl (resolve_ran first)
  have crashed : Team.Steps (authorityTeam host args.accountKey)
      ⟨fun _ => none, [(.resolve args, .ok (.authority authority), ())], final⟩
      ⟨Function.update (fun _ => none) one none, [(.resolve args, .ok (.authority authority), ())],
        final.release one⟩ := .one (.crash _ one _ rfl)
  have idle : Function.update (fun _ => none) one none = fun _ : ι =>
      (none : Option (AuthorityOperation × Program AuthorityCommand
        (fun command => Except Exc (AuthorityResult command)) (Except Exc AuthorityOutcome × Unit))) :=
    Function.update_eq_self one fun _ => none
  rw [idle] at crashed
  have checked : Team.Steps (authorityTeam host args.accountKey)
      ⟨fun _ => none, [(.resolve args, .ok (.authority authority), ())], final.release one⟩
      ⟨fun _ => none, [(.resolve (again args false), .ok (.authority other), ()),
        (.resolve args, .ok (.authority authority), ())], last⟩ :=
    Team.Steps.operation rfl rfl (resolve_ran second)
  exact ⟨_, authority, other, (bootstrapped.trans crashed).trans checked, .tail _ (.head _), .head _⟩

theorem one_coordination_domain_twice : ∃ config authority other,
    Team.Steps (authorityTeam plainHost plainArgs.accountKey) (Team.start emptyWorld) config ∧
    (.resolve plainArgs, .ok (.authority authority), ()) ∈ config.results ∧
    (.resolve (again plainArgs false), .ok (.authority other), ()) ∈ config.results ∧
    authority.authorityId = other.authorityId ∧
    authority.coordinationDbUuid = other.coordinationDbUuid ∧
    authority.coordinationDbPath = other.coordinationDbPath := by
  have proper : plainHost.Proper plainArgs.accountKey (target plainHost plainArgs) :=
    plainHost.defaultCoordinationDbPath_proper plainArgs.accountKey
  have accepted : Accepted plainHost plainArgs := ⟨⟨_, plainArgs_checked⟩, by decide, proper.2.1⟩
  have absent : Absent plainHost plainArgs emptyWorld := ⟨rfl, rfl⟩
  obtain ⟨config, authority, other, steps, bootstrapped, verified⟩ :=
    resolves_twice true false accepted rfl absent rfl
  have domain := one_coordination_domain plainHost plainArgs.accountKey emptyWorld steps
  exact ⟨config, authority, other, steps, bootstrapped, verified,
    domain.1 plainArgs authority (again plainArgs false) other bootstrapped verified⟩

end Resolved

end QmtExecution
