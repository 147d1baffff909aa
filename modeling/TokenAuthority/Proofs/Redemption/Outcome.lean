import TokenAuthority.Proofs.Interleaving.Finite
import TokenAuthority.Proofs.Interleaving.LegalState
import TokenAuthority.Proofs.Interleaving.Progress
import TokenAuthority.Proofs.Redemption.Spending

/-!
# What becomes of an authorization code

A code is good for the first call that presents it after it was stored, whoever makes that call. The call gets
a token if it names the client that the code was made for and the code has not expired. In any case the code
is spent then, and every other call that presents it is told that it is unknown.
-/

namespace TokenAuthority

namespace Interleaving

variable {run : Interleaving} {n m s t id other : Nat} {code client : String} {bearer : Token} {grant : Grant}

/-- At instant `t` a code is presented for the first time since it was stored under a grant at instant `s`. -/
structure Opens (run : Interleaving) (s t : Nat) (bearer : Token) (grant : Grant) (code : String) : Prop where
  authorizes : run.Authorizes s bearer grant
  own : grant.code = code
  before : s < t
  untouched : run.Untouched s t code

theorem Opens.once {s' : Nat} {bearer' : Token} {grant' : Grant} (fresh : run.Fresh)
    (opens : run.Opens s t bearer grant code) (opens' : run.Opens s' n bearer' grant' code) :
    s = s' ∧ grant = grant' :=
  opens.authorizes.once fresh opens'.authorizes (opens.own.trans opens'.own.symm)

theorem Checks.once {e e' : Nat} {now now' : Instant} (checks : run.Checks id e now) (checks' : run.Checks id e' now') :
    now = now' := by
  obtain ⟨reads, first⟩ := checks
  obtain ⟨reads', first'⟩ := checks'
  rcases Nat.lt_trichotomy e e' with earlier | rfl | later
  · exact (first' e _ _ earlier reads rfl).elim
  · obtain ⟨-, -, same⟩ := reads.unique reads'
    exact eq_of_heq same
  · exact (first e' _ _ later reads' rfl).elim

/-! ### What a call finds under a code -/

/-- A call that presents a code finds the grant exactly if nobody has presented it since it was stored. -/
theorem Does.takes {found : Option Grant} (fresh : run.Fresh) (empty : run.initial.grants = .empty)
    (does : run.Does t id (.store (.takeGrant code)) (.ok found)) :
    (∃ s bearer grant used, run.Opens s t bearer grant code ∧ found = some { grant with usedAt := some used }) ∨
      found = none ∧ ∀ s bearer grant, ¬run.Opens s t bearer grant code := by
  obtain ⟨now, answered, -⟩ := does.step
  rw [Memory.step_takeGrant_answer] at answered
  have answered := Except.ok.inj answered
  have holding := grants_held empty t code
  generalize (run.memory t).grants.get? code = stored at answered holding
  cases holding with
  | unmade unmade =>
    refine .inr ⟨answered, fun s bearer grant opens => ?_⟩
    have late := unmade s bearer grant opens.authorizes opens.own
    exact absurd opens.before (by omega)
  | @made s bearer grant used authorizes own before unused =>
    cases used with
    | none => exact .inl ⟨s, bearer, grant, now, ⟨authorizes, own, before, unused.1 rfl⟩, answered⟩
    | some used =>
      refine .inr ⟨answered, fun s' bearer' grant' opens => ?_⟩
      obtain ⟨rfl, -⟩ := authorizes.once fresh opens.authorizes (own.trans opens.own.symm)
      exact nomatch unused.2 opens.untouched

/-- A code that was presented once stays spent. -/
theorem Presents.spends (fresh : run.Fresh) (empty : run.initial.grants = .empty)
    (authorizes : run.Authorizes s bearer grant) (before : s < t) (presents : run.Presents t id grant.code)
    (later : t < m) : ∃ used, (run.memory m).grants.get? grant.code = some { grant with usedAt := some used } := by
  have holding := grants_held empty m grant.code
  generalize (run.memory m).grants.get? grant.code = stored at holding
  cases holding with
  | unmade unmade =>
    have late := unmade s bearer grant authorizes rfl
    omega
  | @made s' bearer' grant' used authorizes' own before' unused =>
    obtain ⟨rfl, rfl⟩ := authorizes.once fresh authorizes' own.symm
    cases used with
    | none => exact (unused.1 rfl t id before later presents).elim
    | some used => exact ⟨used, rfl⟩

theorem Presents.once (presents : run.Presents t id code) (again : run.Presents m id code) : t = m := by
  obtain ⟨_, takes⟩ := presents
  obtain ⟨_, takes'⟩ := again
  rcases Nat.lt_trichotomy t m with earlier | same | later
  · exact (takes'.grounds.2 t _ _ earlier takes ⟨_, rfl⟩).elim
  · exact same
  · exact (takes.grounds.2 m _ _ later takes' ⟨_, rfl⟩).elim

/-! ### What a call comes to -/

/-- What a call comes to that presents a code at instant `t`. -/
inductive Outcome (run : Interleaving) (id t : Nat) (code client : String) : Except Failure Yield → Prop where
  | unknown (closed : ∀ s bearer grant, ¬run.Opens s t bearer grant code) :
      Outcome run id t code client (.error .unknownCode)
  | foreign {s : Nat} {bearer : Token} {grant : Grant} (opens : run.Opens s t bearer grant code)
      (different : grant.client ≠ client) : Outcome run id t code client (.error .foreignCode)
  | expired {s e : Nat} {bearer : Token} {grant : Grant} {now : Instant} (opens : run.Opens s t bearer grant code)
      (same : grant.client = client) (checks : run.Checks id e now)
      (late : grant.createdAt.addSeconds run.service.grantLifetime ≤ now) :
      Outcome run id t code client (.error .expiredCode)
  | minted {s e : Nat} {bearer token : Token} {grant : Grant} {now : Instant}
      (opens : run.Opens s t bearer grant code) (same : grant.client = client) (checks : run.Checks id e now)
      (good : now < grant.createdAt.addSeconds run.service.grantLifetime) (owner : token.owner = bearer.owner)
      (own : token.code = some code) : Outcome run id t code client (.ok (.token token))

theorem Authorizes.isExpired_iff {now : Instant} (authorizes : run.Authorizes s bearer grant) :
    grant.isExpired now = true ↔ grant.createdAt.addSeconds run.service.grantLifetime ≤ now := by
  rw [Grant.isExpired, authorizes.expiresAt]
  exact decide_eq_true_iff

theorem Returned.outcome {result : Except Failure Yield} (fresh : run.Fresh) (empty : run.initial.grants = .empty)
    (starts : run.move id = .start (.issueFromCode code client)) (returned : run.Returned n id result) :
    ∃ t, t < n ∧ run.Presents t id code ∧ run.Outcome id t code client result := by
  obtain ⟨m, token, early, redeems, rfl⟩ := returned.redeems starts
  -- What was taken is a grant that some call was authorized to make.
  have opened {t : Nat} {found : Grant} (takes : run.Does t id (.store (.takeGrant code)) (.ok (some found))) :
      ∃ s bearer grant used, run.Opens s t bearer grant code ∧ found = { grant with usedAt := some used } := by
    rcases takes.takes fresh empty with ⟨s, bearer, grant, used, opens, same⟩ | ⟨absent, -⟩
    · exact ⟨s, bearer, grant, used, opens, Option.some.inj same⟩
    · cases absent
  cases redeems with
  | @unknown t _ before takes =>
    refine ⟨t, by omega, ⟨_, takes⟩, .unknown ?_⟩
    rcases takes.takes fresh empty with ⟨s, bearer, grant, used, opens, same⟩ | ⟨-, closed⟩
    · cases same
    · exact closed
  | @foreign t _ found before takes different =>
    obtain ⟨s, bearer, grant, used, opens, rfl⟩ := opened takes
    exact ⟨t, by omega, ⟨_, takes⟩, .foreign opens different⟩
  | @expired t e _ found now before takes same checks late =>
    obtain ⟨s, bearer, grant, used, opens, rfl⟩ := opened takes
    exact ⟨t, by omega, ⟨_, takes⟩, .expired opens same checks (opens.authorizes.isExpired_iff.1 late)⟩
  | @minted t e _ found now created access before takes same checks good =>
    obtain ⟨s, bearer, grant, used, opens, rfl⟩ := opened takes
    have current : ¬grant.createdAt.addSeconds run.service.grantLifetime ≤ now := fun late =>
      Bool.false_ne_true (good.symm.trans (opens.authorizes.isExpired_iff.2 late))
    refine ⟨t, by omega, ⟨_, takes⟩, .minted opens same checks (Instant.not_le.1 current) ?_ ?_⟩
    · exact opens.authorizes.owner
    · exact congrArg some opens.own
  | collided adds => exact (adds.addToken_not_fails fresh).elim

/-! ### Reading the outcome off the history of the code -/

variable {result : Except Failure Yield} {failure : Failure} {token : Token}

theorem refused_ne_token : (.error failure : Except Failure Yield) ≠ .ok (.token token) := nofun

theorem Outcome.token_iff (fresh : run.Fresh) (outcome : run.Outcome id t code client result) :
    (∃ token, result = .ok (.token token)) ↔ ∃ s bearer grant e now, run.Opens s t bearer grant code ∧
      grant.client = client ∧ run.Checks id e now ∧ now < grant.createdAt.addSeconds run.service.grantLifetime := by
  cases outcome with
  | unknown closed =>
    constructor
    · exact fun ⟨_, same⟩ => (refused_ne_token same).elim
    · exact fun ⟨s, bearer, grant, _, _, opens, _⟩ => (closed s bearer grant opens).elim
  | foreign opens different =>
    constructor
    · exact fun ⟨_, same⟩ => (refused_ne_token same).elim
    · rintro ⟨_, _, _, _, _, opens', same, -⟩
      obtain ⟨-, rfl⟩ := opens.once fresh opens'
      exact (different same).elim
  | expired opens _ checks late =>
    constructor
    · exact fun ⟨_, same⟩ => (refused_ne_token same).elim
    · rintro ⟨_, _, _, _, _, opens', -, checks', good⟩
      obtain ⟨-, rfl⟩ := opens.once fresh opens'
      obtain rfl := checks.once checks'
      exact (Instant.not_le.2 good late).elim
  | minted opens same checks good => exact ⟨fun _ => ⟨_, _, _, _, _, opens, same, checks, good⟩, fun _ => ⟨_, rfl⟩⟩

theorem Outcome.owner (fresh : run.Fresh) (outcome : run.Outcome id t code client (.ok (.token token)))
    (opens : run.Opens s t bearer grant code) : token.owner = bearer.owner ∧ token.code = some code := by
  cases outcome with
  | minted opens' _ _ _ owner own =>
    have owners := opens.authorizes.owner
    obtain ⟨-, rfl⟩ := opens.once fresh opens'
    exact ⟨owner.trans (opens'.authorizes.owner.symm.trans owners), own⟩

theorem Outcome.of_foreign (fresh : run.Fresh) (outcome : run.Outcome id t code client result)
    (opens : run.Opens s t bearer grant code) (different : grant.client ≠ client) :
    result = .error .foreignCode := by
  cases outcome with
  | unknown closed => exact (closed s bearer grant opens).elim
  | foreign => rfl
  | expired opens' same | minted opens' same =>
    obtain ⟨-, rfl⟩ := opens.once fresh opens'
    exact (different same).elim

theorem Outcome.of_client (fresh : run.Fresh) (outcome : run.Outcome id t code client result)
    (opens : run.Opens s t bearer grant code) (same : grant.client = client) :
    ∃ e now, run.Checks id e now ∧
      (grant.createdAt.addSeconds run.service.grantLifetime ≤ now → result = .error .expiredCode) := by
  cases outcome with
  | unknown closed => exact (closed s bearer grant opens).elim
  | foreign opens' different =>
    obtain ⟨-, rfl⟩ := opens.once fresh opens'
    exact (different same).elim
  | expired _ _ checks => exact ⟨_, _, checks, fun _ => rfl⟩
  | minted opens' _ checks good =>
    obtain ⟨-, rfl⟩ := opens.once fresh opens'
    exact ⟨_, _, checks, fun late => (Instant.not_le.2 good late).elim⟩

theorem Outcome.of_closed (outcome : run.Outcome id t code client result)
    (closed : ∀ s bearer grant, ¬run.Opens s t bearer grant code) : result = .error .unknownCode := by
  cases outcome with
  | unknown => rfl
  | foreign opens | expired opens | minted opens => exact (closed _ _ _ opens).elim

/-- Of the calls that present one code at most one gets a token. -/
theorem Outcome.once {t' : Nat} {client' : String} {token' : Token} (fresh : run.Fresh)
    (presents : run.Presents t id code) (outcome : run.Outcome id t code client (.ok (.token token)))
    (presents' : run.Presents t' other code) (outcome' : run.Outcome other t' code client' (.ok (.token token'))) :
    id = other := by
  cases outcome with
  | minted opens =>
    cases outcome' with
    | minted opens' =>
      obtain ⟨rfl, -⟩ := opens.once fresh opens'
      rcases Nat.lt_trichotomy t t' with earlier | rfl | later
      · exact (opens'.untouched t id opens.before earlier presents).elim
      · obtain ⟨_, takes⟩ := presents
        obtain ⟨_, takes'⟩ := presents'
        exact (takes.unique takes').1
      · exact (opens.untouched t' other opens'.before later presents').elim

/-- If nobody presents a code before it is stored, what matters is whether it was presented before at all. -/
theorem untouched_iff (unguessed : ∀ i client, run.move i = .start (.issueFromCode code client) → s < i) :
    run.Untouched s t code ↔ ∀ k id, k < t → ¬run.Presents k id code := by
  constructor
  · intro untouched k id before presents
    obtain ⟨_, takes⟩ := presents
    obtain ⟨client, starts⟩ := takes.grounds.1
    have stored : s < k := Nat.lt_trans (unguessed id client starts) takes.started.2
    exact untouched k id stored before ⟨_, takes⟩
  · exact fun first k id _ before => first k id before

/-- Every call that presents a code gets to its result and presents the code once. It gets a token exactly if
the code was stored for the same client, nobody has presented it since, and it has not expired when the call
reads the clock; the token is for the owner of the token that the code was authorized with. The first call
that presents a stored code spends it for good, also when the client is another one or the code has expired;
later ones, and those that present a code that was not stored, are told that it is unknown. So one call at
most gets a token for a code. A code that nobody presents before it is stored is presented for the first time
since then exactly if it is presented for the first time ever. -/
theorem code_redeemed_once (run : Interleaving) (fresh : run.Fresh) (empty : run.initial.grants = .empty) :
    (∀ id code client, run.move id = .start (.issueFromCode code client) → run.Recurs id →
      ∃ n result, run.Returned n id result) ∧
    (∀ id code client n result, run.move id = .start (.issueFromCode code client) → run.Returned n id result →
      ∃ t, t < n ∧ (∀ k, run.Presents k id code ↔ k = t) ∧
        ((∃ token, result = .ok (.token token)) ↔ ∃ s bearer grant e now, run.Opens s t bearer grant code ∧
          grant.client = client ∧ run.Checks id e now ∧
          now < grant.createdAt.addSeconds run.service.grantLifetime) ∧
        (∀ s bearer grant, run.Opens s t bearer grant code →
          (∀ token, result = .ok (.token token) → token.owner = bearer.owner ∧ token.code = some code) ∧
          (grant.client ≠ client → result = .error .foreignCode) ∧
          (grant.client = client → ∃ e now, run.Checks id e now ∧
            (grant.createdAt.addSeconds run.service.grantLifetime ≤ now → result = .error .expiredCode))) ∧
        ((∀ s bearer grant, ¬run.Opens s t bearer grant code) → result = .error .unknownCode)) ∧
    (∀ s t m id bearer grant, run.Authorizes s bearer grant → s < t → run.Presents t id grant.code → t < m →
      ∃ used, (run.memory m).grants.get? grant.code = some { grant with usedAt := some used }) ∧
    (∀ id other code client client' n m token token', run.move id = .start (.issueFromCode code client) →
      run.move other = .start (.issueFromCode code client') → run.Returned n id (.ok (.token token)) →
      run.Returned m other (.ok (.token token')) → id = other) ∧
    (∀ s bearer grant, run.Authorizes s bearer grant →
      (∀ i client, run.move i = .start (.issueFromCode grant.code client) → s < i) →
      ∀ t, run.Untouched s t grant.code ↔ ∀ k id, k < t → ¬run.Presents k id grant.code) := by
  refine ⟨fun id code client starts recurs => recurs.returns starts, ?_, ?_, ?_, ?_⟩
  · intro id code client n result starts returned
    obtain ⟨t, before, presents, outcome⟩ := returned.outcome fresh empty starts
    refine ⟨t, before, fun k => ⟨fun again => again.once presents, fun same => same ▸ presents⟩, ?_, ?_, ?_⟩
    · exact outcome.token_iff fresh
    · intro s bearer grant opens
      refine ⟨?_, outcome.of_foreign fresh opens, outcome.of_client fresh opens⟩
      rintro token rfl
      exact outcome.owner fresh opens
    · exact outcome.of_closed
  · intro s t m id bearer grant authorizes before presents later
    exact presents.spends fresh empty authorizes before later
  · intro id other code client client' n m token token' starts starts' returned returned'
    obtain ⟨t, -, presents, outcome⟩ := returned.outcome fresh empty starts
    obtain ⟨t', -, presents', outcome'⟩ := returned'.outcome fresh empty starts'
    exact outcome.once fresh presents presents' outcome'
  · exact fun s bearer grant _ unguessed t => untouched_iff unguessed

/-- A provider login of the account `u`, whose token authorizes the client `c`, and two calls that present the
code: one for the client `c`, which comes first, and one for another client. -/
def delegation : Interleaving :=
  let profile : Profile := ⟨"p", "s", none, []⟩
  let resume (id : Nat) (text : String) : Move := .resume id ⟨.ofSeconds 0, text, .ok profile⟩
  ofMoves ⟨Registry.empty.register ⟨"p", fun _ => .done (.error .unknownToken)⟩, 3600, 600⟩
    (Memory.empty.insertAccount ⟨"u", "", none, none, Table.empty.insert "p" profile⟩)
    ([.start (.issueFromProvider "p" "")] ++ ["", "", "", "", "a", "r", "", ""].map (resume 0) ++
      [.start (.authorize "a" "c" none)] ++ ["", "", "", "k", "", ""].map (resume 9) ++
      [.start (.issueFromCode "k" "c"), .start (.issueFromCode "k" "d")] ++
      ["", "", "", "", "b", "", ""].map (resume 16) ++ ["", ""].map (resume 17))

theorem delegation_fresh : delegation.Fresh := fresh_ofMoves (by decide)

/-- The first call gets a token for the account `u`, and the other one never gets any. -/
theorem delegation_redeemed : delegation.Fresh ∧ delegation.initial.grants = .empty ∧
    delegation.Returned 25 16 (.ok (.token (.delegated "u" "k" 3600 (.ofSeconds 0) "b"))) ∧
    ∀ n token, ¬delegation.Returned n 17 (.ok (.token token)) := by
  obtain ⟨-, -, -, once, -⟩ := code_redeemed_once delegation delegation_fresh rfl
  have paid : delegation.Returned 25 16 (.ok (.token (.delegated "u" "k" 3600 (.ofSeconds 0) "b"))) := ⟨_, rfl⟩
  refine ⟨delegation_fresh, rfl, paid, fun n token returned => ?_⟩
  have same := once 16 17 "k" "c" "d" 25 n _ token rfl rfl paid returned
  exact absurd same (by decide)

end Interleaving

end TokenAuthority
