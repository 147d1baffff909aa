import TokenAuthority.Proofs.Alone.Refresh
import TokenAuthority.Proofs.Interleaving.Basic
import TokenAuthority.Proofs.Store.Spending

/-!
# What an uninterrupted call comes to

If nothing gets in between, the store and the surroundings settle at the start of a call what it comes to: how
many strings it draws, what it returns and how it changes the store. `Call.plan` says so, and
`World.foretells_perform` that the call does it, as long as it draws no string that is stored already.
-/

namespace TokenAuthority

/-! ### Reading the store -/

def Token.admitted (token : Token) (now : Instant) : Except Failure Token :=
  if token.wasInvalidated then .error .alreadyInvalidated
  else if token.wasRefreshed then .error .alreadyRefreshed
  else if token.isExpired now then .error .expiredAccess
  else .ok token

namespace Memory

/-- What comes of presenting an access string at some time. -/
def bearer (m : Memory) (access : String) (now : Instant) : Except Failure Token :=
  match m.tokens.get? access with
  | none => .error .unknownAccess
  | some token => token.admitted now

def holder (m : Memory) (email password : String) : Except Failure Account :=
  match m.accountByEmail? email with
  | none => .error .badCredentials
  | some account =>
    if account.checkPassword password ≠ .right then .error .badCredentials
    else if account.activationPending then .error .activationPending
    else .ok account

def linked (m : Memory) (profile : Profile) : Except Failure Account :=
  match m.accountByIdentity? profile.provider profile.subject with
  | none => .error .unlinkedIdentity
  | some account => .ok account

/-- The grant that can be taken under a code. -/
def unspent (m : Memory) (code : String) : Option Grant :=
  (m.grants.get? code).filter fun grant => grant.usedAt.isNone

variable {m : Memory}

theorem bearer_eq_ok {access : String} {now : Instant} {token : Token} (ok : m.bearer access now = .ok token) :
    m.tokens.get? access = some token := by
  unfold bearer at ok
  split at ok
  · cases ok
  · rename_i found stored
    unfold Token.admitted at ok
    split at ok
    · cases ok
    · split at ok
      · cases ok
      · split at ok
        · cases ok
        · rw [stored, Except.ok.inj ok]

theorem holder_eq_ok {email password : String} {account : Account} (ok : m.holder email password = .ok account) :
    m.accountByEmail? email = some account := by
  unfold holder at ok
  split at ok
  · cases ok
  · rename_i found stored
    split at ok
    · cases ok
    · split at ok
      · cases ok
      · rw [stored, Except.ok.inj ok]

theorem linked_eq_ok {profile : Profile} {account : Account} (ok : m.linked profile = .ok account) :
    m.accountByIdentity? profile.provider profile.subject = some account := by
  unfold linked at ok
  split at ok
  · cases ok
  · rename_i found stored
    rw [stored, Except.ok.inj ok]

theorem unspent_eq_some {code : String} {grant : Grant} (unspent : m.unspent code = some grant) :
    m.grants.get? code = some grant := (Option.filter_eq_some_iff.1 unspent).1

end Memory

/-- What a provider says about the holder of one of its access tokens. -/
def World.identified (w : World) (found : Provider) (accessToken : String) : Except Failure Profile :=
  Id.run ((found.identify accessToken).run fun exchange => pure (w.exchange exchange))

def Service.recognized (s : Service) (w : World) (provider accessToken : String) : Except Failure Profile :=
  match s.registry.get? provider with
  | none => .error (.unknownProvider provider)
  | some found => w.identified found accessToken

/-! ### Plans -/

/-- How many strings a call draws, what it returns, and the store calls by which it changes the store. -/
structure Plan where
  drawn : Nat
  result : Except Failure Yield
  writes : List (Instant × StoreCall)

namespace Plan

def refusal (failure : Failure) : Plan := ⟨0, .error failure, []⟩

def after (plan : Plan) (m : Memory) : Memory :=
  plan.writes.foldl (fun m write => (m.step write.1 write.2).2) m

end Plan

/-- What a call is to come to if nothing gets in between. -/
def Call.plan (s : Service) (w : World) (m : Memory) : Call → Plan
  | .issueFromPassword email password =>
    match m.holder email password with
    | .error failure => .refusal failure
    | .ok account =>
      let token := Token.issued account.id s.tokenLifetime (w.clock 1) (w.text 0) (w.text 1)
      ⟨2, .ok (.token token), [(w.clock 2, .addToken token)]⟩
  | .issueFromProvider provider accessToken =>
    match s.recognized w provider accessToken with
    | .error failure => .refusal failure
    | .ok profile =>
      match m.linked profile with
      | .error failure => .refusal failure
      | .ok account =>
        let saves := if account.hasSaved profile then [] else [(w.clock 1, .saveProfile account.id profile)]
        let now := w.clock (saves.length + 1)
        let token := Token.issued account.id s.tokenLifetime now (w.text 0) (w.text 1)
        ⟨2, .ok (.token token), saves ++ [(w.clock (saves.length + 2), .addToken token)]⟩
  | .refresh r =>
    match m.verdict r with
    | .settled result => ⟨0, .token <$> result, []⟩
    | .extended old =>
      let token := Token.issued old.owner s.tokenLifetime (w.clock 1) (w.text 0) (w.text 1)
      ⟨2, .ok (.token token), [(w.clock 2, .chainToken old.access token)]⟩
  | .authenticate access => ⟨0, .token <$> m.bearer access (w.clock 1), []⟩
  | .invalidate none => .refusal .noCredentials
  | .invalidate (some access) =>
    if m.tokens.contains access then ⟨0, .ok .nothing, [(w.clock 0, .invalidateToken access)]⟩
    else .refusal .unknownAccess
  | .authorize access client scope =>
    if (Text.trimmed client.toList).isEmpty then .refusal .missingClient
    else
      match m.bearer access (w.clock 1) with
      | .error failure => .refusal failure
      | .ok bearer =>
        let grant := Grant.issued client bearer.owner scope s.grantLifetime (w.clock 2) (w.text 0)
        ⟨1, .ok (.grant grant), [(w.clock 3, .addGrant grant)]⟩
  | .issueFromCode code client =>
    match m.unspent code with
    | none => .refusal .unknownCode
    | some grant =>
      let takes : Instant × StoreCall := (w.clock 0, .takeGrant code)
      if grant.client ≠ client then ⟨0, .error .foreignCode, [takes]⟩
      else if grant.isExpired (w.clock 1) then ⟨0, .error .expiredCode, [takes]⟩
      else
        let token := Token.delegated grant.owner grant.code s.tokenLifetime (w.clock 2) (w.text 0)
        ⟨1, .ok (.token token), [takes, (w.clock 3, .addToken token)]⟩

/-- The first `n` strings that are drawn are not stored. -/
def World.SuppliesNew (w : World) (m : Memory) (n : Nat) : Prop := ∀ i, i < n → ¬m.Mentions (w.text i)

/-- What a call came to is what was planned; the result is so if the strings it draws are not stored. -/
structure Plan.Foretells (plan : Plan) (w : World) (m : Memory)
    (outcome : Except Failure Yield × (Journal × Memory)) : Prop where
  drawn : outcome.2.1.drawn = plan.drawn
  comes : w.SuppliesNew m plan.drawn → outcome.1 = plan.result ∧ outcome.2.2 = plan.after m

namespace World

variable {w : World} {s : Service} {j : Journal} {m : Memory}

/-! ### Requests -/

theorem alone_identify {found : Provider} {accessToken : String} : ∃ exchanges,
    w.alone (Action.identify found accessToken) (j, m) =
      (w.identified found accessToken, { j with exchanges := exchanges }, m) := by
  have asks {α : Type} (program : Program Exchange.Answer α) : ∀ j : Journal, ∃ exchanges,
      (program.run w.answerExchange).run j =
        (Id.run (program.run fun exchange => pure (w.exchange exchange)), { j with exchanges := exchanges }) := by
    induction program with
    | done value => exact fun j => ⟨j.exchanges, rfl⟩
    | ask exchange next ih => exact fun j => ih _ { j with exchanges := exchange :: j.exchanges }
  obtain ⟨exchanges, asked⟩ := asks (found.identify accessToken) j
  exact ⟨exchanges, congrArg (fun out => (out.1, out.2, m)) asked⟩

theorem alone_refreshProfile {account : Account} {profile : Profile} : ∃ events,
    w.alone (liftM (Service.refreshProfile account profile)) (j, m) =
      if account.hasSaved profile then (.ok (), j, m)
      else (.ok (), { j with readings := j.readings + 1, events := events },
        (m.step (w.clock j.readings) (.saveProfile account.id profile)).2) := by
  unfold Service.refreshProfile
  by_cases saved : account.hasSaved profile = true
  · refine ⟨[], ?_⟩
    rw [if_pos saved, if_pos saved]
    rfl
  · rw [if_neg saved]
    simp only [if_neg saved, liftM_bind, alone_bind, alone_log, alone_attempt, alone_saveProfile]
    generalize m.step (w.clock j.readings) (.saveProfile account.id profile) = out
    obtain ⟨failure | done, after⟩ := out
    · exact ⟨_, rfl⟩
    · exact ⟨_, rfl⟩

theorem alone_mint {token : Token} : ∃ after, w.alone (Service.mint token) (j, m) =
    ((fun _ => token) <$> (m.step (w.clock j.readings) (.addToken token)).1, after,
      (m.step (w.clock j.readings) (.addToken token)).2) ∧ after.drawn = j.drawn := by
  rw [Service.mint, alone_bind, alone_addToken]
  generalize m.step (w.clock j.readings) (.addToken token) = out
  obtain ⟨failure | done, after⟩ := out
  · exact ⟨_, rfl, rfl⟩
  · exact ⟨_, rfl, rfl⟩

/-! ### Calls -/

theorem not_mentions_iff {text : String} : ¬m.Mentions text ↔
    m.tokens.get? text = none ∧ m.refreshIndex.get? text = none ∧ m.grants.get? text = none := by
  simp [Memory.Mentions, Table.contains]

theorem foretells_refusal {failure : Failure} (none : j.drawn = 0) :
    (Plan.refusal failure).Foretells w m (.error failure, j, m) := ⟨none, fun _ => ⟨rfl, rfl⟩⟩

/-- A call that comes to storing a token with the first string it has drawn, after it has changed no tokens. -/
theorem foretells_mint (writes : List (Instant × StoreCall)) {drawn : Nat} {now : Instant} {between : Memory}
    {token : Token} (draws : j.drawn = drawn) (some : 0 < drawn) (own : token.access = w.text 0)
    (time : w.clock j.readings = now) (before : between = (Plan.mk 0 (.ok .nothing) writes).after m)
    (tokens : between.tokens = m.tokens) :
    Plan.Foretells ⟨drawn, .ok (.token token), writes ++ [(now, .addToken token)]⟩ w m
      (Yield.token <$> (w.alone (Service.mint token) (j, between)).1,
        (w.alone (Service.mint token) (j, between)).2) := by
  obtain ⟨after, mints, same⟩ := @alone_mint w j between token
  rw [mints]
  refine ⟨same.trans draws, fun new => ?_⟩
  have unused : between.tokens.get? token.access = none := by
    rw [tokens, own]
    exact (not_mentions_iff.1 (new 0 some)).1
  obtain ⟨grown, inserted⟩ := Memory.insertToken?_of_unused unused
  constructor
  · simp only [Memory.step, inserted]
    rfl
  · simp only [Plan.after, List.foldl_append, List.foldl_cons, List.foldl_nil, before, time]

theorem foretells_password {email password : String} :
    (Call.plan s w m (.issueFromPassword email password)).Foretells w m
      (w.alone (s.perform (.issueFromPassword email password)) (.empty, m)) := by
  rw [Service.perform, alone_map, Service.issueFromPassword, alone_bind, alone_log]
  simp only [alone_bind, alone_accountByEmail, Call.plan, Memory.holder]
  cases m.accountByEmail? email with
  | none => exact foretells_refusal rfl
  | some account =>
    by_cases has : account.hasPassword = true
    · simp only [has, Bool.not_true, Bool.false_eq_true, if_false, Service.passwordMatches]
      cases check : account.checkPassword password with
      | wrong => exact foretells_refusal rfl
      | unreadable fault => exact foretells_refusal rfl
      | right =>
        by_cases pending : account.activationPending = true
        · simp only [pending, if_true]
          exact foretells_refusal rfl
        · simp only [pending, ne_eq, not_true_eq_false, if_false, Bool.false_eq_true, alone_bind, alone_lift_pure,
            Bool.not_true, alone_newToken]
          exact foretells_mint [] rfl (Nat.succ_pos 1) rfl rfl rfl rfl
    · have wrong : account.checkPassword password = .wrong := by
        have absent : account.passwordHash = none := by simpa [Account.hasPassword] using has
        rw [Account.checkPassword, absent]
      simp only [has, wrong]
      exact foretells_refusal rfl

theorem foretells_provider {provider accessToken : String} :
    (Call.plan s w m (.issueFromProvider provider accessToken)).Foretells w m
      (w.alone (s.perform (.issueFromProvider provider accessToken)) (.empty, m)) := by
  rw [Service.perform, alone_map, Service.issueFromProvider, alone_bind, alone_log]
  simp only [alone_bind, Call.plan, Service.recognized, Memory.linked]
  cases s.registry.get? provider with
  | none => exact foretells_refusal rfl
  | some found =>
    obtain ⟨exchanges, asks⟩ := @alone_identify w _ m found accessToken
    simp only [Service.orThrow, alone_pure]
    rw [asks]
    cases w.identified found accessToken with
    | error failure => exact foretells_refusal rfl
    | ok profile =>
      simp only [alone_accountByIdentity]
      cases m.accountByIdentity? profile.provider profile.subject with
      | none => exact foretells_refusal rfl
      | some account =>
        simp only [alone_bind]
        obtain ⟨events, saves⟩ := @alone_refreshProfile w _ m account profile
        rw [saves]
        by_cases saved : account.hasSaved profile = true
        · simp only [saved, if_true, alone_newToken]
          exact foretells_mint [] rfl (Nat.succ_pos 1) rfl rfl rfl rfl
        · simp only [saved, Bool.false_eq_true, if_false, alone_newToken]
          refine foretells_mint [(w.clock 1, .saveProfile account.id profile)] rfl (Nat.succ_pos 1) rfl rfl rfl ?_
          simp only [Memory.step]
          split <;> rfl

theorem foretells_refresh {r : String} (orderly : m.Orderly) :
    (Call.plan s w m (.refresh r)).Foretells w m (w.alone (s.perform (.refresh r)) (.empty, m)) := by
  rw [Service.perform, alone_map]
  simp only [Call.plan]
  cases verdict : m.verdict r with
  | settled result =>
    obtain ⟨after, alone, drawn⟩ := w.alone_refresh_of_settled s .empty verdict
    rw [alone]
    exact ⟨drawn, fun _ => ⟨rfl, rfl⟩⟩
  | extended old =>
    obtain ⟨found, ready⟩ := Memory.open_of_verdict verdict
    obtain ⟨stored, -⟩ := orderly.tokenByRefresh?_iff.1 found
    simp only
    generalize issued : Token.issued old.owner s.tokenLifetime (w.clock 1) (w.text 0) (w.text 1) = token
    obtain ⟨after, alone, drawn⟩ := w.alone_refresh_extends s .empty verdict stored issued.symm (w.clock 2)
    rw [alone]
    refine ⟨drawn, fun new => ?_⟩
    have unused : m.tokens.get? token.access = none := by
      rw [← issued]
      exact (not_mentions_iff.1 (new 0 (Nat.succ_pos 1))).1
    obtain ⟨chained, chains⟩ := Memory.step_chainToken_of_open stored ready.valid ready.last unused
    refine ⟨?_, rfl⟩
    rw [chains]
    rfl

theorem foretells_invalidate {access : Option String} :
    (Call.plan s w m (.invalidate access)).Foretells w m (w.alone (s.perform (.invalidate access)) (.empty, m)) := by
  rw [Service.perform, alone_map, Service.invalidate, alone_bind]
  cases access with
  | none => exact foretells_refusal rfl
  | some access =>
    simp only [Service.orThrow, alone_pure, alone_bind, alone_invalidateToken, Call.plan]
    by_cases known : m.tokens.contains access = true
    · simp only [known, if_true]
      exact ⟨rfl, fun _ => ⟨rfl, rfl⟩⟩
    · simp only [known]
      have same : (m.step (w.clock 0) (.invalidateToken access)).2 = m := by
        have absent : m.tokens.get? access = none := by simpa [Table.contains] using known
        simp only [Memory.step, Table.modify_of_absent absent]
      exact ⟨rfl, fun _ => ⟨rfl, same⟩⟩

theorem alone_authenticate {access : String} : ∃ after,
    w.alone (Service.authenticate access) (j, m) = (m.bearer access (w.clock (j.readings + 1)), after, m) ∧
      after.drawn = j.drawn ∧ ∀ token, m.bearer access (w.clock (j.readings + 1)) = .ok token →
        after.readings = j.readings + 2 := by
  rw [Service.authenticate, alone_bind, alone_tokenByAccess, Memory.bearer]
  simp only
  cases m.tokens.get? access with
  | none => exact ⟨_, rfl, rfl, by simp⟩
  | some token =>
    simp only [alone_ite, alone_throw, alone_bind, alone_clock, alone_pure, Token.admitted]
    split
    · exact ⟨_, rfl, rfl, by simp⟩
    · split
      · exact ⟨_, rfl, rfl, by simp⟩
      · split
        · exact ⟨_, rfl, rfl, by simp⟩
        · exact ⟨_, rfl, rfl, fun _ _ => rfl⟩

theorem foretells_authenticate {access : String} :
    (Call.plan s w m (.authenticate access)).Foretells w m
      (w.alone (s.perform (.authenticate access)) (.empty, m)) := by
  rw [Service.perform, alone_map]
  obtain ⟨after, alone, drawn, -⟩ := @alone_authenticate w .empty m access
  rw [alone]
  exact ⟨drawn, fun _ => ⟨rfl, rfl⟩⟩

theorem foretells_authorize {access client : String} {scope : Option String} :
    (Call.plan s w m (.authorize access client scope)).Foretells w m
      (w.alone (s.perform (.authorize access client scope)) (.empty, m)) := by
  rw [Service.perform, alone_map, Service.authorize, alone_ite]
  simp only [Call.plan]
  split
  · exact foretells_refusal rfl
  · obtain ⟨after, alone, drawn, reads⟩ := @alone_authenticate w .empty m access
    change w.alone (Service.authenticate access) (.empty, m) = (m.bearer access (w.clock 1), after, m) at alone
    change ∀ token, m.bearer access (w.clock 1) = .ok token → after.readings = 2 at reads
    change after.drawn = 0 at drawn
    rw [alone_bind, alone]
    cases bearer : m.bearer access (w.clock 1) with
    | error failure => exact foretells_refusal drawn
    | ok token =>
      obtain ⟨readings, none, events, exchanges⟩ := after
      obtain rfl : readings = 2 := reads token bearer
      obtain rfl : none = 0 := drawn
      exact ⟨rfl, fun _ => ⟨rfl, rfl⟩⟩

theorem foretells_code {code client : String} :
    (Call.plan s w m (.issueFromCode code client)).Foretells w m
      (w.alone (s.perform (.issueFromCode code client)) (.empty, m)) := by
  have tokens (now : Instant) : (m.step now (.takeGrant code)).2.tokens = m.tokens := by
    simp only [Memory.step]
    split <;> rfl
  have spends (now : Instant) (absent : m.unspent code = none) : (m.step now (.takeGrant code)).2 = m := by
    rw [Memory.unspent] at absent
    simp only [Memory.step, absent]
  rw [Service.perform, alone_map, Service.issueFromCode, alone_bind, alone_log]
  simp only [alone_bind, alone_takeGrant, Memory.step_takeGrant_answer, Call.plan]
  rw [← Memory.unspent]
  cases found : m.unspent code with
  | none =>
    rw [spends _ found]
    exact foretells_refusal rfl
  | some grant =>
    obtain ⟨used, same⟩ := @Grant.presented_eq (w.clock Journal.empty.readings) grant
    simp only [Option.map_some, same, alone_ite, alone_throw, alone_bind, alone_clock, Grant.isExpired]
    by_cases different : grant.client ≠ client
    · simp only [if_pos different]
      exact ⟨rfl, fun _ => ⟨rfl, rfl⟩⟩
    · simp only [if_neg different]
      by_cases late : grant.expiresAt ≤ w.clock 1
      · have later : grant.expiresAt ≤ w.clock (Journal.empty.readings + 1) := late
        simp only [late, later, decide_true, if_true]
        exact ⟨rfl, fun _ => ⟨rfl, rfl⟩⟩
      · have later : ¬grant.expiresAt ≤ w.clock (Journal.empty.readings + 1) := late
        simp only [late, later, decide_false, Bool.false_eq_true, if_false]
        exact foretells_mint [(w.clock 0, .takeGrant code)] rfl Nat.one_pos rfl rfl rfl (tokens _)

theorem foretells_perform (orderly : m.Orderly) (call : Call) :
    (call.plan s w m).Foretells w m (w.alone (s.perform call) (.empty, m)) := by
  cases call with
  | issueFromPassword email password => exact foretells_password
  | issueFromProvider provider accessToken => exact foretells_provider
  | refresh r => exact foretells_refresh orderly
  | authenticate access => exact foretells_authenticate
  | invalidate access => exact foretells_invalidate
  | authorize access client scope => exact foretells_authorize
  | issueFromCode code client => exact foretells_code

end World

end TokenAuthority
