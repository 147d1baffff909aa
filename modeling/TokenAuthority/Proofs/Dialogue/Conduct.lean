import TokenAuthority.Proofs.Dialogue.Refresh

/-!
# How the calls of the service treat a store

In every dialogue of a call all store calls but the last are passed over: they are look-ups, refused writes or
side effects that the call is permitted. The last one may be the write that the call is about, which then gives
the result, or one that fails, and then its failure is the result.
-/

namespace TokenAuthority

/-- What a store call commits to if it is answered so: the token or grant that is stored, or nothing but the end
of a token. -/
def StoreCall.commits? : (call : StoreCall) → call.Answer → Option Yield
  | .addToken token, .ok _ => some (.token token)
  | .chainToken _ token, .ok true => some (.token token)
  | .invalidateToken _, .ok true => some .nothing
  | .addGrant grant, .ok _ => some (.grant grant)
  | _, _ => none

namespace Call

/-- The side effects that are open to a call: logging in by a provider saves the profile, and trading a code
spends it. -/
def Permits (call : Call) : StoreCall → Prop
  | .saveProfile _ _ => ∃ provider accessToken, call = .issueFromProvider provider accessToken
  | .takeGrant code => ∃ client, call = .issueFromCode code client
  | _ => True

/-- Whether a call can yield something without writing to the store. -/
def reads : Call → Bool
  | .refresh _ | .authenticate _ => true
  | _ => false

/-- Whether a call is to start a new chain of tokens. -/
def mints : Call → Bool
  | .issueFromPassword _ _ | .issueFromProvider _ _ | .issueFromCode _ _ => true
  | _ => false

theorem reads_of_mints {call : Call} (mints : call.mints = true) : call.reads = false := by
  cases call with
  | refresh r => cases mints
  | authenticate access => cases mints
  | _ => rfl

end Call

/-- A call goes on after a visit to the store, which has committed it to nothing. -/
structure Visit.Passes (call : Call) (visit : Visit) : Prop where
  permitted : call.Permits visit.call
  idle : visit.call.commits? visit.answer = none
  tolerated : ∀ failure, visit.answer = .error failure → visit.call.kind = .saveProfile

theorem Visit.Passes.of_ok {call : Call} {store : StoreCall} {value : store.Value} (permitted : call.Permits store)
    (idle : store.commits? (.ok value) = none) : Visit.Passes call ⟨store, .ok value⟩ :=
  ⟨permitted, idle, fun _ fails => nomatch fails⟩

namespace Dialogue

/-- How a call treats the store. -/
inductive Conduct (call : Call) : List Visit → Except Failure Yield → Prop where
  | refuses {visits : List Visit} (passed : ∀ visit ∈ visits, visit.Passes call) (failure : Failure) :
      Conduct call visits (.error failure)
  | reads {visits : List Visit} (passed : ∀ visit ∈ visits, visit.Passes call) (reads : call.reads = true)
      (yield : Yield) : Conduct call visits (.ok yield)
  | fails {visits : List Visit} (passed : ∀ visit ∈ visits, visit.Passes call) {visit : Visit} {failure : Failure}
      (permitted : call.Permits visit.call) (fails : visit.answer = .error failure) :
      Conduct call (visits ++ [visit]) (.error failure)
  | commits {visits : List Visit} (passed : ∀ visit ∈ visits, visit.Passes call) {visit : Visit} {yield : Yield}
      (permitted : call.Permits visit.call) (commits : visit.call.commits? visit.answer = some yield) :
      Conduct call (visits ++ [visit]) (.ok yield)

variable {α : Type} {s : Service} {call : Call} {visit : Visit} {visits others : List Visit}
  {result : Except Failure Yield}

theorem Conduct.after (passed : ∀ visit ∈ visits, visit.Passes call) (conduct : Conduct call others result) :
    Conduct call (visits ++ others) result := by
  have both {more : List Visit} (passed' : ∀ visit ∈ more, visit.Passes call) :
      ∀ visit ∈ visits ++ more, visit.Passes call := by
    intro visit mem
    rcases List.mem_append.1 mem with mem | mem
    · exact passed visit mem
    · exact passed' visit mem
  cases conduct with
  | refuses passed' failure => exact .refuses (both passed') failure
  | reads passed' reads yield => exact .reads (both passed') reads yield
  | fails passed' permitted fails =>
    rw [← List.append_assoc]
    exact .fails (both passed') permitted fails
  | commits passed' permitted commits =>
    rw [← List.append_assoc]
    exact .commits (both passed') permitted commits

theorem Conduct.cons (passes : visit.Passes call) (conduct : Conduct call visits result) :
    Conduct call (visit :: visits) result :=
  conduct.after (List.forall_mem_singleton.2 passes)

theorem Conduct.permitted (conduct : Conduct call visits result) : ∀ visit ∈ visits, call.Permits visit.call := by
  have last {more : List Visit} {visit : Visit} (passed : ∀ visit ∈ more, visit.Passes call)
      (permitted : call.Permits visit.call) : ∀ other ∈ more ++ [visit], call.Permits other.call := by
    intro other mem
    rcases List.mem_append.1 mem with mem | mem
    · exact (passed other mem).permitted
    · exact List.mem_singleton.1 mem ▸ permitted
  cases conduct with
  | refuses passed failure => exact fun visit mem => (passed visit mem).permitted
  | reads passed reads yield => exact fun visit mem => (passed visit mem).permitted
  | fails passed permitted fails => exact last passed permitted
  | commits passed permitted commits => exact last passed permitted

/-! ### Actions -/

/-- An action treats the store as the call may, if what it comes to is taken for the result of the call. -/
def Conducts (call : Call) (yield : α → Yield) (x : Action α) : Prop :=
  Always (fun visits result => Conduct call visits (yield <$> result)) x

namespace Conducts

variable {yield : α → Yield} {x : Action α}

theorem throw (failure : Failure) : Conducts call yield (throw failure) :=
  Always.throw (.refuses (List.forall_mem_nil _) failure)

theorem after (passed : ∀ visit ∈ visits, visit.Passes call) (rest : Conducts call yield x) :
    Always (fun others result => Conduct call (visits ++ others) (yield <$> result)) x :=
  rest.mono fun _ _ conduct => conduct.after passed

theorem store_bind {store : StoreCall} {g : store.Value → Action α} (permitted : call.Permits store)
    (idle : ∀ value, store.commits? (.ok value) = none) (rest : ∀ value, Conducts call yield (g value)) :
    Conducts call yield (Action.store store >>= g) := by
  refine Always.store_bind (fun failure => ?_) fun value => ?_
  · exact .fails (List.forall_mem_nil _) permitted rfl
  · exact (rest value).mono fun _ _ conduct => conduct.cons (.of_ok permitted (idle value))

theorem quiet_bind {β : Type} {p : Program Effect.Answer β} {g : β → Action α}
    (quiet : Every (fun visits _ => visits = []) p) (rest : ∀ b, Conducts call yield (g b)) :
    Conducts call yield ((liftM p : Action β) >>= g) := by
  refine Always.lift_bind (quiet.mono fun visits b none => ?_)
  rw [none]
  exact rest b

end Conducts

theorem mint_conduct (token : Token) : Conducts call .token (Service.mint token) := by
  refine Always.store_bind (fun _ => .fails (List.forall_mem_nil _) trivial rfl) fun _ => ?_
  exact Always.log_bind (Always.pure (.commits (List.forall_mem_nil _) trivial rfl))

theorem passwordMatches_quiet {account : Account} {password : String} :
    Every (fun visits _ => visits = []) (Service.passwordMatches account password) := by
  unfold Service.passwordMatches
  split
  · rfl
  · rfl
  · exact fun _ => rfl

theorem newToken_quiet {owner : String} : Every (fun visits _ => visits = []) (s.newToken owner) :=
  fun _ _ _ => rfl

theorem issueFromPassword_conduct {email password : String} :
    Conducts (.issueFromPassword email password) .token (s.issueFromPassword email password) := by
  refine Always.log_bind (Conducts.store_bind trivial (fun _ => rfl) fun found => ?_)
  cases found with
  | none => exact Always.log_bind (Conducts.throw _)
  | some account =>
    dsimp only
    split
    · exact Always.log_bind (Conducts.throw _)
    · refine Conducts.quiet_bind passwordMatches_quiet fun same => ?_
      split
      · exact Always.log_bind (Conducts.throw _)
      · split
        · exact Always.log_bind (Conducts.throw _)
        · exact Conducts.quiet_bind newToken_quiet fun token => mint_conduct token

/-- Saving a profile is all that is asked of the store there, if anything, and however it is answered. -/
theorem refreshProfile_passes {account : Account} {profile : Profile} {provider accessToken : String} :
    Every (fun visits _ => ∀ visit ∈ visits, visit.Passes (.issueFromProvider provider accessToken))
      (Service.refreshProfile account profile) := by
  have passes (answer : Except Failure Unit) :
      Visit.Passes (.issueFromProvider provider accessToken) ⟨.saveProfile account.id profile, answer⟩ :=
    ⟨⟨provider, accessToken, rfl⟩, rfl, fun _ _ => rfl⟩
  unfold Service.refreshProfile
  split
  · exact List.forall_mem_nil _
  · intro _ answer
    cases answer with
    | ok value => exact List.forall_mem_singleton.2 (passes _)
    | error failure => exact fun _ => List.forall_mem_singleton.2 (passes _)

theorem issueFromProvider_conduct {provider accessToken : String} :
    Conducts (.issueFromProvider provider accessToken) .token (s.issueFromProvider provider accessToken) := by
  refine Always.log_bind (Always.orThrow_bind (fun _ => ?_) fun found _ => ?_)
  · exact .refuses (List.forall_mem_nil _) _
  refine Always.bind fun answer => ?_
  cases answer with
  | error failure => exact .refuses (List.forall_mem_nil _) failure
  | ok profile =>
    refine Conducts.store_bind trivial (fun _ => rfl) fun found => ?_
    cases found with
    | none => exact Always.log_bind (Conducts.throw _)
    | some account =>
      refine Always.lift_bind (refreshProfile_passes.mono fun visits _ passed => Conducts.after passed ?_)
      exact Conducts.quiet_bind newToken_quiet fun token => mint_conduct token

/-! ### Refreshing -/

theorem Conduct.settled (reads : call.reads = true) (result : Except Failure Yield) : Conduct call [] result := by
  cases result with
  | ok yield => exact .reads (List.forall_mem_nil _) reads yield
  | error failure => exact .refuses (List.forall_mem_nil _) failure

section

variable {r access : String} {old : Token} {ended : Except Failure Token}

theorem HandsOver.conduct (handsOver : HandsOver old visits ended) :
    Conduct (.refresh r) visits (.token <$> ended) := by
  cases handsOver with
  | fails next => exact .fails (List.forall_mem_nil _) trivial rfl
  | dangling next => exact .cons (.of_ok trivial rfl) (.settled rfl _)
  | found next => exact .cons (.of_ok trivial rfl) (.settled rfl _)

theorem Rereads.conduct (rereads : Rereads access visits ended) :
    Conduct (.refresh r) visits (.token <$> ended) := by
  cases rereads with
  | fails => exact .fails (List.forall_mem_nil _) trivial rfl
  | replaced valid handsOver => exact .cons (.of_ok trivial rfl) handsOver.conduct
  | _ => exact .cons (.of_ok trivial rfl) (.settled rfl _)

theorem Refreshes.conduct (refreshes : Refreshes s r visits ended) :
    Conduct (.refresh r) visits (.token <$> ended) := by
  cases refreshes with
  | fails => exact .fails (List.forall_mem_nil _) trivial rfl
  | replayed plain valid handsOver => exact .cons (.of_ok trivial rfl) handsOver.conduct
  | won ready made => exact .cons (.of_ok trivial rfl) (.commits (List.forall_mem_nil _) trivial rfl)
  | unchained ready made => exact .cons (.of_ok trivial rfl) (.fails (List.forall_mem_nil _) trivial rfl)
  | lost ready made rereads => exact .cons (.of_ok trivial rfl) (.cons (.of_ok trivial rfl) rereads.conduct)
  | _ => exact .cons (.of_ok trivial rfl) (.settled rfl _)

theorem refresh_conduct : Conducts (.refresh r) .token (s.refresh r) :=
  refresh_dialogue.mono fun _ _ refreshes => refreshes.conduct

end

/-! ### The other calls -/

theorem authenticate_bind {yield : α → Yield} {access : String} {g : Token → Action α}
    (permitted : call.Permits (.tokenByAccess access)) (rest : ∀ token, Conducts call yield (g token)) :
    Conducts call yield (Service.authenticate access >>= g) := by
  unfold Service.authenticate
  rw [bind_assoc]
  refine Conducts.store_bind permitted (fun _ => rfl) fun found => ?_
  cases found with
  | none => exact Conducts.throw _
  | some token =>
    dsimp only
    split
    · exact Conducts.throw _
    · split
      · exact Conducts.throw _
      · rw [bind_assoc]
        refine Always.clock_bind fun now => ?_
        split
        · exact Conducts.throw _
        · exact rest token

theorem authenticate_conduct {access : String} :
    Conducts (.authenticate access) .token (Service.authenticate access) := by
  rw [← bind_pure (Service.authenticate access)]
  exact authenticate_bind trivial fun token => Always.pure (.settled rfl _)

theorem invalidate_conduct {access : Option String} :
    Conducts (.invalidate access) (fun _ => .nothing) (Service.invalidate access) := by
  refine Always.orThrow_bind (fun _ => .refuses (List.forall_mem_nil _) _) fun text _ => ?_
  refine Always.store_bind (fun _ => .fails (List.forall_mem_nil _) trivial rfl) fun found => ?_
  cases found with
  | true => exact Always.log_bind (Always.pure (.commits (List.forall_mem_nil _) trivial rfl))
  | false => exact Always.throw (.cons (.of_ok trivial rfl) (.refuses (List.forall_mem_nil _) _))

theorem authorize_conduct {access client : String} {scope : Option String} :
    Conducts (.authorize access client scope) .grant (s.authorize access client scope) := by
  unfold Service.authorize
  split
  · exact Conducts.throw _
  · refine authenticate_bind trivial fun token => Conducts.quiet_bind (fun _ _ => rfl) fun grant => ?_
    refine Always.store_bind (fun _ => .fails (List.forall_mem_nil _) trivial rfl) fun _ => ?_
    exact Always.log_bind (Always.pure (.commits (List.forall_mem_nil _) trivial rfl))

theorem issueFromCode_conduct {code client : String} :
    Conducts (.issueFromCode code client) .token (s.issueFromCode code client) := by
  refine Always.log_bind (Conducts.store_bind ⟨client, rfl⟩ (fun _ => rfl) fun found => ?_)
  cases found with
  | none => exact Conducts.throw _
  | some grant =>
    dsimp only
    split
    · exact Conducts.throw _
    · refine Always.clock_bind fun now => ?_
      split
      · exact Conducts.throw _
      · exact Conducts.quiet_bind (fun _ _ => rfl) fun token => mint_conduct token

theorem perform_conduct (s : Service) (call : Call) : Always (Conduct call) (s.perform call) := by
  cases call with
  | issueFromPassword email password => exact Always.map issueFromPassword_conduct
  | issueFromProvider provider accessToken => exact Always.map issueFromProvider_conduct
  | refresh r => exact Always.map refresh_conduct
  | authenticate access => exact Always.map authenticate_conduct
  | invalidate access => exact Always.map invalidate_conduct
  | authorize access client scope => exact Always.map authorize_conduct
  | issueFromCode code client => exact Always.map issueFromCode_conduct

/-! ### What follows for the caller -/

section

variable {failure : Failure} {yield : Yield}

theorem commits?_error {store : StoreCall} : store.commits? (.error failure) = none := by
  cases store <;> rfl

theorem Conduct.of_error (conduct : Conduct call visits (.error failure)) :
    ∀ visit ∈ visits, visit.call.commits? visit.answer = none := by
  intro visit mem
  cases conduct with
  | refuses passed failure => exact (passed visit mem).idle
  | fails passed permitted fails =>
    rcases List.mem_append.1 mem with mem | mem
    · exact (passed visit mem).idle
    · obtain rfl := List.mem_singleton.1 mem
      rw [fails]
      exact commits?_error

theorem Conduct.of_ok (conduct : Conduct call visits (.ok yield))
    (binding : call.mints = true ∨ ∃ visit ∈ visits, visit.call.commits? visit.answer ≠ none) :
    ∃ passed visit, visits = passed ++ [visit] ∧ (∀ visit ∈ passed, visit.Passes call) ∧
      visit.call.commits? visit.answer = some yield := by
  cases conduct with
  | reads passed reads yield =>
    rcases binding with mints | ⟨visit, mem, commits⟩
    · rw [Call.reads_of_mints mints] at reads
      cases reads
    · exact (commits (passed visit mem).idle).elim
  | commits passed permitted commits => exact ⟨_, _, rfl, passed, commits⟩

theorem Conduct.of_fails (conduct : Conduct call visits result) (mem : visit ∈ visits)
    (fails : visit.answer = .error failure) (required : visit.call.kind ≠ .saveProfile) :
    result = .error failure := by
  have last {more : List Visit} {other : Visit} (passed : ∀ visit ∈ more, visit.Passes call)
      (mem : visit ∈ more ++ [other]) : visit = other := by
    rcases List.mem_append.1 mem with mem | mem
    · exact (required ((passed visit mem).tolerated failure fails)).elim
    · exact List.mem_singleton.1 mem
  cases conduct with
  | refuses passed refusal => exact (required ((passed visit mem).tolerated failure fails)).elim
  | reads passed reads yield => exact (required ((passed visit mem).tolerated failure fails)).elim
  | fails passed permitted fails' =>
    obtain rfl := last passed mem
    exact congrArg Except.error (Except.error.inj (fails'.symm.trans fails))
  | commits passed permitted commits =>
    obtain rfl := last passed mem
    rw [fails, commits?_error] at commits
    cases commits

end

end Dialogue

end TokenAuthority
