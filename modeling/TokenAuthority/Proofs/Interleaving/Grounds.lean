import TokenAuthority.Proofs.Refresh.Attempt

/-!
# What calls have found out before they write

A token is added for an account that its caller has signed in to, or for the owner of a grant that the call
has taken. A grant is stored in the name of the owner of a token that let its caller through. `Grounds` says
so of one store call, and `Redeems` tells every way in which a call that presents an authorization code ends.
-/

namespace TokenAuthority

namespace Interleaving

/-- Before instant `n` call `id` has made no request of a kind. -/
def Spares (run : Interleaving) (id n : Nat) (kind : Effect → Prop) : Prop :=
  ∀ k request answer, k < n → run.Does k id request answer → ¬kind request

/-- The first time that call `id` reads the clock, it does so at instant `n` and finds the time `now`. -/
def Checks (run : Interleaving) (id n : Nat) (now : Instant) : Prop :=
  run.Does n id (.ambient .clock) now ∧ run.Spares id n (· = .ambient .clock)

/-- Before instant `n` call `id` has found out that it is made by the holder of an account. -/
inductive SignsIn (run : Interleaving) (id n : Nat) (owner : String) : Prop where
  | password {email password : String} {k : Nat} {account : Account}
      (starts : run.move id = .start (.issueFromPassword email password)) (before : k < n)
      (finds : run.Does k id (.store (.accountByEmail email)) (.ok (some account)))
      (stored : account ∈ (run.memory k).accounts.values) (own : account.id = owner)
      (verified : account.checkPassword password = .right) (active : account.activationPending = false)
  | provider {provider accessToken : String} {i k : Nat} {found : Provider} {profile : Profile} {account : Account}
      (starts : run.move id = .start (.issueFromProvider provider accessToken))
      (registered : run.service.registry.get? provider = some found) (first : i < k) (before : k < n)
      (answers : run.Does i id (.ambient (.identify found accessToken)) (.ok profile))
      (finds : run.Does k id (.store (.accountByIdentity profile.provider profile.subject)) (.ok (some account)))
      (stored : account ∈ (run.memory k).accounts.values) (own : account.id = owner)
      (linked : account.isLinkedTo profile.provider profile.subject = true)

/-- Before instant `n` call `id` has taken the grant that a token is for. -/
inductive Spends (run : Interleaving) (id n : Nat) (token : Token) : Prop where
  | of {code client : String} {k : Nat} {grant : Grant}
      (starts : run.move id = .start (.issueFromCode code client)) (before : k < n)
      (takes : run.Does k id (.store (.takeGrant code)) (.ok (some grant))) (own : grant.owner = token.owner)
      (marked : token.code = some grant.code)

/-- Before instant `n` call `id` was let through with a token, and has made a grant in the name of its owner. -/
inductive Bears (run : Interleaving) (id n : Nat) (bearer : Token) (grant : Grant) : Prop where
  | of {access : String} {k e : Nat} {now : Instant}
      (starts : run.move id = .start (.authorize access grant.client grant.scope))
      (first : k < e) (before : e < n)
      (reads : run.Does k id (.store (.tokenByAccess access)) (.ok (some bearer)))
      (valid : bearer.valid = true) (last : bearer.next = none)
      (checks : run.Does e id (.ambient .clock) now) (good : bearer.isExpired now = false)
      (issued : grant = .issued grant.client bearer.owner grant.scope run.service.grantLifetime grant.createdAt
        grant.code)
      (held : run.Holds id n grant.code)

/-- What call `id` has found out before it makes a store call. -/
def Grounds (run : Interleaving) (id n : Nat) : StoreCall → Prop
  | .addToken token => token.code = none ∧ run.SignsIn id n token.owner ∨ run.Spends id n token
  | .addGrant grant => ∃ bearer, run.Bears id n bearer grant
  | .takeGrant code => (∃ client, run.move id = .start (.issueFromCode code client)) ∧
      run.Spares id n fun request => ∃ call, request = .store call
  | _ => True

/-- How a call ends that presents a code for a client. -/
inductive Redeems (run : Interleaving) (id : Nat) (code client : String) : Nat → Except Failure Token → Prop where
  | unknown {t m : Nat} (before : t < m) (takes : run.Does t id (.store (.takeGrant code)) (.ok none)) :
      Redeems run id code client m (.error .unknownCode)
  | foreign {t m : Nat} {grant : Grant} (before : t < m)
      (takes : run.Does t id (.store (.takeGrant code)) (.ok (some grant))) (different : grant.client ≠ client) :
      Redeems run id code client m (.error .foreignCode)
  | expired {t e m : Nat} {grant : Grant} {now : Instant} (before : t < m)
      (takes : run.Does t id (.store (.takeGrant code)) (.ok (some grant))) (same : grant.client = client)
      (checks : run.Checks id e now) (late : grant.isExpired now = true) :
      Redeems run id code client m (.error .expiredCode)
  | minted {t e m : Nat} {grant : Grant} {now created : Instant} {access : String} (before : t < m)
      (takes : run.Does t id (.store (.takeGrant code)) (.ok (some grant))) (same : grant.client = client)
      (checks : run.Checks id e now) (good : grant.isExpired now = false) :
      Redeems run id code client m
        (.ok (.delegated grant.owner grant.code run.service.tokenLifetime created access))
  | collided {a m : Nat} {token : Token} {failure : Failure}
      (adds : run.Does a id (.store (.addToken token)) (.error failure)) :
      Redeems run id code client m (.error failure)

variable {run : Interleaving} {id n m : Nat} {kind : Effect → Prop}

/-! ### Requests not made yet -/

theorem Spares.start : run.Spares id (id + 1) kind := by
  intro k request answer early does
  have := does.started.2
  omega

theorem Spares.rests (spares : run.Spares id n kind) (rests : run.Rests id n m) : run.Spares id m kind := by
  intro k request answer early does
  rcases Nat.lt_or_ge k n with before | since
  · exact spares k request answer before does
  · exact absurd ⟨request, answer, does⟩ (rests k since early)

theorem Spares.succ {request : Effect} {answer : request.Answer} (spares : run.Spares id n kind)
    (does : run.Does n id request answer) (other : ¬kind request) : run.Spares id (n + 1) kind := by
  intro k request' answer' early does'
  rcases Nat.lt_or_eq_of_le (Nat.le_of_lt_succ early) with before | rfl
  · exact spares k request' answer' before does'
  · obtain ⟨-, rfl, -⟩ := does.unique does'
    exact other

theorem Bears.held {bearer : Token} {grant : Grant} (bears : run.Bears id n bearer grant) :
    run.Holds id n grant.code := by
  cases bears
  assumption

theorem Bears.issued {bearer : Token} {grant : Grant} (bears : run.Bears id n bearer grant) :
    grant = .issued grant.client bearer.owner grant.scope run.service.grantLifetime grant.createdAt
      grant.code := by
  cases bears
  assumption

/-! ### Calls -/

theorem Does.finds_by_email {email : String} {account : Account}
    (does : run.Does n id (.store (.accountByEmail email)) (.ok (some account))) :
    account ∈ (run.memory n).accounts.values := by
  obtain ⟨now, answered, -⟩ := does.step
  have found : some account = (run.memory n).accountByEmail? email := Except.ok.inj answered
  exact List.mem_of_find?_eq_some found.symm

theorem Does.finds_by_identity {provider subject : String} {account : Account}
    (does : run.Does n id (.store (.accountByIdentity provider subject)) (.ok (some account))) :
    account ∈ (run.memory n).accounts.values ∧ account.isLinkedTo provider subject = true := by
  obtain ⟨now, answered, -⟩ := does.step
  have found : some account = (run.memory n).accountByIdentity? provider subject := Except.ok.inj answered
  have linked := List.find?_some found.symm
  exact ⟨List.mem_of_find?_eq_some found.symm, linked⟩

theorem mint_grounds {token : Token} (grounds : ∀ m, n ≤ m → run.Grounds id m (.addToken token)) :
    run.Leads id (run.Grounds id) (fun _ _ => True) n (Service.mint token) :=
  mint_walk (fun m later _ => grounds m later) (fun _ _ _ _ _ => trivial) fun _ _ _ => trivial

theorem issueFromPassword_grounds {s : Service} {email password : String}
    (starts : run.move id = .start (.issueFromPassword email password)) :
    run.Leads id (run.Grounds id) (fun _ _ => True) n (s.issueFromPassword email password) := by
  refine issueFromPassword_walk (fun _ => trivial) (fun _ _ _ => trivial) ?_
  rintro k m account token before finds verified active ⟨now, access, refresh, rfl⟩ mints
  refine mint_grounds fun a later => .inl ⟨rfl, ?_⟩
  exact .password starts (by omega) finds finds.finds_by_email rfl verified active

theorem issueFromProvider_grounds {provider accessToken : String}
    (starts : run.move id = .start (.issueFromProvider provider accessToken)) :
    run.Leads id (run.Grounds id) (fun _ _ => True) n (run.service.issueFromProvider provider accessToken) := by
  refine issueFromProvider_walk (fun _ _ _ => trivial) (fun _ _ _ => trivial) (fun _ _ _ => trivial)
    (fun _ _ _ _ => trivial) ?_
  rintro i k m found profile account token registered first before answers finds ⟨now, access, refresh, rfl⟩ mints
  obtain ⟨stored, linked⟩ := finds.finds_by_identity
  refine mint_grounds fun a later => .inl ⟨rfl, ?_⟩
  exact .provider starts registered first (by omega) answers finds stored rfl linked

theorem authorize_grounds {access client : String} {scope : Option String}
    (starts : run.move id = .start (.authorize access client scope)) :
    run.Leads id (run.Grounds id) (fun _ _ => True) n (run.service.authorize access client scope) := by
  unfold Service.authorize
  split
  · exact Leads.throw trivial
  · refine Leads.bind (authenticate_leads (fun _ => trivial) ?_ fun _ _ _ => trivial)
    intro k e a bearer now first before reads valid last checks good
    refine Leads.lift_bind (Course.ambient fun b created _ _ _ => Course.ambient fun c code _ _ draws => ?_)
    refine Leads.store_bind fun d answer later rests _ => ⟨⟨bearer, ?_⟩, ?_⟩
    · exact .of starts first (by omega) reads valid last checks good rfl (draws.holds.rests later rests)
    · cases answer with
      | ok value => exact Leads.log_bind fun _ _ => Leads.pure trivial
      | error failure => trivial

theorem issueFromCode_grounds {code client : String}
    (starts : run.move id = .start (.issueFromCode code client)) :
    run.Leads id (run.Grounds id) (run.Redeems id code client) (id + 1)
      (run.service.issueFromCode code client) := by
  refine Leads.log_then fun a later rests logs => ?_
  have unvisited : run.Spares id (a + 1) fun request => ∃ call, request = .store call :=
    (Spares.start.rests rests).succ logs fun ⟨_, same⟩ => Effect.noConfusion same
  have unread : run.Spares id (a + 1) (· = .ambient .clock) :=
    (Spares.start.rests rests).succ logs fun same => Ambient.noConfusion (Effect.ambient.inj same)
  refine Leads.store_bind fun t answer later' rests' takes => ⟨⟨⟨client, starts⟩, unvisited.rests rests'⟩, ?_⟩
  replace unread := (unread.rests rests').succ takes fun same => Effect.noConfusion same
  cases answer with
  | error failure =>
    obtain ⟨now, answered, -⟩ := takes.step
    simp only [Memory.step] at answered
    split at answered <;> cases answered
  | ok found =>
    cases found with
    | none => exact Leads.throw (.unknown (Nat.lt_succ_self t) takes)
    | some grant =>
      dsimp only
      split
      · rename_i different
        exact Leads.throw (.foreign (Nat.lt_succ_self t) takes different)
      · rename_i same
        replace same := Decidable.not_not.1 same
        refine Leads.clock_bind fun e now later'' rests'' reads => ?_
        have checks : run.Checks id e now := ⟨reads, unread.rests rests''⟩
        have after : t < e := by omega
        split
        · rename_i late
          exact Leads.throw (.expired (by omega) takes same checks late)
        · rename_i good
          replace good := eq_false_of_ne_true good
          refine Leads.lift_bind (newDelegatedToken_course fun m created access beyond mints => ?_)
          refine mint_walk (fun b _ _ => .inr (.of starts (by omega) takes rfl rfl)) ?_ fun _ _ => .collided
          exact fun b d _ _ _ => .minted (by omega) takes same checks good

theorem refresh_grounds {s : Service} {r : String} :
    run.Leads id (run.Grounds id) (fun _ _ => True) n (s.refresh r) := by
  refine Leads.log_bind fun a _ => Leads.read_bind (fun _ _ => rfl) (fun _ => trivial) fun f _ _ => ?_
  split
  · exact Leads.throw trivial
  · split
    · exact Leads.throw trivial
    · split
      · exact Leads.throw trivial
      · split
        · rename_i linked
          exact Leads.log_bind fun b later =>
            (successorOf_leads (fun _ _ => trivial) linked (Nat.le_refl b)).mono fun _ _ _ => trivial
        · refine Leads.lift_bind (newToken_course fun _ _ _ _ _ _ => ?_)
          refine Leads.store_bind fun c answer _ _ _ => ⟨trivial, ?_⟩
          rcases answer with failure | chained
          · trivial
          · cases chained with
            | true => exact Leads.log_bind fun _ _ => Leads.pure trivial
            | false => exact (settleLostRefresh_leads fun _ _ => trivial).mono fun _ _ _ => trivial

theorem invalidate_grounds {access : Option String} :
    run.Leads id (run.Grounds id) (fun _ _ => True) n (Service.invalidate access) := by
  refine Leads.orThrow_bind (fun _ => trivial) fun text _ =>
    Leads.read_bind (fun _ _ => rfl) (fun _ => trivial) fun m _ _ => ?_
  split
  · exact Course.ambient fun _ _ _ _ _ => trivial
  · exact Leads.throw trivial

/-- How a call ends, if it presents an authorization code. -/
def Concludes (run : Interleaving) (id : Nat) : Call → Nat → Except Failure Yield → Prop
  | .issueFromCode code client, n, result => ∃ token, run.Redeems id code client n token ∧ result = .token <$> token
  | _, _, _ => True

theorem perform_grounds {call : Call} (starts : run.move id = .start call) :
    run.Leads id (run.Grounds id) (run.Concludes id call) (id + 1) (run.service.perform call) := by
  cases call with
  | issueFromPassword email password => exact Leads.map (issueFromPassword_grounds starts)
  | issueFromProvider provider accessToken => exact Leads.map (issueFromProvider_grounds starts)
  | refresh r => exact Leads.map refresh_grounds
  | authenticate access =>
    exact Leads.map (authenticate_leads (fun _ => trivial) (fun _ _ _ _ _ _ _ _ _ _ _ _ => trivial)
      fun _ _ _ => trivial)
  | invalidate access => exact Leads.map invalidate_grounds
  | authorize access client scope => exact Leads.map (authorize_grounds starts)
  | issueFromCode code client =>
    exact Leads.map ((issueFromCode_grounds starts).mono fun _ token redeems => ⟨token, redeems, rfl⟩)

theorem Does.grounds {call : StoreCall} {answer : call.Answer} (does : run.Does n id (.store call) answer) :
    run.Grounds id n call := by
  obtain ⟨started, starts⟩ := does.started.1
  exact does.meets starts (perform_grounds starts)

theorem Returned.redeems {code client : String} {result : Except Failure Yield}
    (returned : run.Returned n id result) (starts : run.move id = .start (.issueFromCode code client)) :
    ∃ m token, m ≤ n ∧ run.Redeems id code client m token ∧ result = .token <$> token := by
  obtain ⟨m, -, early, -, token, redeems, same⟩ := returned.meets starts (perform_grounds starts)
  exact ⟨m, token, early, redeems, same⟩

end Interleaving

end TokenAuthority
