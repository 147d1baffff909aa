import TokenAuthority.Proofs.Secrecy.Renaming

/-!
# What logs and failures tell of secrets

`Shadows` relates two programs of which the second one does what the first one does, with renamed secrets: it writes
the same lines into the log and makes the same requests, those of the store with renamed secrets, and after renamed
answers it goes on in the same way. Each call of the service shadows itself with renamed secrets, so logs and failures
are the same whatever the secrets are, but for their first eight characters.
-/

namespace TokenAuthority

variable {α β γ δ : Type} (ρ : Renaming)

/-- A string that is drawn is a secret. -/
def Ambient.renamedAnswer : (request : Ambient) → request.Answer → request.Answer
  | freshText, text => ρ text
  | clock, now => now
  | log _, written => written
  | identify _ _, answer => answer

def World.renamed (w : World) : World := { w with text := fun n => ρ (w.text n) }

/-- The second program asks for what the first one asks for, and comes to its value as `g` changes it. -/
inductive Shadows (g : α → β) : Program Effect.Answer α → Program Effect.Answer β → Prop where
  | done (value : α) : Shadows g (.done value) (.done (g value))
  | ambient {request : Ambient} {next : request.Answer → Program Effect.Answer α}
      {next' : request.Answer → Program Effect.Answer β}
      (rest : ∀ answer, Shadows g (next answer) (next' (request.renamedAnswer ρ answer))) :
      Shadows g (.ask (.ambient request) next) (.ask (.ambient request) next')
  | store (call : StoreCall) {next : call.Answer → Program Effect.Answer α}
      {next' : (call.renamed ρ).Answer → Program Effect.Answer β}
      (rest : ∀ answer, Shadows g (next answer) (next' (call.renamedAnswer ρ answer))) :
      Shadows g (.ask (.store call) next) (.ask (.store (call.renamed ρ)) next')

/-- The same of actions. Their failures are equal. -/
def Echoes (g : α → β) (x : Action α) (y : Action β) : Prop := Shadows ρ (Except.map g) x.run y.run

variable {ρ}

/-! ### Runs -/

variable {i j : StoreCall.Kind → Interference} (w : World) (journal : Journal) (m : Memory)

theorem World.answer_ambient_renamed (request : Ambient) :
    ((w.renamed ρ).answer j (.ambient request)).run (journal, m.renamed ρ) =
      (request.renamedAnswer ρ ((w.answer i (.ambient request)).run (journal, m)).1,
        ((w.answer i (.ambient request)).run (journal, m)).2.1,
        ((w.answer i (.ambient request)).run (journal, m)).2.2.renamed ρ) := by
  cases request <;> rfl

theorem World.answer_store_renamed (alike : ∀ kind, (i kind).Matches ρ (j kind)) (call : StoreCall) :
    ((w.renamed ρ).answer j (.store (call.renamed ρ))).run (journal, m.renamed ρ) =
      (call.renamedAnswer ρ ((w.answer i (.store call)).run (journal, m)).1,
        ((w.answer i (.store call)).run (journal, m)).2.1,
        ((w.answer i (.store call)).run (journal, m)).2.2.renamed ρ) := by
  have matched : (i call.kind).Matches ρ (j (call.renamed ρ).kind) := by
    rw [StoreCall.kind_renamed]
    exact alike call.kind
  have stepped := m.stepUnder_renamed matched (w.clock journal.readings) call
  exact congrArg (fun after => (after.1, { journal with readings := journal.readings + 1 }, after.2)) stepped

/-- Over stores that differ in their secrets the two programs come to the same journal and to stores that differ in
their secrets. -/
theorem Shadows.run {g : α → β} {p : Program Effect.Answer α} {q : Program Effect.Answer β} (shadows : Shadows ρ g p q)
    (alike : ∀ kind, (i kind).Matches ρ (j kind)) :
    (q.run ((w.renamed ρ).answer j)).run (journal, m.renamed ρ) =
      (g ((p.run (w.answer i)).run (journal, m)).1, ((p.run (w.answer i)).run (journal, m)).2.1,
        ((p.run (w.answer i)).run (journal, m)).2.2.renamed ρ) := by
  induction shadows generalizing journal m with
  | done value => rfl
  | @ambient request next next' rest ih =>
    have answered : ((w.renamed ρ).answer j (.ambient request)).run (journal, m.renamed ρ) = _ :=
      World.answer_ambient_renamed (i := i) w journal m request
    have goes (after : request.Answer × Journal × Memory) := ih after.1 after.2.1 after.2.2
    exact (congrArg (fun after => ((next' after.1).run ((w.renamed ρ).answer j)).run after.2) answered).trans (goes _)
  | @store call next next' rest ih =>
    have answered := World.answer_store_renamed w journal m alike call
    have goes (after : call.Answer × Journal × Memory) := ih after.1 after.2.1 after.2.2
    exact (congrArg (fun after => ((next' after.1).run ((w.renamed ρ).answer j)).run after.2) answered).trans (goes _)

/-! ### Putting programs together -/

theorem Shadows.bind {g : α → β} {h : γ → δ} {p : Program Effect.Answer α} {q : Program Effect.Answer β}
    {f : α → Program Effect.Answer γ} {f' : β → Program Effect.Answer δ} (first : Shadows ρ g p q)
    (rest : ∀ a, Shadows ρ h (f a) (f' (g a))) : Shadows ρ h (p.bind f) (q.bind f') := by
  induction first with
  | done value => exact rest value
  | ambient _ ih => exact .ambient ih
  | store call _ ih => exact .store call ih

theorem Shadows.ok {g : α → β} (a : α) : Shadows ρ (Except.map g : Except Failure α → Except Failure β)
    (.done (.ok a)) (.done (.ok (g a))) := .done (Except.ok a)

theorem Shadows.error {g : α → β} (failure : Failure) :
    Shadows ρ (Except.map g : Except Failure α → Except Failure β) (.done (.error failure)) (.done (.error failure)) :=
  .done (Except.error failure)

namespace Echoes

variable {g : α → β} {h : γ → δ} {x : Action α} {y : Action β} {f : α → Action γ} {f' : β → Action δ}

theorem pure {b : β} {a : α} (same : b = g a) : Echoes ρ g (pure a) (pure b) := by
  subst same
  exact .ok a

theorem throw (failure : Failure) : Echoes ρ g (throw failure) (throw failure) := .error failure

theorem bind (first : Echoes ρ g x y) (rest : ∀ a, Echoes ρ h (f a) (f' (g a))) : Echoes ρ h (x >>= f) (y >>= f') := by
  refine Shadows.bind (p := x.run) (q := y.run) first fun result => ?_
  cases result with
  | ok a => exact rest a
  | error failure => exact .error failure

theorem map {k : α → γ} {k' : β → δ} (echoes : Echoes ρ g x y) (same : ∀ a, k' (g a) = h (k a)) :
    Echoes ρ h (k <$> x) (k' <$> y) := by
  refine Shadows.bind (p := x.run) (q := y.run) echoes fun result => ?_
  cases result with
  | ok a =>
    show Shadows ρ (Except.map h) (.done (.ok (k a))) (.done (.ok (k' (g a))))
    rw [same]
    exact .ok (k a)
  | error failure => exact .error failure

theorem lift {p : Program Effect.Answer α} {q : Program Effect.Answer β} (shadows : Shadows ρ g p q) :
    Echoes ρ g (liftM p) (liftM q) :=
  shadows.bind fun a => .ok a

theorem log_bind {level : Level} {message message' : String} {f : Unit → Action γ} {f' : Unit → Action δ}
    (same : message' = message) (rest : Echoes ρ h (f ()) (f' ())) :
    Echoes ρ h ((liftM (Action.log level message) : Action Unit) >>= f)
      ((liftM (Action.log level message') : Action Unit) >>= f') := by
  subst same
  exact bind (g := id) (lift (.ambient fun written => .done written)) fun _ => rest

theorem clock_bind {f : Instant → Action γ} {f' : Instant → Action δ} (rest : ∀ now, Echoes ρ h (f now) (f' now)) :
    Echoes ρ h ((liftM Action.clock : Action Instant) >>= f) ((liftM Action.clock : Action Instant) >>= f') :=
  bind (g := id) (lift (.ambient fun now => .done now)) rest

theorem store_bind (call : StoreCall) {f : call.Value → Action γ} {f' : (call.renamed ρ).Value → Action δ}
    (rest : ∀ value, Echoes ρ h (f value) (f' (call.renamedValue ρ value))) :
    Echoes ρ h (Action.store call >>= f) (Action.store (call.renamed ρ) >>= f') :=
  bind (.store call fun answer => .done answer) rest

theorem ite {c c' : Prop} [Decidable c] [Decidable c'] {x' : Action α} {y' : Action β} (same : c' ↔ c)
    (yes : Echoes ρ g x y) (no : Echoes ρ g x' y') : Echoes ρ g (if c then x else x') (if c' then y else y') := by
  by_cases holds : c
  · rwa [if_pos holds, if_pos (same.2 holds)]
  · rwa [if_neg holds, if_neg (mt same.1 holds)]

end Echoes

/-! ### Parts of calls -/

section

variable {s : Service} {token old : Token} {owner : String}

theorem Token.wasRefreshed_renamed : (token.renamed ρ).wasRefreshed = true ↔ token.wasRefreshed = true :=
  Bool.eq_iff_iff.1 Option.isSome_map

theorem Token.isOAuth_renamed : (token.renamed ρ).isOAuth = true ↔ token.isOAuth = true :=
  Bool.eq_iff_iff.1 Option.isSome_map

@[simp] theorem Token.fingerprint_renamed : fingerprint (token.renamed ρ).access = fingerprint token.access :=
  TokenAuthority.fingerprint_renamed ρ token.access

theorem newToken_shadows : Shadows ρ (Token.renamed ρ) (s.newToken owner) (s.newToken owner) :=
  .ambient fun _ => .ambient fun _ => .ambient fun _ => .done _

theorem newDelegatedToken_shadows {grant : Grant} :
    Shadows ρ (Token.renamed ρ) (s.newDelegatedToken grant) (s.newDelegatedToken (grant.renamed ρ)) :=
  .ambient fun _ => .ambient fun _ => .done _

theorem newGrant_shadows {client : String} {scope : Option String} :
    Shadows ρ (Grant.renamed ρ) (s.newGrant client owner scope) (s.newGrant client owner scope) :=
  .ambient fun _ => .ambient fun _ => .done _

theorem orThrow_echoes {g : α → β} {failure : Failure} {a? : Option α} {b? : Option β} (same : b? = a?.map g) :
    Echoes ρ g (Service.orThrow failure a?) (Service.orThrow failure b?) := by
  subst same
  cases a? with
  | none => exact Echoes.throw failure
  | some a => exact Echoes.pure rfl

theorem identify_echoes {provider : Provider} {accessToken : String} :
    Echoes ρ id (Action.identify provider accessToken) (Action.identify provider accessToken) := by
  refine .ambient fun answer => ?_
  cases answer <;> exact .done _

theorem mint_echoes : Echoes ρ (Token.renamed ρ) (Service.mint token) (Service.mint (token.renamed ρ)) := by
  refine Echoes.store_bind (.addToken token) fun _ => Echoes.log_bind ?_ (Echoes.pure rfl)
  simp only [Token.renamed, fingerprint_renamed]

theorem newToken_mint_echoes : Echoes ρ (Token.renamed ρ) (liftM (s.newToken owner) >>= Service.mint)
    (liftM (s.newToken owner) >>= Service.mint) :=
  Echoes.bind (Echoes.lift newToken_shadows) fun _ => mint_echoes

theorem passwordMatches_shadows {account : Account} {password : String} :
    Shadows ρ id (Service.passwordMatches account password) (Service.passwordMatches account password) := by
  unfold Service.passwordMatches
  split
  · exact .done true
  · exact .done false
  · exact .ambient fun _ => .done false

theorem refreshProfile_shadows {account : Account} {profile : Profile} :
    Shadows ρ id (Service.refreshProfile account profile) (Service.refreshProfile account profile) := by
  unfold Service.refreshProfile
  split
  · exact .done ()
  · refine .ambient fun _ => .store (.saveProfile account.id profile) fun answer => ?_
    cases answer with
    | ok saved => exact .done ()
    | error failure => exact .ambient fun _ => .done ()

/-! ### Calls -/

theorem issueFromPassword_echoes {email password : String} :
    Echoes ρ (Token.renamed ρ) (s.issueFromPassword email password) (s.issueFromPassword email password) := by
  refine Echoes.log_bind rfl (Echoes.store_bind (.accountByEmail email) fun found => ?_)
  cases found with
  | none => exact Echoes.log_bind rfl (Echoes.throw _)
  | some account =>
    refine Echoes.ite .rfl (Echoes.log_bind rfl (Echoes.throw _)) ?_
    refine Echoes.bind (Echoes.lift passwordMatches_shadows) fun right => ?_
    exact Echoes.ite .rfl (Echoes.log_bind rfl (Echoes.throw _))
      (Echoes.ite .rfl (Echoes.log_bind rfl (Echoes.throw _)) newToken_mint_echoes)

theorem issueFromProvider_echoes {provider accessToken : String} :
    Echoes ρ (Token.renamed ρ) (s.issueFromProvider provider accessToken)
      (s.issueFromProvider provider accessToken) := by
  have registered : Echoes ρ id (Service.orThrow (.unknownProvider provider) (s.registry.get? provider))
      (Service.orThrow (.unknownProvider provider) (s.registry.get? provider)) :=
    orThrow_echoes Option.map_id_apply.symm
  refine Echoes.log_bind rfl (Echoes.bind registered fun provider => Echoes.bind identify_echoes fun profile => ?_)
  refine Echoes.store_bind (.accountByIdentity profile.provider profile.subject) fun found => ?_
  cases found with
  | none => exact Echoes.log_bind rfl (Echoes.throw _)
  | some account =>
    exact Echoes.bind (Echoes.lift refreshProfile_shadows) fun _ => newToken_mint_echoes

theorem successorOf_echoes :
    Echoes ρ (Token.renamed ρ) (Service.successorOf old) (Service.successorOf (old.renamed ρ)) := by
  unfold Service.successorOf
  simp only [Token.fingerprint_renamed]
  refine Echoes.bind (orThrow_echoes rfl) fun access => ?_
  rw [TokenAuthority.fingerprint_renamed]
  refine Echoes.store_bind (.tokenByAccess access) fun found => ?_
  cases found with
  | none => exact Echoes.log_bind rfl (Echoes.throw _)
  | some next =>
    exact Echoes.ite Token.wasRefreshed_renamed (Echoes.throw _) (Echoes.ite .rfl (Echoes.throw _) (Echoes.pure rfl))

theorem settleLostRefresh_echoes :
    Echoes ρ (Token.renamed ρ) (Service.settleLostRefresh old) (Service.settleLostRefresh (old.renamed ρ)) := by
  unfold Service.settleLostRefresh
  simp only [Token.fingerprint_renamed]
  refine Echoes.log_bind rfl (Echoes.store_bind (.tokenByAccess old.access) fun found => ?_)
  cases found with
  | none => exact Echoes.throw _
  | some current =>
    refine Echoes.ite .rfl (Echoes.throw _) (Echoes.ite Token.wasRefreshed_renamed successorOf_echoes ?_)
    exact Echoes.log_bind rfl (Echoes.throw _)

theorem refresh_echoes {refreshToken : String} :
    Echoes ρ (Token.renamed ρ) (s.refresh refreshToken) (s.refresh (ρ refreshToken)) := by
  refine Echoes.log_bind rfl (Echoes.store_bind (.tokenByRefresh refreshToken) fun found => ?_)
  cases found with
  | none => exact Echoes.throw _
  | some old =>
    refine Echoes.ite Token.isOAuth_renamed (Echoes.throw _) ?_
    refine Echoes.ite .rfl (Echoes.throw _) (Echoes.ite Token.wasRefreshed_renamed ?_ ?_)
    · exact Echoes.log_bind (by rw [Token.fingerprint_renamed]) successorOf_echoes
    · refine Echoes.bind (Echoes.lift newToken_shadows) fun next => ?_
      refine Echoes.store_bind (.chainToken old.access next) fun (chained : Bool) => ?_
      show Echoes ρ _ (ite (chained = true) _ _) (ite (chained = true) _ _)
      refine Echoes.ite .rfl (Echoes.log_bind ?_ (Echoes.pure rfl)) settleLostRefresh_echoes
      simp only [Token.fingerprint_renamed]
      rfl

theorem authenticate_echoes {access : String} :
    Echoes ρ (Token.renamed ρ) (Service.authenticate access) (Service.authenticate (ρ access)) := by
  refine Echoes.store_bind (.tokenByAccess access) fun found => ?_
  cases found with
  | none => exact Echoes.throw _
  | some token =>
    refine Echoes.ite .rfl (Echoes.throw _) (Echoes.ite Token.wasRefreshed_renamed (Echoes.throw _) ?_)
    exact Echoes.clock_bind fun now => Echoes.ite .rfl (Echoes.throw _) (Echoes.pure rfl)

theorem invalidate_echoes {access : Option String} :
    Echoes ρ id (Service.invalidate access) (Service.invalidate (access.map ρ)) := by
  refine Echoes.bind (orThrow_echoes rfl) fun access => ?_
  refine Echoes.store_bind (.invalidateToken access) fun (known : Bool) => ?_
  show Echoes ρ _ (ite (known = true) _ _) (ite (known = true) _ _)
  refine Echoes.ite .rfl ?_ (Echoes.throw _)
  rw [TokenAuthority.fingerprint_renamed]
  exact Echoes.lift (.ambient fun written => .done written)

theorem authorize_echoes {access client : String} {scope : Option String} :
    Echoes ρ (Grant.renamed ρ) (s.authorize access client scope) (s.authorize (ρ access) client scope) := by
  refine Echoes.ite .rfl (Echoes.throw _) (Echoes.bind authenticate_echoes fun token => ?_)
  refine Echoes.bind (Echoes.lift newGrant_shadows) fun grant => ?_
  exact Echoes.store_bind (.addGrant grant) fun _ => Echoes.log_bind rfl (Echoes.pure rfl)

theorem issueFromCode_echoes {code client : String} :
    Echoes ρ (Token.renamed ρ) (s.issueFromCode code client) (s.issueFromCode (ρ code) client) := by
  refine Echoes.log_bind rfl (Echoes.store_bind (.takeGrant code) fun taken => ?_)
  cases taken with
  | none => exact Echoes.throw _
  | some grant =>
    refine Echoes.ite .rfl (Echoes.throw _) (Echoes.clock_bind fun now => Echoes.ite .rfl (Echoes.throw _) ?_)
    exact Echoes.bind (Echoes.lift newDelegatedToken_shadows) fun token => mint_echoes

/-- Every call shadows itself with renamed secrets. -/
theorem perform_echoes (call : Call) :
    Echoes ρ (Yield.renamed ρ) (s.perform call) (s.perform (call.renamed ρ)) := by
  cases call with
  | issueFromPassword email password => exact issueFromPassword_echoes.map fun _ => rfl
  | issueFromProvider provider accessToken => exact issueFromProvider_echoes.map fun _ => rfl
  | refresh refreshToken => exact refresh_echoes.map fun _ => rfl
  | authenticate access => exact authenticate_echoes.map fun _ => rfl
  | invalidate access => exact invalidate_echoes.map fun _ => rfl
  | authorize access client scope => exact authorize_echoes.map fun _ => rfl
  | issueFromCode code client => exact issueFromCode_echoes.map fun _ => rfl

end

/-- A call over a store with renamed secrets, which presents and draws renamed ones, comes to the renamed result and
leaves the renamed store. All that it logs and all that it asks of other servers is what it would have logged and asked
without the renaming, and so is the failure that it returns. -/
theorem secrets_stay_hidden (s : Service) (w : World) {i j : StoreCall.Kind → Interference}
    (alike : ∀ kind, (i kind).Matches ρ (j kind)) (call : Call) (journal : Journal) (m : Memory) :
    let plain := ((s.perform call).run.run (w.answer i)).run (journal, m)
    let hidden := ((s.perform (call.renamed ρ)).run.run ((w.renamed ρ).answer j)).run (journal, m.renamed ρ)
    hidden.1 = plain.1.map (Yield.renamed ρ) ∧ hidden.2.2 = plain.2.2.renamed ρ ∧ hidden.2.1 = plain.2.1 ∧
      ∀ failure, hidden.1 = .error failure ↔ plain.1 = .error failure := by
  intro plain hidden
  have runs : hidden = (plain.1.map (Yield.renamed ρ), plain.2.1, plain.2.2.renamed ρ) :=
    (perform_echoes call).run w journal m alike
  have result : hidden.1 = plain.1.map (Yield.renamed ρ) := by rw [runs]
  refine ⟨result, by rw [runs], by rw [runs], fun failure => ?_⟩
  rw [result]
  cases plain.1 with
  | ok yielded => exact ⟨nofun, nofun⟩
  | error failure => exact .rfl

/-! ### A token that is invalidated during a refresh -/

namespace Farewell

/-- Secrets that differ in the last character only. -/
def padded (last : Char) : String := String.ofList (List.replicate 63 'a' ++ [last])

theorem padded_secret {last : Char} (narrow : last.isAlphanum = true) : IsSecret (padded last) := by
  rw [IsSecret, padded, String.toList_ofList]
  refine ⟨by rw [List.length_append, List.length_replicate, List.length_singleton], fun c mem => ?_⟩
  rcases List.mem_append.1 mem with mem | mem
  · rw [List.eq_of_mem_replicate mem]
    rfl
  · rwa [List.mem_singleton.1 mem]

theorem padded_front {first second : Char} : (padded first).toList.take 8 = (padded second).toList.take 8 := by
  simp only [padded, String.toList_ofList]
  rfl

def exchange : Renaming := .exchange (padded '0') (padded '1') (padded_secret rfl) (padded_secret rfl) padded_front

def memory : Memory :=
  let token : Token := .issued "u" 3600 (.ofSeconds 0) (padded '0') (padded '2')
  (Memory.empty.step (.ofSeconds 0) (.addToken token)).2

def world : World := ⟨fun _ => .ofSeconds 0, fun n => if n = 0 then padded '3' else padded '4', fun _ => .failed⟩

/-- Before the successor is stored, another client logs out with `access`. -/
def interference (access : String) : StoreCall.Kind → Interference
  | .chainToken => .preceded (.ofSeconds 0) (.invalidateToken access)
  | _ => .none

theorem interference_matches (kind : StoreCall.Kind) :
    (interference (padded '0') kind).Matches exchange (interference (exchange (padded '0')) kind) := by
  cases kind with
  | chainToken => exact .preceded (.ofSeconds 0) (.invalidateToken (padded '0'))
  | _ => exact .none

def service : Service := ⟨.empty, 3600, 600⟩

/-- The access string that the log shows the front of is the other one in the renamed store. -/
theorem farewell_hidden :
    (∀ kind, (interference (padded '0') kind).Matches exchange (interference (exchange (padded '0')) kind)) ∧
    let hidden := ((service.perform (.refresh (padded '2'))).run.run
      ((world.renamed exchange).answer (interference (padded '1')))).run (.empty, memory.renamed exchange)
    hidden.1 = .error .alreadyInvalidated ∧ hidden.2.2.tokens.contains (padded '1') = true ∧
      hidden.2.1.events = [⟨.warn, "Concurrent update of token aaaaaaaa while refreshing it"⟩,
        ⟨.info, "Creating an authentication token from a refresh token"⟩] := by
  have same : exchange (padded '0') = padded '1' := by decide +kernel
  have kept : exchange (padded '2') = padded '2' := by decide +kernel
  have hides := secrets_stay_hidden service world interference_matches (.refresh (padded '2')) .empty memory
  simp only [Call.renamed, kept, same] at hides
  obtain ⟨-, store, journal, failure⟩ := hides
  refine ⟨interference_matches, (failure _).2 (by decide +kernel), ?_, ?_⟩
  · rw [store]
    decide +kernel
  · rw [journal]
    decide +kernel

end Farewell

end TokenAuthority
