import TokenAuthority.Proofs.Dialogue.Basic

/-!
# What tokens and grants are dated

A call dates what it issues by the clock: the start of each token and of each grant that goes to the store is an instant
that the clock has shown, whichever these are, and its end is one lifetime later.
-/

namespace TokenAuthority

/-- A reading of the clock is one of the instants seen. -/
def Ambient.Reads (seen : Instant → Prop) : (request : Ambient) → request.Answer → Prop
  | .clock, now => seen now
  | _, _ => True

/-- A lifetime that starts at an instant seen. -/
structure Dated (seen : Instant → Prop) (lifetime : Int) (created expires : Instant) : Prop where
  starts : seen created
  ends : expires = created.addSeconds lifetime

/-- What is stored anew is dated by the clock and the lifetimes of the service. -/
def StoreCall.Dates (seen : Instant → Prop) (s : Service) : StoreCall → Prop
  | .addToken token => Dated seen s.tokenLifetime token.createdAt token.expiresAt
  | .chainToken _ token => Dated seen s.tokenLifetime token.createdAt token.expiresAt
  | .addGrant grant => Dated seen s.grantLifetime grant.createdAt grant.expiresAt
  | _ => True

namespace Dialogue

variable {α β : Type} {seen : Instant → Prop} {s : Service}

/-- If the clock shows only the instants seen, a program dates what it stores by them. -/
def Dates (seen : Instant → Prop) (s : Service) : Program Effect.Answer α → Prop
  | .done _ => True
  | .ask (.ambient request) next => ∀ answer, request.Reads seen answer → Dates seen s (next answer)
  | .ask (.store call) next => call.Dates seen s ∧ ∀ answer, Dates seen s (next answer)

theorem Dates.along {p : Program Effect.Answer α} {heard : List Heard} {visits : List Visit} {value : α}
    (dates : Dates seen s p) (dialogue : Dialogue p heard visits value)
    (readings : ∀ now, ⟨.clock, now⟩ ∈ heard → seen now) : ∀ visit ∈ visits, visit.call.Dates seen s := by
  induction dialogue with
  | done value => exact List.forall_mem_nil _
  | logs rest ih => exact ih (dates () trivial) readings
  | @hears request next heard visits value audible answer rest ih =>
    have reads : request.Reads seen answer := by
      cases request with
      | clock => exact readings answer List.mem_cons_self
      | _ => trivial
    exact ih (dates answer reads) fun now mem => readings now (List.mem_cons_of_mem _ mem)
  | asks answer rest ih => exact List.forall_mem_cons.2 ⟨dates.1, ih (dates.2 answer) readings⟩

theorem Dates.bind_program {p : Program Effect.Answer α} {f : α → Program Effect.Answer β} (first : Dates seen s p)
    (rest : ∀ a, Dates seen s (f a)) : Dates seen s (p.bind f) := by
  induction p with
  | done a => exact rest a
  | ask request next ih =>
    cases request with
    | ambient request => exact fun answer reads => ih answer (first answer reads)
    | store call => exact ⟨first.1, fun answer => ih answer (first.2 answer)⟩

/-! ### Actions -/

/-- An action dates what it stores. -/
def Stamps (seen : Instant → Prop) (s : Service) (x : Action α) : Prop := Dates seen s x.run

namespace Stamps

variable {x y : Action α} {f : α → Action β}

theorem pure (a : α) : Stamps seen s (pure a : Action α) := trivial

theorem throw (failure : Failure) : Stamps seen s (throw failure : Action α) := trivial

theorem bind (first : Stamps seen s x) (rest : ∀ a, Stamps seen s (f a)) : Stamps seen s (x >>= f) := by
  refine Dates.bind_program (p := x.run) first fun result => ?_
  cases result with
  | ok a => exact rest a
  | error failure => exact trivial

theorem map {g : α → β} (first : Stamps seen s x) : Stamps seen s (g <$> x) := by
  rw [map_eq_pure_bind]
  exact first.bind fun a => pure (g a)

theorem ite {c : Prop} [Decidable c] (yes : Stamps seen s x) (no : Stamps seen s y) :
    Stamps seen s (if c then x else y) := by
  split
  · exact yes
  · exact no

theorem lift {p : Program Effect.Answer α} (dates : Dates seen s p) : Stamps seen s (liftM p) :=
  Dates.bind_program (p := p) dates fun _ => trivial

theorem log {level : Level} {message : String} : Stamps seen s (liftM (Action.log level message)) :=
  lift fun _ _ => trivial

theorem clock_bind {g : Instant → Action β} (rest : ∀ now, seen now → Stamps seen s (g now)) :
    Stamps seen s ((liftM Action.clock : Action Instant) >>= g) := rest

theorem store {call : StoreCall} (dates : call.Dates seen s) : Stamps seen s (Action.store call) :=
  ⟨dates, fun _ => trivial⟩

theorem orThrow {failure : Failure} {a? : Option α} : Stamps seen s (Service.orThrow failure a?) := by
  cases a? <;> trivial

theorem identify {provider : Provider} {accessToken : String} :
    Stamps seen s (Action.identify provider accessToken) := fun _ _ => trivial

variable {account : Account} {profile : Profile} {owner : String} {old : Token}

theorem newToken_bind {g : Token → Action β} (rest : ∀ now access refresh, seen now →
      Stamps seen s (g (.issued owner s.tokenLifetime now access refresh))) :
    Stamps seen s ((liftM (s.newToken owner) : Action Token) >>= g) :=
  fun now reads access _ refresh _ => rest now access refresh reads

theorem newDelegatedToken_bind {grant : Grant} {g : Token → Action β} (rest : ∀ now access, seen now →
      Stamps seen s (g (.delegated grant.owner grant.code s.tokenLifetime now access))) :
    Stamps seen s ((liftM (s.newDelegatedToken grant) : Action Token) >>= g) :=
  fun now reads access _ => rest now access reads

theorem newGrant_bind {client : String} {scope : Option String} {g : Grant → Action β} (rest : ∀ now code, seen now →
      Stamps seen s (g (.issued client owner scope s.grantLifetime now code))) :
    Stamps seen s ((liftM (s.newGrant client owner scope) : Action Grant) >>= g) :=
  fun now reads code _ => rest now code reads

theorem mint {token : Token} (dated : Dated seen s.tokenLifetime token.createdAt token.expiresAt) :
    Stamps seen s (Service.mint token) :=
  bind (store dated) fun _ => log.bind fun _ => pure token

theorem passwordMatches {password : String} : Stamps seen s (liftM (Service.passwordMatches account password)) := by
  unfold Service.passwordMatches
  split
  · exact lift trivial
  · exact lift trivial
  · exact lift fun _ _ => trivial

theorem refreshProfile : Stamps seen s (liftM (Service.refreshProfile account profile)) := by
  unfold Service.refreshProfile
  split
  · exact lift trivial
  · refine lift fun _ _ => ⟨trivial, fun answer => ?_⟩
    cases answer with
    | ok value => exact trivial
    | error failure => exact fun _ _ => trivial

theorem issueFromPassword {email password : String} : Stamps seen s (s.issueFromPassword email password) := by
  refine log.bind fun _ => bind (store trivial) fun found => ?_
  cases found with
  | none => exact log.bind fun _ => throw _
  | some account =>
    refine ite (log.bind fun _ => throw _) (passwordMatches.bind fun right => ?_)
    refine ite (log.bind fun _ => throw _) (ite (log.bind fun _ => throw _) ?_)
    exact newToken_bind fun now access refresh reads => mint ⟨reads, rfl⟩

theorem issueFromProvider {provider accessToken : String} :
    Stamps seen s (s.issueFromProvider provider accessToken) := by
  refine log.bind fun _ => orThrow.bind fun provider => identify.bind fun profile => bind (store trivial) fun found => ?_
  cases found with
  | none => exact log.bind fun _ => throw _
  | some account =>
    exact refreshProfile.bind fun _ => newToken_bind fun now access refresh reads => mint ⟨reads, rfl⟩

theorem successorOf : Stamps seen s (Service.successorOf old) := by
  refine orThrow.bind fun access => bind (store trivial) fun found => ?_
  cases found with
  | none => exact log.bind fun _ => throw _
  | some next => exact ite (throw _) (ite (throw _) (pure next))

theorem settleLostRefresh : Stamps seen s (Service.settleLostRefresh old) := by
  refine log.bind fun _ => bind (store trivial) fun found => ?_
  cases found with
  | none => exact throw _
  | some current => exact ite (throw _) (ite successorOf (log.bind fun _ => throw _))

theorem refresh {refreshToken : String} : Stamps seen s (s.refresh refreshToken) := by
  refine log.bind fun _ => bind (store trivial) fun found => ?_
  cases found with
  | none => exact throw _
  | some old =>
    refine ite (throw _) (ite (throw _) (ite (log.bind fun _ => successorOf) ?_))
    refine newToken_bind fun now access refresh reads => bind (store ⟨reads, rfl⟩) fun (chained : Bool) => ?_
    show Stamps seen s (if chained = true then _ else _)
    exact ite (log.bind fun _ => pure _) settleLostRefresh

theorem authenticate {access : String} : Stamps seen s (Service.authenticate access) := by
  refine bind (store trivial) fun found => ?_
  cases found with
  | none => exact throw _
  | some token => exact ite (throw _) (ite (throw _) (clock_bind fun now _ => ite (throw _) (pure token)))

theorem invalidate {access : Option String} : Stamps seen s (Service.invalidate access) := by
  refine orThrow.bind fun access => bind (store trivial) fun (known : Bool) => ?_
  show Stamps seen s (if known = true then _ else _)
  exact ite log (throw _)

theorem authorize {access client : String} {scope : Option String} :
    Stamps seen s (s.authorize access client scope) := by
  refine ite (throw _) (authenticate.bind fun token => newGrant_bind fun now code reads => ?_)
  exact bind (store ⟨reads, rfl⟩) fun _ => log.bind fun _ => pure _

theorem issueFromCode {code client : String} : Stamps seen s (s.issueFromCode code client) := by
  refine log.bind fun _ => bind (store trivial) fun taken => ?_
  cases taken with
  | none => exact throw _
  | some grant =>
    refine ite (throw _) (clock_bind fun now _ => ite (throw _) ?_)
    exact newDelegatedToken_bind fun now access reads => mint ⟨reads, rfl⟩

end Stamps

theorem perform_stamps (s : Service) (call : Call) : Stamps seen s (s.perform call) := by
  cases call with
  | issueFromPassword email password => exact Stamps.issueFromPassword.map
  | issueFromProvider provider accessToken => exact Stamps.issueFromProvider.map
  | refresh refreshToken => exact Stamps.refresh.map
  | authenticate access => exact Stamps.authenticate.map
  | invalidate access => exact Stamps.invalidate.map
  | authorize access client scope => exact Stamps.authorize.map
  | issueFromCode code client => exact Stamps.issueFromCode.map

/-- What a call stores anew starts at a reading of the clock that it heard. -/
theorem dates_of_perform {call : Call} {heard : List Heard} {visits : List Visit} {result : Except Failure Yield}
    (dialogue : Dialogue (s.perform call).run heard visits result) :
    ∀ visit ∈ visits, visit.call.Dates (fun now => ⟨.clock, now⟩ ∈ heard) s :=
  Dates.along (perform_stamps s call) dialogue fun _ mem => mem

end Dialogue

end TokenAuthority
