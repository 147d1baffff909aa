import TokenAuthority.Proofs.Interleaving.Course

/-!
# What calls do before they add tokens

A call adds a token only under strings that it has drawn itself and kept from the store until then, and
chains it only to a token of the same owner that it has found by the refresh string it was given.
`Warrant` says so of one store call; here every call but a refresh is followed through its program.
-/

namespace TokenAuthority

/-- Whether a failure is other than an illegal state. -/
def Failure.isRegular : Failure → Bool
  | .illegalState _ => false
  | _ => true

namespace Interleaving

/-- Call `id` has drawn a string and not called the store since. -/
def Holds (run : Interleaving) (id n : Nat) (text : String) : Prop :=
  ∃ d, d < n ∧ run.Does d id (.ambient .freshText) text ∧
    ∀ k call answer, d < k → k < n → ¬run.Does k id (.store call) answer

/-- A token of strings that call `id` holds, which has no successor, and either a refresh string or a code. -/
structure Mints (run : Interleaving) (id n : Nat) (token : Token) : Prop where
  access : run.Holds id n token.access
  refresh : ∀ r, token.refresh = some r → run.Holds id n r
  alone : token.next = none
  sort : token.refresh = none ↔ token.code.isSome = true

/-- What call `id` has done before it makes a store call. -/
def Warrant (run : Interleaving) (id n : Nat) : StoreCall → Prop
  | .addToken token => run.Mints id n token
  | .chainToken access token => run.Mints id n token ∧ token.code = none ∧ ∃ r k old,
      run.move id = .start (.refresh r) ∧ k < n ∧ run.Does k id (.store (.tokenByRefresh r)) (.ok (some old)) ∧
      old.access = access ∧ old.code = none ∧ token.owner = old.owner
  | _ => True

/-- What has to have happened for a call other than a refresh to report an illegal state. -/
inductive Excuse (run : Interleaving) (id n : Nat) (reason : String) : Prop where
  | collided {k : Nat} {token : Token} {failure : Failure} (before : k < n)
      (does : run.Does k id (.store (.addToken token)) (.error failure))
  | reported {k : Nat} {provider : Provider} {accessToken : String} (before : k < n)
      (does : run.Does k id (.ambient (.identify provider accessToken)) (.error (.illegalState reason)))

/-- A result that reports an illegal state only with an excuse. -/
def Excused {α : Type} (run : Interleaving) (id n : Nat) (result : Except Failure α) : Prop :=
  ∀ reason, result = .error (.illegalState reason) → run.Excuse id n reason

variable {run : Interleaving} {id n m : Nat} {text : String} {token : Token} {s : Service} {α : Type}

/-! ### Strings that a call holds -/

theorem Does.holds (does : run.Does n id (.ambient .freshText) text) : run.Holds id (n + 1) text :=
  ⟨n, by omega, does, fun _ _ _ early late => absurd early (by omega)⟩

theorem Holds.rests (holds : run.Holds id n text) (later : n ≤ m) (rests : run.Rests id n m) :
    run.Holds id m text := by
  obtain ⟨d, before, drawn, kept⟩ := holds
  refine ⟨d, by omega, drawn, fun k call answer early late does => ?_⟩
  rcases Nat.lt_or_ge k n with still | since
  · exact kept k call answer early still does
  · exact rests k since late ⟨_, answer, does⟩

theorem Holds.ambient {request : Ambient} {answer : request.Answer} (holds : run.Holds id n text)
    (does : run.Does n id (.ambient request) answer) : run.Holds id (n + 1) text := by
  obtain ⟨d, before, drawn, kept⟩ := holds
  refine ⟨d, by omega, drawn, fun k call answer early late other => ?_⟩
  rcases Nat.lt_or_eq_of_le (Nat.le_of_lt_succ late) with still | rfl
  · exact kept k call answer early still other
  · obtain ⟨-, same, -⟩ := does.unique other
    cases same

theorem Mints.rests (mints : run.Mints id n token) (later : n ≤ m) (rests : run.Rests id n m) :
    run.Mints id m token :=
  ⟨mints.access.rests later rests, fun r own => (mints.refresh r own).rests later rests, mints.alone, mints.sort⟩

/-! ### Parts of calls -/

theorem newToken_course {rule : Nat → StoreCall → Prop} {post : Nat → Token → Prop} {owner : String}
    (rest : ∀ m now access refresh, n ≤ m → run.Mints id m (.issued owner s.tokenLifetime now access refresh) →
      post m (.issued owner s.tokenLifetime now access refresh)) :
    run.Course id rule post n (s.newToken owner) := by
  refine Course.ambient fun a now later _ _ => Course.ambient fun b access later' _ drawn =>
    Course.ambient fun c refresh later'' rests drawn' => ?_
  refine rest (c + 1) now access refresh (by omega) ⟨?_, fun r own => ?_, rfl, by simp [Token.issued]⟩
  · exact (drawn.holds.rests later'' rests).ambient drawn'
  · obtain rfl := Option.some.inj own
    exact drawn'.holds

theorem newDelegatedToken_course {rule : Nat → StoreCall → Prop} {post : Nat → Token → Prop} {grant : Grant}
    (rest : ∀ m now access, n ≤ m →
      run.Mints id m (.delegated grant.owner grant.code s.tokenLifetime now access) →
      post m (.delegated grant.owner grant.code s.tokenLifetime now access)) :
    run.Course id rule post n (s.newDelegatedToken grant) := by
  refine Course.ambient fun a now later _ _ => Course.ambient fun b access later' _ drawn => ?_
  exact rest (b + 1) now access (by omega) ⟨drawn.holds, fun r own => (nomatch own), rfl, by simp [Token.delegated]⟩

/-! ### Calls -/

theorem Excused.ok {a : α} : run.Excused id n (.ok a) := fun _ same => (nomatch same)

theorem Excused.error {failure : Failure} (regular : failure.isRegular = true) :
    run.Excused id n (.error failure : Except Failure α) := by
  intro reason same
  rw [Except.error.inj same] at regular
  cases regular

theorem refusal_leads {rule : Nat → StoreCall → Prop} {failure : Failure} (regular : failure.isRegular = true) :
    run.Leads id rule (run.Excused id) n (throw failure : Action α) :=
  Leads.throw (Excused.error regular)

theorem mint_walk {rule : Nat → StoreCall → Prop} {post : Nat → Except Failure Token → Prop}
    (adds : ∀ m, n ≤ m → run.Rests id n m → rule m (.addToken token))
    (done : ∀ a m, n ≤ a → a < m → run.Does a id (.store (.addToken token)) (.ok ()) → post m (.ok token))
    (collides : ∀ a failure, run.Does a id (.store (.addToken token)) (.error failure) →
      post (a + 1) (.error failure)) :
    run.Leads id rule post n (Service.mint token) := by
  refine Leads.store_bind fun a answer later rests does => ⟨adds a later rests, ?_⟩
  cases answer with
  | ok value => exact Leads.log_bind fun m after => Leads.pure (done a m later (by omega) does)
  | error failure => exact collides a failure does

theorem mint_leads (mints : run.Mints id n token) :
    run.Leads id (run.Warrant id) (run.Excused id) n (Service.mint token) :=
  mint_walk (fun _ later rests => mints.rests later rests) (fun _ _ _ _ _ => Excused.ok)
    fun a _ does _ _ => .collided (Nat.lt_succ_self a) does

theorem passwordMatches_course {rule : Nat → StoreCall → Prop} {post : Nat → Bool → Prop}
    {account : Account} {password : String}
    (rest : ∀ m same, n ≤ m → (same = true → account.checkPassword password = .right) → post m same) :
    run.Course id rule post n (Service.passwordMatches account password) := by
  unfold Service.passwordMatches
  split
  · rename_i right
    exact rest n true (by omega) fun _ => right
  · exact rest n false (by omega) nofun
  · exact Course.ambient fun m _ later _ _ => rest (m + 1) false (by omega) nofun

/-- A password login refuses, or goes on to store a token of the account whose password it has checked. -/
theorem issueFromPassword_walk {rule : Nat → StoreCall → Prop} {post : Nat → Except Failure Token → Prop}
    {email password : String} (reads : ∀ m, rule m (.accountByEmail email))
    (refuses : ∀ m failure, failure.isRegular = true → post m (.error failure))
    (mints : ∀ k m account token, k < m →
      run.Does k id (.store (.accountByEmail email)) (.ok (some account)) →
      account.checkPassword password = .right → account.activationPending = false →
      (∃ now access refresh, token = .issued account.id s.tokenLifetime now access refresh) →
      run.Mints id m token → run.Leads id rule post m (Service.mint token)) :
    run.Leads id rule post n (s.issueFromPassword email password) := by
  refine Leads.log_bind fun a _ => Leads.read_bind (fun _ _ => rfl) reads fun k _ finds => ?_
  split
  · exact Leads.log_bind fun _ _ => Leads.throw (refuses _ _ rfl)
  · rename_i account found
    rw [found] at finds
    split
    · exact Leads.log_bind fun _ _ => Leads.throw (refuses _ _ rfl)
    · refine Leads.lift_bind (passwordMatches_course fun c same later verified => ?_)
      split
      · exact Leads.log_bind fun _ _ => Leads.throw (refuses _ _ rfl)
      · rename_i right
        split
        · exact Leads.log_bind fun _ _ => Leads.throw (refuses _ _ rfl)
        · rename_i active
          refine Leads.lift_bind (newToken_course fun m now access refresh after minted => ?_)
          have checked : account.checkPassword password = .right := verified (by simpa using right)
          exact mints k m account _ (by omega) finds checked (eq_false_of_ne_true active) ⟨now, access, refresh, rfl⟩ minted

theorem issueFromPassword_leads {email password : String} :
    run.Leads id (run.Warrant id) (run.Excused id) n (s.issueFromPassword email password) :=
  issueFromPassword_walk (fun _ => trivial) (fun _ _ regular => Excused.error regular)
    fun _ _ _ _ _ _ _ _ _ mints => mint_leads mints

theorem refreshProfile_course {rule : Nat → StoreCall → Prop} {post : Nat → Unit → Prop} {account : Account}
    {profile : Profile} (saves : ∀ m, n ≤ m → rule m (.saveProfile account.id profile))
    (rest : ∀ m, n ≤ m → post m ()) :
    run.Course id rule post n (Service.refreshProfile account profile) := by
  unfold Service.refreshProfile
  split
  · exact rest n (by omega)
  · refine Course.ambient fun a _ later _ _ => ?_
    intro b answer later' _ _
    refine ⟨fun call same => Effect.store.inj same ▸ saves b (by omega), ?_⟩
    cases answer with
    | ok value => exact rest (b + 1) (by omega)
    | error failure => exact Course.ambient fun c _ later'' _ _ => rest (c + 1) (by omega)

/-- A provider login refuses, or goes on to store a token of the account that is linked to the identity. -/
theorem issueFromProvider_walk {rule : Nat → StoreCall → Prop} {post : Nat → Except Failure Token → Prop}
    {provider accessToken : String} (reads : ∀ m name subject, rule m (.accountByIdentity name subject))
    (saves : ∀ m account profile, rule m (.saveProfile account profile))
    (refuses : ∀ m failure, failure.isRegular = true → post m (.error failure))
    (reports : ∀ i found failure,
      run.Does i id (.ambient (.identify found accessToken)) (.error failure) → post (i + 1) (.error failure))
    (mints : ∀ i k m found profile account token, s.registry.get? provider = some found → i < k → k < m →
      run.Does i id (.ambient (.identify found accessToken)) (.ok profile) →
      run.Does k id (.store (.accountByIdentity profile.provider profile.subject)) (.ok (some account)) →
      (∃ now access refresh, token = .issued account.id s.tokenLifetime now access refresh) →
      run.Mints id m token → run.Leads id rule post m (Service.mint token)) :
    run.Leads id rule post n (s.issueFromProvider provider accessToken) := by
  refine Leads.log_bind fun a _ => Leads.orThrow_bind (fun _ => refuses _ _ rfl) fun found registered => ?_
  refine Leads.bind (Course.ambient fun i answer _ _ answers => ?_)
  cases answer with
  | error failure => exact reports i found failure answers
  | ok profile =>
    refine Leads.read_bind (fun _ _ => rfl) (fun m => reads m _ _) fun k later finds => ?_
    split
    · exact Leads.log_bind fun _ _ => Leads.throw (refuses _ _ rfl)
    · rename_i account known
      rw [known] at finds
      refine Leads.lift_bind (refreshProfile_course (fun m _ => saves m _ _) fun b _ => ?_)
      refine Leads.lift_bind (newToken_course fun m now access refresh after minted => ?_)
      exact mints i k m found profile account _ registered (by omega) (by omega) answers finds
        ⟨now, access, refresh, rfl⟩ minted

theorem issueFromProvider_leads {provider accessToken : String} :
    run.Leads id (run.Warrant id) (run.Excused id) n (s.issueFromProvider provider accessToken) := by
  refine issueFromProvider_walk (fun _ _ _ => trivial) (fun _ _ _ => trivial)
    (fun _ _ regular => Excused.error regular) (fun i found failure does => ?_)
    fun _ _ _ _ _ _ _ _ _ _ _ _ _ mints => mint_leads mints
  intro reason same
  rw [Except.error.inj same] at does
  exact .reported (Nat.lt_succ_self i) does

/-- Authenticating lets a caller through with the token that it finds, if that is open and still good. -/
theorem authenticate_leads {rule : Nat → StoreCall → Prop} {access : String}
    {post : Nat → Except Failure Token → Prop} (reads : ∀ m, rule m (.tokenByAccess access))
    (accepts : ∀ k e m token now, k < e → e < m →
      run.Does k id (.store (.tokenByAccess access)) (.ok (some token)) → token.valid = true →
      token.next = none → run.Does e id (.ambient .clock) now → token.isExpired now = false →
      post m (.ok token))
    (refuses : ∀ m failure, failure.isRegular = true → post m (.error failure)) :
    run.Leads id rule post n (Service.authenticate access) := by
  refine Leads.read_bind (fun _ _ => rfl) reads fun k _ finds => ?_
  split
  · exact Leads.throw (refuses _ _ rfl)
  · rename_i token found
    rw [found] at finds
    split
    · exact Leads.throw (refuses _ _ rfl)
    · rename_i valid
      split
      · exact Leads.throw (refuses _ _ rfl)
      · rename_i last
        refine Leads.clock_bind fun e now later _ checks => ?_
        split
        · exact Leads.throw (refuses _ _ rfl)
        · rename_i good
          refine Leads.pure (accepts k e _ token now (by omega) (by omega) finds ?_ ?_ checks ?_)
          · simpa [Token.wasInvalidated] using valid
          · simpa [Token.wasRefreshed] using last
          · exact eq_false_of_ne_true good

theorem invalidate_leads {access : Option String} :
    run.Leads id (run.Warrant id) (run.Excused id) n (Service.invalidate access) := by
  refine Leads.orThrow_bind (fun _ => Excused.error rfl) fun text _ =>
    Leads.read_bind (fun _ _ => rfl) (fun _ => trivial) fun m _ _ => ?_
  split
  · exact Course.ambient fun _ _ _ _ _ => Excused.ok
  · exact refusal_leads rfl

theorem authorize_leads {access client : String} {scope : Option String} :
    run.Leads id (run.Warrant id) (run.Excused id) n (s.authorize access client scope) := by
  unfold Service.authorize
  split
  · exact refusal_leads rfl
  · refine Leads.bind (authenticate_leads (fun _ => trivial) (fun k e a token now _ _ _ _ _ _ _ => ?_)
      fun _ _ regular => Excused.error regular)
    refine Leads.lift_bind (Course.ambient fun b now _ _ _ => Course.ambient fun c code _ _ _ => ?_)
    refine Leads.read_bind (fun _ _ => rfl) (fun _ => trivial) fun _ _ _ => ?_
    exact Leads.log_bind fun _ _ => Leads.pure Excused.ok

theorem issueFromCode_leads {code client : String} :
    run.Leads id (run.Warrant id) (run.Excused id) n (s.issueFromCode code client) := by
  refine Leads.log_bind fun a _ => Leads.store_bind fun m answer _ _ does => ⟨trivial, ?_⟩
  cases answer with
  | error failure =>
    obtain ⟨now, answered, -⟩ := does.step
    simp only [Memory.step] at answered
    split at answered <;> cases answered
  | ok found =>
    cases found with
    | none => exact refusal_leads rfl
    | some grant =>
      dsimp only
      split
      · exact refusal_leads rfl
      · refine Leads.clock_bind fun b now _ _ _ => ?_
        split
        · exact refusal_leads rfl
        · exact Leads.lift_bind (newDelegatedToken_course fun _ _ _ _ mints => mint_leads mints)

end Interleaving

end TokenAuthority
