import TokenAuthority.Proofs.Alone.Login
import TokenAuthority.Proofs.Dialogue.Refresh

/-!
# A login by password over any store

`LogsIn` tells every way in which a login can go by what the store answers, be the answers true or not. So a login with
the password of an account that the store finds, and that waits for no activation, ends in a token.
-/

namespace TokenAuthority.Dialogue

/-- A login with an email address and a password. -/
inductive LogsIn (s : Service) (email password : String) : List Visit → Except Failure Token → Prop where
  | fails {failure : Failure} : LogsIn s email password [⟨.accountByEmail email, .error failure⟩] (.error failure)
  | unknown : LogsIn s email password [⟨.accountByEmail email, .ok none⟩] (.error .badCredentials)
  | wrong {account : Account} (wrong : account.checkPassword password ≠ .right) :
      LogsIn s email password [⟨.accountByEmail email, .ok (some account)⟩] (.error .badCredentials)
  | pending {account : Account} (right : account.checkPassword password = .right) (pending : account.Pending) :
      LogsIn s email password [⟨.accountByEmail email, .ok (some account)⟩] (.error .activationPending)
  | issued {account : Account} {token : Token} (right : account.checkPassword password = .right)
      (active : ¬account.Pending) (made : s.Makes account.id token) :
      LogsIn s email password [⟨.accountByEmail email, .ok (some account)⟩, ⟨.addToken token, .ok ()⟩] (.ok token)
  | unstored {account : Account} {token : Token} {failure : Failure} (right : account.checkPassword password = .right)
      (active : ¬account.Pending) (made : s.Makes account.id token) :
      LogsIn s email password [⟨.accountByEmail email, .ok (some account)⟩, ⟨.addToken token, .error failure⟩]
        (.error failure)

/-- The store finds an account by an email address and takes every token. -/
structure Serves (email : String) (account : Account) (visits : List Visit) : Prop where
  finds : ∀ answer, ⟨.accountByEmail email, answer⟩ ∈ visits → answer = .ok (some account)
  takes : ∀ token answer, ⟨.addToken token, answer⟩ ∈ visits → answer = .ok ()

variable {s : Service} {email password : String} {account : Account} {visits : List Visit}
  {result : Except Failure Token}

/-! ### The program -/

theorem passwordMatches_dialogue :
    Every (fun visits same => visits = [] ∧ (same = true ↔ account.checkPassword password = .right))
      (Service.passwordMatches account password) := by
  unfold Service.passwordMatches
  cases check : account.checkPassword password with
  | right => exact ⟨rfl, by simp⟩
  | wrong => exact ⟨rfl, by simp⟩
  | unreadable fault => exact fun _ => ⟨rfl, by simp⟩

theorem issueFromPassword_dialogue : Always (LogsIn s email password) (s.issueFromPassword email password) := by
  refine Always.log_bind (Always.store_bind (fun _ => .fails) fun found => ?_)
  cases found with
  | none => exact Always.log_bind (Always.throw .unknown)
  | some account =>
    dsimp only
    split
    · rename_i absent
      have none : account.passwordHash = none := by simpa [Account.hasPassword] using absent
      have wrong : account.checkPassword password ≠ .right := by simp [Account.checkPassword, none]
      exact Always.log_bind (Always.throw (.wrong wrong))
    · refine Always.lift_bind (passwordMatches_dialogue.mono ?_)
      rintro - same ⟨rfl, checked⟩
      split
      · rename_i different
        have wrong : account.checkPassword password ≠ .right := fun right => by simp [checked.2 right] at different
        exact Always.log_bind (Always.throw (.wrong wrong))
      · rename_i equal
        have right := checked.1 (by simpa using equal)
        split
        · rename_i pending
          exact Always.log_bind (Always.throw (.pending right (Account.activationPending_iff.1 pending)))
        · rename_i active
          replace active : ¬account.Pending := fun pending => active (Account.activationPending_iff.2 pending)
          refine Always.lift_bind (newToken_dialogue.mono ?_)
          rintro - token ⟨rfl, made⟩
          refine Always.store_bind (fun _ => .unstored right active made) fun _ => ?_
          exact Always.log_bind (Always.pure (.issued right active made))

/-! ### Over a store that serves -/

theorem serves_login {token : Token} :
    Serves email account [⟨.accountByEmail email, .ok (some account)⟩, ⟨.addToken token, .ok ()⟩] := by
  constructor
  · intro answer mem
    rcases List.mem_pair.1 mem with same | same
    · cases same
      rfl
    · cases same
  · intro token answer mem
    rcases List.mem_pair.1 mem with same | same
    · cases same
    · cases same
      rfl

/-- A login that is to succeed can go so, whatever the time is and whichever strings are drawn. -/
theorem dialogue_of_right (right : account.checkPassword password = .right) (active : ¬account.Pending)
    (now : Instant) (access refresh : String) :
    Dialogue (s.issueFromPassword email password).run
      [⟨.clock, now⟩, ⟨.freshText, access⟩, ⟨.freshText, refresh⟩]
      [⟨.accountByEmail email, .ok (some account)⟩,
        ⟨.addToken (.issued account.id s.tokenLifetime now access refresh), .ok ()⟩]
      (.ok (.issued account.id s.tokenLifetime now access refresh)) := by
  have has : account.hasPassword = true := by
    obtain ⟨text, hash, stored, -⟩ := Account.checkPassword_eq_right_iff.1 right
    rw [Account.hasPassword, stored]
    rfl
  have matched : Service.passwordMatches account password = .done true := by
    rw [Service.passwordMatches, right]
    rfl
  have inactive : account.activationPending = false :=
    eq_false_of_ne_true fun pending => active (Account.activationPending_iff.1 pending)
  have looks : Dialogue (Action.accountByEmail email).run [] [⟨.accountByEmail email, .ok (some account)⟩]
      (.ok (some account)) := .asks _ (.done _)
  have kept : Dialogue (Action.addToken (.issued account.id s.tokenLifetime now access refresh)).run []
      [⟨.addToken (.issued account.id s.tokenLifetime now access refresh), .ok ()⟩] (.ok ()) :=
    .asks _ (.done _)
  unfold Service.issueFromPassword
  refine .logs (bind looks ?_)
  dsimp only [ExceptT.bindCont]
  rw [has, matched, inactive]
  exact .hears rfl _ (.hears rfl _ (.hears rfl _ (bind kept (.logs (.done _)))))

/-- Whoever knows the password of an account gets a token for it, unless the activation is pending. -/
theorem LogsIn.succeeds (logsIn : LogsIn s email password visits result) (serves : Serves email account visits)
    (right : account.checkPassword password = .right) (active : ¬account.Pending) :
    ∃ token, result = .ok token ∧ s.Makes account.id token ∧
      visits = [⟨.accountByEmail email, .ok (some account)⟩, ⟨.addToken token, .ok ()⟩] := by
  cases logsIn with
  | fails => cases serves.finds _ List.mem_cons_self
  | unknown => cases serves.finds _ List.mem_cons_self
  | wrong wrong =>
    cases serves.finds _ List.mem_cons_self
    exact (wrong right).elim
  | pending _ pending =>
    cases serves.finds _ List.mem_cons_self
    exact (active pending).elim
  | issued _ _ made =>
    cases serves.finds _ List.mem_cons_self
    exact ⟨_, rfl, made, rfl⟩
  | unstored => cases serves.takes _ _ (List.mem_cons_of_mem _ List.mem_cons_self)

end TokenAuthority.Dialogue
