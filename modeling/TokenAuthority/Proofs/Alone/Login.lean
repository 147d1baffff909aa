import TokenAuthority.Proofs.Alone.Plan
import TokenAuthority.Proofs.Database.Tables
import TokenAuthority.Proofs.Http.Refinement

/-!
# A login by password

Whoever does not know the password of an account gets one and the same answer, whatever is stored: that there is no
such account, that it has no password or one that cannot be read, that the password is another one, or that the account
is not activated makes no difference. Only who knows the password is told that the activation is pending.
-/

namespace TokenAuthority

/-- The password is that of the account: there is a hash that can be read, and it verifies the password. -/
def Account.Verifies (account : Account) (password : String) : Prop :=
  ∃ text hash, account.passwordHash = some text ∧ Password.PasswordHash.read text = .ok hash ∧
    hash.verify password = true

/-- The account registered itself and has not been activated. -/
def Account.Pending (account : Account) : Prop :=
  ∃ registration, account.registration = some registration ∧ registration.activatedAt = none

/-- The email address and the password are those of a stored account. -/
structure Memory.Opens (m : Memory) (email password : String) (account : Account) : Prop where
  stored : account ∈ m.accounts.values
  email : account.email = email
  password : account.Verifies password

section

variable {m : Memory} {email password : String} {account : Account}

theorem Account.checkPassword_eq_right_iff : account.checkPassword password = .right ↔ account.Verifies password := by
  unfold checkPassword Verifies
  cases account.passwordHash with
  | none => simp
  | some text =>
    dsimp only
    cases read : Password.PasswordHash.read text with
    | error fault => simp [read]
    | ok hash => simp [read]

theorem Account.activationPending_iff : account.activationPending = true ↔ account.Pending := by
  simp [activationPending, Pending, Option.any_eq_true]

namespace Memory

theorem accountByEmail?_of_opens (unique : (m.accounts.values.map Account.email).Nodup)
    (opens : m.Opens email password account) : m.accountByEmail? email = some account := by
  refine (find?_eq_some_iff_of_unique fun a mem b mem' own own' => ?_).2 ⟨opens.stored, beq_iff_eq.2 opens.email⟩
  exact List.inj_on_of_nodup_map unique mem mem' ((eq_of_beq own).trans (eq_of_beq own').symm)

/-- Nobody's password: the same refusal whatever is stored. -/
theorem holder_of_unknown (unknown : ∀ account, ¬m.Opens email password account) :
    m.holder email password = .error .badCredentials := by
  unfold holder
  cases found : m.accountByEmail? email with
  | none => rfl
  | some account =>
    have wrong : account.checkPassword password ≠ .right := by
      intro right
      have own : (account.email == email) = true := List.find?_some (p := fun a : Account => a.email == email) found
      exact unknown account ⟨List.mem_of_find?_eq_some found, eq_of_beq own, Account.checkPassword_eq_right_iff.1 right⟩
    exact if_pos wrong

theorem Opens.holder (opens : m.Opens email password account)
    (unique : (m.accounts.values.map Account.email).Nodup) :
    m.holder email password = if account.activationPending then .error .activationPending else .ok account := by
  have right := Account.checkPassword_eq_right_iff.2 opens.password
  simp [Memory.holder, accountByEmail?_of_opens unique opens, right]

theorem holder_eq_ok_iff (unique : (m.accounts.values.map Account.email).Nodup) :
    m.holder email password = .ok account ↔ m.Opens email password account ∧ ¬account.Pending := by
  constructor
  · intro holds
    by_cases known : ∃ other, m.Opens email password other
    · obtain ⟨other, opens⟩ := known
      rw [opens.holder unique] at holds
      split at holds
      · cases holds
      · rename_i active
        obtain rfl := Except.ok.inj holds
        exact ⟨opens, fun pending => active (Account.activationPending_iff.2 pending)⟩
    · rw [holder_of_unknown fun other opens => known ⟨other, opens⟩] at holds
      cases holds
  · rintro ⟨opens, active⟩
    rw [opens.holder unique, if_neg fun pending => active (Account.activationPending_iff.1 pending)]

theorem holder_eq_error_iff (unique : (m.accounts.values.map Account.email).Nodup) {reason : String} :
    m.holder email password = .error (.accountNotActivated reason) ↔
      reason = "The account has not yet been activated." ∧
        ∃ account, m.Opens email password account ∧ account.Pending := by
  constructor
  · intro refused
    by_cases known : ∃ account, m.Opens email password account
    · obtain ⟨account, opens⟩ := known
      rw [opens.holder unique] at refused
      split at refused
      · rename_i pending
        cases refused
        exact ⟨rfl, account, opens, Account.activationPending_iff.1 pending⟩
      · cases refused
    · rw [holder_of_unknown fun account opens => known ⟨account, opens⟩] at refused
      cases refused
  · rintro ⟨rfl, account, opens, pending⟩
    rw [opens.holder unique, if_pos (Account.activationPending_iff.2 pending)]
    rfl

end Memory

end

namespace World

variable {w : World} {s : Service} {j : Journal} {m : Memory} {email password : String}

/-- A login is refused and does nothing, or stores a new token. -/
theorem alone_issueFromPassword : ∃ journal, w.alone (s.issueFromPassword email password) (j, m) =
    match m.holder email password with
    | .error failure => (.error failure, journal, m)
    | .ok account => w.alone (Service.mint (.issued account.id s.tokenLifetime (w.clock (j.readings + 1))
        (w.text j.drawn) (w.text (j.drawn + 1)))) (journal, m) := by
  rw [Service.issueFromPassword, alone_bind, alone_log]
  simp only [alone_bind, alone_accountByEmail, Memory.holder]
  cases m.accountByEmail? email with
  | none => exact ⟨_, rfl⟩
  | some account =>
    by_cases has : account.hasPassword = true
    · simp only [has, Bool.not_true, Bool.false_eq_true, if_false, Service.passwordMatches]
      cases check : account.checkPassword password with
      | wrong => exact ⟨_, rfl⟩
      | unreadable fault => exact ⟨_, rfl⟩
      | right =>
        by_cases pending : account.activationPending = true
        · simp only [pending, if_true]
          exact ⟨_, rfl⟩
        · simp only [pending, ne_eq, not_true_eq_false, if_false, Bool.false_eq_true, alone_bind, alone_lift_pure,
            Bool.not_true, alone_newToken]
          exact ⟨_, rfl⟩
    · have wrong : account.checkPassword password = .wrong := by
        have absent : account.passwordHash = none := by simpa [Account.hasPassword] using has
        rw [Account.checkPassword, absent]
      simp only [has, wrong]
      exact ⟨_, rfl⟩

/-- Answers a request with nothing getting in between. -/
def serve (w : World) (s : Service) (r : Http.Request) (state : Journal × Memory) :
    Http.Response × (Journal × Memory) :=
  ((Http.respond s r).run (w.answer fun _ => .none)).run state

/-- A request whose call fails is answered by the failure, and the call is all that is done. -/
theorem serve_of_error {r : Http.Request} {call : Call} {failure : Failure} (asks : Http.Asks r call)
    (fails : (w.alone (s.perform call) (j, m)).1 = .error failure) :
    (w.serve s r (j, m)).1 = (Http.Response.json failure.status failure.body).sent r.method ∧
      (w.serve s r (j, m)).2.2 = (w.alone (s.perform call) (j, m)).2.2 := by
  obtain ⟨response, reports, served⟩ := Http.run_respond_of_asks w (fun _ => .none) j m asks
  have told : Http.Reports _ (w.alone (s.perform call) (j, m)).1 response := reports
  rw [fails] at told
  cases told
  exact ⟨congrArg Prod.fst served, congrArg (·.2.2) served⟩

variable (w s j) in
theorem alone_password_refused {failure : Failure} (refused : m.holder email password = .error failure) :
    (w.alone (s.issueFromPassword email password) (j, m)).1 = .error failure ∧
      (w.alone (s.issueFromPassword email password) (j, m)).2.2 = m := by
  obtain ⟨journal, alone⟩ := @alone_issueFromPassword w s j m email password
  rw [alone, refused]
  exact ⟨rfl, rfl⟩

variable (w s j) in
theorem alone_password_issues {account : Account} {token : Token} (holds : m.holder email password = .ok account)
    (issued : token = .issued account.id s.tokenLifetime (w.clock (j.readings + 1)) (w.text j.drawn)
      (w.text (j.drawn + 1))) : ∃ now,
    (w.alone (s.issueFromPassword email password) (j, m)).1 = (fun _ => token) <$> (m.step now (.addToken token)).1 ∧
      (w.alone (s.issueFromPassword email password) (j, m)).2.2 = (m.step now (.addToken token)).2 := by
  obtain ⟨journal, alone⟩ := @alone_issueFromPassword w s j m email password
  obtain ⟨after, mints, -⟩ := @alone_mint w journal m token
  rw [alone, holds]
  dsimp only
  rw [← issued, mints]
  exact ⟨_, rfl, rfl⟩

/-- A token that is issued is inserted, and nothing else is changed. -/
theorem alone_password_inserts {token : Token}
    (issues : (w.alone (s.issueFromPassword email password) (j, m)).1 = .ok token) :
    m.insertToken? token = some (w.alone (s.issueFromPassword email password) (j, m)).2.2 := by
  cases held : m.holder email password with
  | error failure =>
    rw [(alone_password_refused w s j held).1] at issues
    cases issues
  | ok account =>
    obtain ⟨now, result, after⟩ := alone_password_issues w s j held rfl
    rw [result] at issues
    rw [after]
    simp only [Memory.step] at issues ⊢
    split at issues
    · rename_i grown inserted
      obtain rfl := Except.ok.inj issues
      exact inserted
    · cases issues

theorem alone_password_eq_ok_iff (unused : m.tokens.get? (w.text j.drawn) = none) {token : Token} :
    (w.alone (s.issueFromPassword email password) (j, m)).1 = .ok token ↔
      ∃ account, m.holder email password = .ok account ∧
        token = .issued account.id s.tokenLifetime (w.clock (j.readings + 1)) (w.text j.drawn)
          (w.text (j.drawn + 1)) := by
  cases held : m.holder email password with
  | error failure =>
    rw [(alone_password_refused w s j held).1]
    exact ⟨nofun, nofun⟩
  | ok account =>
    let made := Token.issued account.id s.tokenLifetime (w.clock (j.readings + 1)) (w.text j.drawn)
      (w.text (j.drawn + 1))
    have unused' : m.tokens.get? made.access = none := unused
    obtain ⟨grown, inserted⟩ := Memory.insertToken?_of_unused unused'
    obtain ⟨now, issues, -⟩ := alone_password_issues w s j held (Eq.refl made)
    rw [issues]
    simp only [Memory.step, inserted]
    constructor
    · intro same
      exact ⟨account, rfl, (Except.ok.inj same).symm⟩
    · rintro ⟨_, same, rfl⟩
      cases same
      rfl

/-- A login that fails changes nothing, and only the account's state is behind it if it fails for that. -/
theorem alone_password_fails {failure : Failure}
    (fails : (w.alone (s.issueFromPassword email password) (j, m)).1 = .error failure) :
    (w.alone (s.issueFromPassword email password) (j, m)).2.2 = m ∧
      (m.holder email password = .error failure ∨ failure = .mintedTwice) := by
  cases held : m.holder email password with
  | error reason =>
    obtain ⟨result, same⟩ := alone_password_refused w s j held
    rw [result] at fails
    cases fails
    exact ⟨same, .inl rfl⟩
  | ok account =>
    obtain ⟨now, result, after⟩ := alone_password_issues w s j held rfl
    rw [result] at fails
    rw [after]
    simp only [Memory.step] at fails ⊢
    split at fails
    · cases fails
    · exact ⟨rfl, .inr (Except.error.inj fails).symm⟩

variable (w s j) in
theorem serve_password_refused {r : Http.Request} {failure : Failure}
    (asks : Http.Asks r (.issueFromPassword email password)) (refused : m.holder email password = .error failure) :
    (w.serve s r (j, m)).1 = (Http.Response.json failure.status failure.body).sent r.method ∧
      (w.serve s r (j, m)).2.2 = m := by
  obtain ⟨fails, same⟩ := alone_password_refused w s j refused
  have performs : w.alone (s.perform (.issueFromPassword email password)) (j, m) =
      (.error failure, (w.alone (s.issueFromPassword email password) (j, m)).2) := by
    rw [Service.perform, alone_map, fails]
    rfl
  obtain ⟨response, after⟩ := serve_of_error (s := s) (w := w) asks (congrArg Prod.fst performs)
  rw [performs] at after
  exact ⟨response, after.trans same⟩

/-- Of the method of a request, an answer shows only whether it is HEAD. -/
theorem sent_of_heads {method method' : String} (heads : method = "HEAD" ↔ method' = "HEAD")
    (response : Http.Response) : response.sent method = response.sent method' := by
  simp only [Http.Response.sent, heads]

/-- A login by password over a store in which no two accounts have one email address. It issues a token to whoever has
the password of an account that is active, and tells whoever has that of a pending one that it is pending. All others
are refused in the same way, also over HTTP, whichever two stores, email addresses and passwords are compared. A token
that is issued is inserted, and where none is issued, nothing is changed. -/
theorem password_login_discloses_nothing (s : Service) (w : World) (j : Journal) {m : Memory}
    (unique : (m.accounts.values.map Account.email).Nodup) (email password : String) :
    let result := (w.alone (s.issueFromPassword email password) (j, m)).1
    let after := (w.alone (s.issueFromPassword email password) (j, m)).2
    (m.tokens.get? (w.text j.drawn) = none → ∀ token, result = .ok token ↔
      ∃ account, m.Opens email password account ∧ ¬account.Pending ∧
        token = .issued account.id s.tokenLifetime (w.clock (j.readings + 1)) (w.text j.drawn)
          (w.text (j.drawn + 1))) ∧
    (∀ token, result = .ok token → m.insertToken? token = some after.2) ∧
    (∀ reason, result = .error (.accountNotActivated reason) ↔ reason = "The account has not yet been activated." ∧
      ∃ account, m.Opens email password account ∧ account.Pending) ∧
    (∀ failure, result = .error failure → after.2 = m) ∧
    ((∀ account, ¬m.Opens email password account) →
      result = .error (.authentication "Unknown user or incorrect password.") ∧
      ∀ (s' : Service) (w' : World) (j' : Journal) (m' : Memory) (email' password' : String),
        (∀ account, ¬m'.Opens email' password' account) →
        (w'.alone (s'.issueFromPassword email' password') (j', m')).1 = result ∧
        ∀ r r', Http.Asks r (.issueFromPassword email password) → Http.Asks r' (.issueFromPassword email' password') →
          (r.method = "HEAD" ↔ r'.method = "HEAD") →
          (w.serve s r (j, m)).1 = (w'.serve s' r' (j', m')).1 ∧ (w.serve s r (j, m)).2.2 = m ∧
            (w'.serve s' r' (j', m')).2.2 = m') := by
  intro result after
  refine ⟨fun unused token => ?_, fun _ => alone_password_inserts, fun reason => ?_,
    fun failure fails => (alone_password_fails fails).1, fun unknown => ?_⟩
  · rw [alone_password_eq_ok_iff unused]
    simp only [Memory.holder_eq_ok_iff unique, and_assoc]
  · rw [← Memory.holder_eq_error_iff unique]
    constructor
    · intro fails
      rcases (alone_password_fails fails).2 with held | minted
      · exact held
      · cases minted
    · exact fun held => (alone_password_refused w s j held).1
  · have refused := Memory.holder_of_unknown unknown
    refine ⟨(alone_password_refused w s j refused).1, fun s' w' j' m' email' password' unknown' => ?_⟩
    have refused' := Memory.holder_of_unknown unknown'
    have fails := (alone_password_refused w s j refused).1
    have fails' := (alone_password_refused w' s' j' refused').1
    refine ⟨fails'.trans fails.symm, fun r r' asks asks' heads => ?_⟩
    obtain ⟨response, same⟩ := serve_password_refused w s j asks refused
    obtain ⟨response', same'⟩ := serve_password_refused w' s' j' asks' refused'
    rw [response, response', sent_of_heads heads]
    exact ⟨rfl, same, same'⟩

/-- An account that has no password, and an address that nobody has, get the same answer. -/
theorem logins_answered_alike : ∃ (w : World) (s : Service) (m m' : Memory) (r r' : Http.Request),
    (m.accounts.values.map Account.email).Nodup ∧ (m.accountByEmail? "a").isSome ∧ m'.accountByEmail? "b" = none ∧
    Http.Asks r (.issueFromPassword "a" "x") ∧ Http.Asks r' (.issueFromPassword "b" "y") ∧
    (w.serve s r (.empty, m)).1 = (w.serve s r' (.empty, m')).1 := by
  let w : World := ⟨fun _ => .ofSeconds 0, fun _ => "", fun _ => .failed⟩
  let s : Service := ⟨.empty, 3600, 600⟩
  let m : Memory := Memory.empty.insertAccount ⟨"u", "a", none, some ⟨"k", none, none⟩, .empty⟩
  have asks : Http.Asks ⟨"GET", ⟨"/auth_token", "email=a&password=x"⟩, [], []⟩ (.issueFromPassword "a" "x") :=
    Http.decide_eq_call_iff.1 (by rfl)
  have asks' : Http.Asks ⟨"GET", ⟨"/auth_token", "email=b&password=y"⟩, [], []⟩ (.issueFromPassword "b" "y") :=
    Http.decide_eq_call_iff.1 (by rfl)
  have unique : (m.accounts.values.map Account.email).Nodup := by decide
  have unknown : ∀ account, ¬m.Opens "a" "x" account := by
    rintro account ⟨stored, -, text, hash, has, -⟩
    obtain rfl := List.mem_singleton.1 stored
    cases has
  have unknown' : ∀ account, ¬Memory.empty.Opens "b" "y" account := by
    rintro account ⟨stored, -, -⟩
    cases stored
  obtain ⟨-, -, -, -, alike⟩ := password_login_discloses_nothing s w .empty unique "a" "x"
  obtain ⟨-, same⟩ := (alike unknown).2 s w .empty .empty "b" "y" unknown'
  exact ⟨w, s, m, .empty, _, _, unique, rfl, rfl, asks, asks', (same _ _ asks asks' Iff.rfl).1⟩

end World

end TokenAuthority
