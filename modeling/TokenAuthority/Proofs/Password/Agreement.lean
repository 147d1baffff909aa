import TokenAuthority.Proofs.Dialogue.Login
import TokenAuthority.Proofs.Password.Verification

/-!
# Hashing and verifying passwords agree

An account whose stored text was made for a password is opened by just those passwords that give the same output under
the salt, the variant, the version and the costs that the text says. A stored text that is not well-formed opens for
nobody.
-/

namespace TokenAuthority.Account

open Password

variable {account : Account} {hash : PasswordHash} {password text : String}

theorem checkPassword_of_render (wellFormed : hash.WellFormed) (stored : account.passwordHash = some hash.render) :
    account.checkPassword password = .right ↔ hash.verify password = true := by
  have reads := PasswordHash.read_eq_ok_iff.2 ⟨wellFormed, rfl⟩
  rw [checkPassword_eq_right_iff]
  constructor
  · rintro ⟨text, found, has, same, verifies⟩
    obtain rfl := Option.some.inj (stored.symm.trans has)
    obtain rfl := Except.ok.inj (reads.symm.trans same)
    exact verifies
  · exact fun verifies => ⟨_, hash, stored, reads, verifies⟩

/-- A stored text that is no password hash is found unreadable, for one and the same reason at each attempt. -/
theorem checkPassword_of_not_written (stored : account.passwordHash = some text)
    (foreign : ¬PasswordHash.Written text) : ∃ fault, ∀ password, account.checkPassword password = .unreadable fault := by
  cases read : PasswordHash.read text with
  | ok hash => exact (foreign (PasswordHash.written_iff.2 ⟨hash, read⟩)).elim
  | error fault =>
    refine ⟨fault, fun password => ?_⟩
    rw [checkPassword, stored]
    dsimp only
    rw [read]

end TokenAuthority.Account

namespace TokenAuthority.Password

open PasswordHash Dialogue

/-- The salts that are drawn are long enough for the algorithm and short enough to be written. -/
theorem wellFormed_of_records {salt : Salt} {hash : PasswordHash} {output : List UInt8}
    (records : hash.Records .id .v19 defaultCost salt.bytes output) : hash.WellFormed := by
  refine records.wellFormed sayable_defaultCost ?_ ?_
  · rw [salt.length_eq]
    decide
  · rw [salt.length_eq]
    decide

/-- The text that is made for a password is well-formed and says under which salt and how the output was computed. An
account for which it is stored is opened by exactly the passwords with the same output, so by that password, with which
a login gets a token unless the activation is pending. A stored text that is not well-formed opens for no password. -/
theorem hashing_and_verification_agree :
    (∀ (salt : Salt) (password text : String), hashPassword salt password = .ok text →
      ∃ (hash : PasswordHash) (output : List UInt8), hash.WellFormed ∧ hash.render = text ∧
        hash.Records .id .v19 defaultCost salt.bytes output ∧
        compute? .id .v19 defaultCost salt.bytes password.toUTF8.toList = some output ∧
        ∀ account : Account, account.passwordHash = some text →
          (∀ other, account.checkPassword other = .right ↔
            compute? .id .v19 defaultCost salt.bytes other.toUTF8.toList = some output) ∧
          account.checkPassword password = .right ∧
          (¬account.Pending → ∀ (s : Service) (email : String) (heard : List Heard) (visits : List Visit)
            (result : Except Failure Token),
            Dialogue (s.issueFromPassword email password).run heard visits result → Serves email account visits →
              ∃ token, result = .ok token ∧ s.Makes account.id token ∧
                visits = [⟨.accountByEmail email, .ok (some account)⟩, ⟨.addToken token, .ok ()⟩])) ∧
    ∀ (account : Account) (text : String), account.passwordHash = some text → ¬Written text →
      ∃ fault, ∀ password, account.checkPassword password = .unreadable fault := by
  refine ⟨fun salt password text hashed => ?_, fun account text => Account.checkPassword_of_not_written⟩
  obtain ⟨hash, output, records, computed, rfl⟩ := hashPassword_eq_ok_iff.1 hashed
  have wellFormed := wellFormed_of_records records
  refine ⟨hash, output, wellFormed, rfl, records, computed, fun account stored => ?_⟩
  have opens (other : String) : account.checkPassword other = .right ↔
      compute? .id .v19 defaultCost salt.bytes other.toUTF8.toList = some output := by
    rw [Account.checkPassword_of_render wellFormed stored, records.verify_eq_true_iff sayable_defaultCost]
  have right := (opens password).2 computed
  refine ⟨opens, right, fun active s email heard visits result dialogue serves => ?_⟩
  exact (dialogue.meets issueFromPassword_dialogue).succeeds serves right active

/-- The account of a user who activated it opens for the password that was hashed, and with a stored text that is no
password hash for none. -/
theorem hashed_password_opens : ∃ (salt : Salt) (text : String) (account : Account) (s : Service) (token : Token),
    hashPassword salt "p1" = .ok text ∧ account.passwordHash = some text ∧ account.registration.isSome ∧
      account.checkPassword "p1" = .right ∧ s.Makes account.id token ∧
      (∃ heard visits, Dialogue (s.issueFromPassword "u1@x.com" "p1").run heard visits (.ok token) ∧
        Serves "u1@x.com" account visits) ∧
      ∃ fault, ∀ password,
        { account with passwordHash := some "not-a-phc-string" }.checkPassword password = .unreadable fault := by
  let salt : Salt := ⟨List.replicate 16 7, rfl⟩
  let s : Service := ⟨.empty, 3600, 600⟩
  -- The memory is never mixed here: that there is a text follows from the length of the password alone.
  obtain ⟨text, hashed⟩ : ∃ text, hashPassword salt "p1" = .ok text := hashPassword_succeeds_iff.2 (by decide)
  let account : Account := ⟨"u1", "u1@x.com", some text, some ⟨"act", none, some (.ofSeconds 0)⟩, .empty⟩
  have active : ¬account.Pending := by
    rintro ⟨_, ⟨⟩, ⟨⟩⟩
  have foreign : ¬Written "not-a-phc-string" := by
    intro written
    obtain ⟨hash, reads⟩ := written_iff.1 written
    have refused : read "not-a-phc-string" = .error .missingField := by decide
    cases refused.symm.trans reads
  obtain ⟨_, _, -, -, -, -, opens⟩ := hashing_and_verification_agree.1 salt "p1" text hashed
  obtain ⟨-, right, logsIn⟩ := opens account rfl
  have dialogue : Dialogue (s.issueFromPassword "u1@x.com" "p1").run _ _ _ :=
    dialogue_of_right right active (.ofSeconds 0) "a" "r"
  obtain ⟨token, same, made, -⟩ := logsIn active s "u1@x.com" _ _ _ dialogue serves_login
  rw [same] at dialogue
  exact ⟨salt, text, account, s, token, hashed, rfl, rfl, right, made, ⟨_, _, dialogue, serves_login⟩,
    hashing_and_verification_agree.2 _ _ rfl foreign⟩

end TokenAuthority.Password
