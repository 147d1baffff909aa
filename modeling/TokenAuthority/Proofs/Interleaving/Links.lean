import TokenAuthority.Proofs.Dialogue.Conduct
import TokenAuthority.Proofs.Interleaving.Finite
import TokenAuthority.Proofs.Interleaving.Grounds
import TokenAuthority.Proofs.Interleaving.Transcript
import TokenAuthority.Proofs.Sequence.Agreement

/-!
# Identities stay with their accounts

A login by a provider asks who the user is, looks for the account that is linked to this identity and saves the
provider's new record, and other calls can get in between. The record is saved for the identity by which the
account was found, so whatever is saved when, an identity stays linked to the accounts that it was linked to.
-/

namespace TokenAuthority

/-! ### Records of one account -/

/-- Accounts that differ in their records of identities at most, and are linked to the same identities. -/
structure Account.Kept (a b : Account) : Prop where
  frame : b = { a with profiles := b.profiles }
  links : ∀ provider subject, b.isLinkedTo provider subject = a.isLinkedTo provider subject

namespace Account

variable {a b c : Account} {profile : Profile}

theorem profile?_withProfile (a : Account) (profile : Profile) (provider : String) :
    (a.withProfile profile).profile? provider =
      if provider = profile.provider then some profile else a.profile? provider :=
  Table.get?_insert a.profiles profile.provider provider profile

theorem Kept.refl (a : Account) : a.Kept a := ⟨rfl, fun _ _ => rfl⟩

theorem Kept.symm (kept : a.Kept b) : b.Kept a := by
  refine ⟨?_, fun provider subject => (kept.links provider subject).symm⟩
  rw [kept.frame]

theorem Kept.trans (first : a.Kept b) (second : b.Kept c) : a.Kept c := by
  constructor
  · rw [second.frame, first.frame]
  · intro provider subject
    rw [second.links, first.links]

/-- A record of an identity that the account is linked to takes no link away and adds none. -/
theorem Kept.withProfile (linked : a.isLinkedTo profile.provider profile.subject = true) :
    a.Kept (a.withProfile profile) := by
  refine ⟨rfl, fun provider subject => ?_⟩
  unfold isLinkedTo at linked ⊢
  rw [profile?_withProfile]
  split
  · rename_i same
    obtain ⟨old, saved, own⟩ := (Option.any_eq_true _ _).1 linked
    have subject_eq : old.subject = profile.subject := eq_of_beq own
    rw [same, saved, Option.any_some, Option.any_some, subject_eq]
  · rfl

theorem Kept.of_some {a? : Option Account} (alike : Option.Rel Kept (some a) a?) : ∃ b, a? = some b ∧ a.Kept b := by
  cases alike with
  | some kept => exact ⟨_, rfl, kept⟩

theorem Kept.meet {a? b? c? : Option Account} (first : Option.Rel Kept a? c?) (second : Option.Rel Kept b? c?) :
    Option.Rel Kept a? b? := by
  cases first with
  | none =>
    cases second
    exact .none
  | some early =>
    cases second with
    | some late => exact .some (early.trans late.symm)

end Account

theorem Memory.Keyed.stored {m : Memory} {account : Account} (keyed : m.Keyed)
    (member : account ∈ m.accounts.values) : m.accounts.get? account.id = some account := by
  obtain ⟨⟨key, stored⟩, there, rfl⟩ := List.mem_map.1 member
  have found := Table.get?_of_mem there
  rw [keyed key stored found]
  exact found

namespace Interleaving

variable {run : Interleaving} {id n m : Nat} {provider accessToken owner key : String} {profile : Profile}
  {account : Account}

/-! ### What a login saves -/

/-- Before instant `n` call `id` has fetched a record from the provider that it was given, and then found an
account that is linked to the identity in the record. -/
inductive Recognizes (run : Interleaving) (id n : Nat) (profile : Profile) (account : Account) : Prop where
  | of {provider accessToken : String} {i k : Nat} {found : Provider}
      (starts : run.move id = .start (.issueFromProvider provider accessToken))
      (registered : run.service.registry.get? provider = some found) (first : i < k) (before : k < n)
      (answers : run.Does i id (.ambient (.identify found accessToken)) (.ok profile))
      (finds : run.Does k id (.store (.accountByIdentity profile.provider profile.subject)) (.ok (some account)))

/-- A record that a store call saves is one that the call has fetched, for the account that it has found by it. -/
def Confirms (run : Interleaving) (id n : Nat) (call : StoreCall) : Prop :=
  ∀ owner profile, call = .saveProfile owner profile →
    ∃ account, run.Recognizes id n profile account ∧ account.id = owner

/-- A token that a login yields is one of an account that the login has recognized. -/
def Admits (run : Interleaving) (id n : Nat) : Except Failure Token → Prop
  | .ok token => ∃ profile account, run.Recognizes id n profile account ∧ account.id = token.owner
  | .error _ => True

theorem Recognizes.mono (recognizes : run.Recognizes id n profile account) (later : n ≤ m) :
    run.Recognizes id m profile account := by
  obtain ⟨starts, registered, first, before, answers, finds⟩ := recognizes
  exact .of starts registered first (Nat.lt_of_lt_of_le before later) answers finds

theorem issueFromProvider_confirms (starts : run.move id = .start (.issueFromProvider provider accessToken)) :
    run.Leads id (run.Confirms id) (run.Admits id) n (run.service.issueFromProvider provider accessToken) := by
  refine Leads.log_bind fun a _ => Leads.orThrow_bind (fun _ => trivial) fun found registered => ?_
  refine Leads.bind (Course.ambient fun i answer _ _ answers => ?_)
  cases answer with
  | error failure => exact trivial
  | ok profile =>
    refine Leads.read_bind (fun _ _ => rfl) (fun _ _ _ => nofun) fun k _ finds => ?_
    split
    · exact Leads.log_bind fun _ _ => Leads.throw trivial
    · rename_i account known
      rw [known] at finds
      have recognizes (m : Nat) (later : k + 1 ≤ m) : run.Recognizes id m profile account :=
        .of starts registered (by omega) (by omega) answers finds
      -- The record is compared and saved some time after the account was read.
      have confirms (m : Nat) (later : k + 1 ≤ m) : run.Confirms id m (.saveProfile account.id profile) := by
        intro owner other same
        obtain ⟨rfl, rfl⟩ := StoreCall.saveProfile.inj same
        exact ⟨account, recognizes m later, rfl⟩
      refine Leads.lift_bind (refreshProfile_course confirms fun b _ => ?_)
      refine Leads.lift_bind (newToken_course fun c now access refresh _ _ => ?_)
      refine mint_walk (fun _ _ _ _ _ => nofun) (fun a m early before _ => ?_) fun _ _ _ => trivial
      exact ⟨profile, account, recognizes m (by omega), rfl⟩

/-- No other call saves records, and a login saves those that it has fetched. -/
theorem Does.confirms {call : StoreCall} {answer : call.Answer} (does : run.Does n id (.store call) answer) :
    run.Confirms id n call := by
  intro owner profile saves
  subst saves
  obtain ⟨⟨started, starts⟩, -⟩ := does.started
  obtain ⟨heard, before, after, result, -, dialogue⟩ := does.dialogue starts
  have conduct := dialogue.meets (Dialogue.perform_conduct run.service started)
  obtain ⟨provider, accessToken, rfl⟩ := conduct.permitted _ (List.mem_append_right before List.mem_cons_self)
  have leads : run.Leads id (run.Confirms id) (fun _ _ => True) (id + 1)
      (run.service.perform (.issueFromProvider provider accessToken)) :=
    Leads.map ((issueFromProvider_confirms starts).mono fun _ _ _ => trivial)
  exact does.meets starts leads owner profile rfl

theorem Returned.recognizes {token : Token} (returned : run.Returned n id (.ok (.token token)))
    (starts : run.move id = .start (.issueFromProvider provider accessToken)) :
    ∃ profile account, run.Recognizes id n profile account ∧ account.id = token.owner := by
  have leads : run.Leads id (run.Confirms id)
      (fun m result => ∃ token, run.Admits id m token ∧ result = .token <$> token) (id + 1)
      (run.service.perform (.issueFromProvider provider accessToken)) :=
    Leads.map ((issueFromProvider_confirms starts).mono fun m token admits => ⟨token, admits, rfl⟩)
  obtain ⟨m, -, early, -, result, admits, same⟩ := returned.meets starts leads
  cases result with
  | error failure => cases same
  | ok own =>
    obtain rfl := Yield.token.inj (Except.ok.inj same)
    obtain ⟨profile, account, recognizes, own⟩ := admits
    exact ⟨profile, account, recognizes.mono early, own⟩

/-! ### Accounts along a run -/

theorem memory_keyed (keyed : run.initial.Keyed) (n : Nat) : (run.memory n).Keyed := by
  induction n with
  | zero => exact keyed
  | succ n ih =>
    rcases run.memory_succ n with same | ⟨id, call, answer, does⟩
    · rw [same]
      exact ih
    · obtain ⟨now, -, after⟩ := does.step
      rw [after]
      exact ih.step

/-- At one instant no account changes, or a record is saved for one account. -/
theorem accounts_succ (run : Interleaving) (n : Nat) :
    (run.memory (n + 1)).accounts = (run.memory n).accounts ∨
      ∃ id owner profile, run.Does n id (.store (.saveProfile owner profile)) (.ok ()) ∧
        (run.memory (n + 1)).accounts = (run.memory n).accounts.modify owner fun a => a.withProfile profile := by
  rcases run.memory_succ n with same | ⟨id, call, answer, does⟩
  · rw [same]
    exact .inl rfl
  · obtain ⟨now, answered, after⟩ := does.step
    rw [after]
    cases call with
    | saveProfile owner profile =>
      simp only [Memory.step] at answered ⊢
      split at answered
      · rename_i known
        subst answered
        rw [if_pos known]
        exact .inr ⟨id, owner, profile, does, rfl⟩
      · rename_i unknown
        rw [if_neg unknown]
        exact .inl rfl
    | _ => exact .inl (Memory.step_accounts_of_other rfl)

theorem Recognizes.found (recognizes : run.Recognizes id n profile account) (keyed : run.initial.Keyed) :
    ∃ k, k < n ∧ (run.memory k).accounts.get? account.id = some account ∧
      account.isLinkedTo profile.provider profile.subject = true := by
  obtain ⟨starts, registered, first, before, answers, finds⟩ := recognizes
  obtain ⟨member, linked⟩ := finds.finds_by_identity
  exact ⟨_, before, (memory_keyed keyed _).stored member, linked⟩

/-- The accounts of any instant are those of the start, each linked to what it was linked to. -/
theorem accounts_kept (keyed : run.initial.Keyed) (n : Nat) (key : String) :
    Option.Rel Account.Kept ((run.memory n).accounts.get? key) (run.initial.accounts.get? key) := by
  -- A record that is saved goes by what its call has found at an earlier instant.
  induction n using Nat.strongRecOn generalizing key with
  | ind n ih =>
    cases n with
    | zero =>
      rw [show run.memory 0 = run.initial from rfl]
      cases run.initial.accounts.get? key with
      | none => exact .none
      | some account => exact .some (.refl account)
    | succ n =>
      have current := ih n (Nat.lt_succ_self n) key
      rcases run.accounts_succ n with same | ⟨id, owner, profile, does, saved⟩
      · rw [same]
        exact current
      · rw [saved, Table.get?_modify]
        split
        · rename_i here
          subst here
          obtain ⟨account, recognizes, rfl⟩ := does.confirms key profile rfl
          obtain ⟨k, before, found, linked⟩ := recognizes.found keyed
          have alike := Account.Kept.meet (ih k (Nat.lt_succ_of_lt before) account.id) current
          rw [found] at alike
          obtain ⟨later, read, kept⟩ := Account.Kept.of_some alike
          rw [read] at current ⊢
          obtain ⟨original, first, since⟩ := Account.Kept.of_some current
          have still : later.isLinkedTo profile.provider profile.subject = true := by
            rw [kept.links]
            exact linked
          rw [first]
          exact .some ((Account.Kept.withProfile still).symm.trans since)
        · exact current

theorem accounts_alike (keyed : run.initial.Keyed) (n m : Nat) (key : String) :
    Option.Rel Account.Kept ((run.memory n).accounts.get? key) ((run.memory m).accounts.get? key) :=
  Account.Kept.meet (accounts_kept keyed n key) (accounts_kept keyed m key)

/-- An account that was recognized is linked to the identity at every instant, before and after. -/
theorem Recognizes.linked (recognizes : run.Recognizes id n profile account) (keyed : run.initial.Keyed) (m : Nat) :
    ∃ current, (run.memory m).accounts.get? account.id = some current ∧
      current.isLinkedTo profile.provider profile.subject = true := by
  obtain ⟨k, before, found, linked⟩ := recognizes.found keyed
  have alike := accounts_alike keyed k m account.id
  rw [found] at alike
  obtain ⟨current, read, kept⟩ := Account.Kept.of_some alike
  refine ⟨current, read, ?_⟩
  rw [kept.links]
  exact linked

/-- However logins and other calls overlap, the accounts are the same at all instants, with the same ids, email
addresses, passwords and registrations, and each identity is linked to the same of them. What changes in an
account is one record at a time, which is replaced by one that a login has fetched from a provider. So whoever
logs in by a provider gets a token of an account that is linked to the identity, as it was before. -/
theorem identities_stay_linked (run : Interleaving) (keyed : run.initial.Keyed) :
    (∀ n m key, Option.Rel Account.Kept ((run.memory n).accounts.get? key) ((run.memory m).accounts.get? key)) ∧
    (∀ n key before after, (run.memory n).accounts.get? key = some before →
      (run.memory (n + 1)).accounts.get? key = some after → after = before ∨
        ∃ id profile account, run.Does n id (.store (.saveProfile key profile)) (.ok ()) ∧
          run.Recognizes id n profile account ∧ account.id = key ∧
          after = { before with profiles := after.profiles } ∧
          ∀ provider, after.profile? provider =
            if provider = profile.provider then some profile else before.profile? provider) ∧
    (∀ n id provider accessToken token, run.move id = .start (.issueFromProvider provider accessToken) →
      run.Returned n id (.ok (.token token)) → ∃ profile account, run.Recognizes id n profile account ∧
        account.id = token.owner ∧ ∀ m, ∃ current, (run.memory m).accounts.get? token.owner = some current ∧
          current.isLinkedTo profile.provider profile.subject = true) := by
  refine ⟨accounts_alike keyed, ?_, ?_⟩
  · intro n key before after found changed
    rcases run.accounts_succ n with same | ⟨id, owner, profile, does, saved⟩
    · rw [same, found] at changed
      exact .inl (Option.some.inj changed).symm
    · rw [saved, Table.get?_modify, found] at changed
      split at changed
      · rename_i here
        subst here
        obtain rfl := Option.some.inj changed
        obtain ⟨account, recognizes, own⟩ := does.confirms key profile rfl
        exact .inr ⟨id, profile, account, does, recognizes, own, rfl, before.profile?_withProfile profile⟩
      · exact .inl (Option.some.inj changed).symm
  · intro n id provider accessToken token starts returned
    obtain ⟨profile, account, recognizes, own⟩ := returned.recognizes starts
    refine ⟨profile, account, recognizes, own, fun m => ?_⟩
    obtain ⟨current, found, linked⟩ := recognizes.linked keyed m
    exact ⟨current, own ▸ found, linked⟩

/-- Two logins of one user, with different records of the same identity. Each has found the account before the other
saves its record. -/
def overlap : Interleaving :=
  let resume (email : String) (id : Nat) (text : String) : Move :=
    .resume id ⟨.ofSeconds 0, text, .ok ⟨"p", "s", some email, []⟩⟩
  ofMoves ⟨Registry.empty.register ⟨"p", fun _ => .done (.error .unknownToken)⟩, 3600, 600⟩
    (Memory.empty.insertAccount ⟨"u", "", none, none, Table.empty.insert "p" ⟨"p", "s", none, []⟩⟩)
    ([.start (.issueFromProvider "p" ""), .start (.issueFromProvider "p" "")] ++
      ["", "", ""].map (resume "early" 0) ++ ["", "", ""].map (resume "late" 1) ++
      ["", ""].map (resume "early" 0) ++ ["", "", "", "a", "r", "", ""].map (resume "late" 1))

/-- Both records were saved, the second one over the first, and the account is linked to the identity as before. -/
theorem overlap_stays_linked : overlap.initial.Keyed ∧
    overlap.Does 9 0 (.store (.saveProfile "u" ⟨"p", "s", some "early", []⟩)) (.ok ()) ∧
    overlap.Does 11 1 (.store (.saveProfile "u" ⟨"p", "s", some "late", []⟩)) (.ok ()) ∧
    ∃ token profile account, overlap.Returned 17 1 (.ok (.token token)) ∧
      overlap.Recognizes 1 17 profile account ∧
      ∃ current, (overlap.memory 17).accounts.get? token.owner = some current ∧
        current.isLinkedTo profile.provider profile.subject = true := by
  have keyed : overlap.initial.Keyed := Memory.Keyed.empty.insertAccount
  have saved : overlap.Does 9 0 (.store (.saveProfile "u" ⟨"p", "s", some "early", []⟩)) (.ok ()) :=
    ⟨_, _, _, rfl, rfl, rfl⟩
  have again : overlap.Does 11 1 (.store (.saveProfile "u" ⟨"p", "s", some "late", []⟩)) (.ok ()) :=
    ⟨_, _, _, rfl, rfl, rfl⟩
  have returned : overlap.Returned 17 1 (.ok (.token (.issued "u" 3600 (.ofSeconds 0) "a" "r"))) := ⟨_, rfl⟩
  obtain ⟨-, -, logins⟩ := identities_stay_linked overlap keyed
  obtain ⟨profile, account, recognizes, -, stays⟩ := logins 17 1 "p" "" _ rfl returned
  exact ⟨keyed, saved, again, _, profile, account, returned, recognizes, stays 17⟩

end Interleaving

end TokenAuthority
