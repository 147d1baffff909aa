import Mathlib.Data.List.Find
import TokenAuthority.Proofs.Alone.Saving
import TokenAuthority.Proofs.Database.Tables
import TokenAuthority.Proofs.Interleaving.Links

/-!
# A login by a provider

Whoever a provider recognizes gets a token of the account that is linked to the identity, and the account then has the
provider's record. The record is saved only if it differs from the one that is there, and the login does not depend on
whether it can be saved.
-/

namespace TokenAuthority

/-! ### Equality of records -/

mutual

theorem Json.same_refl : ∀ value : Json, value.same value = true
  | .null => rfl
  | .bool b => beq_self_eq_true b
  | .number (.integer n) => beq_self_eq_true n
  | .number (.float x) => by simp [same, Number.same, Decimal.Binary64.same]
  | .text s => beq_self_eq_true s
  | .array items => sameItems_refl items
  | .object members => sameMembers_refl members

theorem Json.sameItems_refl : ∀ items : List Json, sameItems items items = true
  | [] => rfl
  | item :: items => by rw [sameItems, same_refl item, sameItems_refl items, Bool.and_self]

theorem Json.sameMembers_refl : ∀ members : Members, sameMembers members members = true
  | [] => rfl
  | (key, value) :: members => by
    rw [sameMembers, beq_self_eq_true, same_refl value, sameMembers_refl members, Bool.and_self, Bool.and_self]

end

theorem Profile.same_refl (profile : Profile) : profile.same profile = true := by
  simp [same, Json.sameMembers_refl]

/-! ### Registered providers -/

/-- The provider that counts for an id: the last one with it. -/
def Provider.last? (registrations : List Provider) (id : String) : Option Provider :=
  registrations.reverse.find? fun provider => provider.id == id

/-- The registry after providers were registered one by one. -/
def Registry.of (registrations : List Provider) : Registry := registrations.foldl register empty

theorem Registry.get?_of (registrations : List Provider) (id : String) :
    (of registrations).get? id = Provider.last? registrations id := by
  induction registrations using List.reverseRecOn with
  | nil => rfl
  | append_singleton earlier provider ih =>
    rw [of, List.foldl_append, ← of, Provider.last?, List.reverse_append]
    show ((of earlier).providers.insert provider.id provider).get? id = _
    rw [Table.get?_insert, List.reverse_singleton, List.singleton_append, List.find?_cons]
    by_cases own : id = provider.id
    · rw [if_pos own, own, beq_self_eq_true]
    · rw [if_neg own, beq_false_of_ne (Ne.symm own)]
      exact ih

/-! ### The course of a login -/

namespace World

variable {w : World} {s : Service} {fails : Option Failure} {j : Journal} {m : Memory}

/-- The token that a login issues for an account. The clock is read for it last. -/
def loginToken (s : Service) (w : World) (j : Journal) (account : Account) (profile : Profile) : Token :=
  .issued account.id s.tokenLifetime (w.clock (j.readings + if account.hasSaved profile then 1 else 2))
    (w.text j.drawn) (w.text (j.drawn + 1))

/-- What the store holds after a record was saved if need be. -/
def afterSaving (w : World) (fails : Option Failure) (j : Journal) (m : Memory) (account : Account)
    (profile : Profile) : Memory :=
  if account.hasSaved profile then m else (attempt fails (w.clock (j.readings + 1)) account.id profile m).2

/-- The store calls by which a record is saved if need be. -/
def saves (account : Account) (profile : Profile) : List StoreCall :=
  if account.hasSaved profile then [] else [.saveProfile account.id profile]

theorem course_issueFromProvider {provider accessToken : String} : ∃ journal,
    w.course fails (s.issueFromProvider provider accessToken) (j, m) =
      match s.recognized w provider accessToken with
      | .error failure => (.error failure, [], journal, m)
      | .ok profile =>
        let search := StoreCall.accountByIdentity profile.provider profile.subject
        match m.accountByIdentity? profile.provider profile.subject with
        | none => (.error .unlinkedIdentity, [search], journal, m)
        | some account =>
          let token := loginToken s w j account profile
          let added := (w.afterSaving fails j m account profile).adding token
          (added.1, search :: saves account profile ++ [.addToken token], journal, added.2) := by
  rw [Service.issueFromProvider, course_bind, course_log]
  simp only [course_bind, Service.recognized]
  cases s.registry.get? provider with
  | none => exact ⟨_, rfl⟩
  | some found =>
    obtain ⟨exchanges, asks⟩ := @course_identify w fails _ m found accessToken
    simp only [Service.orThrow, course_pure]
    rw [asks]
    cases w.identified found accessToken with
    | error failure => exact ⟨_, rfl⟩
    | ok profile =>
      simp only [course_accountByIdentity]
      cases m.accountByIdentity? profile.provider profile.subject with
      | none => exact ⟨_, rfl⟩
      | some account =>
        simp only [course_bind]
        obtain ⟨events, refreshes⟩ := @course_refreshProfile w fails _ m account profile
        rw [refreshes]
        simp only [loginToken, afterSaving, saves]
        by_cases saved : account.hasSaved profile = true
        · simp only [saved, if_true, course_newToken]
          obtain ⟨after, mints⟩ := @course_mint w fails _ m _
          rw [mints]
          exact ⟨_, rfl⟩
        · simp only [saved, Bool.false_eq_true, if_false, course_newToken]
          obtain ⟨after, mints⟩ := @course_mint w fails _ _ _
          rw [mints]
          exact ⟨_, rfl⟩

end World

/-! ### Who is let in -/

/-- No two accounts are linked to one identity. -/
def Memory.UniqueLinks (m : Memory) : Prop :=
  ∀ a ∈ m.accounts.values, ∀ b ∈ m.accounts.values, ∀ provider subject,
    a.isLinkedTo provider subject = true → b.isLinkedTo provider subject = true → a = b

/-- The provider that counts for an id turns the access token into a record. -/
def World.Fetches (w : World) (registrations : List Provider) (id accessToken : String) (profile : Profile) : Prop :=
  ∃ provider, Provider.last? registrations id = some provider ∧ w.identified provider accessToken = .ok profile

/-- A stored account has an entry under the provider of the record, and it is of the user of the record. -/
structure Memory.Links (m : Memory) (profile : Profile) (account : Account) : Prop where
  stored : account ∈ m.accounts.values
  entry : ∃ saved, account.profile? profile.provider = some saved ∧ saved.subject = profile.subject

/-- The entry of an account differs from a record. -/
def Account.Differs (account : Account) (profile : Profile) : Prop :=
  ∀ saved, account.profile? profile.provider = some saved → saved.same profile = false

section

variable {m : Memory} {account : Account} {profile : Profile} {token : Token}

theorem Memory.Built.accountsKeyed (built : m.Built) : m.Keyed := by
  induction built with
  | empty => exact .empty
  | account _ _ ih => exact ih.insertAccount
  | step _ _ _ ih => exact ih.step

theorem Account.isLinkedTo_iff {provider subject : String} : account.isLinkedTo provider subject = true ↔
    ∃ saved, account.profile? provider = some saved ∧ saved.subject = subject := by
  simp [isLinkedTo, Option.any_eq_true]

theorem Account.hasSaved_eq_false_iff : account.hasSaved profile = false ↔ account.Differs profile := by
  simp [hasSaved, Differs, Option.any_eq_false]

/-- A search that cannot tell a record from the changed one finds the same record, changed if it is that one. -/
theorem Table.find?_values_modify {α : Type} {t : Table α} {key : String} {f : α → α} {p : α → Bool}
    (kept : ∀ a, t.get? key = some a → p (f a) = p a) : (t.modify key f).values.find? p =
      (t.entries.find? (p ∘ Prod.snd)).map fun e => if e.1 = key then f e.2 else e.2 := by
  rw [values, modify, List.map_map, List.find?_map]
  have alike (e : String × α) (mem : e ∈ t.entries) :
      (p ∘ Prod.snd ∘ fun e => if e.1 = key then (e.1, f e.2) else e) e = (p ∘ Prod.snd) e := by
    simp only [Function.comp]
    split
    · rename_i here
      exact kept e.2 (here ▸ get?_of_mem mem)
    · rfl
  rw [List.find?_congr alike]
  congr 1
  funext e
  simp only [Function.comp]
  split <;> rfl

theorem Memory.UniqueLinks.find_iff (unique : m.UniqueLinks) :
    m.accountByIdentity? profile.provider profile.subject = some account ↔ m.Links profile account := by
  have only : m.accountByIdentity? profile.provider profile.subject = some account ↔
      account ∈ m.accounts.values ∧ account.isLinkedTo profile.provider profile.subject = true :=
    find?_eq_some_iff_of_unique fun a mem b mem' => unique a mem b mem' _ _
  rw [only, Account.isLinkedTo_iff]
  exact ⟨fun ⟨stored, entry⟩ => ⟨stored, entry⟩, fun ⟨stored, entry⟩ => ⟨stored, entry⟩⟩

/-- What is stored of accounts plays no role when a token is added. -/
theorem Memory.adding_with_accounts (accounts : Table Account) :
    ({ m with accounts := accounts } : Memory).adding token =
      ((m.adding token).1, { (m.adding token).2 with accounts := accounts }) := by
  by_cases used : m.tokens.contains token.access = true <;> simp [adding, insertToken?, used]

theorem Memory.adding_accounts : (m.adding token).2.accounts = m.accounts := by
  by_cases used : m.tokens.contains token.access = true <;> simp [adding, insertToken?, used]

theorem Memory.adding_frame (m : Memory) (token : Token) :
    { (m.adding token).2 with accounts := m.accounts } = (m.adding token).2 := by
  have accounts : (m.adding token).2.accounts = m.accounts := adding_accounts
  rw [← accounts]

theorem Memory.adding_eq_ok {other : Token} (adds : (m.adding token).1 = .ok other) :
    m.insertToken? other = some (m.adding token).2 := by
  unfold adding at adds ⊢
  split at adds
  · rename_i after inserted
    obtain rfl := Except.ok.inj adds
    exact inserted
  · cases adds

theorem Memory.adding_eq_ok_iff (unused : m.tokens.get? token.access = none) {other : Token} :
    (m.adding token).1 = .ok other ↔ other = token := by
  obtain ⟨after, inserted⟩ := insertToken?_of_unused unused
  rw [adding, inserted]
  exact ⟨fun same => (Except.ok.inj same).symm, fun same => same ▸ rfl⟩

end

namespace World

variable {w : World} {s : Service} {fails : Option Failure} {j : Journal} {m : Memory} {account : Account}
  {profile : Profile} {provider accessToken : String} {registrations : List Provider}

/-- The accounts after a record was to be saved if need be. -/
def accountsAfter (fails : Option Failure) (m : Memory) (account : Account) (profile : Profile) : Table Account :=
  if account.hasSaved profile ∨ fails.isSome then m.accounts
  else m.accounts.modify account.id fun a => a.withProfile profile

theorem afterSaving_eq (known : m.accounts.contains account.id = true) :
    w.afterSaving fails j m account profile = { m with accounts := accountsAfter fails m account profile } := by
  unfold afterSaving accountsAfter
  by_cases saved : account.hasSaved profile = true
  · simp [saved]
  · cases fails with
    | none => simp [saved, attempt, Memory.step, known]
    | some failure => simp [saved, attempt]

theorem recognized_eq_ok_iff (registered : s.registry = .of registrations) :
    s.recognized w provider accessToken = .ok profile ↔ w.Fetches registrations provider accessToken profile := by
  rw [Service.recognized, registered, Registry.get?_of, Fetches]
  cases Provider.last? registrations provider with
  | none => simp
  | some found => simp

/-- The course of a login that comes to an account. -/
theorem course_of_links (fails : Option Failure) (j : Journal) (registered : s.registry = .of registrations)
    (keyed : m.Keyed) (unique : m.UniqueLinks) (fetches : w.Fetches registrations provider accessToken profile)
    (links : m.Links profile account) :
    ∃ journal, w.course fails (s.issueFromProvider provider accessToken) (j, m) =
      ((m.adding (loginToken s w j account profile)).1, .accountByIdentity profile.provider profile.subject ::
          saves account profile ++ [.addToken (loginToken s w j account profile)], journal,
        { (m.adding (loginToken s w j account profile)).2 with accounts := accountsAfter fails m account profile }) := by
  obtain ⟨journal, course⟩ := @course_issueFromProvider w s fails j m provider accessToken
  have known : m.accounts.contains account.id = true := by
    rw [Table.contains, keyed.stored links.stored]
    rfl
  rw [(recognized_eq_ok_iff registered).2 fetches] at course
  simp only [unique.find_iff.2 links, afterSaving_eq known, Memory.adding_with_accounts] at course
  exact ⟨journal, course⟩

/-- Afterwards the entry is equal to the record that was fetched. -/
theorem accountsAfter_saved (keyed : m.Keyed) (links : m.Links profile account) : ∃ current saved,
    (accountsAfter none m account profile).get? account.id = some current ∧
      current.profile? profile.provider = some saved ∧ saved.same profile = true := by
  have stored := keyed.stored links.stored
  by_cases has : account.hasSaved profile = true
  · obtain ⟨saved, entry, equal⟩ := (Option.any_eq_true _ _).1 has
    refine ⟨account, saved, ?_, entry, equal⟩
    rw [accountsAfter, if_pos (.inl has), stored]
  · refine ⟨account.withProfile profile, profile, ?_, ?_, profile.same_refl⟩
    · simp [accountsAfter, has, Table.get?_modify, stored]
    · rw [Account.profile?_withProfile, if_pos rfl]

/-- The identity is found again, at an account that has the record. -/
theorem finds_again {after : Memory} (keyed : m.Keyed) (unique : m.UniqueLinks) (links : m.Links profile account)
    (accounts : after.accounts = accountsAfter none m account profile) : ∃ current,
    after.accountByIdentity? profile.provider profile.subject = some current ∧ current.hasSaved profile = true := by
  have found := unique.find_iff.2 links
  have stored := keyed.stored links.stored
  rw [Memory.accountByIdentity?, accounts]
  by_cases has : account.hasSaved profile = true
  · rw [accountsAfter, if_pos (.inl has)]
    exact ⟨account, found, has⟩
  · rw [accountsAfter, if_neg (by simpa using has)]
    refine ⟨account.withProfile profile, ?_, ?_⟩
    · rw [Memory.accountByIdentity?, Table.values, List.find?_map] at found
      obtain ⟨⟨key, own⟩, first, same⟩ := Option.map_eq_some_iff.1 found
      obtain rfl : own = account := same
      have key_eq : own.id = key := keyed key own (Table.get?_of_mem (List.mem_of_find?_eq_some first))
      -- The record replaces one of the same identity, so the account is linked to it still.
      have kept (other : Account) (read : m.accounts.get? own.id = some other) :
          (other.withProfile profile).isLinkedTo profile.provider profile.subject =
            other.isLinkedTo profile.provider profile.subject := by
        obtain rfl := Option.some.inj (stored.symm.trans read)
        exact (Account.Kept.withProfile (Account.isLinkedTo_iff.2 links.entry)).links _ _
      rw [Table.find?_values_modify kept]
      exact (congrArg (Option.map _) first).trans (by simp [key_eq])
    · rw [Account.hasSaved, Account.profile?_withProfile, if_pos rfl]
      exact profile.same_refl

theorem mem_saves {owner : String} {record : Profile} :
    .saveProfile owner record ∈ saves account profile ↔
      account.Differs profile ∧ owner = account.id ∧ record = profile := by
  rw [saves, ← Account.hasSaved_eq_false_iff]
  cases account.hasSaved profile <;> simp

theorem alone_of_unrecognized {failure : Failure}
    (unrecognized : s.recognized w provider accessToken = .error failure) :
    (w.alone (s.issueFromProvider provider accessToken) (j, m)).1 = .error failure ∧
      (w.alone (s.issueFromProvider provider accessToken) (j, m)).2.2 = m := by
  obtain ⟨journal, course⟩ := @course_issueFromProvider w s none j m provider accessToken
  rw [unrecognized] at course
  rw [alone_eq_course, course]
  exact ⟨rfl, rfl⟩

section

variable (registered : s.registry = .of registrations) (keyed : m.Keyed) (unique : m.UniqueLinks)

include registered unique

/-- A login comes to an account, or it makes no store call but a search and changes nothing. -/
theorem comes_to_account_or_fails (w : World) (provider accessToken : String) :
    (∃ profile account, w.Fetches registrations provider accessToken profile ∧ m.Links profile account) ∨
    ∃ failure, ∀ fails j, ∃ journal calls, w.course fails (s.issueFromProvider provider accessToken) (j, m) =
      (.error failure, calls, journal, m) ∧ ∀ owner record, .saveProfile owner record ∉ calls := by
  cases recognized : s.recognized w provider accessToken with
  | error failure =>
    refine .inr ⟨failure, fun fails j => ?_⟩
    obtain ⟨journal, course⟩ := @course_issueFromProvider w s fails j m provider accessToken
    rw [recognized] at course
    exact ⟨journal, [], course, fun _ _ => List.not_mem_nil⟩
  | ok profile =>
    have fetches := (recognized_eq_ok_iff registered).1 recognized
    cases found : m.accountByIdentity? profile.provider profile.subject with
    | some account => exact .inl ⟨profile, account, fetches, unique.find_iff.1 found⟩
    | none =>
      refine .inr ⟨.unlinkedIdentity, fun fails j => ?_⟩
      obtain ⟨journal, course⟩ := @course_issueFromProvider w s fails j m provider accessToken
      rw [recognized] at course
      simp only [found] at course
      exact ⟨journal, _, course, by simp⟩

theorem alone_of_unlinked (fetches : w.Fetches registrations provider accessToken profile)
    (nobody : ∀ account, ¬m.Links profile account) :
    (w.alone (s.issueFromProvider provider accessToken) (j, m)).1 = .error .unlinkedIdentity ∧
      (w.alone (s.issueFromProvider provider accessToken) (j, m)).2.2 = m := by
  obtain ⟨journal, course⟩ := @course_issueFromProvider w s none j m provider accessToken
  have unlinked : m.accountByIdentity? profile.provider profile.subject = none :=
    Option.eq_none_iff_forall_ne_some.2 fun account found => nobody account (unique.find_iff.1 found)
  rw [(recognized_eq_ok_iff registered).2 fetches] at course
  simp only [unlinked] at course
  rw [alone_eq_course, course]
  exact ⟨rfl, rfl⟩

include keyed

theorem alone_of_links (fetches : w.Fetches registrations provider accessToken profile)
    (links : m.Links profile account) :
    (w.alone (s.issueFromProvider provider accessToken) (j, m)).1 = (m.adding (loginToken s w j account profile)).1 ∧
      (w.alone (s.issueFromProvider provider accessToken) (j, m)).2.2 =
        { (m.adding (loginToken s w j account profile)).2 with accounts := accountsAfter none m account profile } := by
  obtain ⟨journal, course⟩ := course_of_links none j registered keyed unique fetches links
  rw [alone_eq_course, course]
  exact ⟨rfl, rfl⟩

theorem alone_provider_eq_ok_iff (unused : m.tokens.get? (w.text j.drawn) = none) {token : Token} :
    (w.alone (s.issueFromProvider provider accessToken) (j, m)).1 = .ok token ↔
      ∃ profile account, w.Fetches registrations provider accessToken profile ∧ m.Links profile account ∧
        token = loginToken s w j account profile := by
  constructor
  · intro issues
    rcases comes_to_account_or_fails registered unique w provider accessToken with
      ⟨profile, account, fetches, links⟩ | ⟨failure, courses⟩
    · rw [(alone_of_links registered keyed unique fetches links).1, Memory.adding_eq_ok_iff unused] at issues
      exact ⟨profile, account, fetches, links, issues⟩
    · obtain ⟨journal, calls, course, -⟩ := courses none j
      rw [alone_eq_course, course] at issues
      cases issues
  · rintro ⟨profile, account, fetches, links, rfl⟩
    rw [(alone_of_links registered keyed unique fetches links).1, Memory.adding_eq_ok_iff unused]

theorem alone_provider_stores {token : Token}
    (issues : (w.alone (s.issueFromProvider provider accessToken) (j, m)).1 = .ok token) :
    m.insertToken? token =
      some { (w.alone (s.issueFromProvider provider accessToken) (j, m)).2.2 with accounts := m.accounts } := by
  rcases comes_to_account_or_fails registered unique w provider accessToken with
    ⟨profile, account, fetches, links⟩ | ⟨failure, courses⟩
  · obtain ⟨result, after⟩ := alone_of_links (j := j) registered keyed unique fetches links
    rw [after, Memory.adding_eq_ok (result ▸ issues)]
    exact congrArg some (Memory.adding_frame _ _).symm
  · obtain ⟨journal, calls, course, -⟩ := courses none j
    rw [alone_eq_course, course] at issues
    cases issues

theorem course_saves_iff {owner : String} {record : Profile} :
    .saveProfile owner record ∈ (w.course none (s.issueFromProvider provider accessToken) (j, m)).2.1 ↔
      ∃ account, w.Fetches registrations provider accessToken record ∧ m.Links record account ∧
        account.Differs record ∧ owner = account.id := by
  have of_links {profile : Profile} {account : Account}
      (fetches : w.Fetches registrations provider accessToken profile) (links : m.Links profile account) :
      .saveProfile owner record ∈ (w.course none (s.issueFromProvider provider accessToken) (j, m)).2.1 ↔
        account.Differs profile ∧ owner = account.id ∧ record = profile := by
    obtain ⟨journal, course⟩ := course_of_links none j registered keyed unique fetches links
    rw [course, ← mem_saves]
    simp
  constructor
  · intro saves
    rcases comes_to_account_or_fails registered unique w provider accessToken with
      ⟨profile, account, fetches, links⟩ | ⟨failure, courses⟩
    · obtain ⟨differs, rfl, rfl⟩ := (of_links fetches links).1 saves
      exact ⟨account, fetches, links, differs, rfl⟩
    · obtain ⟨journal, calls, course, none⟩ := courses none j
      rw [course] at saves
      exact (none owner record saves).elim
  · rintro ⟨account, fetches, links, differs, rfl⟩
    exact (of_links fetches links).2 ⟨differs, rfl, rfl⟩

/-- A login for a record that is saved already does not save it. -/
theorem course_again {w' : World} {j' : Journal} (links : m.Links profile account)
    (fetches : w'.Fetches registrations provider accessToken profile) {after : Memory}
    (accounts : after.accounts = accountsAfter none m account profile) :
    let again := w'.course none (s.issueFromProvider provider accessToken) (j', after)
    (∀ owner record, .saveProfile owner record ∉ again.2.1) ∧ again.2.2.2.accounts = after.accounts := by
  intro again
  obtain ⟨current, found, has⟩ := finds_again keyed unique links accounts
  obtain ⟨journal, course⟩ := @course_issueFromProvider w' s none j' after provider accessToken
  rw [(recognized_eq_ok_iff registered).2 fetches] at course
  simp only [found] at course
  have calls : again.2.1 = _ := congrArg (·.2.1) course
  have memory : again.2.2.2 = _ := congrArg (·.2.2.2) course
  rw [calls, memory, Memory.adding_accounts, afterSaving, if_pos has, saves, if_pos has]
  exact ⟨by simp, rfl⟩

/-- Whether records can be saved makes a difference to the accounts alone. -/
theorem course_tolerates (failure : Failure) :
    let failed := w.course (some failure) (s.issueFromProvider provider accessToken) (j, m)
    failed.1 = (w.alone (s.issueFromProvider provider accessToken) (j, m)).1 ∧
      failed.2.2.2 =
        { (w.alone (s.issueFromProvider provider accessToken) (j, m)).2.2 with accounts := m.accounts } := by
  intro failed
  rcases comes_to_account_or_fails registered unique w provider accessToken with
    ⟨profile, account, fetches, links⟩ | ⟨reason, courses⟩
  · obtain ⟨result, after⟩ := alone_of_links (j := j) registered keyed unique fetches links
    obtain ⟨journal, course⟩ :=
      course_of_links (some failure) j registered keyed unique fetches links
    have unsaved : accountsAfter (some failure) m account profile = m.accounts := if_pos (.inr rfl)
    rw [result, after, show failed = _ from course, unsaved]
    exact ⟨rfl, rfl⟩
  · obtain ⟨journal, calls, course, -⟩ := courses none j
    obtain ⟨journal', calls', course', -⟩ := courses (some failure) j
    rw [alone_eq_course, course, show failed = _ from course']
    exact ⟨rfl, rfl⟩

end

end World

end TokenAuthority
