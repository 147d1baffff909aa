import Mathlib.Data.List.Forall2
import TokenAuthority.Proofs.Sequence.Subject

/-!
# Two stores that agree on one user

The second store lacks some of what the first one holds, but nothing of one user. Other users have the same
email addresses and the same identities in both. A store call that serves another user keeps the two in
agreement if it is carried out over the first one only, and a call that serves the user if it is over both.
-/

namespace TokenAuthority

/-! ### Records of one user and of others -/

/-- What a table and one that lacks records of others hold under a key. -/
inductive Copies {α : Type} (own : α → Prop) (alike : α → α → Prop) : Option α → Option α → Prop where
  | nothing : Copies own alike none none
  | same {a : α} (mine : own a) : Copies own alike (some a) (some a)
  | lacking {a : α} (other : ¬own a) : Copies own alike (some a) none
  | other {a b : α} (other : ¬own a) (kin : alike a b) : Copies own alike (some a) (some b)

namespace Copies

variable {α : Type} {own : α → Prop} {alike : α → α → Prop} {x y : Option α} {a : α} {f : α → α}

theorem refl (reflexive : ∀ a, alike a a) (x : Option α) : Copies own alike x x := by
  cases x with
  | none => exact .nothing
  | some a =>
    by_cases mine : own a
    · exact .same mine
    · exact .other mine (reflexive a)

theorem eq (copies : Copies own alike x y) (mine : ∀ a, x = some a → own a) : y = x := by
  cases copies with
  | nothing | same => rfl
  | lacking other | other other => exact (other (mine _ rfl)).elim

theorem some_iff (copies : Copies own alike x y) (mine : own a) (kin : ∀ {b}, alike b a → own b) :
    x = some a ↔ y = some a := by
  cases copies with
  | nothing | same => exact Iff.rfl
  | lacking other =>
    refine ⟨?_, nofun⟩
    rintro ⟨⟩
    exact (other mine).elim
  | other other alike =>
    constructor
    · rintro ⟨⟩
      exact (other mine).elim
    · rintro ⟨⟩
      exact (other (kin alike)).elim

theorem ite {c : Prop} [Decidable c] {x' y' : Option α} (copies' : Copies own alike x' y')
    (copies : Copies own alike x y) : Copies own alike (if c then x' else x) (if c then y' else y) := by
  split
  · exact copies'
  · exact copies

theorem map_both (copies : Copies own alike x y) (keeps : ∀ a, own (f a) ↔ own a)
    (kin : ∀ a b, alike a b → alike (f a) (f b)) : Copies own alike (x.map f) (y.map f) := by
  cases copies with
  | nothing => exact .nothing
  | same mine => exact .same ((keeps _).2 mine)
  | lacking other => exact .lacking fun mine => other ((keeps _).1 mine)
  | other other alike => exact .other (fun mine => other ((keeps _).1 mine)) (kin _ _ alike)

theorem map_first (copies : Copies own alike x y) (found : x = some a) (other : ¬own a) (keeps : own (f a) → own a)
    (kin : ∀ b, alike a b → alike (f a) b) : Copies own alike (x.map f) y := by
  subst found
  cases copies with
  | same mine => exact (other mine).elim
  | lacking => exact .lacking fun mine => other (keeps mine)
  | other _ alike => exact .other (fun mine => other (keeps mine)) (kin _ alike)

end Copies

/-- Accounts to which the same email address and the same identities belong. -/
structure Account.Twin (a b : Account) : Prop where
  id : a.id = b.id
  email : a.email = b.email
  linked : ∀ provider subject, a.isLinkedTo provider subject = b.isLinkedTo provider subject

namespace Account

theorem Twin.refl (a : Account) : a.Twin a := ⟨rfl, rfl, fun _ _ => rfl⟩

/-- A new record of a linked identity leaves all links as they are. -/
theorem Twin.withProfile {a b : Account} {profile : Profile} (twin : a.Twin b)
    (linked : a.isLinkedTo profile.provider profile.subject = true) : (a.withProfile profile).Twin b := by
  refine ⟨twin.id, twin.email, fun provider subject => ?_⟩
  rw [← twin.linked]
  simp only [isLinkedTo, profile?, Account.withProfile, Table.get?_insert] at linked ⊢
  split
  · rename_i same
    subst same
    obtain ⟨known, found, equal⟩ := (Option.any_eq_true _ _).1 linked
    rw [found]
    simp only [Option.any_some] at equal ⊢
    rw [eq_of_beq equal]
  · rfl

end Account

/-! ### Stores -/

namespace Memory

variable {m : Memory} {owner other : String} {now : Instant} {call : StoreCall} {account : Account} {profile : Profile}

def Keyed (m : Memory) : Prop := ∀ key account, m.accounts.get? key = some account → account.id = key

theorem Keyed.empty : Memory.empty.Keyed := by
  intro key account found
  cases found

theorem Keyed.insertAccount (keyed : m.Keyed) : (m.insertAccount account).Keyed := by
  intro key stored found
  simp only [Memory.insertAccount, Table.get?_insert] at found
  split at found
  · rename_i same
    obtain rfl := Option.some.inj found
    exact same.symm
  · exact keyed key stored found

theorem Keyed.step (keyed : m.Keyed) : (m.step now call).2.Keyed := by
  cases call with
  | saveProfile account profile =>
    simp only [Memory.step]
    split
    · intro key later found
      obtain ⟨old, stored, rfl⟩ := Table.get?_modify_eq_some.1 found
      have id := keyed key old stored
      split
      · exact id
      · exact id
    · exact keyed
  | _ =>
    rw [Keyed, step_accounts_of_other rfl]
    exact keyed

/-- A record of an identity is saved for the account under the owner's id, which is linked to it already. -/
theorem Keyed.saves (keyed : m.Keyed) (serves : m.Serves owner (.saveProfile other profile)) : other = owner ∧
    ∃ account, m.accounts.get? owner = some account ∧ account.isLinkedTo profile.provider profile.subject = true := by
  obtain ⟨same, account, member, own, linked⟩ := serves
  obtain ⟨⟨key, stored⟩, there, rfl⟩ := List.mem_map.1 member
  have found := Table.get?_of_mem there
  have key_eq : key = owner := (keyed key stored found).symm.trans own
  exact ⟨same, stored, key_eq ▸ found, linked⟩

theorem step_saveProfile_accounts (found : m.accounts.get? owner = some account) :
    (m.step now (.saveProfile owner profile)).2.accounts =
      m.accounts.modify owner fun a => a.withProfile profile := by
  have known : m.accounts.contains owner = true := by rw [Table.contains, found]; rfl
  simp only [Memory.step, known, if_true]

end Memory

/-- A token of another user, which may have changed since. -/
def Token.Kin (a b : Token) : Prop := a.owner = b.owner ∧ a.refresh = b.refresh

/-- Accounts of two stores under one key, which are the same if they are those of one user. -/
def Paired (owner : String) (e e' : String × Account) : Prop :=
  e.1 = e'.1 ∧ e.2.Twin e'.2 ∧ (e.1 = owner → e.2 = e'.2)

namespace Paired

variable {owner : String} {entries entries' : List (String × Account)}
  (paired : List.Forall₂ (Paired owner) entries entries')
include paired

/-- An account of the user is found in both, if it is sought by what twins have in common. -/
theorem find?_eq {p : Account → Bool} (keyed : ∀ e ∈ entries, e.2.id = e.1) (respects : ∀ a b, a.Twin b → p a = p b)
    (mine : ∀ account, (entries.map Prod.snd).find? p = some account → account.id = owner) :
    (entries'.map Prod.snd).find? p = (entries.map Prod.snd).find? p := by
  induction paired with
  | nil => rfl
  | @cons e e' entries entries' head tail ih =>
    obtain ⟨-, twin, same⟩ := head
    simp only [List.map_cons, List.find?_cons, ← respects _ _ twin] at mine ⊢
    cases found : p e.2 with
    | true =>
      simp only [found] at mine
      rw [same ((keyed e List.mem_cons_self).symm.trans (mine e.2 rfl))]
    | false =>
      simp only [found] at mine
      exact ih (fun e member => keyed e (List.mem_cons_of_mem _ member)) mine

theorem lookup_eq : entries'.lookup owner = entries.lookup owner := by
  induction paired with
  | nil => rfl
  | @cons e e' entries entries' head tail ih =>
    obtain ⟨keys, -, same⟩ := head
    obtain ⟨key, account⟩ := e
    obtain ⟨key', account'⟩ := e'
    obtain rfl : key = key' := keys
    rw [List.lookup_cons, List.lookup_cons, ih]
    split
    · rename_i hit
      have equal : account = account' := same (eq_of_beq hit).symm
      rw [equal]
    · rfl

theorem modify_both (f : Account → Account) :
    List.Forall₂ (Paired owner) (entries.map fun e => if e.1 = owner then (e.1, f e.2) else e)
      (entries'.map fun e => if e.1 = owner then (e.1, f e.2) else e) := by
  rw [List.forall₂_map_left_iff, List.forall₂_map_right_iff]
  refine paired.imp fun e e' ⟨keys, twin, same⟩ => ?_
  by_cases mine : e.1 = owner
  · rw [if_pos mine, if_pos (keys ▸ mine), same mine]
    exact ⟨keys, Account.Twin.refl _, fun _ => rfl⟩
  · rw [if_neg mine, if_neg (keys ▸ mine)]
    exact ⟨keys, twin, same⟩

/-- The record of another user gets a new twin in the first store. -/
theorem modify_first {other : String} (f : Account → Account) (different : other ≠ owner)
    (twins : ∀ e ∈ entries, e.1 = other → ∀ b, e.2.Twin b → (f e.2).Twin b) :
    List.Forall₂ (Paired owner) (entries.map fun e => if e.1 = other then (e.1, f e.2) else e) entries' := by
  induction paired with
  | nil => exact .nil
  | @cons e e' entries entries' head tail ih =>
    obtain ⟨keys, twin, same⟩ := head
    refine .cons ?_ (ih fun e member => twins e (List.mem_cons_of_mem _ member))
    beta_reduce
    by_cases theirs : e.1 = other
    · rw [if_pos theirs]
      exact ⟨keys, twins e List.mem_cons_self theirs _ twin, fun mine => (different (theirs.symm.trans mine)).elim⟩
    · rw [if_neg theirs]
      exact ⟨keys, twin, same⟩

end Paired

/-- The second store lacks nothing of one user that the first one holds, and holds nothing else of others. -/
structure Agree (owner : String) (m m' : Memory) : Prop where
  orderly : m.Orderly
  orderly' : m'.Orderly
  keyed : m.Keyed
  tokens : ∀ access,
    Copies (fun token => token.owner = owner) Token.Kin (m.tokens.get? access) (m'.tokens.get? access)
  grants : ∀ code, Copies (fun grant => grant.owner = owner) (fun a b => a.owner = b.owner)
    (m.grants.get? code) (m'.grants.get? code)
  accounts : List.Forall₂ (Paired owner) m.accounts.entries m'.accounts.entries

namespace Agree

variable {owner other : String} {m m' : Memory} {call : StoreCall} {now : Instant}

theorem refl (orderly : m.Orderly) (keyed : m.Keyed) (owner : String) : Agree owner m m := by
  refine ⟨orderly, orderly, keyed, fun access => ?_, fun code => ?_, ?_⟩
  · exact Copies.refl (fun _ => ⟨rfl, rfl⟩) _
  · exact Copies.refl (fun grant => (rfl : grant.owner = grant.owner)) _
  · exact List.forall₂_same.2 fun e _ => ⟨rfl, Account.Twin.refl e.2, fun _ => rfl⟩

/-! ### Lookups -/

theorem token_eq {access : String} (agree : Agree owner m m')
    (mine : ∀ token, m.tokens.get? access = some token → token.owner = owner) :
    m'.tokens.get? access = m.tokens.get? access := (agree.tokens access).eq mine

theorem grant_eq {code : String} (agree : Agree owner m m')
    (mine : ∀ grant, m.grants.get? code = some grant → grant.owner = owner) :
    m'.grants.get? code = m.grants.get? code := (agree.grants code).eq mine

theorem token_kept {access : String} {token : Token} (agree : Agree owner m m')
    (found : m'.tokens.get? access = some token) :
    ∃ old, m.tokens.get? access = some old ∧ old.owner = token.owner ∧ old.refresh = token.refresh := by
  have copies := agree.tokens access
  rw [found] at copies
  generalize m.tokens.get? access = stored at copies
  cases copies with
  | same => exact ⟨token, rfl, rfl, rfl⟩
  | @other old _ _ kin => exact ⟨old, rfl, kin⟩

theorem refreshed_eq {r : String} (agree : Agree owner m m')
    (mine : ∀ token, m.tokenByRefresh? r = some token → token.owner = owner) :
    m'.tokenByRefresh? r = m.tokenByRefresh? r := by
  cases found : m.tokenByRefresh? r with
  | some token =>
    have own := mine token found
    obtain ⟨stored, carries⟩ := agree.orderly.tokenByRefresh?_iff.1 found
    refine agree.orderly'.tokenByRefresh?_iff.2 ⟨?_, carries⟩
    rw [agree.token_eq fun current read => ?_, stored]
    rw [stored] at read
    exact Option.some.inj read ▸ own
  | none =>
    rw [Option.eq_none_iff_forall_ne_some]
    intro token found'
    obtain ⟨stored, carries⟩ := agree.orderly'.tokenByRefresh?_iff.1 found'
    obtain ⟨old, kept, -, refresh⟩ := agree.token_kept stored
    have access := agree.orderly.indexed.keyed kept
    have there := agree.orderly.tokenByRefresh?_iff.2 ⟨by rwa [access], refresh.trans carries⟩
    rw [found] at there
    cases there

theorem mentions {text : String} (agree : Agree owner m m') (mentions : m'.Mentions text) : m.Mentions text := by
  rcases mentions with token | refresh | grant
  · obtain ⟨token, found⟩ := Option.isSome_iff_exists.1 token
    obtain ⟨old, kept, -⟩ := agree.token_kept found
    exact .inl (Option.isSome_iff_exists.2 ⟨old, kept⟩)
  · obtain ⟨access, indexed⟩ := Option.isSome_iff_exists.1 refresh
    obtain ⟨token, found, carries⟩ := agree.orderly'.indexed.indexed.1 indexed
    obtain ⟨old, kept, -, same⟩ := agree.token_kept found
    have there := agree.orderly.indexed.indexed.2 ⟨old, kept, same.trans carries⟩
    exact .inr (.inl (Option.isSome_iff_exists.2 ⟨access, there⟩))
  · obtain ⟨grant, found⟩ := Option.isSome_iff_exists.1 grant
    have copies := agree.grants text
    rw [found] at copies
    refine .inr (.inr (Option.isSome_iff_exists.2 ?_))
    generalize m.grants.get? text = stored at copies
    cases copies with
    | same => exact ⟨grant, rfl⟩
    | other => exact ⟨_, rfl⟩

theorem account_eq {p : Account → Bool} (agree : Agree owner m m') (respects : ∀ a b, a.Twin b → p a = p b)
    (mine : ∀ account, m.accounts.values.find? p = some account → account.id = owner) :
    m'.accounts.values.find? p = m.accounts.values.find? p :=
  Paired.find?_eq agree.accounts (fun e member => agree.keyed e.1 e.2 (Table.get?_of_mem member)) respects mine

theorem account_of_owner (agree : Agree owner m m') : m'.accounts.get? owner = m.accounts.get? owner :=
  Paired.lookup_eq agree.accounts

/-! ### One store call -/

section

variable (agree : Agree owner m m')
include agree

theorem tokens_own (serves : m.Serves owner call) (serves' : m'.Serves owner call) (access : String) :
    Copies (fun token => token.owner = owner) Token.Kin ((m.step now call).2.tokens.get? access)
      ((m'.step now call).2.tokens.get? access) := by
  cases call with
  | addToken token =>
    obtain ⟨own, new⟩ := serves
    obtain ⟨-, new'⟩ := serves'
    rw [Memory.step_addToken_tokens new.access, Memory.step_addToken_tokens new'.access, Table.get?_insert,
      Table.get?_insert]
    exact .ite (.same own) (agree.tokens access)
  | chainToken linked token =>
    obtain ⟨own, new, -, old, stored, -, ready⟩ := serves
    obtain ⟨-, new', -, old', stored', -, ready'⟩ := serves'
    rw [Memory.step_chainToken_tokens stored ready new.access,
      Memory.step_chainToken_tokens stored' ready' new'.access, Table.get?_modify, Table.get?_modify,
      Table.get?_insert, Table.get?_insert]
    have grown : Copies (fun token => token.owner = owner) Token.Kin
        (if access = token.access then some token else m.tokens.get? access)
        (if access = token.access then some token else m'.tokens.get? access) :=
      .ite (.same own) (agree.tokens access)
    exact .ite (grown.map_both (fun _ => Iff.rfl) fun _ _ => id) grown
  | invalidateToken closed =>
    simp only [Memory.step, Table.get?_modify]
    exact .ite ((agree.tokens access).map_both (fun _ => Iff.rfl) fun _ _ => id) (agree.tokens access)
  | _ =>
    rw [(Memory.step_tokens_of_other rfl).1, (Memory.step_tokens_of_other rfl).1]
    exact agree.tokens access

theorem grants_own (serves : m.Serves owner call) (code : String) :
    Copies (fun grant => grant.owner = owner) (fun a b => a.owner = b.owner) ((m.step now call).2.grants.get? code)
      ((m'.step now call).2.grants.get? code) := by
  cases call with
  | addGrant grant =>
    rw [Memory.step_addGrant_grants, Memory.step_addGrant_grants]
    exact .ite (.same serves.1) (agree.grants code)
  | takeGrant taken =>
    rw [Memory.step_takeGrant_grants, Memory.step_takeGrant_grants]
    refine .ite ((agree.grants code).map_both (fun grant => ?_) fun a b kin => ?_) (agree.grants code)
    · rw [Grant.presented_owner]
    · rw [Grant.presented_owner, Grant.presented_owner, kin]
  | _ =>
    rw [Memory.step_grants_of_other rfl, Memory.step_grants_of_other rfl]
    exact agree.grants code

theorem accounts_own (serves : m.Serves owner call) :
    List.Forall₂ (Paired owner) (m.step now call).2.accounts.entries (m'.step now call).2.accounts.entries := by
  cases call with
  | saveProfile account profile =>
    obtain ⟨rfl, found, stored, -⟩ := agree.keyed.saves serves
    have stored' := agree.account_of_owner.trans stored
    rw [Memory.step_saveProfile_accounts stored, Memory.step_saveProfile_accounts stored']
    exact Paired.modify_both agree.accounts (fun a => a.withProfile profile)
  | _ =>
    rw [Memory.step_accounts_of_other rfl, Memory.step_accounts_of_other rfl]
    exact agree.accounts

theorem step_own (serves : m.Serves owner call) (serves' : m'.Serves owner call) :
    Agree owner (m.step now call).2 (m'.step now call).2 where
  orderly := (Memory.step_changes m now call).orderly serves.fits agree.orderly
  orderly' := (Memory.step_changes m' now call).orderly serves'.fits agree.orderly'
  keyed := agree.keyed.step
  tokens := agree.tokens_own serves serves'
  grants := agree.grants_own serves
  accounts := agree.accounts_own serves

variable (serves : m.Serves other call) (different : other ≠ owner)
include serves different

theorem tokens_other (access : String) :
    Copies (fun token => token.owner = owner) Token.Kin ((m.step now call).2.tokens.get? access)
      (m'.tokens.get? access) := by
  -- A new token of the other user is one that the second store lacks: nothing was there in either.
  have grown {token : Token} (own : token.owner = other) (unused : m.tokens.get? token.access = none) :
      Copies (fun token => token.owner = owner) Token.Kin
        (if access = token.access then some token else m.tokens.get? access) (m'.tokens.get? access) := by
    split
    · rename_i same
      subst same
      have absent : m'.tokens.get? token.access = none := (agree.token_eq (by simp [unused])).trans unused
      rw [absent]
      refine .lacking ?_
      rw [own]
      exact different
    · exact agree.tokens access
  cases call with
  | addToken token =>
    obtain ⟨own, new⟩ := serves
    rw [Memory.step_addToken_tokens new.access, Table.get?_insert]
    exact grown own new.access
  | chainToken linked token =>
    obtain ⟨own, new, -, old, stored, kin, ready⟩ := serves
    rw [Memory.step_chainToken_tokens stored ready new.access, Table.get?_modify, Table.get?_insert]
    split
    · rename_i same
      subst same
      have found : (if access = token.access then some token else m.tokens.get? access) = some old := by
        rw [if_neg, stored]
        rintro same
        rw [same, new.access] at stored
        cases stored
      exact (grown own new.access).map_first found (fun mine => different (kin.symm.trans mine)) id fun _ => id
    · exact grown own new.access
  | invalidateToken closed =>
    obtain ⟨token, stored, own⟩ := serves
    simp only [Memory.step, Table.get?_modify]
    split
    · rename_i same
      subst same
      exact (agree.tokens access).map_first stored (fun mine => different (own.symm.trans mine)) id fun _ => id
    · exact agree.tokens access
  | _ =>
    rw [(Memory.step_tokens_of_other rfl).1]
    exact agree.tokens access

theorem grants_other (code : String) :
    Copies (fun grant => grant.owner = owner) (fun a b => a.owner = b.owner) ((m.step now call).2.grants.get? code)
      (m'.grants.get? code) := by
  cases call with
  | addGrant grant =>
    obtain ⟨own, unused⟩ := serves
    rw [Memory.step_addGrant_grants]
    split
    · rename_i same
      subst same
      have absent : m'.grants.get? grant.code = none := (agree.grant_eq (by simp [unused])).trans unused
      rw [absent]
      refine .lacking ?_
      rw [own]
      exact different
    · exact agree.grants code
  | takeGrant taken =>
    obtain ⟨grant, stored, own⟩ := serves
    rw [Memory.step_takeGrant_grants]
    split
    · rename_i same
      subst same
      refine (agree.grants code).map_first stored (fun mine => different (own.symm.trans mine)) ?_ fun b kin => ?_
      · rw [Grant.presented_owner]
        exact id
      · rw [Grant.presented_owner, kin]
    · exact agree.grants code
  | _ =>
    rw [Memory.step_grants_of_other rfl]
    exact agree.grants code

theorem accounts_other :
    List.Forall₂ (Paired owner) (m.step now call).2.accounts.entries m'.accounts.entries := by
  cases call with
  | saveProfile account profile =>
    obtain ⟨rfl, found, stored, linked⟩ := agree.keyed.saves serves
    rw [Memory.step_saveProfile_accounts stored]
    refine Paired.modify_first agree.accounts (fun a => a.withProfile profile) different ?_
    rintro ⟨key, current⟩ member rfl b twin
    have again := Table.get?_of_mem member
    rw [stored] at again
    obtain rfl := Option.some.inj again
    exact twin.withProfile linked
  | _ =>
    rw [Memory.step_accounts_of_other rfl]
    exact agree.accounts

theorem step_other : Agree owner (m.step now call).2 m' where
  orderly := (Memory.step_changes m now call).orderly serves.fits agree.orderly
  orderly' := agree.orderly'
  keyed := agree.keyed.step
  tokens := agree.tokens_other serves different
  grants := agree.grants_other serves different
  accounts := agree.accounts_other serves different

end

end Agree

end TokenAuthority
