import Mathlib.Data.List.Nodup
import Mathlib.Data.List.Pairwise
import TokenAuthority.Database.Store
import TokenAuthority.Proofs.Database.Rows
import TokenAuthority.Proofs.Store.Built
import TokenAuthority.Proofs.Store.Indexes
import TokenAuthority.Proofs.Store.Spending

/-!
# A database that holds what a store in memory holds

`Representable` says which stores the tables can hold. `Describes` says how a database with the same records answers:
a statement that selects lists the rows of the records that it selects, in any order, and one that updates tells
how many rows it has updated. What a store finds by a key is then the record of the one row that the database lists.
-/

namespace TokenAuthority

open Database

theorem Table.mem_values {α : Type} {t : Table α} {a : α} : a ∈ t.values ↔ ∃ key, t.get? key = some a := by
  constructor
  · intro mem
    obtain ⟨⟨key, _⟩, there, rfl⟩ := List.mem_map.1 mem
    exact ⟨key, Table.get?_of_mem there⟩
  · rintro ⟨key, found⟩
    obtain ⟨before, after, split, -⟩ := List.lookup_eq_some_iff.1 found
    exact List.mem_map.2 ⟨(key, a), by rw [split]; simp, rfl⟩

/-- Where a condition holds of one element at most, the search for it finds this one. -/
theorem find?_eq_some_iff_of_unique {α : Type} {l : List α} {p : α → Bool} {a : α}
    (unique : ∀ a ∈ l, ∀ b ∈ l, p a = true → p b = true → a = b) : l.find? p = some a ↔ a ∈ l ∧ p a = true := by
  constructor
  · intro found
    exact ⟨List.mem_of_find?_eq_some found, List.find?_some found⟩
  · rintro ⟨mem, holds⟩
    cases found : l.find? p with
    | none => exact (List.find?_eq_none.1 found a mem holds).elim
    | some b => rw [unique b (List.mem_of_find?_eq_some found) a mem (List.find?_some found) holds]

namespace Memory

variable {m : Memory} {access r email provider subject code : String} {token : Token} {account : Account}
  {grant : Grant}

/-! ### What statements select -/

def tokensByAccess (m : Memory) (access : String) : List Token := m.tokens.values.filter fun t => t.access == access

def tokensByRefresh (m : Memory) (r : String) : List Token := m.tokens.values.filter fun t => t.refresh == some r

/-- The tokens that can be linked to a successor. -/
def tokensToLink (m : Memory) (access : String) : List Token :=
  (m.tokensByAccess access).filter fun t => t.valid && t.next.isNone

def accountsByEmail (m : Memory) (email : String) : List Account := m.accounts.values.filter fun a => a.email == email

/-- The accounts joined with their profiles. -/
def links (m : Memory) : List (Account × Profile) :=
  m.accounts.values.flatMap fun a => a.profiles.values.map fun p => (a, p)

def accountsByIdentity (m : Memory) (provider subject : String) : List Account :=
  (m.links.filter fun link => link.2.provider == provider && link.2.subject == subject).map Prod.fst

def profilesOf (m : Memory) (account : String) : List Profile :=
  (m.links.filter fun link => link.1.id == account).map Prod.snd

/-- The grants that can be taken. -/
def grantsToTake (m : Memory) (code : String) : List Grant :=
  m.grants.values.filter fun g => g.code == code && g.usedAt.isNone

/-! ### Stores that tables can hold -/

def times (m : Memory) : List Instant :=
  m.tokens.values.flatMap Token.times ++ m.grants.values.flatMap Grant.times ++ m.accounts.values.flatMap Account.times

/-- What store calls have built, with unique keys and times of whole microseconds. -/
structure Representable (m : Memory) : Prop where
  built : m.Built
  refreshStrings : (m.tokens.values.filterMap Token.refresh).Nodup
  emails : (m.accounts.values.map Account.email).Nodup
  identities : (m.links.map fun link => (link.2.provider, link.2.subject)).Nodup
  providers : ∀ account ∈ m.accounts.values, ∀ entry ∈ account.profiles.entries, entry.2.provider = entry.1
  precise : Precise m.times

theorem Built.grantKeyed (built : m.Built) : m.grants.get? code = some grant → grant.code = code := by
  induction built generalizing code grant with
  | empty => exact fun found => (nomatch found)
  | account built account ih => exact ih
  | @step m built now call ih =>
    intro found
    cases call with
    | addGrant own =>
      rw [step_addGrant_grants] at found
      split at found
      · rename_i same
        rw [← Option.some.inj found, same]
      · exact ih found
    | takeGrant taken =>
      rw [step_takeGrant_grants] at found
      split at found
      · obtain ⟨old, stored, rfl⟩ := Option.map_eq_some_iff.1 found
        obtain ⟨used, same⟩ := @Grant.presented_eq now old
        rw [same]
        show old.code = code
        exact ih stored
      · exact ih found
    | _ =>
      rw [step_grants_of_other rfl] at found
      exact ih found

theorem Built.agrees (built : m.Built) : ∃ log, m.Agrees log := by
  induction built with
  | empty => exact ⟨[], .empty⟩
  | account built account ih =>
    obtain ⟨log, agrees⟩ := ih
    exact ⟨log, agrees.account account⟩
  | step built now call ih =>
    obtain ⟨log, agrees⟩ := ih
    exact ⟨_, agrees.told (step_told _ now call)⟩

namespace Representable

variable (representable : m.Representable)
include representable

theorem precise_token (mem : token ∈ m.tokens.values) : Precise token.times := fun time within =>
  representable.precise time (List.mem_append_left _ (List.mem_append_left _ (List.mem_flatMap.2 ⟨_, mem, within⟩)))

theorem precise_grant (mem : grant ∈ m.grants.values) : Precise grant.times := fun time within =>
  representable.precise time (List.mem_append_left _ (List.mem_append_right _ (List.mem_flatMap.2 ⟨_, mem, within⟩)))

theorem precise_account (mem : account ∈ m.accounts.values) : Precise account.times := fun time within =>
  representable.precise time (List.mem_append_right _ (List.mem_flatMap.2 ⟨_, mem, within⟩))

theorem tokenByAccess_iff : m.tokens.get? access = some token ↔ token ∈ m.tokensByAccess access := by
  simp only [tokensByAccess, List.mem_filter, Table.mem_values, beq_iff_eq]
  constructor
  · intro found
    exact ⟨⟨access, found⟩, representable.built.keyed found⟩
  · rintro ⟨⟨key, found⟩, rfl⟩
    rwa [representable.built.keyed found]

theorem same_of_refresh {other : Token} (mem : token ∈ m.tokens.values) (mem' : other ∈ m.tokens.values)
    (carries : token.refresh = some r) (carries' : other.refresh = some r) : token = other := by
  have apart := List.pairwise_filterMap.1 representable.refreshStrings
  by_contra different
  have symmetric : Std.Symm fun a b : Token => ∀ x, a.refresh = some x → ∀ y, b.refresh = some y → x ≠ y :=
    ⟨fun a b distinct x carries y carries' => (distinct y carries' x carries).symm⟩
  exact apart.forall mem mem' different r carries r carries' rfl

theorem tokenByRefresh_iff : m.tokenByRefresh? r = some token ↔ token ∈ m.tokensByRefresh r := by
  obtain ⟨log, agrees⟩ := representable.built.agrees
  have carries {current : Token} (found : m.tokenByRefresh? r = some current) :
      current ∈ m.tokens.values ∧ current.refresh = some r := by
    obtain ⟨newest, later, latest, since⟩ := agrees.tokenByRefresh_iff.1 found
    refine ⟨Table.mem_values.2 ⟨_, representable.built.stored found⟩, ?_⟩
    rw [since.frame]
    exact latest.carries
  simp only [tokensByRefresh, List.mem_filter, beq_iff_eq]
  constructor
  · exact carries
  · rintro ⟨mem, own⟩
    obtain ⟨access, found⟩ := Table.mem_values.1 mem
    obtain ⟨-, first, later, inserted, since⟩ := agrees.tokenByAccess_iff.1 found
    have before : first.refresh = some r := by
      rw [since.frame] at own
      exact own
    obtain ⟨newest, after, latest⟩ := exists_latest (mem_insertions.2 ⟨later, inserted⟩) before
    obtain ⟨current, -, since'⟩ := agrees.stored latest.inserted
    have read := agrees.tokenByRefresh_iff.2 ⟨newest, after, latest, since'⟩
    obtain ⟨mem', own'⟩ := carries read
    rw [read, representable.same_of_refresh mem mem' own own']

theorem accountByEmail_iff : m.accountByEmail? email = some account ↔ account ∈ m.accountsByEmail email := by
  rw [accountsByEmail, List.mem_filter]
  refine find?_eq_some_iff_of_unique fun a mem b mem' own own' => ?_
  exact List.inj_on_of_nodup_map representable.emails mem mem' ((eq_of_beq own).trans (eq_of_beq own').symm)

theorem isLinkedTo_iff (mem : account ∈ m.accounts.values) : account.isLinkedTo provider subject = true ↔
    ∃ profile ∈ account.profiles.values, profile.provider = provider ∧ profile.subject = subject := by
  have keys := representable.providers account mem
  simp only [Account.isLinkedTo, Account.profile?, Option.any_eq_true, beq_iff_eq]
  constructor
  · rintro ⟨profile, found, own⟩
    obtain ⟨before, after, split, -⟩ := List.lookup_eq_some_iff.1 found
    have there : (provider, profile) ∈ account.profiles.entries := by simp [split]
    exact ⟨profile, Table.mem_values.2 ⟨_, found⟩, keys _ there, own⟩
  · rintro ⟨profile, mem, rfl, own⟩
    obtain ⟨⟨key, _⟩, there, rfl⟩ := List.mem_map.1 mem
    refine ⟨_, Table.get?_of_mem ?_, own⟩
    rw [keys _ there]
    exact there

theorem accountByIdentity_iff :
    m.accountByIdentity? provider subject = some account ↔ account ∈ m.accountsByIdentity provider subject := by
  have links_iff (a : Account) (p : Profile) : (a, p) ∈ m.links ↔ a ∈ m.accounts.values ∧ p ∈ a.profiles.values := by
    simp [links]
  have linked (a : Account) : a ∈ m.accountsByIdentity provider subject ↔
      a ∈ m.accounts.values ∧ a.isLinkedTo provider subject = true := by
    simp only [accountsByIdentity, List.mem_map, List.mem_filter, Prod.exists, Bool.and_eq_true, beq_iff_eq]
    constructor
    · rintro ⟨_, p, ⟨there, own⟩, rfl⟩
      obtain ⟨mem, inside⟩ := (links_iff _ p).1 there
      exact ⟨mem, (representable.isLinkedTo_iff mem).2 ⟨p, inside, own⟩⟩
    · rintro ⟨mem, linked⟩
      obtain ⟨p, inside, own⟩ := (representable.isLinkedTo_iff mem).1 linked
      exact ⟨a, p, ⟨(links_iff a p).2 ⟨mem, inside⟩, own⟩, rfl⟩
  rw [linked]
  refine find?_eq_some_iff_of_unique fun a mem b mem' own own' => ?_
  obtain ⟨p, there, hp, hs⟩ := (representable.isLinkedTo_iff mem).1 own
  obtain ⟨q, there', hq, ht⟩ := (representable.isLinkedTo_iff mem').1 own'
  have same := List.inj_on_of_nodup_map representable.identities ((links_iff a p).2 ⟨mem, there⟩)
    ((links_iff b q).2 ⟨mem', there'⟩) (by simp [hp, hs, hq, ht])
  exact congrArg Prod.fst same

theorem grant_iff : (m.grants.get? code).filter (fun g => g.usedAt.isNone) = some grant ↔
    grant ∈ m.grantsToTake code := by
  rw [Option.filter_eq_some_iff, grantsToTake, List.mem_filter, Table.mem_values, Bool.and_eq_true, beq_iff_eq]
  constructor
  · rintro ⟨found, unused⟩
    exact ⟨⟨code, found⟩, representable.built.grantKeyed found, unused⟩
  · rintro ⟨⟨key, found⟩, rfl, unused⟩
    rw [representable.built.grantKeyed found]
    exact ⟨found, unused⟩

theorem contains_iff : m.tokens.contains access = true ↔ (m.tokensByAccess access).length ≠ 0 := by
  rw [Table.contains, Option.isSome_iff_exists, ne_eq, List.length_eq_zero_iff, List.eq_nil_iff_forall_not_mem]
  simp only [representable.tokenByAccess_iff, not_forall, not_not]

theorem chainable_iff : m.chainable access = true ↔ (m.tokensToLink access).length ≠ 0 := by
  rw [chainable, Option.any_eq_true, ne_eq, List.length_eq_zero_iff, List.eq_nil_iff_forall_not_mem]
  simp only [representable.tokenByAccess_iff, tokensToLink, List.mem_filter, not_forall, not_not]

end Representable

end Memory

/-! ### What a database answers -/

namespace Database

/-- The rows are those of the records, in any order. -/
def Lists {α : Type} (isRow : α → Row → Prop) (records : List α) (rows : List Row) : Prop :=
  ∃ ordered, ordered.Perm records ∧ List.Forall₂ isRow ordered rows

namespace Lists

variable {α : Type} {isRow : α → Row → Prop} {records : List α} {rows : List Row}

/-- Where a key finds what a statement selects, the first row is that of what the key finds. -/
theorem head {found? : Option α} (lists : Lists isRow records rows) (found : ∀ a, found? = some a ↔ a ∈ records) :
    Option.Rel isRow found? rows.head? := by
  obtain ⟨ordered, perm, all⟩ := lists
  cases all with
  | nil =>
    have absent : found? = none := by
      refine Option.eq_none_iff_forall_ne_some.2 fun a same => ?_
      cases perm.mem_iff.2 ((found a).1 same)
    rw [absent]
    exact .none
  | cons first rest =>
    rw [(found _).2 (perm.mem_iff.1 List.mem_cons_self)]
    exact .some first

theorem exists_of_mem (lists : Lists isRow records rows) {row : Row} (mem : row ∈ rows) : ∃ a, isRow a row := by
  obtain ⟨ordered, -, all⟩ := lists
  induction all with
  | nil => cases mem
  | cons first rest ih =>
    rcases List.mem_cons.1 mem with rfl | mem
    · exact ⟨_, first⟩
    · exact ih mem

end Lists

end Database

namespace Memory

variable {m : Memory}

/-- The reply to a statement of a database with the records of a store. -/
def Replies (m : Memory) (reply : Reply) : Query → Prop
  | .define _ => True
  | .insertToken _ | .saveProfile _ _ | .insertGrant _ => reply.affected = 1
  | .tokenByAccess access => Lists Token.IsRow (m.tokensByAccess access) reply.rows
  | .tokenByRefresh refresh => Lists Token.IsRow (m.tokensByRefresh refresh) reply.rows
  | .linkToken access _ => reply.affected = (m.tokensToLink access).length
  | .invalidateToken access => reply.affected = (m.tokensByAccess access).length
  | .accountByEmail email => Lists Account.IsRow (m.accountsByEmail email) reply.rows
  | .accountByIdentity provider subject => Lists Account.IsRow (m.accountsByIdentity provider subject) reply.rows
  | .profilesOf account => Lists Profile.IsRow (m.profilesOf account) reply.rows
  | .takeGrant code => Lists Grant.IsTaken (m.grantsToTake code) reply.rows

/-- The answer to a command of a working database with the records of a store. -/
def Describes (m : Memory) : (command : Command) → command.Answer → Prop
  | .execute query, answer => ∃ reply, answer = .ok reply ∧ m.Replies reply query
  | .beginTransaction, answer | .commit, answer | .rollBack, answer => answer = .ok ()
  | .abandon, _ => True

end Memory

end TokenAuthority
