import Mathlib.Logic.Relation
import TokenAuthority.Proofs.Store.Growth

/-!
# Chains of refreshed tokens

A token precedes its successor. `Chained` says that successors are stored, that no two tokens have
one successor, that links lead upward in some rank, and that linked tokens have one owner and no
authorization code; then a chain is a path with one end. `Indexed` says that the index of refresh
strings fits the tokens. A store call keeps both if it adds a token under unused strings and links
tokens of one owner: `Changes.orderly`.
-/

namespace TokenAuthority

namespace Chain

variable {tokens : Table Token} {index : Table String} {a b c : String} {token old successor : Token}

/-- The second access string is that of the first one's successor. -/
def Precedes (tokens : Table Token) (a b : String) : Prop :=
  ∃ token, tokens.get? a = some token ∧ token.next = some b

/-- The access strings belong to one chain: links, followed in either direction, lead from one to the
other. -/
def Same (tokens : Table Token) : String → String → Prop := Relation.EqvGen (Precedes tokens)

/-- The index of refresh strings fits the tokens. -/
structure Indexed (tokens : Table Token) (index : Table String) : Prop where
  keyed : ∀ {a token}, tokens.get? a = some token → token.access = a
  indexed : ∀ {r a}, index.get? r = some a ↔ ∃ token, tokens.get? a = some token ∧ token.refresh = some r

/-- Chains are paths of tokens of one owner. -/
structure Chained (tokens : Table Token) : Prop where
  stored : ∀ {a b}, Precedes tokens a b → ∃ token, tokens.get? b = some token
  single : ∀ {a b c}, Precedes tokens a c → Precedes tokens b c → a = b
  ranked : ∃ rank : String → Nat, ∀ {a b}, Precedes tokens a b → rank a < rank b
  kin : ∀ {a b token successor}, tokens.get? a = some token → token.next = some b →
    tokens.get? b = some successor →
    successor.owner = token.owner ∧ token.code = none ∧ successor.code = none

theorem empty_indexed : Indexed .empty .empty :=
  ⟨fun found => (nomatch found), by simp⟩

theorem empty_chained : Chained .empty :=
  ⟨fun ⟨_, found, _⟩ => (nomatch found), fun ⟨_, found, _⟩ => (nomatch found),
    ⟨fun _ => 0, fun ⟨_, found, _⟩ => (nomatch found)⟩, fun found => (nomatch found)⟩

/-! ### Changing a record -/

theorem Indexed.modify (h : Indexed tokens index) {f : Token → Token}
    (keep : ∀ token, (f token).access = token.access ∧ (f token).refresh = token.refresh) :
    Indexed (tokens.modify c f) index := by
  have kept (a : String) (token : Token) :
      (if a = c then f token else token).access = token.access ∧
      (if a = c then f token else token).refresh = token.refresh := by
    split
    · exact keep token
    · exact ⟨rfl, rfl⟩
  constructor
  · intro a later found
    obtain ⟨token, before, rfl⟩ := Table.get?_modify_eq_some.1 found
    rw [(kept a token).1]
    exact h.keyed before
  · intro r a
    rw [h.indexed]
    constructor
    · rintro ⟨token, before, own⟩
      exact ⟨_, Table.get?_modify_eq_some.2 ⟨token, before, rfl⟩, (kept a token).2.trans own⟩
    · rintro ⟨later, found, own⟩
      obtain ⟨token, before, rfl⟩ := Table.get?_modify_eq_some.1 found
      exact ⟨token, before, (kept a token).2.symm.trans own⟩

theorem Chained.modify (h : Chained tokens) {f : Token → Token}
    (keep : ∀ token, (f token).next = token.next ∧ (f token).owner = token.owner ∧
      (f token).code = token.code) : Chained (tokens.modify c f) := by
  have kept (a : String) (token : Token) :
      (if a = c then f token else token).next = token.next ∧
      (if a = c then f token else token).owner = token.owner ∧
      (if a = c then f token else token).code = token.code := by
    split
    · exact keep token
    · exact ⟨rfl, rfl, rfl⟩
  have precedes {a b : String} (link : Precedes (tokens.modify c f) a b) : Precedes tokens a b := by
    obtain ⟨later, found, next⟩ := link
    obtain ⟨token, before, rfl⟩ := Table.get?_modify_eq_some.1 found
    exact ⟨token, before, (kept a token).1.symm.trans next⟩
  constructor
  · intro a b link
    obtain ⟨token, before⟩ := h.stored (precedes link)
    exact ⟨_, Table.get?_modify_eq_some.2 ⟨token, before, rfl⟩⟩
  · exact fun first second => h.single (precedes first) (precedes second)
  · obtain ⟨rank, upward⟩ := h.ranked
    exact ⟨rank, fun link => upward (precedes link)⟩
  · intro a b later last found link read
    obtain ⟨token, before, rfl⟩ := Table.get?_modify_eq_some.1 found
    obtain ⟨successor, after, rfl⟩ := Table.get?_modify_eq_some.1 read
    rw [(kept a token).1] at link
    rw [(kept a token).2.1, (kept a token).2.2, (kept b successor).2.1, (kept b successor).2.2]
    exact h.kin before link after

/-! ### Adding a token -/

theorem Indexed.insert (h : Indexed tokens index) {grown : Table String}
    (free : tokens.get? token.access = none)
    (unused : ∀ r, token.refresh = some r → index.get? r = none)
    (reads : ∀ r, grown.get? r = if token.refresh = some r then some token.access else index.get? r) :
    Indexed (tokens.insert token.access token) grown := by
  constructor
  · intro a found read
    rcases (Table.get?_insert_eq_some free).1 read with ⟨rfl, rfl⟩ | before
    · rfl
    · exact h.keyed before
  · intro r a
    rw [reads]
    split
    · rename_i own
      constructor
      · intro same
        obtain rfl := Option.some.inj same
        exact ⟨token, (Table.get?_insert_eq_some free).2 (.inl ⟨rfl, rfl⟩), own⟩
      · rintro ⟨found, read, other⟩
        rcases (Table.get?_insert_eq_some free).1 read with ⟨rfl, -⟩ | before
        · rfl
        · have taken := h.indexed.2 ⟨found, before, other⟩
          rw [unused r own] at taken
          cases taken
    · rename_i foreign
      rw [h.indexed]
      constructor
      · rintro ⟨found, read, own⟩
        exact ⟨found, (Table.get?_insert_eq_some free).2 (.inr read), own⟩
      · rintro ⟨found, read, own⟩
        rcases (Table.get?_insert_eq_some free).1 read with ⟨-, rfl⟩ | before
        · exact (foreign own).elim
        · exact ⟨found, before, own⟩

theorem precedes_insert (free : tokens.get? c = none) (alone : token.next = none) :
    Precedes (tokens.insert c token) a b ↔ Precedes tokens a b := by
  constructor
  · rintro ⟨found, read, next⟩
    rcases (Table.get?_insert_eq_some free).1 read with ⟨-, rfl⟩ | before
    · rw [alone] at next
      cases next
    · exact ⟨found, before, next⟩
  · rintro ⟨found, read, next⟩
    exact ⟨found, (Table.get?_insert_eq_some free).2 (.inr read), next⟩

theorem Chained.insert (h : Chained tokens) (free : tokens.get? c = none) (alone : token.next = none) :
    Chained (tokens.insert c token) := by
  constructor
  · intro a b link
    obtain ⟨found, read⟩ := h.stored ((precedes_insert free alone).1 link)
    exact ⟨found, (Table.get?_insert_eq_some free).2 (.inr read)⟩
  · intro a b x first second
    exact h.single ((precedes_insert free alone).1 first) ((precedes_insert free alone).1 second)
  · obtain ⟨rank, upward⟩ := h.ranked
    exact ⟨rank, fun link => upward ((precedes_insert free alone).1 link)⟩
  · intro a b found successor read link next
    rcases (Table.get?_insert_eq_some free).1 read with ⟨-, rfl⟩ | before
    · rw [alone] at link
      cases link
    · rcases (Table.get?_insert_eq_some free).1 next with ⟨rfl, -⟩ | after
      · obtain ⟨other, taken⟩ := h.stored ⟨found, before, link⟩
        rw [free] at taken
        cases taken
      · exact h.kin before link after

/-! ### Linking a token to a new one -/

theorem precedes_link (found : tokens.get? c = some old) (alone : old.next = none) {x y : String} :
    Precedes (tokens.modify c (Token.withNext b)) x y ↔ x = c ∧ y = b ∨ Precedes tokens x y := by
  constructor
  · rintro ⟨later, read, next⟩
    obtain ⟨token, before, rfl⟩ := Table.get?_modify_eq_some.1 read
    split at next
    · rename_i same
      exact .inl ⟨same, (Option.some.inj next).symm⟩
    · exact .inr ⟨token, before, next⟩
  · rintro (⟨rfl, rfl⟩ | ⟨token, before, next⟩)
    · exact ⟨_, Table.get?_modify_eq_some.2 ⟨old, found, rfl⟩, by rw [if_pos rfl]; rfl⟩
    · refine ⟨_, Table.get?_modify_eq_some.2 ⟨token, before, rfl⟩, ?_⟩
      rw [if_neg, next]
      rintro rfl
      rw [found] at before
      obtain rfl := Option.some.inj before
      rw [alone] at next
      cases next

theorem Chained.link (h : Chained tokens) (found : tokens.get? a = some old) (alone : old.next = none)
    (read : tokens.get? b = some successor) (last : successor.next = none) (different : b ≠ a)
    (first : ∀ x, ¬Precedes tokens x b) (owner : successor.owner = old.owner) (code : old.code = none)
    (plain : successor.code = none) : Chained (tokens.modify a (Token.withNext b)) := by
  constructor
  · intro x y link
    rcases (precedes_link found alone).1 link with ⟨-, rfl⟩ | before
    · exact ⟨_, Table.get?_modify_eq_some.2 ⟨successor, read, rfl⟩⟩
    · obtain ⟨token, stored⟩ := h.stored before
      exact ⟨_, Table.get?_modify_eq_some.2 ⟨token, stored, rfl⟩⟩
  · intro x y z one two
    rcases (precedes_link found alone).1 one with ⟨rfl, rfl⟩ | before
    · rcases (precedes_link found alone).1 two with ⟨rfl, -⟩ | other
      · rfl
      · exact (first _ other).elim
    · rcases (precedes_link found alone).1 two with ⟨-, rfl⟩ | other
      · exact (first _ before).elim
      · exact h.single before other
  · -- The new token has no link of its own, so it can be ranked just above the old one.
    obtain ⟨rank, upward⟩ := h.ranked
    refine ⟨fun x => if x = b then rank a + 1 else rank x, fun {x y} link => ?_⟩
    dsimp only
    rcases (precedes_link found alone).1 link with ⟨rfl, rfl⟩ | before
    · rw [if_neg different.symm, if_pos rfl]
      exact Nat.lt_succ_self _
    · have source : x ≠ b := by
        rintro rfl
        obtain ⟨token, stored, next⟩ := before
        rw [read] at stored
        obtain rfl := Option.some.inj stored
        rw [last] at next
        cases next
      have target : y ≠ b := by
        rintro rfl
        exact first _ before
      rw [if_neg source, if_neg target]
      exact upward before
  · intro x y later next stored link target
    obtain ⟨token, before, rfl⟩ := Table.get?_modify_eq_some.1 stored
    obtain ⟨following, after, rfl⟩ := Table.get?_modify_eq_some.1 target
    have same : (if x = a then token.withNext b else token).owner = token.owner ∧
        (if x = a then token.withNext b else token).code = token.code := by split <;> exact ⟨rfl, rfl⟩
    have same' : (if y = a then following.withNext b else following).owner = following.owner ∧
        (if y = a then following.withNext b else following).code = following.code := by
      split <;> exact ⟨rfl, rfl⟩
    rw [same.1, same.2, same'.1, same'.2]
    split at link
    · rename_i here
      subst here
      obtain rfl := Option.some.inj link
      rw [found] at before
      rw [read] at after
      obtain rfl := Option.some.inj before
      obtain rfl := Option.some.inj after
      exact ⟨owner, code, plain⟩
    · exact h.kin before link after

/-! ### What chains look like -/

theorem precedes_unique (first : Precedes tokens a b) (second : Precedes tokens a c) : b = c := by
  obtain ⟨token, found, next⟩ := first
  obtain ⟨other, read, link⟩ := second
  rw [found] at read
  obtain rfl := Option.some.inj read
  exact Option.some.inj (next.symm.trans link)

theorem Chained.acyclic (h : Chained tokens) : ¬Relation.TransGen (Precedes tokens) a a := by
  obtain ⟨rank, upward⟩ := h.ranked
  have rises {x y : String} (path : Relation.TransGen (Precedes tokens) x y) : rank x < rank y := by
    induction path with
    | single link => exact upward link
    | tail _ link ih => exact Nat.lt_trans ih (upward link)
  exact fun loop => Nat.lt_irrefl _ (rises loop)

/-- Two tokens of one chain lead to one token. -/
theorem Same.join (same : Same tokens a b) : Relation.Join (Relation.ReflTransGen (Precedes tokens)) a b := by
  have confluent (x y z : String) (first : Precedes tokens x y) (second : Precedes tokens x z) :
      ∃ d, Relation.ReflGen (Precedes tokens) y d ∧ Relation.ReflTransGen (Precedes tokens) z d := by
    obtain rfl := precedes_unique first second
    exact ⟨y, .refl, .refl⟩
  have equivalence := Relation.equivalence_join_reflTransGen confluent
  induction same with
  | rel x y link => exact ⟨y, .single link, .refl⟩
  | refl x => exact equivalence.refl x
  | symm x y _ ih => exact equivalence.symm ih
  | trans x y z _ _ first second => exact equivalence.trans first second

theorem eq_of_last (found : tokens.get? a = some token) (last : token.next = none)
    (path : Relation.ReflTransGen (Precedes tokens) a b) : a = b := by
  cases path using Relation.ReflTransGen.head_induction_on with
  | refl => rfl
  | head link _ =>
    obtain ⟨other, read, next⟩ := link
    rw [found] at read
    obtain rfl := Option.some.inj read
    rw [last] at next
    cases next

theorem Same.eq_of_last (same : Same tokens a b) (found : tokens.get? a = some token)
    (last : token.next = none) (read : tokens.get? b = some old) (end_ : old.next = none) : a = b := by
  obtain ⟨x, left, right⟩ := same.join
  rw [Chain.eq_of_last found last left, Chain.eq_of_last read end_ right]

theorem Same.owner (h : Chained tokens) (same : Same tokens a b) :
    (tokens.get? a).map Token.owner = (tokens.get? b).map Token.owner := by
  induction same with
  | rel x y link =>
    obtain ⟨successor, read⟩ := h.stored link
    obtain ⟨token, found, next⟩ := link
    rw [found, read, Option.map_some, Option.map_some, (h.kin found next read).1]
  | refl x => rfl
  | symm x y _ ih => exact ih.symm
  | trans x y z _ _ first second => exact first.trans second

/-- In a chain of more than one token every token has a neighbour. -/
theorem Same.neighbour (same : Same tokens a b) : a = b ∨
    (∃ x, Precedes tokens a x ∨ Precedes tokens x a) ∧ ∃ x, Precedes tokens b x ∨ Precedes tokens x b := by
  induction same with
  | rel x y link => exact .inr ⟨⟨y, .inl link⟩, x, .inr link⟩
  | refl x => exact .inl rfl
  | symm x y _ ih => exact ih.imp Eq.symm And.symm
  | trans x y z _ _ first second =>
    rcases first with rfl | ⟨left, middle⟩
    · exact second
    · rcases second with rfl | ⟨-, right⟩
      · exact .inr ⟨left, middle⟩
      · exact .inr ⟨left, right⟩

theorem Same.plain (h : Chained tokens) (same : Same tokens a b) (different : a ≠ b)
    (found : tokens.get? a = some token) : token.code = none := by
  rcases same.neighbour with equal | ⟨⟨x, after | before⟩, -⟩
  · exact (different equal).elim
  · obtain ⟨successor, read⟩ := h.stored after
    obtain ⟨current, stored, next⟩ := after
    rw [found] at stored
    obtain rfl := Option.some.inj stored
    exact (h.kin found next read).2.1
  · obtain ⟨previous, stored, next⟩ := before
    exact (h.kin stored next found).2.2

end Chain

/-! ### Store calls that keep index and chains in order -/

namespace Memory

variable {m after : Memory} {call : StoreCall}

structure Orderly (m : Memory) : Prop where
  indexed : Chain.Indexed m.tokens m.refreshIndex
  chained : Chain.Chained m.tokens

theorem Orderly.of_empty (tokens : m.tokens = .empty) (index : m.refreshIndex = .empty) : m.Orderly := by
  refine ⟨?_, ?_⟩
  · rw [tokens, index]
    exact Chain.empty_indexed
  · rw [tokens]
    exact Chain.empty_chained

/-- What is found by a refresh string is the stored token that carries it. -/
theorem Orderly.tokenByRefresh?_iff {r : String} {token : Token} (orderly : m.Orderly) :
    m.tokenByRefresh? r = some token ↔ m.tokens.get? token.access = some token ∧ token.refresh = some r := by
  rw [tokenByRefresh?, Option.bind_eq_some_iff]
  constructor
  · rintro ⟨access, indexed, stored⟩
    obtain ⟨carrier, found, own⟩ := orderly.indexed.indexed.1 indexed
    rw [stored] at found
    obtain rfl := Option.some.inj found
    exact ⟨by rwa [orderly.indexed.keyed stored], own⟩
  · rintro ⟨stored, own⟩
    exact ⟨token.access, orderly.indexed.indexed.2 ⟨token, stored, own⟩, stored⟩

/-- A token that is not stored, nor another one under its strings, and has no successor. -/
structure New (m : Memory) (token : Token) : Prop where
  access : m.tokens.get? token.access = none
  refresh : ∀ r, token.refresh = some r → m.refreshIndex.get? r = none
  alone : token.next = none

/-- What keeps a store call from upsetting index and chains. -/
def Fits (m : Memory) : StoreCall → Prop
  | .addToken token => m.New token
  | .chainToken access token => m.New token ∧ token.code = none ∧
      ∀ old, m.tokens.get? access = some old → token.owner = old.owner ∧ old.code = none
  | _ => True

theorem Changes.orderly (changes : m.Changes call after) (fits : m.Fits call) (h : m.Orderly) :
    after.Orderly := by
  obtain ⟨indexed, chained⟩ := h
  cases changes with
  | inserts token after inserted =>
    obtain ⟨free, tokens, index⟩ := insertToken?_eq_some inserted
    refine ⟨?_, ?_⟩
    · rw [tokens]
      exact indexed.insert free fits.refresh index
    · rw [tokens]
      exact chained.insert free fits.alone
  | chains access token middle after chainable inserted changed same =>
    obtain ⟨new, plain, kin⟩ := fits
    obtain ⟨free, tokens, index⟩ := insertToken?_eq_some inserted
    obtain ⟨old, found, -, alone⟩ := chainable_iff.1 chainable
    obtain ⟨owner, code⟩ := kin old found
    have different : token.access ≠ access := by
      rintro rfl
      rw [free] at found
      cases found
    have unlinked (x : String) : ¬Chain.Precedes (m.tokens.insert token.access token) x token.access := by
      intro link
      obtain ⟨other, taken⟩ := chained.stored ((Chain.precedes_insert free new.alone).1 link)
      rw [free] at taken
      cases taken
    refine ⟨?_, ?_⟩
    · rw [changed, same, tokens]
      exact (indexed.insert free new.refresh index).modify fun _ => ⟨rfl, rfl⟩
    · rw [changed, tokens]
      exact (chained.insert free new.alone).link ((Table.get?_insert_eq_some free).2 (.inr found)) alone
        ((Table.get?_insert_eq_some free).2 (.inl ⟨rfl, rfl⟩)) new.alone different unlinked owner code plain
  | closes access after changed same =>
    refine ⟨?_, ?_⟩
    · rw [changed, same]
      exact indexed.modify fun _ => ⟨rfl, rfl⟩
    · rw [changed]
      exact chained.modify fun _ => ⟨rfl, rfl, rfl⟩
  | keeps call after tokens same => exact ⟨by rw [tokens, same]; exact indexed, by rw [tokens]; exact chained⟩

end Memory

end TokenAuthority
