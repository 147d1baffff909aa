import Mathlib.Data.List.Nodup
import Mathlib.Logic.Equiv.Basic
import TokenAuthority.Service.Call
import TokenAuthority.World

/-!
# Stores with other secrets

Access strings, refresh strings and authorization codes are secrets: strings of 64 letters and digits. A renaming
exchanges secrets for others with the same first eight characters. A store does with the renamed secrets what it
does with the original ones (`Memory.step_renamed`), and a fingerprint shows no difference (`fingerprint_renamed`).
-/

namespace TokenAuthority

def IsSecret (text : String) : Prop := text.toList.length = 64 ∧ ∀ c ∈ text.toList, c.isAlphanum = true

instance (text : String) : Decidable (IsSecret text) := inferInstanceAs (Decidable (_ ∧ _))

/-- Puts one secret in the place of another, no two in the place of the same one, and keeps the first eight characters.
Other strings stay as they are. -/
structure Renaming where
  rename : String → String
  secret : ∀ text, IsSecret text → IsSecret (rename text)
  distinct : ∀ a b, IsSecret a → IsSecret b → rename a = rename b → a = b
  front : ∀ text, IsSecret text → (rename text).toList.take 8 = text.toList.take 8
  other : ∀ text, ¬IsSecret text → rename text = text

instance : CoeFun Renaming fun _ => String → String := ⟨Renaming.rename⟩

variable {α β : Type} (ρ : Renaming)

theorem Renaming.injective : Function.Injective ρ := by
  intro a b same
  by_cases secret : IsSecret a
  · by_cases secret' : IsSecret b
    · exact ρ.distinct a b secret secret' same
    · have here := ρ.secret a secret
      rw [same, ρ.other b secret'] at here
      exact (secret' here).elim
  · by_cases secret' : IsSecret b
    · have here := ρ.secret b secret'
      rw [← same, ρ.other a secret] at here
      exact (secret here).elim
    · rw [ρ.other a secret, ρ.other b secret'] at same
      exact same

@[simp] theorem Renaming.eq_iff {a b : String} : ρ a = ρ b ↔ a = b := ρ.injective.eq_iff

/-- Exchanges two secrets that begin alike. -/
def Renaming.exchange (a b : String) (secret : IsSecret a) (secret' : IsSecret b)
    (alike : a.toList.take 8 = b.toList.take 8) : Renaming where
  rename := Equiv.swap a b
  secret text own := by
    rw [Equiv.swap_apply_def]
    split
    · exact secret'
    · split
      · exact secret
      · exact own
  distinct _ _ _ _ same := (Equiv.swap a b).injective same
  front text _ := by
    rw [Equiv.swap_apply_def]
    split <;> grind
  other text plain :=
    Equiv.swap_apply_of_ne_of_ne (fun same => plain (same ▸ secret)) fun same => plain (same ▸ secret')

/-! ### Fingerprints -/

theorem utf8Size_of_isAlphanum {c : Char} (narrow : c.isAlphanum = true) : c.utf8Size = 1 := by
  have below (last : Char) (ascii : last.val ≤ 127) (before : c.val ≤ last.val) : c.utf8Size = 1 :=
    Char.utf8Size_eq_one_iff.2 (UInt32.le_trans before ascii)
  rcases Bool.or_eq_true_iff.1 narrow with letter | digit
  · rcases Bool.or_eq_true_iff.1 letter with upper | lower
    · exact below 'Z' (by decide) (of_decide_eq_true upper).2
    · exact below 'z' (by decide) (of_decide_eq_true (Bool.and_eq_true_iff.1 lower).2)
  · exact below '9' (by decide) (of_decide_eq_true (Bool.and_eq_true_iff.1 digit).2)

theorem front_of_narrow {cs : List Char} (narrow : ∀ c ∈ cs, c.isAlphanum = true) {n : Nat} (long : n ≤ cs.length) :
    fingerprint.front n cs = some (cs.take n) := by
  induction cs generalizing n with
  | nil =>
    obtain rfl : n = 0 := Nat.le_zero.1 long
    rfl
  | cons c cs ih =>
    cases n with
    | zero => rfl
    | succ n =>
      have single := utf8Size_of_isAlphanum (narrow c List.mem_cons_self)
      have rest := ih (fun c mem => narrow c (List.mem_cons_of_mem _ mem)) (Nat.le_of_succ_le_succ long)
      simp only [fingerprint.front, single, Nat.add_sub_cancel, rest, Nat.le_add_left, if_true, Option.map_some,
        List.take_succ_cons]

theorem fingerprint_of_secret {text : String} (secret : IsSecret text) :
    fingerprint text = String.ofList (text.toList.take 8) := by
  have long : 8 ≤ text.toList.length := by rw [secret.1]; decide
  rw [fingerprint, front_of_narrow secret.2 long]
  rfl

/-- A fingerprint shows the first eight characters of a secret, which a renaming keeps. -/
@[simp] theorem fingerprint_renamed (text : String) : fingerprint (ρ text) = fingerprint text := by
  by_cases secret : IsSecret text
  · rw [fingerprint_of_secret (ρ.secret text secret), ρ.front text secret, fingerprint_of_secret secret]
  · rw [ρ.other text secret]

/-! ### Tables -/

namespace Table

/-- The table with its keys renamed and its records changed. -/
def renamed (f : α → β) (t : Table α) : Table β where
  entries := t.entries.map fun e => (ρ e.1, f e.2)
  distinct := by
    have keys : ((t.entries.map fun e => (ρ e.1, f e.2)).map Prod.fst) = (t.entries.map Prod.fst).map ρ := by
      rw [List.map_map, List.map_map]
      rfl
    rw [keys]
    exact t.distinct.map ρ.injective

variable {ρ} {f : α → β} {t : Table α} {key : String} {value : α}

theorem eq_of_entries {t u : Table α} (same : t.entries = u.entries) : t = u := by
  cases t
  cases u
  cases same
  rfl

theorem get?_renamed : (t.renamed ρ f).get? (ρ key) = (t.get? key).map f := by
  obtain ⟨entries, distinct⟩ := t
  simp only [get?, renamed]
  clear distinct
  induction entries with
  | nil => rfl
  | cons e entries ih =>
    rw [List.map_cons, List.lookup_cons, List.lookup_cons]
    by_cases same : key = e.1
    · simp [same]
    · have different : ρ key ≠ ρ e.1 := fun renamed => same (ρ.injective renamed)
      rw [beq_false_of_ne same, beq_false_of_ne different]
      exact ih

theorem contains_renamed : (t.renamed ρ f).contains (ρ key) = t.contains key := by
  rw [contains, get?_renamed, Option.isSome_map, contains]

theorem modify_renamed {g : α → α} {h : β → β} (alike : ∀ a, h (f a) = f (g a)) :
    (t.renamed ρ f).modify (ρ key) h = (t.modify key g).renamed ρ f := by
  apply eq_of_entries
  simp only [modify, renamed, List.map_map]
  refine List.map_congr_left fun e _ => ?_
  by_cases same : e.1 = key
  · simp [same, alike]
  · simp [same]

theorem entries_insert (unused : t.get? key = none) : (t.insert key value).entries = t.entries ++ [(key, value)] := by
  rw [insert, dif_pos unused]

theorem insert_of_used (used : t.get? key ≠ none) : t.insert key value = t.modify key fun _ => value := by
  rw [insert, dif_neg used]

theorem insert_renamed : (t.renamed ρ f).insert (ρ key) (f value) = (t.insert key value).renamed ρ f := by
  have found : (t.renamed ρ f).get? (ρ key) = (t.get? key).map f := get?_renamed
  by_cases unused : t.get? key = none
  · rw [unused] at found
    apply eq_of_entries
    rw [entries_insert found]
    simp only [renamed, entries_insert unused, List.map_append, List.map_cons, List.map_nil]
  · have used : (t.renamed ρ f).get? (ρ key) ≠ none := by rwa [found, ne_eq, Option.map_eq_none_iff]
    rw [insert_of_used unused, insert_of_used used]
    exact modify_renamed fun _ => rfl

end Table

/-! ### Records -/

def Token.renamed (t : Token) : Token :=
  { t with access := ρ t.access, refresh := t.refresh.map ρ, next := t.next.map ρ, code := t.code.map ρ }

def Grant.renamed (g : Grant) : Grant := { g with code := ρ g.code }

def Yield.renamed : Yield → Yield
  | token t => token (t.renamed ρ)
  | grant g => grant (g.renamed ρ)
  | nothing => nothing

/-- A call that presents a renamed secret. -/
def Call.renamed : Call → Call
  | issueFromPassword email password => issueFromPassword email password
  | issueFromProvider provider accessToken => issueFromProvider provider accessToken
  | refresh refreshToken => refresh (ρ refreshToken)
  | authenticate access => authenticate (ρ access)
  | invalidate access => invalidate (access.map ρ)
  | authorize access client scope => authorize (ρ access) client scope
  | issueFromCode code client => issueFromCode (ρ code) client

def StoreCall.renamed : StoreCall → StoreCall
  | addToken token => addToken (token.renamed ρ)
  | tokenByAccess access => tokenByAccess (ρ access)
  | tokenByRefresh refresh => tokenByRefresh (ρ refresh)
  | chainToken access successor => chainToken (ρ access) (successor.renamed ρ)
  | invalidateToken access => invalidateToken (ρ access)
  | accountByEmail email => accountByEmail email
  | accountByIdentity provider subject => accountByIdentity provider subject
  | saveProfile account profile => saveProfile account profile
  | addGrant grant => addGrant (grant.renamed ρ)
  | takeGrant code => takeGrant (ρ code)

namespace StoreCall

def renamedValue : (call : StoreCall) → call.Value → (call.renamed ρ).Value
  | addToken _, value => value
  | tokenByAccess _, found => (Option.map (Token.renamed ρ) found : Option Token)
  | tokenByRefresh _, found => (Option.map (Token.renamed ρ) found : Option Token)
  | chainToken _ _, chained => chained
  | invalidateToken _, known => known
  | accountByEmail _, found => found
  | accountByIdentity _ _, found => found
  | saveProfile _ _, value => value
  | addGrant _, value => value
  | takeGrant _, taken => (Option.map (Grant.renamed ρ) taken : Option Grant)

def renamedAnswer (call : StoreCall) (answer : call.Answer) : (call.renamed ρ).Answer :=
  answer.map (call.renamedValue ρ)

@[simp] theorem kind_renamed (call : StoreCall) : (call.renamed ρ).kind = call.kind := by
  cases call <;> rfl

end StoreCall

/-! ### The store -/

namespace Memory

/-- The store with all secrets renamed. Accounts have none. -/
def renamed (m : Memory) : Memory where
  tokens := m.tokens.renamed ρ (Token.renamed ρ)
  refreshIndex := m.refreshIndex.renamed ρ ρ
  accounts := m.accounts
  grants := m.grants.renamed ρ (Grant.renamed ρ)

variable {ρ} {m : Memory} {token : Token} {access refresh : String}

theorem insertToken?_renamed :
    (m.renamed ρ).insertToken? (token.renamed ρ) = (m.insertToken? token).map (Memory.renamed ρ) := by
  have taken : (m.renamed ρ).tokens.contains (token.renamed ρ).access = m.tokens.contains token.access :=
    Table.contains_renamed
  unfold insertToken?
  rw [taken]
  split
  · rfl
  · have tokens : (m.renamed ρ).tokens.insert (token.renamed ρ).access (token.renamed ρ) =
        (m.tokens.insert token.access token).renamed ρ (Token.renamed ρ) := Table.insert_renamed
    rw [tokens, Option.map_some]
    congr 1
    cases own : token.refresh with
    | none => simp only [Token.renamed, own, Option.map_none]; rfl
    | some refresh =>
      have index : (m.renamed ρ).refreshIndex.insert (ρ refresh) (ρ token.access) =
          (m.refreshIndex.insert refresh token.access).renamed ρ ρ := Table.insert_renamed
      simp only [Token.renamed, own, Option.map_some, index]
      rfl

theorem chainable_renamed : (m.renamed ρ).chainable (ρ access) = m.chainable access := by
  have found : (m.renamed ρ).tokens.get? (ρ access) = (m.tokens.get? access).map (Token.renamed ρ) :=
    Table.get?_renamed
  rw [chainable, found, chainable, Option.any_map]
  congr 1
  funext old
  simp [Token.renamed]

theorem tokenByRefresh?_renamed :
    (m.renamed ρ).tokenByRefresh? (ρ refresh) = (m.tokenByRefresh? refresh).map (Token.renamed ρ) := by
  have indexed : (m.renamed ρ).refreshIndex.get? (ρ refresh) = (m.refreshIndex.get? refresh).map ρ :=
    Table.get?_renamed
  rw [tokenByRefresh?, indexed, tokenByRefresh?]
  cases m.refreshIndex.get? refresh with
  | none => rfl
  | some access => exact Table.get?_renamed

/-- A store with renamed secrets answers a renamed call with the renamed answer, and goes on with renamed secrets. -/
theorem step_renamed (m : Memory) (now : Instant) (call : StoreCall) :
    (m.renamed ρ).step now (call.renamed ρ) =
      (call.renamedAnswer ρ (m.step now call).1, (m.step now call).2.renamed ρ) := by
  cases call with
  | addToken token =>
    simp only [step, StoreCall.renamed, insertToken?_renamed]
    cases m.insertToken? token <;> rfl
  | tokenByAccess access =>
    have found : (m.renamed ρ).tokens.get? (ρ access) = (m.tokens.get? access).map (Token.renamed ρ) :=
      Table.get?_renamed
    simp only [step, StoreCall.renamed, found]
    rfl
  | tokenByRefresh refresh =>
    simp only [step, StoreCall.renamed, tokenByRefresh?_renamed]
    rfl
  | chainToken access successor =>
    simp only [step, StoreCall.renamed, chainable_renamed, insertToken?_renamed]
    by_cases chainable : m.chainable access = true
    · simp only [if_pos chainable]
      cases inserted : m.insertToken? successor with
      | none => rfl
      | some after =>
        have tokens : (after.renamed ρ).tokens.modify (ρ access)
              (fun old => { old with next := some (successor.renamed ρ).access }) =
            (after.tokens.modify access fun old => { old with next := some successor.access }).renamed ρ
              (Token.renamed ρ) := Table.modify_renamed fun _ => rfl
        simp only [Option.map_some, tokens]
        rfl
    · simp only [if_neg chainable]
      rfl
  | invalidateToken access =>
    have known : (m.renamed ρ).tokens.contains (ρ access) = m.tokens.contains access := Table.contains_renamed
    have tokens : (m.renamed ρ).tokens.modify (ρ access) (fun token => { token with valid := false }) =
        (m.tokens.modify access fun token => { token with valid := false }).renamed ρ (Token.renamed ρ) :=
      Table.modify_renamed fun _ => rfl
    simp only [step, StoreCall.renamed, known, tokens]
    rfl
  | accountByEmail email => rfl
  | accountByIdentity provider subject => rfl
  | saveProfile account profile =>
    have known : (m.renamed ρ).accounts.contains account = m.accounts.contains account := rfl
    simp only [step, StoreCall.renamed, known]
    split <;> rfl
  | addGrant grant =>
    have grants : (m.renamed ρ).grants.insert (ρ grant.code) (grant.renamed ρ) =
        (m.grants.insert grant.code grant).renamed ρ (Grant.renamed ρ) := Table.insert_renamed
    simp only [step, StoreCall.renamed]
    exact congrArg (fun grants => (Except.ok (), Memory.mk _ _ _ grants)) grants
  | takeGrant code =>
    have found : (m.renamed ρ).grants.get? (ρ code) = (m.grants.get? code).map (Grant.renamed ρ) :=
      Table.get?_renamed
    simp only [step, StoreCall.renamed, found]
    cases m.grants.get? code with
    | none => rfl
    | some grant =>
      by_cases unused : grant.usedAt.isNone = true
      · have grants : (m.renamed ρ).grants.insert (ρ code) (Grant.renamed ρ { grant with usedAt := some now }) =
            (m.grants.insert code { grant with usedAt := some now }).renamed ρ (Grant.renamed ρ) :=
          Table.insert_renamed
        have unused' : (grant.renamed ρ).usedAt.isNone = true := unused
        simp only [Option.map_some, Option.filter, unused, unused', if_true]
        exact congrArg (fun grants => (Except.ok (some _), Memory.mk _ _ _ grants)) grants
      · have used : (grant.renamed ρ).usedAt.isNone ≠ true := unused
        simp only [Option.map_some, Option.filter, if_neg unused, if_neg used]
        rfl

end Memory

/-! ### Other clients -/

/-- What happens to the calls of two clients over stores that differ in their secrets: the same, but that what others do
to the second store they do with the renamed secrets. -/
structure Interference.Matches (i j : Interference) : Prop where
  failure : j.failure = i.failure
  before : ∀ m : Memory, j.before (m.renamed ρ) = (i.before m).renamed ρ
  absent : j.absent = i.absent

variable {ρ}

theorem Interference.Matches.none : Interference.Matches ρ .none .none := ⟨rfl, fun _ => rfl, rfl⟩

/-- Another client gets a call in first. -/
def Interference.preceded (now : Instant) (call : StoreCall) : Interference :=
  ⟨Option.none, fun m => (m.step now call).2, false⟩

theorem Interference.Matches.preceded (now : Instant) (call : StoreCall) :
    Interference.Matches ρ (.preceded now call) (.preceded now (call.renamed ρ)) where
  failure := rfl
  before m := congrArg Prod.snd (m.step_renamed now call)
  absent := rfl

theorem StoreCall.absence?_renamed (call : StoreCall) :
    (call.renamed ρ).absence? = call.absence?.map (call.renamedValue ρ) := by
  cases call <;> rfl

theorem Memory.stepUnder_renamed {i j : Interference} (alike : i.Matches ρ j) (m : Memory) (now : Instant)
    (call : StoreCall) : (m.renamed ρ).stepUnder j now (call.renamed ρ) =
      (call.renamedAnswer ρ (m.stepUnder i now call).1, (m.stepUnder i now call).2.renamed ρ) := by
  unfold stepUnder
  rw [alike.failure, alike.absent, alike.before]
  cases i.failure with
  | some reason => rfl
  | none =>
    cases i.absent with
    | false => exact step_renamed (i.before m) now call
    | true =>
      simp only [if_true, StoreCall.absence?_renamed]
      cases call.absence? with
      | none => exact step_renamed (i.before m) now call
      | some value => rfl

end TokenAuthority
