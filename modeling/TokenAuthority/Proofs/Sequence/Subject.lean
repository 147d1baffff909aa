import TokenAuthority.Proofs.Sequence.Basic

/-!
# Whom a call is about

A call is about the account that its email address or its identity is found under, or the owner of the token or
the grant that it presents. Whatever an uninterrupted call writes is in the name of that account, and a call
that is about nobody writes nothing.
-/

namespace TokenAuthority

/-- The id of the account that a call is about. -/
def Call.subject? (s : Service) (w : World) (m : Memory) : Call → Option String
  | .issueFromPassword email _ => (m.accountByEmail? email).map Account.id
  | .issueFromProvider provider accessToken =>
    match s.recognized w provider accessToken with
    | .error _ => none
    | .ok profile => (m.accountByIdentity? profile.provider profile.subject).map Account.id
  | .refresh r => (m.tokenByRefresh? r).map Token.owner
  | .authenticate access => (m.tokens.get? access).map Token.owner
  | .invalidate access => access.bind fun access => (m.tokens.get? access).map Token.owner
  | .authorize access _ _ => (m.tokens.get? access).map Token.owner
  | .issueFromCode code _ => (m.grants.get? code).map Grant.owner

namespace Memory

/-- A store call changes records of one owner only, and takes no strings that are in use. -/
def Serves (m : Memory) (owner : String) : StoreCall → Prop
  | .addToken token => token.owner = owner ∧ m.New token
  | .chainToken access token => token.owner = owner ∧ m.New token ∧ token.code = none ∧
      ∃ old, m.tokens.get? access = some old ∧ old.owner = owner ∧ old.Open
  | .invalidateToken access => ∃ token, m.tokens.get? access = some token ∧ token.owner = owner
  | .saveProfile account profile => account = owner ∧ ∃ found, found ∈ m.accounts.values ∧ found.id = owner ∧
      found.isLinkedTo profile.provider profile.subject = true
  | .addGrant grant => grant.owner = owner ∧ m.grants.get? grant.code = none
  | .takeGrant code => ∃ grant, m.grants.get? code = some grant ∧ grant.owner = owner
  | _ => True

def ServesAll (owner : String) : List (Instant × StoreCall) → Memory → Prop
  | [], _ => True
  | (now, call) :: writes, m => m.Serves owner call ∧ ServesAll owner writes (m.step now call).2

variable {m : Memory} {owner : String} {token : Token}

theorem New.step {now : Instant} {call : StoreCall} (new : m.New token) (other : call.isOfTokens = false) :
    (m.step now call).2.New token := by
  obtain ⟨tokens, index⟩ := @step_tokens_of_other m now call other
  exact ⟨by rw [tokens]; exact new.access, by rw [index]; exact new.refresh, new.alone⟩

theorem Serves.fits {call : StoreCall} (serves : m.Serves owner call) : m.Fits call := by
  cases call with
  | addToken token => exact serves.2
  | chainToken access token =>
    obtain ⟨own, new, plain, old, stored, kin, ready⟩ := serves
    refine ⟨new, plain, fun current found => ?_⟩
    rw [stored] at found
    obtain rfl := Option.some.inj found
    exact ⟨own.trans kin.symm, ready.plain⟩
  | _ => trivial

end Memory

namespace World

variable {w : World} {s : Service} {m : Memory} {call : Call} {owner : String}

theorem SuppliesNew.issued {lifetime : Int} {now : Instant} (new : w.SuppliesNew m 2) :
    m.New (.issued owner lifetime now (w.text 0) (w.text 1)) := by
  refine ⟨(not_mentions_iff.1 (new 0 Nat.two_pos)).1, ?_, rfl⟩
  rintro r own
  obtain rfl := Option.some.inj own
  exact (not_mentions_iff.1 (new 1 Nat.one_lt_two)).2.1

theorem SuppliesNew.delegated {code : String} {lifetime : Int} {now : Instant} (new : w.SuppliesNew m 1) :
    m.New (.delegated owner code lifetime now (w.text 0)) :=
  ⟨(not_mentions_iff.1 (new 0 Nat.one_pos)).1, nofun, rfl⟩

/-- A call that is about nobody writes nothing. -/
theorem writes_of_nobody (nobody : call.subject? s w m = none) : (call.plan s w m).writes = [] := by
  cases call with
  | issueFromPassword email password =>
    have absent : m.accountByEmail? email = none := Option.map_eq_none_iff.1 nobody
    simp only [Call.plan, Memory.holder, absent]
    rfl
  | issueFromProvider provider accessToken =>
    cases recognized : s.recognized w provider accessToken with
    | error failure =>
      simp only [Call.plan, recognized]
      rfl
    | ok profile =>
      simp only [Call.subject?, recognized] at nobody
      simp only [Call.plan, recognized, Memory.linked]
      have absent : m.accountByIdentity? profile.provider profile.subject = none := Option.map_eq_none_iff.1 nobody
      simp only [absent]
      rfl
  | refresh r =>
    have absent : m.tokenByRefresh? r = none := Option.map_eq_none_iff.1 nobody
    simp only [Call.plan, Memory.verdict_of_unknown absent]
  | authenticate access => rfl
  | invalidate access =>
    cases access with
    | none => rfl
    | some access =>
      have absent : m.tokens.get? access = none := Option.map_eq_none_iff.1 nobody
      simp [Call.plan, Table.contains, absent, Plan.refusal]
  | authorize access client scope =>
    have absent : m.tokens.get? access = none := Option.map_eq_none_iff.1 nobody
    simp only [Call.plan, Memory.bearer, absent]
    split <;> rfl
  | issueFromCode code client =>
    have absent : m.grants.get? code = none := Option.map_eq_none_iff.1 nobody
    simp only [Call.plan, Memory.unspent, absent]
    rfl

/-- What a call writes is in the name of the account that it is about. -/
theorem writes_of_subject (orderly : m.Orderly) (subject : call.subject? s w m = some owner)
    (new : w.SuppliesNew m (call.plan s w m).drawn) : Memory.ServesAll owner (call.plan s w m).writes m := by
  cases call with
  | issueFromPassword email password =>
    obtain ⟨account, found, rfl⟩ := Option.map_eq_some_iff.1 subject
    simp only [Call.plan] at new ⊢
    cases opened : m.holder email password with
    | error failure => trivial
    | ok holder =>
      simp only [opened] at new
      rw [Memory.holder_eq_ok opened] at found
      obtain rfl := Option.some.inj found
      exact ⟨⟨rfl, new.issued⟩, trivial⟩
  | issueFromProvider provider accessToken =>
    simp only [Call.plan] at new ⊢
    cases recognized : s.recognized w provider accessToken with
    | error failure => trivial
    | ok profile =>
      simp only [Call.subject?, recognized] at subject
      simp only [recognized] at new
      obtain ⟨account, found, rfl⟩ := Option.map_eq_some_iff.1 subject
      dsimp only
      cases known : m.linked profile with
      | error failure => trivial
      | ok holder =>
        simp only [known] at new
        rw [Memory.linked_eq_ok known] at found
        obtain rfl := Option.some.inj found
        by_cases saved : holder.hasSaved profile = true
        · simp only [saved, if_true]
          exact ⟨⟨rfl, new.issued⟩, trivial⟩
        · simp only [saved]
          have member := List.mem_of_find?_eq_some (Memory.linked_eq_ok known)
          have linked := List.find?_some (Memory.linked_eq_ok known)
          exact ⟨⟨rfl, holder, member, rfl, linked⟩, ⟨rfl, new.issued.step rfl⟩, trivial⟩
  | refresh r =>
    obtain ⟨old, found, rfl⟩ := Option.map_eq_some_iff.1 subject
    simp only [Call.plan] at new ⊢
    cases verdict : m.verdict r with
    | settled result => trivial
    | extended extended =>
      simp only [verdict] at new
      obtain ⟨found', ready⟩ := Memory.open_of_verdict verdict
      rw [found'] at found
      obtain rfl := Option.some.inj found
      obtain ⟨stored, -⟩ := orderly.tokenByRefresh?_iff.1 found'
      exact ⟨⟨rfl, new.issued, rfl, extended, stored, rfl, ready⟩, trivial⟩
  | authenticate access => trivial
  | invalidate access =>
    obtain ⟨access, rfl, found⟩ := Option.bind_eq_some_iff.1 subject
    obtain ⟨token, stored, rfl⟩ := Option.map_eq_some_iff.1 found
    simp only [Call.plan]
    split
    · exact ⟨⟨token, stored, rfl⟩, trivial⟩
    · trivial
  | authorize access client scope =>
    obtain ⟨token, stored, rfl⟩ := Option.map_eq_some_iff.1 subject
    simp only [Call.plan] at new ⊢
    split
    · trivial
    · rename_i named
      simp only [named] at new
      cases carried : m.bearer access (w.clock 1) with
      | error failure => trivial
      | ok bearer =>
        simp only [carried] at new
        rw [Memory.bearer_eq_ok carried] at stored
        obtain rfl := Option.some.inj stored
        exact ⟨⟨rfl, (not_mentions_iff.1 (new 0 Nat.one_pos)).2.2⟩, trivial⟩
  | issueFromCode code client =>
    obtain ⟨grant, stored, rfl⟩ := Option.map_eq_some_iff.1 subject
    simp only [Call.plan] at new ⊢
    cases unspent : m.unspent code with
    | none => trivial
    | some found =>
      simp only [unspent] at new
      rw [Memory.unspent_eq_some unspent] at stored
      obtain rfl := Option.some.inj stored
      have takes : m.Serves found.owner (.takeGrant code) := ⟨found, Memory.unspent_eq_some unspent, rfl⟩
      dsimp only
      split
      · exact ⟨takes, trivial⟩
      · rename_i same
        split
        · exact ⟨takes, trivial⟩
        · rename_i current
          simp only [same, current] at new
          exact ⟨takes, ⟨rfl, new.delegated.step rfl⟩, trivial⟩

end World

end TokenAuthority
