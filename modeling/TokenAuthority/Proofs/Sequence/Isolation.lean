import TokenAuthority.Proofs.Sequence.Agreement

/-!
# Users do not notice one another

If the turns that are about other users are left out, all others come to what they came to before, and the
store ends up with the same records of the one user.
-/

namespace TokenAuthority

namespace Agree

variable {s : Service} {w : World} {call : Call} {turn : Turn} {owner : String} {m m' : Memory}
  (agree : Agree owner m m')
include agree

/-! ### Reading the store -/

theorem bearer_eq {access : String} {now : Instant}
    (mine : ∀ token, m.tokens.get? access = some token → token.owner = owner) :
    m'.bearer access now = m.bearer access now := by
  rw [Memory.bearer, agree.token_eq mine, Memory.bearer]

theorem unspent_eq {code : String} (mine : ∀ grant, m.grants.get? code = some grant → grant.owner = owner) :
    m'.unspent code = m.unspent code := by
  rw [Memory.unspent, agree.grant_eq mine, Memory.unspent]

theorem accountByEmail?_eq {email : String}
    (mine : ∀ account, m.accountByEmail? email = some account → account.id = owner) :
    m'.accountByEmail? email = m.accountByEmail? email :=
  agree.account_eq (fun _ _ twin => by rw [twin.email]) mine

theorem accountByIdentity?_eq {provider subject : String}
    (mine : ∀ account, m.accountByIdentity? provider subject = some account → account.id = owner) :
    m'.accountByIdentity? provider subject = m.accountByIdentity? provider subject :=
  agree.account_eq (fun _ _ twin => twin.linked provider subject) mine

theorem verdict_eq {r : String} (mine : ∀ token, m.tokenByRefresh? r = some token → token.owner = owner) :
    m'.verdict r = m.verdict r := by
  rw [Memory.verdict, agree.refreshed_eq mine, Memory.verdict]
  cases found : m.tokenByRefresh? r with
  | none => rfl
  | some old =>
    have handOver : m'.handOver old = m.handOver old := by
      rw [Memory.handOver, Memory.handOver]
      cases next : old.next with
      | none => rfl
      | some access =>
        dsimp only
        -- The successor belongs to the same user, so both stores hold it.
        rw [agree.token_eq]
        intro successor read
        obtain ⟨stored, -⟩ := agree.orderly.tokenByRefresh?_iff.1 found
        obtain ⟨same, -⟩ := agree.orderly.chained.kin stored next read
        exact same.trans (mine old found)
    simp only [handOver]

/-! ### One turn -/

/-- A call that is about no other user comes to the same over both stores, and is about the same user. -/
theorem plan_eq (mine : ∀ other, call.subject? s w m = some other → other = owner) :
    call.subject? s w m' = call.subject? s w m ∧ call.plan s w m' = call.plan s w m := by
  cases call with
  | issueFromPassword email password =>
    have same := agree.accountByEmail?_eq fun account found => mine _ (congrArg (Option.map Account.id) found)
    simp only [Call.subject?, Call.plan, Memory.holder, same, and_self]
  | issueFromProvider provider accessToken =>
    cases recognized : s.recognized w provider accessToken with
    | error failure => simp only [Call.subject?, Call.plan, recognized, and_self]
    | ok profile =>
      simp only [Call.subject?, recognized] at mine
      have same := agree.accountByIdentity?_eq fun account found => mine _ (congrArg (Option.map Account.id) found)
      simp only [Call.subject?, Call.plan, recognized, Memory.linked, same, and_self]
  | refresh r =>
    have own (token : Token) (found : m.tokenByRefresh? r = some token) : token.owner = owner :=
      mine _ (congrArg (Option.map Token.owner) found)
    simp only [Call.subject?, Call.plan, agree.refreshed_eq own, agree.verdict_eq own, and_self]
  | authenticate access =>
    have own (token : Token) (found : m.tokens.get? access = some token) : token.owner = owner :=
      mine _ (congrArg (Option.map Token.owner) found)
    simp only [Call.subject?, Call.plan, agree.token_eq own, agree.bearer_eq own, and_self]
  | invalidate access =>
    cases access with
    | none => exact ⟨rfl, rfl⟩
    | some access =>
      have same := agree.token_eq fun token found => mine _ (congrArg (Option.map Token.owner) found)
      have known : m'.tokens.contains access = m.tokens.contains access := congrArg Option.isSome same
      simp only [Call.subject?, Call.plan, Option.bind_some, same, known, and_self]
  | authorize access client scope =>
    have own (token : Token) (found : m.tokens.get? access = some token) : token.owner = owner :=
      mine _ (congrArg (Option.map Token.owner) found)
    simp only [Call.subject?, Call.plan, agree.token_eq own, agree.bearer_eq own, and_self]
  | issueFromCode code client =>
    have own (grant : Grant) (found : m.grants.get? code = some grant) : grant.owner = owner :=
      mine _ (congrArg (Option.map Grant.owner) found)
    simp only [Call.subject?, Call.plan, agree.grant_eq own, agree.unspent_eq own, and_self]

theorem writes_own {writes : List (Instant × StoreCall)} (serves : Memory.ServesAll owner writes m)
    (serves' : Memory.ServesAll owner writes m') :
    Agree owner (writes.foldl (fun m write => (m.step write.1 write.2).2) m)
      (writes.foldl (fun m write => (m.step write.1 write.2).2) m') := by
  induction writes generalizing m m' with
  | nil => exact agree
  | cons write writes ih =>
    obtain ⟨first, rest⟩ := serves
    obtain ⟨first', rest'⟩ := serves'
    exact ih (agree.step_own first first') rest rest'

theorem writes_other {other : String} {writes : List (Instant × StoreCall)}
    (serves : Memory.ServesAll other writes m) (different : other ≠ owner) :
    Agree owner (writes.foldl (fun m write => (m.step write.1 write.2).2) m) m' := by
  induction writes generalizing m with
  | nil => exact agree
  | cons write writes ih =>
    obtain ⟨first, rest⟩ := serves
    exact ih (agree.step_other first different) rest

variable (fresh : turn.Fresh s m)
include fresh

/-- A turn that is about no other user is taken over both stores, and comes to the same. -/
theorem turn_kept (mine : ∀ other, turn.call.subject? s turn.world m = some other → other = owner) :
    turn.Fresh s m' ∧ turn.result s m' = turn.result s m ∧ Agree owner (turn.after s m) (turn.after s m') := by
  obtain ⟨subject', plan⟩ := agree.plan_eq mine
  have plan' : turn.plan s m' = turn.plan s m := plan
  have new := (Turn.fresh_iff agree.orderly).1 fresh
  have new' : turn.world.SuppliesNew m' (turn.plan s m').drawn := by
    rw [plan']
    exact fun i below mentions => new i below (agree.mentions mentions)
  have fresh' := (Turn.fresh_iff agree.orderly').2 new'
  refine ⟨fresh', ?_, ?_⟩
  · rw [Turn.result_eq agree.orderly' fresh', plan', Turn.result_eq agree.orderly fresh]
  · rw [Turn.after_eq agree.orderly fresh, Turn.after_eq agree.orderly' fresh', plan']
    cases subject : turn.call.subject? s turn.world m with
    | none =>
      have nothing : (turn.plan s m).writes = [] := World.writes_of_nobody subject
      rw [Plan.after, Plan.after, nothing]
      exact agree
    | some other =>
      obtain rfl := mine other subject
      have serves' := World.writes_of_subject agree.orderly' (subject'.trans subject) new'
      rw [plan] at serves'
      exact agree.writes_own (World.writes_of_subject agree.orderly subject new) serves'

/-- A turn that is about another user is taken over the first store only. -/
theorem turn_left {other : String} (subject : turn.call.subject? s turn.world m = some other)
    (different : other ≠ owner) : Agree owner (turn.after s m) m' := by
  rw [Turn.after_eq agree.orderly fresh]
  have new := (Turn.fresh_iff agree.orderly).1 fresh
  exact agree.writes_other (World.writes_of_subject agree.orderly subject new) different

end Agree

/-! ### All turns -/

def Taken.isOfOther (s : Service) (owner : String) (taken : Taken) : Bool :=
  (taken.turn.call.subject? s taken.turn.world taken.before).any (· != owner)

/-- The turns that were about no other user. -/
def Service.keptFor (s : Service) (owner : String) (turns : List Turn) (m : Memory) : List Taken :=
  (s.transcript turns m).filter fun taken => !taken.isOfOther s owner

theorem Agree.turns {s : Service} {owner : String} {turns : List Turn} {m m' : Memory} (agree : Agree owner m m')
    (fresh : s.AllFresh turns m) :
    s.AllFresh ((s.keptFor owner turns m).map Taken.turn) m' ∧
    (s.transcript ((s.keptFor owner turns m).map Taken.turn) m').map Taken.result =
      (s.keptFor owner turns m).map Taken.result ∧
    Agree owner (s.finish turns m) (s.finish ((s.keptFor owner turns m).map Taken.turn) m') := by
  induction turns generalizing m m' with
  | nil => exact ⟨trivial, rfl, agree⟩
  | cons turn turns ih =>
    obtain ⟨first, rest⟩ := fresh
    rw [Service.keptFor, Service.transcript, List.filter_cons]
    cases others : Taken.isOfOther s owner ⟨turn, m, turn.result s m⟩ with
    | true =>
      obtain ⟨other, subject, different⟩ := (Option.any_eq_true _ _).1 others
      exact ih (agree.turn_left first subject (bne_iff_ne.1 different)) rest
    | false =>
      have mine : ∀ other, turn.call.subject? s turn.world m = some other → other = owner := by
        intro other subject
        by_contra different
        rw [Taken.isOfOther, subject] at others
        exact different (by simpa using others)
      obtain ⟨fresh', result, after⟩ := agree.turn_kept first mine
      obtain ⟨freshs, results, finish⟩ := ih after rest
      exact ⟨⟨fresh', freshs⟩, congrArg₂ List.cons result results, finish⟩

/-- Two stores hold the same records of a user. -/
structure Memory.SameFor (owner : String) (m m' : Memory) : Prop where
  account : m'.accounts.get? owner = m.accounts.get? owner
  token : ∀ access token, token.owner = owner →
    (m'.tokens.get? access = some token ↔ m.tokens.get? access = some token)
  refresh : ∀ r token, token.owner = owner → (m'.tokenByRefresh? r = some token ↔ m.tokenByRefresh? r = some token)
  grant : ∀ code grant, grant.owner = owner →
    (m'.grants.get? code = some grant ↔ m.grants.get? code = some grant)

theorem Agree.sameFor {owner : String} {m m' : Memory} (agree : Agree owner m m') : m.SameFor owner m' := by
  have tokens (access : String) (token : Token) (own : token.owner = owner) :
      m'.tokens.get? access = some token ↔ m.tokens.get? access = some token :=
    ((agree.tokens access).some_iff own fun kin => kin.1.trans own).symm
  refine ⟨agree.account_of_owner, tokens, ?_, ?_⟩
  · intro r token own
    rw [agree.orderly.tokenByRefresh?_iff, agree.orderly'.tokenByRefresh?_iff, tokens token.access token own]
  · intro code grant own
    exact ((agree.grants code).some_iff own fun kin => kin.trans own).symm

/-- Take any calls one after the other, of which no one draws a string that is stored already, and leave out
those about other users than a given one: then each of the rest gives the result that it gave before, and the
store ends up with the same account, the same tokens and the same grants of the user. -/
theorem users_are_isolated (s : Service) (m : Memory) (turns : List Turn) (owner : String) (orderly : m.Orderly)
    (keyed : m.Keyed) (fresh : s.AllFresh turns m) :
    let kept := s.keptFor owner turns m
    s.AllFresh (kept.map Taken.turn) m ∧
    (s.transcript (kept.map Taken.turn) m).map Taken.result = kept.map Taken.result ∧
    (s.finish turns m).SameFor owner (s.finish (kept.map Taken.turn) m) := by
  intro kept
  obtain ⟨fresh', results, agree⟩ := (Agree.refl orderly keyed owner).turns fresh
  exact ⟨fresh', results, agree.sameFor⟩

/-- Without the second guest's turns the first guest's client gets the same token. -/
theorem guests_isolated : guestbook.Orderly ∧ guestbook.Keyed ∧ inn.AllFresh guests guestbook ∧
    (inn.keptFor "u" guests guestbook).length = 3 ∧
    (inn.finish ((inn.keptFor "u" guests guestbook).map Taken.turn) guestbook).tokens.get? "d" =
      some (.delegated "u" "k" 3600 (.ofSeconds 0) "d") := by
  have orderly : guestbook.Orderly := .of_empty rfl rfl
  have keyed : guestbook.Keyed := Memory.Keyed.empty.insertAccount.insertAccount
  have isolated := users_are_isolated inn guestbook guests "u" orderly keyed guests_fresh
  have stored : (inn.finish guests guestbook).tokens.get? "d" =
      some (.delegated "u" "k" 3600 (.ofSeconds 0) "d") := by
    decide +kernel
  have three : (inn.keptFor "u" guests guestbook).length = 3 := by decide +kernel
  exact ⟨orderly, keyed, guests_fresh, three, (isolated.2.2.token "d" _ rfl).2 stored⟩

end TokenAuthority
