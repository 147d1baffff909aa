import TokenAuthority.Proofs.Alone.Basic
import TokenAuthority.Proofs.Store.Growth

/-!
# A refresh that is not interrupted

What a refresh comes to if nothing gets in between can be told from the store: it hands out the successor
of the token with the given string, refuses to, or extends the chain by a new token.
-/

namespace TokenAuthority

/-- A token that can be refreshed. -/
structure Token.Open (token : Token) : Prop where
  plain : token.code = none
  valid : token.valid = true
  last : token.next = none

/-- What comes of handing out a successor: it must itself be the last of its chain, and valid. -/
def Token.handedOut (next : Token) : Except Failure Token :=
  if next.wasRefreshed then .error .alreadyRefreshed
  else if next.wasInvalidated then .error .alreadyInvalidated
  else .ok next

namespace Token

variable {next token : Token}

theorem handedOut_of_linked (linked : next.next.isSome) : next.handedOut = .error .alreadyRefreshed :=
  if_pos linked

theorem handedOut_of_closed (last : next.next = none) (closed : next.valid = false) :
    next.handedOut = .error .alreadyInvalidated := by
  simp [handedOut, wasRefreshed, last, wasInvalidated, closed]

theorem handedOut_of_open (last : next.next = none) (valid : next.valid = true) : next.handedOut = .ok next := by
  simp [handedOut, wasRefreshed, last, wasInvalidated, valid]

theorem handedOut_eq_ok (handed : next.handedOut = .ok token) : token = next := by
  unfold handedOut at handed
  split at handed
  · cases handed
  · split at handed
    · cases handed
    · exact (Except.ok.inj handed).symm

theorem last_of_handedOut (handed : next.handedOut = .ok token) : next.valid = true ∧ next.next = none := by
  unfold handedOut at handed
  split at handed
  · cases handed
  · rename_i last
    split at handed
    · cases handed
    · rename_i valid
      exact ⟨by simpa [wasInvalidated] using valid, by simpa [wasRefreshed] using last⟩

theorem handedOut_cases {motive : Except Failure Token → Prop}
    (linked : next.next.isSome → motive (.error .alreadyRefreshed))
    (closed : next.next = none → next.valid = false → motive (.error .alreadyInvalidated))
    (good : next.next = none → next.valid = true → motive (.ok next)) : motive next.handedOut := by
  cases last : next.next with
  | some access =>
    have refreshed : next.next.isSome := by rw [last]; rfl
    rw [handedOut_of_linked refreshed]
    exact linked refreshed
  | none =>
    cases valid : next.valid with
    | false =>
      rw [handedOut_of_closed last valid]
      exact closed last valid
    | true =>
      rw [handedOut_of_open last valid]
      exact good last valid

theorem handedOut_action (next : Token) :
    (if next.wasRefreshed then throw .alreadyRefreshed
      else if next.wasInvalidated then throw .alreadyInvalidated else pure next : Action Token) =
      .mk (.done next.handedOut) := by
  unfold handedOut
  split
  · rfl
  · split <;> rfl

end Token

namespace Memory

/-- What comes of handing out the successor of a token. -/
def handOver (m : Memory) (old : Token) : Except Failure Token :=
  match old.next with
  | none => .error (.illegalState "token has no successor")
  | some access =>
    match m.tokens.get? access with
    | none => .error (.illegalState ("token '" ++ fingerprint old.access ++ "' points at an unknown successor"))
    | some next => next.handedOut

/-- How a store decides a refresh: at once, or by extending the chain of a token. -/
inductive Verdict where
  | settled (result : Except Failure Token)
  | extended (old : Token)

/-- How the store decides a refresh with the string `r`. -/
def verdict (m : Memory) (r : String) : Verdict :=
  match m.tokenByRefresh? r with
  | none => .settled (.error .unknownToken)
  | some old =>
    if old.isOAuth then .settled (.error .oauthRefresh)
    else if old.wasInvalidated then .settled (.error .alreadyInvalidated)
    else if old.wasRefreshed then .settled (m.handOver old)
    else .extended old

variable {m : Memory} {r access : String} {old successor : Token}

theorem verdict_of_unknown (absent : m.tokenByRefresh? r = none) :
    m.verdict r = .settled (.error .unknownToken) := by
  rw [verdict, absent]

theorem verdict_of_delegated (found : m.tokenByRefresh? r = some old) (code : old.code.isSome) :
    m.verdict r = .settled (.error .oauthRefresh) := by
  rw [verdict, found]
  exact if_pos code

theorem verdict_of_closed (found : m.tokenByRefresh? r = some old) (plain : old.code = none)
    (closed : old.valid = false) : m.verdict r = .settled (.error .alreadyInvalidated) := by
  simp [verdict, found, Token.isOAuth, plain, Token.wasInvalidated, closed]

theorem verdict_of_linked (found : m.tokenByRefresh? r = some old) (plain : old.code = none)
    (valid : old.valid = true) (next : old.next = some access)
    (read : m.tokens.get? access = some successor) : m.verdict r = .settled successor.handedOut := by
  simp [verdict, found, Token.isOAuth, plain, Token.wasInvalidated, valid, Token.wasRefreshed, next,
    handOver, read]

theorem verdict_of_open (found : m.tokenByRefresh? r = some old) (ready : old.Open) :
    m.verdict r = .extended old := by
  simp [verdict, found, Token.isOAuth, ready.plain, Token.wasInvalidated, ready.valid, Token.wasRefreshed,
    ready.last]

/-- A token that is handed out at once is the successor of the one with the given string, and the last of its
chain. -/
theorem handed_of_verdict {token : Token} (settled : m.verdict r = .settled (.ok token)) :
    ∃ old access, m.tokenByRefresh? r = some old ∧ old.next = some access ∧ m.tokens.get? access = some token ∧
      token.valid = true ∧ token.next = none := by
  unfold verdict at settled
  cases found : m.tokenByRefresh? r with
  | none =>
    rw [found] at settled
    cases settled
  | some old =>
    rw [found] at settled
    dsimp only at settled
    split at settled
    · cases settled
    · split at settled
      · cases settled
      · split at settled
        · rename_i linked
          have handed : m.handOver old = .ok token := Verdict.settled.inj settled
          unfold handOver at handed
          obtain ⟨access, next⟩ := Option.isSome_iff_exists.1 linked
          rw [next] at handed
          dsimp only at handed
          split at handed
          · cases handed
          · rename_i successor read
            obtain rfl := Token.handedOut_eq_ok handed
            exact ⟨old, access, rfl, next, read, Token.last_of_handedOut handed⟩
        · cases settled

theorem open_of_verdict (extended : m.verdict r = .extended old) :
    m.tokenByRefresh? r = some old ∧ old.Open := by
  unfold verdict at extended
  cases found : m.tokenByRefresh? r with
  | none =>
    rw [found] at extended
    cases extended
  | some token =>
    rw [found] at extended
    dsimp only at extended
    split at extended
    · cases extended
    · rename_i plain
      split at extended
      · cases extended
      · rename_i valid
        split at extended
        · cases extended
        · rename_i last
          obtain rfl := Verdict.extended.inj extended
          exact ⟨rfl, by simpa [Token.isOAuth] using plain, by simpa [Token.wasInvalidated] using valid,
            by simpa [Token.wasRefreshed] using last⟩

theorem step_chainToken_tokens {now : Instant} {token : Token} (stored : m.tokens.get? access = some old)
    (ready : old.Open) (unused : m.tokens.get? token.access = none) :
    (m.step now (.chainToken access token)).2.tokens =
      (m.tokens.insert token.access token).modify access (Token.withNext token.access) := by
  have chainable : m.chainable access = true := chainable_iff.2 ⟨old, stored, ready.valid, ready.last⟩
  obtain ⟨middle, inserted⟩ := insertToken?_of_unused unused
  simp only [step, chainable, inserted, if_true, (insertToken?_eq_some inserted).2.1]
  rfl

end Memory

namespace World

variable (w : World) (s : Service) (j : Journal) {m : Memory} {r : String} {old : Token}

theorem alone_successorOf (m : Memory) (old : Token) :
    ∃ after, w.alone (Service.successorOf old) (j, m) = (m.handOver old, after, m) ∧ after.drawn = j.drawn := by
  rw [Service.successorOf, alone_bind, Memory.handOver]
  cases old.next with
  | none => exact ⟨j, rfl, rfl⟩
  | some access =>
    simp only [Service.orThrow, alone_pure, alone_bind, alone_tokenByAccess]
    cases m.tokens.get? access with
    | none => exact ⟨_, rfl, rfl⟩
    | some next =>
      refine ⟨{ j with readings := j.readings + 1 }, ?_, rfl⟩
      simp only [alone_ite, alone_throw, alone_pure, Token.handedOut]
      split
      · rfl
      · split <;> rfl

theorem alone_refresh_of_settled {result : Except Failure Token} (settled : m.verdict r = .settled result) :
    ∃ after, w.alone (s.refresh r) (j, m) = (result, after, m) ∧ after.drawn = j.drawn := by
  rw [Service.refresh, alone_bind, alone_log]
  simp only [alone_bind, alone_tokenByRefresh]
  unfold Memory.verdict at settled
  cases found : m.tokenByRefresh? r with
  | none =>
    rw [found] at settled
    obtain rfl := Memory.Verdict.settled.inj settled
    exact ⟨_, rfl, rfl⟩
  | some old =>
    rw [found] at settled
    simp only [alone_ite, alone_throw, alone_bind, alone_log] at settled ⊢
    split at settled <;> rename_i code
    · obtain rfl := Memory.Verdict.settled.inj settled
      rw [if_pos code]
      exact ⟨_, rfl, rfl⟩
    · rw [if_neg code]
      split at settled <;> rename_i closed
      · obtain rfl := Memory.Verdict.settled.inj settled
        rw [if_pos closed]
        exact ⟨_, rfl, rfl⟩
      · rw [if_neg closed]
        split at settled <;> rename_i linked
        · obtain rfl := Memory.Verdict.settled.inj settled
          rw [if_pos linked]
          exact w.alone_successorOf _ m old
        · cases settled

section

variable (extended : m.verdict r = .extended old) (stored : m.tokens.get? old.access = some old) {token : Token}
  (issued : token = .issued old.owner s.tokenLifetime (w.clock (j.readings + 1)) (w.text j.drawn)
    (w.text (j.drawn + 1)))
include extended stored issued

/-- Extending a chain: the new token is stored and linked in one step, if its access string is not in use. -/
theorem alone_refresh_extends (now : Instant) : ∃ after, w.alone (s.refresh r) (j, m) =
    ((fun _ => token) <$> (m.step now (.chainToken old.access token)).1, after,
      (m.step now (.chainToken old.access token)).2) ∧ after.drawn = j.drawn + 2 := by
  obtain ⟨found, ready⟩ := Memory.open_of_verdict extended
  have plain : old.isOAuth = false := by simp [Token.isOAuth, ready.plain]
  have valid : old.wasInvalidated = false := by simp [Token.wasInvalidated, ready.valid]
  have last : old.wasRefreshed = false := by simp [Token.wasRefreshed, ready.last]
  have chainable : m.chainable old.access = true := Memory.chainable_iff.2 ⟨old, stored, ready.valid, ready.last⟩
  rw [Service.refresh, alone_bind, alone_log]
  simp only [alone_bind, alone_tokenByRefresh, found, plain, valid, last, alone_newToken, alone_chainToken,
    Bool.false_eq_true, if_false, ← issued, Memory.step, chainable, if_true]
  cases m.insertToken? token with
  | none => exact ⟨_, rfl, rfl⟩
  | some middle => exact ⟨_, rfl, rfl⟩

theorem alone_refresh_of_extended (unused : m.tokens.get? token.access = none) (now : Instant) :
    ∃ after, w.alone (s.refresh r) (j, m) =
      (.ok token, after, (m.step now (.chainToken old.access token)).2) := by
  obtain ⟨-, ready⟩ := Memory.open_of_verdict extended
  obtain ⟨linked, chains⟩ := Memory.step_chainToken_of_open stored ready.valid ready.last unused
  obtain ⟨after, alone, -⟩ := w.alone_refresh_extends s j extended stored issued now
  rw [chains] at alone ⊢
  exact ⟨after, alone⟩

end

end World

end TokenAuthority
