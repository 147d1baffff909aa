import TokenAuthority.Proofs.Alone.Refresh
import TokenAuthority.Proofs.Dialogue.Refresh
import TokenAuthority.Proofs.Store.Built
import TokenAuthority.Proofs.Store.Frame

/-!
# What an uninterrupted refresh comes to, and what it leaves

The refusals and replays of a refresh come in a fixed order, by the token that is found and by the successor that it
names. Only a token that is valid, unmarked and without a successor makes the refresh change the store. When a token
expires has no part in it.
-/

namespace TokenAuthority

namespace Memory

/-- The outcomes of a refresh with the string `r` that leave the store alone. -/
inductive Settles (m : Memory) (r : String) : Except Failure Token → Prop where
  | unknown (absent : m.tokenByRefresh? r = none) : Settles m r (.error .unknownToken)
  | delegated {old : Token} (found : m.tokenByRefresh? r = some old) (code : old.code.isSome) :
    Settles m r (.error (.invalidArgument "This API may not be used to refresh OAuth-based tokens."))
  | closed {old : Token} (found : m.tokenByRefresh? r = some old) (plain : old.code = none)
      (closed : old.valid = false) : Settles m r (.error .alreadyInvalidated)
  | dangling {old : Token} {access : String} (found : m.tokenByRefresh? r = some old) (plain : old.code = none)
      (valid : old.valid = true) (linked : old.next = some access) (absent : m.tokens.get? access = none) :
    Settles m r (.error (.illegalState ("token '" ++ fingerprint old.access ++ "' points at an unknown successor")))
  | refreshed {old next : Token} {access : String} (found : m.tokenByRefresh? r = some old) (plain : old.code = none)
      (valid : old.valid = true) (linked : old.next = some access) (stored : m.tokens.get? access = some next)
      (refreshed : next.next.isSome) : Settles m r (.error .alreadyRefreshed)
  | revoked {old next : Token} {access : String} (found : m.tokenByRefresh? r = some old) (plain : old.code = none)
      (valid : old.valid = true) (linked : old.next = some access) (stored : m.tokens.get? access = some next)
      (last : next.next = none) (revoked : next.valid = false) : Settles m r (.error .alreadyInvalidated)
  | replayed {old next : Token} {access : String} (found : m.tokenByRefresh? r = some old) (plain : old.code = none)
      (valid : old.valid = true) (linked : old.next = some access) (stored : m.tokens.get? access = some next)
      (last : next.next = none) (good : next.valid = true) : Settles m r (.ok next)

variable {m : Memory} {r access : String} {old successor : Token} {result : Except Failure Token}

theorem verdict_of_dangling (found : m.tokenByRefresh? r = some old) (plain : old.code = none)
    (valid : old.valid = true) (linked : old.next = some access) (absent : m.tokens.get? access = none) :
    m.verdict r = .settled
      (.error (.illegalState ("token '" ++ fingerprint old.access ++ "' points at an unknown successor"))) := by
  simp [verdict, found, Token.isOAuth, plain, Token.wasInvalidated, valid, Token.wasRefreshed, linked, handOver,
    absent]

theorem Settles.verdict (settles : m.Settles r result) : m.verdict r = .settled result := by
  cases settles with
  | unknown absent => exact verdict_of_unknown absent
  | delegated found code => exact verdict_of_delegated found code
  | closed found plain closed => exact verdict_of_closed found plain closed
  | dangling found plain valid linked absent => exact verdict_of_dangling found plain valid linked absent
  | refreshed found plain valid linked stored refreshed =>
    rw [verdict_of_linked found plain valid linked stored, Token.handedOut_of_linked refreshed]
  | revoked found plain valid linked stored last revoked =>
    rw [verdict_of_linked found plain valid linked stored, Token.handedOut_of_closed last revoked]
  | replayed found plain valid linked stored last good =>
    rw [verdict_of_linked found plain valid linked stored, Token.handedOut_of_open last good]

/-- Every refresh is settled by what is stored or finds an open token. -/
theorem settles_or_open (m : Memory) (r : String) :
    (∃ result, m.Settles r result) ∨ ∃ old, m.tokenByRefresh? r = some old ∧ old.Open := by
  cases found : m.tokenByRefresh? r with
  | none => exact .inl ⟨_, .unknown found⟩
  | some old =>
    cases code : old.code with
    | some marker => exact .inl ⟨_, .delegated found (by rw [code]; rfl)⟩
    | none =>
      cases valid : old.valid with
      | false => exact .inl ⟨_, .closed found code valid⟩
      | true =>
        cases linked : old.next with
        | none => exact .inr ⟨old, rfl, code, valid, linked⟩
        | some access =>
          left
          cases stored : m.tokens.get? access with
          | none => exact ⟨_, .dangling found code valid linked stored⟩
          | some next =>
            cases last : next.next with
            | some other => exact ⟨_, .refreshed found code valid linked stored (by rw [last]; rfl)⟩
            | none =>
              cases good : next.valid with
              | false => exact ⟨_, .revoked found code valid linked stored last good⟩
              | true => exact ⟨_, .replayed found code valid linked stored last good⟩

/-- The store after a chain is extended: it has the new token, its refresh string and the link to it. -/
structure Extends (m : Memory) (old token : Token) (after : Memory) : Prop where
  tokens : ∀ access, after.tokens.get? access =
    if access = token.access then some token
    else if access = old.access then some { old with next := some token.access }
    else m.tokens.get? access
  refreshIndex : ∀ key, after.refreshIndex.get? key =
    if token.refresh = some key then some token.access else m.refreshIndex.get? key
  accounts : after.accounts = m.accounts
  grants : after.grants = m.grants

theorem step_chainToken_extends {now : Instant} {token : Token} (stored : m.tokens.get? old.access = some old)
    (ready : old.Open) (unused : m.tokens.get? token.access = none) :
    m.Extends old token (m.step now (.chainToken old.access token)).2 where
  tokens access := by
    have different : token.access ≠ old.access := by
      intro same
      rw [same, stored] at unused
      cases unused
    rw [step_chainToken_tokens stored ready unused, Table.get?_modify, Table.get?_insert]
    split
    · rename_i same
      rw [same, if_neg different.symm, if_neg different.symm, stored]
      rfl
    · rfl
  refreshIndex key := by
    have chainable : m.chainable old.access = true := chainable_iff.2 ⟨old, stored, ready.valid, ready.last⟩
    obtain ⟨middle, inserted⟩ := insertToken?_of_unused unused
    simp only [step, chainable, inserted, if_true]
    exact (insertToken?_eq_some inserted).2.2 key
  accounts := (step_of_tokens rfl).1
  grants := (step_of_tokens rfl).2

end Memory

namespace World

open Dialogue

variable {w : World} {s : Service} {j : Journal} {m : Memory} {r : String}

/-- What happens between two store calls is none of the store's. -/
theorem trail_head {call : StoreCall} {answer : call.Answer} {visits : List Visit} {state last : Journal × Memory}
    (trail : Trail (w.answer fun _ => .none) state (⟨call, answer⟩ :: visits) last) :
    ∃ now journal, answer = (state.2.step now call).1 ∧
      Trail (w.answer fun _ => .none) (journal, (state.2.step now call).2) visits last := by
  generalize told : (⟨call, answer⟩ :: visits : List Visit) = all at trail
  induction trail with
  | stays state => cases told
  | moves request rest ih => exact ih told
  | @calls state last visits call rest ih =>
    cases told
    exact ⟨w.clock state.1.readings, _, rfl, rest⟩

/-- A token that was found to be open is still open when its chain is extended. -/
theorem refresh_not_lost (built : m.Built) {heard : List Heard} {visits : List Visit} {result : Except Failure Token}
    {last : Journal × Memory} (dialogue : Dialogue (s.refresh r).run heard visits result)
    (trail : Trail (w.answer fun _ => .none) (j, m) visits last) (access : String) (successor : Token) :
    ⟨.chainToken access successor, .ok false⟩ ∉ visits := by
  intro mem
  have refreshes : Refreshes s r visits result := dialogue.meets refresh_dialogue
  obtain ⟨found, others, rfl, pursues⟩ := refreshes.pursues
  rcases List.mem_cons.1 mem with same | mem
  · cases same
  obtain ⟨old, reads, rfl, rfl, ready, -, rfl⟩ := pursues.of_chain mem
  obtain ⟨_, _, looked, trail⟩ := trail_head trail
  obtain ⟨_, _, refused, -⟩ := trail_head trail
  have stored : m.tokens.get? old.access = some old := built.stored (Except.ok.inj looked).symm
  have chainable : m.chainable old.access = true := Memory.chainable_iff.2 ⟨old, stored, ready.valid, ready.last⟩
  have closed : m.chainable old.access = false := Memory.step_chainToken_refuses refused.symm
  rw [closed] at chainable
  cases chainable

/-- A refresh over any contents that store calls can build. Where it is settled by what is stored, it comes to that and
changes nothing. Where it finds an open token, and the string it draws is not the access string of a stored one, it
hands out a new token of the same account, and the contents differ by this token, its refresh string and the link from
the old one. These are all cases, and in none of them the store refuses to extend the chain. -/
theorem uninterrupted_refresh_outcome (w : World) (s : Service) (j : Journal) {m : Memory} (built : m.Built)
    (r : String) :
    let result := (w.alone (s.refresh r) (j, m)).1
    let after := (w.alone (s.refresh r) (j, m)).2
    ((∃ outcome, m.Settles r outcome) ∨ ∃ old, m.tokenByRefresh? r = some old ∧ old.Open) ∧
    (∀ outcome, m.Settles r outcome → result = outcome ∧ after.2 = m) ∧
    (∀ old, m.tokenByRefresh? r = some old → old.Open → m.tokens.get? (w.text j.drawn) = none →
      ∃ token, result = .ok token ∧ token.access = w.text j.drawn ∧ token.refresh = some (w.text (j.drawn + 1)) ∧
        token.owner = old.owner ∧ token.createdAt = w.clock (j.readings + 1) ∧
        token.expiresAt = token.createdAt.addSeconds s.tokenLifetime ∧ token.valid = true ∧ token.next = none ∧
        token.code = none ∧ m.Extends old token after.2) ∧
    (∀ old, m.tokenByRefresh? r = some old → old.code = none → old.valid = true → old.next = some old.access →
      result = .error .alreadyRefreshed ∧ after.2 = m) ∧
    ∀ heard visits, Dialogue (s.refresh r).run heard visits result →
      Trail (w.answer fun _ => .none) (j, m) visits after →
      ∀ access successor, ⟨.chainToken access successor, .ok false⟩ ∉ visits := by
  have settled {outcome : Except Failure Token} (settles : m.Settles r outcome) :
      (w.alone (s.refresh r) (j, m)).1 = outcome ∧ (w.alone (s.refresh r) (j, m)).2.2 = m := by
    obtain ⟨after, alone, -⟩ := w.alone_refresh_of_settled s j settles.verdict
    rw [alone]
    exact ⟨rfl, rfl⟩
  intro result after
  refine ⟨m.settles_or_open r, fun _ => settled, ?_, ?_, fun _ _ => refresh_not_lost built⟩
  · intro old found ready unused
    have stored := built.stored found
    generalize issued : Token.issued old.owner s.tokenLifetime (w.clock (j.readings + 1)) (w.text j.drawn)
      (w.text (j.drawn + 1)) = token
    have own : token.access = w.text j.drawn := by rw [← issued]; rfl
    rw [← own] at unused
    obtain ⟨last, alone⟩ := w.alone_refresh_of_extended s j (Memory.verdict_of_open found ready) stored issued.symm
      unused (w.clock 0)
    have same : result = .ok token := congrArg Prod.fst alone
    have left : after.2 = (m.step (w.clock 0) (.chainToken old.access token)).2 := congrArg (·.2.2) alone
    rw [left]
    refine ⟨token, same, own, ?_, ?_, ?_, ?_, ?_, ?_, ?_, Memory.step_chainToken_extends stored ready unused⟩
    all_goals rw [← issued]; rfl
  · intro old found plain valid linked
    exact settled (.refreshed found plain valid linked (built.stored found) (by rw [linked]; rfl))

/-- A token is refreshed a day after it has expired. -/
theorem expired_refresh_outcome : ∃ (w : World) (m : Memory) (old token : Token), m.Built ∧
    m.tokenByRefresh? "r" = some old ∧ old.Open ∧ old.isExpired (w.clock 0) = true ∧
    let refresh := w.alone (Service.refresh ⟨.empty, 3600, 600⟩ "r") (.empty, m)
    refresh.1 = .ok token ∧ token.owner = "u" ∧ m.Extends old token refresh.2.2 := by
  let w : World := ⟨fun _ => .ofSeconds 90000, fun n => if n = 0 then "b" else "s", fun _ => .failed⟩
  let old : Token := .issued "u" 3600 (.ofSeconds 0) "a" "r"
  let m : Memory := (Memory.empty.step (.ofSeconds 0) (.addToken old)).2
  have built : m.Built := .step .empty _ _
  have ready : old.Open := ⟨rfl, rfl, rfl⟩
  obtain ⟨-, -, grows, -⟩ := uninterrupted_refresh_outcome w ⟨.empty, 3600, 600⟩ .empty built "r"
  obtain ⟨token, result, -, -, owner, -, -, -, -, -, frame⟩ := grows old rfl ready rfl
  exact ⟨w, m, old, token, built, rfl, ready, by decide, result, owner, frame⟩

end World

end TokenAuthority
