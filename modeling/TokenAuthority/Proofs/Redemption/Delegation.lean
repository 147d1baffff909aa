import TokenAuthority.Proofs.Dialogue.Conduct
import TokenAuthority.Proofs.Interleaving.Transcript
import TokenAuthority.Proofs.Interleaving.Updates
import TokenAuthority.Proofs.Redemption.Outcome
import TokenAuthority.Proofs.Store.Indexes

/-!
# Tokens for clients

A token that a client got for an authorization code is marked with the code. In a run that starts without
tokens and grants it is asked of each stored token which store call has inserted it (`stored_origin`); a marked
one was inserted by the one call that has spent its code, so it is the only one of its code, and it stands
outside all chains. Refreshing looks at the marker before anything else, so a marked token is never chained to,
whatever the store contained at first.
-/

namespace TokenAuthority

/-- Tokens that are marked with a code stand apart from those that can be refreshed. -/
structure Memory.Apart (m : Memory) : Prop where
  sort : ∀ {access token}, m.tokens.get? access = some token → (token.refresh = none ↔ token.code.isSome = true)
  /-- The marker names a grant to the same owner, which was used. -/
  spent : ∀ {access token code}, m.tokens.get? access = some token → token.code = some code →
    ∃ grant, m.grants.get? code = some grant ∧ grant.code = code ∧ grant.usedAt.isSome = true ∧
      grant.owner = token.owner
  single : ∀ {a b token other code}, m.tokens.get? a = some token → m.tokens.get? b = some other →
    token.code = some code → other.code = some code → a = b
  last : ∀ {access token}, m.tokens.get? access = some token → token.code.isSome = true → token.next = none
  first : ∀ {access token}, m.tokens.get? access = some token → token.code.isSome = true →
    ∀ a, ¬Chain.Precedes m.tokens a access

namespace Visit

variable {visit : Visit} {token : Token}

theorem token?_of_inserted (inserts : visit.inserted? = some token) : visit.call.token? = some token := by
  obtain ⟨call, answer⟩ := visit
  cases call with
  | addToken own =>
    cases answer with
    | ok value => exact inserts
    | error failure => cases inserts
  | chainToken access own =>
    rcases answer with failure | _ | _
    · cases inserts
    · cases inserts
    · exact inserts
  | _ => cases inserts

theorem commits_of_inserted (inserts : visit.inserted? = some token) :
    visit.call.commits? visit.answer = some (.token token) := by
  obtain ⟨call, answer⟩ := visit
  cases call with
  | addToken own =>
    cases answer with
    | ok value =>
      obtain rfl := Option.some.inj inserts
      rfl
    | error failure => cases inserts
  | chainToken access own =>
    rcases answer with failure | _ | _
    · cases inserts
    · cases inserts
    · obtain rfl := Option.some.inj inserts
      rfl
  | _ => cases inserts

theorem call_of_linked {access successor : String} (linked : visit.linked? = some (access, successor)) :
    ∃ added, visit.call = .chainToken access added := by
  obtain ⟨call, answer⟩ := visit
  cases call with
  | chainToken old added =>
    rcases answer with failure | _ | _
    · cases linked
    · cases linked
    · obtain rfl : old = access := congrArg Prod.fst (Option.some.inj linked)
      exact ⟨added, rfl⟩
  | _ => cases linked

end Visit

namespace Dialogue

/-- Only the last store call of a dialogue can commit the call to something. -/
theorem Conduct.idle_before {call : Call} {before after : List Visit} {visit : Visit}
    {result : Except Failure Yield} (conduct : Conduct call (before ++ visit :: after) result) :
    ∀ earlier ∈ before, earlier.call.commits? earlier.answer = none := by
  have early {passed : List Visit} {last : Visit} (split : passed ++ [last] = before ++ visit :: after) :
      ∀ earlier ∈ before, earlier ∈ passed := by
    intro earlier mem
    have shorter := congrArg List.dropLast split
    rw [List.dropLast_concat, List.dropLast_append_of_ne_nil (List.cons_ne_nil _ _)] at shorter
    rw [shorter]
    exact List.mem_append_left _ mem
  generalize visits_eq : before ++ visit :: after = visits at conduct
  intro earlier mem
  cases conduct with
  | refuses passed failure => exact (passed earlier (visits_eq ▸ List.mem_append_left _ mem)).idle
  | reads passed reads yield => exact (passed earlier (visits_eq ▸ List.mem_append_left _ mem)).idle
  | fails passed permitted fails => exact (passed earlier (early visits_eq.symm earlier mem)).idle
  | commits passed permitted commits => exact (passed earlier (early visits_eq.symm earlier mem)).idle

/-- A refresh that finds a marked token refuses it and asks for nothing more. -/
theorem Refreshes.of_marked {s : Service} {r : String} {old : Token} {others : List Visit}
    {result : Except Failure Token} (refreshes : Refreshes s r (⟨.tokenByRefresh r, .ok (some old)⟩ :: others) result)
    (marked : old.code.isSome = true) : others = [] ∧ result = .error .oauthRefresh := by
  have unmarked {rest : Prop} (plain : old.code = none) : rest := by
    rw [plain] at marked
    cases marked
  cases refreshes with
  | delegated code => exact ⟨rfl, rfl⟩
  | closed plain closed => exact unmarked plain
  | replayed plain valid handsOver => exact unmarked plain
  | won ready made => exact unmarked ready.plain
  | unchained ready made => exact unmarked ready.plain
  | lost ready made rereads => exact unmarked ready.plain

section

variable {s : Service} {r : String} {heard : List Heard} {visits : List Visit} {result : Except Failure Yield}

theorem refresh_visits (dialogue : Dialogue (s.perform (.refresh r)).run heard visits result) :
    ∃ found others token, visits = ⟨.tokenByRefresh r, found⟩ :: others ∧ Pursues s found others ∧
      Refreshes s r visits token ∧ result = .token <$> token := by
  have always : Always (fun visits result => ∃ token, Refreshes s r visits token ∧ result = .token <$> token)
      (s.perform (.refresh r)) :=
    Always.map (refresh_dialogue.mono fun _ token refreshes => ⟨token, refreshes, rfl⟩)
  obtain ⟨token, refreshes, ended⟩ := dialogue.meets always
  obtain ⟨found, others, split, pursues⟩ := refreshes.pursues
  exact ⟨found, others, token, split, pursues, refreshes, ended⟩

theorem refresh_of_marked {old : Token} (dialogue : Dialogue (s.perform (.refresh r)).run heard visits result)
    (finds : ⟨.tokenByRefresh r, .ok (some old)⟩ ∈ visits) (marked : old.code.isSome = true) :
    visits = [⟨.tokenByRefresh r, .ok (some old)⟩] ∧ result = .error .oauthRefresh := by
  obtain ⟨found, others, token, rfl, pursues, refreshes, rfl⟩ := refresh_visits dialogue
  have first : found = .ok (some old) := by
    rcases List.mem_cons.1 finds with same | mem
    · cases same
      rfl
    · rcases pursues.only _ mem with kind | kind <;> cases kind
  subst first
  obtain ⟨rfl, rfl⟩ := refreshes.of_marked marked
  exact ⟨rfl, rfl⟩

end

end Dialogue

namespace Interleaving

variable {run : Interleaving} {n m i j id f : Nat} {access r code : String} {token old : Token}

/-! ### Where a stored token comes from -/

theorem Does.told {call : StoreCall} {answer : call.Answer} (does : run.Does n id (.store call) answer) :
    (run.memory n).Told ⟨call, answer⟩ (run.memory (n + 1)) := by
  obtain ⟨now, answered, after⟩ := does.step
  rw [answered, after]
  exact Memory.step_told (run.memory n) now call

/-- Each stored token was inserted by a store call, and is a later state of what was inserted. -/
theorem stored_origin (empty : run.initial.tokens = .empty) (found : (run.memory n).tokens.get? access = some token) :
    ∃ k id call answer added, k < n ∧ run.Does k id (.store call) answer ∧
      Visit.inserted? ⟨call, answer⟩ = some added ∧ added.Grows token := by
  induction n generalizing token with
  | zero =>
    rw [show (run.memory 0).tokens = .empty from empty] at found
    cases found
  | succ n ih =>
    rcases run.memory_succ n with same | ⟨id, call, answer, does⟩
    · rw [same] at found
      obtain ⟨k, id, call, answer, added, before, origin⟩ := ih found
      exact ⟨k, id, call, answer, added, by omega, origin⟩
    · have told := does.told
      rcases told.source found with ⟨earlier, stored⟩ | ⟨added, inserts, rfl⟩
      · obtain ⟨k, id, call, answer, added, before, makes, inserts, grows⟩ := ih stored
        obtain ⟨later, kept, grown⟩ := memory_succ_grows run n stored
        rw [found] at kept
        obtain rfl := Option.some.inj kept
        exact ⟨k, id, call, answer, added, by omega, makes, inserts, grows.trans grown⟩
      · rw [(told.added inserts).2] at found
        obtain rfl := Option.some.inj found
        exact ⟨n, id, call, answer, added, Nat.lt_succ_self n, does, inserts, .refl added⟩

/-- One call inserts one token at most. -/
theorem Does.inserts_once {call other : StoreCall} {answer : call.Answer} {answer' : other.Answer} {token' : Token}
    (first : run.Does i id (.store call) answer) (inserts : Visit.inserted? ⟨call, answer⟩ = some token)
    (second : run.Does j id (.store other) answer') (inserts' : Visit.inserted? ⟨other, answer'⟩ = some token') :
    i = j := by
  have once {i j : Nat} {call other : StoreCall} {answer : call.Answer} {answer' : other.Answer} {token : Token}
      (first : run.Does i id (.store call) answer) (inserts : Visit.inserted? ⟨call, answer⟩ = some token)
      (second : run.Does j id (.store other) answer') : ¬i < j := by
    intro earlier
    obtain ⟨⟨started, starts⟩, -⟩ := first.started
    obtain ⟨heard, before, after, result, visited, dialogue⟩ := second.dialogue starts
    have conduct := dialogue.meets (Dialogue.perform_conduct run.service started)
    have idle := conduct.idle_before ⟨call, answer⟩ ((visited ⟨call, answer⟩).2 ⟨i, earlier, first⟩)
    rw [Visit.commits_of_inserted inserts] at idle
    cases idle
  rcases Nat.lt_trichotomy i j with earlier | same | later
  · exact (once first inserts second earlier).elim
  · exact same
  · exact (once second inserts' first later).elim

/-- A marked token was inserted by a call that had taken the grant of the code. -/
theorem marked_origin (empty : run.initial.tokens = .empty) (found : (run.memory n).tokens.get? access = some token)
    (marked : token.code = some code) :
    ∃ i id added answer, i < n ∧ run.Does i id (.store (.addToken added)) answer ∧
      Visit.inserted? ⟨.addToken added, answer⟩ = some added ∧ run.Spends id i added ∧ added.Grows token := by
  obtain ⟨i, id, call, answer, added, before, does, inserts, grows⟩ := stored_origin empty found
  have adds : call.token? = some added := Visit.token?_of_inserted inserts
  have own : added.code = some code := grows.code.symm.trans marked
  cases call with
  | addToken inserted =>
    obtain rfl := Option.some.inj adds
    rcases does.grounds with ⟨plain, -⟩ | spends
    · rw [plain] at own
      cases own
    · exact ⟨i, id, inserted, answer, before, does, inserts, spends, grows⟩
  | chainToken linked inserted =>
    obtain rfl := Option.some.inj adds
    obtain ⟨-, plain, -⟩ := does.warrant
    rw [plain] at own
    cases own
  | _ => cases adds

/-! ### Runs that start without tokens and grants -/

section

variable (fresh : run.Fresh) (empty : run.StartsEmpty) (noGrants : run.initial.grants = .empty)
include fresh noGrants

/-- Who has spent a code has presented it as the first one since it was stored. -/
theorem Spends.opens (spends : run.Spends id i token) (marked : token.code = some code) :
    ∃ s k bearer grant, k < i ∧ run.Opens s k bearer grant code ∧ run.Presents k id code ∧
      grant.owner = token.owner := by
  obtain ⟨starts, before, takes, own, named⟩ := spends
  rcases takes.takes fresh noGrants with ⟨s, bearer, grant, used, opens, same⟩ | ⟨absent, -⟩
  · obtain rfl := Option.some.inj same
    obtain rfl : grant.code = code := Option.some.inj (named.symm.trans marked)
    have stored := opens.own
    subst stored
    exact ⟨s, _, bearer, grant, before, opens, ⟨_, takes⟩, own⟩
  · cases absent

include empty

theorem memory_apart (n : Nat) : (run.memory n).Apart := by
  have orderly := memory_orderly fresh empty n
  constructor
  · intro access token found
    obtain ⟨i, id, call, answer, added, -, does, inserts, grows⟩ := stored_origin empty.1 found
    have mints := does.warrant.mints (Visit.token?_of_inserted inserts)
    rw [grows.refresh, grows.code]
    exact mints.sort
  · intro access token code found marked
    obtain ⟨i, id, added, answer, before, -, -, spends, grows⟩ := marked_origin empty.1 found marked
    obtain ⟨s, k, bearer, grant, early, opens, presents, own⟩ :=
      spends.opens fresh noGrants (grows.code.symm.trans marked)
    obtain rfl := opens.own
    obtain ⟨used, stored⟩ :=
      presents.spends fresh noGrants opens.authorizes opens.before (show k < n by omega)
    exact ⟨_, stored, rfl, rfl, own.trans grows.owner.symm⟩
  · intro a b token other code found found' marked marked'
    obtain ⟨i, id, added, answer, -, does, inserts, spends, grows⟩ := marked_origin empty.1 found marked
    obtain ⟨j, id', added', answer', -, does', inserts', spends', grows'⟩ := marked_origin empty.1 found' marked'
    obtain ⟨s, k, bearer, grant, -, opens, presents, -⟩ :=
      spends.opens fresh noGrants (grows.code.symm.trans marked)
    obtain ⟨s', k', bearer', grant', -, opens', presents', -⟩ :=
      spends'.opens fresh noGrants (grows'.code.symm.trans marked')
    -- The code was spent once, by one call, which has inserted one token.
    obtain ⟨rfl, -⟩ := opens.once fresh opens'
    have instants : k = k' := by
      rcases Nat.lt_trichotomy k k' with earlier | same | later
      · exact (opens'.untouched k id opens.before earlier presents).elim
      · exact same
      · exact (opens.untouched k' id' opens'.before later presents').elim
    subst instants
    obtain ⟨_, takes⟩ := presents
    obtain ⟨_, takes'⟩ := presents'
    obtain rfl := (takes.unique takes').1
    obtain rfl := does.inserts_once inserts does' inserts'
    obtain ⟨-, same, -⟩ := does.unique does'
    obtain rfl := StoreCall.addToken.inj (Effect.store.inj same)
    rw [← orderly.indexed.keyed found, ← orderly.indexed.keyed found', grows.access, grows'.access]
  · intro access token found marked
    by_contra linked
    obtain ⟨b, next⟩ := Option.ne_none_iff_exists'.1 linked
    obtain ⟨successor, stored⟩ := orderly.chained.stored ⟨token, found, next⟩
    obtain ⟨-, plain, -⟩ := orderly.chained.kin found next stored
    rw [plain] at marked
    cases marked
  · rintro access token found marked a ⟨previous, stored, next⟩
    obtain ⟨-, -, plain⟩ := orderly.chained.kin stored next found
    rw [plain] at marked
    cases marked

end

/-! ### Runs that start with anything -/

/-- A refresh that finds a marked token makes no other store call. -/
theorem Does.finds_marked {call : StoreCall} {answer : call.Answer}
    (looks : run.Does f id (.store (.tokenByRefresh r)) (.ok (some old))) (starts : run.move id = .start (.refresh r))
    (marked : old.code.isSome = true) (does : run.Does i id (.store call) answer) : i = f := by
  have alone {before after : List Visit} {visit only : Visit} (split : before ++ visit :: after = [only]) :
      before = [] := by
    rcases List.append_eq_singleton_iff.1 split with ⟨nothing, -⟩ | ⟨-, absurd⟩
    · exact nothing
    · cases absurd
  rcases Nat.lt_trichotomy i f with earlier | same | later
  · obtain ⟨heard, before, after, result, visited, dialogue⟩ := looks.dialogue starts
    obtain ⟨only, -⟩ := Dialogue.refresh_of_marked dialogue (by simp) marked
    have mem : ⟨call, answer⟩ ∈ before := (visited _).2 ⟨i, earlier, does⟩
    rw [alone only] at mem
    cases mem
  · exact same
  · obtain ⟨heard, before, after, result, visited, dialogue⟩ := does.dialogue starts
    have mem : ⟨.tokenByRefresh r, .ok (some old)⟩ ∈ before := (visited _).2 ⟨f, later, looks⟩
    obtain ⟨only, -⟩ := Dialogue.refresh_of_marked dialogue (List.mem_append_left _ mem) marked
    rw [alone only] at mem
    cases mem

theorem Returned.of_marked {result : Except Failure Yield} (returned : run.Returned n id result)
    (starts : run.move id = .start (.refresh r))
    (looks : run.Does f id (.store (.tokenByRefresh r)) (.ok (some old))) (marked : old.code.isSome = true) :
    result = .error .oauthRefresh := by
  obtain ⟨heard, visits, visited, dialogue⟩ := returned.dialogue starts
  obtain ⟨found, others, token, split, -, -, -⟩ := Dialogue.refresh_visits dialogue
  have first : ⟨.tokenByRefresh r, found⟩ ∈ visits := by
    rw [split]
    exact List.mem_cons_self
  obtain ⟨k, -, does⟩ := (visited _).1 first
  obtain rfl := looks.finds_marked starts marked does
  obtain ⟨-, -, same⟩ := does.unique looks
  obtain rfl := eq_of_heq same
  exact (Dialogue.refresh_of_marked dialogue first marked).2

/-- What a call chains to is not marked, nor was it ever. -/
theorem Does.chains_plain {successor : Token} {answer : StoreCall.Answer (.chainToken access successor)}
    (built : run.initial.Built) (does : run.Does n id (.store (.chainToken access successor)) answer)
    (found : (run.memory n).tokens.get? access = some token) : token.code = none := by
  obtain ⟨-, -, r, k, old, -, before, looks, rfl, plain, -⟩ := does.warrant
  have stored := (memory_built built k).stored looks.finds.symm
  obtain ⟨later, kept, grows⟩ := memory_grows run (Nat.le_of_lt before) stored
  rw [found] at kept
  obtain rfl := Option.some.inj kept
  exact grows.code.trans plain

/-- A marked token keeps the link that it has, or has none, along every run. -/
theorem memory_next_of_marked (built : run.initial.Built) (found : (run.memory n).tokens.get? access = some token)
    (marked : token.code.isSome = true) (later : n ≤ m) :
    ∃ current, (run.memory m).tokens.get? access = some current ∧ current.next = token.next ∧
      current.code = token.code := by
  induction later with
  | refl => exact ⟨token, found, rfl, rfl⟩
  | @step m later ih =>
    obtain ⟨current, read, next, code⟩ := ih
    rcases run.memory_succ m with same | ⟨id, call, answer, does⟩
    · rw [same]
      exact ⟨current, read, next, code⟩
    · have told := does.told
      obtain rfl := (memory_built built m).keyed read
      have unlinked (successor : String) : Visit.linked? ⟨call, answer⟩ ≠ some (current.access, successor) := by
        intro linked
        obtain ⟨added, rfl⟩ := Visit.call_of_linked linked
        rw [← code, does.chains_plain built read] at marked
        cases marked
      obtain ⟨last, kept, since⟩ := told.stays read (.nil current)
      have same : last.next = current.next := Option.ext fun successor => by
        simpa [unlinked successor] using since.next successor
      exact ⟨last, kept, same.trans next, since.code.trans code⟩

/-! ### Both kinds of runs -/

/-- In a run that starts without tokens and grants, a token has no refresh string exactly if it is marked with a
code; the marker names a used grant to the same owner, no two tokens have one marker, and a marked token has no
successor and is nobody's. Whatever the store contains at first, a refresh that finds a marked token is refused
and does no more than look for it, and no call ever changes what a marked token is linked to. -/
theorem delegated_tokens_stand_apart :
    (∀ run : Interleaving, run.Fresh → run.StartsEmpty → run.initial.grants = .empty →
      ∀ n, (run.memory n).Apart) ∧
    (∀ run : Interleaving, run.initial.Built →
      (∀ id r, run.move id = .start (.refresh r) → run.Recurs id → ∃ n result, run.Returned n id result) ∧
      (∀ id r f old, run.move id = .start (.refresh r) →
        run.Does f id (.store (.tokenByRefresh r)) (.ok (some old)) → old.code.isSome = true →
        run.memory (f + 1) = run.memory f ∧
        (∀ i call answer, run.Does i id (.store call) answer → i = f) ∧
        ∀ n result, run.Returned n id result → result = .error .oauthRefresh) ∧
      ∀ n m access token, n ≤ m → (run.memory n).tokens.get? access = some token → token.code.isSome = true →
        ∃ current, (run.memory m).tokens.get? access = some current ∧ current.next = token.next ∧
          current.code = token.code) ∧
    ∀ (w : World) (s : Service) (j : Journal) (m : Memory) (r : String) (old : Token),
      m.tokenByRefresh? r = some old → old.code.isSome = true →
      ∃ after, w.alone (s.refresh r) (j, m) = (.error .oauthRefresh, after, m) := by
  refine ⟨fun run fresh empty noGrants => memory_apart fresh empty noGrants, fun run built => ⟨?_, ?_, ?_⟩, ?_⟩
  · exact fun id r starts recurs => recurs.returns starts
  · intro id r f old starts looks marked
    obtain ⟨now, -, after⟩ := looks.step
    refine ⟨after, fun i call answer does => looks.finds_marked starts marked does, fun n result returned => ?_⟩
    exact returned.of_marked starts looks marked
  · exact fun n m access token later found marked => memory_next_of_marked built found marked later
  · intro w s j m r old found marked
    obtain ⟨after, alone, -⟩ := w.alone_refresh_of_settled s j (Memory.verdict_of_delegated found marked)
    exact ⟨after, alone⟩

/-- A token that no call would make: it is marked, can be looked up by a refresh string, and is invalid and linked.
A call tries to refresh it. -/
def forgery : Interleaving :=
  let forged : Token := { Token.issued "u" 3600 (.ofSeconds 0) "a" "r" with
    valid := false, next := some "z", code := some "k" }
  let resume : Move := .resume 0 ⟨.ofSeconds 9000, "", .error .unknownToken⟩
  ofMoves ⟨.empty, 3600, 600⟩ (Memory.empty.step (.ofSeconds 0) (.addToken forged)).2
    [.start (.refresh "r"), resume, resume]

/-- The token `b` of the client is marked and has no refresh string, and the forged one stays linked. -/
theorem delegation_stands_apart :
    delegation.Fresh ∧ delegation.StartsEmpty ∧ delegation.initial.grants = .empty ∧
    ((delegation.memory 25).tokens.get? "b").map Token.refresh = some none ∧
    forgery.initial.Built ∧ forgery.Returned 3 0 (.error .oauthRefresh) ∧
    ∀ n, ∃ current, (forgery.memory n).tokens.get? "a" = some current ∧ current.next = some "z" := by
  obtain ⟨apart, forged, -⟩ := delegated_tokens_stand_apart
  have empty : delegation.StartsEmpty := ⟨rfl, rfl⟩
  have found : (delegation.memory 25).tokens.get? "b" = some (.delegated "u" "k" 3600 (.ofSeconds 0) "b") := rfl
  have sort := (apart delegation delegation_fresh empty rfl 25).sort found
  have built : forgery.initial.Built := .step .empty _ _
  obtain ⟨-, refuses, keeps⟩ := forged forgery built
  have returned : forgery.Returned 3 0 (.error .oauthRefresh) := ⟨_, rfl⟩
  refine ⟨delegation_fresh, empty, rfl, ?_, built, returned, fun n => ?_⟩
  · rw [found, Option.map_some, sort.2 rfl]
  · obtain ⟨current, stored, next, -⟩ := keeps 0 n "a" _ (Nat.zero_le n) rfl rfl
    exact ⟨current, stored, next⟩

end Interleaving

end TokenAuthority
