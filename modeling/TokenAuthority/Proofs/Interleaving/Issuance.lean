import TokenAuthority.Proofs.Redemption.Delegation
import TokenAuthority.Proofs.Sequence.Ledger

/-!
# Tokens that are stored and tokens that were issued

A token is made ready by its call before it is stored, and whether it gets into the store is up to one store call.
With this store call the call has settled its result: it asks the store for nothing more and yields the token.
So of the tokens in the store one can say for each which call has issued it, and a refresh that comes too late
has made its token ready in vain.
-/

namespace TokenAuthority

theorem Call.mints_or_refresh {call : Call} (issues : call.issues = true) :
    call.mints = true ∨ ∃ r, call = .refresh r := by
  cases call with
  | refresh r => exact .inr ⟨r, rfl⟩
  | authenticate access => cases issues
  | invalidate access => cases issues
  | authorize access client scope => cases issues
  | _ => exact .inl rfl

namespace Visit

variable {visit : Visit} {token : Token}

theorem inserted_of_commits (commits : visit.call.commits? visit.answer = some (.token token)) :
    visit.inserted? = some token := by
  obtain ⟨call, answer⟩ := visit
  cases call with
  | addToken own =>
    cases answer with
    | ok value =>
      cases commits
      rfl
    | error failure => cases commits
  | chainToken access own =>
    rcases answer with failure | _ | _
    · cases commits
    · cases commits
    · cases commits
      rfl
  | invalidateToken access =>
    rcases answer with failure | _ | _ <;> cases commits
  | addGrant grant =>
    cases answer <;> cases commits
  | _ => cases commits

theorem inserted_of_linked {a b : String} (linked : visit.linked? = some (a, b)) :
    ∃ token, visit.inserted? = some token ∧ token.access = b := by
  obtain ⟨call, answer⟩ := visit
  cases call with
  | chainToken access token =>
    rcases answer with failure | _ | _
    · cases linked
    · cases linked
    · cases linked
      exact ⟨token, rfl, rfl⟩
  | _ => cases linked

end Visit

namespace Dialogue

variable {call : Call} {visits : List Visit} {visit : Visit} {yield : Yield} {result : Except Failure Yield}

/-- Who has committed itself yields what it is committed to. -/
theorem Conduct.of_commits (conduct : Conduct call visits result) (mem : visit ∈ visits)
    (commits : visit.call.commits? visit.answer = some yield) : result = .ok yield := by
  have idle {passed : List Visit} (passes : ∀ visit ∈ passed, visit.Passes call) : visit ∉ passed := by
    intro early
    rw [(passes visit early).idle] at commits
    cases commits
  cases conduct with
  | refuses passed failure => exact (idle passed mem).elim
  | reads passed reads yield => exact (idle passed mem).elim
  | fails passed permitted fails =>
    rcases List.mem_append.1 mem with early | last
    · exact (idle passed early).elim
    · obtain rfl := List.mem_singleton.1 last
      rw [fails, commits?_error] at commits
      cases commits
  | commits passed permitted own =>
    rcases List.mem_append.1 mem with early | last
    · exact (idle passed early).elim
    · obtain rfl := List.mem_singleton.1 last
      rw [own] at commits
      rw [Option.some.inj commits]

end Dialogue

namespace Interleaving

/-- By instant `n` call `id` has made its last store call: it asks the store for nothing more, and whatever it hears
it comes to this result. -/
def Settled (run : Interleaving) (n id : Nat) (result : Except Failure Yield) : Prop :=
  ∃ call rest, (run.scene n).running id = some ⟨call, rest⟩ ∧
    ∀ heard visits value, Dialogue rest heard visits value → visits = [] ∧ value = result

/-- By instant `n` call `id`, which is there to issue tokens, is settled on yielding a token. -/
def Issued (run : Interleaving) (n id : Nat) (token : Token) : Prop :=
  (∃ call, run.move id = .start call ∧ call.issues = true) ∧ run.Settled n id (.ok (.token token))

/-- At instant `n` call `id` inserts a token into the store. -/
def Inserts (run : Interleaving) (n id : Nat) (token : Token) : Prop :=
  ∃ call answer, run.Does n id (.store call) answer ∧ Visit.inserted? ⟨call, answer⟩ = some token

/-- Call `id` never changes the store. -/
def Harmless (run : Interleaving) (id : Nat) : Prop :=
  ∀ n call answer, run.Does n id (.store call) answer → run.memory (n + 1) = run.memory n

variable {run : Interleaving} {n m id other : Nat} {access text : String} {token token' : Token}
  {result result' : Except Failure Yield}

/-! ### Calls that are settled -/

theorem Returned.settled (returned : run.Returned n id result) : run.Settled n id result := by
  obtain ⟨call, there⟩ := returned
  refine ⟨call, .done result, there, fun heard visits value dialogue => ?_⟩
  cases dialogue
  exact ⟨rfl, rfl⟩

theorem Settled.succ (settled : run.Settled n id result) : run.Settled (n + 1) id result := by
  obtain ⟨call, rest, there, ends⟩ := settled
  by_cases acts : run.Acts n id
  · obtain ⟨request, answer, does⟩ := acts
    obtain ⟨call', next, supply, found, -, after⟩ := does.succ
    rw [there] at found
    obtain ⟨rfl, rfl⟩ := Running.mk.inj (Option.some.inj found)
    have goes : (run.scene (n + 1)).running id = some ⟨call, next answer⟩ := by
      rw [after]
      exact Scene.put_running_self ..
    refine ⟨call, next answer, goes, fun heard visits value dialogue => ?_⟩
    cases request with
    | store store =>
      obtain ⟨none, -⟩ := ends _ _ _ (.asks answer dialogue)
      cases none
    | ambient request =>
      by_cases audible : request.isLog = false
      · exact ends _ _ _ (.hears audible answer dialogue)
      · cases request with
        | log event => exact ends _ _ _ (.logs dialogue)
        | _ => exact (audible rfl).elim
  · refine ⟨call, rest, ?_, ends⟩
    rw [running_succ_of_rests acts (Nat.ne_of_lt (start_of_running there).2), there]

theorem Settled.mono (settled : run.Settled n id result) (later : n ≤ m) : run.Settled m id result := by
  induction later with
  | refl => exact settled
  | step _ ih => exact ih.succ

theorem Settled.unique (settled : run.Settled n id result) (again : run.Settled m id result') : result = result' := by
  obtain ⟨call, rest, there, ends⟩ := settled.mono (Nat.le_max_left n m)
  obtain ⟨call', rest', there', ends'⟩ := again.mono (Nat.le_max_right n m)
  rw [there] at there'
  obtain ⟨rfl, rfl⟩ := Running.mk.inj (Option.some.inj there')
  obtain ⟨heard, visits, value, dialogue⟩ := Dialogue.exists_of rest
  obtain ⟨-, rfl⟩ := ends _ _ _ dialogue
  exact (ends' _ _ _ dialogue).2

/-- A call that is settled has gone through its store calls, and a dialogue with these comes to its result. -/
theorem Settled.dialogue {call : Call} (settled : run.Settled n id result) (starts : run.move id = .start call) :
    ∃ heard visits, run.Visited id n visits ∧ Dialogue (run.service.perform call).run heard visits result := by
  obtain ⟨call', rest, there, ends⟩ := settled
  obtain ⟨rest', heard, visits, found, visited, completes⟩ := begun starts (start_of_running there).2
  rw [there] at found
  obtain ⟨rfl, rfl⟩ := Running.mk.inj (Option.some.inj found)
  obtain ⟨more, others, value, dialogue⟩ := Dialogue.exists_of rest
  obtain ⟨rfl, rfl⟩ := ends _ _ _ dialogue
  have whole := completes dialogue
  rw [List.append_nil] at whole
  exact ⟨_, visits, visited, whole⟩

/-! ### Inserting -/

/-- Who inserts a token is settled on it from then on. -/
theorem Inserts.settled (inserts : run.Inserts n id token) (later : n < m) : run.Settled m id (.ok (.token token)) := by
  obtain ⟨store, answer, does, inserted⟩ := inserts
  obtain ⟨⟨call, starts⟩, started⟩ := does.started
  obtain ⟨rest, heard, visits, there, visited, completes⟩ := begun starts (Nat.lt_trans started later)
  have made : ⟨store, answer⟩ ∈ visits := (visited ⟨store, answer⟩).2 ⟨n, later, does⟩
  have commits := Visit.commits_of_inserted inserted
  refine ⟨call, rest, there, fun more others value dialogue => ?_⟩
  have conduct := (completes dialogue).meets (Dialogue.perform_conduct run.service call)
  refine ⟨?_, conduct.of_commits (List.mem_append_left others made) commits⟩
  cases others with
  | nil => rfl
  | cons next after =>
    rw [conduct.idle_before _ made] at commits
    cases commits

theorem Inserts.issued (inserts : run.Inserts n id token) (later : n < m) : run.Issued m id token := by
  refine ⟨?_, inserts.settled later⟩
  obtain ⟨store, answer, does, inserted⟩ := inserts
  have adds : store.token? = some token := Visit.token?_of_inserted inserted
  cases store with
  | addToken own =>
    rcases does.grounds with ⟨-, signs⟩ | spends
    · cases signs with
      | password starts => exact ⟨_, starts, rfl⟩
      | provider starts => exact ⟨_, starts, rfl⟩
    · obtain ⟨starts, -⟩ := spends
      exact ⟨_, starts, rfl⟩
  | chainToken old own =>
    obtain ⟨-, -, r, k, found, starts, -⟩ := does.warrant
    exact ⟨_, starts, rfl⟩
  | _ => cases adds

theorem Inserts.added (inserts : run.Inserts n id token) :
    (run.memory n).tokens.get? token.access = none ∧ (run.memory (n + 1)).tokens.get? token.access = some token := by
  obtain ⟨store, answer, does, inserted⟩ := inserts
  exact does.told.added inserted

theorem contains_mono (stored : (run.memory n).tokens.contains access = true) (later : n ≤ m) :
    (run.memory m).tokens.contains access = true := by
  obtain ⟨token, found⟩ := Option.isSome_iff_exists.1 stored
  obtain ⟨current, kept, -⟩ := memory_grows run later found
  rw [Table.contains, kept]
  rfl

theorem Inserts.stored (inserts : run.Inserts n id token) (later : n < m) :
    (run.memory m).tokens.contains token.access = true := by
  have here : (run.memory (n + 1)).tokens.contains token.access = true := by
    rw [Table.contains, inserts.added.2]
    rfl
  exact contains_mono here later

/-- An access string is inserted once, by one call. -/
theorem Inserts.unique (inserts : run.Inserts n id token) (again : run.Inserts m other token')
    (same : token.access = token'.access) : n = m ∧ id = other ∧ token = token' := by
  have apart {n m id other : Nat} {token token' : Token} (inserts : run.Inserts n id token)
      (again : run.Inserts m other token') (same : token.access = token'.access) : ¬n < m := by
    intro before
    have stored := inserts.stored before
    rw [same, Table.contains, again.added.1] at stored
    cases stored
  obtain rfl : n = m :=
    Nat.le_antisymm (Nat.le_of_not_lt (apart again inserts same.symm)) (Nat.le_of_not_lt (apart inserts again same))
  obtain ⟨store, answer, does, inserted⟩ := inserts
  obtain ⟨store', answer', does', inserted'⟩ := again
  obtain ⟨rfl, request, answered⟩ := does.unique does'
  cases request
  cases answered
  rw [inserted] at inserted'
  exact ⟨rfl, rfl, Option.some.inj inserted'⟩

/-- What is stored was there at first or was inserted by a call. -/
theorem inserted_of_stored (stored : (run.memory n).tokens.contains access = true) :
    run.initial.tokens.contains access = true ∨
      ∃ k id token, k < n ∧ run.Inserts k id token ∧ token.access = access := by
  induction n with
  | zero => exact .inl stored
  | succ n ih =>
    have earlier (before : (run.memory n).tokens.contains access = true) : run.initial.tokens.contains access = true ∨
        ∃ k id token, k < n + 1 ∧ run.Inserts k id token ∧ token.access = access := by
      rcases ih before with first | ⟨k, id, token, early, inserts, own⟩
      · exact .inl first
      · exact .inr ⟨k, id, token, by omega, inserts, own⟩
    rcases run.memory_succ n with same | ⟨id, call, answer, does⟩
    · exact earlier (same ▸ stored)
    · have told := does.told
      obtain ⟨current, found⟩ := Option.isSome_iff_exists.1 stored
      rcases told.source found with ⟨old, before⟩ | ⟨token, inserted, own⟩
      · exact earlier (Option.isSome_iff_exists.2 ⟨old, before⟩)
      · exact .inr ⟨n, id, token, Nat.lt_succ_self n, ⟨call, answer, does, inserted⟩, own⟩

/-! ### Yielding without inserting -/

/-- A call that is settled on a token has inserted it, or it is a refresh that has read it in the store. -/
theorem Issued.source (issued : run.Issued n id token) : (∃ k, k < n ∧ run.Inserts k id token) ∨
    (∃ r, run.move id = .start (.refresh r)) ∧
      ∃ k access, k < n ∧ run.Does k id (.store (.tokenByAccess access)) (.ok (some token)) := by
  obtain ⟨⟨call, starts, issues⟩, settled⟩ := issued
  obtain ⟨heard, visits, visited, dialogue⟩ := settled.dialogue starts
  rcases Call.mints_or_refresh issues with mints | ⟨r, rfl⟩
  · have conduct := dialogue.meets (Dialogue.perform_conduct run.service call)
    obtain ⟨passed, visit, rfl, -, commits⟩ := conduct.of_ok (.inl mints)
    obtain ⟨k, before, does⟩ := (visited visit).1 (List.mem_append_right passed (List.mem_singleton_self visit))
    exact .inl ⟨k, before, visit.call, visit.answer, does, Visit.inserted_of_commits commits⟩
  · obtain ⟨-, -, ended, -, -, refreshes, same⟩ := Dialogue.refresh_visits dialogue
    cases ended with
    | error failure => cases same
    | ok yielded =>
      obtain rfl := Yield.token.inj (Except.ok.inj same)
      rcases refreshes.hands with ⟨access, chained⟩ | ⟨-, -, before, old, access, -, -, -, rfl⟩
      · obtain ⟨k, early, does⟩ := (visited _).1 chained
        exact .inl ⟨k, early, _, _, does, rfl⟩
      · obtain ⟨k, early, does⟩ := (visited _).1 (List.mem_append_right before (List.mem_singleton_self _))
        exact .inr ⟨⟨r, starts⟩, k, access, early, does⟩

theorem Issued.stored (issued : run.Issued n id token) (built : run.initial.Built) :
    (run.memory n).tokens.contains token.access = true := by
  rcases issued.source with ⟨k, before, inserts⟩ | ⟨-, k, access, before, does⟩
  · exact inserts.stored before
  · have found := (Reads.finds ⟨Nat.le_refl k, does⟩).symm
    have own := (memory_built built k).keyed found
    have stored : (run.memory k).tokens.contains token.access = true := by
      rw [own, Table.contains, found]
      rfl
    exact contains_mono stored (Nat.le_of_lt before)

/-- Any two store calls of a refresh are among those that one refresh makes. -/
theorem Does.pursues {r : String} {call call' : StoreCall} {answer : call.Answer} {answer' : call'.Answer}
    (starts : run.move id = .start (.refresh r)) (does : run.Does n id (.store call) answer)
    (does' : run.Does m id (.store call') answer') : ∃ found others, Dialogue.Pursues run.service found others ∧
      ⟨call, answer⟩ ∈ (⟨.tokenByRefresh r, found⟩ : Visit) :: others ∧
      ⟨call', answer'⟩ ∈ (⟨.tokenByRefresh r, found⟩ : Visit) :: others := by
  have both {n m : Nat} {call call' : StoreCall} {answer : call.Answer} {answer' : call'.Answer} (first : n ≤ m)
      (does : run.Does n id (.store call) answer) (does' : run.Does m id (.store call') answer') :
      ∃ found others, Dialogue.Pursues run.service found others ∧
        ⟨call, answer⟩ ∈ (⟨.tokenByRefresh r, found⟩ : Visit) :: others ∧
        ⟨call', answer'⟩ ∈ (⟨.tokenByRefresh r, found⟩ : Visit) :: others := by
    obtain ⟨heard, before, after, result, visited, dialogue⟩ := does'.dialogue starts
    obtain ⟨found, others, ended, split, pursues, -, -⟩ := Dialogue.refresh_visits dialogue
    have last := List.mem_append_right before (List.mem_cons_self (a := ⟨call', answer'⟩) (l := after))
    refine ⟨found, others, pursues, ?_, split ▸ last⟩
    rw [← split]
    rcases Nat.lt_or_eq_of_le first with earlier | rfl
    · exact List.mem_append_left _ ((visited ⟨call, answer⟩).2 ⟨n, earlier, does⟩)
    · obtain ⟨-, request, answered⟩ := does.unique does'
      cases request
      cases answered
      exact last
  rcases Nat.le_total n m with first | first
  · exact both first does does'
  · obtain ⟨found, others, pursues, member', member⟩ := both first does' does
    exact ⟨found, others, pursues, member, member'⟩

/-- A refresh changes the store by inserting its token or not at all. -/
theorem harmless_of_refresh {r : String} (starts : run.move id = .start (.refresh r))
    (idle : ∀ n token, ¬run.Inserts n id token) : run.Harmless id := by
  intro n call answer does
  obtain ⟨found, others, pursues, member, -⟩ := does.pursues starts does
  obtain ⟨now, -, memory⟩ := does.step
  rcases List.mem_cons.1 member with same | later
  · cases same
    exact memory
  · cases call with
    | tokenByAccess access => exact memory
    | chainToken access token =>
      rcases answer with failure | _ | _
      · exact does.told.refused rfl
      · exact does.told.refused rfl
      · exact (idle n token ⟨_, _, does, rfl⟩).elim
    | _ => rcases pursues.only _ later with kind | kind <;> cases kind

/-- Of the calls that are settled on a token only one has inserted it, and the others are refreshes that have changed
nothing. -/
theorem Issued.again (issued : run.Issued m other token') (inserts : run.Inserts n id token)
    (same : token'.access = token.access) : other = id ∧ token' = token ∨
      (∃ r, run.move other = .start (.refresh r)) ∧ run.Harmless other := by
  by_cases busy : ∃ k own, run.Inserts k other own
  · obtain ⟨k, own, inserts'⟩ := busy
    have yields := issued.2.unique (inserts'.settled (Nat.lt_succ_self k))
    obtain rfl := Yield.token.inj (Except.ok.inj yields)
    obtain ⟨-, rfl, rfl⟩ := inserts'.unique inserts same
    exact .inl ⟨rfl, rfl⟩
  · have idle (k : Nat) (own : Token) : ¬run.Inserts k other own := fun inserts' => busy ⟨k, own, inserts'⟩
    rcases issued.source with ⟨k, -, inserts'⟩ | ⟨⟨r, starts⟩, -⟩
    · exact (idle k token' inserts').elim
    · exact .inr ⟨⟨r, starts⟩, harmless_of_refresh starts idle⟩

/-! ### Refreshes that come too late -/

section

variable (lost : run.Does n id (.store (.chainToken access token)) (.ok false))
include lost

/-- It has tried to insert its token once, and does not insert it in another way. -/
theorem Does.harmless : run.Harmless id := by
  obtain ⟨-, -, r, k, old, starts, -⟩ := lost.warrant
  refine harmless_of_refresh starts fun m own inserts => ?_
  obtain ⟨call, answer, does, inserted⟩ := inserts
  obtain ⟨found, others, pursues, tried, member⟩ := lost.pursues starts does
  have among {visit : Visit} (member : visit ∈ (⟨.tokenByRefresh r, found⟩ : Visit) :: others)
      (other : visit.call.kind ≠ .tokenByRefresh) : visit ∈ others := by
    rcases List.mem_cons.1 member with rfl | mem
    · exact (other rfl).elim
    · exact mem
  obtain ⟨-, reads, -, -, -, -, first⟩ := pursues.of_chain (among tried nofun)
  cases call with
  | chainToken linked added =>
    obtain ⟨-, reads', -, -, -, -, first'⟩ := pursues.of_chain (among member nofun)
    rw [first] at first'
    cases first'
    cases inserted
  | addToken added =>
    rcases pursues.only _ (among member nofun) with kind | kind <;> cases kind
  | _ => cases inserted

variable (fresh : run.Fresh)
include fresh

theorem Does.unused_later (uses : token.access = text ∨ token.refresh = some text) (later : n ≤ m) :
    (run.memory m).Unused text := by
  have holds := lost.warrant.1.holds uses
  have ⟨d, before, drawn, _⟩ := holds
  induction later with
  | refl => exact holds.unused fresh
  | @step k since ih =>
    have since : n ≤ k := since
    rcases Nat.lt_or_eq_of_le since with after | rfl
    · rcases run.memory_succ k with same | ⟨other, call, answer, does⟩
      · rw [same]
        exact ih
      · obtain ⟨now, -, memory⟩ := does.step
        rw [memory]
        -- Whoever adds a token with the string has drawn it, so is this call, which has not kept it from the store.
        refine (Memory.step_changes _ now call).unused ih fun own adds => not_or.1 fun own_uses => ?_
        obtain ⟨e, earlier, redrawn, kept⟩ := (does.warrant.mints adds).holds own_uses
        obtain rfl := drawn_once fresh drawn redrawn
        obtain ⟨rfl, -, -⟩ := drawn.unique redrawn
        exact kept n _ _ before after lost
    · rw [lost.harmless _ _ _ lost]
      exact ih

end

theorem indexed_mono {r : String} (unindexed : (run.memory m).refreshIndex.get? r = none) (later : n ≤ m) :
    (run.memory n).refreshIndex.get? r = none := by
  induction later with
  | refl => exact unindexed
  | @step k since ih =>
    refine ih ?_
    rcases run.memory_succ k with same | ⟨other, call, answer, does⟩
    · exact same ▸ unindexed
    · have told := does.told
      rw [told.index] at unindexed
      exact (Option.or_eq_none_iff.1 unindexed).2

/-- The strings of a token that could not be chained are under nothing that is stored, at any instant. -/
theorem Does.unused (lost : run.Does n id (.store (.chainToken access token)) (.ok false)) (fresh : run.Fresh)
    (uses : token.access = text ∨ token.refresh = some text) (m : Nat) : (run.memory m).Unused text := by
  rcases Nat.le_total n m with later | earlier
  · exact lost.unused_later fresh uses later
  · have here := lost.unused_later fresh uses (Nat.le_refl n)
    refine ⟨?_, indexed_mono here.refresh earlier⟩
    cases found : (run.memory m).tokens.get? text with
    | none => rfl
    | some stored =>
      obtain ⟨current, kept, -⟩ := memory_grows run earlier found
      rw [here.access] at kept
      cases kept

/-- A link to a string under which nothing is ever stored was there at first. -/
theorem linked_at_first (built : run.initial.Built) (unused : ∀ m, (run.memory m).Unused text) {key : String}
    {stored : Token} (found : (run.memory n).tokens.get? key = some stored) (linked : stored.next = some text) :
    ∃ first, run.initial.tokens.get? key = some first ∧ first.next = some text := by
  induction n generalizing stored with
  | zero => exact ⟨stored, found, linked⟩
  | succ n ih =>
    rcases run.memory_succ n with same | ⟨other, call, answer, does⟩
    · exact ih (same ▸ found) linked
    · have told := does.told
      rcases told.source found with ⟨old, before⟩ | ⟨added, inserted, own⟩
      · have keyed := (memory_built built n).keyed before
        subst keyed
        obtain ⟨current, kept, since⟩ := told.stays before (.nil old)
        rw [found] at kept
        obtain rfl := Option.some.inj kept
        rcases (since.next text).1 linked with still | ⟨visit, mem, links⟩
        · exact ih before still
        · obtain rfl := List.mem_singleton.1 mem
          obtain ⟨added, inserted, own⟩ := Visit.inserted_of_linked links
          have here := (told.added inserted).2
          rw [own, (unused (n + 1)).access] at here
          cases here
      · have here := (told.added inserted).2
        rw [own, found] at here
        obtain rfl := Option.some.inj here
        rw [(does.warrant.mints (Visit.token?_of_inserted inserted)).alone] at linked
        cases linked

/-- At every instant the stored tokens are those that were there at first and those that calls are settled on. A token
that was not there at first was inserted by exactly one call, which yields it; whatever other call yields it is a
refresh that changes nothing. And a refresh that could not chain its token changes nothing either: neither string of
its token is ever in use, and nothing is linked to it that was not from the start. -/
theorem stored_tokens_accounted (run : Interleaving) (fresh : run.Fresh) (built : run.initial.Built) :
    (∀ n access, (run.memory n).tokens.contains access = true ↔
      run.initial.tokens.contains access = true ∨ ∃ id token, run.Issued n id token ∧ token.access = access) ∧
    (∀ n access, (run.memory n).tokens.contains access = true → run.initial.tokens.contains access = false →
      ∃ k id token, k < n ∧ run.Inserts k id token ∧ run.Issued n id token ∧ token.access = access ∧
        (∀ j other own, run.Inserts j other own → own.access = access → j = k ∧ other = id) ∧
        ∀ m other own, run.Issued m other own → own.access = access →
          other = id ∧ own = token ∨ (∃ r, run.move other = .start (.refresh r)) ∧ run.Harmless other) ∧
    (∀ n id access token, run.Does n id (.store (.chainToken access token)) (.ok false) → run.Harmless id ∧
      (∀ m text, token.access = text ∨ token.refresh = some text → (run.memory m).Unused text) ∧
      ∀ m key stored, (run.memory m).tokens.get? key = some stored → stored.next = some token.access →
        ∃ first, run.initial.tokens.get? key = some first ∧ first.next = some token.access) := by
  refine ⟨?_, ?_, ?_⟩
  · intro n access
    constructor
    · intro stored
      rcases inserted_of_stored stored with first | ⟨k, id, token, before, inserts, own⟩
      · exact .inl first
      · exact .inr ⟨id, token, inserts.issued before, own⟩
    · rintro (first | ⟨id, token, issued, rfl⟩)
      · exact contains_mono (n := 0) first (Nat.zero_le n)
      · exact issued.stored built
  · intro n access stored new
    rcases inserted_of_stored stored with first | ⟨k, id, token, before, inserts, rfl⟩
    · rw [new] at first
      cases first
    · refine ⟨k, id, token, before, inserts, inserts.issued before, rfl, ?_, ?_⟩
      · intro j other own again same
        obtain ⟨instant, call, -⟩ := again.unique inserts same
        exact ⟨instant, call⟩
      · intro m other own issued same
        exact issued.again inserts same
  · intro n id access token lost
    refine ⟨lost.harmless, fun m text uses => lost.unused fresh uses m, ?_⟩
    intro m key stored found linked
    exact linked_at_first built (lost.unused fresh (.inl rfl)) found linked

/-- Two refreshes at a time: both yield the token that the first one has inserted, and the token that the second one
had ready is nowhere. -/
theorem race_accounted : race.Fresh ∧ race.initial.Built ∧
    race.Issued 27 9 (.issued "u" 3600 (.ofSeconds 0) "b" "s") ∧
    race.Issued 27 10 (.issued "u" 3600 (.ofSeconds 0) "b" "s") ∧ (race.memory 27).tokens.contains "b" = true ∧
    race.Harmless 10 ∧ ∀ m, (race.memory m).Unused "c" ∧ (race.memory m).Unused "t" := by
  have built : race.initial.Built := .account .empty _
  have won : race.Returned 27 9 (.ok (.token (.issued "u" 3600 (.ofSeconds 0) "b" "s"))) := ⟨_, rfl⟩
  have late : race.Returned 27 10 (.ok (.token (.issued "u" 3600 (.ofSeconds 0) "b" "s"))) := ⟨_, rfl⟩
  have issued : race.Issued 27 9 (.issued "u" 3600 (.ofSeconds 0) "b" "s") := ⟨⟨_, rfl, rfl⟩, won.settled⟩
  have again : race.Issued 27 10 (.issued "u" 3600 (.ofSeconds 0) "b" "s") := ⟨⟨_, rfl, rfl⟩, late.settled⟩
  have refused : race.Does 23 10 (.store (.chainToken "a" (.issued "u" 3600 (.ofSeconds 0) "c" "t"))) (.ok false) :=
    ⟨_, _, _, rfl, rfl, rfl⟩
  obtain ⟨stored, -, lost⟩ := stored_tokens_accounted race race_fresh built
  obtain ⟨harmless, unused, -⟩ := lost 23 10 _ _ refused
  exact ⟨race_fresh, built, issued, again, (stored 27 "b").2 (.inr ⟨9, _, issued, rfl⟩), harmless,
    fun m => ⟨unused m "c" (.inl rfl), unused m "t" (.inr rfl)⟩⟩

end Interleaving

end TokenAuthority
