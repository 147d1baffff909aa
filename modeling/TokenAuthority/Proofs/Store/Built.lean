import TokenAuthority.Proofs.Store.Growth

/-!
# Contents that store calls can build

Nothing is assumed of what is stored: strings may repeat, links may lead anywhere. Still each token of a
built store is under its own access string, so whoever has found a token finds it again: `Built.keyed`.
-/

namespace TokenAuthority

namespace Memory

/-- What can be built from nothing by putting accounts in place and carrying out store calls. -/
inductive Built : Memory → Prop where
  | empty : Built .empty
  | account {m : Memory} (built : Built m) (account : Account) : Built (m.insertAccount account)
  | step {m : Memory} (built : Built m) (now : Instant) (call : StoreCall) : Built (m.step now call).2

variable {m after : Memory} {call : StoreCall} {access r : String} {token : Token}

theorem Changes.keyed (changes : m.Changes call after)
    (keyed : ∀ {access token}, m.tokens.get? access = some token → token.access = access)
    (found : after.tokens.get? access = some token) : token.access = access := by
  have added {fresh : Token} {grown : Memory} (inserted : m.insertToken? fresh = some grown) {key : String}
      {stored : Token} (read : grown.tokens.get? key = some stored) : stored.access = key := by
    obtain ⟨unused, tokens, -⟩ := insertToken?_eq_some inserted
    rw [tokens] at read
    rcases (Table.get?_insert_eq_some unused).1 read with ⟨rfl, rfl⟩ | before
    · rfl
    · exact keyed before
  cases changes with
  | inserts fresh after inserted => exact added inserted found
  | chains other fresh middle after chainable inserted changed index =>
    rw [changed] at found
    obtain ⟨old, read, rfl⟩ := Table.get?_modify_eq_some.1 found
    have own := added inserted read
    split
    · exact own
    · exact own
  | closes other after changed index =>
    rw [changed] at found
    obtain ⟨old, read, rfl⟩ := Table.get?_modify_eq_some.1 found
    have own := keyed read
    split
    · exact own
    · exact own
  | keeps call after same index =>
    rw [same] at found
    exact keyed found

theorem Built.keyed (built : m.Built) : m.tokens.get? access = some token → token.access = access := by
  induction built generalizing access token with
  | empty => exact fun found => (nomatch found)
  | account built account ih => exact ih
  | step built now call ih => exact (step_changes _ now call).keyed ih

theorem Built.stored (built : m.Built) (found : m.tokenByRefresh? r = some token) :
    m.tokens.get? token.access = some token := by
  obtain ⟨access, -, read⟩ := Option.bind_eq_some_iff.1 found
  rw [built.keyed read]
  exact read

end Memory

end TokenAuthority
