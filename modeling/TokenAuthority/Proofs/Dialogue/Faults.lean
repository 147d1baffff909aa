import TokenAuthority.Proofs.Dialogue.Tolerance
import TokenAuthority.Proofs.Store.Growth
import TokenAuthority.World

/-!
# Calls over a store that can fail

Each store call of a service call may fail, may report an absence without doing anything, and may find whatever
other clients have made of the store by then. Even so a call that fails has changed no token and added no code,
one that yields a new token has stored this token and no other, and what the store fails with is what the
caller is told.
-/

namespace TokenAuthority

/-! ### The store -/

/-- What a store call does that commits to nothing: at most it saves a profile or spends a grant. -/
inductive Memory.SideEffect (m : Memory) : StoreCall → Memory → Prop where
  | none (call : StoreCall) : SideEffect m call m
  | saves (account : String) (profile : Profile) : SideEffect m (.saveProfile account profile)
      { m with accounts := m.accounts.modify account fun a => a.withProfile profile }
  | spends {code : String} {grant : Grant} (found : m.grants.get? code = some grant) (unused : grant.usedAt = none)
      (now : Instant) : SideEffect m (.takeGrant code)
      { m with grants := m.grants.insert code { grant with usedAt := some now } }

/-- A token is stored as it is, under a string that was free, and no other is. -/
structure Memory.Inserts (m : Memory) (token : Token) (after : Memory) : Prop where
  free : m.tokens.get? token.access = none
  stored : after.tokens.get? token.access = some token
  only : ∀ access, access ≠ token.access → after.tokens.contains access = m.tokens.contains access
  index : ∀ refresh, after.refreshIndex.get? refresh =
    if token.refresh = some refresh then some token.access else m.refreshIndex.get? refresh

namespace Memory

variable {m after : Memory} {now : Instant} {call : StoreCall} {token : Token}

theorem step_sideEffect (idle : call.commits? (m.step now call).1 = none) :
    m.SideEffect call (m.step now call).2 := by
  cases call with
  | addToken token =>
    simp only [step] at idle ⊢
    split at idle
    · cases idle
    · exact .none _
  | chainToken access token =>
    by_cases chainable : m.chainable access = true
    · simp only [step, if_pos chainable] at idle ⊢
      split at idle
      · cases idle
      · exact .none _
    · simp only [step, if_neg chainable]
      exact .none _
  | invalidateToken access =>
    have absent : m.tokens.get? access = none := by
      cases found : m.tokens.get? access with
      | none => rfl
      | some token =>
        simp only [step, Table.contains, found] at idle
        cases idle
    simp only [step, Table.modify_of_absent absent]
    exact .none _
  | saveProfile account profile =>
    simp only [step]
    split
    · exact .saves account profile
    · exact .none _
  | addGrant grant => cases idle
  | takeGrant code =>
    simp only [step]
    split
    · rename_i grant found
      obtain ⟨read, unused⟩ := Option.filter_eq_some_iff.1 found
      exact .spends read (by simpa using unused) now
    · exact .none _
  | _ => exact .none _

namespace SideEffect

theorem tokens (effect : m.SideEffect call after) : after.tokens = m.tokens := by
  cases effect <;> rfl

theorem refreshIndex (effect : m.SideEffect call after) : after.refreshIndex = m.refreshIndex := by
  cases effect <;> rfl

theorem codes (effect : m.SideEffect call after) (code : String) :
    after.grants.contains code = m.grants.contains code := by
  cases effect with
  | none => rfl
  | saves => rfl
  | spends found unused now =>
    simp only [Table.contains, Table.get?_insert]
    split
    · rename_i same
      rw [same, found]
      rfl
    · rfl

end SideEffect

theorem step_inserts (commits : call.commits? (m.step now call).1 = some (.token token)) :
    m.Inserts token (m.step now call).2 := by
  cases call with
  | addToken own =>
    simp only [step] at commits ⊢
    split at commits
    · rename_i after inserted
      cases commits
      obtain ⟨free, tokens, index⟩ := insertToken?_eq_some inserted
      refine ⟨free, ?_, fun access other => ?_, index⟩
      · rw [tokens, Table.get?_insert, if_pos rfl]
      · rw [Table.contains, tokens, Table.get?_insert, if_neg other, Table.contains]
    · cases commits
  | chainToken access own =>
    by_cases chainable : m.chainable access = true
    · simp only [step, if_pos chainable] at commits ⊢
      split at commits
      · rename_i middle inserted
        cases commits
        obtain ⟨free, tokens, index⟩ := insertToken?_eq_some inserted
        obtain ⟨old, found, -⟩ := chainable_iff.1 chainable
        have different : token.access ≠ access := by
          intro same
          rw [← same, free] at found
          cases found
        refine ⟨free, ?_, fun other fresh => ?_, index⟩
        · rw [Table.get?_modify, if_neg different, tokens, Table.get?_insert, if_pos rfl]
        · rw [Table.contains, Table.get?_modify, tokens, Table.get?_insert, if_neg fresh, Table.contains]
          split
          · exact Option.isSome_map
          · rfl
      · cases commits
    · simp only [step, if_neg chainable] at commits
      cases commits
  | addGrant grant => cases commits
  | invalidateToken access =>
    simp only [step] at commits
    cases found : m.tokens.contains access with
    | true =>
      rw [found] at commits
      cases commits
    | false =>
      rw [found] at commits
      cases commits
  | _ => cases commits

end Memory

/-! ### Store calls with faults -/

/-- What becomes of a store call: it fails and does nothing, reports an absence and does nothing, or is carried
out. -/
inductive Handled : Visit → Memory → Memory → Prop where
  | fails (call : StoreCall) (failure : Failure) (m : Memory) : Handled ⟨call, .error failure⟩ m m
  | absent {call : StoreCall} {value : call.Value} (absence : call.absence? = some value) (m : Memory) :
      Handled ⟨call, .ok value⟩ m m
  | carriedOut (call : StoreCall) (now : Instant) (m : Memory) :
      Handled ⟨call, (m.step now call).1⟩ m (m.step now call).2

/-- A store call with the contents of the store that it found and left. -/
structure Contact where
  visit : Visit
  found : Memory
  left : Memory
  handled : Handled visit found left

namespace Contact

/-- The contact that a store call makes if it is interfered with. -/
def under (i : Interference) (now : Instant) (call : StoreCall) (m : Memory) : Contact where
  visit := ⟨call, (m.stepUnder i now call).1⟩
  found := if i.failure.isSome then m else i.before m
  left := (m.stepUnder i now call).2
  handled := by
    unfold Memory.stepUnder
    split
    · rename_i reason fails
      rw [fails]
      exact .fails call (.database reason) m
    · rename_i works
      rw [works]
      split
      · rename_i value absent
        split at absent
        · exact .absent absent (i.before m)
        · cases absent
      · exact .carriedOut call now (i.before m)

/-- Contacts that follow one another in a store where calls are interfered with by their kinds. -/
inductive Lead (interference : StoreCall.Kind → Interference) : Memory → List Contact → Memory → Prop where
  | nil (m : Memory) : Lead interference m [] m
  | cons {m last : Memory} {contacts : List Contact} (now : Instant) (call : StoreCall)
      (rest : Lead interference (under (interference call.kind) now call m).left contacts last) :
      Lead interference m (under (interference call.kind) now call m :: contacts) last

theorem of_trail {w : World} {interference : StoreCall.Kind → Interference} {state last : Journal × Memory}
    {visits : List Visit} (trail : Dialogue.Trail (w.answer interference) state visits last) :
    ∃ contacts, contacts.map Contact.visit = visits ∧ Lead interference state.2 contacts last.2 := by
  induction trail with
  | stays state => exact ⟨[], rfl, .nil state.2⟩
  | moves request rest ih => exact ih
  | @calls state last visits call rest ih =>
    obtain ⟨contacts, rfl, lead⟩ := ih
    exact ⟨_, rfl, .cons (w.clock state.1.readings) call lead⟩

/-- Every run over a store with interference is a dialogue with contacts, which lead from its first contents to
its last. -/
theorem of_run (w : World) (interference : StoreCall.Kind → Interference) {α : Type} (p : Program Effect.Answer α)
    (state : Journal × Memory) : ∃ heard contacts,
      Dialogue p heard (contacts.map Contact.visit) ((p.run (w.answer interference)).run state).1 ∧
      Lead interference state.2 contacts ((p.run (w.answer interference)).run state).2.2 := by
  obtain ⟨heard, visits, dialogue, trail⟩ := Dialogue.of_run (w.answer interference) p state
  obtain ⟨contacts, rfl, lead⟩ := of_trail trail
  exact ⟨heard, contacts, dialogue, lead⟩

/-- A contact that changes no token and adds no code. All that it may do is open to the call. -/
structure Quiet (call : Call) (contact : Contact) : Prop where
  permitted : call.Permits contact.visit.call
  effect : contact.found.SideEffect contact.visit.call contact.left
  tokens : contact.left.tokens = contact.found.tokens
  refreshIndex : contact.left.refreshIndex = contact.found.refreshIndex
  codes : ∀ code, contact.left.grants.contains code = contact.found.grants.contains code

variable {call : Call} {contact : Contact} {token : Token}

theorem quiet (permitted : call.Permits contact.visit.call)
    (idle : contact.visit.call.commits? contact.visit.answer = none) : contact.Quiet call := by
  have effect : contact.found.SideEffect contact.visit.call contact.left := by
    obtain ⟨visit, found, left, handled⟩ := contact
    cases handled with
    | fails store failure => exact .none store
    | absent absence => exact .none _
    | carriedOut store now => exact Memory.step_sideEffect idle
  exact ⟨permitted, effect, effect.tokens, effect.refreshIndex, effect.codes⟩

theorem inserts (commits : contact.visit.call.commits? contact.visit.answer = some (.token token)) :
    contact.found.Inserts token contact.left := by
  obtain ⟨visit, found, left, handled⟩ := contact
  cases handled with
  | fails store failure =>
    rw [Dialogue.commits?_error] at commits
    cases commits
  | @absent store value absence =>
    cases store <;> cases absence <;> cases commits
  | carriedOut store now => exact Memory.step_inserts commits

end Contact

namespace Dialogue

variable {s : Service} {call : Call} {heard : List Heard} {contacts : List Contact} {result : Except Failure Yield}

/-- Whatever happens to the store calls of a call. If it fails it has changed no token and added no code: at most a
login by a provider has saved a profile, or a trade has spent the code. If it yields a token that is new, the
last of its store calls has stored this one and the others no token. A failure of the store is the result,
unless it concerns the saving of a profile, and how that ends has no influence on the result. -/
theorem calls_withstand_faults (dialogue : Dialogue (s.perform call).run heard (contacts.map Contact.visit) result) :
    (∀ failure, result = .error failure → ∀ contact ∈ contacts, contact.Quiet call) ∧
    (∀ token, result = .ok (.token token) →
      (call.mints = true ∨ ∃ contact ∈ contacts, ∃ access successor,
        contact.visit = ⟨.chainToken access successor, .ok true⟩) →
      ∃ before contact, contacts = before ++ [contact] ∧ (∀ earlier ∈ before, earlier.Quiet call) ∧
        contact.found.Inserts token contact.left) ∧
    (∀ contact ∈ contacts, ∀ failure, contact.visit.answer = .error failure →
      contact.visit.call.kind ≠ .saveProfile → result = .error failure) ∧
    ∀ before account profile answer after,
      contacts.map Contact.visit = before ++ ⟨.saveProfile account profile, answer⟩ :: after → ∀ other last,
        Dialogue (s.perform call).run heard (before ++ ⟨.saveProfile account profile, other⟩ :: after) last ↔
          last = result := by
  have conduct := dialogue.meets (perform_conduct s call)
  refine ⟨?_, ?_, ?_, ?_⟩
  · rintro failure rfl contact mem
    have visited := List.mem_map_of_mem (f := Contact.visit) mem
    exact Contact.quiet (conduct.permitted _ visited) (conduct.of_error _ visited)
  · rintro token rfl binding
    have binds : call.mints = true ∨
        ∃ visit ∈ contacts.map Contact.visit, visit.call.commits? visit.answer ≠ none := by
      rcases binding with mints | ⟨contact, mem, access, successor, same⟩
      · exact .inl mints
      · refine .inr ⟨contact.visit, List.mem_map_of_mem mem, ?_⟩
        rw [same]
        exact nofun
    obtain ⟨passed, visit, visits, passes, commits⟩ := conduct.of_ok binds
    obtain ⟨before, rest, rfl, rfl, one⟩ := List.map_eq_append_iff.1 visits
    obtain ⟨contact, rfl, rfl⟩ := List.map_eq_singleton_iff.1 one
    refine ⟨before, contact, rfl, fun earlier mem => ?_, Contact.inserts commits⟩
    have passes := passes _ (List.mem_map_of_mem mem)
    exact Contact.quiet passes.permitted passes.idle
  · intro contact mem failure fails required
    exact conduct.of_fails (List.mem_map_of_mem mem) fails required
  · intro before account profile answer after told other last
    rw [told] at dialogue
    have exchanged := saving_exchanged dialogue other
    exact ⟨fun dialogue' => dialogue'.unique exchanged, fun same => same ▸ exchanged⟩

/-- A login by a provider whose new record cannot be saved: the token is issued and stored all the same. -/
theorem login_withstands_fault : ∃ (s : Service) (contacts : List Contact) (heard : List Heard) (token : Token),
    Dialogue (s.perform (.issueFromProvider "p" "")).run heard (contacts.map Contact.visit) (.ok (.token token)) ∧
      (∃ contact ∈ contacts, contact.visit.call.kind = .saveProfile ∧
        contact.visit.answer = .error (.database "down")) ∧
      ∃ before contact, contacts = before ++ [contact] ∧ contact.found.Inserts token contact.left := by
  let now : Instant := .ofSeconds 0
  let provider : Provider := ⟨"p", fun _ => .done (.error .unknownToken)⟩
  let profile : Profile := ⟨"p", "s", some "new", []⟩
  let m : Memory := Memory.empty.insertAccount ⟨"u", "", none, none, Table.empty.insert "p" ⟨"p", "s", none, []⟩⟩
  let token : Token := .issued "u" 3600 now "a" "r"
  let contacts : List Contact :=
    [.under .none now (.accountByIdentity "p" "s") m, .under ⟨some "down", id, false⟩ now (.saveProfile "u" profile) m,
      .under .none now (.addToken token) m]
  have dialogue : Dialogue (Service.perform ⟨Registry.empty.register provider, 3600, 600⟩ (.issueFromProvider "p" "")).run
      [⟨.identify provider "", .ok profile⟩, ⟨.clock, now⟩, ⟨.freshText, "a"⟩, ⟨.freshText, "r"⟩]
      (contacts.map Contact.visit) (.ok (.token token)) :=
    .logs (.hears rfl _ (.asks _ (.logs (.asks _ (.logs (.hears rfl _ (.hears rfl _ (.hears rfl _
      (.asks _ (.logs (.done _)))))))))))
  obtain ⟨-, stores, -, -⟩ := calls_withstand_faults dialogue
  obtain ⟨before, contact, split, -, inserts⟩ := stores token rfl (.inl rfl)
  exact ⟨_, contacts, _, token, dialogue, ⟨_, .tail _ (.head _), rfl, rfl⟩, before, contact, split, inserts⟩

end Dialogue

end TokenAuthority
