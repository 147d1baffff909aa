import Mathlib.Data.List.Induction
import TokenAuthority.Proofs.Dialogue.Basic
import TokenAuthority.Proofs.Store.Growth

/-!
# What a log of store calls tells of tokens

The operations of a store leave a log: the store calls and their answers. From it one can read which tokens were
inserted, which of them was the last to carry a refresh string, and what has become of a token since. Each of
these has one law for a log that is one visit longer.
-/

namespace TokenAuthority

/-! ### Operations and what they answer -/

/-- An operation of the store: an account is put in place, or a store call is carried out at some time. -/
inductive Operation where
  | account (account : Account)
  | call (now : Instant) (call : StoreCall)

namespace Memory

def operate (m : Memory) : Operation → Memory
  | .account account => m.insertAccount account
  | .call now call => (m.step now call).2

/-- The store calls of a list of operations, with their answers. -/
def visits : Memory → List Operation → List Visit
  | _, [] => []
  | m, .account account :: rest => (m.insertAccount account).visits rest
  | m, .call now call :: rest => ⟨call, (m.step now call).1⟩ :: (m.step now call).2.visits rest

end Memory

namespace Visit

/-- The token that was inserted. -/
def inserted? : Visit → Option Token
  | ⟨.addToken token, .ok _⟩ => some token
  | ⟨.chainToken _ token, .ok true⟩ => some token
  | _ => none

/-- The access string of the token that was linked, and that of its successor. -/
def linked? : Visit → Option (String × String)
  | ⟨.chainToken access token, .ok true⟩ => some (access, token.access)
  | _ => none

/-- The access string of the token that was invalidated. -/
def closed? : Visit → Option String
  | ⟨.invalidateToken access, .ok true⟩ => some access
  | _ => none

end Visit

/-- Whether an answer is an error, or `false`. -/
def StoreCall.refused : (call : StoreCall) → call.Answer → Bool
  | .chainToken _ _, .ok false => true
  | .invalidateToken _, .ok false => true
  | _, .ok _ => false
  | _, .error _ => true

/-- The tokens that were inserted, the oldest first. -/
def insertions (log : List Visit) : List Token := log.filterMap Visit.inserted?

/-- A token was inserted, and these visits came after it. -/
def Inserted (log : List Visit) (token : Token) (later : List Visit) : Prop :=
  ∃ earlier visit, log = earlier ++ visit :: later ∧ visit.inserted? = some token

/-- The last insertion of a token with a refresh string. -/
structure Latest (log : List Visit) (r : String) (token : Token) (later : List Visit) : Prop where
  inserted : Inserted log token later
  carries : token.refresh = some r
  last : ∀ newer ∈ insertions later, newer.refresh ≠ some r

/-- What has become of a token: it is as it was, but that it may have been invalidated and linked. -/
structure Token.Since (token : Token) (later : List Visit) (current : Token) : Prop where
  frame : current = { token with valid := current.valid, next := current.next }
  valid : current.valid = true ↔ token.valid = true ∧ ∀ visit ∈ later, visit.closed? ≠ some token.access
  next : ∀ successor, current.next = some successor ↔
    token.next = some successor ∨ ∃ visit ∈ later, visit.linked? = some (token.access, successor)

variable {log later before : List Visit} {visit : Visit} {token other current : Token} {r x : String}

/-! ### One more visit -/

theorem inserted_append : Inserted (log ++ [visit]) token later ↔
    visit.inserted? = some token ∧ later = [] ∨
      ∃ before, later = before ++ [visit] ∧ Inserted log token before := by
  constructor
  · rintro ⟨earlier, own, split, inserted⟩
    rcases List.eq_nil_or_concat later with rfl | ⟨before, last, rfl⟩
    · obtain ⟨-, same⟩ := List.append_inj' split rfl
      obtain rfl := List.singleton_inj.1 same
      exact .inl ⟨inserted, rfl⟩
    · rw [List.concat_eq_append, ← List.cons_append, ← List.append_assoc] at split
      rw [List.concat_eq_append]
      obtain ⟨rest, same⟩ := List.append_inj' split rfl
      obtain rfl := List.singleton_inj.1 same
      exact .inr ⟨before, rfl, earlier, own, rest, inserted⟩
  · rintro (⟨inserted, rfl⟩ | ⟨before, rfl, earlier, own, rfl, inserted⟩)
    · exact ⟨log, visit, rfl, inserted⟩
    · exact ⟨earlier, own, by simp, inserted⟩

theorem mem_insertions : token ∈ insertions log ↔ ∃ later, Inserted log token later := by
  rw [insertions, List.mem_filterMap]
  constructor
  · rintro ⟨visit, mem, inserted⟩
    obtain ⟨earlier, later, rfl⟩ := List.append_of_mem mem
    exact ⟨later, earlier, visit, rfl, inserted⟩
  · rintro ⟨later, earlier, visit, rfl, inserted⟩
    exact ⟨visit, by simp, inserted⟩

theorem insertions_append : insertions (log ++ [visit]) = insertions log ++ visit.inserted?.toList := by
  rw [insertions, List.filterMap_append]
  cases inserted : visit.inserted? <;> simp [insertions, inserted]

theorem latest_append : Latest (log ++ [visit]) r token later ↔
    (visit.inserted? = some token ∧ token.refresh = some r ∧ later = []) ∨
      ∃ before, later = before ++ [visit] ∧ Latest log r token before ∧
        ∀ newer, visit.inserted? = some newer → newer.refresh ≠ some r := by
  constructor
  · rintro ⟨inserted, carries, last⟩
    rcases inserted_append.1 inserted with ⟨own, rfl⟩ | ⟨before, rfl, older⟩
    · exact .inl ⟨own, carries, rfl⟩
    · rw [insertions_append] at last
      refine .inr ⟨before, rfl, ⟨older, carries, fun newer mem => last newer (List.mem_append_left _ mem)⟩, ?_⟩
      intro newer own
      exact last newer (List.mem_append_right _ (by simp [own]))
  · rintro (⟨own, carries, rfl⟩ | ⟨before, rfl, latest, other⟩)
    · exact ⟨inserted_append.2 (.inl ⟨own, rfl⟩), carries, fun _ mem => nomatch mem⟩
    · refine ⟨inserted_append.2 (.inr ⟨before, rfl, latest.inserted⟩), latest.carries, fun newer mem => ?_⟩
      rw [insertions_append] at mem
      rcases List.mem_append.1 mem with mem | own
      · exact latest.last newer mem
      · exact other newer (by simpa using own)

/-- Of the insertions that carry a refresh string one is the latest. -/
theorem exists_latest (mem : token ∈ insertions log) (carries : token.refresh = some r) :
    ∃ newest later, Latest log r newest later := by
  induction log using List.reverseRecOn with
  | nil => cases mem
  | append_singleton log visit ih =>
    by_cases own : ∃ newer, visit.inserted? = some newer ∧ newer.refresh = some r
    · obtain ⟨newer, inserted, carries⟩ := own
      exact ⟨newer, [], latest_append.2 (.inl ⟨inserted, carries, rfl⟩)⟩
    · have other : ∀ newer, visit.inserted? = some newer → newer.refresh ≠ some r :=
        fun newer inserted carries => own ⟨newer, inserted, carries⟩
      rw [insertions_append] at mem
      rcases List.mem_append.1 mem with mem | mem
      · obtain ⟨newest, later, latest⟩ := ih mem
        exact ⟨newest, _, latest_append.2 (.inr ⟨later, rfl, latest, other⟩)⟩
      · exact (other token (by simpa using mem) carries).elim

namespace Token.Since

theorem access (since : token.Since later current) : current.access = token.access := by rw [since.frame]

theorem code (since : token.Since later current) : current.code = token.code := by rw [since.frame]

theorem unique (since : token.Since later current) (since' : token.Since later other) : other = current := by
  have valid : other.valid = current.valid := Bool.eq_iff_iff.2 (since'.valid.trans since.valid.symm)
  have next : other.next = current.next := Option.ext fun successor =>
    (since'.next successor).trans (since.next successor).symm
  rw [since.frame, since'.frame, valid, next]

theorem nil (token : Token) : token.Since [] token := ⟨rfl, by simp, by simp⟩

/-- A visit that neither invalidates nor links the token changes nothing about it. -/
theorem append (since : token.Since later current) (open_ : visit.closed? ≠ some token.access)
    (unlinked : ∀ successor, visit.linked? ≠ some (token.access, successor)) :
    token.Since (later ++ [visit]) current := by
  refine ⟨since.frame, ?_, fun successor => ?_⟩
  · rw [since.valid, List.forall_mem_append, List.forall_mem_singleton]
    exact ⟨fun ⟨valid, earlier⟩ => ⟨valid, earlier, open_⟩, fun ⟨valid, earlier, _⟩ => ⟨valid, earlier⟩⟩
  · rw [since.next]
    simp [or_and_right, exists_or, unlinked successor]

theorem invalidated (since : token.Since later current) (closed : visit.closed? = some token.access)
    (unlinked : visit.linked? = none) : token.Since (later ++ [visit]) current.invalidated := by
  refine ⟨?_, ?_, fun successor => ?_⟩
  · rw [since.frame]
    rfl
  · have never : ¬∀ visit' ∈ later ++ [visit], visit'.closed? ≠ some token.access :=
      fun open_ => open_ visit (by simp) closed
    exact iff_of_false Bool.false_ne_true fun holds => never holds.2
  · show current.next = some successor ↔ _
    rw [since.next]
    simp [or_and_right, exists_or, unlinked]

theorem linked (since : token.Since later current) (alone : current.next = none)
    (link : visit.linked? = some (token.access, x)) (open_ : visit.closed? = none) :
    token.Since (later ++ [visit]) (current.withNext x) := by
  refine ⟨?_, ?_, fun successor => ?_⟩
  · rw [since.frame]
    rfl
  · show current.valid = true ↔ _
    rw [since.valid, List.forall_mem_append, List.forall_mem_singleton, open_]
    simp
  · have none_before := mt (since.next successor).2 (by rw [alone]; exact nofun)
    obtain ⟨unset, unlinked⟩ := not_or.1 none_before
    show some x = some successor ↔ _
    constructor
    · intro same
      obtain rfl := Option.some.inj same
      exact .inr ⟨visit, by simp, link⟩
    · rintro (set | ⟨visit', mem, link'⟩)
      · exact (unset set).elim
      · rcases List.mem_append.1 mem with mem | mem
        · exact (unlinked ⟨visit', mem, link'⟩).elim
        · obtain rfl := List.mem_singleton.1 mem
          rw [link] at link'
          exact congrArg (Option.map Prod.snd) link'

end Token.Since

end TokenAuthority
