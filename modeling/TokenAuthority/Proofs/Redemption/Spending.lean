import TokenAuthority.Proofs.Interleaving.Grounds
import TokenAuthority.Proofs.Interleaving.Order
import TokenAuthority.Proofs.Store.Spending

/-!
# Grants along a run

In a run that starts without grants, what is stored under a code is the grant that some call was authorized to
make. It is unused for as long as no call has presented the code since: `grants_held`. A code that was drawn
once is stored once, so there is one grant for each code.
-/

namespace TokenAuthority

namespace Interleaving

/-- At instant `n` a call stores a grant in the name of the owner of a token that let the call through. -/
def Authorizes (run : Interleaving) (n : Nat) (bearer : Token) (grant : Grant) : Prop :=
  ∃ id, run.Bears id n bearer grant ∧ run.Does n id (.store (.addGrant grant)) (.ok ())

/-- At instant `n` call `id` presents a code. -/
def Presents (run : Interleaving) (n id : Nat) (code : String) : Prop :=
  ∃ answer, run.Does n id (.store (.takeGrant code)) answer

/-- Between two instants no call presents a code. -/
def Untouched (run : Interleaving) (s t : Nat) (code : String) : Prop :=
  ∀ k id, s < k → k < t → ¬run.Presents k id code

/-- What is to be stored under a code at an instant. -/
inductive Holding (run : Interleaving) (n : Nat) (code : String) : Option Grant → Prop where
  | unmade (unmade : ∀ s bearer grant, run.Authorizes s bearer grant → grant.code = code → n ≤ s) :
      Holding run n code none
  | made {s : Nat} {bearer : Token} {grant : Grant} {used : Option Instant} (authorizes : run.Authorizes s bearer grant)
      (own : grant.code = code) (before : s < n) (unused : used = none ↔ run.Untouched s n code) :
      Holding run n code (some { grant with usedAt := used })

variable {run : Interleaving} {n s t id other : Nat} {code : String} {bearer : Token} {grant : Grant}
  {call : StoreCall} {answer : call.Answer}

/-! ### Authorized grants -/

theorem Authorizes.owner (authorizes : run.Authorizes s bearer grant) : grant.owner = bearer.owner := by
  obtain ⟨id, bears, -⟩ := authorizes
  rw [bears.issued]
  rfl

theorem Authorizes.expiresAt (authorizes : run.Authorizes s bearer grant) :
    grant.expiresAt = grant.createdAt.addSeconds run.service.grantLifetime := by
  obtain ⟨id, bears, -⟩ := authorizes
  rw [bears.issued]
  rfl

theorem Authorizes.unused (authorizes : run.Authorizes s bearer grant) : grant.usedAt = none := by
  obtain ⟨id, bears, -⟩ := authorizes
  rw [bears.issued]
  rfl

/-- A code is stored once. -/
theorem Authorizes.once {bearer' : Token} {grant' : Grant} (fresh : run.Fresh)
    (first : run.Authorizes s bearer grant) (second : run.Authorizes t bearer' grant')
    (same : grant.code = grant'.code) : s = t ∧ grant = grant' := by
  obtain ⟨id, bears, stores⟩ := first
  obtain ⟨other, bears', stores'⟩ := second
  obtain ⟨d, before, draws, kept⟩ := bears.held
  obtain ⟨d', before', draws', kept'⟩ := bears'.held
  rw [← same] at draws'
  obtain rfl := drawn_once fresh draws draws'
  obtain ⟨rfl, -⟩ := draws.unique draws'
  have instants : s = t := by
    rcases Nat.lt_trichotomy s t with earlier | equal | later
    · exact (kept' s _ _ before earlier stores).elim
    · exact equal
    · exact (kept t _ _ before' later stores').elim
  subst instants
  obtain ⟨-, equal, -⟩ := stores.unique stores'
  exact ⟨rfl, StoreCall.addGrant.inj (Effect.store.inj equal)⟩

theorem Does.authorizes {answer : StoreCall.Answer (.addGrant grant)}
    (does : run.Does n id (.store (.addGrant grant)) answer) : ∃ bearer, run.Authorizes n bearer grant := by
  obtain ⟨bearer, bears⟩ := does.grounds
  obtain ⟨now, answered, -⟩ := does.step
  obtain rfl : answer = .ok () := answered
  exact ⟨bearer, id, bears, does⟩

/-! ### One instant -/

theorem Authorizes.call_eq (authorizes : run.Authorizes n bearer grant) (does : run.Does n id (.store call) answer) :
    call = .addGrant grant := by
  obtain ⟨other, -, stores⟩ := authorizes
  obtain ⟨-, same, -⟩ := does.unique stores
  exact Effect.store.inj same

theorem Presents.call_eq (presents : run.Presents n other code) (does : run.Does n id (.store call) answer) :
    call = .takeGrant code := by
  obtain ⟨answer, takes⟩ := presents
  obtain ⟨-, same, -⟩ := does.unique takes
  exact Effect.store.inj same

theorem Untouched.succ (idle : ∀ id, ¬run.Presents n id code) :
    run.Untouched s (n + 1) code ↔ run.Untouched s n code := by
  constructor
  · intro untouched k id after before
    exact untouched k id after (by omega)
  · intro untouched k id after before
    rcases Nat.lt_or_eq_of_le (Nat.le_of_lt_succ before) with early | rfl
    · exact untouched k id after early
    · exact idle id

theorem Holding.unmade_succ (unmade : ∀ s bearer grant, run.Authorizes s bearer grant → grant.code = code → n ≤ s)
    (elsewhere : ∀ bearer grant, run.Authorizes n bearer grant → grant.code ≠ code) :
    run.Holding (n + 1) code none := by
  refine .unmade fun s bearer grant authorizes own => ?_
  have late := unmade s bearer grant authorizes own
  have different : s ≠ n := by
    rintro rfl
    exact elsewhere bearer grant authorizes own
  omega

theorem Holding.keep {stored : Option Grant} (holding : run.Holding n code stored)
    (idle : ∀ id, ¬run.Presents n id code)
    (elsewhere : ∀ bearer grant, run.Authorizes n bearer grant → grant.code ≠ code) :
    run.Holding (n + 1) code stored := by
  cases holding with
  | unmade unmade => exact Holding.unmade_succ unmade elsewhere
  | made authorizes own before unused =>
    exact .made authorizes own (by omega) (unused.trans (Untouched.succ idle).symm)

theorem Holding.store (authorizes : run.Authorizes n bearer grant) :
    run.Holding (n + 1) grant.code (some grant) := by
  have holding : run.Holding (n + 1) grant.code (some { grant with usedAt := none }) :=
    @Holding.made _ _ _ n bearer grant none authorizes rfl (Nat.lt_succ_self n)
      ⟨fun _ _ _ late early => absurd early (by omega), fun _ => rfl⟩
  rwa [← authorizes.unused] at holding

theorem Holding.present {stored : Option Grant} (now : Instant) (holding : run.Holding n code stored)
    (presents : run.Presents n id code) : run.Holding (n + 1) code (stored.map (Grant.presented now)) := by
  cases holding with
  | unmade unmade =>
    obtain ⟨answer, takes⟩ := presents
    exact Holding.unmade_succ unmade fun bearer grant authorizes => nomatch authorizes.call_eq takes
  | @made s bearer grant used authorizes own before unused =>
    have touched : ¬run.Untouched s (n + 1) code := fun untouched =>
      untouched n id before (Nat.lt_succ_self n) presents
    have spent (used : Instant) : run.Holding (n + 1) code (some { grant with usedAt := some used }) :=
      @Holding.made _ _ _ s bearer grant (some used) authorizes own (by omega)
        ⟨nofun, fun untouched => (touched untouched).elim⟩
    rw [Option.map_some, Grant.presented]
    cases used with
    | none => exact spent now
    | some used => exact spent used

/-! ### Every instant -/

/-- What is stored under a code at each instant of a run that starts without grants. -/
theorem grants_held (empty : run.initial.grants = .empty) (n : Nat) (code : String) :
    run.Holding n code ((run.memory n).grants.get? code) := by
  induction n with
  | zero =>
    rw [show (run.memory 0).grants = .empty from empty]
    exact .unmade fun s _ _ _ _ => Nat.zero_le s
  | succ n ih =>
    by_cases calls : ∃ id call answer, run.Does n id (.store call) answer
    · obtain ⟨id, call, answer, does⟩ := calls
      obtain ⟨now, -, after⟩ := does.step
      rw [after]
      by_cases stores : ∃ grant, call = .addGrant grant
      · obtain ⟨grant, rfl⟩ := stores
        obtain ⟨bearer, authorizes⟩ := does.authorizes
        rw [Memory.step_addGrant_grants]
        by_cases own : code = grant.code
        · subst own
          rw [if_pos rfl]
          exact .store authorizes
        · rw [if_neg own]
          refine ih.keep (fun other presents => nomatch presents.call_eq does) fun bearer' grant' authorizes' => ?_
          rw [← StoreCall.addGrant.inj (authorizes'.call_eq does)]
          exact Ne.symm own
      · have elsewhere (bearer : Token) (grant : Grant) (authorizes : run.Authorizes n bearer grant) :
            grant.code ≠ code := fun _ => stores ⟨grant, authorizes.call_eq does⟩
        by_cases takes : call = .takeGrant code
        · subst takes
          rw [Memory.step_takeGrant_grants, if_pos rfl]
          exact ih.present now ⟨answer, does⟩
        · have same : ((run.memory n).step now call).2.grants.get? code = (run.memory n).grants.get? code := by
            cases call with
            | addGrant grant => exact (stores ⟨grant, rfl⟩).elim
            | takeGrant taken =>
              rw [Memory.step_takeGrant_grants, if_neg]
              rintro rfl
              exact takes rfl
            | _ => rw [Memory.step_grants_of_other rfl]
          rw [same]
          exact ih.keep (fun other presents => takes (presents.call_eq does)) elsewhere
    · have same : run.memory (n + 1) = run.memory n := (run.memory_succ n).resolve_right calls
      rw [same]
      refine ih.keep (fun id presents => ?_) fun bearer grant authorizes _ => ?_
      · obtain ⟨answer, takes⟩ := presents
        exact calls ⟨id, _, answer, takes⟩
      · obtain ⟨id, -, stores⟩ := authorizes
        exact calls ⟨id, _, _, stores⟩

end Interleaving

end TokenAuthority
