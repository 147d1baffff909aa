import TokenAuthority.Proofs.Dialogue.Basic
import TokenAuthority.Proofs.Interleaving.Basic

/-!
# The dialogue of one call

What a call of a run has asked and been told is the beginning of a dialogue of its program, and all of one
when the call has come to its result. So what is known of every dialogue, whatever is answered in it, is known
of every call of every run: `Does.dialogue`, `Returned.dialogue`.
-/

namespace TokenAuthority

/-- Every program has a dialogue. -/
theorem Dialogue.exists_of {α : Type} (p : Program Effect.Answer α) :
    ∃ heard visits value, Dialogue p heard visits value := by
  induction p with
  | done value => exact ⟨[], [], value, .done value⟩
  | ask request next ih =>
    cases request with
    | store call =>
      obtain ⟨heard, visits, value, rest⟩ := ih (.error .noCredentials : Except Failure call.Value)
      exact ⟨heard, _, value, .asks _ rest⟩
    | ambient request =>
      cases request with
      | log event =>
        obtain ⟨heard, visits, value, rest⟩ := ih ()
        exact ⟨heard, visits, value, .logs rest⟩
      | clock =>
        obtain ⟨heard, visits, value, rest⟩ := ih (Instant.ofSeconds 0)
        exact ⟨_, visits, value, .hears rfl _ rest⟩
      | freshText =>
        obtain ⟨heard, visits, value, rest⟩ := ih ""
        exact ⟨_, visits, value, .hears rfl _ rest⟩
      | identify provider accessToken =>
        obtain ⟨heard, visits, value, rest⟩ := ih (.error .noCredentials : Except Failure Profile)
        exact ⟨_, visits, value, .hears rfl _ rest⟩

namespace Interleaving

/-- The store calls that call `id` has made before instant `n`. -/
def Visited (run : Interleaving) (id n : Nat) (visits : List Visit) : Prop :=
  ∀ visit, visit ∈ visits ↔ ∃ k, k < n ∧ run.Does k id (.store visit.call) visit.answer

variable {run : Interleaving} {id n : Nat} {call : Call} {visits : List Visit}

theorem Visited.start : run.Visited id (id + 1) [] := by
  intro visit
  refine ⟨fun mem => (nomatch mem), ?_⟩
  rintro ⟨k, before, does⟩
  have started := does.started.2
  omega

theorem Visited.succ_of_idle (visited : run.Visited id n visits)
    (idle : ∀ store answer, ¬run.Does n id (.store store) answer) : run.Visited id (n + 1) visits := by
  intro visit
  rw [visited visit]
  constructor
  · rintro ⟨k, before, does⟩
    exact ⟨k, by omega, does⟩
  · rintro ⟨k, before, does⟩
    rcases Nat.lt_or_eq_of_le (Nat.le_of_lt_succ before) with earlier | rfl
    · exact ⟨k, earlier, does⟩
    · exact (idle _ _ does).elim

theorem Visited.succ {store : StoreCall} {answer : store.Answer} (visited : run.Visited id n visits)
    (does : run.Does n id (.store store) answer) : run.Visited id (n + 1) (visits ++ [⟨store, answer⟩]) := by
  intro visit
  rw [List.mem_append, List.mem_singleton, visited visit]
  constructor
  · rintro (⟨k, before, earlier⟩ | rfl)
    · exact ⟨k, by omega, earlier⟩
    · exact ⟨n, Nat.lt_succ_self n, does⟩
  · rintro ⟨k, before, other⟩
    rcases Nat.lt_or_eq_of_le (Nat.le_of_lt_succ before) with earlier | rfl
    · exact .inl ⟨k, earlier, other⟩
    · obtain ⟨-, same, answered⟩ := other.unique does
      obtain ⟨call, told⟩ := visit
      cases Effect.store.inj same
      cases answered
      exact .inr rfl

/-- What is left of a call completes what the call has asked and been told to a dialogue of its program. -/
theorem begun (starts : run.move id = .start call) (started : id < n) :
    ∃ rest heard visits, (run.scene n).running id = some ⟨call, rest⟩ ∧ run.Visited id n visits ∧
      ∀ {more others result}, Dialogue rest more others result →
        Dialogue (run.service.perform call).run (heard ++ more) (visits ++ others) result := by
  -- At each instant the call makes its next request, which is added to the dialogue, or rests.
  induction started with
  | refl => exact ⟨_, [], [], running_of_start starts, .start, fun dialogue => dialogue⟩
  | @step n started ih =>
    have started : id < n := started
    obtain ⟨rest, heard, visits, there, visited, completes⟩ := ih
    by_cases acts : run.Acts n id
    · obtain ⟨request, answer, does⟩ := acts
      obtain ⟨call', next, supply, found, -, after⟩ := does.succ
      rw [there] at found
      obtain ⟨rfl, rfl⟩ := Running.mk.inj (Option.some.inj found)
      have goes : (run.scene (n + 1)).running id = some ⟨call, next answer⟩ := by
        rw [after]
        exact Scene.put_running_self ..
      cases request with
      | store store =>
        refine ⟨next answer, heard, _, goes, visited.succ does, fun dialogue => ?_⟩
        rw [List.append_assoc]
        exact completes (.asks answer dialogue)
      | ambient request =>
        have idle (store : StoreCall) (told : store.Answer) : ¬run.Does n id (.store store) told := by
          intro other
          obtain ⟨-, same, -⟩ := other.unique does
          cases same
        have kept := visited.succ_of_idle idle
        by_cases audible : request.isLog = false
        · refine ⟨next answer, heard ++ [⟨request, answer⟩], visits, goes, kept, fun dialogue => ?_⟩
          rw [List.append_assoc]
          exact completes (.hears audible answer dialogue)
        · cases request with
          | log event => exact ⟨next answer, heard, visits, goes, kept, fun dialogue => completes (.logs dialogue)⟩
          | _ => exact (audible rfl).elim
    · have kept := visited.succ_of_idle fun store answer does => acts ⟨_, answer, does⟩
      refine ⟨rest, heard, visits, ?_, kept, completes⟩
      rw [running_succ_of_rests acts (by omega), there]

/-- A store call of a call stands in a dialogue of its program, after those that the call has made before. -/
theorem Does.dialogue {store : StoreCall} {answer : store.Answer} (does : run.Does n id (.store store) answer)
    (starts : run.move id = .start call) : ∃ heard before after result, run.Visited id n before ∧
      Dialogue (run.service.perform call).run heard (before ++ ⟨store, answer⟩ :: after) result := by
  obtain ⟨rest, heard, visits, there, visited, completes⟩ := begun starts does.started.2
  obtain ⟨call', next, supply, found, -⟩ := does.succ
  rw [there] at found
  obtain ⟨rfl, rfl⟩ := Running.mk.inj (Option.some.inj found)
  obtain ⟨more, others, result, dialogue⟩ := Dialogue.exists_of (next answer)
  exact ⟨_, visits, others, result, visited, completes (.asks answer dialogue)⟩

/-- A call that has come to its result has gone through a dialogue of its program. -/
theorem Returned.dialogue {result : Except Failure Yield} (returned : run.Returned n id result)
    (starts : run.move id = .start call) : ∃ heard visits, run.Visited id n visits ∧
      Dialogue (run.service.perform call).run heard visits result := by
  obtain ⟨call', found⟩ := returned
  obtain ⟨rest, heard, visits, there, visited, completes⟩ := begun starts (start_of_running found).2
  rw [there] at found
  obtain ⟨rfl, rfl⟩ := Running.mk.inj (Option.some.inj found)
  have dialogue := completes (.done result)
  rw [List.append_nil, List.append_nil] at dialogue
  exact ⟨heard, visits, visited, dialogue⟩

end Interleaving

end TokenAuthority
