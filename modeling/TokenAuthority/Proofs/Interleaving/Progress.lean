import TokenAuthority.Proofs.Interleaving.Basic

/-!
# Calls come to an end

A program makes finitely many requests, whatever the answers. So a call that gets its turn again and again
comes to a result.
-/

namespace TokenAuthority

namespace Interleaving

/-- Call `id` gets its turn again and again. -/
def Recurs (run : Interleaving) (id : Nat) : Prop := ∀ n, ∃ m supply, n ≤ m ∧ run.move m = .resume id supply

variable {run : Interleaving} {id n : Nat} {call : Call}

/-- A call that has a request to make gets the answer to it. -/
theorem Recurs.answered (recurs : run.Recurs id) {request : Effect}
    {next : request.Answer → Program Effect.Answer (Except Failure Yield)}
    (there : (run.scene n).running id = some ⟨call, .ask request next⟩) :
    ∃ m answer, (run.scene m).running id = some ⟨call, next answer⟩ := by
  obtain ⟨m, supply, later, turn⟩ := recurs n
  obtain ⟨d, rfl⟩ := Nat.exists_eq_add_of_le later
  -- Until its next turn nothing moves the call.
  induction d generalizing n with
  | zero =>
    refine ⟨n + 1, ((run.scene n).memory.answer supply request).1, ?_⟩
    rw [scene, show run.move n = _ from turn, after_of_ask there]
    exact Scene.put_running_self ..
  | succ d ih =>
    by_cases acts : run.Acts n id
    · obtain ⟨request', answer, does⟩ := acts
      obtain ⟨call', next', supply', found, -, after⟩ := does.succ
      rw [there] at found
      obtain ⟨rfl, same⟩ := Running.mk.inj (Option.some.inj found)
      obtain ⟨rfl, same⟩ := Program.ask.inj same
      obtain rfl := eq_of_heq same
      refine ⟨n + 1, answer, ?_⟩
      rw [after]
      exact Scene.put_running_self ..
    · have started : id ≠ n := Nat.ne_of_lt (start_of_running there).2
      rw [← running_succ_of_rests acts started] at there
      exact ih there (by omega) (by rwa [Nat.add_right_comm n 1 d])

theorem Recurs.returns (recurs : run.Recurs id) (starts : run.move id = .start call) :
    ∃ n result, run.Returned n id result := by
  have finishes (program : Program Effect.Answer (Except Failure Yield)) :
      ∀ n, (run.scene n).running id = some ⟨call, program⟩ → ∃ n result, run.Returned n id result := by
    induction program with
    | done result => exact fun n there => ⟨n, result, call, there⟩
    | ask request next ih =>
      intro n there
      obtain ⟨m, answer, goes⟩ := recurs.answered there
      exact ih answer m goes
  exact finishes _ (id + 1) (running_of_start starts)

end Interleaving

end TokenAuthority
