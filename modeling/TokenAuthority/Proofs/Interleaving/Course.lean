import TokenAuthority.Proofs.Interleaving.Basic

/-!
# The course of one call

What one call of a run does can be read off its program, whatever other calls do between its requests.
`Course` follows a program from request to request: each store call has to meet a rule, and the result a
condition. There is one law for each way of putting a program together, and `Does.meets` and
`Returned.meets` carry the outcome over to every run.
-/

namespace TokenAuthority

namespace Interleaving

/-- From an instant on, if the program is what is left of a call, its store calls meet the rule and its
result meets the condition. -/
def Course {α : Type} (run : Interleaving) (id : Nat) (rule : Nat → StoreCall → Prop)
    (post : Nat → α → Prop) : Nat → Program Effect.Answer α → Prop
  | n, .done value => post n value
  | n, .ask request next => ∀ m answer, n ≤ m → run.Rests id n m → run.Does m id request answer →
      (∀ call, request = .store call → rule m call) ∧ Course run id rule post (m + 1) (next answer)

/-- The course of an action. -/
def Leads {α : Type} (run : Interleaving) (id : Nat) (rule : Nat → StoreCall → Prop)
    (post : Nat → Except Failure α → Prop) (n : Nat) (action : Action α) : Prop :=
  run.Course id rule post n action.run

variable {run : Interleaving} {id n m : Nat} {rule : Nat → StoreCall → Prop} {α β : Type}

theorem Rests.refl : run.Rests id n n := fun _ early late => absurd early (by omega)

/-! ### Programs -/

theorem Course.bind {post : Nat → β → Prop} {p : Program Effect.Answer α} {f : α → Program Effect.Answer β}
    (first : run.Course id rule (fun m a => run.Course id rule post m (f a)) n p) :
    run.Course id rule post n (p.bind f) := by
  induction p generalizing n with
  | done a => exact first
  | ask request next ih =>
    intro m answer later rests does
    obtain ⟨meets, rest⟩ := first m answer later rests does
    exact ⟨meets, ih answer rest⟩

theorem Course.mono {post post' : Nat → α → Prop} {p : Program Effect.Answer α}
    (course : run.Course id rule post n p) (weaker : ∀ m a, post m a → post' m a) :
    run.Course id rule post' n p := by
  induction p generalizing n with
  | done a => exact weaker n a course
  | ask request next ih =>
    intro m answer later rests does
    obtain ⟨meets, rest⟩ := course m answer later rests does
    exact ⟨meets, ih answer rest⟩

theorem Course.ambient {post : Nat → α → Prop} {request : Ambient}
    {next : request.Answer → Program Effect.Answer α}
    (rest : ∀ m answer, n ≤ m → run.Rests id n m → run.Does m id (.ambient request) answer →
      run.Course id rule post (m + 1) (next answer)) :
    run.Course id rule post n (.ask (.ambient request) next) :=
  fun m answer later rests does => ⟨fun _ same => (nomatch same), rest m answer later rests does⟩

/-! ### Actions -/

variable {post : Nat → Except Failure β → Prop} {f : α → Action β}

theorem Leads.pure {b : β} (holds : post n (.ok b)) : run.Leads id rule post n (pure b) := holds

theorem Leads.throw {failure : Failure} (holds : post n (.error failure)) :
    run.Leads id rule post n (throw failure) := holds

theorem Leads.mono {post post' : Nat → Except Failure α → Prop} {x : Action α}
    (leads : run.Leads id rule post n x) (weaker : ∀ m result, post m result → post' m result) :
    run.Leads id rule post' n x :=
  Course.mono leads weaker

theorem Leads.bind {x : Action α}
    (first : run.Leads id rule (fun m result =>
      match result with
      | .ok a => run.Leads id rule post m (f a)
      | .error failure => post m (.error failure)) n x) :
    run.Leads id rule post n (x >>= f) := by
  refine Course.bind (p := x.run) (cast ?_ first)
  congr
  funext m result
  cases result <;> rfl

theorem Leads.map {post : Nat → Except Failure β → Prop} {x : Action α} {g : α → β}
    (first : run.Leads id rule (fun m result => post m (g <$> result)) n x) :
    run.Leads id rule post n (g <$> x) := by
  refine Course.bind (p := x.run) (cast ?_ first)
  congr
  funext m result
  cases result <;> rfl

theorem Leads.lift_bind {p : Program Effect.Answer α}
    (first : run.Course id rule (fun m a => run.Leads id rule post m (f a)) n p) :
    run.Leads id rule post n ((liftM p : Action α) >>= f) :=
  Leads.bind (Course.bind first)

theorem Leads.log_then {level : Level} {message : String} {f : Unit → Action β}
    (rest : ∀ m, n ≤ m → run.Rests id n m → run.Does m id (.ambient (.log ⟨level, message⟩)) () →
      run.Leads id rule post (m + 1) (f ())) :
    run.Leads id rule post n ((liftM (Action.log level message) : Action Unit) >>= f) :=
  Leads.lift_bind (Course.ambient fun m _ later rests does => rest m later rests does)

theorem Leads.log_bind {level : Level} {message : String} {f : Unit → Action β}
    (rest : ∀ m, n ≤ m → run.Leads id rule post m (f ())) :
    run.Leads id rule post n ((liftM (Action.log level message) : Action Unit) >>= f) :=
  Leads.log_then fun m later _ _ => rest (m + 1) (by omega)

theorem Leads.clock_bind {f : Instant → Action β}
    (rest : ∀ m now, n ≤ m → run.Rests id n m → run.Does m id (.ambient .clock) now →
      run.Leads id rule post (m + 1) (f now)) :
    run.Leads id rule post n ((liftM Action.clock : Action Instant) >>= f) :=
  Leads.lift_bind (Course.ambient fun m now later rests does => rest m now later rests does)

theorem Leads.store_bind {call : StoreCall} {f : call.Value → Action β}
    (rest : ∀ m answer, n ≤ m → run.Rests id n m → run.Does m id (.store call) answer → rule m call ∧
      match answer with
      | .ok value => run.Leads id rule post (m + 1) (f value)
      | .error failure => post (m + 1) (.error failure)) :
    run.Leads id rule post n (Action.store call >>= f) := by
  refine Leads.bind fun m answer later rests does => ?_
  obtain ⟨meets, goes⟩ := rest m answer later rests does
  refine ⟨fun call same => Effect.store.inj same ▸ meets, ?_⟩
  cases answer <;> exact goes

/-- A store call that does not fail, and of which the value depends on nothing but the store. -/
theorem Leads.read_bind {call : StoreCall} {value : Memory → call.Value} {f : call.Value → Action β}
    (reads : ∀ m now, (Memory.step now call m).1 = .ok (value m)) (meets : ∀ m, rule m call)
    (rest : ∀ m, n ≤ m → run.Does m id (.store call) (.ok (value (run.memory m))) →
      run.Leads id rule post (m + 1) (f (value (run.memory m)))) :
    run.Leads id rule post n (Action.store call >>= f) := by
  refine Leads.store_bind fun m answer later _ does => ⟨meets m, ?_⟩
  obtain ⟨now, answered, -⟩ := does.step
  rw [reads] at answered
  subst answered
  exact rest m later does

theorem Leads.orThrow_bind {failure : Failure} {a? : Option α}
    (absent : a? = none → post n (.error failure))
    (rest : ∀ a, a? = some a → run.Leads id rule post n (f a)) :
    run.Leads id rule post n (Service.orThrow failure a? >>= f) := by
  cases a? with
  | none => exact absent rfl
  | some a => exact rest a rfl

/-! ### Calls -/

variable {call : Call} {post : Nat → Except Failure Yield → Prop}

theorem Rests.succ (rests : run.Rests id n m) (idle : ¬run.Acts m id) : run.Rests id n (m + 1) := by
  intro k early late
  rcases Nat.lt_or_eq_of_le (Nat.le_of_lt_succ late) with before | rfl
  · exact rests k early before
  · exact idle

theorem course_of_start (starts : run.move id = .start call)
    (leads : run.Leads id rule post (id + 1) (run.service.perform call)) (started : id < n) :
    ∃ m rest, id < m ∧ m ≤ n ∧ run.Rests id m n ∧ (run.scene n).running id = some ⟨call, rest⟩ ∧
      run.Course id rule post m rest := by
  -- A request of the call takes it one request further in its course, and nothing else moves it.
  induction started with
  | refl => exact ⟨id + 1, _, by omega, by omega, .refl, running_of_start starts, leads⟩
  | @step n started ih =>
    have started : id < n := started
    obtain ⟨m, rest, late, early, rests, there, course⟩ := ih
    by_cases acts : run.Acts n id
    · obtain ⟨request, answer, does⟩ := acts
      obtain ⟨call', next, supply, found, _, after⟩ := does.succ
      rw [there] at found
      obtain ⟨rfl, rfl⟩ := Running.mk.inj (Option.some.inj found)
      refine ⟨n + 1, next answer, by omega, by omega, .refl, ?_, (course n answer early rests does).2⟩
      rw [after]
      exact Scene.put_running_self ..
    · refine ⟨m, rest, late, by omega, rests.succ acts, ?_, course⟩
      rw [running_succ_of_rests acts (by omega), there]

theorem Does.meets {storeCall : StoreCall} {answer : storeCall.Answer}
    (does : run.Does n id (.store storeCall) answer) (starts : run.move id = .start call)
    (leads : run.Leads id rule post (id + 1) (run.service.perform call)) : rule n storeCall := by
  obtain ⟨m, rest, -, early, rests, there, course⟩ := course_of_start starts leads does.started.2
  obtain ⟨call', next, supply, found, -⟩ := does.succ
  rw [there] at found
  obtain ⟨rfl, rfl⟩ := Running.mk.inj (Option.some.inj found)
  exact (course n answer early rests does).1 storeCall rfl

theorem Returned.meets {result : Except Failure Yield} (returned : run.Returned n id result)
    (starts : run.move id = .start call)
    (leads : run.Leads id rule post (id + 1) (run.service.perform call)) :
    ∃ m, id < m ∧ m ≤ n ∧ run.Rests id m n ∧ post m result := by
  obtain ⟨call', found⟩ := returned
  obtain ⟨m, rest, late, early, rests, there, course⟩ :=
    course_of_start starts leads (start_of_running found).2
  rw [there] at found
  obtain ⟨rfl, rfl⟩ := Running.mk.inj (Option.some.inj found)
  exact ⟨m, late, early, rests, course⟩

end Interleaving

end TokenAuthority
