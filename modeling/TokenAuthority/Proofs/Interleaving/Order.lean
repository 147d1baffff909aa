import TokenAuthority.Proofs.Refresh.Attempt

/-!
# Order along a run

If no string is drawn twice, a string that a call holds is under no token until that call uses it:
`Holds.unused`. Hence every store call fits the store it meets, and in a run that starts without tokens
index and chains are in order at every instant: `memory_orderly`.
-/

namespace TokenAuthority

namespace Interleaving

variable {run : Interleaving} {id other n m : Nat} {text : String}

/-! ### Every call -/

/-- How a call ends. -/
def Ends (run : Interleaving) (id : Nat) : Call → Nat → Except Failure Yield → Prop
  | .refresh r, n, result => ∃ token, run.Attempt id r n token ∧ result = .token <$> token
  | .authenticate access, n, result => ∃ token, result = .token <$> token ∧ run.Excused id n token ∧
      ∀ accepted, token = .ok accepted → ∃ k, k < n ∧ accepted.valid = true ∧ accepted.next = none ∧
        run.Does k id (.store (.tokenByAccess access)) (.ok (some accepted))
  | _, n, result => run.Excused id n result

theorem Excused.map {α β : Type} {result : Except Failure α} (excused : run.Excused id n result) (f : α → β) :
    run.Excused id n (f <$> result) := by
  cases result with
  | ok a => exact Excused.ok
  | error failure => exact fun reason same => excused reason (by rw [Except.error.inj same])

theorem perform_leads {call : Call} (starts : run.move id = .start call) :
    run.Leads id (run.Warrant id) (run.Ends id call) n (run.service.perform call) := by
  cases call with
  | issueFromPassword email password => exact Leads.map (issueFromPassword_leads.mono fun _ _ => (·.map _))
  | issueFromProvider provider accessToken => exact Leads.map (issueFromProvider_leads.mono fun _ _ => (·.map _))
  | refresh r => exact Leads.map ((refresh_leads starts).mono fun _ result attempt => ⟨result, attempt, rfl⟩)
  | authenticate access =>
    refine Leads.map (authenticate_leads (fun _ => trivial)
      (fun k e m token now before after reads valid last _ _ => ?_) fun m failure regular => ?_)
    · refine ⟨.ok token, rfl, Excused.ok, fun accepted same => ?_⟩
      obtain rfl := Except.ok.inj same
      exact ⟨k, by omega, valid, last, reads⟩
    · exact ⟨.error failure, rfl, Excused.error regular, fun accepted same => (nomatch same)⟩
  | invalidate access => exact Leads.map (invalidate_leads.mono fun _ _ => (·.map _))
  | authorize access client scope => exact Leads.map (authorize_leads.mono fun _ _ => (·.map _))
  | issueFromCode code client => exact Leads.map (issueFromCode_leads.mono fun _ _ => (·.map _))

theorem Does.warrant {call : StoreCall} {answer : call.Answer} (does : run.Does n id (.store call) answer) :
    run.Warrant id n call := by
  obtain ⟨started, starts⟩ := does.started.1
  exact does.meets starts (perform_leads starts)

theorem Returned.started {result : Except Failure Yield} (returned : run.Returned n id result) :
    ∃ call, run.move id = .start call := by
  obtain ⟨call, there⟩ := returned
  exact ⟨call, (start_of_running there).1⟩

theorem Returned.ends {call : Call} {result : Except Failure Yield} (returned : run.Returned n id result)
    (starts : run.move id = .start call) :
    ∃ m, m ≤ n ∧ run.Rests id m n ∧ run.Ends id call m result := by
  obtain ⟨m, -, early, rests, ends⟩ := returned.meets starts (perform_leads starts)
  exact ⟨m, early, rests, ends⟩

theorem Warrant.mints {call : StoreCall} {token : Token} (warrant : run.Warrant id n call)
    (adds : call.token? = some token) : run.Mints id n token := by
  cases call with
  | addToken token' =>
    obtain rfl := Option.some.inj adds
    exact warrant
  | chainToken access token' =>
    obtain rfl := Option.some.inj adds
    exact warrant.1
  | _ => cases adds

/-! ### What reads find -/

theorem Does.finds {r : String} {found : Option Token}
    (looks : run.Does n id (.store (.tokenByRefresh r)) (.ok found)) :
    found = (run.memory n).tokenByRefresh? r := by
  obtain ⟨now, answered, -⟩ := looks.step
  exact Except.ok.inj answered

theorem Reads.finds {access : String} {found : Option Token} (reads : run.Reads id n m access found) :
    found = (run.memory m).tokens.get? access := by
  obtain ⟨now, answered, -⟩ := reads.2.step
  exact Except.ok.inj answered

/-! ### Strings that a call holds are new -/

theorem drawn_once (fresh : run.Fresh) (first : run.Does n id (.ambient .freshText) text)
    (second : run.Does m other (.ambient .freshText) text) : n = m := by
  rcases Nat.lt_trichotomy n m with before | same | after
  · exact (fresh m other text second (.inr (.inl ⟨n, before, id, first⟩))).elim
  · exact same
  · exact (fresh n id text first (.inr (.inl ⟨m, after, other, second⟩))).elim

theorem Mints.holds {token : Token} (mints : run.Mints id n token)
    (uses : token.access = text ∨ token.refresh = some text) : run.Holds id n text := by
  rcases uses with rfl | own
  · exact mints.access
  · exact mints.refresh text own

theorem Holds.unused (fresh : run.Fresh) (holds : run.Holds id n text) : (run.memory n).Unused text := by
  obtain ⟨d, before, drawn, kept⟩ := holds
  have new : (run.memory d).Unused text := by
    have unknown := fun mentions => fresh d id text drawn (.inl mentions)
    simp only [Memory.Mentions, Table.contains, Option.isSome_iff_ne_none] at unknown
    exact ⟨Classical.byContradiction fun used => unknown (.inl used),
      Classical.byContradiction fun used => unknown (.inr (.inl used))⟩
  -- From the drawing on: whoever adds a token with the string holds it, so is this call.
  have still (k : Nat) (since : d ≤ k) (until_ : k ≤ n) : (run.memory k).Unused text := by
    induction since with
    | refl => exact new
    | @step k since ih =>
      have unused := ih (by omega)
      rcases run.memory_succ k with same | ⟨other, call, answer, does⟩
      · rw [same]
        exact unused
      · obtain ⟨now, -, after⟩ := does.step
        rw [after]
        refine (Memory.step_changes _ now call).unused unused fun token adds => not_or.1 fun uses => ?_
        obtain ⟨e, earlier, redrawn, -⟩ := (does.warrant.mints adds).holds uses
        obtain rfl := drawn_once fresh drawn redrawn
        obtain ⟨rfl, -, -⟩ := drawn.unique redrawn
        exact kept k call answer earlier (by omega) does
  exact still n (by omega) (by omega)

theorem Mints.new {token : Token} (mints : run.Mints id n token) (fresh : run.Fresh) :
    (run.memory n).New token :=
  ⟨(mints.access.unused fresh).access, fun r own => ((mints.refresh r own).unused fresh).refresh, mints.alone⟩

/-! ### Index and chains -/

theorem Does.stays {r : String} {old : Token} (looks : run.Does n id (.store (.tokenByRefresh r)) (.ok (some old)))
    (orderly : (run.memory n).Orderly) (later : n ≤ m) :
    ∃ current, (run.memory m).tokens.get? old.access = some current ∧ old.Grows current := by
  obtain ⟨access, -, found⟩ := Option.bind_eq_some_iff.1 looks.finds.symm
  rw [orderly.indexed.keyed found]
  exact memory_grows run later found

theorem Warrant.fits {call : StoreCall} (warrant : run.Warrant id n call) (fresh : run.Fresh)
    (orderly : ∀ k, k < n → (run.memory k).Orderly) : (run.memory n).Fits call := by
  cases call with
  | addToken token => exact warrant.new fresh
  | chainToken access token =>
    obtain ⟨mints, plain, r, k, old, -, before, looks, rfl, code, owner⟩ := warrant
    refine ⟨mints.new fresh, plain, fun current found => ?_⟩
    obtain ⟨later, read, grows⟩ := looks.stays (orderly k before) (Nat.le_of_lt before)
    rw [read] at found
    obtain rfl := Option.some.inj found
    exact ⟨owner.trans grows.owner.symm, grows.code.trans code⟩
  | _ => trivial

/-- At every instant of a run that starts without tokens, index and chains are in order. -/
theorem memory_orderly (fresh : run.Fresh) (empty : run.StartsEmpty) (n : Nat) : (run.memory n).Orderly := by
  -- What a call chains to it has read earlier, so order is needed at all instants before.
  induction n using Nat.strongRecOn with
  | ind n ih =>
    cases n with
    | zero =>
      obtain ⟨tokens, index⟩ := empty
      refine ⟨?_, ?_⟩
      · rw [show (run.memory 0).tokens = .empty from tokens, show (run.memory 0).refreshIndex = .empty from index]
        exact Chain.empty_indexed
      · rw [show (run.memory 0).tokens = .empty from tokens]
        exact Chain.empty_chained
    | succ n =>
      have orderly := ih n (by omega)
      rcases run.memory_succ n with same | ⟨id, call, answer, does⟩
      · rw [same]
        exact orderly
      · obtain ⟨now, -, after⟩ := does.step
        rw [after]
        exact (Memory.step_changes _ now call).orderly
          (does.warrant.fits fresh fun k before => ih k (by omega)) orderly

end Interleaving

end TokenAuthority
