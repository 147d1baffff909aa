import TokenAuthority.Proofs.Alone.Plan

/-!
# Runs in which records cannot be saved

An uninterrupted run is seen here with the store calls that it makes, and it can be that all attempts to save a record
fail. The laws compute such a run along its program.
-/

namespace TokenAuthority

/-- What comes of the attempt to add a token. -/
def Memory.adding (m : Memory) (token : Token) : Except Failure Token × Memory :=
  match m.insertToken? token with
  | some after => (.ok token, after)
  | none => (.error .mintedTwice, m)

/-- The call that is asked of the store. -/
def Effect.storeCall? : Effect → Option StoreCall
  | store call => some call
  | ambient _ => none

section

variable {σ α β : Type} (answer : (request : Effect) → StateM σ request.Answer)

/-- The store calls that a program makes when it is run. -/
def Program.storeCalls : Program Effect.Answer α → σ → List StoreCall
  | done _, _ => []
  | ask request next, state =>
    let told := (answer request).run state
    request.storeCall?.toList ++ storeCalls (next told.1) told.2

theorem Program.storeCalls_bind (p : Program Effect.Answer α) (f : α → Program Effect.Answer β) (state : σ) :
    (p.bind f).storeCalls answer state =
      p.storeCalls answer state ++ (f ((p.run answer).run state).1).storeCalls answer ((p.run answer).run state).2 := by
  induction p generalizing state with
  | done value => rfl
  | ask request next ih =>
    rw [ask_bind, storeCalls, storeCalls, List.append_assoc]
    exact congrArg _ (ih _ _)

end

/-! ### Whether a record can be saved -/

/-- Answers requests with nothing getting in between. If a failure is given, records cannot be saved: it is what comes
of every attempt. -/
def World.answerSaving (w : World) (fails : Option Failure) :
    (request : Effect) → StateM (Journal × Memory) request.Answer
  | .store (.saveProfile account profile) =>
    match fails with
    | none => w.answer (fun _ => .none) (.store (.saveProfile account profile))
    | some failure => do
      let _ ← journaled w.readClock
      return .error failure
  | .store call => w.answer (fun _ => .none) (.store call)
  | .ambient request => w.answer (fun _ => .none) (.ambient request)

theorem World.answerSaving_none (w : World) : w.answerSaving none = w.answer fun _ => .none := by
  funext request
  cases request with
  | ambient request => rfl
  | store call => cases call <;> rfl

namespace World

variable {w : World} {s : Service} {fails : Option Failure} {j : Journal} {m : Memory}

/-- What an action comes to, the store calls that it makes, and what it leaves behind, where saving records fails if a
failure is given. -/
def course {α : Type} (w : World) (fails : Option Failure) (action : Action α) (state : Journal × Memory) :
    Except Failure α × List StoreCall × (Journal × Memory) :=
  let out := (action.run.run (w.answerSaving fails)).run state
  (out.1, action.run.storeCalls (w.answerSaving fails) state, out.2)

theorem alone_eq_course {α : Type} (action : Action α) (state : Journal × Memory) :
    w.alone action state = ((w.course none action state).1, (w.course none action state).2.2) := by
  rw [course, answerSaving_none]
  rfl

theorem course_bind {α β : Type} (x : Action α) (f : α → Action β) (state : Journal × Memory) :
    w.course fails (x >>= f) state =
      match w.course fails x state with
      | (.ok a, calls, after) =>
        let rest := w.course fails (f a) after
        (rest.1, calls ++ rest.2.1, rest.2.2)
      | (.error failure, calls, after) => (.error failure, calls, after) := by
  simp only [course, ExceptT.run_bind, Program.bind_eq, Program.run_bind, StateT.run_bind, Program.storeCalls_bind]
  generalize (x.run.run (w.answerSaving fails)).run state = result
  obtain ⟨failure | a, after⟩ := result
  · simp only [Program.pure_eq, Program.storeCalls, List.append_nil]
    rfl
  · rfl

@[simp] theorem course_pure {α : Type} (a : α) (state : Journal × Memory) :
    w.course fails (pure a) state = (.ok a, [], state) := rfl

@[simp] theorem course_log (level : Level) (message : String) :
    w.course fails (liftM (Action.log level message)) (j, m) =
      (.ok (), [], { j with events := ⟨level, message⟩ :: j.events }, m) := rfl

@[simp] theorem course_newToken (owner : String) : w.course fails (liftM (s.newToken owner)) (j, m) =
    (.ok (.issued owner s.tokenLifetime (w.clock j.readings) (w.text j.drawn) (w.text (j.drawn + 1))), [],
      { j with readings := j.readings + 1, drawn := j.drawn + 2 }, m) := rfl

@[simp] theorem course_accountByIdentity (provider subject : String) :
    w.course fails (Action.accountByIdentity provider subject) (j, m) =
      (.ok (m.accountByIdentity? provider subject), [.accountByIdentity provider subject],
        { j with readings := j.readings + 1 }, m) := rfl

theorem course_identify {found : Provider} {accessToken : String} : ∃ exchanges,
    w.course fails (Action.identify found accessToken) (j, m) =
      (w.identified found accessToken, [], { j with exchanges := exchanges }, m) := by
  obtain ⟨exchanges, asks⟩ := @alone_identify w j m found accessToken
  exact ⟨exchanges, congrArg (fun out => (out.1, [], out.2)) asks⟩

theorem course_mint {token : Token} : ∃ after, w.course fails (Service.mint token) (j, m) =
    ((m.adding token).1, [.addToken token], after, (m.adding token).2) := by
  have adds : w.course fails (Action.addToken token) (j, m) =
      ((m.step (w.clock j.readings) (.addToken token)).1, [.addToken token], { j with readings := j.readings + 1 },
        (m.step (w.clock j.readings) (.addToken token)).2) := rfl
  rw [Service.mint, course_bind, adds, Memory.adding]
  simp only [Memory.step]
  cases m.insertToken? token with
  | none => exact ⟨_, rfl⟩
  | some after => exact ⟨_, rfl⟩

theorem course_attempt {α : Type} (x : Action α) (state : Journal × Memory) :
    w.course fails (liftM x.run) state = (.ok (w.course fails x state).1, (w.course fails x state).2) := by
  have lifted : (liftM x.run : Action (Except Failure α)).run = x.run.bind fun a => .done (.ok a) := rfl
  simp only [course, lifted, Program.run_bind, Program.storeCalls_bind, Program.storeCalls, List.append_nil]
  rfl

/-- What comes of the attempt to save a record. -/
def attempt (fails : Option Failure) (now : Instant) (owner : String) (profile : Profile) (m : Memory) :
    Except Failure Unit × Memory :=
  match fails with
  | none => m.step now (.saveProfile owner profile)
  | some failure => (.error failure, m)

@[simp] theorem course_saveProfile (owner : String) (profile : Profile) :
    w.course fails (Action.saveProfile owner profile) (j, m) =
      ((attempt fails (w.clock j.readings) owner profile m).1, [.saveProfile owner profile],
        { j with readings := j.readings + 1 }, (attempt fails (w.clock j.readings) owner profile m).2) := by
  cases fails <;> rfl

theorem course_refreshProfile {account : Account} {profile : Profile} : ∃ events,
    w.course fails (liftM (Service.refreshProfile account profile)) (j, m) =
      if account.hasSaved profile then (.ok (), [], j, m)
      else (.ok (), [.saveProfile account.id profile], { j with readings := j.readings + 1, events := events },
        (attempt fails (w.clock j.readings) account.id profile m).2) := by
  unfold Service.refreshProfile
  by_cases saved : account.hasSaved profile = true
  · refine ⟨[], ?_⟩
    rw [if_pos saved, if_pos saved]
    rfl
  · rw [if_neg saved]
    simp only [if_neg saved, liftM_bind, course_bind, course_log, course_attempt, course_saveProfile]
    generalize attempt fails (w.clock j.readings) account.id profile m = out
    obtain ⟨failure | done, after⟩ := out
    · exact ⟨_, rfl⟩
    · exact ⟨_, rfl⟩

end World

end TokenAuthority
