import TokenAuthority.World
import TokenAuthority.Service

/-!
# Calls that are not interrupted

A call carried out in one go over a store in memory, with nothing getting in between. The laws compute it
along its program; the journal of the surroundings goes along with the store.
-/

namespace TokenAuthority

namespace World

variable {α β : Type} (w : World) (j : Journal) (m : Memory) (state : Journal × Memory)

/-- Carries out an action in one go. -/
def alone (action : Action α) (state : Journal × Memory) : Except Failure α × (Journal × Memory) :=
  (action.run.run (w.answer fun _ => .none)).run state

@[simp] theorem alone_pure (a : α) : w.alone (pure a) state = (.ok a, state) := rfl

@[simp] theorem alone_throw (failure : Failure) :
    w.alone (throw failure : Action α) state = (.error failure, state) := rfl

@[simp] theorem alone_lift_pure (a : α) :
    w.alone (liftM (pure a : Program Effect.Answer α)) state = (.ok a, state) := rfl

theorem alone_bind (x : Action α) (f : α → Action β) :
    w.alone (x >>= f) state =
      match w.alone x state with
      | (.ok a, after) => w.alone (f a) after
      | (.error failure, after) => (.error failure, after) := by
  simp only [alone, ExceptT.run_bind, Program.bind_eq, Program.run_bind, StateT.run_bind]
  generalize (x.run.run (w.answer fun _ => .none)).run state = result
  obtain ⟨a | failure, after⟩ := result <;> rfl

@[simp] theorem alone_map (f : α → β) (x : Action α) :
    w.alone (f <$> x) state = (f <$> (w.alone x state).1, (w.alone x state).2) := by
  rw [← bind_pure_comp, alone_bind]
  generalize w.alone x state = result
  obtain ⟨a | failure, after⟩ := result <;> rfl

theorem alone_attempt (x : Action α) :
    w.alone (liftM x.run) state = (.ok (w.alone x state).1, (w.alone x state).2) := by
  have lifted : (liftM x.run : Action (Except Failure α)).run = x.run.bind fun a => .done (.ok a) := rfl
  simp only [alone, lifted, Program.run_bind]
  rfl

@[simp] theorem alone_ite (condition : Prop) [Decidable condition] (x y : Action α) :
    w.alone (if condition then x else y) state = if condition then w.alone x state else w.alone y state := by
  split <;> rfl

@[simp] theorem alone_log (level : Level) (message : String) :
    w.alone (liftM (Action.log level message)) (j, m) =
      (.ok (), { j with events := ⟨level, message⟩ :: j.events }, m) := rfl

@[simp] theorem alone_clock : w.alone (liftM Action.clock) (j, m) =
    (.ok (w.clock j.readings), { j with readings := j.readings + 1 }, m) := rfl

@[simp] theorem alone_tokenByAccess (access : String) : w.alone (Action.tokenByAccess access) (j, m) =
    (.ok (m.tokens.get? access), { j with readings := j.readings + 1 }, m) := rfl

@[simp] theorem alone_tokenByRefresh (refresh : String) : w.alone (Action.tokenByRefresh refresh) (j, m) =
    (.ok (m.tokenByRefresh? refresh), { j with readings := j.readings + 1 }, m) := rfl

@[simp] theorem alone_chainToken (access : String) (successor : Token) :
    w.alone (Action.chainToken access successor) (j, m) =
      ((m.step (w.clock j.readings) (.chainToken access successor)).1, { j with readings := j.readings + 1 },
        (m.step (w.clock j.readings) (.chainToken access successor)).2) := rfl

@[simp] theorem alone_addToken (token : Token) : w.alone (Action.addToken token) (j, m) =
    ((m.step (w.clock j.readings) (.addToken token)).1, { j with readings := j.readings + 1 },
      (m.step (w.clock j.readings) (.addToken token)).2) := rfl

@[simp] theorem alone_invalidateToken (access : String) : w.alone (Action.invalidateToken access) (j, m) =
    (.ok (m.tokens.contains access), { j with readings := j.readings + 1 },
      (m.step (w.clock j.readings) (.invalidateToken access)).2) := rfl

@[simp] theorem alone_accountByEmail (email : String) : w.alone (Action.accountByEmail email) (j, m) =
    (.ok (m.accountByEmail? email), { j with readings := j.readings + 1 }, m) := rfl

@[simp] theorem alone_accountByIdentity (provider subject : String) :
    w.alone (Action.accountByIdentity provider subject) (j, m) =
      (.ok (m.accountByIdentity? provider subject), { j with readings := j.readings + 1 }, m) := rfl

@[simp] theorem alone_saveProfile (account : String) (profile : Profile) :
    w.alone (Action.saveProfile account profile) (j, m) =
      ((m.step (w.clock j.readings) (.saveProfile account profile)).1, { j with readings := j.readings + 1 },
        (m.step (w.clock j.readings) (.saveProfile account profile)).2) := rfl

@[simp] theorem alone_takeGrant (code : String) : w.alone (Action.takeGrant code) (j, m) =
    ((m.step (w.clock j.readings) (.takeGrant code)).1, { j with readings := j.readings + 1 },
      (m.step (w.clock j.readings) (.takeGrant code)).2) := rfl

@[simp] theorem alone_newToken (s : Service) (owner : String) :
    w.alone (liftM (s.newToken owner)) (j, m) =
      (.ok (.issued owner s.tokenLifetime (w.clock j.readings) (w.text j.drawn) (w.text (j.drawn + 1))),
        { j with readings := j.readings + 1, drawn := j.drawn + 2 }, m) := rfl

/-! ### Authenticating -/

/-- A token is accepted if it is stored, valid, not refreshed and not expired when the call looks. -/
theorem alone_authenticate_eq_ok {access : String} {token : Token} :
    (w.alone (Service.authenticate access) (j, m)).1 = .ok token ↔
      m.tokens.get? access = some token ∧ token.valid = true ∧ token.next = none ∧
        token.isExpired (w.clock (j.readings + 1)) = false := by
  rw [Service.authenticate, alone_bind, alone_tokenByAccess]
  dsimp only
  cases m.tokens.get? access with
  | none => simp
  | some found =>
    simp only [alone_ite, alone_throw, alone_bind, alone_clock, alone_pure, Option.some.injEq]
    constructor
    · intro accepted
      split at accepted
      · cases accepted
      · rename_i valid
        split at accepted
        · cases accepted
        · rename_i last
          split at accepted
          · cases accepted
          · rename_i current
            obtain rfl := Except.ok.inj accepted
            exact ⟨rfl, by simpa [Token.wasInvalidated] using valid, by simpa [Token.wasRefreshed] using last,
              eq_false_of_ne_true current⟩
    · rintro ⟨rfl, valid, last, current⟩
      simp [Token.wasInvalidated, Token.wasRefreshed, valid, last, current]

end World

/-- There is a time at which a call that presents an access string is let through. -/
def Memory.Accepts (m : Memory) (access : String) : Prop :=
  ∃ (w : World) (j : Journal) (token : Token), (w.alone (Service.authenticate access) (j, m)).1 = .ok token

theorem Memory.Accepts.last {m : Memory} {access : String} (accepts : m.Accepts access) :
    ∃ token, m.tokens.get? access = some token ∧ token.next = none := by
  obtain ⟨w, j, token, accepted⟩ := accepts
  obtain ⟨found, -, last, -⟩ := (w.alone_authenticate_eq_ok j m).1 accepted
  exact ⟨token, found, last⟩

end TokenAuthority
