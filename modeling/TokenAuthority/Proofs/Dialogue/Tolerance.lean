import TokenAuthority.Proofs.Dialogue.Conduct

/-!
# A profile that cannot be saved

Whether the store saves a profile or fails to makes no difference to anything that a call asks for afterwards,
nor to its result: an answer to saving can be exchanged for any other in every dialogue.
-/

namespace TokenAuthority

namespace Dialogue

variable {α β : Type}

/-- After an attempt to save a profile the program has the same dialogues, whatever the answer. -/
def Tolerant : Program Effect.Answer α → Prop
  | .done _ => True
  | .ask (.ambient _) next => ∀ answer, Tolerant (next answer)
  | .ask (.store call) next =>
    (call.kind = .saveProfile → ∀ answer other heard visits value,
      Dialogue (next answer) heard visits value → Dialogue (next other) heard visits value) ∧
    ∀ answer, Tolerant (next answer)

theorem Tolerant.bind {p : Program Effect.Answer α} {f : α → Program Effect.Answer β} (first : Tolerant p)
    (rest : ∀ a, Tolerant (f a)) : Tolerant (p.bind f) := by
  induction p with
  | done a => exact rest a
  | ask request next ih =>
    cases request with
    | ambient request => exact fun answer => ih answer (first answer)
    | store call =>
      obtain ⟨alike, tolerant⟩ := first
      refine ⟨fun saves answer other heard visits value dialogue => ?_, fun answer => ih answer (tolerant answer)⟩
      obtain ⟨_, _, _, _, a, rfl, rfl, early, late⟩ := of_bind dialogue
      exact (alike saves answer other _ _ _ early).bind late

theorem Tolerant.exchange {p : Program Effect.Answer α} {heard : List Heard} {before after : List Visit} {value : α}
    {account : String} {profile : Profile} {answer : (StoreCall.saveProfile account profile).Answer} (tolerant : Tolerant p)
    (dialogue : Dialogue p heard (before ++ ⟨.saveProfile account profile, answer⟩ :: after) value)
    (other : (StoreCall.saveProfile account profile).Answer) :
    Dialogue p heard (before ++ ⟨.saveProfile account profile, other⟩ :: after) value := by
  generalize told : before ++ _ :: after = visits at dialogue
  induction dialogue generalizing before with
  | done value => exact (List.append_ne_nil_of_right_ne_nil _ (List.cons_ne_nil _ _) told).elim
  | logs rest ih => exact .logs (ih (tolerant ()) told)
  | hears audible answer rest ih => exact .hears audible answer (ih (tolerant answer) told)
  | asks answer rest ih =>
    cases before with
    | nil =>
      cases told
      exact .asks other (tolerant.1 rfl _ other _ _ _ rest)
    | cons visit before =>
      obtain ⟨rfl, later⟩ := List.cons.inj told
      exact .asks answer (ih (tolerant.2 answer) later)

/-! ### A login by a provider -/

/-- The same of an action. -/
def Tolerates (x : Action α) : Prop := Tolerant x.run

namespace Tolerates

variable {x : Action α} {g : α → Action β}

theorem pure (a : α) : Tolerates (pure a : Action α) := trivial

theorem throw (failure : Failure) : Tolerates (throw failure : Action α) := trivial

theorem bind (first : Tolerates x) (rest : ∀ a, Tolerates (g a)) : Tolerates (x >>= g) := by
  refine Tolerant.bind (p := x.run) first fun result => ?_
  cases result with
  | ok a => exact rest a
  | error failure => trivial

theorem lift {p : Program Effect.Answer α} (tolerant : Tolerant p) : Tolerates (liftM p : Action α) :=
  Tolerant.bind tolerant fun _ => trivial

theorem log (level : Level) (message : String) : Tolerates (liftM (Action.log level message) : Action Unit) :=
  lift fun _ => trivial

theorem store {call : StoreCall} (other : call.kind ≠ .saveProfile) : Tolerates (Action.store call) :=
  ⟨fun saves => (other saves).elim, fun _ => trivial⟩

end Tolerates

theorem refreshProfile_tolerant {account : Account} {profile : Profile} :
    Tolerant (Service.refreshProfile account profile) := by
  unfold Service.refreshProfile
  split
  · trivial
  · refine fun _ => ⟨fun _ answer other heard visits value dialogue => ?_, fun answer => ?_⟩
    · have ended : heard = [] ∧ visits = [] := by
        cases answer with
        | ok saved =>
          cases dialogue
          exact ⟨rfl, rfl⟩
        | error failure =>
          cases dialogue with
          | logs rest =>
            cases rest
            exact ⟨rfl, rfl⟩
          | hears audible => cases audible
      obtain ⟨rfl, rfl⟩ := ended
      cases other with
      | ok saved => exact .done ()
      | error failure => exact .logs (.done ())
    · cases answer with
      | ok saved => trivial
      | error failure => exact fun _ => trivial

theorem newToken_tolerant {s : Service} {owner : String} : Tolerant (s.newToken owner) := fun _ _ _ => trivial

theorem mint_tolerates (token : Token) : Tolerates (Service.mint token) :=
  Tolerates.bind (Tolerates.store nofun) fun _ => Tolerates.bind (Tolerates.log _ _) fun _ => Tolerates.pure token

theorem orThrow_tolerates {failure : Failure} {a? : Option α} : Tolerates (Service.orThrow failure a?) := by
  cases a? with
  | none => exact Tolerates.throw failure
  | some a => exact Tolerates.pure a

theorem issueFromProvider_tolerates {s : Service} {provider accessToken : String} :
    Tolerates (s.issueFromProvider provider accessToken) := by
  refine Tolerates.bind (Tolerates.log _ _) fun _ => Tolerates.bind orThrow_tolerates fun found => ?_
  refine Tolerates.bind (fun _ => trivial) fun profile => Tolerates.bind (Tolerates.store nofun) fun known => ?_
  cases known with
  | none => exact Tolerates.bind (Tolerates.log _ _) fun _ => Tolerates.throw _
  | some account =>
    refine Tolerates.bind (Tolerates.lift refreshProfile_tolerant) fun _ => ?_
    exact Tolerates.bind (Tolerates.lift newToken_tolerant) fun token => mint_tolerates token

/-- An answer to saving a profile can be exchanged for any other. -/
theorem saving_exchanged {s : Service} {call : Call} {heard : List Heard} {before after : List Visit}
    {result : Except Failure Yield} {account : String} {profile : Profile}
    {answer : (StoreCall.saveProfile account profile).Answer}
    (dialogue : Dialogue (s.perform call).run heard (before ++ ⟨.saveProfile account profile, answer⟩ :: after) result)
    (other : (StoreCall.saveProfile account profile).Answer) :
    Dialogue (s.perform call).run heard (before ++ ⟨.saveProfile account profile, other⟩ :: after) result := by
  have conduct := dialogue.meets (perform_conduct s call)
  obtain ⟨provider, accessToken, rfl⟩ := conduct.permitted _ (List.mem_append_right before List.mem_cons_self)
  refine Tolerant.exchange ?_ dialogue other
  refine Tolerant.bind (p := (s.issueFromProvider provider accessToken).run) issueFromProvider_tolerates fun result => ?_
  cases result <;> trivial

end Dialogue

end TokenAuthority
