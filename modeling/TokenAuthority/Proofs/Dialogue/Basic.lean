import TokenAuthority.Service.Call

/-!
# Dialogues with a store

What a program asks of a store and what it is told. Nothing is assumed of the answers: the store can fail,
contradict itself or be changed by others at any time, and the clock, the strings that are drawn and the
identity providers can be anything. `Every` is a condition on all dialogues of a program, by recursion on
the program, with one law for each way of putting a program together.
-/

namespace TokenAuthority

/-- A store call and the answer to it. -/
structure Visit where
  call : StoreCall
  answer : call.Answer

/-- A request other than of the store and the answer to it. -/
structure Heard where
  request : Ambient
  answer : request.Answer

/-- Whether a request only writes to the log, which answers nothing. -/
def Ambient.isLog : Ambient → Bool
  | .log _ => true
  | _ => false

/-- A program comes to a value by what it hears and how the store answers. Lines in the log are left out. -/
inductive Dialogue {α : Type} : Program Effect.Answer α → List Heard → List Visit → α → Prop where
  | done (value : α) : Dialogue (.done value) [] [] value
  | logs {event : Event} {next : (Ambient.log event).Answer → Program Effect.Answer α} {heard : List Heard}
      {visits : List Visit} {value : α} (rest : Dialogue (next ()) heard visits value) :
      Dialogue (.ask (.ambient (.log event)) next) heard visits value
  | hears {request : Ambient} {next : request.Answer → Program Effect.Answer α} {heard : List Heard}
      {visits : List Visit} {value : α} (audible : request.isLog = false) (answer : request.Answer)
      (rest : Dialogue (next answer) heard visits value) :
      Dialogue (.ask (.ambient request) next) (⟨request, answer⟩ :: heard) visits value
  | asks {call : StoreCall} {next : call.Answer → Program Effect.Answer α} {heard : List Heard}
      {visits : List Visit} {value : α} (answer : call.Answer) (rest : Dialogue (next answer) heard visits value) :
      Dialogue (.ask (.store call) next) heard (⟨call, answer⟩ :: visits) value

namespace Dialogue

variable {α β : Type} {p : Program Effect.Answer α} {f : α → Program Effect.Answer β} {heard more : List Heard}
  {visits others : List Visit}

/-- In every dialogue of a program the store calls and the value meet a condition. -/
def Every : (List Visit → α → Prop) → Program Effect.Answer α → Prop
  | post, .done value => post [] value
  | post, .ask (.ambient _) next => ∀ answer, Every post (next answer)
  | post, .ask (.store call) next =>
    ∀ answer, Every (fun visits value => post (⟨call, answer⟩ :: visits) value) (next answer)

/-- The condition on the dialogues of an action. -/
def Always (post : List Visit → Except Failure α → Prop) (action : Action α) : Prop := Every post action.run

/-! ### Programs -/

theorem meets {post : List Visit → α → Prop} {value : α} (dialogue : Dialogue p heard visits value)
    (every : Every post p) : post visits value := by
  induction dialogue generalizing post with
  | done value => exact every
  | logs rest ih => exact ih (every ())
  | hears audible answer rest ih => exact ih (every answer)
  | asks answer rest ih => exact ih (every answer)

theorem Every.mono {post post' : List Visit → α → Prop} (every : Every post p)
    (weaker : ∀ visits value, post visits value → post' visits value) : Every post' p := by
  induction p generalizing post post' with
  | done value => exact weaker [] value every
  | ask request next ih =>
    cases request with
    | ambient request => exact fun answer => ih answer (every answer) weaker
    | store call => exact fun answer => ih answer (every answer) fun visits value => weaker (_ :: visits) value

theorem Every.bind {post : List Visit → β → Prop}
    (first : Every (fun visits a => Every (fun others b => post (visits ++ others) b) (f a)) p) :
    Every post (p.bind f) := by
  induction p generalizing post with
  | done a => exact first
  | ask request next ih =>
    cases request with
    | ambient request => exact fun answer => ih answer (first answer)
    | store call => exact fun answer => ih answer (first answer)

/-- What a program hears and how the store answers decides its value. -/
theorem unique {a b : α} (dialogue : Dialogue p heard visits a) (other : Dialogue p heard visits b) : a = b := by
  induction dialogue with
  | done a =>
    cases other
    rfl
  | logs rest ih =>
    cases other with
    | logs rest' => exact ih rest'
    | hears audible => cases audible
  | hears audible answer rest ih =>
    cases other with
    | logs rest' => cases audible
    | hears audible' answer rest' => exact ih rest'
  | asks answer rest ih =>
    cases other with
    | asks answer rest' => exact ih rest'

/-- A dialogue of two programs is one of the first and then one of the second. -/
theorem bind {a : α} {b : β} (first : Dialogue p heard visits a) (second : Dialogue (f a) more others b) :
    Dialogue (p.bind f) (heard ++ more) (visits ++ others) b := by
  induction first with
  | done a => exact second
  | logs rest ih => exact .logs (ih second)
  | hears audible answer rest ih => exact .hears audible answer (ih second)
  | asks answer rest ih => exact .asks answer (ih second)

theorem of_bind {b : β} (dialogue : Dialogue (p.bind f) heard visits b) :
    ∃ heard₁ heard₂ visits₁ visits₂ a, heard = heard₁ ++ heard₂ ∧ visits = visits₁ ++ visits₂ ∧
      Dialogue p heard₁ visits₁ a ∧ Dialogue (f a) heard₂ visits₂ b := by
  induction p generalizing heard visits with
  | done a => exact ⟨[], heard, [], visits, a, rfl, rfl, .done a, dialogue⟩
  | ask request next ih =>
    cases dialogue with
    | logs rest =>
      obtain ⟨heard₁, heard₂, visits₁, visits₂, a, rfl, rfl, first, second⟩ := ih _ rest
      exact ⟨heard₁, heard₂, visits₁, visits₂, a, rfl, rfl, .logs first, second⟩
    | hears audible answer rest =>
      obtain ⟨heard₁, heard₂, visits₁, visits₂, a, rfl, rfl, first, second⟩ := ih _ rest
      exact ⟨_ :: heard₁, heard₂, visits₁, visits₂, a, rfl, rfl, .hears audible answer first, second⟩
    | asks answer rest =>
      obtain ⟨heard₁, heard₂, visits₁, visits₂, a, rfl, rfl, first, second⟩ := ih _ rest
      exact ⟨heard₁, heard₂, _ :: visits₁, visits₂, a, rfl, rfl, .asks answer first, second⟩

/-- How the state of whoever answers moves on along the calls of the store. -/
inductive Trail {σ : Type} (answer : (request : Effect) → StateM σ request.Answer) : σ → List Visit → σ → Prop where
  | stays (state : σ) : Trail answer state [] state
  | moves {state last : σ} {visits : List Visit} (request : Ambient)
      (rest : Trail answer ((answer (.ambient request)).run state).2 visits last) : Trail answer state visits last
  | calls {state last : σ} {visits : List Visit} (call : StoreCall)
      (rest : Trail answer ((answer (.store call)).run state).2 visits last) :
      Trail answer state (⟨call, ((answer (.store call)).run state).1⟩ :: visits) last

/-- Whoever answers, and in whatever state, the program is carried through one of its dialogues. -/
theorem of_run {σ : Type} (answer : (request : Effect) → StateM σ request.Answer) (p : Program Effect.Answer α)
    (state : σ) : ∃ heard visits, Dialogue p heard visits ((p.run answer).run state).1 ∧
      Trail answer state visits ((p.run answer).run state).2 := by
  induction p generalizing state with
  | done value => exact ⟨[], [], .done value, .stays state⟩
  | ask request next ih =>
    obtain ⟨heard, visits, rest, trail⟩ := ih ((answer request).run state).1 ((answer request).run state).2
    cases request with
    | store call => exact ⟨heard, _, .asks _ rest, .calls call trail⟩
    | ambient request =>
      cases request with
      | log event => exact ⟨heard, visits, .logs rest, .moves _ trail⟩
      | clock => exact ⟨_, visits, .hears rfl _ rest, .moves _ trail⟩
      | freshText => exact ⟨_, visits, .hears rfl _ rest, .moves _ trail⟩
      | identify provider accessToken => exact ⟨_, visits, .hears rfl _ rest, .moves _ trail⟩

/-! ### Actions -/

variable {x : Action α} {g : α → Action β} {post : List Visit → Except Failure β → Prop}

theorem Always.pure {b : β} (holds : post [] (.ok b)) : Always post (pure b) := holds

theorem Always.throw {failure : Failure} (holds : post [] (.error failure)) : Always post (throw failure) := holds

theorem Always.mono {post post' : List Visit → Except Failure α → Prop} (always : Always post x)
    (weaker : ∀ visits result, post visits result → post' visits result) : Always post' x :=
  Every.mono always weaker

theorem Always.bind
    (first : Always (fun visits result =>
      match result with
      | .ok a => Always (fun others last => post (visits ++ others) last) (g a)
      | .error failure => post visits (.error failure)) x) : Always post (x >>= g) := by
  refine Every.bind (p := x.run) (Every.mono first fun visits result rest => ?_)
  cases result with
  | ok a => exact rest
  | error failure => exact (congrArg (post · (.error failure)) (List.append_nil visits)).mpr rest

theorem Always.map {h : α → β} (first : Always (fun visits result => post visits (h <$> result)) x) :
    Always post (h <$> x) := by
  refine Every.bind (p := x.run) (Every.mono first fun visits result rest => ?_)
  cases result with
  | ok a => exact (congrArg (post · (.ok (h a))) (List.append_nil visits)).mpr rest
  | error failure => exact (congrArg (post · (.error failure)) (List.append_nil visits)).mpr rest

theorem Always.lift_bind {p : Program Effect.Answer α}
    (first : Every (fun visits a => Always (fun others last => post (visits ++ others) last) (g a)) p) :
    Always post ((liftM p : Action α) >>= g) := by
  refine Always.bind (Every.bind (first.mono fun visits a rest => ?_))
  show Always (fun others last => post (visits ++ [] ++ others) last) (g a)
  rw [List.append_nil]
  exact rest

theorem Always.log_bind {level : Level} {message : String} {g : Unit → Action β} (rest : Always post (g ())) :
    Always post ((liftM (Action.log level message) : Action Unit) >>= g) :=
  Always.lift_bind fun _ => rest

theorem Always.clock_bind {g : Instant → Action β} (rest : ∀ now, Always post (g now)) :
    Always post ((liftM Action.clock : Action Instant) >>= g) :=
  Always.lift_bind fun now => rest now

theorem Always.store_bind {call : StoreCall} {g : call.Value → Action β}
    (fails : ∀ failure, post [⟨call, .error failure⟩] (.error failure))
    (rest : ∀ value, Always (fun visits result => post (⟨call, .ok value⟩ :: visits) result) (g value)) :
    Always post (Action.store call >>= g) := by
  refine Always.bind fun answer => ?_
  cases answer with
  | ok value => exact rest value
  | error failure => exact fails failure

theorem Always.orThrow_bind {failure : Failure} {a? : Option α} (absent : a? = none → post [] (.error failure))
    (rest : ∀ a, a? = some a → Always post (g a)) : Always post (Service.orThrow failure a? >>= g) := by
  cases a? with
  | none => exact absent rfl
  | some a => exact rest a rfl

end Dialogue

end TokenAuthority
