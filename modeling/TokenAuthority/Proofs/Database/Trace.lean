import TokenAuthority.Database.Store

/-!
# What programs over a database ask and hear

A trace of a program is all that it asks for, in order, and the answers that carry it to its value. `Every` is a
condition on all traces, by recursion on the program.
-/

namespace TokenAuthority.Database

structure Step where
  request : Effect
  answer : request.Answer

/-- Answers carry a program to a value. -/
inductive Trace {α : Type} : Program Effect.Answer α → List Step → α → Prop where
  | done (value : α) : Trace (.done value) [] value
  | asks {request : Effect} {next : request.Answer → Program Effect.Answer α} {steps : List Step} {value : α}
      (answer : request.Answer) (rest : Trace (next answer) steps value) :
      Trace (.ask request next) (⟨request, answer⟩ :: steps) value

/-- In every trace of a program the steps and the value meet a condition. -/
def Every {α : Type} : (List Step → α → Prop) → Program Effect.Answer α → Prop
  | post, .done value => post [] value
  | post, .ask request next =>
    ∀ answer, Every (fun steps value => post (⟨request, answer⟩ :: steps) value) (next answer)

variable {α β : Type} {p : Program Effect.Answer α} {steps : List Step} {value : α}

theorem Trace.meets {post : List Step → α → Prop} (trace : Trace p steps value) (every : Every post p) :
    post steps value := by
  induction trace generalizing post with
  | done value => exact every
  | asks answer rest ih => exact ih (every answer)

theorem Every.mono {post post' : List Step → α → Prop} (every : Every post p)
    (weaker : ∀ steps value, post steps value → post' steps value) : Every post' p := by
  induction p generalizing post post' with
  | done value => exact weaker [] value every
  | ask request next ih => exact fun answer => ih answer (every answer) fun steps value => weaker (_ :: steps) value

theorem Every.bind {f : α → Program Effect.Answer β} {post : List Step → β → Prop}
    (first : Every (fun steps a => Every (fun others b => post (steps ++ others) b) (f a)) p) :
    Every post (p.bind f) := by
  induction p generalizing post with
  | done a => exact first
  | ask request next ih => exact fun answer => ih answer (first answer)

/-- A trace of two programs is one of the first and then one of the second. -/
theorem trace_bind {f : α → Program Effect.Answer β} {result : β} :
    Trace (p.bind f) steps result ↔
      ∃ first rest a, steps = first ++ rest ∧ Trace p first a ∧ Trace (f a) rest result := by
  constructor
  · intro trace
    induction p generalizing steps with
    | done a => exact ⟨[], steps, a, rfl, .done a, trace⟩
    | ask request next ih =>
      cases trace with
      | asks answer trace =>
        obtain ⟨first, rest, a, rfl, early, late⟩ := ih answer trace
        exact ⟨_ :: first, rest, a, rfl, .asks answer early, late⟩
  · rintro ⟨first, rest, a, rfl, early, late⟩
    induction early with
    | done a => exact late
    | asks answer early ih => exact .asks answer (ih late)

/-! ### Runs -/

variable {σ : Type} (answer : (request : Effect) → StateM σ request.Answer)

/-- What is asked and answered in a run. -/
def recorded : Program Effect.Answer α → σ → List Step
  | .done _, _ => []
  | .ask request next, state =>
    let told := (answer request).run state
    ⟨request, told.1⟩ :: recorded (next told.1) told.2

/-- Whoever answers, and in whatever state, the program is carried along one of its traces. -/
theorem trace_recorded (p : Program Effect.Answer α) (state : σ) :
    Trace p (recorded answer p state) ((p.run answer).run state).1 := by
  induction p generalizing state with
  | done value => exact .done value
  | ask request next ih => exact .asks _ (ih _ _)

end TokenAuthority.Database
