import TokenAuthority.Proofs.Database.Answers
import TokenAuthority.Proofs.Interleaving.Basic

/-!
# Programs over a store in memory and over a database

The same surroundings carry out a program over a store in memory and another one over a database. `Mirrors` relates
two programs that hear the same and come to the same as long as the database describes the store (`same_run`); in
between each may ask for what is its own, and write to the log, whenever it likes. `Couples` does so for an action
and another one that is lowered, with one law for each way of putting an action together.
-/

namespace TokenAuthority

open Database (Command Concludes Tells answer lower lowerRequest)

/-! ### Two runs in the same surroundings -/

/-- Surroundings that answer by what they have answered before. -/
abbrev Surroundings := List Heard → (request : Ambient) → request.Answer

/-- A command and the answer of the database. -/
structure Served where
  command : Command
  answer : command.Answer

namespace Surroundings

variable {α σ : Type} (surroundings : Surroundings)

/-- Answers a request and keeps the answer, unless the request is a line for the log. -/
def hear (request : Ambient) : StateM (List Heard × σ) request.Answer := fun s =>
  let answer := surroundings s.1 request
  (answer, (if request.isLog then s.1 else s.1 ++ [⟨request, answer⟩], s.2))

/-- Answers over a store in memory, whose calls are carried out at the given times, counted from 0. -/
def overMemory (times : Nat → Instant) : (request : Effect) → StateM (List Heard × Nat × Memory) request.Answer
  | .ambient request => surroundings.hear request
  | .store call => fun s =>
    let told := s.2.2.step (times s.2.1) call
    (told.1, (s.1, s.2.1 + 1, told.2))

/-- Answers over a database, whose answers are kept. -/
def overDatabase (database : (command : Command) → StateM σ command.Answer) :
    (request : Database.Effect) → StateM (List Heard × List Served × σ) request.Answer
  | .ambient request => surroundings.hear request
  | .database command => fun s =>
    let told := (database command).run s.2.2
    (told.1, (s.1, s.2.1 ++ [⟨command, told.1⟩], told.2))

/-- What a program comes to over a store in memory, after what it has heard. -/
def inMemory (times : Nat → Instant) (m : Memory) (p : Program Effect.Answer α) :
    α × List Heard × Nat × Memory :=
  (p.run (surroundings.overMemory times)).run ([], 0, m)

/-- What a program comes to over a database, after what it has heard and what it was served. -/
def onDatabase (database : (command : Command) → StateM σ command.Answer) (state : σ)
    (q : Program Database.Effect.Answer α) : α × List Heard × List Served × σ :=
  (q.run (surroundings.overDatabase database)).run ([], [], state)

end Surroundings

/-! ### Programs that mirror one another -/

/-- A string that was drawn is not one that a store knows. -/
def Heard.New (m : Memory) (heard : Heard) : Prop := ∀ text, heard = ⟨.freshText, text⟩ → ¬m.Mentions text

theorem Heard.New.unused {m : Memory} {text : String} (new : Heard.New m ⟨.freshText, text⟩) :
    m.tokens.get? text = none :=
  Option.not_isSome_iff_eq_none.1 fun known => new text rfl (.inl known)

/-- A program over a store in memory and one over a database that describes the store `m₀`, which hear the same and
come to the same. Each can write to the log and ask for what is its own whenever it likes. -/
inductive Mirrors (m₀ : Memory) {α : Type} :
    Memory → Program Effect.Answer α → Program Database.Effect.Answer α → Prop where
  | done {m : Memory} (value : α) : Mirrors m₀ m (.done value) (.done value)
  | hears {m : Memory} {request : Ambient} {next : request.Answer → Program Effect.Answer α}
      {next' : request.Answer → Program Database.Effect.Answer α}
      (rest : ∀ answer, Heard.New m₀ ⟨request, answer⟩ → Mirrors m₀ m (next answer) (next' answer)) :
      Mirrors m₀ m (.ask (.ambient request) next) (.ask (.ambient request) next')
  | logs {m : Memory} {event : Event} {next : (Ambient.log event).Answer → Program Effect.Answer α}
      {q : Program Database.Effect.Answer α} (rest : Mirrors m₀ m (next ()) q) :
      Mirrors m₀ m (.ask (.ambient (.log event)) next) q
  | logs' {m : Memory} {event : Event} {p : Program Effect.Answer α}
      {next : (Ambient.log event).Answer → Program Database.Effect.Answer α} (rest : Mirrors m₀ m p (next ())) :
      Mirrors m₀ m p (.ask (.ambient (.log event)) next)
  | visits {m : Memory} {call : StoreCall} {next : call.Answer → Program Effect.Answer α}
      {q : Program Database.Effect.Answer α}
      (rest : ∀ now, Mirrors m₀ (m.step now call).2 (next (m.step now call).1) q) :
      Mirrors m₀ m (.ask (.store call) next) q
  | commands {m : Memory} {command : Command} {p : Program Effect.Answer α}
      {next : command.Answer → Program Database.Effect.Answer α}
      (rest : ∀ answer, m₀.Describes command answer → Mirrors m₀ m p (next answer)) :
      Mirrors m₀ m p (.ask (.database command) next)

namespace Mirrors

variable {α β : Type} {m₀ m : Memory} {p : Program Effect.Answer α} {q : Program Database.Effect.Answer α}

theorem bind {f : α → Program Effect.Answer β} {g : α → Program Database.Effect.Answer β}
    (first : Mirrors m₀ m p q) (rest : ∀ m a, Mirrors m₀ m (f a) (g a)) : Mirrors m₀ m (p.bind f) (q.bind g) := by
  induction first with
  | done a => exact rest _ a
  | hears _ ih => exact .hears fun answer new => ih answer new
  | logs _ ih => exact .logs ih
  | logs' _ ih => exact .logs' ih
  | visits _ ih => exact .visits fun now => ih now
  | commands _ ih => exact .commands fun answer described => ih answer described

theorem of_concludes {post : β → Prop} {r : Program Database.Effect.Answer β} {g : β → Program Database.Effect.Answer α}
    (concludes : Concludes m₀ post r) (rest : ∀ b, post b → Mirrors m₀ m p (g b)) : Mirrors m₀ m p (r.bind g) := by
  induction r with
  | done b => exact rest b concludes
  | ask request next ih =>
    cases request with
    | ambient request => exact concludes.elim
    | database command => exact .commands fun answer described => ih answer (concludes answer described)

variable {σ : Type} {surroundings : Surroundings} {times : Nat → Instant}
  {database : (command : Command) → StateM σ command.Answer}

theorem heard_subset (p : Program Effect.Answer α) (state : List Heard × Nat × Memory) :
    state.1 ⊆ ((p.run (surroundings.overMemory times)).run state).2.1 := by
  induction p generalizing state with
  | done value => exact List.Subset.refl _
  | ask request next ih =>
    cases request with
    | ambient request =>
      refine List.Subset.trans ?_ (ih _ _)
      show state.1 ⊆ if request.isLog then state.1 else state.1 ++ _
      split
      · exact List.Subset.refl _
      · exact List.subset_append_left _ _
    | store call => exact ih _ (state.1, state.2.1 + 1, (state.2.2.step (times state.2.1) call).2)

theorem served_subset (q : Program Database.Effect.Answer α) (state : List Heard × List Served × σ) :
    state.2.1 ⊆ ((q.run (surroundings.overDatabase database)).run state).2.2.1 := by
  induction q generalizing state with
  | done value => exact List.Subset.refl _
  | ask request next ih =>
    cases request with
    | ambient request => exact ih _ ((surroundings.hear request).run state).2
    | database command =>
      refine List.Subset.trans ?_ (ih _ ((surroundings.overDatabase database (.database command)).run state).2)
      exact List.subset_append_left _ _

/-- What mirrors one another hears the same and comes to the same, if the strings that are drawn are new to the store
and the answers of the database describe it. -/
theorem same_run (mirrors : Mirrors m₀ m p q) {heard : List Heard} {count : Nat} {served : List Served} {state : σ}
    (fresh : ∀ one ∈ ((p.run (surroundings.overMemory times)).run (heard, count, m)).2.1, Heard.New m₀ one)
    (describes : ∀ one ∈ ((q.run (surroundings.overDatabase database)).run (heard, served, state)).2.2.1,
      m₀.Describes one.command one.answer) :
    ((q.run (surroundings.overDatabase database)).run (heard, served, state)).1 =
        ((p.run (surroundings.overMemory times)).run (heard, count, m)).1 ∧
      ((q.run (surroundings.overDatabase database)).run (heard, served, state)).2.1 =
        ((p.run (surroundings.overMemory times)).run (heard, count, m)).2.1 := by
  induction mirrors generalizing heard count served state with
  | done value => exact ⟨rfl, rfl⟩
  | @hears m request next next' rest ih =>
    refine ih (surroundings heard request) ?_ fresh describes
    intro text same
    have drawn : request.isLog = false := by
      cases same
      rfl
    refine fresh _ (heard_subset (next (surroundings heard request)) _ ?_) text same
    show _ ∈ if request.isLog then heard else heard ++ [⟨request, surroundings heard request⟩]
    rw [drawn]
    exact List.mem_append_right _ (List.mem_singleton.2 rfl)
  | logs rest ih => exact ih fresh describes
  | logs' rest ih => exact ih fresh describes
  | visits rest ih => exact ih _ fresh describes
  | @commands m command p next rest ih =>
    refine ih ((database command).run state).1 ?_ fresh describes
    refine describes ⟨command, ((database command).run state).1⟩ (served_subset (next _) _ ?_)
    exact List.mem_append_right _ (List.mem_singleton.2 rfl)

end Mirrors

/-! ### Actions that mirror one another -/

/-- Two actions, one of them over a store in memory and one over a database that describes `m₀`. -/
def Couples {α : Type} (m₀ m : Memory) (x y : Action α) : Prop := Mirrors m₀ m x.run (lower y.run)

namespace Couples

variable {α β : Type} {m₀ m : Memory} {x y : Action α} {f g : α → Action β}

theorem pure (a : α) : Couples m₀ m (pure a) (pure a) := .done _

theorem throw (failure : Failure) : Couples m₀ m (throw failure : Action α) (throw failure) := .done _

theorem map (h : α → β) (couples : Couples m₀ m x y) : Couples m₀ m (h <$> x) (h <$> y) := by
  refine Eq.mpr (congrArg (Mirrors m₀ m _) (Program.run_bind lowerRequest y.run _)) (Mirrors.bind couples ?_)
  intro m result
  cases result with
  | ok a => exact .done _
  | error failure => exact .done _

theorem log_bind {level level' : Level} {message message' : String} {f g : Unit → Action β}
    (rest : Couples m₀ m (f ()) (g ())) :
    Couples m₀ m ((liftM (Action.log level message) : Action Unit) >>= f)
      ((liftM (Action.log level' message') : Action Unit) >>= g) :=
  .logs (.logs' rest)

theorem clock_bind {f g : Instant → Action β} (rest : ∀ now, Couples m₀ m (f now) (g now)) :
    Couples m₀ m ((liftM Action.clock : Action Instant) >>= f) ((liftM Action.clock : Action Instant) >>= g) :=
  .hears fun now _ => rest now

theorem orThrow_bind {failure : Failure} {a? : Option α} (rest : ∀ a, a? = some a → Couples m₀ m (f a) (g a)) :
    Couples m₀ m (Service.orThrow failure a? >>= f) (Service.orThrow failure a? >>= g) := by
  cases a? with
  | none => exact throw failure
  | some a => exact rest a rfl

theorem store_bind {call : StoreCall} {f g : call.Value → Action β}
    (tells : ∀ now, ∃ value, (m.step now call).1 = .ok value ∧ Tells m₀ call value)
    (rest : ∀ now value other, (m.step now call).1 = .ok value → call.Alike value other →
      Couples m₀ (m.step now call).2 (f value) (g other)) :
    Couples m₀ m (Action.store call >>= f) (Action.store call >>= g) := by
  refine .visits fun now => ?_
  obtain ⟨value, carried, tells⟩ := tells now
  have rest := rest now value
  refine Mirrors.of_concludes (r := (answer call).run) tells ?_
  rintro _ ⟨other, rfl, alike⟩
  have rest := rest other carried alike
  rw [carried]
  exact rest

/-- The same of a store call that changes nothing. -/
theorem look_bind {call : StoreCall} {f g : call.Value → Action β} (stays : ∀ now, (m.step now call).2 = m)
    (tells : ∀ now, ∃ value, (m.step now call).1 = .ok value ∧ Tells m₀ call value)
    (rest : ∀ value other, call.Alike value other → Couples m₀ m (f value) (g other)) :
    Couples m₀ m (Action.store call >>= f) (Action.store call >>= g) := by
  refine store_bind tells fun now value other _ alike => ?_
  rw [stays]
  exact rest value other alike

end Couples

end TokenAuthority
