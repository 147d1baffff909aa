import TokenAuthority.Service.Call
import TokenAuthority.Proofs.Store.Chain

/-!
# Calls that overlap

Any number of calls of one service over one store. At each instant a call is started or one that was
started makes its next request and gets the answer; a request of the store is one step. Which call
goes on, what the clock shows, what strings are drawn and what providers answer is left open. A call
is known by the instant at which it starts.
-/

namespace TokenAuthority

/-- What the surroundings have ready at an instant. -/
structure Supply where
  now : Instant
  text : String
  profile : Except Failure Profile

/-- The answer to a request other than of the store. -/
def Supply.answer (supply : Supply) : (request : Ambient) → request.Answer
  | .clock => supply.now
  | .freshText => supply.text
  | .log _ => ()
  | .identify _ _ => supply.profile

/-- The answer to a request and the store after it. -/
def Memory.answer (m : Memory) (supply : Supply) : (request : Effect) → request.Answer × Memory
  | .ambient request => (supply.answer request, m)
  | .store call => m.step supply.now call

/-- What happens at an instant: a call starts, or one that started earlier goes on. -/
inductive Move where
  | start (call : Call)
  | resume (id : Nat) (supply : Supply)

/-- A call that started, and what is left of it. -/
structure Running where
  call : Call
  rest : Program Effect.Answer (Except Failure Yield)

/-- The store and the calls that started, by their instants. -/
structure Scene where
  memory : Memory
  running : Nat → Option Running

/-- The scene with what is left of one call replaced. -/
def Scene.put (scene : Scene) (id : Nat) (call : Running) : Scene :=
  ⟨scene.memory, fun other => if other = id then some call else scene.running other⟩

/-- The scene after the move of an instant. A call that is over, or never started, cannot go on. -/
def Scene.after (scene : Scene) (service : Service) (n : Nat) : Move → Scene
  | .start call => scene.put n ⟨call, (service.perform call).run⟩
  | .resume id supply =>
    match scene.running id with
    | some ⟨call, .ask request next⟩ =>
      let (answer, memory) := scene.memory.answer supply request
      { scene.put id ⟨call, next answer⟩ with memory }
    | _ => scene

@[simp] theorem Scene.put_running_self (scene : Scene) (id : Nat) (call : Running) :
    (scene.put id call).running id = some call := if_pos rfl

theorem Scene.put_running_other (scene : Scene) {id other : Nat} (call : Running) (different : other ≠ id) :
    (scene.put id call).running other = scene.running other := if_neg different

/-- The strings of a request. -/
def Call.texts : Call → List String
  | .issueFromPassword email password => [email, password]
  | .issueFromProvider provider accessToken => [provider, accessToken]
  | .refresh refreshToken => [refreshToken]
  | .authenticate access => [access]
  | .invalidate access => access.toList
  | .authorize access client scope => access :: client :: scope.toList
  | .issueFromCode code client => [code, client]

/-- Whether the store knows a string as an access string, a refresh string or an authorization code. -/
def Memory.Mentions (m : Memory) (text : String) : Prop :=
  m.tokens.contains text ∨ m.refreshIndex.contains text ∨ m.grants.contains text

/-- A service, the store at first, and what happens at each instant. -/
structure Interleaving where
  service : Service
  initial : Memory
  move : Nat → Move

namespace Interleaving

variable (run : Interleaving)

/-- The scene at an instant, before its move. -/
def scene : Nat → Scene
  | 0 => ⟨run.initial, fun _ => none⟩
  | n + 1 => (scene n).after run.service n (run.move n)

/-- The store at an instant. -/
def memory (n : Nat) : Memory := (run.scene n).memory

/-- At instant `n` call `id` makes a request and gets the answer. -/
def Does (n id : Nat) (request : Effect) (answer : request.Answer) : Prop :=
  ∃ call next supply, run.move n = .resume id supply ∧
    (run.scene n).running id = some ⟨call, .ask request next⟩ ∧
    answer = ((run.memory n).answer supply request).1

/-- At instant `n` call `id` makes a request. -/
def Acts (n id : Nat) : Prop := ∃ request answer, run.Does n id request answer

/-- At instant `n` call `id` makes a store call. -/
def Visits (n id : Nat) : Prop := ∃ call answer, run.Does n id (.store call) answer

/-- From instant `n` on and before `m`, call `id` makes no request. -/
def Rests (id n m : Nat) : Prop := ∀ k, n ≤ k → k < m → ¬run.Acts k id

/-- At instant `n` call `id` has come to its result. -/
def Returned (n id : Nat) (result : Except Failure Yield) : Prop :=
  ∃ call, (run.scene n).running id = some ⟨call, .done result⟩

/-- A string occurs in the store of instant `n`, was drawn before, or is part of an earlier request. -/
def Known (n : Nat) (text : String) : Prop :=
  (run.memory n).Mentions text ∨ (∃ k < n, ∃ id, run.Does k id (.ambient .freshText) text) ∨
    ∃ k < n, ∃ call, run.move k = .start call ∧ text ∈ call.texts

/-- No string is drawn that is known already. -/
def Fresh : Prop := ∀ n id text, run.Does n id (.ambient .freshText) text → ¬run.Known n text

/-- There are no tokens at first. -/
def StartsEmpty : Prop := run.initial.tokens = .empty ∧ run.initial.refreshIndex = .empty

variable {run} {n m id other : Nat} {request : Effect} {answer : request.Answer}

/-! ### One step -/

theorem after_of_ask {scene : Scene} {service : Service} {supply : Supply} {call : Call}
    {next : request.Answer → Program Effect.Answer (Except Failure Yield)}
    (there : scene.running id = some ⟨call, .ask request next⟩) :
    scene.after service n (.resume id supply) =
      { scene.put id ⟨call, next (scene.memory.answer supply request).1⟩ with
        memory := (scene.memory.answer supply request).2 } := by
  simp only [Scene.after, there]

/-- At each instant a call starts, or a call makes a request, or nothing happens. -/
theorem scene_succ (run : Interleaving) (n : Nat) :
    (∃ call, run.move n = .start call ∧
      run.scene (n + 1) = (run.scene n).put n ⟨call, (run.service.perform call).run⟩) ∨
    (∃ id request answer, run.Does n id request answer) ∨ run.scene (n + 1) = run.scene n := by
  rw [scene]
  cases move : run.move n with
  | start call => exact .inl ⟨call, rfl, rfl⟩
  | resume id supply =>
    simp only [Scene.after]
    split
    · rename_i call request next there
      exact .inr (.inl ⟨id, request, _, call, next, supply, move, there, rfl⟩)
    · exact .inr (.inr rfl)

theorem Does.succ (does : run.Does n id request answer) : ∃ call next supply,
    (run.scene n).running id = some ⟨call, .ask request next⟩ ∧
    answer = ((run.memory n).answer supply request).1 ∧
    run.scene (n + 1) = { (run.scene n).put id ⟨call, next answer⟩ with
      memory := ((run.memory n).answer supply request).2 } := by
  obtain ⟨call, next, supply, move, there, rfl⟩ := does
  refine ⟨call, next, supply, there, rfl, ?_⟩
  rw [scene, move, after_of_ask there]
  rfl

theorem Does.unique {request' : Effect} {answer' : request'.Answer} (does : run.Does n id request answer)
    (again : run.Does n other request' answer') : id = other ∧ request = request' ∧ HEq answer answer' := by
  obtain ⟨call, next, supply, move, there, rfl⟩ := does
  obtain ⟨call', next', supply', move', there', rfl⟩ := again
  rw [move] at move'
  obtain ⟨rfl, rfl⟩ := Move.resume.inj move'
  rw [there] at there'
  obtain ⟨rfl, same⟩ := Running.mk.inj (Option.some.inj there')
  obtain ⟨rfl, -⟩ := Program.ask.inj same
  exact ⟨rfl, rfl, .rfl⟩

theorem Does.step {call : StoreCall} {answer : call.Answer} (does : run.Does n id (.store call) answer) :
    ∃ now, answer = ((run.memory n).step now call).1 ∧
      run.memory (n + 1) = ((run.memory n).step now call).2 := by
  obtain ⟨_, _, supply, _, answered, after⟩ := does.succ
  exact ⟨supply.now, answered, by rw [memory, after]; rfl⟩

theorem memory_succ (run : Interleaving) (n : Nat) : run.memory (n + 1) = run.memory n ∨
    ∃ id call answer, run.Does n id (.store call) answer := by
  rcases run.scene_succ n with ⟨call, -, same⟩ | ⟨id, request, answer, does⟩ | same
  · exact .inl (by rw [memory, same]; rfl)
  · cases request with
    | ambient request =>
      obtain ⟨_, _, supply, _, _, after⟩ := does.succ
      exact .inl (by rw [memory, after]; rfl)
    | store call => exact .inr ⟨id, call, answer, does⟩
  · exact .inl (by rw [memory, same]; rfl)

theorem running_succ_of_rests (resting : ¬run.Acts n id) (started : id ≠ n) :
    (run.scene (n + 1)).running id = (run.scene n).running id := by
  rcases run.scene_succ n with ⟨call, -, same⟩ | ⟨other, request, answer, does⟩ | same
  · rw [same, Scene.put_running_other _ _ started]
  · obtain ⟨call, next, supply, -, -, after⟩ := does.succ
    have different : id ≠ other := by
      rintro rfl
      exact resting ⟨request, answer, does⟩
    rw [after]
    exact Scene.put_running_other _ _ different
  · rw [same]

theorem running_of_start {call : Call} (starts : run.move id = .start call) :
    (run.scene (id + 1)).running id = some ⟨call, (run.service.perform call).run⟩ := by
  rw [scene, starts]
  exact Scene.put_running_self ..

theorem start_of_running {call : Running} (there : (run.scene n).running id = some call) :
    run.move id = .start call.call ∧ id < n := by
  induction n generalizing call with
  | zero => cases there
  | succ n ih =>
    rcases run.scene_succ n with ⟨started, starts, same⟩ | ⟨other, request, answer, does⟩ | same
    · rw [same] at there
      by_cases self : id = n
      · subst self
        rw [Scene.put_running_self] at there
        obtain rfl := Option.some.inj there
        exact ⟨starts, by omega⟩
      · rw [Scene.put_running_other _ _ self] at there
        exact ⟨(ih there).1, Nat.lt_succ_of_lt (ih there).2⟩
    · obtain ⟨before, next, supply, found, _, after⟩ := does.succ
      rw [after] at there
      by_cases self : id = other
      · subst self
        rw [show _ = _ from Scene.put_running_self ..] at there
        obtain rfl := Option.some.inj there
        exact ⟨(ih found).1, Nat.lt_succ_of_lt (ih found).2⟩
      · replace there := (Scene.put_running_other _ _ self).symm.trans there
        exact ⟨(ih there).1, Nat.lt_succ_of_lt (ih there).2⟩
    · rw [same] at there
      exact ⟨(ih there).1, Nat.lt_succ_of_lt (ih there).2⟩

theorem Does.started (does : run.Does n id request answer) :
    (∃ call, run.move id = .start call) ∧ id < n := by
  obtain ⟨call, next, supply, -, there, -⟩ := does
  exact ⟨⟨call, (start_of_running there).1⟩, (start_of_running there).2⟩

/-! ### Many steps -/

theorem memory_succ_grows (run : Interleaving) (n : Nat) : (run.memory n).Grows (run.memory (n + 1)) := by
  rcases run.memory_succ n with same | ⟨id, call, answer, does⟩
  · rw [same]
    exact Memory.Grows.refl _
  · obtain ⟨now, -, after⟩ := does.step
    rw [after]
    exact Memory.step_grows _ now call

theorem memory_grows (run : Interleaving) (later : n ≤ m) : (run.memory n).Grows (run.memory m) := by
  induction later with
  | refl => exact Memory.Grows.refl _
  | step _ ih => exact ih.trans (memory_succ_grows run _)

end Interleaving

end TokenAuthority
