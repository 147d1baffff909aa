/-!
A program is either done or asks its surroundings for something and goes on with the answer. What
the surroundings are is left open: `Program.run` runs a program in any monad that can answer, be it
a real machine, a pure store or another kind of program.
-/

namespace TokenAuthority

/-- A program whose requests have answers of the types `Answer`. -/
inductive Program {Request : Type} (Answer : Request → Type) (α : Type) where
  | done (value : α)
  | ask (request : Request) (next : Answer request → Program Answer α)

namespace Program

variable {Request : Type} {Answer : Request → Type} {α β γ : Type}

def bind : Program Answer α → (α → Program Answer β) → Program Answer β
  | done a, f => f a
  | ask request next, f => ask request fun answer => (next answer).bind f

def request (r : Request) : Program Answer (Answer r) := ask r done

instance : Monad (Program Answer) where
  pure := done
  bind := bind

@[simp] theorem pure_eq (a : α) : (pure a : Program Answer α) = done a := rfl

@[simp] theorem bind_eq (p : Program Answer α) (f : α → Program Answer β) :
    (p >>= f) = p.bind f := rfl

@[simp] theorem done_bind (a : α) (f : α → Program Answer β) : (done a).bind f = f a := rfl

@[simp] theorem ask_bind (r : Request) (next : Answer r → Program Answer α)
    (f : α → Program Answer β) : (ask r next).bind f = ask r fun a => (next a).bind f := rfl

theorem bind_done (p : Program Answer α) : p.bind done = p := by
  induction p with
  | done a => rfl
  | ask r next ih => simp [ih]

theorem bind_assoc (p : Program Answer α) (f : α → Program Answer β)
    (g : β → Program Answer γ) : (p.bind f).bind g = p.bind fun a => (f a).bind g := by
  induction p with
  | done a => rfl
  | ask r next ih => simp [ih]

instance : LawfulMonad (Program Answer) :=
  LawfulMonad.mk' _ (fun p => bind_done p) (fun _ _ => rfl) (fun p f g => bind_assoc p f g)

def run {m : Type → Type} [Monad m] (answer : (r : Request) → m (Answer r)) :
    Program Answer α → m α
  | done a => pure a
  | ask r next => do run answer (next (← answer r))

@[simp] theorem run_done {m : Type → Type} [Monad m] (answer : (r : Request) → m (Answer r))
    (a : α) : run answer (done a) = pure a := rfl

@[simp] theorem run_ask {m : Type → Type} [Monad m] (answer : (r : Request) → m (Answer r))
    (r : Request) (next : Answer r → Program Answer α) :
    run answer (ask r next) = answer r >>= fun a => run answer (next a) := rfl

theorem run_bind {m : Type → Type} [Monad m] [LawfulMonad m]
    (answer : (r : Request) → m (Answer r)) (p : Program Answer α)
    (f : α → Program Answer β) :
    run answer (p.bind f) = run answer p >>= fun a => run answer (f a) := by
  induction p with
  | done a => simp
  | ask r next ih => simp [ih]

end Program

end TokenAuthority
