import TokenAuthority.Proofs.Alone.Plan
import TokenAuthority.Proofs.Interleaving.Finite

/-!
# Calls one after the other

A turn is a call that is carried out in one go, with surroundings of its own. `transcript` keeps of each turn the
store it met and the result. As long as no turn draws a string that is stored already, the tokens and their
index stay in order, and each turn comes to what is planned for it.
-/

namespace TokenAuthority

structure Turn where
  call : Call
  world : World

/-- A turn that was taken: the store it met, and what its call came to. -/
structure Taken where
  turn : Turn
  before : Memory
  result : Except Failure Yield

namespace Turn

def play (turn : Turn) (s : Service) (m : Memory) : Except Failure Yield × (Journal × Memory) :=
  turn.world.alone (s.perform turn.call) (.empty, m)

def result (turn : Turn) (s : Service) (m : Memory) : Except Failure Yield := (turn.play s m).1

def after (turn : Turn) (s : Service) (m : Memory) : Memory := (turn.play s m).2.2

/-- The turn draws no string that is stored already. -/
def Fresh (turn : Turn) (s : Service) (m : Memory) : Prop :=
  turn.world.SuppliesNew m (turn.play s m).2.1.drawn

instance (turn : Turn) (s : Service) (m : Memory) : Decidable (turn.Fresh s m) :=
  inferInstanceAs (Decidable (∀ i, i < _ → ¬_))

def plan (turn : Turn) (s : Service) (m : Memory) : Plan := turn.call.plan s turn.world m

variable {turn : Turn} {s : Service} {m : Memory} (orderly : m.Orderly)
include orderly

theorem fresh_iff : turn.Fresh s m ↔ turn.world.SuppliesNew m (turn.plan s m).drawn := by
  have foretells : (turn.plan s m).Foretells turn.world m (turn.play s m) :=
    World.foretells_perform orderly turn.call
  rw [Fresh, foretells.drawn]

theorem result_eq (fresh : turn.Fresh s m) : turn.result s m = (turn.plan s m).result :=
  ((World.foretells_perform orderly turn.call).comes ((fresh_iff orderly).1 fresh)).1

theorem after_eq (fresh : turn.Fresh s m) : turn.after s m = (turn.plan s m).after m :=
  ((World.foretells_perform orderly turn.call).comes ((fresh_iff orderly).1 fresh)).2

end Turn

namespace Service

def transcript (s : Service) : List Turn → Memory → List Taken
  | [], _ => []
  | turn :: turns, m => ⟨turn, m, turn.result s m⟩ :: s.transcript turns (turn.after s m)

def finish (s : Service) : List Turn → Memory → Memory
  | [], m => m
  | turn :: turns, m => s.finish turns (turn.after s m)

def AllFresh (s : Service) : List Turn → Memory → Prop
  | [], _ => True
  | turn :: turns, m => turn.Fresh s m ∧ s.AllFresh turns (turn.after s m)

instance decidableAllFresh (s : Service) : (turns : List Turn) → (m : Memory) → Decidable (s.AllFresh turns m)
  | [], _ => .isTrue trivial
  | turn :: turns, m =>
    have := s.decidableAllFresh turns (turn.after s m)
    inferInstanceAs (Decidable (turn.Fresh s m ∧ s.AllFresh turns (turn.after s m)))

end Service

/-! ### Two guests -/

def World.supplying (first second : String) : World :=
  ⟨fun _ => .ofSeconds 0, fun i => if i = 0 then first else second, fun _ => .failed⟩

def inn : Service :=
  ⟨Registry.empty.register ⟨"p", fun name => .done (.ok ⟨"p", name, none, []⟩)⟩, 3600, 600⟩

def guestbook : Memory :=
  let account (name : String) : Account := ⟨name, name, none, none, Table.empty.insert "p" ⟨"p", name, none, []⟩⟩
  (Memory.empty.insertAccount (account "u")).insertAccount (account "v")

/-- Both log in; one refreshes the token and logs out, the other one authorizes a client, which gets a token. -/
def guests : List Turn :=
  [⟨.issueFromProvider "p" "u", .supplying "a" "r"⟩, ⟨.issueFromProvider "p" "v", .supplying "b" "q"⟩,
    ⟨.refresh "q", .supplying "c" "o"⟩, ⟨.authorize "a" "x" none, .supplying "k" ""⟩,
    ⟨.invalidate (some "c"), .supplying "" ""⟩, ⟨.issueFromCode "k" "x", .supplying "d" ""⟩]

theorem guests_fresh : inn.AllFresh guests guestbook := by decide +kernel

end TokenAuthority
