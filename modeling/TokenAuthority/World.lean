import TokenAuthority.Store.Interference

/-!
Pure surroundings for programs: every reading of the clock, every random string and every answer of
another server is settled beforehand, and a journal keeps what happened.
-/

namespace TokenAuthority

/-- How the surroundings answer. Readings of the clock and random strings are counted from 0. -/
structure World where
  clock : Nat → Instant
  text : Nat → String
  exchange : Exchange → Exchange.Outcome

/-- What has happened so far; of events and exchanges the last one comes first. -/
structure Journal where
  readings : Nat
  drawn : Nat
  events : List Event
  exchanges : List Exchange

namespace Journal

def empty : Journal := ⟨0, 0, [], []⟩

def cleared (j : Journal) : Journal := { j with events := [], exchanges := [] }

end Journal

namespace World

def readClock (w : World) : StateM Journal Instant :=
  modifyGet fun j => (w.clock j.readings, { j with readings := j.readings + 1 })

def answerExchange (w : World) (e : Exchange) : StateM Journal (Exchange.Answer e) :=
  modifyGet fun j => (w.exchange e, { j with exchanges := e :: j.exchanges })

def answerAmbient (w : World) : (request : Ambient) → StateM Journal request.Answer
  | .clock => w.readClock
  | .freshText => modifyGet fun j => (w.text j.drawn, { j with drawn := j.drawn + 1 })
  | .log event => modify fun j => { j with events := event :: j.events }
  | .identify provider accessToken =>
    (provider.identify accessToken).run w.answerExchange

def journaled {σ α : Type} (act : StateM Journal α) : StateM (Journal × σ) α :=
  fun s => let (a, journal) := act.run s.1; (a, (journal, s.2))

def answer (w : World) (interference : StoreCall.Kind → Interference) :
    (request : Effect) → StateM (Journal × Memory) request.Answer
  | .ambient request => journaled (w.answerAmbient request)
  | .store call => do
    let now ← journaled w.readClock
    modifyGet fun s =>
      let (answer, memory) := s.2.stepUnder (interference call.kind) now call
      (answer, (s.1, memory))

end World

end TokenAuthority
