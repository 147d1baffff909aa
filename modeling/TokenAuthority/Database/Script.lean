import TokenAuthority.Database.Store
import TokenAuthority.World

/-!
A database whose replies are settled beforehand, and the commands that it was given.
-/

namespace TokenAuthority.Database

inductive Transaction where
  | begin
  | commit
  | rollBack
deriving DecidableEq

def Transaction.name : Transaction → String
  | begin => "BEGIN"
  | commit => "COMMIT"
  | rollBack => "ROLLBACK"

def Command.text : Command → String
  | execute query => query.text
  | beginTransaction => Transaction.begin.name
  | commit => Transaction.commit.name
  | rollBack | abandon => Transaction.rollBack.name

def Command.parameters : Command → List Value
  | execute query => query.parameters
  | _ => []

inductive Line where
  | reply (reply : Reply)
  | failure (reason : String)
  /-- The next command fails if it is the given one on transactions or a statement. -/
  | refusal (transaction : Transaction) (reason : String)

/-- The lines that are left, and the commands so far, the last one first. -/
structure Script where
  lines : List Line
  given : List Command

namespace Script

/-- Replies to a statement; once the script is over, with nothing. -/
def statement (s : Script) : Except Error Reply × Script :=
  match s.lines with
  | [] => (.ok ⟨0, []⟩, s)
  | .reply reply :: rest => (.ok reply, { s with lines := rest })
  | .failure reason :: rest | .refusal _ reason :: rest =>
    (.error (.server reason), { s with lines := rest })

/-- Carries out a command on transactions, which fails only where the script says so. -/
def transaction (t : Transaction) (s : Script) : Except Error Unit × Script :=
  match s.lines with
  | .refusal u reason :: rest =>
    if t = u then (.error (.server reason), { s with lines := rest }) else (.ok (), s)
  | _ => (.ok (), s)

def answer (command : Command) (s : Script) : command.Answer × Script :=
  let s := { s with given := command :: s.given }
  match command with
  | .execute _ => s.statement
  | .beginTransaction => s.transaction .begin
  | .commit => s.transaction .commit
  | .rollBack => s.transaction .rollBack
  | .abandon => ((), (s.transaction .rollBack).2)

end Script

def answerScripted (w : World) :
    (request : Effect) → StateM (Journal × Script) request.Answer
  | .ambient request => World.journaled (w.answerAmbient request)
  | .database command => modifyGet fun s =>
    let (answer, script) := s.2.answer command
    (answer, (s.1, script))

end TokenAuthority.Database
