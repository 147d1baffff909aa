import TokenAuthority.Database.Script
import TokenAuthority.Proofs.Database.Sessions

/-!
# Chaining a token is all or nothing

Chaining takes one of six courses: the transaction is not opened, or the successor is not inserted for an error or for a
conflict, or the token is not linked for an error or because it cannot be any more, or the transaction is committed.
-/

namespace TokenAuthority.Database

namespace Step

def executing (query : Query) (answer : Except Error Reply) : Step := ⟨.database (.execute query), answer⟩

def beginning (answer : Except Error Unit) : Step := ⟨.database .beginTransaction, answer⟩

def undoing (answer : Except Error Unit) : Step := ⟨.database .rollBack, answer⟩

def committing (answer : Except Error Unit) : Step := ⟨.database .commit, answer⟩

def abandoning : Step := ⟨.database .abandon, ()⟩

end Step

open Step

/-- What follows a command given inside a transaction that ends it, or fails to. -/
def afterEnd : Except Error Unit → List Step
  | .ok _ => []
  | .error e => [.report e, abandoning]

/-- The result of a call whose transaction ends, or fails to. -/
def endsWith {α : Type} (result : Except Failure α) : Except Error Unit → Except Failure α
  | .ok _ => result
  | .error e => .error (.database e.message)

/-- What chaining a token asks for, is answered and comes to. -/
inductive Chaining (access : String) (successor : Token) : List Step → Except Failure Bool → Prop where
  | unopened (e : Error) : Chaining access successor [beginning (.error e), .report e] (.error (.database e.message))
  | uninserted (e : Error) :
    Chaining access successor
      [beginning (.ok ()), executing (.insertToken successor) (.error e), .report e, abandoning]
      (.error (.database e.message))
  | conflicts {inserted : Reply} (none : inserted.affected = 0) (undone : Except Error Unit) :
    Chaining access successor
      (beginning (.ok ()) :: executing (.insertToken successor) (.ok inserted) :: undoing undone :: afterEnd undone)
      (endsWith (.error .mintedTwice) undone)
  | unlinked {inserted : Reply} (some : 0 < inserted.affected) (e : Error) :
    Chaining access successor
      [beginning (.ok ()), executing (.insertToken successor) (.ok inserted),
        executing (.linkToken access successor.access) (.error e), .report e, abandoning]
      (.error (.database e.message))
  | loses {inserted linked : Reply} (some : 0 < inserted.affected) (none : linked.affected = 0)
      (undone : Except Error Unit) :
    Chaining access successor
      (beginning (.ok ()) :: executing (.insertToken successor) (.ok inserted) ::
        executing (.linkToken access successor.access) (.ok linked) :: undoing undone :: afterEnd undone)
      (endsWith (.ok false) undone)
  | links {inserted linked : Reply} (some : 0 < inserted.affected) (some' : 0 < linked.affected)
      (committed : Except Error Unit) :
    Chaining access successor
      (beginning (.ok ()) :: executing (.insertToken successor) (.ok inserted) ::
        executing (.linkToken access successor.access) (.ok linked) :: committing committed :: afterEnd committed)
      (endsWith (.ok true) committed)

variable {access : String} {successor : Token} {steps : List Step} {result : Except Failure Bool}

theorem chainToken_course (access : String) (successor : Token) :
    Every (Chaining access successor) (chainToken access successor).run := by
  intro begun
  cases begun with
  | error e => exact fun _ => .unopened e
  | ok _ =>
    intro inserted
    cases inserted with
    | error e => exact fun _ _ => .uninserted e
    | ok inserted =>
      show Every _ (if inserted.affected = 0 then _ else _ : Work Bool)
      split
      next none =>
        intro undone
        cases undone with
        | error e => exact fun _ _ => .conflicts none (.error e)
        | ok _ => exact .conflicts none (.ok ())
      next some =>
        intro linked
        cases linked with
        | error e => exact fun _ _ => .unlinked (Nat.pos_of_ne_zero some) e
        | ok linked =>
          show Every _ (if linked.affected = 0 then _ else _ : Work Bool)
          split
          next none =>
            intro undone
            cases undone with
            | error e => exact fun _ _ => .loses (Nat.pos_of_ne_zero some) none (.error e)
            | ok _ => exact .loses (Nat.pos_of_ne_zero some) none (.ok ())
          next some' =>
            intro committed
            have some := Nat.pos_of_ne_zero some
            have some' := Nat.pos_of_ne_zero some'
            cases committed with
            | error e => exact fun _ _ => .links some some' (.error e)
            | ok _ => exact .links some some' (.ok ())

/-- A command that ends a transaction is followed by no statement. -/
theorem executing_not_mem_afterEnd {query : Query} {answer : Except Error Reply} {ended : Except Error Unit} :
    executing query answer ∉ afterEnd ended := by
  cases ended with
  | ok _ => nofun
  | error e => nofun

theorem committing_not_mem_afterEnd {committed ended : Except Error Unit} : committing committed ∉ afterEnd ended := by
  cases ended with
  | ok _ => nofun
  | error e => nofun

namespace Chaining

/-- Nothing is committed on any other course than the one that inserts the successor and links to it. -/
theorem of_committing {committed : Except Error Unit} (course : Chaining access successor steps result)
    (commits : committing committed ∈ steps) :
    ∃ inserted linked : Reply, 0 < inserted.affected ∧ 0 < linked.affected ∧
      steps = beginning (.ok ()) :: executing (.insertToken successor) (.ok inserted) ::
        executing (.linkToken access successor.access) (.ok linked) :: committing committed :: afterEnd committed ∧
      result = endsWith (.ok true) committed := by
  cases course with
  | unopened e => nomatch commits
  | uninserted e => nomatch commits
  | conflicts none undone =>
    rcases commits with _ | ⟨_, _ | ⟨_, _ | ⟨_, late⟩⟩⟩
    exact (committing_not_mem_afterEnd late).elim
  | unlinked some e => nomatch commits
  | loses some none undone =>
    rcases commits with _ | ⟨_, _ | ⟨_, _ | ⟨_, _ | ⟨_, late⟩⟩⟩⟩
    exact (committing_not_mem_afterEnd late).elim
  | links some some' committed =>
    rcases commits with _ | ⟨_, _ | ⟨_, _ | ⟨_, _ | ⟨_, late⟩⟩⟩⟩
    · exact ⟨_, _, some, some', rfl, rfl⟩
    · exact (committing_not_mem_afterEnd late).elim

theorem ok_true_iff (course : Chaining access successor steps result) :
    result = .ok true ↔ committing (.ok ()) ∈ steps := by
  constructor
  · intro linked
    cases course with
    | conflicts none undone => cases undone <;> cases linked
    | loses some none undone => cases undone <;> cases linked
    | links some some' committed =>
      cases committed with
      | ok _ => simp
      | error e => cases linked
    | unopened e => cases linked
    | uninserted e => cases linked
    | unlinked some e => cases linked
  · intro commits
    obtain ⟨-, -, -, -, -, result⟩ := course.of_committing commits
    exact result

/-- A successor that is not inserted is not linked to either. -/
theorem of_conflict {inserted : Reply} (course : Chaining access successor steps result)
    (inserts : executing (.insertToken successor) (.ok inserted) ∈ steps) (none : inserted.affected = 0) :
    ∃ undone, steps = beginning (.ok ()) :: executing (.insertToken successor) (.ok inserted) ::
        undoing undone :: afterEnd undone ∧
      result = endsWith (.error .mintedTwice) undone := by
  cases course with
  | unopened e => nomatch inserts
  | uninserted e => nomatch inserts
  | conflicts none undone =>
    rcases inserts with _ | ⟨_, _ | ⟨_, _ | ⟨_, late⟩⟩⟩
    · exact ⟨undone, rfl, rfl⟩
    · exact (executing_not_mem_afterEnd late).elim
  | unlinked some e =>
    rcases inserts with _ | ⟨_, _ | ⟨_, late⟩⟩
    · omega
    · nomatch late
  | loses some none undone =>
    rcases inserts with _ | ⟨_, _ | ⟨_, _ | ⟨_, _ | ⟨_, late⟩⟩⟩⟩
    · omega
    · exact (executing_not_mem_afterEnd late).elim
  | links some some' committed =>
    rcases inserts with _ | ⟨_, _ | ⟨_, _ | ⟨_, _ | ⟨_, late⟩⟩⟩⟩
    · omega
    · exact (executing_not_mem_afterEnd late).elim

/-- A token that cannot be linked any more leaves nothing of its successor. -/
theorem of_lost {linked : Reply} (course : Chaining access successor steps result)
    (links : executing (.linkToken access successor.access) (.ok linked) ∈ steps) (none : linked.affected = 0) :
    ∃ inserted undone, steps = beginning (.ok ()) :: executing (.insertToken successor) (.ok inserted) ::
        executing (.linkToken access successor.access) (.ok linked) :: undoing undone :: afterEnd undone ∧
      result = endsWith (.ok false) undone := by
  cases course with
  | unopened e => nomatch links
  | uninserted e => nomatch links
  | conflicts none undone =>
    rcases links with _ | ⟨_, _ | ⟨_, _ | ⟨_, late⟩⟩⟩
    exact (executing_not_mem_afterEnd late).elim
  | unlinked some e => nomatch links
  | loses some none undone =>
    rcases links with _ | ⟨_, _ | ⟨_, _ | ⟨_, _ | ⟨_, late⟩⟩⟩⟩
    · exact ⟨_, undone, rfl, rfl⟩
    · exact (executing_not_mem_afterEnd late).elim
  | links some some' committed =>
    rcases links with _ | ⟨_, _ | ⟨_, _ | ⟨_, _ | ⟨_, late⟩⟩⟩⟩
    · omega
    · exact (executing_not_mem_afterEnd late).elim

end Chaining

theorem insertToken_text : (Query.insertToken successor).text =
    "INSERT INTO auth_tokens (access_token, refresh_token, user_id, created_at, expires_at, valid, next_token, " ++
      "authorization_code) VALUES ($1, $2, $3, $4, $5, $6, $7, $8)" ++ " ON CONFLICT (access_token) DO NOTHING" := by
  refine congrArg (· ++ " ON CONFLICT (access_token) DO NOTHING") ?_
  decide +kernel

/-- Whatever the database answers, chaining a token takes one of its six courses. It returns that it has chained the
token exactly if a commit is asked for and carried out. A commit is asked for only after the successor's values are
inserted and the token is linked, each with a row affected. Where the insertion affects none, nothing is linked, and
where the link affects none, nothing is committed: the transaction is rolled back. Any command that fails is the last
but for abandoning the transaction, and its error is the result. -/
theorem chainToken_all_or_nothing {σ : Type} (access : String) (successor : Token)
    (answer : (request : Effect) → StateM σ request.Answer) (state : σ) :
    let program := (chainToken access successor).run
    let steps := recorded answer program state
    let result := ((program.run answer).run state).1
    Chaining access successor steps result ∧
    (result = .ok true ↔ committing (.ok ()) ∈ steps) ∧
    (∀ committed, committing committed ∈ steps →
      ∃ inserted linked : Reply, 0 < inserted.affected ∧ 0 < linked.affected ∧
        steps = beginning (.ok ()) :: executing (.insertToken successor) (.ok inserted) ::
          executing (.linkToken access successor.access) (.ok linked) :: committing committed :: afterEnd committed) ∧
    (Query.insertToken successor).text =
      "INSERT INTO auth_tokens (access_token, refresh_token, user_id, created_at, expires_at, valid, next_token, " ++
        "authorization_code) VALUES ($1, $2, $3, $4, $5, $6, $7, $8)" ++ " ON CONFLICT (access_token) DO NOTHING" ∧
    (Query.insertToken successor).parameters =
      [.text successor.access, .ofText? successor.refresh, .text successor.owner, .time successor.createdAt.stored,
        .time successor.expiresAt.stored, .bool successor.valid, .ofText? successor.next, .ofText? successor.code] ∧
    (Query.linkToken access successor.access).text =
      "UPDATE auth_tokens SET next_token = $2 WHERE access_token = $1 AND next_token IS NULL " ++ "AND valid" ∧
    (Query.linkToken access successor.access).parameters = [.text access, .text successor.access] ∧
    (∀ inserted : Reply, executing (.insertToken successor) (.ok inserted) ∈ steps → inserted.affected = 0 →
      ∃ undone, steps = beginning (.ok ()) :: executing (.insertToken successor) (.ok inserted) ::
          undoing undone :: afterEnd undone ∧
        result = endsWith (.error (.illegalState "an access token was minted twice")) undone) ∧
    (∀ linked : Reply, executing (.linkToken access successor.access) (.ok linked) ∈ steps → linked.affected = 0 →
      ∃ inserted undone, steps = beginning (.ok ()) :: executing (.insertToken successor) (.ok inserted) ::
          executing (.linkToken access successor.access) (.ok linked) :: undoing undone :: afterEnd undone ∧
        result = endsWith (.ok false) undone) ∧
    (∀ step ∈ steps, ∀ e, step.error? = some e → result = .error (.database e.message) ∧
      ∃ before, steps = before ++ step :: .report e :: closing (before ++ [step])) := by
  intro program steps result
  have trace : Trace program steps result := trace_recorded answer program state
  have course := trace.meets (chainToken_course access successor)
  have session : Session False steps result := trace.meets Holds.chainToken
  refine ⟨course, course.ok_true_iff, ?_, insertToken_text, rfl, rfl, rfl, fun _ => course.of_conflict,
    fun _ => course.of_lost, ?_⟩
  · intro committed commits
    obtain ⟨inserted, linked, some, some', steps, -⟩ := course.of_committing commits
    exact ⟨inserted, linked, some, some', steps⟩
  · intro step mem e fails
    obtain ⟨before, after, split⟩ := List.append_of_mem mem
    have strict : step.savesProfile = false := by
      cases saves : step.savesProfile with
      | false => rfl
      | true => exact (session.tolerates mem fails saves).elim
    rw [split] at session ⊢
    obtain ⟨-, ended, rfl⟩ := session.final fails strict
    exact ⟨ended, before, rfl⟩

namespace Refusal

def world : World := ⟨fun _ => .ofSeconds 0, fun _ => "", fun _ => .failed⟩

def token : Token := .issued "u" 3600 (.ofSeconds 0) "b" "s"

/-- The successor is inserted and linked, and then the commit is refused. -/
def script : Script := ⟨[.reply ⟨1, []⟩, .reply ⟨1, []⟩, .refusal .commit "down"], []⟩

theorem recorded_chaining : recorded (answerScripted world) (chainToken "a" token).run (.empty, script) =
    [beginning (.ok ()), executing (.insertToken token) (.ok ⟨1, []⟩),
      executing (.linkToken "a" "b") (.ok ⟨1, []⟩), committing (.error (.server "down")), .report (.server "down"),
      abandoning] := by
  rfl

/-- Rows are affected, but the token is not chained. -/
theorem refused_commit_is_final :
    let steps := recorded (answerScripted world) (chainToken "a" token).run (.empty, script)
    let result := (((chainToken "a" token).run.run (answerScripted world)).run (.empty, script)).1
    Chaining "a" token steps result ∧ committing (.error (.server "down")) ∈ steps ∧
      committing (.ok ()) ∉ steps ∧ result = .error (.database "error returned from database: down") := by
  intro steps result
  obtain ⟨course, linked, -, -, -, -, -, -, -, final⟩ :=
    chainToken_all_or_nothing "a" token (answerScripted world) (.empty, script)
  have commits : committing (.error (.server "down")) ∈ steps := by
    rw [show steps = _ from recorded_chaining]
    simp
  obtain ⟨ended, -⟩ := final _ commits (.server "down") rfl
  refine ⟨course, commits, fun mem => ?_, ended⟩
  cases (linked.2 mem).symm.trans ended

end Refusal

end TokenAuthority.Database
