import Mathlib.Data.List.Basic
import TokenAuthority.Database.Script
import TokenAuthority.Proofs.Database.Sessions
import TokenAuthority.Proofs.Google.Identity

/-!
# Errors of the database

An error of the database is the result of the call, and ends it (`errors_are_final`). Only the error of saving a profile
does not: it is logged, and the login goes on as it does when the profile was saved.
-/

namespace TokenAuthority

/-- What Google's provider reports is no failure of a database. -/
theorem Google.identify_not_database (w : World) (endpoint accessToken reason : String) (journal : Journal) :
    ((w.answerAmbient (.identify (Google.provider endpoint) accessToken)).run journal).1 ≠
      .error (.database reason) := by
  show (((identify endpoint accessToken).run w.answerExchange).run journal).1 ≠ _
  intro fails
  obtain ⟨_, ⟨⟩⟩ | ⟨_, ⟨⟩⟩ | ⟨_, ⟨⟩⟩ := identify_error fails

namespace Database

variable {α β : Type} {s : Service} {steps before after first rest : List Step} {step : Step}

/-! ### A login whose profile cannot be saved -/

theorem lower_login {provider accessToken : String} :
    lower (s.perform (.issueFromProvider provider accessToken)).run =
      (lower (identified s provider accessToken).run).bind fun
        | .ok known => (lower (Service.refreshProfile known.1 known.2)).bind fun _ => lower (issued s known.1.id).run
        | .error failure => .done (.error failure) := by
  rw [perform_issueFromProvider]
  refine (Program.run_bind lowerRequest (identified s provider accessToken).run _).trans ?_
  refine congrArg _ (funext fun result => ?_)
  cases result with
  | error failure => rfl
  | ok known =>
    show Program.run lowerRequest (((Service.refreshProfile known.1 known.2).bind _).bind _) = _
    rw [Program.bind_assoc, Program.run_bind]
    rfl

/-- The line in the log about a profile that could not be saved. -/
def Step.warning (owner : String) (profile : Profile) (e : Error) : Step :=
  ⟨.ambient (.log ⟨.warn, "Failed to save updated " ++ profile.provider ++ " information for user " ++ owner ++ ": " ++
    e.failure.message⟩), ()⟩

/-- The line in the log about a profile that has changed. -/
def Step.noted (account : Account) : Step :=
  ⟨.ambient (.log ⟨.debug, "Provider information for user " ++ account.id ++ " changed"⟩), ()⟩

/-- The statement that saves a profile, and its answer. -/
def Step.saving (owner : String) (profile : Profile) (answer : Except Error Reply) : Step :=
  ⟨.database (.execute (.saveProfile owner profile)), answer⟩

/-- What follows the saving of a profile: nothing, or two lines in the log about the error. -/
def aftermath (owner : String) (profile : Profile) : Except Error Reply → List Step
  | .ok _ => []
  | .error e => [.report e, .warning owner profile e]

/-- All that is asked of the database is to insert a token of the account. -/
theorem issued_inserts {owner : String} :
    Every (fun steps _ => ∃ token, token.owner = owner ∧ commands steps = [.execute (.insertToken token)])
      (lower (issued s owner).run) := by
  intro now access refresh answer
  cases answer with
  | error e => exact fun _ => ⟨_, rfl, rfl⟩
  | ok reply =>
    show Every _ ((if reply.affected = 0 then throw Failure.mintedTwice else pure () : Work Unit).run.bind _)
    split
    · exact ⟨_, rfl, rfl⟩
    · exact fun _ => ⟨_, rfl, rfl⟩

theorem refreshProfile_known {account : Account} {profile : Profile} (known : account.hasSaved profile = true)
    (trace : Trace (lower (Service.refreshProfile account profile)) steps ()) : steps = [] := by
  unfold Service.refreshProfile at trace
  rw [known] at trace
  cases trace
  rfl

theorem refreshProfile_saves {account : Account} {profile : Profile} (differs : account.hasSaved profile = false) :
    Trace (lower (Service.refreshProfile account profile)) steps () ↔
      ∃ answer, steps = .noted account :: .saving account.id profile answer :: aftermath account.id profile answer := by
  constructor
  · have saves : Every (fun steps _ => ∃ answer, steps =
        .noted account :: .saving account.id profile answer :: aftermath account.id profile answer)
        (lower (Service.refreshProfile account profile)) := by
      unfold Service.refreshProfile
      rw [differs]
      intro written answer
      cases answer with
      | ok reply => exact ⟨.ok reply, rfl⟩
      | error e => exact fun _ _ => ⟨.error e, rfl⟩
    exact fun trace => trace.meets saves
  · rintro ⟨answer, rfl⟩
    unfold Service.refreshProfile
    rw [differs]
    cases answer with
    | ok reply => exact .asks _ (.asks _ (.done ()))
    | error e => exact .asks _ (.asks _ (.asks _ (.asks _ (.done ()))))

theorem aftermath_silent {owner : String} {profile : Profile} {answer : Except Error Reply} :
    ∀ step ∈ aftermath owner profile answer, step.command? = none := by
  cases answer with
  | ok reply => exact List.forall_mem_nil _
  | error e => exact List.forall_mem_cons.2 ⟨rfl, List.forall_mem_singleton.2 rfl⟩

theorem Step.saving_inj {a b : String} {p q : Profile} {x y : Except Error Reply} (same : saving a p x = saving b q y) :
    a = b ∧ p = q ∧ x = y := by
  cases same
  exact ⟨rfl, rfl, rfl⟩

theorem saving_not_mem {owner : String} {profile : Profile} {e : Error} {result : Except Failure α}
    (session : Session False steps result) : .saving owner profile (.error e) ∉ steps := by
  intro mem
  exact session.tolerates mem rfl rfl

section

variable {provider accessToken owner : String} {profile : Profile} {e : Error} {known : Account × Profile}
  {result : Except Failure Yield}

/-- A login goes on in the same way whatever the answer to saving the profile is. -/
theorem login_goes (looked : Trace (lower (identified s provider accessToken).run) first (.ok known))
    (differs : known.1.hasSaved known.2 = false) (inserts : Trace (lower (issued s known.1.id).run) rest result)
    (answer : Except Error Reply) :
    Trace (lower (s.perform (.issueFromProvider provider accessToken)).run)
      (first ++ [.noted known.1] ++ .saving known.1.id known.2 answer ::
        (aftermath known.1.id known.2 answer ++ rest)) result := by
  rw [lower_login, List.append_assoc]
  have saves := (refreshProfile_saves differs).2 ⟨answer, rfl⟩
  exact trace_bind.2 ⟨first, _, .ok known, rfl, looked, trace_bind.2 ⟨_, rest, (), rfl, saves, inserts⟩⟩

/-- Neither the look-up nor the insertion saves a profile, so an error of saving one comes in between. -/
theorem login_split (trace : Trace (lower (s.perform (.issueFromProvider provider accessToken)).run)
      (before ++ .saving owner profile (.error e) :: after) result) :
    ∃ first known rest, Trace (lower (identified s provider accessToken).run) first (.ok known) ∧
      known.1.hasSaved known.2 = false ∧ Trace (lower (issued s known.1.id).run) rest result ∧ known.1.id = owner ∧
      known.2 = profile ∧ before = first ++ [.noted known.1] ∧ after = aftermath owner profile (.error e) ++ rest := by
  rw [lower_login] at trace
  have saving : .saving owner profile (.error e) ∈ before ++ .saving owner profile (.error e) :: after :=
    List.mem_append_right before List.mem_cons_self
  obtain ⟨first, rest, looked, told, early, late⟩ := trace_bind.1 trace
  have unsaved : .saving owner profile (.error e) ∉ first := saving_not_mem (early.meets Handles.identified)
  rw [told] at saving
  rcases looked with failure | known
  · cases late
    rw [List.append_nil] at saving
    exact (unsaved saving).elim
  · obtain ⟨middle, last, _, rfl, saves, inserts⟩ := trace_bind.1 late
    have unsaved' : .saving owner profile (.error e) ∉ last := saving_not_mem (inserts.meets Handles.issued)
    cases differs : known.1.hasSaved known.2 with
    | true =>
      rw [refreshProfile_known differs saves, List.nil_append] at saving
      exact ((List.mem_append.1 saving).elim unsaved unsaved').elim
    | false =>
      obtain ⟨answer, rfl⟩ := (refreshProfile_saves differs).1 saves
      have placed : first ++ [.noted known.1] ++ .saving known.1.id known.2 answer ::
          (aftermath known.1.id known.2 answer ++ last) = before ++ .saving owner profile (.error e) :: after := by
        rw [told, List.append_assoc]
        rfl
      have early' : .saving owner profile (.error e) ∉ first ++ [.noted known.1] := by
        intro mem
        rcases List.mem_append.1 mem with mem | mem
        · exact unsaved mem
        · cases List.mem_singleton.1 mem
      have late' : .saving owner profile (.error e) ∉ aftermath known.1.id known.2 answer ++ last := by
        intro mem
        rcases List.mem_append.1 mem with mem | mem
        · cases aftermath_silent _ mem
        · exact unsaved' mem
      obtain ⟨rfl, same, rfl⟩ := (List.append_cons_inj_of_notMem early' late').1 placed
      obtain ⟨rfl, rfl, rfl⟩ := Step.saving_inj same
      exact ⟨first, known, last, early, differs, inserts, rfl, rfl, rfl, rfl⟩

/-- A login whose profile cannot be saved logs that and goes on to insert a token of the account, and it would have
gone on in the same way if the profile had been saved. -/
theorem login_tolerates (trace : Trace (lower (s.perform (.issueFromProvider provider accessToken)).run)
      (before ++ .saving owner profile (.error e) :: after) result) :
    ∃ rest token, after = .report e :: .warning owner profile e :: rest ∧ token.owner = owner ∧
      commands rest = [.execute (.insertToken token)] ∧
      ∀ reply, Trace (lower (s.perform (.issueFromProvider provider accessToken)).run)
        (before ++ .saving owner profile (.ok reply) :: rest) result := by
  obtain ⟨first, known, rest, looked, differs, inserts, rfl, rfl, rfl, rfl⟩ := login_split trace
  obtain ⟨token, owned, inserted⟩ := inserts.meets issued_inserts
  exact ⟨rest, token, rfl, owned, inserted, fun reply => login_goes looked differs inserts (.ok reply)⟩

end

/-! ### Every call -/

/-- Whatever the database answers, by a script or otherwise. An error that is not about saving a profile is the first
such error and the result of the call, and all that follows is a line in the log and the end of the transaction that may
be open. If a profile is not saved, then the call is a login by a provider, which only logs the error, inserts its token
and comes to what it comes to if the profile is saved. No call fails for the database but for such an error, unless its
identity provider reports one, which Google's does not. -/
theorem errors_are_final {σ : Type} (s : Service) (call : Call)
    (answer : (request : Effect) → StateM σ request.Answer) (state : σ) :
    let program := lower (s.perform call).run
    let steps := recorded answer program state
    let result := ((program.run answer).run state).1
    (∀ before step after e, steps = before ++ step :: after → step.error? = some e → step.savesProfile = false →
      (∀ earlier ∈ before, ∀ e, earlier.error? = some e → earlier.savesProfile = true) ∧
      result = .error (.database e.message) ∧ after = .report e :: closing (before ++ [step])) ∧
    opened steps = false ∧
    (∀ before owner profile e after, steps = before ++ .saving owner profile (.error e) :: after →
      (∃ provider accessToken, call = .issueFromProvider provider accessToken) ∧
      ∃ rest token, after = .report e :: .warning owner profile e :: rest ∧ token.owner = owner ∧
        commands rest = [.execute (.insertToken token)] ∧
        ∀ reply, Trace program (before ++ .saving owner profile (.ok reply) :: rest) result) ∧
    (∀ reason, result = .error (.database reason) →
      (∃ step ∈ steps, ∃ e, step.error? = some e ∧ step.savesProfile = false ∧ e.message = reason) ∨
        Reported reason steps) ∧
    ∀ (w : World) endpoint accessToken reason journal,
      ((w.answerAmbient (.identify (Google.provider endpoint) accessToken)).run journal).1 ≠
        .error (.database reason) := by
  intro program steps result
  have trace : Trace program steps result := trace_recorded answer program state
  have session := trace.meets (perform_session s call)
  refine ⟨?_, session.ends_closed, ?_, ?_, Google.identify_not_database⟩
  · intro before step after e split fails strict
    rw [split] at session
    obtain ⟨sound, ended, after⟩ := session.final fails strict
    exact ⟨fun earlier mem e fails => (sound earlier mem e fails).2, ended, after⟩
  · intro before owner profile e after split
    rw [split] at session trace
    obtain ⟨provider, accessToken, rfl⟩ := session.tolerates (List.mem_append_right before List.mem_cons_self) rfl rfl
    exact ⟨⟨provider, accessToken, rfl⟩, login_tolerates trace⟩
  · intro reason failed
    rw [failed] at session
    exact session.origin

/-! ### A refresh that cannot link its token -/

namespace Outage

def world : World := ⟨fun _ => .ofSeconds 0, fun n => if n = 0 then "b" else "s", fun _ => .failed⟩

def service : Service := ⟨.empty, 3600, 600⟩

def token : Token := .issued "u" 3600 (.ofSeconds 0) "a" "r"

/-- The token is found and its successor inserted. -/
def script : Script := ⟨[.reply ⟨1, [Token.columns.zip token.values]⟩, .reply ⟨1, []⟩, .failure "down"], []⟩

def program : Program Effect.Answer (Except Failure Yield) := lower (service.perform (.refresh "r")).run

/-- The steps until the successor is inserted. -/
def begun : List Step :=
  [⟨.ambient (.log ⟨.info, "Creating an authentication token from a refresh token"⟩), ()⟩,
    ⟨.database (.execute (.tokenByRefresh "r")), .ok ⟨1, [Token.columns.zip token.values]⟩⟩,
    ⟨.ambient .clock, .ofSeconds 0⟩, ⟨.ambient .freshText, "b"⟩, ⟨.ambient .freshText, "s"⟩,
    ⟨.database .beginTransaction, .ok ()⟩,
    ⟨.database (.execute (.insertToken (.issued "u" 3600 (.ofSeconds 0) "b" "s"))), .ok ⟨1, []⟩⟩]

theorem recorded_refresh : recorded (answerScripted world) program (.empty, script) =
    begun ++ ⟨.database (.execute (.linkToken "a" "b")), .error (.server "down")⟩ ::
      [.report (.server "down"), ⟨.database .abandon, ()⟩] := by
  rfl

/-- The transaction is open when the error comes, so it is abandoned. -/
theorem outage_is_final : ∃ after, recorded (answerScripted world) program (.empty, script) =
      begun ++ ⟨.database (.execute (.linkToken "a" "b")), .error (.server "down")⟩ :: after ∧
    ((program.run (answerScripted world)).run (.empty, script)).1 =
      .error (.database "error returned from database: down") ∧ commands after = [.abandon] := by
  obtain ⟨final, -⟩ := errors_are_final service (.refresh "r") (answerScripted world) (.empty, script)
  obtain ⟨-, ended, after⟩ := final begun _ _ (.server "down") recorded_refresh rfl rfl
  exact ⟨_, recorded_refresh, ended, congrArg commands after⟩

end Outage

end Database

end TokenAuthority
