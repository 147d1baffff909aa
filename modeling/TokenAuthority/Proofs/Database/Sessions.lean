import Mathlib.Data.List.Basic
import TokenAuthority.Proofs.Database.Trace
import TokenAuthority.Service.Call
import TokenAuthority.Store.Interference

/-!
# Calls over a database that can fail

A session begins and ends outside of transactions. It settles if all its commands are carried out, or it fails: then
the error is logged and is the result, and what follows the command that failed is at most that an open transaction is
abandoned. Every call of the service is a session (`perform_session`), where only a login by a provider goes on after
an error, that of saving a profile.
-/

namespace TokenAuthority

namespace Database

/-! ### Commands -/

def Command.error? : (command : Command) → command.Answer → Option Error
  | .execute _, .error e => some e
  | .beginTransaction, .error e => some e
  | .commit, .error e => some e
  | .rollBack, .error e => some e
  | _, _ => none

/-- Whether a transaction is open after a command. -/
def Command.leaves (opened : Bool) : (command : Command) → command.Answer → Bool
  | .beginTransaction, .ok _ => true
  | .commit, .ok _ => false
  | .rollBack, .ok _ => false
  | .abandon, _ => false
  | _, _ => opened

def Query.savesProfile : Query → Bool
  | saveProfile _ _ => true
  | _ => false

namespace Step

def command? : Step → Option Command
  | ⟨.ambient _, _⟩ => none
  | ⟨.database command, _⟩ => some command

def error? : Step → Option Error
  | ⟨.ambient _, _⟩ => none
  | ⟨.database command, answer⟩ => command.error? answer

def leaves (opened : Bool) : Step → Bool
  | ⟨.ambient _, _⟩ => opened
  | ⟨.database command, answer⟩ => command.leaves opened answer

def savesProfile : Step → Bool
  | ⟨.database (.execute query), _⟩ => query.savesProfile
  | _ => false

/-- The line in the log about an error. -/
def report (e : Error) : Step := ⟨.ambient (.log ⟨.error, "Database error: " ++ e.message⟩), ()⟩

end Step

/-- Whether a transaction is open after some steps. -/
def opened (steps : List Step) : Bool := steps.foldl Step.leaves false

/-- What is left to do after an error: to abandon the transaction, if one is open. -/
def closing (steps : List Step) : List Step := if opened steps then [⟨.database .abandon, ()⟩] else []

def commands (steps : List Step) : List Command := steps.filterMap Step.command?

variable {first steps before after : List Step} {step : Step}

theorem opened_append (closed : opened first = false) : opened (first ++ steps) = opened steps := by
  rw [opened, List.foldl_append, ← opened, closed, opened]

theorem closing_append (closed : opened first = false) : closing (first ++ steps) = closing steps := by
  rw [closing, opened_append closed, closing]

theorem opened_closing {e : Error} : opened (steps ++ .report e :: closing steps) = false := by
  rw [opened, List.foldl_append, ← opened, closing]
  cases opened steps <;> rfl

/-! ### Sessions -/

/-- The identity provider has reported a failure of a database. -/
def Reported (reason : String) (steps : List Step) : Prop :=
  ∃ provider accessToken, (⟨.ambient (.identify provider accessToken), .error (.database reason)⟩ : Step) ∈ steps

/-- All commands are carried out, but perhaps the saving of a profile where that is tolerated. -/
def Sound (tolerated : Prop) (steps : List Step) : Prop :=
  ∀ step ∈ steps, ∀ e, step.error? = some e → tolerated ∧ step.savesProfile = true

inductive Session (tolerated : Prop) {α : Type} : List Step → Except Failure α → Prop where
  | settles {steps : List Step} {result : Except Failure α} (sound : Sound tolerated steps)
      (closed : opened steps = false) (own : ∀ reason, result = .error (.database reason) → Reported reason steps) :
      Session tolerated steps result
  | fails (before : List Step) {step : Step} {e : Error} (sound : Sound tolerated before)
      (fails : step.error? = some e) (strict : step.savesProfile = false) :
      Session tolerated (before ++ step :: .report e :: closing (before ++ [step])) (.error (.database e.message))

variable {α β : Type} {tolerated : Prop} {result : Except Failure α} {s : Service}

theorem Sound.nil : Sound tolerated [] := List.forall_mem_nil _

theorem Sound.cons (fine : step.error? = none) (rest : Sound tolerated steps) : Sound tolerated (step :: steps) := by
  refine List.forall_mem_cons.2 ⟨fun e fails => ?_, rest⟩
  rw [fine] at fails
  cases fails

theorem Sound.append (sound : Sound tolerated first) (rest : Sound tolerated steps) :
    Sound tolerated (first ++ steps) :=
  List.forall_mem_append.2 ⟨sound, rest⟩

namespace Session

theorem append (sound : Sound tolerated first) (closed : opened first = false)
    (session : Session tolerated steps result) : Session tolerated (first ++ steps) result := by
  cases session with
  | settles sound' closed' own =>
    refine .settles (sound.append sound') ((opened_append closed).trans closed') fun reason same => ?_
    obtain ⟨provider, accessToken, mem⟩ := own reason same
    exact ⟨provider, accessToken, List.mem_append_right first mem⟩
  | @fails before step e sound' fails strict =>
    rw [← closing_append closed, ← List.append_assoc, ← List.append_assoc]
    exact .fails _ (sound.append sound') fails strict

theorem quiet {e : Error} : ∀ step ∈ .report e :: closing steps, step.error? = none := by
  refine List.forall_mem_cons.2 ⟨rfl, ?_⟩
  unfold closing
  split
  · exact List.forall_mem_singleton.2 rfl
  · exact List.forall_mem_nil _

/-- Nothing fails before but what is tolerated, and nothing after it. -/
theorem final {e : Error} (session : Session tolerated (before ++ step :: after) result) (fails : step.error? = some e)
    (strict : step.savesProfile = false) :
    Sound tolerated before ∧ result = .error (.database e.message) ∧
      after = .report e :: closing (before ++ [step]) := by
  generalize told : before ++ step :: after = steps at session
  have unsound {part : List Step} (sound : Sound tolerated part) : step ∉ part := by
    intro mem
    rw [(sound step mem e fails).2] at strict
    cases strict
  cases session with
  | settles sound closed own => exact (unsound sound (told ▸ List.mem_append_right before List.mem_cons_self)).elim
  | @fails before' step' e' sound fails' strict' =>
    have absent : step ∉ .report e' :: closing (before' ++ [step']) := by
      intro mem
      rw [quiet step mem] at fails
      cases fails
    obtain ⟨rfl, rfl, rfl⟩ := (List.append_cons_inj_of_notMem (unsound sound) absent).1 told.symm
    rw [fails] at fails'
    obtain rfl := Option.some.inj fails'
    exact ⟨sound, rfl, rfl⟩

theorem tolerates {e : Error} (session : Session tolerated steps result) (mem : step ∈ steps)
    (fails : step.error? = some e) (saves : step.savesProfile = true) : tolerated := by
  cases session with
  | settles sound closed own => exact (sound step mem e fails).1
  | fails before sound fails' strict =>
    rcases List.mem_append.1 mem with mem | mem
    · exact (sound step mem e fails).1
    · rcases List.mem_cons.1 mem with rfl | mem
      · rw [saves] at strict
        cases strict
      · rw [quiet step mem] at fails
        cases fails

theorem ends_closed (session : Session tolerated steps result) : opened steps = false := by
  cases session with
  | settles sound closed own => exact closed
  | @fails before step e sound fails strict =>
    rw [List.append_cons]
    exact opened_closing

theorem origin {reason : String} (session : Session tolerated steps (.error (.database reason) : Except Failure α)) :
    (∃ step ∈ steps, ∃ e, step.error? = some e ∧ step.savesProfile = false ∧ e.message = reason) ∨
      Reported reason steps := by
  cases session with
  | settles sound closed own => exact .inr (own reason rfl)
  | fails before sound fails strict =>
    exact .inl ⟨_, List.mem_append_right before List.mem_cons_self, _, fails, strict, rfl⟩

theorem error {failure : Failure} (session : Session tolerated steps (.error failure : Except Failure α)) :
    Session tolerated steps (.error failure : Except Failure β) := by
  cases session with
  | settles sound closed own => exact .settles sound closed fun reason same => own reason (by cases same; rfl)
  | fails before sound fails strict => exact .fails before sound fails strict

theorem bind {x : Program Effect.Answer (Except Failure α)}
    {f : Except Failure α → Program Effect.Answer (Except Failure β)} (first : Every (Session tolerated) x)
    (rest : ∀ a, Every (Session tolerated) (f (.ok a)))
    (stop : ∀ failure, f (.error failure) = .done (.error failure)) : Every (Session tolerated) (x.bind f) := by
  refine Every.bind (first.mono fun steps result session => ?_)
  cases result with
  | ok a =>
    cases session with
    | settles sound closed own => exact (rest a).mono fun _ _ session => session.append sound closed
  | error failure =>
    rw [stop]
    show Session tolerated (steps ++ []) (.error failure)
    rw [List.append_nil]
    exact session.error

end Session

/-! ### Store calls -/

/-- Work that is a session, whatever the database answers. -/
def Holds (tolerated : Prop) (x : Work α) : Prop := Every (Session tolerated) x.run

namespace Holds

variable {x : Work α} {f : α → Work β}

theorem pure (a : α) : Holds tolerated (pure a : Work α) := .settles .nil rfl nofun

theorem throw {failure : Failure} (other : ∀ reason, failure ≠ .database reason) :
    Holds tolerated (throw failure : Work α) :=
  .settles .nil rfl fun reason same => (other reason (Except.error.inj same)).elim

theorem bind (first : Holds tolerated x) (rest : ∀ a, Holds tolerated (f a)) : Holds tolerated (x >>= f) :=
  Session.bind (x := x.run) first rest fun _ => rfl

theorem ite {c : Prop} [Decidable c] {y : Work α} (yes : Holds tolerated x) (no : Holds tolerated y) :
    Holds tolerated (if c then x else y) := by
  split
  · exact yes
  · exact no

theorem execute {query : Query} (strict : query.savesProfile = false) : Holds tolerated (Work.execute query) := by
  intro answer
  cases answer with
  | ok reply => exact .settles (.cons rfl .nil) rfl nofun
  | error e => exact fun _ => .fails [] .nil rfl strict

theorem fitting {a? : Option α} : Holds tolerated (Work.fitting a?) := by
  cases a? with
  | none => exact throw nofun
  | some a => exact pure a

theorem firstRecord {read : Row → Option α} {reply : Reply} : Holds tolerated (Work.firstRecord read reply) := by
  unfold Work.firstRecord
  split
  · exact pure none
  · exact fitting.bind fun a => pure (some a)

theorem loadAccount {reply : Reply} : Holds tolerated (loadAccount reply) := by
  unfold Database.loadAccount
  split
  · exact pure none
  · refine fitting.bind fun id => (execute rfl).bind fun profiles => ?_
    exact fitting.bind fun account => pure (some account)

theorem chainToken {access : String} {successor : Token} : Holds tolerated (chainToken access successor) := by
  intro begun
  cases begun with
  | error e => exact fun _ => .fails [] .nil rfl rfl
  | ok _ =>
    -- From here on the transaction is open, so that an error is followed by a second answer, to abandoning it.
    intro inserted
    cases inserted with
    | error e => exact fun _ _ => .fails [_] (.cons rfl .nil) rfl rfl
    | ok inserted =>
      show Every _ (if inserted.affected = 0 then _ else _ : Work Bool)
      split
      · intro undone
        cases undone with
        | error e => exact fun _ _ => .fails [_, _] (.cons rfl (.cons rfl .nil)) rfl rfl
        | ok _ => exact .settles (.cons rfl (.cons rfl (.cons rfl .nil))) rfl nofun
      · intro linked
        cases linked with
        | error e => exact fun _ _ => .fails [_, _] (.cons rfl (.cons rfl .nil)) rfl rfl
        | ok linked =>
          show Every _ (if linked.affected = 0 then _ else _ : Work Bool)
          split
          · intro undone
            cases undone with
            | error e => exact fun _ _ => .fails [_, _, _] (.cons rfl (.cons rfl (.cons rfl .nil))) rfl rfl
            | ok _ => exact .settles (.cons rfl (.cons rfl (.cons rfl (.cons rfl .nil)))) rfl nofun
          · intro committed
            cases committed with
            | error e => exact fun _ _ => .fails [_, _, _] (.cons rfl (.cons rfl (.cons rfl .nil))) rfl rfl
            | ok _ => exact .settles (.cons rfl (.cons rfl (.cons rfl (.cons rfl .nil)))) rfl nofun

theorem answer {call : StoreCall} (strict : call.kind ≠ .saveProfile) : Holds tolerated (answer call) := by
  cases call with
  | addToken token =>
    exact (execute rfl).bind fun reply => ite (throw nofun) (pure ())
  | tokenByAccess access => exact (execute rfl).bind fun reply => firstRecord
  | tokenByRefresh refresh => exact (execute rfl).bind fun reply => firstRecord
  | chainToken access successor => exact chainToken
  | invalidateToken access => exact (execute rfl).bind fun reply => pure _
  | accountByEmail email => exact (execute rfl).bind fun reply => loadAccount
  | accountByIdentity provider subject => exact (execute rfl).bind fun reply => loadAccount
  | saveProfile account profile => exact (strict rfl).elim
  | addGrant grant => exact (execute rfl).bind fun reply => pure ()
  | takeGrant code => exact (execute rfl).bind fun reply => firstRecord

end Holds

/-! ### Calls of the service -/

/-- The account and the profile that a login by a provider is about. -/
def identified (s : Service) (providerId accessToken : String) : Action (Account × Profile) := do
  Action.log .info ("Creating an authentication token from a " ++ providerId ++ " access token")
  let provider ← Service.orThrow (.unknownProvider providerId) (s.registry.get? providerId)
  let profile ← Action.identify provider accessToken
  match ← Action.accountByIdentity profile.provider profile.subject with
  | none =>
    Action.log .info (profile.provider ++ " user " ++ profile.subject ++ " is not linked to an ohmage account")
    throw .unlinkedIdentity
  | some account => return (account, profile)

/-- A new token for an account. -/
def issued (s : Service) (owner : String) : Action Yield := do
  let token ← Service.mint (← s.newToken owner)
  return .token token

theorem perform_issueFromProvider {provider accessToken : String} :
    s.perform (.issueFromProvider provider accessToken) = (do
      let known ← identified s provider accessToken
      Service.refreshProfile known.1 known.2
      issued s known.1.id) := by
  unfold Service.perform Service.issueFromProvider identified issued
  simp only [map_eq_pure_bind, bind_assoc]
  refine bind_congr fun _ => bind_congr fun provider => bind_congr fun profile => bind_congr fun found => ?_
  cases found with
  | none =>
    simp only [bind_assoc]
    rfl
  | some account => simp only [bind_assoc, pure_bind]

/-- An action that is a session over a database. -/
def Handles (tolerated : Prop) (x : Action α) : Prop := Every (Session tolerated) (lower x.run)

namespace Handles

variable {x y : Action α} {f : α → Action β}

theorem pure (a : α) : Handles tolerated (pure a : Action α) := .settles .nil rfl nofun

theorem throw {failure : Failure} (other : ∀ reason, failure ≠ .database reason) :
    Handles tolerated (throw failure : Action α) :=
  .settles .nil rfl fun reason same => (other reason (Except.error.inj same)).elim

theorem bind (first : Handles tolerated x) (rest : ∀ a, Handles tolerated (f a)) : Handles tolerated (x >>= f) := by
  show Every _ (Program.run lowerRequest (x.run.bind _))
  rw [Program.run_bind]
  exact Session.bind (x := lower x.run) first rest fun _ => rfl

theorem map {g : α → β} (first : Handles tolerated x) : Handles tolerated (g <$> x) := by
  rw [map_eq_pure_bind]
  exact first.bind fun a => pure (g a)

theorem ite {c : Prop} [Decidable c] (yes : Handles tolerated x) (no : Handles tolerated y) :
    Handles tolerated (if c then x else y) := by
  split
  · exact yes
  · exact no

theorem lift {p : Program TokenAuthority.Effect.Answer α}
    (settles : Every (fun steps _ => Sound tolerated steps ∧ opened steps = false) (lower p)) :
    Handles tolerated (liftM p) := by
  show Every (Session tolerated) (Program.run lowerRequest (p.bind fun a => .done (Except.ok a)))
  rw [Program.run_bind]
  refine Every.bind (Every.mono settles fun steps a settled => ?_)
  show Session tolerated (steps ++ []) (.ok a)
  rw [List.append_nil]
  exact .settles settled.1 settled.2 nofun

theorem log {level : Level} {message : String} : Handles tolerated (liftM (Action.log level message)) :=
  lift fun _ => ⟨.cons rfl .nil, rfl⟩

theorem clock : Handles tolerated (liftM Action.clock) := lift fun _ => ⟨.cons rfl .nil, rfl⟩

theorem store {call : StoreCall} (strict : call.kind ≠ .saveProfile) : Handles tolerated (Action.store call) := by
  show Every _ ((answer call).run.bind .done)
  rw [Program.bind_done]
  exact Holds.answer strict

theorem orThrow {failure : Failure} {a? : Option α} (other : ∀ reason, failure ≠ .database reason) :
    Handles tolerated (Service.orThrow failure a?) := by
  cases a? with
  | none => exact throw other
  | some a => exact pure a

theorem identify {provider : Provider} {accessToken : String} :
    Handles tolerated (Action.identify provider accessToken) := by
  intro answer
  refine .settles (.cons rfl .nil) rfl fun reason same => ⟨provider, accessToken, ?_⟩
  rw [← same]
  exact List.mem_singleton.2 rfl

variable {account : Account} {profile : Profile} {owner : String} {old : Token}

theorem newToken : Handles tolerated (liftM (s.newToken owner)) :=
  lift fun _ _ _ => ⟨.cons rfl (.cons rfl (.cons rfl .nil)), rfl⟩

theorem newDelegatedToken {grant : Grant} : Handles tolerated (liftM (s.newDelegatedToken grant)) :=
  lift fun _ _ => ⟨.cons rfl (.cons rfl .nil), rfl⟩

theorem newGrant {client : String} {scope : Option String} :
    Handles tolerated (liftM (s.newGrant client owner scope)) :=
  lift fun _ _ => ⟨.cons rfl (.cons rfl .nil), rfl⟩

theorem mint (token : Token) : Handles tolerated (Service.mint token) :=
  bind (store nofun) fun _ => log.bind fun _ => pure token

theorem passwordMatches {password : String} : Handles tolerated (liftM (Service.passwordMatches account password)) := by
  unfold Service.passwordMatches
  split
  · exact lift ⟨.nil, rfl⟩
  · exact lift ⟨.nil, rfl⟩
  · exact lift fun _ => ⟨.cons rfl .nil, rfl⟩

/-- The error of saving a profile does not end the session, which must tolerate it. -/
theorem refreshProfile (tolerates : tolerated) :
    Handles tolerated (liftM (Service.refreshProfile account profile)) := by
  unfold Service.refreshProfile
  split
  · exact lift ⟨.nil, rfl⟩
  · refine lift fun _ answer => ?_
    cases answer with
    | ok reply => exact ⟨.cons rfl (.cons rfl .nil), rfl⟩
    | error e =>
      intro _ _
      have saving : Sound tolerated [⟨.database (.execute (.saveProfile account.id profile)), .error e⟩] :=
        List.forall_mem_singleton.2 fun _ _ => ⟨tolerates, rfl⟩
      exact ⟨.cons rfl (saving.append (.cons rfl (.cons rfl .nil))), rfl⟩

theorem issueFromPassword {email password : String} : Handles tolerated (s.issueFromPassword email password) := by
  refine log.bind fun _ => bind (store nofun) fun found => ?_
  cases found with
  | none => exact log.bind fun _ => throw nofun
  | some account =>
    refine ite (log.bind fun _ => throw nofun) (passwordMatches.bind fun right => ?_)
    exact ite (log.bind fun _ => throw nofun) (ite (log.bind fun _ => throw nofun) (newToken.bind mint))

theorem identified {provider accessToken : String} : Handles tolerated (identified s provider accessToken) := by
  refine bind log fun _ => bind (orThrow nofun) fun provider => bind identify fun profile => ?_
  refine bind (store nofun) fun found => ?_
  cases found with
  | none => exact log.bind fun _ => throw nofun
  | some account => exact pure (account, profile)

theorem issued : Handles tolerated (issued s owner) :=
  (newToken.bind mint).bind fun token => pure (Yield.token token)

theorem successorOf : Handles tolerated (Service.successorOf old) := by
  refine bind (orThrow nofun) fun access => bind (store nofun) fun found => ?_
  cases found with
  | none => exact log.bind fun _ => throw nofun
  | some next => exact ite (throw nofun) (ite (throw nofun) (pure next))

theorem settleLostRefresh : Handles tolerated (Service.settleLostRefresh old) := by
  refine log.bind fun _ => bind (store nofun) fun found => ?_
  cases found with
  | none => exact throw nofun
  | some current => exact ite (throw nofun) (ite successorOf (log.bind fun _ => throw nofun))

theorem refresh {refreshToken : String} : Handles tolerated (s.refresh refreshToken) := by
  refine log.bind fun _ => bind (store nofun) fun found => ?_
  cases found with
  | none => exact throw nofun
  | some old =>
    refine ite (throw nofun) (ite (throw nofun) (ite (log.bind fun _ => successorOf) ?_))
    refine newToken.bind fun next => bind (store nofun) fun (chained : Bool) => ?_
    show Handles tolerated (if chained = true then _ else _)
    exact ite (log.bind fun _ => pure next) settleLostRefresh

theorem authenticate {access : String} : Handles tolerated (Service.authenticate access) := by
  refine bind (store nofun) fun found => ?_
  cases found with
  | none => exact throw nofun
  | some token =>
    exact ite (throw nofun) (ite (throw nofun) (clock.bind fun now => ite (throw nofun) (pure token)))

theorem invalidate {access : Option String} : Handles tolerated (Service.invalidate access) := by
  refine bind (orThrow nofun) fun access => bind (store nofun) fun (known : Bool) => ?_
  show Handles tolerated (if known = true then _ else _)
  exact ite log (throw nofun)

theorem authorize {access client : String} {scope : Option String} :
    Handles tolerated (s.authorize access client scope) := by
  refine ite (throw nofun) (authenticate.bind fun token => newGrant.bind fun grant => ?_)
  exact bind (store nofun) fun _ => log.bind fun _ => pure grant

theorem issueFromCode {code client : String} : Handles tolerated (s.issueFromCode code client) := by
  refine log.bind fun _ => bind (store nofun) fun taken => ?_
  cases taken with
  | none => exact throw nofun
  | some grant =>
    exact ite (throw nofun) (clock.bind fun now => ite (throw nofun) (newDelegatedToken.bind mint))

end Handles

/-- Every call is a session. -/
theorem perform_session (s : Service) (call : Call) :
    Handles (∃ provider accessToken, call = .issueFromProvider provider accessToken) (s.perform call) := by
  cases call with
  | issueFromPassword email password => exact Handles.issueFromPassword.map
  | issueFromProvider provider accessToken =>
    rw [perform_issueFromProvider]
    exact Handles.identified.bind fun known =>
      (Handles.refreshProfile ⟨provider, accessToken, rfl⟩).bind fun _ => Handles.issued
  | refresh refreshToken => exact Handles.refresh.map
  | authenticate access => exact Handles.authenticate.map
  | invalidate access => exact Handles.invalidate.map
  | authorize access client scope => exact Handles.authorize.map
  | issueFromCode code client => exact Handles.issueFromCode.map

end Database

end TokenAuthority
