import Mathlib
import TokenAuthority.Database.Script
import TokenAuthority.Proofs.Database.Mirrors

/-!
# The service over a store in memory and over a database

Each call of the service mirrors itself: over a database that describes a store it comes to the same as over the
store (`stores_agree`). Where it looks something up both find the same record, up to the profiles of an account and
the time at which a grant was used, on which no result depends. Where it is refused the store is as it was, so that the
database still describes it, and after a change it only adds tokens and grants.
-/

namespace TokenAuthority

open Database

namespace Couples

variable {β : Type} {m₀ m : Memory}

/-! ### What the service draws -/

theorem newToken_bind {s : Service} {owner : String} {f g : Token → Action β}
    (rest : ∀ token, m₀.tokens.get? token.access = none → Couples m₀ m (f token) (g token)) :
    Couples m₀ m ((liftM (s.newToken owner) : Action Token) >>= f) ((liftM (s.newToken owner) : Action Token) >>= g) :=
  .hears fun _ _ => .hears fun _ new => .hears fun _ _ => rest _ new.unused

theorem newDelegatedToken_bind {s : Service} {grant read : Grant} {f g : Token → Action β} (alike : grant.Alike read)
    (rest : ∀ token, m₀.tokens.get? token.access = none → Couples m₀ m (f token) (g token)) :
    Couples m₀ m ((liftM (s.newDelegatedToken grant) : Action Token) >>= f)
      ((liftM (s.newDelegatedToken read) : Action Token) >>= g) := by
  obtain ⟨usedAt, rfl⟩ := alike
  exact .hears fun _ _ => .hears fun _ new => rest _ new.unused

theorem newGrant_bind {s : Service} {client owner : String} {scope : Option String} {f g : Grant → Action β}
    (rest : ∀ grant, Couples m₀ m (f grant) (g grant)) :
    Couples m₀ m ((liftM (s.newGrant client owner scope) : Action Grant) >>= f)
      ((liftM (s.newGrant client owner scope) : Action Grant) >>= g) :=
  .hears fun _ _ => .hears fun _ _ => rest _

/-! ### The service -/

/-- A token is stored alike if its string is new to the store in memory. -/
theorem mint {token : Token} (unused : m.tokens.get? token.access = none) :
    Couples m₀ m (Service.mint token) (Service.mint token) := by
  refine store_bind (fun now => ?_) fun _ _ _ _ _ => log_bind (pure token)
  obtain ⟨after, inserted⟩ := Memory.insertToken?_of_unused unused
  exact ⟨(), by simp only [Memory.step, inserted], addToken_tells⟩

theorem passwordMatches_bind {account read : Account} {password : String} {f g : Bool → Action β}
    (alike : account.Alike read) (rest : ∀ same, Couples m₀ m (f same) (g same)) :
    Couples m₀ m ((liftM (Service.passwordMatches account password) : Action Bool) >>= f)
      ((liftM (Service.passwordMatches read password) : Action Bool) >>= g) := by
  unfold Service.passwordMatches
  rw [alike.checkPassword, alike.id]
  split
  · exact rest true
  · exact rest false
  · exact .logs (.logs' (rest false))

/-- Saving the profile of a user, which the two stores may do or not, changes no tokens. -/
theorem refreshProfile_bind {account read : Account} {profile : Profile} {f g : Unit → Action β}
    (rest : ∀ after : Memory, after.tokens = m.tokens → Couples m₀ after (f ()) (g ())) :
    Couples m₀ m ((liftM (Service.refreshProfile account profile) : Action Unit) >>= f)
      ((liftM (Service.refreshProfile read profile) : Action Unit) >>= g) := by
  have saves : ∀ after : Memory, after.tokens = m.tokens →
      Mirrors m₀ after (f ()).run (lower ((liftM (Service.refreshProfile read profile) : Action Unit) >>= g).run) := by
    intro after kept
    unfold Service.refreshProfile
    split
    · exact rest after kept
    · refine .logs' (Mirrors.of_concludes (r := (answer (.saveProfile read.id profile)).run) saveProfile_tells ?_)
      rintro _ ⟨_, rfl, _⟩
      exact rest after kept
  unfold Service.refreshProfile
  split
  · exact saves m rfl
  · refine .logs (.visits fun now => ?_)
    have kept := saves _ (@Memory.step_tokens_of_other m now (.saveProfile account.id profile) rfl).1
    cases (m.step now (.saveProfile account.id profile)).1 with
    | ok value => exact kept
    | error failure => exact .logs kept

section

variable (representable : m.Representable) {s : Service}
include representable

theorem issueFromPassword {email password : String} :
    Couples m m (s.issueFromPassword email password) (s.issueFromPassword email password) := by
  refine log_bind (look_bind (fun _ => rfl) (tells representable trivial) fun value other same => ?_)
  have same : Option.Rel Account.Alike value other := same
  cases same with
  | none => exact log_bind (throw _)
  | @some account read alike =>
    dsimp only
    rw [alike.hasPassword, alike.activationPending, alike.id]
    split
    · exact log_bind (throw _)
    · refine passwordMatches_bind alike fun same => ?_
      split
      · exact log_bind (throw _)
      · split
        · exact log_bind (throw _)
        · exact newToken_bind fun token unused => mint unused

theorem issueFromProvider {provider accessToken : String} :
    Couples m m (s.issueFromProvider provider accessToken) (s.issueFromProvider provider accessToken) := by
  refine log_bind (orThrow_bind fun found _ => .hears fun identified _ => ?_)
  cases identified with
  | error failure => exact throw failure
  | ok profile =>
    refine look_bind (fun _ => rfl) (tells representable trivial) fun value other same => ?_
    have same : Option.Rel Account.Alike value other := same
    cases same with
    | none => exact log_bind (throw _)
    | @some account read alike =>
      refine refreshProfile_bind fun after kept => ?_
      rw [alike.id]
      refine newToken_bind fun token unused => mint ?_
      rw [kept]
      exact unused

theorem successorOf {old : Token} : Couples m m (Service.successorOf old) (Service.successorOf old) := by
  refine orThrow_bind fun access _ => look_bind (fun _ => rfl) (tells representable trivial) fun value _ same => ?_
  obtain rfl : value = _ := same
  cases value with
  | none => exact log_bind (throw _)
  | some next =>
    dsimp only
    split
    · exact throw _
    · split
      · exact throw _
      · exact pure next

theorem settleLostRefresh {old : Token} :
    Couples m m (Service.settleLostRefresh old) (Service.settleLostRefresh old) := by
  refine log_bind (look_bind (fun _ => rfl) (tells representable trivial) fun value _ same => ?_)
  obtain rfl : value = _ := same
  cases value with
  | none => exact throw _
  | some current =>
    dsimp only
    split
    · exact throw _
    · split
      · exact successorOf representable
      · exact log_bind (throw _)

theorem refresh {r : String} : Couples m m (s.refresh r) (s.refresh r) := by
  refine log_bind (look_bind (fun _ => rfl) (tells representable trivial) fun value _ same => ?_)
  obtain rfl : value = _ := same
  cases value with
  | none => exact throw _
  | some old =>
    dsimp only
    split
    · exact throw _
    · split
      · exact throw _
      · split
        · exact log_bind (successorOf representable)
        · refine newToken_bind fun next unused => ?_
          refine store_bind (tells representable unused) fun now chained _ told same => ?_
          obtain rfl : chained = _ := same
          cases chained with
          | true => exact log_bind (pure next)
          | false =>
            -- The store is as it was, so the database still describes it.
            have refused := (Memory.step_told m now (.chainToken old.access next)).refused
            rw [refused (by rw [told]; rfl)]
            exact settleLostRefresh representable

theorem authenticate_bind {access : String} {f g : Token → Action β} (rest : ∀ token, Couples m m (f token) (g token)) :
    Couples m m (Service.authenticate access >>= f) (Service.authenticate access >>= g) := by
  unfold Service.authenticate
  rw [bind_assoc, bind_assoc]
  refine look_bind (fun _ => rfl) (tells representable trivial) fun value _ same => ?_
  obtain rfl : value = _ := same
  cases value with
  | none => exact throw _
  | some token =>
    dsimp only
    split
    · exact throw _
    · split
      · exact throw _
      · rw [bind_assoc, bind_assoc]
        refine clock_bind fun now => ?_
        split
        · exact throw _
        · exact rest token

theorem authenticate {access : String} : Couples m m (Service.authenticate access) (Service.authenticate access) := by
  rw [← bind_pure (Service.authenticate access)]
  exact authenticate_bind representable pure

theorem invalidate {access : Option String} : Couples m m (Service.invalidate access) (Service.invalidate access) := by
  refine orThrow_bind fun text _ => store_bind (tells representable trivial) fun _ found _ _ same => ?_
  obtain rfl : found = _ := same
  cases found with
  | true => exact log_bind (pure ())
  | false => exact throw _

theorem authorize {access client : String} {scope : Option String} :
    Couples m m (s.authorize access client scope) (s.authorize access client scope) := by
  unfold Service.authorize
  split
  · exact throw _
  · refine authenticate_bind representable fun token => newGrant_bind fun grant => ?_
    exact store_bind (tells representable trivial) fun _ _ _ _ _ => log_bind (pure grant)

theorem issueFromCode {code client : String} :
    Couples m m (s.issueFromCode code client) (s.issueFromCode code client) := by
  refine log_bind (store_bind (tells representable trivial) fun now value other _ same => ?_)
  have kept := (@Memory.step_tokens_of_other m now (.takeGrant code) rfl).1
  have same : Option.Rel Grant.Alike value other := same
  cases same with
  | none => exact throw _
  | @some grant read alike =>
    dsimp only
    rw [alike.client]
    split
    · exact throw _
    · refine clock_bind fun now => ?_
      rw [alike.isExpired]
      split
      · exact throw _
      · refine newDelegatedToken_bind alike fun token unused => mint ?_
        rw [kept]
        exact unused

theorem perform (call : Call) : Couples m m (s.perform call) (s.perform call) := by
  cases call with
  | issueFromPassword email password => exact map _ (issueFromPassword representable)
  | issueFromProvider provider accessToken => exact map _ (issueFromProvider representable)
  | refresh r => exact map _ (refresh representable)
  | authenticate access => exact map _ (authenticate representable)
  | invalidate access => exact map _ (invalidate representable)
  | authorize access client scope => exact map _ (authorize representable)
  | issueFromCode code client => exact map _ (issueFromCode representable)

end

end Couples

namespace ScriptedLogin

def one : Profile := ⟨"p", "s", none, []⟩

def two : Profile := ⟨"q", "s", some "t", []⟩

def account : Account :=
  ⟨"u", "e", none, some ⟨"k", none, some (.ofSeconds 0)⟩, (Table.empty.insert "p" one).insert "q" two⟩

def store : Memory := Memory.empty.insertAccount account

/-- What the provider says by now. -/
def changed : Profile := { one with email := some "new" }

def surroundings : Surroundings := fun heard request =>
  match request with
  | .clock => .ofSeconds 0
  | .freshText => if heard.length = 2 then "a" else "r"
  | .log _ => ()
  | .identify _ _ => .ok changed

/-- The account, its profiles in the other order, the saving of the new one, and the insertion of the token. -/
def script : Script :=
  ⟨[⟨0, [account.toRow]⟩, ⟨0, [two.toBareRow, one.toBareRow]⟩, ⟨1, []⟩, ⟨1, []⟩].map Line.reply, []⟩

def service : Service := ⟨Registry.empty.register ⟨"p", fun _ => .done (.error .unknownToken)⟩, 3600, 600⟩

def login : Call := .issueFromProvider "p" ""

def token : Token := .issued "u" 3600 (.ofSeconds 0) "a" "r"

def overMemory : Except Failure Yield × List Heard × Nat × Memory :=
  surroundings.inMemory (fun _ => .ofSeconds 0) store (service.perform login).run

def overScript : Except Failure Yield × List Heard × List Served × Script :=
  surroundings.onDatabase (fun command => modifyGet (Script.answer command)) script (lower (service.perform login).run)

theorem representable : store.Representable where
  built := .account .empty account
  refreshStrings := by decide
  emails := by decide
  identities := by decide
  providers := by
    intro a mem entry entry_mem
    obtain rfl := List.mem_singleton.1 mem
    revert entry
    decide
  precise := by
    intro time mem
    revert time
    decide

theorem served : overScript.2.2.1 =
    [⟨.execute (.accountByIdentity "p" "s"), .ok ⟨0, [account.toRow]⟩⟩,
      ⟨.execute (.profilesOf "u"), .ok ⟨0, [two.toBareRow, one.toBareRow]⟩⟩,
      ⟨.execute (.saveProfile "u" changed), .ok ⟨1, []⟩⟩, ⟨.execute (.insertToken token), .ok ⟨1, []⟩⟩] := by
  cbv

theorem describes : ∀ one ∈ overScript.2.2.1, store.Describes one.command one.answer := by
  have linked : store.Describes (.execute (.accountByIdentity "p" "s")) (.ok ⟨0, [account.toRow]⟩) := by
    have selected : store.accountsByIdentity "p" "s" = [account] := by cbv
    refine ⟨_, rfl, ?_⟩
    show Lists Account.IsRow (store.accountsByIdentity "p" "s") [account.toRow]
    rw [selected]
    exact ⟨[account], .refl _, .cons account.isRow_toRow .nil⟩
  have profiles : store.Describes (.execute (.profilesOf "u")) (.ok ⟨0, [two.toBareRow, one.toBareRow]⟩) := by
    have selected : store.profilesOf "u" = [one, two] := by cbv
    refine ⟨_, rfl, ?_⟩
    show Lists Profile.IsRow (store.profilesOf "u") [two.toBareRow, one.toBareRow]
    rw [selected]
    exact ⟨[two, one], .swap _ _ _, .cons two.isRow_toBareRow (.cons one.isRow_toBareRow .nil)⟩
  have saved : store.Describes (.execute (.saveProfile "u" changed)) (.ok ⟨1, []⟩) := ⟨_, rfl, rfl⟩
  have inserted : store.Describes (.execute (.insertToken token)) (.ok ⟨1, []⟩) := ⟨_, rfl, rfl⟩
  intro one mem
  rw [served] at mem
  simp only [List.mem_cons, List.not_mem_nil, or_false] at mem
  rcases mem with rfl | rfl | rfl | rfl
  · exact linked
  · exact profiles
  · exact saved
  · exact inserted

end ScriptedLogin

end TokenAuthority
