import TokenAuthority.Proofs.Http.Requests
import TokenAuthority.World

/-!
# Requests and calls of the service

Answering a request does one of two things. A request that is refused has no effect at all. Any other one makes
the call that it asks for, once, and has no effect but that of the call: afterwards the clock is read if there is
a token to be shown, and what the call came to is put into an answer.
-/

namespace TokenAuthority.Http

/-- The answer that tells what a call came to, at the time of the answer. -/
inductive Reports (now : Instant) : Except Failure Yield → Response → Prop where
  | failure (failure : Failure) : Reports now (.error failure) (.json failure.status
      (.object [("error", .object [("code", .text failure.code), ("message", .text failure.message)])]))
  | token (token : Token) : Reports now (.ok (.token token)) (.json 200 (token.wire now))
  | grant (grant : Grant) : Reports now (.ok (.grant grant)) (.json 201 grant.wire)
  | nothing : Reports now (.ok .nothing) (.bare 200 [])

/-- How often the clock is read to report what a call came to. -/
def readingsFor : Except Failure Yield → Nat
  | .ok (.token _) => 1
  | _ => 0

/-- An answer as it is sent. -/
structure Sends (method : String) (response sent : Response) : Prop where
  status : sent.status = response.status
  headers : sent.headers = sharedHeaders ++ response.headers
  head : method = "HEAD" → sent.body = ""
  body : method ≠ "HEAD" → sent.body = response.body

variable {s : Service} {r : Request} {response : Response} {call : Call}

theorem sends_sent (response : Response) (method : String) : Sends method response (response.sent method) :=
  ⟨rfl, rfl, fun head => if_pos head, fun other => if_neg other⟩

theorem respond_of_refused (refused : Refused r response) : respond s r = .done (response.sent r.method) := by
  rw [respond, decide_of_refused refused]
  rfl

theorem respond_of_asks (asks : Asks r call) : respond s r = (s.perform call).run.bind fun outcome =>
    (Response.ofOutcome outcome).bind fun response => .done (response.sent r.method) := by
  rw [respond, decide_of_asks asks]
  rfl

section

variable (w : World) (interference : StoreCall.Kind → Interference) (j : Journal) (m : Memory)

/-- Reporting reads the clock at most, and leaves the store alone. -/
theorem run_ofOutcome (outcome : Except Failure Yield) : ∃ response, Reports (w.clock j.readings) outcome response ∧
    ((Response.ofOutcome outcome).run (w.answer interference)).run (j, m) =
      (response, { j with readings := j.readings + readingsFor outcome }, m) := by
  cases outcome with
  | error failure => exact ⟨_, .failure failure, rfl⟩
  | ok yield =>
    cases yield with
    | token token => exact ⟨_, .token token, rfl⟩
    | grant grant => exact ⟨_, .grant grant, rfl⟩
    | nothing => exact ⟨_, .nothing, rfl⟩

theorem run_respond_of_asks (asks : Asks r call) :
    let after := ((s.perform call).run.run (w.answer interference)).run (j, m)
    ∃ response, Reports (w.clock after.2.1.readings) after.1 response ∧
      ((respond s r).run (w.answer interference)).run (j, m) =
        (response.sent r.method, { after.2.1 with readings := after.2.1.readings + readingsFor after.1 }, after.2.2) := by
  intro after
  obtain ⟨response, reports, answered⟩ := run_ofOutcome w interference after.2.1 after.2.2 after.1
  refine ⟨response, reports, ?_⟩
  rw [respond_of_asks asks, Program.run_bind, StateT.run_bind]
  show ((((Response.ofOutcome after.1).bind _).run (w.answer interference)).run (after.2.1, after.2.2)) = _
  rw [Program.run_bind, StateT.run_bind, answered]
  rfl

end

/-- Every request is refused, and then nothing else happens, or it asks for one call. This call is carried out
once, and the store and the journal of the surroundings are afterwards what the call makes of them, but that the
clock is read once more to show a token. The answer has the status and the body of the refusal, or those that
report what the call came to; an answer to HEAD has no body. -/
theorem requests_refine_calls (s : Service) (r : Request) :
    (∃ response sent, Refused r response ∧ (∀ call, ¬Asks r call) ∧ Sends r.method response sent ∧
      respond s r = .done sent) ∨
    ∃ call, Asks r call ∧ (∀ other, Asks r other → other = call) ∧ (∀ response, ¬Refused r response) ∧
      (respond s r = (s.perform call).run.bind fun outcome =>
        (Response.ofOutcome outcome).bind fun response => .done (response.sent r.method)) ∧
      ∀ (w : World) (interference : StoreCall.Kind → Interference) (j : Journal) (m : Memory),
        let after := ((s.perform call).run.run (w.answer interference)).run (j, m)
        ∃ response sent, Reports (w.clock after.2.1.readings) after.1 response ∧ Sends r.method response sent ∧
          ((respond s r).run (w.answer interference)).run (j, m) =
            (sent, { after.2.1 with readings := after.2.1.readings + readingsFor after.1 }, after.2.2) := by
  rcases asks_or_refused r with ⟨call, asks⟩ | ⟨response, refused⟩
  · have decided := decide_of_asks asks
    refine .inr ⟨call, asks, fun other asks' => ?_, fun response refused => ?_, respond_of_asks asks,
      fun w interference j m => ?_⟩
    · rw [decide_of_asks asks'] at decided
      exact Decision.call.inj decided
    · rw [decide_of_refused refused] at decided
      cases decided
    · obtain ⟨response, reports, answered⟩ := run_respond_of_asks w interference j m asks
      exact ⟨response, _, reports, sends_sent response r.method, answered⟩
  · refine .inl ⟨response, _, refused, fun call asks => ?_, sends_sent response r.method, respond_of_refused refused⟩
    have decided := decide_of_asks asks
    rw [decide_of_refused refused] at decided
    cases decided

/-- The credentials of a provider come before a refresh string, also in a request for the head. -/
example : Request.decide ⟨"HEAD", ⟨"/auth_token", "refresh_token=r&provider=p&access_token=%61"⟩, [], []⟩ =
    .call (.issueFromProvider "p" "a") := by rfl

end TokenAuthority.Http
