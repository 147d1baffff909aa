import TokenAuthority.Proofs.Alone.Login
import TokenAuthority.Proofs.Http.Bearer

/-!
# Logging out

Who logs out names one token at most: the bearer of the request, or without a bearer the token in its query. If the token
is stored it is closed, and nothing else changes, so that logging out again changes nothing at all. Otherwise the request
is refused. Whoever wants a code for a client is the bearer by the same rule, and there a query counts for nothing.
-/

namespace TokenAuthority

theorem Table.modify_modify {α : Type} (t : Table α) (key : String) (f g : α → α) :
    (t.modify key f).modify key g = t.modify key fun a => g (f a) := by
  simp only [modify, List.map_map, mk.injEq]
  refine List.map_congr_left fun e _ => ?_
  by_cases same : e.1 = key <;> simp [same]

namespace Memory

/-- A token is marked as invalid, and all else is as it was. -/
structure Closes (m : Memory) (access : String) (token : Token) (after : Memory) : Prop where
  closed : after.tokens.get? access = some { token with valid := false }
  others : ∀ other, other ≠ access → after.tokens.get? other = m.tokens.get? other
  keys : after.tokens.entries.map Prod.fst = m.tokens.entries.map Prod.fst
  refreshIndex : after.refreshIndex = m.refreshIndex
  accounts : after.accounts = m.accounts
  grants : after.grants = m.grants

variable {m : Memory} {now later : Instant} {access : String} {token : Token}

theorem closes_step (stored : m.tokens.get? access = some token) :
    m.Closes access token (m.step now (.invalidateToken access)).2 := by
  refine ⟨?_, fun other different => ?_, ?_, rfl, rfl, rfl⟩
  · simp [step, Table.get?_modify, stored]
  · simp [step, Table.get?_modify, different]
  · simp only [step, Table.modify, List.map_map]
    refine List.map_congr_left fun e _ => ?_
    by_cases same : e.1 = access <;> simp [same]

theorem step_invalidateToken_of_absent (absent : m.tokens.get? access = none) :
    (m.step now (.invalidateToken access)).2 = m := by
  rw [step, Table.modify_of_absent absent]

theorem step_invalidateToken_again : ((m.step now (.invalidateToken access)).2.step later (.invalidateToken access)).2 =
    (m.step now (.invalidateToken access)).2 := by
  simp only [step, Table.modify_modify]

end Memory

namespace World

variable {w : World} {s : Service} {r : Http.Request} {j : Journal} {m : Memory} {access : String} {token : Token}

/-- Answers a request so many times, one right after the other. -/
def serveAgain (w : World) (s : Service) (r : Http.Request) :
    Nat → Journal × Memory → List Http.Response × (Journal × Memory)
  | 0, state => ([], state)
  | n + 1, state =>
    let (response, after) := w.serve s r state
    let (responses, last) := serveAgain w s r n after
    (response :: responses, last)

theorem serve_of_nothing {call : Call} {journal : Journal} {after : Memory} (asks : Http.Asks r call)
    (does : w.alone (s.perform call) (j, m) = (.ok .nothing, journal, after)) :
    w.serve s r (j, m) = ((Http.Response.bare 200 []).sent r.method, journal, after) := by
  obtain ⟨response, reports, served⟩ := Http.run_respond_of_asks w (fun _ => .none) j m asks
  have ran : ((s.perform call).run.run (w.answer fun _ => .none)).run (j, m) = (.ok .nothing, journal, after) := does
  rw [ran] at reports served
  cases reports
  exact served

theorem serve_logout_of_stored (asks : Http.Asks r (.invalidate (some access)))
    (stored : m.tokens.get? access = some token) : ∃ journal,
    w.serve s r (j, m) = ((Http.Response.bare 200 []).sent r.method, journal,
      (m.step (w.clock j.readings) (.invalidateToken access)).2) := by
  have known : m.tokens.contains access = true := by rw [Table.contains, stored]; rfl
  have does : ∃ journal, w.alone (s.perform (.invalidate (some access))) (j, m) =
      (.ok .nothing, journal, (m.step (w.clock j.readings) (.invalidateToken access)).2) := by
    simp only [Service.perform, Service.invalidate, Service.orThrow, pure_bind, alone_map, alone_bind,
      alone_invalidateToken, known, if_true, alone_log]
    exact ⟨_, rfl⟩
  obtain ⟨journal, does⟩ := does
  exact ⟨journal, serve_of_nothing asks does⟩

/-- Logging out again, and as often as one likes, has the same answer and changes nothing more. -/
theorem serveAgain_of_stored (asks : Http.Asks r (.invalidate (some access)))
    (stored : m.tokens.get? access = some token) (n : Nat) :
    (w.serveAgain s r (n + 1) (j, m)).1 = List.replicate (n + 1) ((Http.Response.bare 200 []).sent r.method) ∧
      (w.serveAgain s r (n + 1) (j, m)).2.2 = (m.step (w.clock j.readings) (.invalidateToken access)).2 := by
  induction n generalizing j m token with
  | zero =>
    obtain ⟨journal, served⟩ := serve_logout_of_stored (w := w) (s := s) (j := j) asks stored
    simp only [serveAgain, served]
    exact ⟨rfl, trivial⟩
  | succ n ih =>
    obtain ⟨journal, served⟩ := serve_logout_of_stored (w := w) (s := s) (j := j) asks stored
    -- The token is still stored, and closing it once more leaves it as it is.
    have closed := (@Memory.closes_step _ (w.clock j.readings) _ _ stored).closed
    obtain ⟨answers, last⟩ := ih (j := journal) closed
    rw [serveAgain, served]
    dsimp only
    rw [answers, last]
    exact ⟨rfl, Memory.step_invalidateToken_again⟩

theorem serve_logout_of_none (asks : Http.Asks r (.invalidate none)) :
    (w.serve s r (j, m)).1 = (Http.Response.json 401 Failure.noCredentials.body).sent r.method ∧
      (w.serve s r (j, m)).2.2 = m :=
  serve_of_error asks rfl

theorem serve_logout_of_unknown (asks : Http.Asks r (.invalidate (some access)))
    (unknown : m.tokens.get? access = none) :
    (w.serve s r (j, m)).1 = (Http.Response.json 401 Failure.unknownAccess.body).sent r.method ∧
      (w.serve s r (j, m)).2.2 = m := by
  have absent : m.tokens.contains access = false := by rw [Table.contains, unknown]; rfl
  have does : w.alone (s.perform (.invalidate (some access))) (j, m) =
      (.error .unknownAccess, { j with readings := j.readings + 1 }, m) := by
    simp only [Service.perform, Service.invalidate, Service.orThrow, pure_bind, alone_map, alone_bind,
      alone_invalidateToken, absent, Bool.false_eq_true, if_false, alone_throw,
      Memory.step_invalidateToken_of_absent unknown]
    rfl
  obtain ⟨answer, after⟩ := serve_of_error (s := s) (w := w) (j := j) (m := m) asks (congrArg Prod.fst does)
  rw [does] at after
  exact ⟨answer, after⟩

end World

namespace Http

open Text

/-- The token that a request to log out names, if there is one. -/
inductive NamesToken (r : Request) : Option String → Prop where
  | bearer {access : String} (bears : Bears r access) : NamesToken r (some access)
  | query {access : String} (nobody : ∀ other, ¬Bears r other)
      (given : ("auth_token", access) ∈ Form.read (Utf8.encode r.target.query.toList)) : NamesToken r (some access)
  | nothing (nobody : ∀ other, ¬Bears r other)
      (lacks : Form.Lacks (Form.read (Utf8.encode r.target.query.toList)) "auth_token") : NamesToken r none

variable {r : Request} {named : Option String} {call : Call} {access client : String} {scope : Option String}

/-- A request to log out asks for nothing but the end of the token that it names. -/
theorem asks_logout_iff (delete : r.method = "DELETE") (path : r.target.path = "/auth_token")
    (once : Form.Once ["auth_token"] (Form.read (Utf8.encode r.target.query.toList))) :
    Asks r call ↔ ∃ named, NamesToken r named ∧ call = .invalidate named := by
  have other : r.method ≠ "POST" := by rw [delete]; decide
  have fields : r.fields = Form.read (Utf8.encode r.target.query.toList) := if_neg other
  have readable : Readable r ["auth_token"] :=
    ⟨fun post => (other post).elim, fun post => (other post).elim, fields ▸ once⟩
  constructor
  · rintro ⟨reaches, -, names⟩
    cases reaches with
    | issue path method => simp [delete] at method
    | authorize path method => exact (other method).elim
    | exchange path method => exact (other method).elim
    | logout path method =>
      cases names with
      | bearer bearer => exact ⟨_, .bearer (bearer?_eq_some_iff.1 bearer), rfl⟩
      | named nobody given => exact ⟨_, .query (bearer?_eq_none_iff.1 nobody) (fields ▸ given), rfl⟩
      | nobody nobody lacks => exact ⟨_, .nothing (bearer?_eq_none_iff.1 nobody) (fields ▸ lacks), rfl⟩
  · rintro ⟨named, names, rfl⟩
    refine .of (.logout path delete) readable ?_
    cases names with
    | bearer bears => exact .bearer (bearer?_eq_some_iff.2 bears)
    | query nobody given => exact .named (bearer?_eq_none_iff.2 nobody) (fields ▸ given)
    | nothing nobody lacks => exact .nobody (bearer?_eq_none_iff.2 nobody) (fields ▸ lacks)

theorem exists_namesToken (r : Request) : ∃ named, NamesToken r named := by
  cases bearer : bearer? r with
  | some access => exact ⟨_, .bearer (bearer?_eq_some_iff.1 bearer)⟩
  | none =>
    have nobody := bearer?_eq_none_iff.1 bearer
    by_cases given : ∃ access, ("auth_token", access) ∈ Form.read (Utf8.encode r.target.query.toList)
    · obtain ⟨access, given⟩ := given
      exact ⟨_, .query nobody given⟩
    · exact ⟨_, .nothing nobody fun access mem => given ⟨access, mem⟩⟩

theorem Asks.unique {other : Call} (asks : Asks r call) (asks' : Asks r other) : other = call := by
  have decided := decide_of_asks asks
  rw [decide_of_asks asks'] at decided
  exact Decision.call.inj decided

theorem bears_of_asks_authorize (asks : Asks r (.authorize access client scope)) : Bears r access := by
  obtain ⟨-, -, names⟩ := asks
  cases names with
  | authorize bearer given extent => exact bearer?_eq_some_iff.1 bearer

theorem exists_asks_authorize (reaches : Reaches r .authorize) (readable : Readable r Endpoint.authorize.names)
    (bears : Bears r access) (given : ("client_id", client) ∈ r.fields) :
    ∃ scope, Asks r (.authorize access client scope) := by
  refine ⟨Form.value? r.fields "scope", .of reaches readable ?_⟩
  exact .authorize (bearer?_eq_some_iff.2 bears) given fun text =>
    Form.value?_eq_some_iff readable.once (by simp [Endpoint.names])

theorem sent_bare (method : String) : (Response.bare 200 []).sent method = ⟨200, sharedHeaders, ""⟩ := by
  simp [Response.sent, Response.bare]

/-- A query plays no part in asking for a code. -/
theorem decide_authorize_of_query (post : r.method = "POST") (path : r.target.path = "/oauth/authorize")
    (query : String) : ({ r with target := { r.target with query } } : Request).decide = r.decide := by
  rw [decide_of_reaches (.authorize path post),
    decide_of_reaches (r := { r with target := { r.target with query } }) (.authorize path post)]
  simp only [Request.form, post, if_true]
  rfl

/-- Logging out, with one token at most in the query. The request names the bearer, or else the token in the query, or
none. A token that is stored is closed, with nothing else changed, however often the request is repeated, and each time
the answer is the same. Without a token, or with an unknown one, the request is refused and changes nothing. Codes are
granted to the bearer by the same rule, but whatever the query says. -/
theorem logout_closes_named_token (s : Service) (w : World) :
    (∀ r : Request, r.method = "DELETE" → r.target.path = "/auth_token" →
      Form.Once ["auth_token"] (Form.read (Utf8.encode r.target.query.toList)) →
      ∃ named, NamesToken r named ∧ (∀ other, NamesToken r other → other = named) ∧
        (∀ call, Asks r call ↔ call = .invalidate named) ∧ ∀ (j : Journal) (m : Memory),
          (∀ access token, named = some access → m.tokens.get? access = some token →
            ∃ after, m.Closes access token after ∧ ∀ n,
              (w.serveAgain s r (n + 1) (j, m)).1 = List.replicate (n + 1) ⟨200, sharedHeaders, ""⟩ ∧
                (w.serveAgain s r (n + 1) (j, m)).2.2 = after) ∧
          (∀ access, named = some access → m.tokens.get? access = none →
            (w.serve s r (j, m)).1 = (Response.json 401 Failure.unknownAccess.body).sent "DELETE" ∧
              (w.serve s r (j, m)).2.2 = m) ∧
          (named = none → (w.serve s r (j, m)).1 = (Response.json 401 Failure.noCredentials.body).sent "DELETE" ∧
            (w.serve s r (j, m)).2.2 = m)) ∧
    ∀ r : Request, r.method = "POST" → r.target.path = "/oauth/authorize" →
      (∀ access client scope, Asks r (.authorize access client scope) → Bears r access) ∧
      (Readable r ["client_id", "scope"] →
        (∀ access client, Bears r access → ("client_id", client) ∈ r.fields →
          ∃ scope, Asks r (.authorize access client scope)) ∧
        ((∀ access, ¬Bears r access) →
          respond s r = .done ((Response.json 401 Failure.noCredentials.body).sent "POST"))) ∧
      ∀ query, respond s { r with target := { r.target with query } } = respond s r := by
  constructor
  · intro r delete path once
    obtain ⟨named, names⟩ := exists_namesToken r
    have asks : Asks r (.invalidate named) := (asks_logout_iff delete path once).2 ⟨named, names, rfl⟩
    refine ⟨named, names, fun other names' => ?_, fun call => ⟨fun asks' => asks.unique asks', ?_⟩, fun j m => ?_⟩
    · have asks' : Asks r (.invalidate other) := (asks_logout_iff delete path once).2 ⟨other, names', rfl⟩
      exact Call.invalidate.inj (asks.unique asks')
    · rintro rfl
      exact asks
    · refine ⟨?_, ?_, ?_⟩
      · rintro access token rfl stored
        refine ⟨_, @Memory.closes_step _ (w.clock j.readings) _ _ stored, fun n => ?_⟩
        rw [← sent_bare "DELETE", ← delete]
        exact World.serveAgain_of_stored asks stored n
      · rintro access rfl unknown
        rw [← delete]
        exact World.serve_logout_of_unknown asks unknown
      · rintro rfl
        rw [← delete]
        exact World.serve_logout_of_none asks
  · intro r post path
    refine ⟨fun access client scope asks => bears_of_asks_authorize asks, fun readable => ⟨?_, fun nobody => ?_⟩,
      fun query => ?_⟩
    · intro access client bears given
      exact exists_asks_authorize (.authorize path post) readable bears given
    · have refused : Refused r _ := .wants (.authorize path post) readable (.bearer (bearer?_eq_none_iff.2 nobody))
      rw [respond_of_refused refused, post]
      rfl
    · rw [respond_eq, respond_eq, decide_authorize_of_query post path query]

/-- Of two authorization headers the first one counts, without the blanks around its token, and the query does not. -/
theorem padded_bearer_logs_out : ∃ (s : Service) (w : World) (r : Request) (m : Memory) (token : Token),
    r.target.query = "auth_token=q" ∧ m.tokens.get? "a b" = some token ∧ token.valid = true ∧ token.next = some "n" ∧
    NamesToken r (some "a b") ∧ (w.serve s r (.empty, m)).1 = ⟨200, sharedHeaders, ""⟩ ∧
    m.Closes "a b" token (w.serve s r (.empty, m)).2.2 := by
  let s : Service := ⟨.empty, 3600, 600⟩
  let w : World := ⟨fun _ => .ofSeconds 0, fun _ => "", fun _ => .failed⟩
  let header (text : String) : String × List UInt8 := ("authorization", Utf8.encode text.toList)
  let r : Request := ⟨"DELETE", ⟨"/auth_token", "auth_token=q"⟩, [header "Bearer \t a b ", header "Bearer c"], []⟩
  let token : Token := { Token.issued "u" 60 (.ofSeconds 0) "a b" "r" with next := some "n" }
  let m : Memory := { Memory.empty with tokens := .ofList [("a b", token)] }
  have once : Form.Once ["auth_token"] (Form.read (Utf8.encode r.target.query.toList)) :=
    Form.repeated?_eq_none_iff.1 (by decide)
  have bears : Bears r "a b" := bearer?_eq_some_iff.1 (by rfl)
  obtain ⟨named, names, unique, -, acts⟩ := (logout_closes_named_token s w).1 r rfl rfl once
  obtain rfl := unique (some "a b") (.bearer bears)
  obtain ⟨after, closes, repeats⟩ := (acts .empty m).1 "a b" token rfl rfl
  obtain ⟨answers, last⟩ := repeats 0
  have answer : (w.serve s r (.empty, m)).1 = ⟨200, sharedHeaders, ""⟩ := (List.cons.inj answers).1
  have same : (w.serve s r (.empty, m)).2.2 = after := last
  exact ⟨s, w, r, m, token, rfl, rfl, rfl, rfl, names, answer, same ▸ closes⟩

end Http

end TokenAuthority
