import TokenAuthority.Http.Route
import TokenAuthority.Proofs.Http.Fields

/-!
# What a request asks for

A request reaches an endpoint by its path and its method, its form can be read or not, and the fields of the
form name a call or leave something to be wanted. Each of the three has a rule of its own, and from them it is
said which call a request asks for (`Asks`) and with which answer it is refused (`Refused`). A request does one
or the other, and that is what is decided: `decide_eq_call_iff`, `decide_eq_answer_iff`.
-/

namespace TokenAuthority.Http

open Text

/-! ### Where a request goes -/

/-- The methods that a route answers, but for OPTIONS. -/
def Route.methods : Route → List String
  | status => ["GET", "HEAD"]
  | authToken => ["GET", "HEAD", "POST", "DELETE"]
  | authorize | token => ["POST"]

/-- What a request can be for. -/
inductive Endpoint where
  | issue
  | logout
  | authorize
  | exchange

/-- The names of the fields that matter to an endpoint. -/
def Endpoint.names : Endpoint → List String
  | issue => credentialNames
  | logout => ["auth_token"]
  | authorize => ["client_id", "scope"]
  | exchange => ["grant_type", "code", "client_id"]

inductive Reaches (r : Request) : Endpoint → Prop where
  | issue (path : r.target.path = "/auth_token") (method : r.method = "GET" ∨ r.method = "HEAD" ∨ r.method = "POST") :
      Reaches r .issue
  | logout (path : r.target.path = "/auth_token") (method : r.method = "DELETE") : Reaches r .logout
  | authorize (path : r.target.path = "/oauth/authorize") (method : r.method = "POST") : Reaches r .authorize
  | exchange (path : r.target.path = "/oauth/token") (method : r.method = "POST") : Reaches r .exchange

/-- The answers to requests that reach no endpoint. -/
inductive Astray (r : Request) : Response → Prop where
  | options (method : r.method = "OPTIONS") : Astray r (.bare 200 ([("access-control-allow-methods", "*"),
      ("access-control-allow-headers", "*")] ++
      ((Route.ofPath? r.target.path).map fun route => ("allow", route.allowed)).toList))
  | path (method : r.method ≠ "OPTIONS") (unknown : Route.ofPath? r.target.path = none) : Astray r (.bare 404 [])
  | method {route : Route} (method : r.method ≠ "OPTIONS") (known : Route.ofPath? r.target.path = some route)
      (wrong : r.method ∉ route.methods) : Astray r (.bare 405 [("allow", route.allowed)])
  | status (path : r.target.path = "/status") (method : r.method = "GET" ∨ r.method = "HEAD") : Astray r .health

/-! ### The form of a request -/

/-- The fields that a request gives: in its body if it is a POST, and otherwise in its query. -/
def Request.fields (r : Request) : List (String × String) :=
  if r.method = "POST" then Form.read r.body else Form.read (Utf8.encode r.target.query.toList)

/-- The body is declared to be a form. -/
def Request.IsForm (r : Request) : Prop := ∃ value, r.header? "content-type" = some value ∧ formType <+: value

structure Readable (r : Request) (names : List String) : Prop where
  typed : r.method = "POST" → r.IsForm
  short : r.method = "POST" → r.body.length ≤ maxForm
  once : Form.Once names r.fields

/-- The answers to requests of which the form cannot be read. -/
inductive Unreadable (r : Request) (names : List String) : Response → Prop where
  | untyped (post : r.method = "POST") (untyped : ¬r.IsForm) : Unreadable r names (.plain 415
      "Form requests must have \x60Content-Type: application/x-www-form-urlencoded\x60")
  | long (post : r.method = "POST") (typed : r.IsForm) (long : maxForm < r.body.length) : Unreadable r names
      (.plain 413 "Failed to buffer the request body: length limit exceeded")
  | body {name : String} (post : r.method = "POST") (typed : r.IsForm) (short : r.body.length ≤ maxForm)
      (repeats : Form.Repeats names r.fields name) : Unreadable r names (.plain 422
        ("Failed to deserialize form body: duplicate field \x60" ++ name ++ "\x60"))
  | query {name : String} (get : r.method ≠ "POST") (repeats : Form.Repeats names r.fields name) :
      Unreadable r names (.plain 400
        ("Failed to deserialize query string: duplicate field \x60" ++ name ++ "\x60"))

/-! ### What the fields name -/

/-- The call that the fields of a request, and the bearer in its headers, name. Credentials that are complete
come before others: a password before a provider, and both before a refresh string. -/
inductive Names (r : Request) : Endpoint → Call → Prop where
  | password {email password : String} (first : ("email", email) ∈ r.fields)
      (second : ("password", password) ∈ r.fields) : Names r .issue (.issueFromPassword email password)
  | provider {provider accessToken : String}
      (noPassword : Form.Lacks r.fields "email" ∨ Form.Lacks r.fields "password")
      (first : ("provider", provider) ∈ r.fields) (second : ("access_token", accessToken) ∈ r.fields) :
      Names r .issue (.issueFromProvider provider accessToken)
  | refresh {refreshToken : String} (noPassword : Form.Lacks r.fields "email" ∨ Form.Lacks r.fields "password")
      (noProvider : Form.Lacks r.fields "provider" ∨ Form.Lacks r.fields "access_token")
      (given : ("refresh_token", refreshToken) ∈ r.fields) : Names r .issue (.refresh refreshToken)
  | bearer {access : String} (bearer : bearer? r = some access) : Names r .logout (.invalidate (some access))
  | named {access : String} (nobody : bearer? r = none) (given : ("auth_token", access) ∈ r.fields) :
      Names r .logout (.invalidate (some access))
  | nobody (nobody : bearer? r = none) (lacks : Form.Lacks r.fields "auth_token") : Names r .logout (.invalidate none)
  | authorize {access client : String} {scope : Option String} (bearer : bearer? r = some access)
      (given : ("client_id", client) ∈ r.fields) (extent : ∀ text, scope = some text ↔ ("scope", text) ∈ r.fields) :
      Names r .authorize (.authorize access client scope)
  | exchange {code client : String} (supported : ("grant_type", "authorization_code") ∈ r.fields)
      (first : ("code", code) ∈ r.fields) (second : ("client_id", client) ∈ r.fields) :
      Names r .exchange (.issueFromCode code client)

/-- What is wrong with a request of which the fields name no call. -/
inductive Wants (r : Request) : Endpoint → Failure → Prop where
  | credentials (noPassword : Form.Lacks r.fields "email" ∨ Form.Lacks r.fields "password")
      (noProvider : Form.Lacks r.fields "provider" ∨ Form.Lacks r.fields "access_token")
      (noRefresh : Form.Lacks r.fields "refresh_token") : Wants r .issue (.invalidArgument
        "Provide email and password, provider and access_token, or refresh_token.")
  | bearer (nobody : bearer? r = none) : Wants r .authorize .noCredentials
  | client {access : String} (bearer : bearer? r = some access) (lacks : Form.Lacks r.fields "client_id") :
      Wants r .authorize (.invalidArgument "client_id is required.")
  | grantType (lacks : Form.Lacks r.fields "grant_type") :
      Wants r .exchange (.invalidArgument "grant_type is required.")
  | unsupported {grantType : String} (given : ("grant_type", grantType) ∈ r.fields)
      (other : grantType ≠ "authorization_code") :
      Wants r .exchange (.invalidArgument ("Unsupported grant type: " ++ grantType))
  | code (supported : ("grant_type", "authorization_code") ∈ r.fields)
      (lacks : Form.Lacks r.fields "code" ∨ Form.Lacks r.fields "client_id") :
      Wants r .exchange (.invalidArgument "code and client_id are required.")

/-! ### What becomes of a request -/

/-- A request asks for a call of the service. -/
inductive Asks (r : Request) (call : Call) : Prop where
  | of {endpoint : Endpoint} (reaches : Reaches r endpoint) (readable : Readable r endpoint.names)
      (names : Names r endpoint call)

/-- A request is answered right away. -/
inductive Refused (r : Request) : Response → Prop where
  | astray {response : Response} (astray : Astray r response) : Refused r response
  | unreadable {endpoint : Endpoint} {response : Response} (reaches : Reaches r endpoint)
      (unreadable : Unreadable r endpoint.names response) : Refused r response
  | wants {endpoint : Endpoint} {failure : Failure} (reaches : Reaches r endpoint)
      (readable : Readable r endpoint.names) (wants : Wants r endpoint failure) : Refused r (.failure failure)

variable {r : Request} {endpoint : Endpoint} {names : List String} {response : Response} {call : Call}
  {failure : Failure} {name value : String}

/-! ### One or the other -/

theorem reaches_or_astray (r : Request) : (∃ endpoint, Reaches r endpoint) ∨ ∃ response, Astray r response := by
  by_cases options : r.method = "OPTIONS"
  · exact .inr ⟨_, .options options⟩
  cases known : Route.ofPath? r.target.path with
  | none => exact .inr ⟨_, .path options known⟩
  | some route =>
    by_cases method : r.method ∈ route.methods
    · unfold Route.ofPath? at known
      split at known
      · rename_i path
        obtain rfl := Option.some.inj known
        exact .inr ⟨_, .status path (by simpa [Route.methods] using method)⟩
      · split at known
        · rename_i path
          obtain rfl := Option.some.inj known
          by_cases logout : r.method = "DELETE"
          · exact .inl ⟨_, .logout path logout⟩
          · exact .inl ⟨_, .issue path (by simpa [Route.methods, logout] using method)⟩
        · split at known
          · rename_i path
            obtain rfl := Option.some.inj known
            exact .inl ⟨_, .authorize path (by simpa [Route.methods] using method)⟩
          · split at known
            · rename_i path
              obtain rfl := Option.some.inj known
              exact .inl ⟨_, .exchange path (by simpa [Route.methods] using method)⟩
            · cases known
    · exact .inr ⟨_, .method options known method⟩

theorem readable_or_unreadable (r : Request) (names : List String) :
    Readable r names ∨ ∃ response, Unreadable r names response := by
  by_cases post : r.method = "POST"
  · by_cases typed : r.IsForm
    · rcases Nat.lt_or_ge maxForm r.body.length with long | short
      · exact .inr ⟨_, .long post typed long⟩
      · rcases Form.once_or_repeats names r.fields with once | ⟨name, repeats⟩
        · exact .inl ⟨fun _ => typed, fun _ => short, once⟩
        · exact .inr ⟨_, .body post typed short repeats⟩
    · exact .inr ⟨_, .untyped post typed⟩
  · rcases Form.once_or_repeats names r.fields with once | ⟨name, repeats⟩
    · exact .inl ⟨fun is => (post is).elim, fun is => (post is).elim, once⟩
    · exact .inr ⟨_, .query post repeats⟩

theorem given_or_lacks (r : Request) (name : String) :
    (∃ value, (name, value) ∈ r.fields) ∨ Form.Lacks r.fields name := by
  by_cases given : ∃ value, (name, value) ∈ r.fields
  · exact .inl given
  · exact .inr fun value mem => given ⟨value, mem⟩

/-- Two fields are both given, or one of them is lacking. -/
theorem both_or_lacks (r : Request) (name other : String) :
    (∃ value value', (name, value) ∈ r.fields ∧ (other, value') ∈ r.fields) ∨
      (Form.Lacks r.fields name ∨ Form.Lacks r.fields other) := by
  rcases given_or_lacks r name with ⟨value, given⟩ | lacks
  · rcases given_or_lacks r other with ⟨value', given'⟩ | lacks
    · exact .inl ⟨value, value', given, given'⟩
    · exact .inr (.inr lacks)
  · exact .inr (.inl lacks)

theorem names_or_wants (readable : Readable r endpoint.names) :
    (∃ call, Names r endpoint call) ∨ ∃ failure, Wants r endpoint failure := by
  cases endpoint with
  | issue =>
    rcases both_or_lacks r "email" "password" with ⟨email, password, first, second⟩ | noPassword
    · exact .inl ⟨_, .password first second⟩
    · rcases both_or_lacks r "provider" "access_token" with ⟨provider, accessToken, first, second⟩ | noProvider
      · exact .inl ⟨_, .provider noPassword first second⟩
      · rcases given_or_lacks r "refresh_token" with ⟨refreshToken, given⟩ | noRefresh
        · exact .inl ⟨_, .refresh noPassword noProvider given⟩
        · exact .inr ⟨_, .credentials noPassword noProvider noRefresh⟩
  | logout =>
    cases bearer : bearer? r with
    | some access => exact .inl ⟨_, .bearer bearer⟩
    | none =>
      rcases given_or_lacks r "auth_token" with ⟨access, given⟩ | lacks
      · exact .inl ⟨_, .named bearer given⟩
      · exact .inl ⟨_, .nobody bearer lacks⟩
  | authorize =>
    cases bearer : bearer? r with
    | none => exact .inr ⟨_, .bearer bearer⟩
    | some access =>
      rcases given_or_lacks r "client_id" with ⟨client, given⟩ | lacks
      · have extent (text : String) : Form.value? r.fields "scope" = some text ↔ ("scope", text) ∈ r.fields :=
          Form.value?_eq_some_iff readable.once (by simp [Endpoint.names])
        exact .inl ⟨_, .authorize bearer given extent⟩
      · exact .inr ⟨_, .client bearer lacks⟩
  | exchange =>
    rcases given_or_lacks r "grant_type" with ⟨grantType, given⟩ | lacks
    · by_cases supported : grantType = "authorization_code"
      · subst supported
        rcases both_or_lacks r "code" "client_id" with ⟨code, client, first, second⟩ | lacks
        · exact .inl ⟨_, .exchange given first second⟩
        · exact .inr ⟨_, .code given lacks⟩
      · exact .inr ⟨_, .unsupported given supported⟩
    · exact .inr ⟨_, .grantType lacks⟩

theorem asks_or_refused (r : Request) : (∃ call, Asks r call) ∨ ∃ response, Refused r response := by
  rcases reaches_or_astray r with ⟨endpoint, reaches⟩ | ⟨response, astray⟩
  · rcases readable_or_unreadable r endpoint.names with readable | ⟨response, unreadable⟩
    · rcases names_or_wants readable with ⟨call, names⟩ | ⟨failure, wants⟩
      · exact .inl ⟨call, .of reaches readable names⟩
      · exact .inr ⟨_, .wants reaches readable wants⟩
    · exact .inr ⟨response, .unreadable reaches unreadable⟩
  · exact .inr ⟨response, .astray astray⟩

/-! ### What is decided -/

/-- What is read of the form of a request. -/
def Request.form (r : Request) (names : List String) : Except Response (List (String × String)) :=
  if r.method = "POST" then bodyFields r names else queryFields r names

/-- What is made of the fields of a request. -/
def Endpoint.read (r : Request) : Endpoint → List (String × String) → Except Failure Call
  | issue => Http.issue
  | logout => fun fields => .ok (.invalidate ((bearer? r).or (Form.value? fields "auth_token")))
  | authorize => Http.authorize (bearer? r)
  | exchange => Http.exchange

theorem decide_of_reaches (reaches : Reaches r endpoint) :
    r.decide = .ofExcept (r.form endpoint.names) (endpoint.read r) := by
  cases reaches with
  | issue path method =>
    rcases method with method | method | method <;>
      simp [Request.decide, path, method, Route.ofPath?, Route.decide, Request.form, Endpoint.names, Endpoint.read]
  | logout path method =>
    simp [Request.decide, path, method, Route.ofPath?, Route.decide, Request.form, Endpoint.names, Endpoint.read]
  | authorize path method =>
    simp [Request.decide, path, method, Route.ofPath?, Route.decide, Request.form, Endpoint.names, Endpoint.read]
  | exchange path method =>
    simp [Request.decide, path, method, Route.ofPath?, Route.decide, Request.form, Endpoint.names, Endpoint.read]

theorem decide_of_astray (astray : Astray r response) : r.decide = .answer response := by
  cases astray with
  | options method => simp [Request.decide, method]
  | path method unknown => simp [Request.decide, method, unknown]
  | @method route method known wrong =>
    simp only [Request.decide, if_neg method, known]
    cases route <;> simp only [Route.methods, List.mem_cons, List.not_mem_nil, or_false, not_or] at wrong <;>
      simp [Route.decide, wrong]
  | status path method =>
    rcases method with method | method <;> simp [Request.decide, path, method, Route.ofPath?, Route.decide]

theorem isForm_iff : ((r.header? "content-type").any fun value => formType.isPrefixOf value) = true ↔ r.IsForm := by
  simp [Request.IsForm, Option.any_eq_true]

theorem form_of_readable (readable : Readable r names) : r.form names = .ok r.fields := by
  have once := Form.repeated?_eq_none_iff.2 readable.once
  unfold Request.form
  split
  · rename_i post
    have typed := isForm_iff.2 (readable.typed post)
    have short := readable.short post
    rw [Request.fields, if_pos post] at once ⊢
    rw [bodyFields, if_neg (by simpa using typed), if_neg (by omega)]
    simp only [once]
  · rename_i get
    rw [Request.fields, if_neg get] at once ⊢
    simp only [queryFields, once]

theorem form_of_unreadable (unreadable : Unreadable r names response) : r.form names = .error response := by
  cases unreadable with
  | untyped post untyped =>
    rw [← isForm_iff] at untyped
    rw [Request.form, if_pos post, bodyFields, if_pos (by simpa using untyped)]
  | long post typed long =>
    rw [← isForm_iff] at typed
    rw [Request.form, if_pos post, bodyFields, if_neg (by simpa using typed), if_pos long]
  | body post typed short repeats =>
    rw [← isForm_iff] at typed
    rw [Request.fields, if_pos post, ← Form.repeated?_eq_some_iff] at repeats
    rw [Request.form, if_pos post, bodyFields, if_neg (by simpa using typed), if_neg (by omega)]
    simp only [repeats]
  | query get repeats =>
    rw [Request.fields, if_neg get, ← Form.repeated?_eq_some_iff] at repeats
    simp only [Request.form, if_neg get, queryFields, repeats]

section

variable {fields : List (String × String)}

/-- Credentials of two fields do not count if one of the fields is lacking. -/
theorem issue_of_lacks (noPassword : Form.Lacks fields "email" ∨ Form.Lacks fields "password") :
    issue fields = match Form.value? fields "provider", Form.value? fields "access_token" with
      | some provider, some accessToken => .ok (.issueFromProvider provider accessToken)
      | _, _ =>
        match Form.value? fields "refresh_token" with
        | some refreshToken => .ok (.refresh refreshToken)
        | none => .error (.invalidArgument
            "Provide email and password, provider and access_token, or refresh_token.") := by
  unfold issue
  rcases noPassword with lacks | lacks
  · rewrite [Form.value?_eq_none_iff.2 lacks]
    rfl
  · rw [Form.value?_eq_none_iff.2 lacks]
    cases Form.value? fields "email" <;> rfl

theorem issue_of_lacks_both (noPassword : Form.Lacks fields "email" ∨ Form.Lacks fields "password")
    (noProvider : Form.Lacks fields "provider" ∨ Form.Lacks fields "access_token") :
    issue fields = match Form.value? fields "refresh_token" with
      | some refreshToken => .ok (.refresh refreshToken)
      | none => .error (.invalidArgument
          "Provide email and password, provider and access_token, or refresh_token.") := by
  rw [issue_of_lacks noPassword]
  rcases noProvider with lacks | lacks
  · rw [Form.value?_eq_none_iff.2 lacks]
  · rw [Form.value?_eq_none_iff.2 lacks]
    cases Form.value? fields "provider" <;> rfl

theorem exchange_of_supported (supported : Form.value? fields "grant_type" = some "authorization_code") :
    exchange fields = match Form.value? fields "code", Form.value? fields "client_id" with
      | some code, some client => .ok (.issueFromCode code client)
      | _, _ => .error (.invalidArgument "code and client_id are required.") := by
  rw [exchange, supported]
  rfl

end

theorem read_of_names (readable : Readable r endpoint.names) (names : Names r endpoint call) :
    endpoint.read r r.fields = .ok call := by
  have given {name value : String} (mem : (name, value) ∈ r.fields) (known : name ∈ endpoint.names) :
      Form.value? r.fields name = some value := (Form.value?_eq_some_iff readable.once known).2 mem
  cases names with
  | password first second =>
    rw [Endpoint.read, issue, given first (by decide), given second (by decide)]
  | provider noPassword first second =>
    rw [Endpoint.read, issue_of_lacks noPassword, given first (by decide), given second (by decide)]
  | refresh noPassword noProvider own =>
    rw [Endpoint.read, issue_of_lacks_both noPassword noProvider, given own (by decide)]
  | bearer bearer => simp only [Endpoint.read, bearer, Option.some_or]
  | named nobody own => simp only [Endpoint.read, nobody, Option.none_or, given own (by decide)]
  | nobody nobody lacks => simp only [Endpoint.read, nobody, Option.none_or, Form.value?_eq_none_iff.2 lacks]
  | @authorize access client scope bearer own extent =>
    have within : Form.value? r.fields "scope" = scope := Option.ext fun text =>
      (Form.value?_eq_some_iff readable.once (by decide)).trans (extent text).symm
    rw [Endpoint.read, bearer, Http.authorize, given own (by decide), within]
    rfl
  | exchange supported first second =>
    rw [Endpoint.read, exchange_of_supported (given supported (by decide)), given first (by decide),
      given second (by decide)]

theorem read_of_wants (readable : Readable r endpoint.names) (wants : Wants r endpoint failure) :
    endpoint.read r r.fields = .error failure := by
  have given {name value : String} (mem : (name, value) ∈ r.fields) (known : name ∈ endpoint.names) :
      Form.value? r.fields name = some value := (Form.value?_eq_some_iff readable.once known).2 mem
  cases wants with
  | credentials noPassword noProvider noRefresh =>
    rw [Endpoint.read, issue_of_lacks_both noPassword noProvider, Form.value?_eq_none_iff.2 noRefresh]
  | bearer nobody =>
    rw [Endpoint.read, nobody, Http.authorize]
    rfl
  | client bearer lacks =>
    rw [Endpoint.read, bearer, Http.authorize, Form.value?_eq_none_iff.2 lacks]
    rfl
  | grantType lacks =>
    rw [Endpoint.read, Http.exchange, Form.value?_eq_none_iff.2 lacks]
    rfl
  | unsupported own other =>
    rw [Endpoint.read, Http.exchange, given own (by decide)]
    simp only [ne_eq, other, not_false_eq_true, if_true]
    rfl
  | code supported lacks =>
    rw [Endpoint.read, exchange_of_supported (given supported (by decide))]
    rcases lacks with lacks | lacks
    · rw [Form.value?_eq_none_iff.2 lacks]
    · rw [Form.value?_eq_none_iff.2 lacks]
      cases Form.value? r.fields "code" <;> rfl

theorem decide_of_asks (asks : Asks r call) : r.decide = .call call := by
  obtain ⟨reaches, readable, names⟩ := asks
  rw [decide_of_reaches reaches, form_of_readable readable, Decision.ofExcept]
  simp only [read_of_names readable names]

theorem decide_of_refused (refused : Refused r response) : r.decide = .answer response := by
  cases refused with
  | astray astray => exact decide_of_astray astray
  | unreadable reaches unreadable => rw [decide_of_reaches reaches, form_of_unreadable unreadable, Decision.ofExcept]
  | wants reaches readable wants =>
    rw [decide_of_reaches reaches, form_of_readable readable, Decision.ofExcept]
    simp only [read_of_wants readable wants]

/-- A request makes a call exactly if it asks for it. -/
theorem decide_eq_call_iff : r.decide = .call call ↔ Asks r call := by
  refine ⟨fun decided => ?_, decide_of_asks⟩
  rcases asks_or_refused r with ⟨asked, asks⟩ | ⟨response, refused⟩
  · rw [decide_of_asks asks] at decided
    exact Decision.call.inj decided ▸ asks
  · rw [decide_of_refused refused] at decided
    cases decided

/-- A request is answered right away exactly if it is refused. -/
theorem decide_eq_answer_iff : r.decide = .answer response ↔ Refused r response := by
  refine ⟨fun decided => ?_, decide_of_refused⟩
  rcases asks_or_refused r with ⟨asked, asks⟩ | ⟨given, refused⟩
  · rw [decide_of_asks asks] at decided
    cases decided
  · rw [decide_of_refused refused] at decided
    exact Decision.answer.inj decided ▸ refused

/-- Carries out what is decided. -/
def Decision.carryOut (s : Service) : Decision → Program Effect.Answer Response
  | .answer response => .done response
  | .call call => (s.perform call).run.bind Response.ofOutcome

/-- A request is answered by carrying out what is decided on it; only the sending goes by the method. -/
theorem respond_eq (s : Service) (r : Request) :
    respond s r = (r.decide.carryOut s).bind fun response => .done (response.sent r.method) := by
  rw [respond]
  cases r.decide with
  | answer response => rfl
  | call call => exact (Program.bind_assoc _ _ _).symm

end TokenAuthority.Http
