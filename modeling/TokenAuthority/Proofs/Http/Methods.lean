import TokenAuthority.Proofs.Http.Refinement
import TokenAuthority.Proofs.Text.Utf8

/-!
# One form by three methods

Who logs in sends a form, in a query or in a body. It makes no difference which of the two it is, unless a field that
matters is repeated: then the form is refused in either case, but with different statuses. To ask for the head only is
to log in all the same.
-/

namespace TokenAuthority.Http

open Text

/-- The text can be the query of a request. -/
def Target.IsQuery (text : String) : Prop := read ("/auth_token?" ++ text) = .ok ⟨"/auth_token", text⟩

/-- The request gives the text in its query. -/
structure Request.Queries (r : Request) (method text : String) : Prop where
  method : r.method = method
  target : r.target = ⟨"/auth_token", text⟩

/-- The request gives the text in its body, as a form. -/
structure Request.Posts (r : Request) (text : String) : Prop where
  method : r.method = "POST"
  path : r.target.path = "/auth_token"
  typed : r.IsForm
  body : r.body = Utf8.encode text.toList

/-- An answer without its body. -/
def Response.head (response : Response) : Response := { response with body := "" }

variable {s : Service} {r get head post : Request} {text method name : String}

theorem Target.IsQuery.length_le (stands : IsQuery text) : (Utf8.encode text.toList).length ≤ maxSize := by
  have few : Utf8.size ("/auth_token?" ++ text).toList ≤ maxSize := by
    rw [IsQuery, read] at stands
    split at stands
    · cases stands
    · omega
  rw [Utf8.size_eq_length, String.toList_append, Utf8.encode, List.flatMap_append, List.length_append] at few
  exact Nat.le_trans (Nat.le_add_left _ _) few

namespace Request

theorem Queries.fields_eq (queries : r.Queries method text) (different : method ≠ "POST") :
    r.fields = Form.read (Utf8.encode text.toList) := by
  rw [fields, queries.method, if_neg different, queries.target]

theorem Posts.fields_eq (posts : r.Posts text) : r.fields = Form.read (Utf8.encode text.toList) := by
  rw [fields, if_pos posts.method, posts.body]

theorem Queries.reaches (queries : r.Queries method text) (reads : method = "GET" ∨ method = "HEAD") :
    Reaches r .issue :=
  .issue (by rw [queries.target]) (by rw [queries.method]; exact reads.imp_right .inl)

theorem Posts.reaches (posts : r.Posts text) : Reaches r .issue := .issue posts.path (.inr (.inr posts.method))

theorem Posts.short (posts : r.Posts text) (stands : Target.IsQuery text) : r.body.length ≤ maxForm := by
  rw [posts.body]
  exact Nat.le_trans stands.length_le (by decide)

theorem decide_of_once (reaches : Reaches r .issue) (readable : Readable r credentialNames) :
    r.decide = .ofExcept (.ok r.fields) issue := by
  rw [decide_of_reaches reaches, Endpoint.names, form_of_readable readable]
  rfl

/-- What is decided on a query depends on the query alone. -/
theorem decide_head (gets : get.Queries "GET" text) (heads : head.Queries "HEAD" text) : head.decide = get.decide := by
  rw [decide_of_reaches (heads.reaches (.inr rfl)), decide_of_reaches (gets.reaches (.inl rfl))]
  simp [form, queryFields, gets.method, heads.method, gets.target, heads.target, Endpoint.read]

theorem decide_post (gets : get.Queries "GET" text) (posts : post.Posts text) (stands : Target.IsQuery text)
    (once : Form.Once credentialNames (Form.read (Utf8.encode text.toList))) : post.decide = get.decide := by
  have get_fields := gets.fields_eq (by decide)
  have post_fields := posts.fields_eq
  have bodiless : get.method ≠ "POST" := by rw [gets.method]; decide
  rw [decide_of_once posts.reaches ⟨fun _ => posts.typed, fun _ => posts.short stands, post_fields ▸ once⟩,
    decide_of_once (gets.reaches (.inl rfl)) ⟨fun is => (bodiless is).elim, fun is => (bodiless is).elim,
      get_fields ▸ once⟩, get_fields, post_fields]

end Request

/-- A form that is given in a query and in a body. If no field that matters is repeated, GET and POST are answered by
the same program, so that in whichever surroundings their answers and their effects are the same. If one is repeated,
both are refused and do nothing. HEAD does what GET does, and its answer is that to GET without the body. -/
theorem forms_answered_alike (s : Service) {text : String} {get head post : Request} (stands : Target.IsQuery text)
    (gets : get.Queries "GET" text) (heads : head.Queries "HEAD" text) (posts : post.Posts text) :
    let fields := Form.read (Utf8.encode text.toList)
    (Form.Once credentialNames fields ∧ respond s get = respond s post ∨
      ∃ name, Form.Repeats credentialNames fields name ∧
        respond s get = .done ((Response.plain 400
          ("Failed to deserialize query string: duplicate field \x60" ++ name ++ "\x60")).sent "GET") ∧
        respond s post = .done ((Response.plain 422
          ("Failed to deserialize form body: duplicate field \x60" ++ name ++ "\x60")).sent "POST")) ∧
    respond s head = (respond s get).bind fun response => .done response.head := by
  intro fields
  constructor
  · rcases Form.once_or_repeats credentialNames fields with once | ⟨name, repeats⟩
    · refine .inl ⟨once, ?_⟩
      rw [respond_eq, respond_eq, Request.decide_post gets posts stands once, gets.method, posts.method]
      rfl
    · refine .inr ⟨name, repeats, ?_, ?_⟩
      · have unreadable : Unreadable get credentialNames _ :=
          .query (by rw [gets.method]; decide) (by rw [gets.fields_eq (by decide)]; exact repeats)
        rw [respond_of_refused (.unreadable (gets.reaches (.inl rfl)) unreadable), gets.method]
      · have unreadable : Unreadable post credentialNames _ :=
          .body posts.method posts.typed (posts.short stands) (by rw [posts.fields_eq]; exact repeats)
        rw [respond_of_refused (.unreadable posts.reaches unreadable), posts.method]
  · rw [respond_eq, respond_eq, Request.decide_head gets heads, gets.method, heads.method, Program.bind_assoc]
    rfl

/-- A form with an empty piece, with percent signs that stand for themselves and with a byte that is no UTF-8. -/
theorem broken_form_answered_alike : ∃ (s : Service) (get head post : Request),
    Asks get (.refresh "%z\uFFFD") ∧ respond s get = respond s post ∧
      respond s head = (respond s get).bind fun response => .done response.head := by
  have stands : Target.IsQuery "&refresh_token=%z%fF&x=%&x" := by rfl
  have asks : Asks ⟨"GET", ⟨"/auth_token", "&refresh_token=%z%fF&x=%&x"⟩, [], []⟩ (.refresh "%z\uFFFD") :=
    decide_eq_call_iff.1 (by rfl)
  have clear : Form.repeated? credentialNames (Form.read (Utf8.encode "&refresh_token=%z%fF&x=%&x".toList)) = none :=
    by rfl
  let post : Request := ⟨"POST", ⟨"/auth_token", ""⟩,
    [("content-type", Utf8.encode "application/x-www-form-urlencoded".toList)],
    Utf8.encode "&refresh_token=%z%fF&x=%&x".toList⟩
  have typed : post.IsForm := isForm_iff.1 (by rfl)
  obtain ⟨alike | ⟨name, repeats, -⟩, heads⟩ := @forms_answered_alike ⟨.empty, 3600, 600⟩ _ ⟨"GET", _, [], []⟩
    ⟨"HEAD", _, [], []⟩ post stands ⟨rfl, rfl⟩ ⟨rfl, rfl⟩ ⟨rfl, rfl, typed, rfl⟩
  · exact ⟨_, _, _, post, asks, alike.2, heads⟩
  · rw [← Form.repeated?_eq_some_iff, clear] at repeats
    cases repeats

end TokenAuthority.Http
