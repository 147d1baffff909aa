import TokenAuthority.Proofs.Google.Answers
import TokenAuthority.Proofs.Json.Embedding
import TokenAuthority.Proofs.Json.Scalars

/-!
# Who holds an access token

What the provider says about an access token is determined by what comes of its one request. A profile is returned for
exactly those answers that describe it, and nothing but `sub` and a present email is missing from its fields. A field of
the answer is kept with the value that is written there, unless the answer spells the key by which texts are embedded.
-/

namespace TokenAuthority.Google

open Json Text

/-! ### What the profile leaves out -/

/-- The fields of a profile, with its subject and its email put back. -/
def putBack (p : Profile) : Members :=
  let members := insertMember "sub" (.text p.subject) p.fields
  (p.email.map fun email => insertMember "email" (.text email) members).getD members

/-- An object without a null email. -/
def withoutNullEmail (members : Members) : Members := members.filter fun m => !(m.1 == "email" && m.2.same .null)

variable {text : List Char} {e : Entry} {entries : List Entry} {p : Profile} {key : String}

theorem lookup_entries (key : String) (entries : List Entry) : (entries.map Entry.member).reverse.lookup key =
    ((entries.filter (·.key = key)).map Entry.member).reverse.lookup key := by
  have own := lookup_filter (fun k => decide (k = key)) (entries.map Entry.member).reverse key
  rw [if_pos (decide_eq_true rfl), List.filter_reverse, List.filter_map] at own
  exact own.symm

theorem lookup_of_filter_nil (none : entries.filter (·.key = key) = []) :
    (entries.map Entry.member).reverse.lookup key = .none := by
  rw [lookup_entries, none]
  rfl

theorem lookup_of_filter_one (one : entries.filter (·.key = key) = [e]) :
    (entries.map Entry.member).reverse.lookup key = some e.value := by
  have own : e.key = key := by
    have mem : e ∈ entries.filter (·.key = key) := one ▸ List.mem_singleton_self e
    exact of_decide_eq_true (List.mem_filter.1 mem).2
  subst own
  rw [lookup_entries, one]
  exact lookup_cons_self e.key e.value []

theorem ordered_putBack (ordered : Ordered p.fields) : Ordered (putBack p) := by
  have subject := ordered.insertMember "sub" (.text p.subject)
  cases email : p.email with
  | none => simpa [putBack, email] using subject
  | some address => simpa [putBack, email] using subject.insertMember "email" (.text address)

theorem lookup_putBack_email (p : Profile) :
    (putBack p).lookup "email" = (p.email.map Json.text).or (p.fields.lookup "email") := by
  rw [putBack]
  cases p.email with
  | none => exact lookup_insertMember_ne (by decide) _ _
  | some address => exact lookup_insertMember_self "email" (.text address) _

theorem lookup_putBack_ne (ne : key ≠ "email") :
    (putBack p).lookup key = (insertMember "sub" (.text p.subject) p.fields).lookup key := by
  rw [putBack]
  cases p.email with
  | none => rfl
  | some address => exact lookup_insertMember_ne ne _ _

theorem lookup_withoutNullEmail (members : Members) (key : String) : (withoutNullEmail (sorted members)).lookup key =
    (members.reverse.lookup key).filter fun v => !(key == "email" && v.same .null) := by
  rw [withoutNullEmail, (ordered_sorted members).lookup_filter, lookup_sorted]

/-- A profile holds all that the members say which describe it, apart from a null email. -/
theorem Describes.putBack_eq (describes : Describes entries p)
    (values : ∀ e ∈ entries, SpellsValue true Profile.innerDepth e.text e.value) :
    putBack p = withoutNullEmail (sorted (entries.map Entry.member)) := by
  obtain ⟨-, ⟨sub, oneSub, subject⟩, email, ordered, fields⟩ := describes
  have value {e : Entry} {key : String} (one : entries.filter (·.key = key) = [e]) :
      SpellsValue true Profile.innerDepth e.text e.value :=
    values e (List.mem_filter.1 (one ▸ List.mem_singleton_self e)).1
  refine (ordered_putBack ordered).eq_of_lookup_eq ((ordered_sorted _).filter _) fun key => ?_
  rw [lookup_withoutNullEmail]
  by_cases own : key = "email"
  · subst own
    rw [lookup_putBack_email, fields, if_neg (by decide), Option.or_none]
    rcases email with ⟨missing, absent⟩ | ⟨e, one, string⟩
    · rw [lookup_of_filter_nil missing, absent]
      rfl
    · rw [lookup_of_filter_one one, (value one).unique string.spellsValue]
      cases p.email <;> rfl
  · have kept (found : Option Json) : found.filter (fun v => !(key == "email" && v.same .null)) = found := by
      cases found <;> simp [own]
    rw [lookup_putBack_ne own, kept]
    by_cases same : key = "sub"
    · subst same
      rw [lookup_insertMember_self, lookup_of_filter_one oneSub, (value oneSub).unique (.text subject)]
    · rw [lookup_insertMember_ne same, fields, if_pos (isField_iff.2 ⟨same, own⟩)]

/-! ### What the answer says -/

/-- What comes of a request determines the result: a profile for a complete answer that describes it, a rejection of
the token for three statuses, and else that the provider cannot be reached. The values in an answer are those that are
written there or, where texts can be embedded, the ones that these stand for. -/
structure Verdict (embeds : Bool) (outcome : Exchange.Outcome) (result : Except Failure Profile) : Prop where
  accepted : ∀ p, result = .ok p ↔ ∃ status text entries, outcome = .answered status (Utf8.encode text) true ∧
    200 ≤ status ∧ status ≤ 299 ∧ SpellsObject embeds Profile.innerDepth text entries ∧ Describes entries p
  restored : ∀ p status text entries, result = .ok p → outcome = .answered status (Utf8.encode text) true →
    SpellsObject embeds Profile.innerDepth text entries →
    putBack p = withoutNullEmail (sorted (entries.map Entry.member))
  rejected : (∃ reason, result = .error (.providerTokenInvalid reason)) ↔
    ∃ status body complete, outcome = .answered status body complete ∧ (status = 400 ∨ status = 401 ∨ status = 403)
  unreachable : ∀ failure, result = .error failure →
    (∃ reason, failure = .providerTokenInvalid reason) ∨ ∃ reason, failure = .providerUnreachable reason

variable {url : String} {outcome : Exchange.Outcome} {failure : Failure}

theorem conclude_eq_ok_iff : conclude url outcome = .ok p ↔ ∃ status body, outcome = .answered status body true ∧
    200 ≤ status ∧ status ≤ 299 ∧ readProfile? body = some p := by
  constructor
  · intro concludes
    unfold conclude at concludes
    split at concludes
    · cases concludes
    · rename_i status body complete
      split at concludes
      · rename_i success
        split at concludes
        · rename_i found
          cases concludes
          split at found
          · rename_i whole
            subst whole
            exact ⟨status, body, rfl, success.1, success.2, found⟩
          · cases found
        · cases concludes
      · split at concludes <;> cases concludes
  · rintro ⟨status, body, rfl, least, most, reads⟩
    simp [conclude, least, most, reads]

theorem conclude_rejected_iff : (∃ reason, conclude url outcome = .error (.providerTokenInvalid reason)) ↔
    ∃ status body complete,
      outcome = .answered status body complete ∧ (status = 400 ∨ status = 401 ∨ status = 403) := by
  constructor
  · rintro ⟨reason, concludes⟩
    unfold conclude at concludes
    split at concludes
    · cases concludes
    · rename_i status body complete
      split at concludes
      · split at concludes <;> cases concludes
      · split at concludes
        · rename_i refused
          exact ⟨status, body, complete, rfl, refused⟩
        · cases concludes
  · rintro ⟨status, body, complete, rfl, refused⟩
    have failed : ¬(200 ≤ status ∧ status ≤ 299) := by omega
    rw [conclude, if_neg failed, if_pos refused]
    exact ⟨_, rfl⟩

theorem conclude_error (concludes : conclude url outcome = .error failure) :
    (∃ reason, failure = .providerTokenInvalid reason) ∨ ∃ reason, failure = .providerUnreachable reason := by
  unfold conclude at concludes
  split at concludes
  · cases concludes
    exact .inr ⟨_, rfl⟩
  · split at concludes
    · split at concludes
      · cases concludes
      · cases concludes
        exact .inr ⟨_, rfl⟩
    · split at concludes
      · cases concludes
        exact .inl ⟨_, rfl⟩
      · cases concludes
        exact .inr ⟨_, rfl⟩

theorem verdict_conclude (url : String) (outcome : Exchange.Outcome) : Verdict true outcome (conclude url outcome) where
  accepted p := by
    rw [conclude_eq_ok_iff]
    constructor
    · rintro ⟨status, body, rfl, least, most, reads⟩
      obtain ⟨text, entries, rfl, object, describes⟩ := readProfile?_eq_some_iff.1 reads
      exact ⟨status, text, entries, rfl, least, most, object, describes⟩
    · rintro ⟨status, text, entries, rfl, least, most, object, describes⟩
      exact ⟨status, _, rfl, least, most, readProfile?_eq_some_iff.2 ⟨text, entries, rfl, object, describes⟩⟩
  restored p status text entries concludes answered object := by
    obtain ⟨status, body, rfl, -, -, reads⟩ := conclude_eq_ok_iff.1 concludes
    obtain ⟨text', entries', same, object', describes⟩ := readProfile?_eq_some_iff.1 reads
    cases answered
    obtain rfl := Utf8.encode_inj same
    rw [object.unique object']
    obtain ⟨before, joined, keys, values, after⟩ := object'
    exact describes.putBack_eq values
  rejected := conclude_rejected_iff
  unreachable _ := conclude_error

/-- Where nothing is embedded, the values in an answer are those that are written there. -/
theorem Verdict.of_embedsNothing {embeds : Bool} {result : Except Failure Profile}
    (verdict : Verdict embeds outcome result)
    (nothing : ∀ status text, outcome = .answered status (Utf8.encode text) true → EmbedsNothing text)
    (embeds' : Bool) : Verdict embeds' outcome result where
  accepted p := by
    rw [verdict.accepted]
    refine exists₃_congr fun status text entries => and_congr_right fun answered => ?_
    rw [(nothing status text answered).spellsObject_iff embeds embeds']
  restored p status text entries accepted answered object :=
    verdict.restored p status text entries accepted answered
      (((nothing status text answered).spellsObject_iff embeds embeds').2 object)
  rejected := verdict.rejected
  unreachable := verdict.unreachable

/-- An answer with one field. -/
def answerWith (field : List Char) : List Char :=
  '{' :: (Json.quoted "sub" ++ ':' :: (Json.quoted "1" ++ ',' :: (Json.quoted "x" ++ ':' :: (field ++ ['}']))))

/-- The members of such an answer. -/
def membersWith (field : List Char) (v : Json) : List Entry :=
  [⟨Json.quoted "sub", "sub", Json.quoted "1", .text "1"⟩, ⟨Json.quoted "x", "x", field, v⟩]

theorem describes_membersWith (field : List Char) (v : Json) :
    Describes (membersWith field v) ⟨id, "1", none, [("x", v)]⟩ where
  provider := rfl
  subject := ⟨_, rfl, spellsString_quoted "1"⟩
  email := .inl ⟨rfl, rfl⟩
  ordered := List.pairwise_singleton _ _
  fields key := by
    by_cases own : key = "x"
    · subst own
      rfl
    · rw [lookup_cons_ne own]
      split
      · rename_i field
        exact ((lookup_cons_ne own).trans (lookup_cons_ne (isField_iff.1 field).1)).symm
      · rfl

theorem spellsObject_answerWith {embeds : Bool} {field : List Char} {v : Json}
    (value : SpellsValue embeds Profile.innerDepth field v) :
    SpellsObject embeds Profile.innerDepth (answerWith field) (membersWith field v) := by
  have keys : ∀ e ∈ membersWith field v, SpellsString e.name e.key :=
    List.forall_mem_cons.2 ⟨spellsString_quoted "sub", List.forall_mem_singleton.2 (spellsString_quoted "x")⟩
  have values : ∀ e ∈ membersWith field v, SpellsValue embeds Profile.innerDepth e.text e.value :=
    List.forall_mem_cons.2 ⟨.text (spellsString_quoted "1"), List.forall_mem_singleton.2 value⟩
  have whole := SpellsObject.of .nil (Joined.cons Entry.written _ _) keys values .nil
  simpa [answerWith, membersWith, Entry.written] using whole

/-- Of a field whose text writes one value and embeds another, the one that is embedded is kept. -/
theorem not_verdict_of_embedded {field : List Char} {v w : Json} (plain : SpellsValue false Profile.innerDepth field v)
    (embedded : SpellsValue true Profile.innerDepth field w) (other : v ≠ w) (url : String) :
    ¬Verdict false (.answered 200 (Utf8.encode (answerWith field)) true)
      (conclude url (.answered 200 (Utf8.encode (answerWith field)) true)) := by
  intro verdict
  have kept := (verdict.accepted _).2
    ⟨200, _, _, rfl, by decide, by decide, spellsObject_answerWith plain, describes_membersWith field v⟩
  have reads := readProfile?_eq_some_iff.2
    ⟨_, _, rfl, spellsObject_answerWith embedded, describes_membersWith field w⟩
  have found : conclude url (.answered 200 (Utf8.encode (answerWith field)) true) = .ok ⟨id, "1", none, [("x", w)]⟩ :=
    conclude_eq_ok_iff.2 ⟨200, _, rfl, by decide, by decide, reads⟩
  have fields : [("x", v)] = [("x", w)] := congrArg Profile.fields (Except.ok.inj (kept.symm.trans found))
  exact other (congrArg Prod.snd (List.head_eq_of_cons_eq fields))

/-- A field is not kept as it is if it is an object whose first key is the embedding key. -/
theorem embedded_field_is_not_kept :
    let text := "\x7b\"sub\":\"1\",\"x\":\x7b\"$serde_json::private::RawValue\":\"7\"\x7d\x7d".toList
    let outcome := .answered 200 (Utf8.encode text) true
    ¬Verdict false outcome (conclude "http://127.0.0.1/v1/userinfo" outcome) := by
  have key := spellsString_quoted embeddingKey
  have exact : (Number.integer 7).Exact := .integer (by decide) (by decide)
  have seven : SpellsValue true depthLimit "7".toList (.number (.integer 7)) := exact.spells
  have joined := Joined.cons Entry.written ⟨Json.quoted embeddingKey, embeddingKey, Json.quoted "7", .text "7"⟩ []
  have plain : SpellsValue false Profile.innerDepth _ (.object [(embeddingKey, .text "7")]) :=
    .object joined (List.forall_mem_singleton.2 key) nofun
      (List.forall_mem_singleton.2 (.text (spellsString_quoted "7")))
  have embedded : SpellsValue true Profile.innerDepth _ (.number (.integer 7)) :=
    .embedded rfl key (spellsString_quoted "7") seven
  exact not_verdict_of_embedded plain embedded nofun "http://127.0.0.1/v1/userinfo"

/-! ### A request that can be sent -/

theorem read_loopback :
    Url.Address.read "http://[::1]" = .ok ⟨"http", [], none, some "[::1]".toList, none, ['/'], none, none⟩ := by
  -- A search in a string does not reduce, so it is taken for membership first.
  simp only [Url.Address.read, Url.Address.joined, Url.Address.isBreak, Url.Address.readScheme?,
    String.contains_char_eq]
  rfl

open Http.Target in
theorem target_loopback : Http.Target.read "http://[::1]/" = .ok ⟨"/", ""⟩ := by
  have scheme : afterScheme "http://[::1]/".toList = .ok (some "[::1]/".toList) := by
    have taken : "http://[::1]/".toList.takeWhile isSchemeChar = "http".toList := by
      simp [isSchemeChar, String.contains_char_eq, List.takeWhile]
    rw [afterScheme, taken]
    rfl
  have authority : checkAuthority "[::1]".toList = .ok () := by
    simp [checkAuthority, Authority.push, isAuthorityChar, String.contains_char_eq]
    rfl
  rw [Http.Target.read, scheme]
  exact congrArg (· >>= fun _ => ofPathAndQuery "/".toList) authority

theorem prepare_loopback : prepare "http://[::1]" "t" = .ok ⟨"http://[::1]/", "t"⟩ := by
  have text : Url.Address.text (.withoutUser
      ⟨"http", [], none, some "[::1]".toList, none, ['/'], none, none⟩) = "http://[::1]/" := by rfl
  have header : "t".toUTF8.toList.all Http.isHeaderByte = true := by decide +kernel
  simp only [prepare, read_loopback, text, header, target_loopback]
  rfl

/-! ### What is asked -/

/-- A server that keeps the requests it answers. -/
def answer (server : Exchange → Exchange.Outcome) (exchange : Exchange) : StateM (List Exchange) Exchange.Outcome := do
  modify (· ++ [exchange])
  return server exchange

theorem bearer_of_prepare {endpoint accessToken : String} {exchange : Exchange}
    (prepared : prepare endpoint accessToken = .ok exchange) : exchange.bearer = accessToken := by
  unfold prepare at prepared
  split at prepared
  · cases prepared
  · dsimp only at prepared
    split at prepared
    · cases prepared
    · split at prepared
      · cases prepared
      · split at prepared
        · cases prepared
        · split at prepared
          · cases prepared
          · exact congrArg Exchange.bearer (Except.ok.inj prepared).symm

theorem identify_error {σ : Type} {endpoint accessToken : String} {server : Exchange → StateM σ Exchange.Outcome}
    {state : σ} (fails : (((identify endpoint accessToken).run server).run state).1 = .error failure) :
    (∃ reason, failure = .invalidArgument reason) ∨ (∃ reason, failure = .providerTokenInvalid reason) ∨
      ∃ reason, failure = .providerUnreachable reason := by
  unfold identify at fails
  split at fails
  · cases fails
    exact .inl ⟨_, rfl⟩
  · split at fails
    · cases fails
      exact .inr (.inr ⟨_, rfl⟩)
    · exact .inr (conclude_error fails)

/-- For an empty token nothing is asked. For any other, one request is sent if it can be, and what comes of it gives the
result. An answer that embeds nothing is kept as it is. -/
theorem identify_by_answer (endpoint accessToken : String) (server : Exchange → Exchange.Outcome) :
    ∃ result exchanges, ((identify endpoint accessToken).run (answer server)).run [] = (result, exchanges) ∧
      if accessToken = "" then
        result = .error (.invalidArgument "The access token is empty.") ∧ exchanges = []
      else
        match prepare endpoint accessToken with
        | .error reason =>
          result = .error (.providerUnreachable ("Google userinfo request failed: " ++ reason)) ∧ exchanges = []
        | .ok exchange =>
          exchanges = [exchange] ∧ exchange.bearer = accessToken ∧ Verdict true (server exchange) result ∧
            ((∀ status text, server exchange = .answered status (Utf8.encode text) true → EmbedsNothing text) →
              Verdict false (server exchange) result) := by
  rw [identify]
  split
  · exact ⟨_, _, rfl, rfl, rfl⟩
  · cases prepared : prepare endpoint accessToken with
    | error reason => exact ⟨_, _, rfl, rfl, rfl⟩
    | ok exchange =>
      have verdict := verdict_conclude exchange.url (server exchange)
      exact ⟨_, _, rfl, rfl, bearer_of_prepare prepared, verdict, (verdict.of_embedsNothing · false)⟩

/-- There is no room in the answer for a key that embeds, so its field is kept. -/
theorem plain_field_is_kept :
    let outcome := .answered 200 (Utf8.encode (answerWith ['7'])) true
    ((identify "http://[::1]" "t").run (answer fun _ => outcome)).run [] =
      (.ok ⟨id, "1", none, [("x", .number (.integer 7))]⟩, [⟨"http://[::1]/", "t"⟩]) := by
  intro outcome
  obtain ⟨result, exchanges, ran, verdict⟩ := identify_by_answer "http://[::1]" "t" fun _ => outcome
  rw [if_neg (by decide), prepare_loopback] at verdict
  obtain ⟨rfl, -, -, kept⟩ := verdict
  have nothing (status : Nat) (text : List Char) (answered : outcome = .answered status (Utf8.encode text) true) :
      EmbedsNothing text := by
    obtain ⟨-, same, -⟩ := Exchange.Outcome.answered.inj answered
    rw [← Utf8.encode_inj same]
    exact embedsNothing_of_short (by decide)
  have exact : (Number.integer 7).Exact := .integer (by decide) (by decide)
  have plain : SpellsObject false Profile.innerDepth (answerWith ['7']) _ := spellsObject_answerWith exact.spells
  have found := ((kept nothing).accepted _).2 ⟨200, _, _, rfl, by decide, by decide, plain, describes_membersWith _ _⟩
  rw [ran, found]

end TokenAuthority.Google
