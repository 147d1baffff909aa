import Mathlib.Data.List.Nodup
import TokenAuthority.Proofs.Http.Encoding
import TokenAuthority.Proofs.Http.Requests

/-!
# Credentials in a form

Who logs in gives some of five texts. In whichever order the texts stand in a form, whatever else stands between them
and however all of it is written, the login is the one that they name, with each text as it was given.
-/

namespace TokenAuthority.Http

open Text

/-- What may be given to log in. -/
structure Credentials where
  email : Option String
  password : Option String
  provider : Option String
  accessToken : Option String
  refreshToken : Option String

namespace Credentials

/-- What is given under a name. -/
def value? (c : Credentials) : String → Option String
  | "email" => c.email
  | "password" => c.password
  | "provider" => c.provider
  | "access_token" => c.accessToken
  | "refresh_token" => c.refreshToken
  | _ => none

/-- What is given, with its names. -/
def fields (c : Credentials) : List (String × String) :=
  credentialNames.filterMap fun name => (c.value? name).map (name, ·)

/-- The call that credentials name: a password comes before a provider, and both before a refresh string. -/
def call (c : Credentials) : Except Failure Call :=
  match c with
  | ⟨some email, some password, _, _, _⟩ => .ok (.issueFromPassword email password)
  | ⟨_, _, some provider, some accessToken, _⟩ => .ok (.issueFromProvider provider accessToken)
  | ⟨_, _, _, _, some refreshToken⟩ => .ok (.refresh refreshToken)
  | _ => .error (.invalidArgument "Provide email and password, provider and access_token, or refresh_token.")

/-- The answer to credentials. -/
def dispatch (s : Service) (c : Credentials) : Program Effect.Answer Response :=
  match c.call with
  | .ok call => (s.perform call).run.bind Response.ofOutcome
  | .error failure => .done (.failure failure)

end Credentials

/-- Among the fields, the given credentials stand in some order, and otherwise only fields of other names. -/
def Form.Give (fields : List (String × String)) (c : Credentials) : Prop :=
  (fields.filter fun field => credentialNames.contains field.1).Perm c.fields

variable {fields : List (String × String)} {c : Credentials} {name value : String} {r : Request}

theorem Credentials.mem_fields : (name, value) ∈ c.fields ↔ name ∈ credentialNames ∧ c.value? name = some value := by
  simp only [fields, List.mem_filterMap, Option.map_eq_some_iff, Prod.mk.injEq]
  constructor
  · rintro ⟨_, known, _, given, rfl, rfl⟩
    exact ⟨known, given⟩
  · rintro ⟨known, given⟩
    exact ⟨name, known, value, given, rfl, rfl⟩

theorem Credentials.names_sublist (c : Credentials) : (c.fields.map Prod.fst).Sublist credentialNames := by
  rw [fields]
  induction credentialNames with
  | nil => exact .slnil
  | cons name names ih =>
    rw [List.filterMap_cons]
    cases c.value? name with
    | none => exact ih.cons name
    | some value => exact ih.cons_cons name

namespace Form.Give

theorem mem_iff (give : Give fields c) (known : name ∈ credentialNames) :
    (name, value) ∈ fields ↔ c.value? name = some value := by
  have same : (name, value) ∈ fields.filter (fun field => credentialNames.contains field.1) ↔
      (name, value) ∈ c.fields := List.Perm.mem_iff give
  rw [List.mem_filter, List.contains_iff_mem, Credentials.mem_fields] at same
  simpa only [known, and_true, true_and] using same

theorem once (give : Give fields c) : Once credentialNames fields := by
  intro name known
  have kept : (fields.map Prod.fst).count name =
      ((fields.filter fun field => credentialNames.contains field.1).map Prod.fst).count name := by
    have own : credentialNames.contains name = true := List.contains_iff_mem.2 known
    rw [← List.count_filter (p := credentialNames.contains) own, List.filter_map]
    rfl
  rw [kept, (List.Perm.map Prod.fst give).count_eq]
  exact Nat.le_trans (c.names_sublist.count_le name) (List.nodup_iff_count_le_one.1 (by decide) name)

theorem value?_eq (give : Give fields c) (known : name ∈ credentialNames) :
    Form.value? fields name = c.value? name :=
  Option.ext fun _ => (value?_eq_some_iff give.once known).trans (give.mem_iff known)

theorem issue_eq (give : Give fields c) : issue fields = c.call := by
  rw [issue, give.value?_eq (by decide), give.value?_eq (by decide), give.value?_eq (by decide),
    give.value?_eq (by decide), give.value?_eq (by decide)]
  obtain ⟨email, password, provider, accessToken, refreshToken⟩ := c
  cases email <;> cases password <;> cases provider <;> cases accessToken <;> cases refreshToken <;> rfl

end Form.Give

/-- Credentials that are sent in a form are dispatched on as they were given, whichever way they are written: the
request asks for the call that they name, if they name one, and has the answer and the effects of the credentials
themselves. -/
theorem credentials_survive_encoding (s : Service) {r : Request} {fields : List (String × String)} {c : Credentials}
    (post : r.method = "POST") (path : r.target.path = "/auth_token") (typed : r.IsForm)
    (written : Form.WritesForm fields r.body) (short : r.body.length ≤ maxForm) (give : Form.Give fields c) :
    (∀ call, Asks r call ↔ c.call = .ok call) ∧
      respond s r = (c.dispatch s).bind fun response => .done (response.sent "POST") := by
  have read : r.fields = fields := by rw [Request.fields, if_pos post, Form.read_of_writes written]
  have readable : Readable r credentialNames := ⟨fun _ => typed, fun _ => short, read ▸ give.once⟩
  have decided : r.decide = .ofExcept (.ok fields) fun _ => c.call := by
    rw [decide_of_reaches (.issue path (.inr (.inr post))), Endpoint.names, form_of_readable readable, read]
    simp only [Decision.ofExcept, Endpoint.read, give.issue_eq]
  constructor
  · intro call
    rw [← decide_eq_call_iff, decided, Decision.ofExcept]
    cases c.call <;> simp
  · rw [respond_eq, decided, Decision.ofExcept, Credentials.dispatch, post]
    cases c.call <;> rfl

/-- A letter of two bytes, of which one is written by its digits, a plus sign by its digits and a space by a plus sign,
with a field in between that means nothing here. -/
theorem password_survives_encoding : ∃ (s : Service) (r : Request) (fields : List (String × String)) (c : Credentials),
    c.call = .ok (.issueFromPassword "é" "+ ") ∧ fields = [("password", "+ "), ("x", "="), ("email", "é")] ∧
    r.body = Utf8.encode "password=%2b+&x=%3D&email=".toList ++ [0x25, 0x43, 0x33, 0xA9] ∧
    Form.WritesForm fields r.body ∧ Form.Give fields c ∧ Asks r (.issueFromPassword "é" "+ ") ∧
    respond s r = (c.dispatch s).bind fun response => .done (response.sent "POST") := by
  let s : Service := ⟨.empty, 3600, 600⟩
  let c : Credentials := ⟨some "é", some "+ ", none, none, none⟩
  let fields := [("password", "+ "), ("x", "="), ("email", "é")]
  let body := Utf8.encode "password=%2b+&x=%3D&email=".toList ++ [0x25, 0x43, 0x33, 0xA9]
  let r : Request := ⟨"POST", ⟨"/auth_token", ""⟩,
    [("content-type", Utf8.encode "application/x-www-form-urlencoded".toList)], body⟩
  have typed : r.IsForm := isForm_iff.1 (by rfl)
  have plain (text : String) (free : (Utf8.encode text.toList).all fun b => b ∉ [0x25, 0x26, 0x2B, 0x3D]) :
      Form.Writes (Utf8.encode text.toList) text := Form.writesBytes_self (List.all_iff_forall_prop.1 free)
  have written : Form.WritesForm fields r.body := by
    have sign : Form.WritesByte [0x25, 0x32, 0x62] 0x2B := .percent (by decide) (by decide)
    have equals : Form.WritesByte [0x25, 0x33, 0x44] 0x3D := .percent (by decide) (by decide)
    have first : Form.WritesByte [0x25, 0x43, 0x33] 0xC3 := .percent (by decide) (by decide)
    have second : Form.WritesByte [0xA9] 0xA9 := .plain (by decide)
    have password : Form.Writes (Utf8.encode "%2b+".toList) "+ " := by
      have bytes := Form.WritesBytes.cons sign (.cons .plus .nil)
      exact bytes
    have other : Form.Writes (Utf8.encode "%3D".toList) "=" := by
      have bytes := Form.WritesBytes.cons equals .nil
      exact bytes
    have email : Form.Writes [0x25, 0x43, 0x33, 0xA9] "é" := by
      have bytes := Form.WritesBytes.cons first (.cons second .nil)
      exact bytes
    exact .of (.cons (.pair (plain "password" (by decide)) password)
      (.cons (.pair (plain "x" (by decide)) other) (.cons (.pair (plain "email" (by decide)) email) .nil)))
  have give : Form.Give fields c := by
    have known : (fields.filter fun field => credentialNames.contains field.1).Perm
        [("password", "+ "), ("email", "é")] := .of_eq (by decide)
    exact known.trans (.swap _ _ _)
  obtain ⟨asks, responds⟩ := credentials_survive_encoding s rfl rfl typed written (by decide) give
  exact ⟨s, r, fields, c, rfl, rfl, rfl, written, give, (asks _).2 rfl, responds⟩

end TokenAuthority.Http
