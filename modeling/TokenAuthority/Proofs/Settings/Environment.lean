import TokenAuthority.Proofs.Except
import TokenAuthority.Proofs.Text.Blank
import TokenAuthority.Proofs.Text.Digits
import TokenAuthority.Proofs.Text.Utf8
import TokenAuthority.Settings

/-!
# Which environments are accepted

A number is written in decimal digits behind a plus sign or none. The port is such a number as it stands; a number of
seconds may have blanks around it. The settings are found just if each of the four variables that give numbers is unset or
gives one that is not too large, and otherwise the first of them that does not is named.
-/

namespace TokenAuthority.Settings

open Text

/-! ### Numbers -/

/-- The ways to write a number: a plus sign or none, and digits, with any number of zeros in front. -/
inductive Denotes : List Char → Nat → Prop where
  | plain {digits : List Char} (some : digits ≠ []) (all : ∀ c ∈ digits, c.isDigit = true) :
    Denotes digits (Nat.ofDigitChars 10 digits 0)
  | plus {digits : List Char} (some : digits ≠ []) (all : ∀ c ∈ digits, c.isDigit = true) :
    Denotes ('+' :: digits) (Nat.ofDigitChars 10 digits 0)

variable {bits n start : Nat} {digits text : List Char} {c : Char}

theorem pushDigit_of_not_isDigit (other : c.isDigit = false) : pushDigit bits start c = .error .badDigit := by
  simp [pushDigit, other]

theorem pushDigit_of_isDigit (digit : c.isDigit = true) : pushDigit bits start c =
    if 1 <<< bits ≤ 10 * start + (c.toNat - '0'.toNat) then .error .tooLarge
    else .ok (10 * start + (c.toNat - '0'.toNat)) := by
  simp [pushDigit, digit, Nat.mul_comm]

theorem foldlM_pushDigit_eq_ok_iff (fits : start < 1 <<< bits) : digits.foldlM (pushDigit bits) start = .ok n ↔
    (∀ c ∈ digits, c.isDigit = true) ∧ Nat.ofDigitChars 10 digits start = n ∧ n < 1 <<< bits := by
  induction digits generalizing start with
  | nil =>
    rw [List.foldlM_nil, Nat.ofDigitChars_nil]
    constructor
    · rintro ⟨⟩
      exact ⟨List.forall_mem_nil _, rfl, fits⟩
    · rintro ⟨-, rfl, -⟩
      rfl
  | cons c digits ih =>
    rw [List.foldlM_cons, List.forall_mem_cons, Nat.ofDigitChars_cons]
    cases digit : c.isDigit with
    | false =>
      rw [pushDigit_of_not_isDigit digit]
      constructor
      · nofun
      · rintro ⟨⟨⟨⟩, -⟩, -⟩
    | true =>
      rw [pushDigit_of_isDigit digit]
      split
      · rename_i large
        constructor
        · nofun
        · rintro ⟨-, rfl, small⟩
          -- What got too large stays too large, whatever digits follow.
          have grows := le_ofDigitChars digits (10 * start + (c.toNat - '0'.toNat))
          omega
      · rename_i small
        refine (ih (Nat.not_le.1 small)).trans ?_
        simp only [true_and]

theorem denotes_plus_iff : Denotes ('+' :: digits) n ↔
    digits ≠ [] ∧ (∀ c ∈ digits, c.isDigit = true) ∧ Nat.ofDigitChars 10 digits 0 = n := by
  constructor
  · rintro (⟨-, all⟩ | ⟨some, all⟩)
    · cases all '+' List.mem_cons_self
    · exact ⟨some, all, rfl⟩
  · rintro ⟨some, all, rfl⟩
    exact .plus some all

theorem denotes_iff (unsigned : ∀ digits, text ≠ '+' :: digits) : Denotes text n ↔
    text ≠ [] ∧ (∀ c ∈ text, c.isDigit = true) ∧ Nat.ofDigitChars 10 text 0 = n := by
  constructor
  · rintro (⟨some, all⟩ | ⟨-, -⟩)
    · exact ⟨some, all, rfl⟩
    · exact (unsigned _ rfl).elim
  · rintro ⟨some, all, rfl⟩
    exact .plain some all

theorem readNumber_eq_ok_iff : readNumber bits text = .ok n ↔ Denotes text n ∧ n < 1 <<< bits := by
  have positive : 0 < 1 <<< bits := by
    rw [Nat.one_shiftLeft]
    exact Nat.two_pow_pos bits
  unfold readNumber
  split
  · rw [denotes_iff fun _ => (List.cons_ne_nil _ _).symm]
    simp
  · rw [denotes_plus_iff]
    simp
  · rename_i digits more
    rw [foldlM_pushDigit_eq_ok_iff positive, denotes_plus_iff, and_assoc, and_assoc,
      and_iff_right fun none => more (by rw [none])]
  · rename_i some _ unsigned
    rw [foldlM_pushDigit_eq_ok_iff positive, denotes_iff unsigned, and_assoc, and_assoc, and_iff_right some]

/-! ### Variables -/

/-- The texts of a port. -/
def PortText (text : List Char) (n : Nat) : Prop := Denotes text n ∧ n ≤ 65535

/-- The texts of a number of seconds, with blanks around it or none. -/
def SecondsText (most : Nat) (text : List Char) (n : Nat) : Prop := ∃ core, Surrounds text core ∧ Denotes core n ∧ n ≤ most

/-- A variable is set to a text. -/
def Environment.Sets (env : Environment) (name : String) (text : List Char) : Prop :=
  env.lookup name = some (Utf8.encode text)

/-- A variable is not set, or to no text. -/
def Environment.Silent (env : Environment) (name : String) : Prop := ∀ text, ¬env.Sets name text

/-- A variable that is to give a number if it is set: its name, its texts and the number if it is not set. -/
structure Variable where
  name : String
  means : List Char → Nat → Prop
  unset : Nat

namespace Variable

def port : Variable := ⟨"PORT", PortText, 8430⟩

def tokenLifetime : Variable := ⟨"TOKEN_LIFETIME_SECS", SecondsText 315360000, 3600⟩

def grantLifetime : Variable := ⟨"AUTHORIZATION_CODE_LIFETIME_SECS", SecondsText 315360000, 600⟩

def providerTimeout : Variable := ⟨"PROVIDER_TIMEOUT_SECS", SecondsText 18446744073709551615, 10⟩

/-- The variables that give numbers, in the order in which they are read. -/
def all : List Variable := [port, tokenLifetime, grantLifetime, providerTimeout]

/-- The number that a variable gives. -/
inductive Gives (v : Variable) (env : Environment) : Nat → Prop where
  | unset (silent : env.Silent v.name) : Gives v env v.unset
  | said {text : List Char} {n : Nat} (sets : env.Sets v.name text) (means : v.means text n) : Gives v env n

def Fits (v : Variable) (env : Environment) : Prop := ∃ n, v.Gives env n

/-- What stands first in a report if it is about a variable. -/
def headlines (v : Variable) : List String :=
  ["Invalid " ++ v.name, "Invalid " ++ v.name ++ ": expected a number of seconds"]

end Variable

variable {env : Environment} {name : String} {v : Variable} {report : Report}

theorem get?_eq_some_iff : env.get? name = some text ↔ env.Sets name text := by
  unfold Environment.get? Environment.Sets
  cases env.lookup name with
  | none => simp
  | some bytes => rw [Option.bind_some, Utf8.strict?_eq_some_iff, Option.some_inj]

theorem get?_eq_none_iff : env.get? name = none ↔ env.Silent name := by
  rw [Option.eq_none_iff_forall_ne_some]
  exact forall_congr' fun text => not_congr get?_eq_some_iff

/-- What is read for a variable: the number that it gives, or else a report about it. -/
structure Settles (v : Variable) (env : Environment) (result : Except Report Nat) : Prop where
  gives : ∀ n, result = .ok n ↔ v.Gives env n
  names : ∀ report, result = .error report → report.headline ∈ v.headlines

theorem Settles.of_silent (silent : env.Silent v.name) : Settles v env (.ok v.unset) := by
  refine ⟨fun n => ⟨?_, ?_⟩, nofun⟩
  · rintro ⟨⟩
    exact .unset silent
  · rintro (- | ⟨sets, -⟩)
    · rfl
    · exact (silent _ sets).elim

theorem Settles.of_set {result : Except Report Nat} (sets : env.Sets v.name text)
    (reads : ∀ n, result = .ok n ↔ v.means text n) (names : ∀ report, result = .error report → report.headline ∈ v.headlines) :
    Settles v env result := by
  refine ⟨fun n => (reads n).trans ⟨.said sets, ?_⟩, names⟩
  rintro (silent | ⟨sets', means⟩)
  · exact (silent _ sets).elim
  · have same := get?_eq_some_iff.2 sets
    rw [get?_eq_some_iff.2 sets'] at same
    rwa [← Option.some.inj same]

theorem settles_portFrom (env : Environment) : Settles .port env (portFrom env) := by
  unfold portFrom
  cases said : env.get? "PORT" with
  | none => exact .of_silent (get?_eq_none_iff.1 said)
  | some text =>
    have reads (n : Nat) : readNumber 16 text = .ok n ↔ PortText text n := by
      rw [readNumber_eq_ok_iff, PortText]
      exact and_congr_right fun _ => by omega
    rw [Option.getD_some]
    refine .of_set (get?_eq_some_iff.1 said) (fun n => (Iff.trans ?_ (reads n))) ?_
    · cases readNumber 16 text <;> simp
    · cases readNumber 16 text <;> simp [Report.headline, Report.within, Report.ofCause, Variable.headlines, Variable.port]

theorem readSeconds_eq_ok_iff : readSeconds name text = .ok n ↔ SecondsText 18446744073709551615 text n := by
  have reads : readNumber 64 (trimmed text) = .ok n ↔ SecondsText 18446744073709551615 text n := by
    rw [readNumber_eq_ok_iff, SecondsText]
    constructor
    · exact fun ⟨denotes, small⟩ => ⟨_, surrounds_trimmed text, denotes, by omega⟩
    · rintro ⟨core, surrounds, denotes, small⟩
      rw [trimmed_eq_iff.2 surrounds]
      exact ⟨denotes, by omega⟩
  rw [← reads, readSeconds]
  cases readNumber 64 (trimmed text) <;> simp

theorem headline_of_readSeconds (fails : readSeconds name text = .error report) :
    report.headline = "Invalid " ++ name ++ ": expected a number of seconds" := by
  unfold readSeconds at fails
  split at fails
  · cases fails
  · obtain rfl := Except.error.inj fails
    rfl

theorem readLifetime_eq_ok_iff : readLifetime name text = .ok n ↔ SecondsText 315360000 text n := by
  have within : SecondsText 315360000 text n ↔ SecondsText 18446744073709551615 text n ∧ n ≤ maxLifetime := by
    unfold SecondsText
    constructor
    · exact fun ⟨core, surrounds, denotes, small⟩ => ⟨⟨core, surrounds, denotes, by omega⟩, small⟩
    · exact fun ⟨⟨core, surrounds, denotes, _⟩, small⟩ => ⟨core, surrounds, denotes, small⟩
  rw [within, ← @readSeconds_eq_ok_iff _ _ name, readLifetime]
  cases read : readSeconds name text with
  | error report => exact ⟨nofun, fun ⟨fails, _⟩ => nomatch fails⟩
  | ok m =>
    show (if maxLifetime < m then _ else _) = _ ↔ _
    split
    · rename_i long
      constructor
      · nofun
      · rintro ⟨⟨⟩, short⟩
        omega
    · rename_i short
      constructor
      · rintro ⟨⟩
        exact ⟨rfl, Nat.not_lt.1 short⟩
      · rintro ⟨⟨⟩, -⟩
        rfl

theorem headline_of_readLifetime (fails : readLifetime name text = .error report) :
    report.headline = "Invalid " ++ name ∨ report.headline = "Invalid " ++ name ++ ": expected a number of seconds" := by
  unfold readLifetime at fails
  cases read : readSeconds name text with
  | error other =>
    rw [read] at fails
    obtain rfl := Except.error.inj fails
    exact .inr (headline_of_readSeconds read)
  | ok n =>
    rw [read] at fails
    change (if maxLifetime < n then _ else _) = _ at fails
    split at fails
    · obtain rfl := Except.error.inj fails
      exact .inl rfl
    · cases fails

theorem settles_spanFrom (env : Environment) {read : String → List Char → Except Report Nat}
    (reads : ∀ text n, read v.name text = .ok n ↔ v.means text n)
    (names : ∀ text report, read v.name text = .error report → report.headline ∈ v.headlines) :
    ∃ result, spanFrom env read v.name v.unset = result.map seconds ∧ Settles v env result := by
  unfold spanFrom
  cases said : env.get? v.name with
  | none => exact ⟨_, rfl, .of_silent (get?_eq_none_iff.1 said)⟩
  | some text => exact ⟨_, rfl, .of_set (get?_eq_some_iff.1 said) (reads text) (names text)⟩

/-! ### Settings -/

/-- A text is that of a variable, or the one for when the variable is not set. -/
def Environment.SetsOr (env : Environment) (name unset text : String) : Prop :=
  env.Sets name text.toList ∨ env.Silent name ∧ text = unset

/-- The settings that an environment describes. -/
structure Describes (env : Environment) (s : Settings) : Prop where
  host : env.SetsOr "HOST" "0.0.0.0" s.host
  port : Variable.port.Gives env s.port
  databaseUrl : ∀ url, s.databaseUrl = some url ↔ env.Sets "DATABASE_URL" url.toList ∧ url ≠ ""
  tokenLifetime : ∃ n, Variable.tokenLifetime.Gives env n ∧ s.tokenLifetime = seconds n
  grantLifetime : ∃ n, Variable.grantLifetime.Gives env n ∧ s.grantLifetime = seconds n
  providerTimeout : ∃ n, Variable.providerTimeout.Gives env n ∧ s.providerTimeout = seconds n
  googleEnabled : s.googleEnabled = false ↔ env.Sets "GOOGLE_ENABLED" "false".toList
  userinfoUrl : env.SetsOr "GOOGLE_USERINFO_URL" defaultUserinfoUrl s.userinfoUrl

/-- The first variable that gives no number is the one that a report is about. -/
def Blames (env : Environment) (report : Report) : Prop :=
  ∃ before v after, Variable.all = before ++ v :: after ∧ (∀ u ∈ before, u.Fits env) ∧ ¬v.Fits env ∧
    report.headline ∈ v.headlines

def Environment.text? (env : Environment) (name : String) : Option String := (env.get? name).map String.ofList

theorem text?_eq_some_iff {text : String} : env.text? name = some text ↔ env.Sets name text.toList := by
  rw [Environment.text?, Option.map_eq_some_iff, ← get?_eq_some_iff]
  constructor
  · rintro ⟨cs, said, rfl⟩
    rwa [String.toList_ofList]
  · exact fun said => ⟨text.toList, said, String.ofList_toList⟩

theorem text?_getD_eq_iff {unset text : String} : (env.text? name).getD unset = text ↔ env.SetsOr name unset text := by
  have silent : env.text? name = none ↔ env.Silent name := Option.map_eq_none_iff.trans get?_eq_none_iff
  rw [Environment.SetsOr, ← text?_eq_some_iff, ← silent]
  cases env.text? name <;> simp [eq_comm]

/-- The settings that an environment gives with these numbers. -/
def assembled (env : Environment) (port tokenLifetime grantLifetime providerTimeout : Nat) : Settings where
  host := (env.text? "HOST").getD "0.0.0.0"
  port := port
  databaseUrl := (env.text? "DATABASE_URL").filter fun url => url ≠ ""
  tokenLifetime := seconds tokenLifetime
  grantLifetime := seconds grantLifetime
  providerTimeout := seconds providerTimeout
  googleEnabled := env.text? "GOOGLE_ENABLED" ≠ some "false"
  userinfoUrl := (env.text? "GOOGLE_USERINFO_URL").getD defaultUserinfoUrl

theorem describes_iff {s : Settings} : Describes env s ↔ ∃ port token grant timeout,
    Variable.port.Gives env port ∧ Variable.tokenLifetime.Gives env token ∧ Variable.grantLifetime.Gives env grant ∧
    Variable.providerTimeout.Gives env timeout ∧ s = assembled env port token grant timeout := by
  have url (o : Option String) : (∀ url, o = some url ↔ env.Sets "DATABASE_URL" url.toList ∧ url ≠ "") ↔
      o = (env.text? "DATABASE_URL").filter fun url => url ≠ "" := by
    rw [Option.ext_iff]
    refine forall_congr' fun url => ?_
    rw [Option.filter_eq_some_iff, text?_eq_some_iff, decide_eq_true_iff]
  have google (enabled : Bool) : (enabled = false ↔ env.Sets "GOOGLE_ENABLED" "false".toList) ↔
      enabled = (env.text? "GOOGLE_ENABLED" ≠ some "false" : Bool) := by
    rw [← text?_eq_some_iff]
    cases enabled <;> simp
  constructor
  · rintro ⟨host, port, database, ⟨token, lifetime, span⟩, ⟨grant, lifetime', span'⟩, ⟨timeout, waits, wait⟩, enabled,
      info⟩
    refine ⟨s.port, token, grant, timeout, port, lifetime, lifetime', waits, ?_⟩
    rw [assembled, text?_getD_eq_iff.2 host, ← (url _).1 database, ← span, ← span', ← wait, ← (google _).1 enabled,
      text?_getD_eq_iff.2 info]
  · rintro ⟨port, token, grant, timeout, gives, lifetime, lifetime', waits, rfl⟩
    exact ⟨text?_getD_eq_iff.1 rfl, gives, (url _).2 rfl, ⟨token, lifetime, rfl⟩, ⟨grant, lifetime', rfl⟩,
      ⟨timeout, waits, rfl⟩, (google _).2 rfl, text?_getD_eq_iff.1 rfl⟩

/-- The four numbers are read one after the other, and the settings are put together from them. -/
theorem fromEnvironment_eq (env : Environment) : ∃ port token grant timeout,
    Settles .port env port ∧ Settles .tokenLifetime env token ∧ Settles .grantLifetime env grant ∧
    Settles .providerTimeout env timeout ∧ fromEnvironment env = do
      return assembled env (← port) (← token) (← grant) (← timeout) := by
  have lifetimes {v : Variable} (means : v.means = SecondsText 315360000) :=
    @settles_spanFrom v env readLifetime (fun _ _ => means ▸ readLifetime_eq_ok_iff) fun _ _ fails => by
      simpa [Variable.headlines] using headline_of_readLifetime fails
  obtain ⟨token, spans, settles⟩ := lifetimes (v := .tokenLifetime) rfl
  obtain ⟨grant, spans', settles'⟩ := lifetimes (v := .grantLifetime) rfl
  obtain ⟨timeout, waits, settles''⟩ := @settles_spanFrom .providerTimeout env readSeconds
    (fun _ _ => readSeconds_eq_ok_iff) fun _ _ fails => by simp [Variable.headlines, headline_of_readSeconds fails]
  refine ⟨portFrom env, token, grant, timeout, settles_portFrom env, settles, settles', settles'', ?_⟩
  change spanFrom env readLifetime "TOKEN_LIFETIME_SECS" 3600 = _ at spans
  change spanFrom env readLifetime "AUTHORIZATION_CODE_LIFETIME_SECS" 600 = _ at spans'
  change spanFrom env readSeconds "PROVIDER_TIMEOUT_SECS" 10 = _ at waits
  unfold fromEnvironment
  rw [spans, spans', waits]
  cases portFrom env with
  | error report => rfl
  | ok port =>
    cases token with
    | error report => rfl
    | ok token =>
      cases grant with
      | error report => rfl
      | ok grant => cases timeout <;> rfl

theorem Settles.not_fits {result : Except Report Nat} (settles : Settles v env result) (fails : result = .error report) :
    ¬v.Fits env := by
  rintro ⟨n, gives⟩
  rw [(settles.gives n).2 gives] at fails
  cases fails

theorem Settles.fits {result : Except Report Nat} (settles : Settles v env result) (reads : result = .ok n) : v.Fits env :=
  ⟨n, (settles.gives n).1 reads⟩

theorem fromEnvironment_eq_ok_iff {s : Settings} : fromEnvironment env = .ok s ↔ Describes env s := by
  obtain ⟨port, token, grant, timeout, port', token', grant', timeout', same⟩ := fromEnvironment_eq env
  simp only [describes_iff, ← port'.gives, ← token'.gives, ← grant'.gives, ← timeout'.gives, same,
    Except.bind_eq_ok_iff]
  constructor
  · rintro ⟨a, rfl, b, rfl, c, rfl, d, rfl, found⟩
    exact ⟨a, b, c, d, rfl, rfl, rfl, rfl, (Except.ok.inj found).symm⟩
  · rintro ⟨a, b, c, d, rfl, rfl, rfl, rfl, rfl⟩
    exact ⟨a, rfl, b, rfl, c, rfl, d, rfl, rfl⟩

theorem blames_of_fromEnvironment (fails : fromEnvironment env = .error report) : Blames env report := by
  obtain ⟨port, token, grant, timeout, port', token', grant', timeout', same⟩ := fromEnvironment_eq env
  rw [same] at fails
  cases port with
  | error other =>
    obtain rfl := Except.error.inj fails
    exact ⟨[], .port, _, rfl, List.forall_mem_nil _, port'.not_fits rfl, port'.names _ rfl⟩
  | ok a =>
    have fits : ∀ u ∈ [Variable.port], u.Fits env := List.forall_mem_singleton.2 (port'.fits rfl)
    cases token with
    | error other =>
      obtain rfl := Except.error.inj fails
      exact ⟨[.port], .tokenLifetime, _, rfl, fits, token'.not_fits rfl, token'.names _ rfl⟩
    | ok b =>
      have fits : ∀ u ∈ [Variable.port, .tokenLifetime], u.Fits env :=
        List.forall_mem_append.2 ⟨fits, List.forall_mem_singleton.2 (token'.fits rfl)⟩
      cases grant with
      | error other =>
        obtain rfl := Except.error.inj fails
        exact ⟨[.port, .tokenLifetime], .grantLifetime, _, rfl, fits, grant'.not_fits rfl, grant'.names _ rfl⟩
      | ok c =>
        have fits : ∀ u ∈ [Variable.port, .tokenLifetime, .grantLifetime], u.Fits env :=
          List.forall_mem_append.2 ⟨fits, List.forall_mem_singleton.2 (grant'.fits rfl)⟩
        cases timeout with
        | error other =>
          obtain rfl := Except.error.inj fails
          exact ⟨[.port, .tokenLifetime, .grantLifetime], .providerTimeout, _, rfl, fits, timeout'.not_fits rfl,
            timeout'.names _ rfl⟩
        | ok d => cases fails

/-- The settings are found just if each variable that is to give a number is unset or gives one, and then they are those
that the environment describes. Otherwise the first variable that gives none is named. -/
theorem fromEnvironment_accepts (env : Environment) :
    (∀ s, fromEnvironment env = .ok s ↔ Describes env s) ∧
    ((∃ s, fromEnvironment env = .ok s) ↔ ∀ v ∈ Variable.all, v.Fits env) ∧
    ∀ report, fromEnvironment env = .error report → Blames env report := by
  refine ⟨fun s => fromEnvironment_eq_ok_iff, ⟨?_, fun fits => ?_⟩, fun report => blames_of_fromEnvironment⟩
  · rintro ⟨s, found⟩
    obtain ⟨-, port, -, ⟨a, token, -⟩, ⟨b, grant, -⟩, ⟨c, timeout, -⟩, -, -⟩ := fromEnvironment_eq_ok_iff.1 found
    simp only [Variable.all, List.forall_mem_cons]
    exact ⟨⟨_, port⟩, ⟨a, token⟩, ⟨b, grant⟩, ⟨c, timeout⟩, List.forall_mem_nil _⟩
  · cases found : fromEnvironment env with
    | ok s => exact ⟨s, rfl⟩
    | error report =>
      obtain ⟨before, v, after, split, -, unfit, -⟩ := blames_of_fromEnvironment found
      exact (unfit (fits v (split ▸ List.mem_append_right before List.mem_cons_self))).elim

theorem environments_accepted_and_blamed :
    Describes [("PORT", Utf8.encode "+0080".toList), ("TOKEN_LIFETIME_SECS", Utf8.encode " 0315360000\n".toList),
        ("HOST", [0xFF]), ("DATABASE_URL", [])]
      { host := "0.0.0.0", port := 80, databaseUrl := none, tokenLifetime := seconds 315360000,
        grantLifetime := seconds 600, providerTimeout := seconds 10, googleEnabled := true,
        userinfoUrl := defaultUserinfoUrl } ∧
    Blames [("PROVIDER_TIMEOUT_SECS", []), ("TOKEN_LIFETIME_SECS", Utf8.encode "315360001".toList)]
      ⟨"315360001 is longer than 315360000 seconds", ["Invalid TOKEN_LIFETIME_SECS"]⟩ :=
  ⟨((fromEnvironment_accepts _).1 _).1 (by rfl), (fromEnvironment_accepts _).2.2 _ (by rfl)⟩

end TokenAuthority.Settings
