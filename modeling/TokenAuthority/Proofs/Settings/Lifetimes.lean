import TokenAuthority.Proofs.Dialogue.Expiry
import TokenAuthority.Proofs.Settings.Environment
import TokenAuthority.Proofs.Settings.Service
import TokenAuthority.Proofs.Time.Lifetime

/-!
# Lifetimes from the settings to the tokens

A service can be made with all lifetimes that the environment can give, and with no longer ones. With these lifetimes no
end of a token or of a grant lies beyond the calendar, as long as the clock is ten years from it, and outside leap seconds
a token tells truly how long it lasts.
-/

namespace TokenAuthority

/-! ### Settings -/

namespace Settings

variable {env : Environment} {s : Settings} {n most : Nat}

theorem SecondsText.le {text : List Char} (reads : SecondsText most text n) : n ≤ most := by
  obtain ⟨core, surrounds, denotes, small⟩ := reads
  exact small

theorem seconds_le_of_gives {name : String} {unset : Nat} (small : unset ≤ most)
    (gives : Variable.Gives ⟨name, SecondsText most, unset⟩ env n) : n ≤ most := by
  cases gives with
  | unset silent => exact small
  | said sets means => exact SecondsText.le means

theorem service_of_fromEnvironment (found : fromEnvironment env = .ok s) (registry : Registry) :
    ∃ service, Service.new registry s.tokenLifetime s.grantLifetime = .ok service := by
  obtain ⟨-, -, -, ⟨token, lifetime, span⟩, ⟨grant, lifetime', span'⟩, -, -, -⟩ := fromEnvironment_eq_ok_iff.1 found
  refine ⟨_, Service.new_eq_ok_iff.2 ⟨?_, ?_, rfl⟩⟩
  · rw [span]
    exact seconds_le_of_gives (by decide) lifetime
  · rw [span']
    exact seconds_le_of_gives (by decide) lifetime'

end Settings

/-! ### Tokens and grants -/

/-- A lifetime that was counted from a start without overflow, and exactly unless the start is in a leap second. -/
structure Lasts (lifetime : Int) (created expires : Instant) : Prop where
  ends : expires = created.addSeconds lifetime
  inside : expires.InCalendar
  exact : created.isLeap = false → expires.nanosSince created = lifetime * nanosPerSecond

/-- A token tells truly how long it lasts. -/
structure Token.Truthful (lifetime : Int) (token : Token) : Prop where
  bounded : ∀ now, token.createdAt ≤ now → 0 ≤ token.expiresIn now ∧ token.expiresIn now ≤ lifetime
  gone : ∀ now, token.isExpired now = true → token.expiresIn now = 0
  keeps : ∀ now later, now ≤ later → later < now.addSeconds (token.expiresIn now) → token.isExpired later = false
  lasts : ∀ now later, now.isLeap = false → later.isLeap = false → now ≤ later →
    later.nanosSince now < token.expiresIn now * nanosPerSecond → token.isExpired later = false

variable {token : Token} {now created expires : Instant} {lifetime : Nat} {seen : Instant → Prop}

theorem Instant.inCalendar_addSeconds (short : lifetime ≤ maxLifetime)
    (timely : now.InCalendar ∧ now.seconds + maxLifetime ≤ lastSecond) : (now.addSeconds lifetime).InCalendar := by
  have start : firstSecond ≤ now.seconds := timely.1.1
  have later := now.addSeconds_of_nonneg (Int.natCast_nonneg lifetime)
  exact ⟨by omega, by omega⟩

theorem Dated.lasts (dated : Dated seen lifetime created expires) (short : lifetime ≤ maxLifetime)
    (timely : ∀ now, seen now → now.InCalendar ∧ now.seconds + maxLifetime ≤ Instant.lastSecond) :
    Lasts lifetime created expires := by
  refine ⟨dated.ends, ?_, fun plain => ?_⟩
  · rw [dated.ends]
    exact Instant.inCalendar_addSeconds short (timely created dated.starts)
  · rw [dated.ends]
    exact Instant.nanosSince_addSeconds lifetime plain

theorem Dated.truthful (dated : Dated seen lifetime token.createdAt token.expiresAt)
    (plain : token.createdAt.isLeap = false) : token.Truthful lifetime := by
  have plain' : token.expiresAt.isLeap = false := by
    rw [dated.ends]
    exact Instant.isLeap_addSeconds lifetime plain
  refine ⟨fun now since => ⟨token.expiresIn_nonneg now, ?_⟩, fun now => Token.expiresIn_of_isExpired plain',
    fun now later => Token.not_isExpired_of_lt plain', fun now later reading reading' since soon => ?_⟩
  · exact Token.expiresIn_le (Int.natCast_nonneg lifetime) plain dated.ends since
  · exact Token.not_isExpired_of_lt plain' since ((Instant.lt_addSeconds_iff _ reading reading').2 soon)

/-- The lifetimes of all settings that an environment gives are accepted. Of other lifetimes those are refused that are
longer than ten years, the one of tokens first, and as too long, not as out of range; only whole seconds count. With an
accepted service no reading of the clock that lies ten years before the end of the calendar leads beyond it, and whatever a
call stores anew starts at a reading and ends one lifetime later; if it does not start in a leap second it lasts for the
configured seconds exactly, and a token never claims that it lasts longer than that or longer than it does. -/
theorem lifetimes_safe :
    (∀ env settings registry, Settings.fromEnvironment env = .ok settings →
      ∃ s, Service.new registry settings.tokenLifetime settings.grantLifetime = .ok s) ∧
    (∀ registry token grant, Service.new registry token grant =
      if 315360000 < token.seconds then
        .error (.invalidArgument ("The token lifetime of " ++ toString token.seconds ++
          " seconds exceeds 315360000 seconds."))
      else if 315360000 < grant.seconds then
        .error (.invalidArgument ("The authorization code lifetime of " ++ toString grant.seconds ++
          " seconds exceeds 315360000 seconds."))
      else .ok ⟨registry, token.seconds, grant.seconds⟩) ∧
    (∀ registry token grant what,
      Service.new registry token grant ≠ .error (.invalidArgument ("The " ++ what ++ " lifetime is out of range."))) ∧
    ∀ registry token grant s call heard visits result, Service.new registry token grant = .ok s →
      Dialogue (s.perform call).run heard visits result →
      (∀ now, ⟨.clock, now⟩ ∈ heard → now.InCalendar ∧ now.seconds + 315360000 ≤ Instant.lastSecond) →
      (∀ now, ⟨.clock, now⟩ ∈ heard →
        (now.addSeconds token.seconds).InCalendar ∧ (now.addSeconds grant.seconds).InCalendar) ∧
      (∀ visit ∈ visits, ∀ t : Token, (visit.call = .addToken t ∨ ∃ access, visit.call = .chainToken access t) →
        ⟨.clock, t.createdAt⟩ ∈ heard ∧ Lasts token.seconds t.createdAt t.expiresAt ∧
          (t.createdAt.isLeap = false → t.Truthful token.seconds)) ∧
      ∀ visit ∈ visits, ∀ g : Grant, visit.call = .addGrant g →
        ⟨.clock, g.createdAt⟩ ∈ heard ∧ Lasts grant.seconds g.createdAt g.expiresAt := by
  refine ⟨fun env settings registry found => Settings.service_of_fromEnvironment found registry, Service.new_eq,
    fun registry token grant what => Service.new_ne_outOfRange what, ?_⟩
  intro registry token grant s call heard visits result made dialogue timely
  obtain ⟨short, short', rfl⟩ := Service.new_eq_ok_iff.1 made
  have dates := Dialogue.dates_of_perform dialogue
  refine ⟨fun now mem => ?_, fun visit mem t stores => ?_, fun visit mem g stores => ?_⟩
  · exact ⟨Instant.inCalendar_addSeconds short (timely now mem), Instant.inCalendar_addSeconds short' (timely now mem)⟩
  · have dated : Dated (fun now => ⟨.clock, now⟩ ∈ heard) token.seconds t.createdAt t.expiresAt := by
      have dated := dates visit mem
      rcases stores with adds | ⟨access, chains⟩
      · rwa [adds] at dated
      · rwa [chains] at dated
    exact ⟨dated.starts, dated.lasts short timely, dated.truthful⟩
  · have dated : Dated (fun now => ⟨.clock, now⟩ ∈ heard) grant.seconds g.createdAt g.expiresAt := by
      have dated := dates visit mem
      rwa [stores] at dated
    exact ⟨dated.starts, dated.lasts short' timely⟩

/-- A token for the longest lifetime of all, refreshed at the last moment that leaves room for it. -/
theorem refresh_fits_calendar :
    (∃ s, Service.new .empty (Settings.seconds 3600) (Settings.seconds 600) = .ok s) ∧ ∃ s heard visits result,
    Service.new .empty (Settings.seconds 315360000) ⟨600, 999999999⟩ = .ok s ∧
    Dialogue (s.perform (.refresh "r")).run heard visits result ∧
    ∃ visit ∈ visits, ∃ t : Token, visit.call = .chainToken "a" t ∧ t.expiresAt = .ofSeconds Instant.lastSecond ∧
      Lasts 315360000 t.createdAt t.expiresAt ∧ t.Truthful 315360000 := by
  let now : Instant := .ofSeconds (Instant.lastSecond - 315360000)
  let old : Token := .issued "u" 600 now "a" "r"
  let next : Token := .issued "u" 315360000 now "b" "s"
  have made : Service.new .empty (Settings.seconds 315360000) ⟨600, 999999999⟩ = .ok ⟨.empty, 315360000, 600⟩ := rfl
  have dialogue : Dialogue (Service.perform ⟨.empty, 315360000, 600⟩ (.refresh "r")).run
      [⟨.clock, now⟩, ⟨.freshText, "b"⟩, ⟨.freshText, "s"⟩]
      [⟨.tokenByRefresh "r", .ok (some old)⟩, ⟨.chainToken "a" next, .ok true⟩] (.ok (.token next)) :=
    .logs (.asks _ (.hears rfl _ (.hears rfl _ (.hears rfl _ (.asks _ (.logs (.done _)))))))
  have timely : ∀ reading, ⟨.clock, reading⟩ ∈ ([⟨.clock, now⟩, ⟨.freshText, "b"⟩, ⟨.freshText, "s"⟩] : List Heard) →
      reading.InCalendar ∧ reading.seconds + 315360000 ≤ Instant.lastSecond := by
    intro reading mem
    cases mem with
    | head => decide
    | tail _ mem => cases mem with
      | tail _ mem => cases mem with
        | tail _ mem => cases mem
  obtain ⟨-, tokens, -⟩ := lifetimes_safe.2.2.2 _ _ _ _ _ _ _ _ made dialogue timely
  obtain ⟨-, lasts, truthful⟩ := tokens _ (.tail _ (.head _)) next (.inr ⟨"a", rfl⟩)
  refine ⟨lifetimes_safe.1 [] _ .empty rfl, ?_⟩
  exact ⟨_, _, _, _, made, dialogue, _, .tail _ (.head _), next, rfl, rfl, lasts, truthful rfl⟩

end TokenAuthority
