import TokenAuthority.Proofs.Sequence.Ledger
import TokenAuthority.Proofs.Settings.Service

/-!
# Who is let through

Of calls that are carried out one after the other, what was done before tells whether an access string is good:
it is that of an issued token which was not invalidated, not refreshed and has not expired.
-/

namespace TokenAuthority

namespace Token

variable {token : Token} {now : Instant}

theorem admitted_of_invalid (invalid : token.valid = false) : token.admitted now = .error .alreadyInvalidated := by
  simp [admitted, wasInvalidated, invalid]

theorem admitted_of_linked (valid : token.valid = true) (linked : token.next.isSome = true) :
    token.admitted now = .error .alreadyRefreshed := by
  simp [admitted, wasInvalidated, valid, wasRefreshed, linked]

theorem admitted_of_last (valid : token.valid = true) (last : token.next = none) :
    token.admitted now = if token.expiresAt ≤ now then .error .expiredAccess else .ok token := by
  simp [admitted, wasInvalidated, valid, wasRefreshed, last, isExpired]

end Token

/-- The token with an access string was traded for another one. -/
def Traded (past : List Taken) (token : Token) : Prop := ∃ r, token.refresh = some r ∧ Refreshed past r

/-- What was done before settles what comes of presenting an access string at some time. -/
inductive Standing (s : Service) (past : List Taken) (access : String) (now : Instant) :
    Except Failure Token → Prop where
  | unknown (never : ∀ token, Issued past token → token.access ≠ access) :
      Standing s past access now (.error .unknownAccess)
  | invalidated {token : Token} (issued : Issued past token) (own : token.access = access)
      (closed : Invalidated past access) : Standing s past access now (.error .alreadyInvalidated)
  | refreshed {token : Token} (issued : Issued past token) (own : token.access = access)
      (valid : ¬Invalidated past access) (traded : Traded past token) :
      Standing s past access now (.error .alreadyRefreshed)
  | expired {token : Token} (issued : Issued past token) (own : token.access = access)
      (valid : ¬Invalidated past access) (last : ¬Traded past token)
      (late : token.createdAt.addSeconds s.tokenLifetime ≤ now) : Standing s past access now (.error .expiredAccess)
  | good {token : Token} (issued : Issued past token) (own : token.access = access)
      (valid : ¬Invalidated past access) (last : ¬Traded past token)
      (early : now < token.createdAt.addSeconds s.tokenLifetime) : Standing s past access now (.ok token)

namespace Ledger

variable {s : Service} {past : List Taken} {m : Memory} {access : String} {now : Instant} {token other : Token}

theorem Tells.once (ledger : Tells s past m) (issued : Issued past token) (issued' : Issued past other)
    (same : token.access = other.access) : token = other := by
  obtain ⟨current, stored, rfl⟩ := Ledger.recorded ledger issued
  obtain ⟨current', stored', rfl⟩ := Ledger.recorded ledger issued'
  rw [same, stored'] at stored
  rw [Option.some.inj stored]

theorem Tells.standing (ledger : Tells s past m) : Standing s past access now (m.bearer access now) := by
  unfold Memory.bearer
  cases stored : m.tokens.get? access with
  | none =>
    refine .unknown fun token issued own => ?_
    obtain ⟨current, kept, -⟩ := Ledger.recorded ledger issued
    rw [own, stored] at kept
    cases kept
  | some token =>
    have issued := Ledger.original ledger stored
    have own : token.access = access := ledger.orderly.indexed.keyed stored
    have linked : token.next.isSome = true ↔ Traded past token.original := Ledger.linked ledger stored
    have dated := Ledger.dated ledger stored
    cases valid : token.valid with
    | false =>
      dsimp only
      rw [Token.admitted_of_invalid valid]
      exact .invalidated issued own ((Ledger.invalid ledger stored).1 valid)
    | true =>
      have unclosed : ¬Invalidated past access := fun closed => by
        rw [(Ledger.invalid ledger stored).2 closed] at valid
        cases valid
      cases next : token.next with
      | some successor =>
        have isLinked : token.next.isSome = true := by rw [next]; rfl
        dsimp only
        rw [Token.admitted_of_linked valid isLinked]
        exact .refreshed issued own unclosed (linked.1 isLinked)
      | none =>
        have last : ¬Traded past token.original := fun traded => by
          have isLinked := linked.2 traded
          rw [next] at isLinked
          cases isLinked
        dsimp only
        rw [Token.admitted_of_last valid next]
        have same : token.original = token := by rw [Token.original, ← valid, ← next]
        split
        · rename_i late
          rw [dated] at late
          exact .expired issued own unclosed last late
        · rename_i early
          rw [dated] at early
          have good : Standing s past access now (.ok token.original) :=
            .good issued own unclosed last (Instant.not_le.1 early)
          rwa [same] at good

end Ledger

namespace Standing

variable {s : Service} {past : List Taken} {m : Memory} {access : String} {now : Instant} {token : Token}
  {bearer : Except Failure Token} (standing : Standing s past access now bearer)
include standing

theorem ok_iff (ledger : Ledger.Tells s past m) : bearer = .ok token ↔ token.access = access ∧ Issued past token ∧
    ¬Invalidated past access ∧ ¬Traded past token ∧ now < token.createdAt.addSeconds s.tokenLifetime := by
  constructor
  · rintro rfl
    cases standing with
    | good issued own valid last early => exact ⟨own, issued, valid, last, early⟩
  · rintro ⟨own, issued, valid, last, early⟩
    cases standing with
    | unknown never => exact (never token issued own).elim
    | invalidated _ _ closed => exact (valid closed).elim
    | refreshed issued' own' _ traded =>
      obtain rfl := ledger.once issued issued' (own.trans own'.symm)
      exact (last traded).elim
    | expired issued' own' _ _ late =>
      obtain rfl := ledger.once issued issued' (own.trans own'.symm)
      exact (Instant.not_le.2 early late).elim
    | good issued' own' =>
      obtain rfl := ledger.once issued issued' (own.trans own'.symm)
      rfl

theorem of_never (never : ∀ token, Issued past token → token.access ≠ access) :
    bearer = .error .unknownAccess := by
  cases standing with
  | unknown => rfl
  | invalidated issued own | refreshed issued own | expired issued own | good issued own =>
    exact (never _ issued own).elim

variable (issued : Issued past token) (own : token.access = access)
include issued own

theorem of_invalidated (closed : Invalidated past access) : bearer = .error .alreadyInvalidated := by
  cases standing with
  | unknown never => exact (never token issued own).elim
  | invalidated => rfl
  | refreshed _ _ valid | expired _ _ valid | good _ _ valid => exact (valid closed).elim

theorem of_traded (ledger : Ledger.Tells s past m) (valid : ¬Invalidated past access) (traded : Traded past token) :
    bearer = .error .alreadyRefreshed := by
  cases standing with
  | unknown never => exact (never token issued own).elim
  | invalidated _ _ closed => exact (valid closed).elim
  | refreshed => rfl
  | expired issued' own' _ last | good issued' own' _ last =>
    obtain rfl := ledger.once issued issued' (own.trans own'.symm)
    exact (last traded).elim

theorem of_late (ledger : Ledger.Tells s past m) (valid : ¬Invalidated past access)
    (last : ¬Traded past token) (late : token.createdAt.addSeconds s.tokenLifetime ≤ now) :
    bearer = .error .expiredAccess := by
  cases standing with
  | unknown never => exact (never token issued own).elim
  | invalidated _ _ closed => exact (valid closed).elim
  | refreshed issued' own' _ traded =>
    obtain rfl := ledger.once issued issued' (own.trans own'.symm)
    exact (last traded).elim
  | expired => rfl
  | good issued' own' _ _ early =>
    obtain rfl := ledger.once issued issued' (own.trans own'.symm)
    exact (Instant.not_le.2 early late).elim

end Standing

theorem Turn.result_authenticate {s : Service} {w : World} {m : Memory} {access : String} :
    (Turn.mk (.authenticate access) w).result s m = .token <$> m.bearer access (w.clock 1) := by
  obtain ⟨after, alone, -⟩ := @World.alone_authenticate w .empty m access
  rw [Turn.result, Turn.play, Service.perform, World.alone_map, alone]
  rfl

/-- Of a lifetime only the whole seconds count. -/
theorem Service.tokenLifetime_of_new {registry : Registry} {s : Service} {tokenSpan grantSpan : Span}
    (made : Service.new registry tokenSpan grantSpan = .ok s) : s.tokenLifetime = tokenSpan.seconds := by
  obtain ⟨-, -, rfl⟩ := Service.new_eq_ok_iff.1 made
  rfl

/-- After any calls one after the other, of which no one draws a string that is stored already, a call that
presents an access string is let through exactly if the string is that of a token that a login, a refresh or
the trade of a code returned, no call has invalidated it, no refresh with its refresh string has succeeded, and
the time is before the end of its lifetime, of which the whole seconds count; the call returns the token as it
was issued. Else a string that was never issued is unknown, and of several things that are wrong with a token it
is reported first that it was invalidated, then that it was refreshed, then that it has expired. -/
theorem authenticate_told_by_history (s : Service) (m : Memory) (turns : List Turn) (tokens : m.tokens = .empty)
    (index : m.refreshIndex = .empty) (fresh : s.AllFresh turns m) (w : World) (access : String) :
    let past := s.transcript turns m
    let result := (Turn.mk (.authenticate access) w).result s (s.finish turns m)
    let now := w.clock 1
    (∀ token, result = .ok (.token token) ↔ token.access = access ∧ Issued past token ∧ ¬Invalidated past access ∧
      ¬Traded past token ∧ now < token.createdAt.addSeconds s.tokenLifetime) ∧
    ((∀ token, Issued past token → token.access ≠ access) → result = .error .unknownAccess) ∧
    (∀ token, Issued past token → token.access = access →
      (Invalidated past access → result = .error .alreadyInvalidated) ∧
      (¬Invalidated past access → Traded past token → result = .error .alreadyRefreshed) ∧
      (¬Invalidated past access → ¬Traded past token → token.createdAt.addSeconds s.tokenLifetime ≤ now →
        result = .error .expiredAccess)) ∧
    ∀ registry tokenSpan grantSpan, Service.new registry tokenSpan grantSpan = .ok s →
      s.tokenLifetime = tokenSpan.seconds := by
  intro past result now
  have ledger : Ledger.Tells s past (s.finish turns m) := (Ledger.Tells.start tokens index).turns fresh
  have standing : Standing s past access now ((s.finish turns m).bearer access now) := ledger.standing
  have comes : result = .token <$> (s.finish turns m).bearer access now := Turn.result_authenticate
  generalize (s.finish turns m).bearer access now = bearer at standing comes
  have returns (token : Token) : result = .ok (.token token) ↔ bearer = .ok token := by
    rw [comes]
    cases bearer <;> simp [Functor.map, Except.map]
  have refuses (failure : Failure) (refused : bearer = .error failure) : result = .error failure := by
    rw [comes, refused]
    rfl
  refine ⟨fun token => (returns token).trans (standing.ok_iff ledger), ?_, ?_, ?_⟩
  · exact fun never => refuses _ (standing.of_never never)
  · intro token issued own
    refine ⟨fun closed => ?_, fun valid traded => ?_, fun valid last late => ?_⟩
    · exact refuses _ (standing.of_invalidated issued own closed)
    · exact refuses _ (standing.of_traded issued own ledger valid traded)
    · exact refuses _ (standing.of_late issued own ledger valid last late)
  · exact fun _ _ _ => Service.tokenLifetime_of_new

/-- The token of the first guest was issued and is still good; the second guest's first token was traded. -/
theorem guests_told_by_history : guestbook.tokens = .empty ∧ guestbook.refreshIndex = .empty ∧
    inn.AllFresh guests guestbook ∧
    Issued (inn.transcript guests guestbook) (.issued "u" 3600 (.ofSeconds 0) "a" "r") ∧
    ¬Invalidated (inn.transcript guests guestbook) "a" ∧
    ¬Traded (inn.transcript guests guestbook) (.issued "u" 3600 (.ofSeconds 0) "a" "r") := by
  have told := authenticate_told_by_history inn guestbook guests rfl rfl guests_fresh (.supplying "" "") "a"
  have stored : (inn.finish guests guestbook).tokens.get? "a" = some (.issued "u" 3600 (.ofSeconds 0) "a" "r") := by
    decide +kernel
  have admitted : (Turn.mk (.authenticate "a") (.supplying "" "")).result inn (inn.finish guests guestbook) =
      .ok (.token (.issued "u" 3600 (.ofSeconds 0) "a" "r")) := by
    rw [Turn.result_authenticate, Memory.bearer, stored]
    rfl
  obtain ⟨-, issued, valid, last, -⟩ := (told.1 _).1 admitted
  exact ⟨rfl, rfl, guests_fresh, issued, valid, last⟩

end TokenAuthority
