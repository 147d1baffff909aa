import TokenAuthority.Service

/-!
# Which services are made

A service is made unless one of its lifetimes is longer than ten years, and of a lifetime only the whole seconds count.
-/

namespace TokenAuthority

namespace Service

variable {registry : Registry} {token grant : Span} {s : Service}

theorem lifetime_eq (what : String) (span : Span) : lifetime what span =
    if maxLifetime < span.seconds then
      .error (.invalidArgument ("The " ++ what ++ " lifetime of " ++ toString span.seconds ++
        " seconds exceeds 315360000 seconds."))
    else .ok (span.seconds : Int) := by
  have cap (text : String) : text ++ " seconds exceeds " ++ toString maxLifetime ++ " seconds." =
      text ++ " seconds exceeds 315360000 seconds." := by
    rw [String.append_assoc, String.append_assoc]
    rfl
  unfold lifetime
  split
  · rw [cap]
  · rename_i short
    have inside : ¬maxShift < span.seconds := by
      have far : maxLifetime ≤ maxShift := by decide
      omega
    rw [if_neg inside]

theorem new_eq (registry : Registry) (token grant : Span) : new registry token grant =
    if maxLifetime < token.seconds then
      .error (.invalidArgument ("The token lifetime of " ++ toString token.seconds ++
        " seconds exceeds 315360000 seconds."))
    else if maxLifetime < grant.seconds then
      .error (.invalidArgument ("The authorization code lifetime of " ++ toString grant.seconds ++
        " seconds exceeds 315360000 seconds."))
    else .ok ⟨registry, token.seconds, grant.seconds⟩ := by
  unfold new
  rw [lifetime_eq, lifetime_eq]
  split
  · rfl
  · split <;> rfl

theorem new_eq_ok_iff : new registry token grant = .ok s ↔
    token.seconds ≤ maxLifetime ∧ grant.seconds ≤ maxLifetime ∧ s = ⟨registry, token.seconds, grant.seconds⟩ := by
  rw [new_eq]
  split
  · rename_i long
    exact ⟨nofun, fun ⟨short, _⟩ => absurd long (Nat.not_lt.2 short)⟩
  · rename_i short
    split
    · rename_i long
      exact ⟨nofun, fun ⟨_, short, _⟩ => absurd long (Nat.not_lt.2 short)⟩
    · rename_i short'
      exact ⟨fun made => ⟨Nat.not_lt.1 short, Nat.not_lt.1 short', (Except.ok.inj made).symm⟩,
        fun ⟨_, _, same⟩ => congrArg Except.ok same.symm⟩

theorem new_ne_outOfRange (what : String) : new registry token grant ≠
    .error (.invalidArgument ("The " ++ what ++ " lifetime is out of range.")) := by
  -- A lifetime that is too long is refused as such, and the two texts end differently.
  have apart (a b : String) : a ++ " seconds exceeds 315360000 seconds." ≠ b ++ " lifetime is out of range." := by
    intro same
    have ends : ['.', 's'] = ['.', 'e'] := by
      simpa using congrArg (fun text : String => text.toList.reverse.take 2) same
    cases ends
  rw [new_eq]
  split
  · exact fun same => apart _ _ (Failure.invalidArgument.inj (Except.error.inj same))
  · split
    · exact fun same => apart _ _ (Failure.invalidArgument.inj (Except.error.inj same))
    · nofun

end Service

end TokenAuthority
