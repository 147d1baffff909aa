import TokenAuthority.Proofs.Store.Frame

/-!
# What a store call does to grants

A grant is stored under its code in place of what was there. Taking it marks it as used and hands it out, if
it was not used before. No other store call touches grants.
-/

namespace TokenAuthority

/-- The grant after it was presented. -/
def Grant.presented (now : Instant) (grant : Grant) : Grant :=
  if grant.usedAt = none then { grant with usedAt := some now } else grant

theorem Grant.presented_eq {now : Instant} {grant : Grant} :
    ∃ used, grant.presented now = { grant with usedAt := used } := by
  unfold Grant.presented
  split
  · exact ⟨some now, rfl⟩
  · exact ⟨grant.usedAt, rfl⟩

theorem Grant.presented_owner {now : Instant} {grant : Grant} : (grant.presented now).owner = grant.owner := by
  obtain ⟨used, same⟩ := @Grant.presented_eq now grant
  rw [same]

namespace Memory

variable {m : Memory} {now : Instant} {code other : String} {grant : Grant}

theorem step_addGrant_grants : (m.step now (.addGrant grant)).2.grants.get? other =
    if other = grant.code then some grant else m.grants.get? other :=
  Table.get?_insert ..

/-- Only a grant that was not used is handed out, and is used from then on. -/
theorem step_takeGrant_answer : (m.step now (.takeGrant code)).1 =
    .ok (((m.grants.get? code).filter fun grant => grant.usedAt.isNone).map (Grant.presented now)) := by
  simp only [step]
  split
  · rename_i grant found
    obtain ⟨-, unused⟩ := Option.filter_eq_some_iff.1 found
    have unused : grant.usedAt = none := by simpa using unused
    rw [found]
    simp [Grant.presented, unused]
  · rename_i absent
    rw [absent]
    rfl

theorem step_takeGrant_grants : (m.step now (.takeGrant code)).2.grants.get? other =
    if other = code then (m.grants.get? other).map (Grant.presented now) else m.grants.get? other := by
  simp only [step]
  split
  · rename_i grant taken
    obtain ⟨found, unused⟩ := Option.filter_eq_some_iff.1 taken
    have unused : grant.usedAt = none := by simpa using unused
    simp only [Table.get?_insert]
    by_cases same : other = code
    · subst same
      simp [found, Grant.presented, unused]
    · simp [same]
  · rename_i absent
    by_cases same : other = code
    · subst same
      cases found : m.grants.get? other with
      | none => simp
      | some grant =>
        have used : grant.usedAt ≠ none := by
          rw [found] at absent
          simpa [Option.filter] using absent
        simp [Grant.presented, used]
    · simp [same]

end Memory

end TokenAuthority
