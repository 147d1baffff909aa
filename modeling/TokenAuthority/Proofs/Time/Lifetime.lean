import TokenAuthority.Token

/-!
# Lifetimes

Outside leap seconds the time between two instants is that between their seconds and nanoseconds, so what was added to an
instant is also the time that has passed since. The remaining time is rounded down: it is gone when the token expires, and
a token lasts for at least as long as it says.
-/

namespace TokenAuthority

namespace Instant

variable {a b t : Instant}

theorem nanos_lt_of_not_isLeap (plain : t.isLeap = false) : t.nanos < nanosPerSecond := by
  simpa [isLeap] using plain

theorem isLeap_addSeconds (n : Int) (plain : t.isLeap = false) : (t.addSeconds n).isLeap = false := by
  rw [isLeap, (addSeconds_of_not_isLeap n plain).2]
  exact plain

theorem addSeconds_of_pos {n : Int} (t : Instant) (positive : 0 < n) :
    (t.addSeconds n).seconds = t.seconds + n ∧ (t.addSeconds n).nanos = t.nanos % nanosPerSecond := by
  rw [addSeconds, if_neg (Int.ne_of_gt positive)]
  split
  · rename_i below
    exact ⟨rfl, (Nat.mod_eq_of_lt below).symm⟩
  · rename_i leap
    have once : t.nanos - nanosPerSecond = t.nanos % nanosPerSecond := by
      have small := t.nanos_lt
      unfold nanosPerSecond at *
      omega
    exact ⟨rfl, once⟩

theorem addSeconds_of_nonneg {n : Int} (t : Instant) (nonneg : 0 ≤ n) : (t.addSeconds n).seconds = t.seconds + n := by
  rcases Int.lt_or_eq_of_le nonneg with positive | none
  · exact (t.addSeconds_of_pos positive).1
  · rw [← none, Int.add_zero]
    rfl

theorem nanosSince_of_not_isLeap (plain : a.isLeap = false) (plain' : b.isLeap = false) :
    a.nanosSince b = (a.seconds - b.seconds) * nanosPerSecond + ((a.nanos : Int) - b.nanos) := by
  have none : leapBetween a b = 0 := by
    simp [leapBetween, plain, plain']
  rw [nanosSince, none, Int.add_zero]

theorem nanosSince_addSeconds (n : Int) (plain : t.isLeap = false) : (t.addSeconds n).nanosSince t = n * nanosPerSecond := by
  obtain ⟨seconds, nanos⟩ := addSeconds_of_not_isLeap n plain
  have between : t.seconds + n - t.seconds = n := by omega
  rw [nanosSince_of_not_isLeap (isLeap_addSeconds n plain) plain, seconds, nanos, between, Int.sub_self, Int.add_zero]

theorem lt_addSeconds_iff (n : Int) (plain : a.isLeap = false) (plain' : b.isLeap = false) :
    b < a.addSeconds n ↔ b.nanosSince a < n * nanosPerSecond := by
  obtain ⟨seconds, nanos⟩ := addSeconds_of_not_isLeap n plain
  have small := nanos_lt_of_not_isLeap plain
  have small' := nanos_lt_of_not_isLeap plain'
  rw [lt_iff, seconds, nanos, nanosSince_of_not_isLeap plain' plain]
  unfold nanosPerSecond at *
  omega

theorem lt_of_lt_of_le {a b c : Instant} (before : a < b) (after : b ≤ c) : a < c := by
  rw [lt_iff] at before ⊢
  rw [le_iff] at after
  omega

theorem leapBetween_le_one (a b : Instant) : leapBetween a b ≤ 1 := by
  unfold leapBetween
  split
  · split <;> decide
  · split
    · split <;> decide
    · decide

theorem leapBetween_of_seconds_eq (same : a.seconds = b.seconds) : leapBetween a b = 0 := by
  simp [leapBetween, secondOfDay, same]

/-- A leap second at the other end counts at most for what lies beyond its start. -/
theorem nanosSince_le (plain : a.isLeap = false) (b : Instant) : a.nanosSince b ≤
    (a.seconds - b.seconds) * nanosPerSecond + ((a.nanos : Int) - (b.nanos % nanosPerSecond : Nat)) := by
  have small := b.nanos_lt
  have leap : leapBetween a b ≤ 0 ∨ leapBetween a b ≤ 1 ∧ nanosPerSecond ≤ b.nanos := by
    rw [leapBetween, plain]
    split
    · split
      · rename_i leap
        exact .inr ⟨Int.le_refl 1, of_decide_eq_true leap⟩
      · exact .inl (Int.le_refl 0)
    · simp
  unfold nanosSince
  unfold nanosPerSecond at *
  omega

theorem nanosSince_nonpos (plain : a.isLeap = false) (past : a ≤ b) : a.nanosSince b ≤ 0 := by
  have most := nanosSince_le plain b
  have small := nanos_lt_of_not_isLeap plain
  rcases le_iff.1 past with earlier | ⟨same, nanos⟩
  · unfold nanosPerSecond at *
    omega
  · -- A leap second that has begun is past the second that it prolongs, though it is not counted.
    rw [nanosSince, leapBetween_of_seconds_eq same, same, Int.sub_self]
    omega

/-- What remains of a lifetime after its start is less than a second more than the lifetime, and more than the lifetime
only in a leap second. -/
theorem nanosSince_addSeconds_lt {n : Int} (plain : a.isLeap = false) (since : a ≤ b) :
    (a.addSeconds n).nanosSince b < (n + 1) * nanosPerSecond := by
  have most := nanosSince_le (isLeap_addSeconds n plain) b
  obtain ⟨seconds, nanos⟩ := addSeconds_of_not_isLeap n plain
  have small := nanos_lt_of_not_isLeap plain
  rw [seconds, nanos] at most
  rw [le_iff] at since
  unfold nanosPerSecond at *
  omega

/-- The whole seconds that remain until an instant do not lead beyond it. -/
theorem addSeconds_le {n : Int} (positive : 0 < n) (plain : a.isLeap = false)
    (remains : n * nanosPerSecond ≤ a.nanosSince b) : b.addSeconds n ≤ a := by
  have most := nanosSince_le plain b
  obtain ⟨seconds, nanos⟩ := b.addSeconds_of_pos positive
  have small := nanos_lt_of_not_isLeap plain
  rw [le_iff, seconds, nanos]
  unfold nanosPerSecond at *
  omega

end Instant

namespace Token

variable {token : Token} {now later : Instant} {lifetime : Int}

theorem expiresIn_eq (token : Token) (now : Instant) :
    token.expiresIn now = max (token.expiresAt.nanosSince now / nanosPerSecond) 0 := by
  unfold expiresIn Instant.secondsSince
  rw [Int.tdiv_eq_ediv, show (nanosPerSecond : Int).sign = 1 from rfl]
  unfold nanosPerSecond
  split
  · rw [Int.add_zero]
  · omega

theorem expiresIn_nonneg (token : Token) (now : Instant) : 0 ≤ token.expiresIn now := Int.le_max_right _ _

theorem expiresIn_lt (ends : token.expiresAt.InCalendar) (reading : now.InCalendar) :
    token.expiresIn now < (1 <<< 63 : Nat) := by
  have leap := Instant.leapBetween_le_one token.expiresAt now
  have small := token.expiresAt.nanos_lt
  have early : Instant.firstSecond ≤ now.seconds := reading.1
  have late : token.expiresAt.seconds ≤ Instant.lastSecond := ends.2
  rw [expiresIn_eq, Instant.nanosSince]
  unfold Instant.firstSecond at early
  unfold Instant.lastSecond at late
  unfold nanosPerSecond at *
  omega

theorem expiresIn_le (nonneg : 0 ≤ lifetime) (plain : token.createdAt.isLeap = false)
    (lasts : token.expiresAt = token.createdAt.addSeconds lifetime) (since : token.createdAt ≤ now) :
    token.expiresIn now ≤ lifetime := by
  have most : token.expiresAt.nanosSince now < (lifetime + 1) * nanosPerSecond := by
    rw [lasts]
    exact Instant.nanosSince_addSeconds_lt plain since
  rw [expiresIn_eq]
  exact Int.max_le.2 ⟨Int.le_of_lt_add_one (Int.ediv_lt_of_lt_mul (by decide) most), nonneg⟩

theorem expiresIn_of_isExpired (plain : token.expiresAt.isLeap = false) (expired : token.isExpired now = true) :
    token.expiresIn now = 0 := by
  have gone := Instant.nanosSince_nonpos plain (of_decide_eq_true expired)
  rw [expiresIn_eq]
  unfold nanosPerSecond
  omega

/-- A token lasts for as long as it says. -/
theorem not_isExpired_of_lt (plain : token.expiresAt.isLeap = false) (since : now ≤ later)
    (soon : later < now.addSeconds (token.expiresIn now)) : token.isExpired later = false := by
  have positive : 0 < token.expiresIn now := by
    refine Int.lt_iff_le_and_ne.2 ⟨expiresIn_nonneg token now, fun none => ?_⟩
    rw [← none, Instant.addSeconds, if_pos rfl] at soon
    exact Instant.not_le.2 soon since
  have remains : token.expiresIn now * nanosPerSecond ≤ token.expiresAt.nanosSince now := by
    rw [expiresIn_eq] at positive ⊢
    rw [Int.max_eq_left (by omega)]
    exact Int.ediv_mul_le _ (by decide)
  exact decide_eq_false (Instant.not_le.2 (Instant.lt_of_lt_of_le soon (Instant.addSeconds_le positive plain remains)))

end Token

end TokenAuthority
