/-!
Points of time to the nanosecond, with leap seconds: during one, the last second of a minute lasts
on and its nanoseconds go on beyond 10^9. Instants are ordered by seconds, then by nanoseconds.
-/

namespace TokenAuthority

def nanosPerSecond : Nat := 1000000000

/-- A point of time: seconds since 1970-01-01T00:00:00Z, leap seconds not counted, and nanoseconds
into that second. -/
structure Instant where
  seconds : Int
  nanos : Nat
  nanos_lt : nanos < nanosPerSecond ∨ (seconds % 60 = 59 ∧ nanos < 2 * nanosPerSecond)
deriving DecidableEq

namespace Instant

def ofSeconds (seconds : Int) : Instant := ⟨seconds, 0, .inl (by decide)⟩

/-- The first second of the calendar, in the year -262143. -/
def firstSecond : Int := -8334601228800

/-- The last second of the calendar, in the year 262142. -/
def lastSecond : Int := 8210266876799

def InCalendar (t : Instant) : Prop := firstSecond ≤ t.seconds ∧ t.seconds ≤ lastSecond

instance (t : Instant) : Decidable t.InCalendar := inferInstanceAs (Decidable (_ ∧ _))

def ofParts? (seconds : Int) (nanos : Nat) : Option Instant :=
  if h : nanos < nanosPerSecond ∨ (seconds % 60 = 59 ∧ nanos < 2 * nanosPerSecond) then
    let t : Instant := ⟨seconds, nanos, h⟩
    if t.InCalendar then some t else none
  else none

instance : LE Instant where
  le a b := a.seconds < b.seconds ∨ (a.seconds = b.seconds ∧ a.nanos ≤ b.nanos)

instance (a b : Instant) : Decidable (a ≤ b) := inferInstanceAs (Decidable (_ ∨ _))

instance : LT Instant where
  lt a b := a.seconds < b.seconds ∨ (a.seconds = b.seconds ∧ a.nanos < b.nanos)

instance (a b : Instant) : Decidable (a < b) := inferInstanceAs (Decidable (_ ∨ _))

theorem le_iff {a b : Instant} :
    a ≤ b ↔ a.seconds < b.seconds ∨ (a.seconds = b.seconds ∧ a.nanos ≤ b.nanos) := .rfl

theorem lt_iff {a b : Instant} :
    a < b ↔ a.seconds < b.seconds ∨ (a.seconds = b.seconds ∧ a.nanos < b.nanos) := .rfl

theorem not_le {a b : Instant} : ¬a ≤ b ↔ b < a := by
  simp only [le_iff, lt_iff]
  omega

def isLeap (t : Instant) : Bool := nanosPerSecond ≤ t.nanos

/-- The instant some seconds later, or earlier if they are negative. From inside a leap second the
first step in either direction leads out of it. -/
def addSeconds (t : Instant) (n : Int) : Instant :=
  if n = 0 then t
  else if below : t.nanos < nanosPerSecond then ⟨t.seconds + n, t.nanos, .inl below⟩
  else
    have inside : t.nanos - nanosPerSecond < nanosPerSecond := by
      have := t.nanos_lt
      omega
    ⟨if 0 < n then t.seconds + n else t.seconds + 1 + n, t.nanos - nanosPerSecond, .inl inside⟩

def secondOfDay (t : Instant) : Int := t.seconds % 86400

/-- The leap second, if any, that lies between the times of day of two instants and is not counted
in their seconds. -/
def leapBetween (a b : Instant) : Int :=
  if b.secondOfDay < a.secondOfDay then (if b.isLeap then 1 else 0)
  else if a.secondOfDay < b.secondOfDay then (if a.isLeap then -1 else 0)
  else 0

def nanosSince (a b : Instant) : Int :=
  (a.seconds - b.seconds + leapBetween a b) * nanosPerSecond + ((a.nanos : Int) - b.nanos)

def secondsSince (a b : Instant) : Int := (nanosSince a b).tdiv nanosPerSecond

theorem addSeconds_of_not_isLeap {t : Instant} (n : Int) (h : t.isLeap = false) :
    (t.addSeconds n).seconds = t.seconds + n ∧ (t.addSeconds n).nanos = t.nanos := by
  have below : t.nanos < nanosPerSecond := by simpa [isLeap] using h
  unfold addSeconds
  split <;> simp_all

/-! ### Stored instants -/

def storageEpoch : Int := 946684800

/-- The whole microseconds from 2000-01-01T00:00:00Z on, as an instant is stored; a fraction is cut
toward that time. -/
def storedMicros (t : Instant) : Int :=
  ((t.seconds - storageEpoch) * nanosPerSecond + t.nanos).tdiv 1000

def ofStoredMicros (micros : Int) : Instant :=
  ⟨storageEpoch + micros / 1000000, (micros % 1000000).toNat * 1000, .inl (by
    unfold nanosPerSecond
    omega)⟩

def stored (t : Instant) : Instant := ofStoredMicros t.storedMicros

example : (ofSeconds 5).stored = ofSeconds 5 := by decide

end Instant

end TokenAuthority
