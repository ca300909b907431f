import Telemetry.Time.Calendar

namespace Telemetry.Time

def nanosPerSecond : Int := 1000000000

def nanosPerMilli : Int := 1000000

def firstYear : Int := -262143

def lastYear : Int := 262142

def earliest : Int := -8334601228800 * nanosPerSecond

def latest : Int := 8210266876800 * nanosPerSecond - 1

/-- Nanoseconds since 1970, leap seconds not counted. A moment within a leap second is given as the
moment one second before it and marked. A leap second may stand behind any second. -/
structure Instant where
  nanos : Int
  leap : Bool
  earliest_le : earliest ≤ nanos
  le_latest : nanos ≤ latest
deriving DecidableEq

namespace Instant

def ofNanos? (nanos : Int) : Option Instant :=
  if h : earliest ≤ nanos ∧ nanos ≤ latest then some ⟨nanos, false, h.1, h.2⟩ else none

def ofMillis? (millis : Int) : Option Instant :=
  ofNanos? (millis * nanosPerMilli)

def millis (t : Instant) : Int :=
  t.nanos / nanosPerMilli

def last : Instant := ⟨latest, false, by decide, by decide⟩

def epoch : Instant := ⟨0, false, by decide, by decide⟩

def rank (t : Instant) : Int :=
  t.nanos + t.nanos / nanosPerSecond * nanosPerSecond + if t.leap then nanosPerSecond else 0

def before (t u : Instant) : Bool :=
  t.rank < u.rank

end Instant

structure Span where
  nanos : Nat
deriving DecidableEq, Repr

namespace Span

def ofSeconds (seconds : Nat) : Span := ⟨seconds * 1000000000⟩

def seconds (s : Span) : Nat := s.nanos / 1000000000

def longestStep : Span := ⟨9223372036854775807 * 1000000⟩

end Span

/-- The moment `s` after `t`, or the last moment of all if that one is earlier. A sum that does not
leave the leap second it starts in stays there; no other sum arrives in one. -/
def Instant.add (t : Instant) (s : Span) : Instant :=
  if h : t.leap = true ∧ t.nanos % nanosPerSecond + s.nanos < nanosPerSecond then
    ⟨t.nanos + s.nanos, true, by have := t.earliest_le; omega,
      by have := t.le_latest; simp only [latest, nanosPerSecond] at *; omega⟩
  else if h : t.nanos + s.nanos ≤ latest then
    ⟨t.nanos + s.nanos, false, by have := t.earliest_le; omega, h⟩
  else .last

end Telemetry.Time
