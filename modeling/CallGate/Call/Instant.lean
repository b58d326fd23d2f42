/-!
# Instants

Instants of a clock are signed 64-bit seconds with nanoseconds, spans of time are unsigned
64-bit seconds with nanoseconds, so the sum of the two need not be an instant.

* `Instant.add?` — the instant a span later, if there is one.
* `Instant.reached` — whether an instant has come.
-/

namespace CallGate

/-- Nanoseconds in a second. -/
def nanosPerSecond : Nat := 1_000_000_000

/-- A **span** of time. -/
structure Span where
  seconds : UInt64
  nanos : Nat
  nanos_lt : nanos < nanosPerSecond
deriving DecidableEq, Repr

/-- A span of milliseconds. -/
def Span.ofMillis (ms : UInt64) : Span where
  seconds := ms / 1000
  nanos := ms.toNat % 1000 * 1_000_000
  nanos_lt := by
    have := Nat.mod_lt ms.toNat (show 0 < 1000 by decide)
    simp only [nanosPerSecond]
    omega

/-- An **instant** of the monotonic clock. -/
structure Instant where
  seconds : Int
  nanos : Nat
  seconds_ge : -9_223_372_036_854_775_808 ≤ seconds
  seconds_lt : seconds < 9_223_372_036_854_775_808
  nanos_lt : nanos < nanosPerSecond
deriving DecidableEq, Repr

namespace Instant

/-- The **origin** of the clock. -/
def origin : Instant where
  seconds := 0
  nanos := 0
  seconds_ge := by decide
  seconds_lt := by decide
  nanos_lt := by decide

/-- The instant of some seconds and nanoseconds, if the seconds have 64 bits. -/
def ofParts? (seconds : Int) (nanos : Nat) (h : nanos < nanosPerSecond) : Option Instant :=
  if hs : -9_223_372_036_854_775_808 ≤ seconds ∧ seconds < 9_223_372_036_854_775_808 then
    some ⟨seconds, nanos, hs.1, hs.2, h⟩
  else none

/-- The instant a span **later**, if there is one. -/
def add? (t : Instant) (d : Span) : Option Instant :=
  let nanos := t.nanos + d.nanos
  if h : nanos < nanosPerSecond then ofParts? (t.seconds + d.seconds.toNat) nanos h
  else
    ofParts? (t.seconds + d.seconds.toNat + 1) (nanos - nanosPerSecond) (by
      have h₁ := t.nanos_lt
      have h₂ := d.nanos_lt
      omega)

/-- Whether an instant is not before another. -/
def reached (deadline now : Instant) : Bool :=
  deadline.seconds < now.seconds ||
    (deadline.seconds == now.seconds && deadline.nanos ≤ now.nanos)

end Instant

end CallGate
