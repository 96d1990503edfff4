/-
The clock and what is read off it.

An instant is a count of nanoseconds since the clock started and a duration is a
count of nanoseconds.  Durations stay whole numbers for as long as they can:
subtraction of instants is exact, comparison is exact, and only a sink that wants
seconds turns one into a floating-point number, at the very last moment.
-/
import Telemetry.Decimal.Digits

namespace Telemetry

/-- A length of time. -/
structure Duration where
  /-- Its length in whole nanoseconds. -/
  nanos : Nat
deriving DecidableEq

/-- A reading of the clock. -/
structure Instant where
  /-- Nanoseconds since the clock started. -/
  nanos : Nat
deriving DecidableEq

namespace Duration

instance : LE Duration := ⟨fun a b => a.nanos ≤ b.nanos⟩

instance (a b : Duration) : Decidable (a ≤ b) := inferInstanceAs (Decidable (a.nanos ≤ b.nanos))

/-- The duration in seconds.  The whole seconds and the remaining nanoseconds are
rounded apart and then added, so a whole number of seconds is always exact. -/
def seconds (d : Duration) : Float :=
  (d.nanos / 1000000000).toFloat + (d.nanos % 1000000000).toFloat / 1000000000

/-- `nanos` written in a unit of `10 ^ places` nanoseconds: exact, and without
trailing zeros behind the point. -/
def inUnit (nanos places : Nat) (unit : String) : String :=
  let fraction :=
    Decimal.dropTrailingZeros (Decimal.padded places (nanos % Decimal.pow10 places))
  let whole := Decimal.digits (nanos / Decimal.pow10 places)
  String.ofList (if fraction = [] then whole else whole ++ '.' :: fraction) ++ unit

/-- The duration as a person reads it: in the largest of seconds, milliseconds,
microseconds and nanoseconds that leaves at least one whole unit. -/
def text (d : Duration) : String :=
  if 1000000000 ≤ d.nanos then inUnit d.nanos 9 "s"
  else if 1000000 ≤ d.nanos then inUnit d.nanos 6 "ms"
  else if 1000 ≤ d.nanos then inUnit d.nanos 3 "µs"
  else inUnit d.nanos 0 "ns"

end Duration

namespace Instant

/-- The clock's first reading. -/
def start : Instant := ⟨0⟩

instance : LE Instant := ⟨fun a b => a.nanos ≤ b.nanos⟩

instance (a b : Instant) : Decidable (a ≤ b) := inferInstanceAs (Decidable (a.nanos ≤ b.nanos))

theorem le_def {a b : Instant} : a ≤ b ↔ a.nanos ≤ b.nanos := Iff.rfl

/-- The reading after `d` has passed. -/
def after (t : Instant) (d : Duration) : Instant := ⟨t.nanos + d.nanos⟩

/-- How long after `earlier` this reading was taken, and zero if it was not after. -/
def since (t earlier : Instant) : Duration := ⟨t.nanos - earlier.nanos⟩

/-- Waiting from one reading for as long as it is to a later one. -/
theorem after_since {t later : Instant} (h : t ≤ later) : t.after (later.since t) = later := by
  obtain ⟨n⟩ := t
  obtain ⟨m⟩ := later
  have hle : n ≤ m := h
  show Instant.mk (n + (m - n)) = ⟨m⟩
  rw [Nat.add_sub_cancel' hle]

theorem le_after (t : Instant) (d : Duration) : t ≤ t.after d := by
  simp [le_def, after]

end Instant

end Telemetry
