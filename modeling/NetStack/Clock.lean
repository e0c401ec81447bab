/-
Module: NetStack.Clock
Purpose: Durations, wrapping cycle counters, and waits of bounded length.
Main exports:
  Duration, Duration.toCycles, StepClock, StepClock.wait, StepClock.elapse,
  Calibration, MonotonicClock
-/
import NetStack.Event

namespace NetStack

def nanosPerSecond : Nat := 1000000000

/-- A span of time: whole seconds, and nanoseconds short of another one. -/
structure Duration where
  seconds : UInt64
  nanos : Nat
  nanos_lt : nanos < nanosPerSecond
deriving Repr

namespace Duration

def toNanos (duration : Duration) : Nat :=
  duration.seconds.toNat * nanosPerSecond + duration.nanos

def toMillis (duration : Duration) : Nat :=
  duration.toNanos / 1000000

/-- How many cycles of a counter the duration lasts, at most as many as the
counter can tell apart.  The product of nanoseconds and frequency saturates at
128 bits before it is scaled down. -/
def toCycles (duration : Duration) (frequency : UInt64) : UInt64 :=
  let product := min (duration.toNanos * frequency.toNat) (UInt64.size * UInt64.size - 1)
  UInt64.ofNat (min (product / nanosPerSecond) (UInt64.size - 1))

end Duration

/-- A counter that moves on by a fixed step whenever it is read, and wraps at 64
bits. -/
structure StepClock where
  now : UInt64
  step : UInt64
  /-- Ticks per second. -/
  frequency : UInt64
deriving Repr, Inhabited, DecidableEq

/-- The number of readings after which any step clock repeats itself. -/
def counterPeriod : Nat := UInt64.size

/-- The outcome of a wait: whether the awaited condition came true, how often it
was checked, and the clock afterwards. -/
structure Wait where
  ready : Bool
  calls : Nat
  clock : StepClock
deriving Repr, Inhabited, DecidableEq

namespace StepClock

/-- Read the counter. -/
def read (clock : StepClock) : UInt64 × StepClock :=
  (clock.now, { clock with now := clock.now + clock.step })

/-- Check the condition and read the clock by turns, until the condition holds
or `budget` ticks have gone by since `start`.  The elapsed time is taken modulo
2^64, so the counter may wrap meanwhile. -/
def spin (start budget : UInt64) (ready : Nat → Bool) : Nat → Nat → StepClock → Option Wait
  | 0, _, _ => none
  | fuel + 1, calls, clock =>
      let calls := calls + 1
      if ready calls then
        some { ready := true, calls, clock }
      else
        let (now, clock) := clock.read
        if budget ≤ now - start then
          some { ready := false, calls, clock }
        else
          spin start budget ready fuel calls clock

/-- Wait up to `timeout` for a condition, given by the number of the check.  It
is checked at least once.  There is no outcome if the clock comes round to
where it was, for then it never gets past the budget. -/
def wait (clock : StepClock) (timeout : Duration) (ready : Nat → Bool) : Option Wait :=
  let budget := timeout.toCycles clock.frequency
  let (start, clock) := clock.read
  spin start budget ready counterPeriod 0 clock

/-- Read the clock until `budget` ticks have gone by since `start`; the ticks
that did go by, and the clock afterwards. -/
def elapse (start budget : UInt64) : Nat → UInt64 → StepClock → Option (UInt64 × StepClock)
  | 0, _, _ => none
  | fuel + 1, elapsed, clock =>
      if elapsed < budget then
        let (now, clock) := clock.read
        elapse start budget fuel (now - start) clock
      else
        some (elapsed, clock)

end StepClock

/-- A counter whose rate was measured against a reference clock. -/
structure Calibration where
  /-- Ticks per second, at least one. -/
  frequency : UInt64
  /-- The reference clock after the measurement. -/
  reference : StepClock
  events : List Event

/-- Measure a counter over a window of the reference clock, given how many
`ticks` the counter made meanwhile.  The rate is scaled by the time that went by
on the reference, not by the time asked for. -/
def Calibration.measure (reference : StepClock) (window : Duration) (ticks : UInt64) :
    Option Calibration := do
  let budget := window.toCycles reference.frequency
  let (start, reference) := reference.read
  let (elapsed, reference) ← StepClock.elapse start budget counterPeriod 0 reference
  let elapsedNanos := elapsed.toNat * nanosPerSecond / max reference.frequency.toNat 1
  let frequency := UInt64.ofNat (ticks.toNat * nanosPerSecond / max elapsedNanos 1)
  return {
    frequency := max frequency 1
    reference
    events := [.counterCalibrated frequency] }

/-- A clock that counts the nanoseconds since the instant it was made. -/
structure MonotonicClock where
  origin : Nat
deriving Repr, Inhabited, DecidableEq

namespace MonotonicClock

def frequency : UInt64 := UInt64.ofNat nanosPerSecond

/-- The reading at an instant, given in nanoseconds like the origin. -/
def cycles (clock : MonotonicClock) (instant : Nat) : UInt64 :=
  UInt64.ofNat (instant - clock.origin)

end MonotonicClock

end NetStack
