import Mustache.Number.Power

namespace Mustache

/-! The time that a rendering may take. Times are the nanoseconds of a clock, which
counts seconds below a bound. -/

structure Deadline where
  moment : Nat
deriving DecidableEq, Repr

namespace Deadline

/-- The first time that the clock cannot tell. -/
def endOfTime : Nat :=
  Number.twoTo 63 * Number.tenTo 9

/-- The end of a time limit that begins now; none if it is no time of the clock. -/
def after? (now limit : Nat) : Option Deadline :=
  if now + limit < endOfTime then some ⟨now + limit⟩ else none

/-- Whether there is time left each time it is asked. The clock was read once before,
when the time began. -/
def inTime (deadline : Deadline) (clock : Nat → Nat) (asked : Nat) : Bool :=
  clock (asked + 1) < deadline.moment

end Deadline

end Mustache
