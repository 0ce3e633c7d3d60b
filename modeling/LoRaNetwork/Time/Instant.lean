/-!
Points in time, counted in universal time from the start of 1970.
-/

namespace LoRaNetwork

structure Instant where
  /-- Whole seconds since the start of 1970; negative before it. -/
  second : Int
  /-- Nanoseconds within the second. From 10⁹ to 2 · 10⁹ they lie in a leap second that follows. -/
  nanosecond : Nat
  deriving DecidableEq, Inhabited

end LoRaNetwork
