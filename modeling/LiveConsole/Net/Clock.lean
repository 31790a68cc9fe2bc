import LiveConsole.Datum

/-!
# Clocks

The time of a world. Times may be readings of a clock or exact numbers.
-/

set_option autoImplicit false

namespace LiveConsole.Net

open Datum (Quantity)

class Clock (W : Type) (τ : outParam Type) where
  now : W → τ
  /-- A quantity of seconds as a length of time. -/
  span : Quantity → τ
  /-- Lets an amount of time pass. -/
  sleep : τ → W → W

instance {S W τ : Type} [Clock W τ] : Clock (S × W) τ where
  now world := Clock.now world.2
  span := Clock.span W
  sleep t world := (world.1, Clock.sleep t world.2)

end LiveConsole.Net
