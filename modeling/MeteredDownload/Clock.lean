import MeteredDownload.Numeric.Binary64

/-!
# Clocks

A clock is read with `now`, which may move it, and moves by a given time with `wait`.  Times are
milliseconds.
-/
set_option autoImplicit false
namespace MeteredDownload

open Numeric

class Clock (κ : Type) where
  now : κ → Binary64 × κ
  wait : Binary64 → κ → κ

instance : Clock Unit := ⟨fun clock => (0, clock), fun _ clock => clock⟩

structure Stopwatch where
  time : Binary64
  step : Binary64
  deriving DecidableEq, Repr

instance : Clock Stopwatch where
  now s := (s.time, { s with time := s.time + s.step })
  wait delay s := { s with time := s.time + delay }

end MeteredDownload
