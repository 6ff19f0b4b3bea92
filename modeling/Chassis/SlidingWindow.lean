import Chassis.RedisRateLimit
import Mathlib.Tactic.Linarith
import Mathlib.Tactic.Ring
import Mathlib.Algebra.Order.Floor.Semifield

set_option autoImplicit false

namespace Chassis.RateLimit

open Redis Text Transition

section Spans

variable (limit windowSeconds : Int)

def inWindow (key : Str) (window : Int) (hit : WallClock × Str) : Bool :=
  hit.2 = key && decide (hitWindow windowSeconds hit = window)

end Spans

end Chassis.RateLimit
