import CallExcerpt.Number.Binary64

/-! # Patience

    How long a server waits on its channel before it looks again: a short
    while as long as it has not been idle for long, a longer one after that.
    Once it has been idle for its whole budget, the channel is opened anew.
-/

namespace CallExcerpt

open Number (Binary64)

/-- The waiting times of a server, in seconds. -/
structure Patience where
  /-- The wait while the server has not been idle for long. -/
  shortInterval : Binary64 := Binary64.ofDecimal false 5 (-2)
  /-- How long that is. -/
  shortWindow : Binary64 := Binary64.ofInt 1
  /-- The wait after that. -/
  longInterval : Binary64 := Binary64.ofDecimal false 5 (-1)
  /-- The idle time after which the channel is opened anew. -/
  idleBudget : Binary64 := Binary64.ofInt 30
  deriving Repr, DecidableEq

namespace Patience

/-- The next wait of a server that has been idle for some time. -/
def interval (p : Patience) (idle : Binary64) : Binary64 :=
  if idle.less p.shortWindow then p.shortInterval else p.longInterval

/-- A time in whole millionths of a second. -/
def micros (seconds : Binary64) : Int := (seconds.timesRounded? 1000000).getD 0

end Patience

end CallExcerpt
