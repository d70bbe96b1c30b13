import CallExcerpt.Number.Binary64

/-! # Timeouts

    A wait on a channel is told in seconds, as a floating-point number. The
    system counts it in whole thousandths of a second, which it makes out of
    billionths, and it takes no more of either than it can count. A wait of no
    time, or less, only looks.
-/

namespace CallExcerpt.Timeout

open Number (Binary64)

/-- Why a wait cannot be told to the system. -/
inductive Fault where
  /-- It is no number. -/
  | notANumber
  /-- It has no end, or its thousandths are beyond all numbers. -/
  | infinite
  /-- Its billionths are more than the system counts. -/
  | outOfRange
  /-- Its thousandths are more than the system counts. -/
  | tooLarge
  deriving Repr, DecidableEq

/-- The fault in words. -/
def Fault.message : Fault → String
  | .notANumber => "cannot convert float NaN to integer"
  | .infinite => "cannot convert float infinity to integer"
  | .outOfRange => "timestamp out of range for platform time_t"
  | .tooLarge => "timeout is too large"

/-- The most thousandths of a second that the system waits. -/
def maxMillis : Int := 2147483647

/-- The most billionths of a second that a timestamp holds. -/
def maxNanos : Int := 9223372036854775807

/-- The billionths of a second of a wait, which is rounded up to whole thousandths before. -/
def nanos (seconds : Binary64) : Except Fault Int :=
  match (seconds.times (Binary64.ofInt 1000)).ceiling? with
  | none => .error (if seconds = .nan then .notANumber else .infinite)
  | some thousandths =>
    let rounded := (Binary64.ofInt thousandths).times (Binary64.ofDecimal false 1 (-3))
    match (rounded.times (Binary64.ofInt 1000000000)).ceiling? with
    | none => .error .outOfRange
    | some n => if maxNanos < n then .error .outOfRange else .ok n

/-- The thousandths of a second that the system waits. -/
def millis (seconds : Binary64) : Except Fault Int :=
  if seconds.atMost (Binary64.ofInt 0) then .ok 0
  else do
    let n ← nanos seconds
    let n := -((-n) / 1000000)
    if maxMillis < n then .error .tooLarge
    return n

/-- Can the system wait for so many seconds? -/
def isTaken (seconds : Binary64) : Bool := (millis seconds).isOk

end CallExcerpt.Timeout
