import HttpPipeline.RateLimit.Bucket
import HttpPipeline.Telemetry.Event

/-!
# Settings of a rate limit

A rate has to be a positive finite number and a burst a positive number of 32 bits.
A setting that is not is replaced by the default of one, and an event says so; the
bucket that results is therefore always a working one.
-/

namespace HttpPipeline

/-- Settings of a rate limit. -/
structure RateSettings where
  requestsPerSecond : Binary64 := .ofNat 10
  burst : Int := 20
  deriving DecidableEq, Repr, Inhabited

namespace RateSettings

/-- The rate in place of one that is not positive and finite. -/
def defaultRate : Binary64 := .ofNat 1

/-- The burst in place of one that is not positive. -/
def defaultBurst : Nat := 1

/-- The rate to use, and the event if it is the default. -/
def rate (s : RateSettings) : Binary64 × List Event :=
  if s.requestsPerSecond.isFinite && Binary64.lt (Binary64.zero false) s.requestsPerSecond then
    (s.requestsPerSecond, [])
  else (defaultRate, [.rateReplaced s.requestsPerSecond defaultRate])

/-- The burst to use, and the event if it is the default. -/
def burstUsed (s : RateSettings) : Nat × List Event :=
  if 0 < s.burst ∧ s.burst < 2 ^ 32 then (s.burst.toNat, [])
  else (defaultBurst, [.burstReplaced s.burst defaultBurst])

/-- **The bucket of some settings**, full at an instant, and the events about
settings that were replaced. -/
def bucket (s : RateSettings) (now : Int) : Bucket Binary64 × List Event :=
  let (rate, rateEvents) := s.rate
  let (burst, burstEvents) := s.burstUsed
  (.full rate burst now, rateEvents ++ burstEvents)

end RateSettings

end HttpPipeline
