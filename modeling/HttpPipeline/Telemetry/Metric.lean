import HttpPipeline.Number.Duration
import HttpPipeline.Response.GzipLayer

/-!
# Metrics

What the pipeline measures is a list of `Measurement`s, in the order in which they
were made. A measurement goes to one or two series, each named by its metric and
labels: a counter counts how many arrived, and a histogram keeps the values.
`Measurement.collect` sorts a list of measurements into series.
-/

namespace HttpPipeline

/-- Something that was measured. -/
inductive Measurement
  /-- A request was served. -/
  | request (method : String) (status : Status) (duration : Duration)
  /-- A request was turned away. -/
  | rateLimited
  /-- A handler failed and was stopped from failing further. -/
  | panicRecovered (afterWrite : Bool)
  /-- It was decided whether to compress a response. -/
  | compression (decision : Decision)
  deriving DecidableEq, Repr, Inhabited

/-- What a measurement adds to a series. -/
inductive Sample
  | count
  | value (x : Binary64)
  deriving DecidableEq, Repr, Inhabited

/-- What a series holds. -/
inductive Series
  | counter (count : Nat)
  /-- The values, in order. -/
  | histogram (values : List Binary64)
  deriving DecidableEq, Repr, Inhabited

namespace Measurement

/-- The word for a decision. -/
def decisionLabel : Decision → String
  | .compress => "compress"
  | _ => "skip"

/-- The name of a series: the metric, and its labels between braces. -/
def seriesName (metric : String) (labels : List (String × String)) : String :=
  metric ++ "\x7b" ++ ",".intercalate (labels.map fun (k, v) => k ++ "=" ++ v) ++ "\x7d"

/-- The series a measurement goes to, with what it adds to each. -/
def samples : Measurement → List (String × Sample)
  | .request method status duration =>
    [(seriesName "sluice_requests_total"
        [("method", method), ("status", Text.decimal status)], .count),
      (seriesName "sluice_request_duration_seconds" [("method", method)],
        .value duration.toSeconds)]
  | .rateLimited => [(seriesName "sluice_rate_limited_total" [], .count)]
  | .panicRecovered afterWrite =>
    [(seriesName "sluice_panics_recovered_total"
      [("after_write", if afterWrite then "true" else "false")], .count)]
  | .compression decision =>
    [(seriesName "sluice_compression_decisions_total"
      [("decision", decisionLabel decision)], .count)]

/-- What the samples of one series amount to. -/
def amount (samples : List Sample) : Series :=
  let values := samples.filterMap fun
    | .value x => some x
    | .count => none
  if values.isEmpty then .counter samples.length else .histogram values

/-- **The series** of a list of measurements, each under its name. -/
def collect (measurements : List Measurement) : List (String × Series) :=
  let all := measurements.flatMap samples
  (all.map (·.1)).eraseDups.map fun name =>
    (name, amount ((all.filter (·.1 == name)).map (·.2)))

end Measurement

end HttpPipeline
