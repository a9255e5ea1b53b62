import HttpPipeline.Number.Duration
import HttpPipeline.Http.Headers
import HttpPipeline.Origin.Entry

/-!
# Log events

What the pipeline logs is a value. Each cause of an event is a constructor with the
data that belongs to it; its severity, its message and its fields follow from it,
by `Event.severity`, `Event.message` and `Event.fields`.

A log keeps the events of at least some severity. The threshold is written as one
of a few words, `Severity.ofWord`; any other word means `info`.
-/

namespace HttpPipeline

/-- The severity of an event, from least to most. -/
inductive Severity
  | trace
  | debug
  | info
  | warn
  | error
  deriving DecidableEq, Repr, Inhabited

namespace Severity

/-- The place of a severity in their order. -/
def rank : Severity → Nat
  | .trace => 0
  | .debug => 1
  | .info => 2
  | .warn => 3
  | .error => 4

/-- The name of a severity, in capitals. -/
def name : Severity → String
  | .trace => "TRACE"
  | .debug => "DEBUG"
  | .info => "INFO"
  | .warn => "WARN"
  | .error => "ERROR"

/-- **The threshold that a word means.** White space around it and the case of its
letters do not matter. -/
def ofWord (word : String) : Severity :=
  match String.ofList (Text.upper (Text.trim word.toList)) with
  | "DEBUG" => .debug
  | "WARN" => .warn
  | "WARNING" => .warn
  | "ERROR" => .error
  | _ => .info

/-- Whether a log with a threshold keeps events of a severity. -/
def admits (threshold severity : Severity) : Bool := threshold.rank ≤ severity.rank

end Severity

/-- The value of a field of an event. -/
inductive FieldValue
  | text (value : String)
  | integer (value : Int)
  | float (value : Binary64)
  | flag (value : Bool)
  deriving DecidableEq, Repr, Inhabited

/-- Something worth logging. -/
inductive Event
  /-- A request was served. -/
  | served (method path : String) (status : Status) (duration : Duration)
    (requestId : Option String)
  /-- A handler failed and was stopped from failing further. -/
  | panicRecovered (panic : String) (traced : Bool) (method path : String)
    (requestId : Option String) (afterWrite : Bool)
  /-- A clock went back further than is waited for. -/
  | clockWentBack (drift tolerance : Nat)
  /-- The name of the host could not be read. -/
  | hostUnknown (cause : String)
  /-- An entry of a list of origins was left out. -/
  | originSkipped (entry : String) (cause : OriginError)
  /-- Credentials were asked for, but for the wildcard alone. -/
  | credentialsDropped
  /-- A list of a policy has no form as a header value. -/
  | headerListOmitted (field : String)
  /-- A rate was replaced by the default. -/
  | rateReplaced (provided default : Binary64)
  /-- A burst was replaced by the default. -/
  | burstReplaced (provided : Int) (default : Nat)
  /-- A compressed response could not be ended. -/
  | finishFailed (cause : String)
  /-- A handler asked for the connection to be dropped. -/
  | handlerAborted
  /-- A failure was not stopped by any stage. -/
  | panicEscaped (panic : String)
  deriving DecidableEq, Repr, Inhabited

namespace Event

/-- The severity of an event. That of a served request follows its status. -/
def severity : Event → Severity
  | .served _ _ status _ _ =>
    if 500 ≤ status then .error else if 400 ≤ status then .warn else .info
  | .panicRecovered .. => .error
  | .clockWentBack .. => .error
  | .hostUnknown .. => .error
  | .originSkipped .. => .error
  | .credentialsDropped => .warn
  | .headerListOmitted .. => .error
  | .rateReplaced .. => .warn
  | .burstReplaced .. => .warn
  | .finishFailed .. => .debug
  | .handlerAborted => .debug
  | .panicEscaped .. => .error

/-- The message of an event. -/
def message : Event → String
  | .served .. => "http request"
  | .panicRecovered _ _ _ _ _ afterWrite =>
    if afterWrite then "panic recovered after response was already written"
    else "panic recovered"
  | .clockWentBack .. => "clock moved backwards beyond tolerance, holding last timestamp"
  | .hostUnknown .. => "failed to read hostname, using empty machine identity"
  | .originSkipped .. => "CORS invalid origin, skipping"
  | .credentialsDropped =>
    "CORS allow_credentials with only wildcard origin is invalid, disabling credentials"
  | .headerListOmitted .. => "CORS header list is not a valid header value, omitting"
  | .rateReplaced .. => "requests_per_second must be positive, using default"
  | .burstReplaced .. => "burst must be positive, using default"
  | .finishFailed .. => "failed to finish compressed response"
  | .handlerAborted => "handler aborted the connection"
  | .panicEscaped .. => "panic escaped the handler chain"

/-- The field of a request identifier, if there is one. -/
def idField (requestId : Option String) : List (String × FieldValue) :=
  match requestId with
  | some id => [("request_id", .text id)]
  | none => []

/-- The fields of an event, besides its message. -/
def fields : Event → List (String × FieldValue)
  | .served method path status duration requestId =>
    [("method", .text method), ("path", .text path), ("status", .integer status),
      ("duration_ms", .float duration.toMilliseconds)] ++ idField requestId
  | .panicRecovered panic traced method path requestId afterWrite =>
    [("panic", .text panic), ("stack", .text (if traced then "present" else "empty")),
      ("method", .text method), ("path", .text path)] ++ idField requestId ++
      (if afterWrite then [("response_already_written", .flag true)] else [])
  | .clockWentBack drift tolerance =>
    [("drift_ms", .integer drift), ("tolerance_ms", .integer tolerance)]
  | .hostUnknown cause => [("error", .text cause)]
  | .originSkipped entry cause => [("origin", .text entry), ("error", .text cause.message)]
  | .credentialsDropped => []
  | .headerListOmitted field =>
    [("field", .text field), ("error", .text "failed to parse header value")]
  | .rateReplaced provided default => [("provided", .float provided), ("default", .float default)]
  | .burstReplaced provided default =>
    [("provided", .integer provided), ("default", .integer default)]
  | .finishFailed cause => [("error", .text cause)]
  | .handlerAborted => []
  | .panicEscaped panic => [("panic", .text panic)]

end Event

/-- The events that a log with a threshold keeps. -/
def Severity.keep (threshold : Severity) (events : List Event) : List Event :=
  events.filter fun e => threshold.admits e.severity

end HttpPipeline
