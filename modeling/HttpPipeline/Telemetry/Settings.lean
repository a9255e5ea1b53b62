import HttpPipeline.Origin.Ipv6
import HttpPipeline.Telemetry.Event

/-!
# Settings of the log and the metrics

The log has a threshold, given as a word, and a form: one JSON object a line, or lines for
people to read. The metrics may be exposed on an address, which has to be a socket
address: an IPv4 address, or an IPv6 address in brackets with an optional scope, and a
port.
-/

namespace HttpPipeline

/-- Why telemetry could not be set up. -/
inductive TelemetryError
  | metricsInit (cause : String)
  | loggingInit (cause : String)
  | invalidAddress (cause : String)
  deriving DecidableEq, Repr, Inhabited

/-- The wording of an error of telemetry. -/
def TelemetryError.message : TelemetryError → String
  | .metricsInit cause => "Failed to initialize metrics: " ++ cause
  | .loggingInit cause => "Failed to initialize logging: " ++ cause
  | .invalidAddress cause => "Invalid address: " ++ cause

/-! ### The log -/

/-- Settings of the log. -/
structure LogSettings where
  enabled : Bool := true
  /-- The word for the threshold. -/
  level : String := "INFO"
  /-- One JSON object a line. -/
  json : Bool := true
  /-- An event tells where in the program it comes from. -/
  location : Bool := false
  /-- An event tells the part of the program it comes from. -/
  target : Bool := true
  deriving DecidableEq, Repr, Inhabited

namespace LogSettings

/-- The settings while a program is being developed. -/
def development : LogSettings := { level := "DEBUG", json := false, location := true }

/-- The settings of a program in production. -/
def production : LogSettings := {}

/-- The threshold of the log. -/
def threshold (s : LogSettings) : Severity := .ofWord s.level

/-- The members of a line, besides the time, in alphabetical order. -/
def members (s : LogSettings) : List String :=
  ["fields"] ++ (if s.location then ["filename"] else []) ++ ["level"] ++
    (if s.location then ["line_number"] else []) ++ (if s.target then ["target"] else [])

end LogSettings

/-! ### The metrics -/

/-- Settings of the metrics. -/
structure MetricsSettings where
  enabled : Bool := false
  /-- The address on which they are exposed. -/
  address : String := "0.0.0.0:9090"
  deriving DecidableEq, Repr, Inhabited

/-- Whether a text is a decimal number up to a bound. -/
def isNumberUpTo (most : Nat) (text : List Char) : Bool :=
  !text.isEmpty && text.all Text.isDigit && Text.decimalNumber text ≤ most

/-- Whether a text is an IPv6 address with an optional scope. -/
def isScopedAddress (text : List Char) : Bool :=
  match Text.cut? '%' text with
  | none => (Ipv6.parse? text).isSome
  | some (address, scope) => (Ipv6.parse? address).isSome && isNumberUpTo (2 ^ 32 - 1) scope

/-- **Socket addresses.** -/
def isSocketAddress (text : List Char) : Bool :=
  match text with
  | '[' :: rest =>
    match Text.cut? ']' rest with
    | some (address, ':' :: port) => isScopedAddress address && isNumberUpTo 65535 port
    | _ => false
  | text =>
    match Text.cut? ':' text with
    | some (address, port) => (Ipv6.quad? address).isSome && isNumberUpTo 65535 port
    | none => false

/-- Whether the metrics can be exposed as the settings say. -/
def MetricsSettings.check (s : MetricsSettings) : Except TelemetryError Unit :=
  if !s.enabled || isSocketAddress s.address.toList then .ok ()
  else .error (.invalidAddress (s.address ++ ": invalid socket address syntax"))

/-! ### Both -/

/-- Settings of the log and the metrics. -/
structure TelemetrySettings where
  logging : LogSettings := {}
  metrics : MetricsSettings := {}
  deriving DecidableEq, Repr, Inhabited

namespace TelemetrySettings

/-- The settings with another word for the threshold. -/
def withLevel (s : TelemetrySettings) (level : String) : TelemetrySettings :=
  { s with logging := { s.logging with level } }

/-- The settings with the metrics exposed on an address. -/
def withAddress (s : TelemetrySettings) (address : String) : TelemetrySettings :=
  { s with metrics := { enabled := true, address } }

end TelemetrySettings

end HttpPipeline
