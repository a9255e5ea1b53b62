import HttpPipeline.RateLimit.Settings
import HttpPipeline.Serving.Chain
import HttpPipeline.Settings.Json
import HttpPipeline.Snowflake.Machine
import HttpPipeline.Telemetry.Settings

/-!
# Settings as documents

Each kind of settings is a record in a JSON document, every field of which has a default.
`ChainSettings` are those of a whole chain: which stages it has, and their settings. The
stages of a chain built from them stand in a fixed order.
-/

namespace HttpPipeline

/-- The settings of a generator in a document. -/
def GeneratorSettings.ofJson? (json : Json) : Option GeneratorSettings := do
  let fields ← json.record? ["drift_tolerance_ms", "machine_id"]
  let default : GeneratorSettings := {}
  return {
    driftTolerance :=
      ← Json.field? fields "drift_tolerance_ms" (Json.natural? 64) default.driftTolerance
    machine := ← Json.field? fields "machine_id" (Json.optional? (Json.natural? 16)) none }

/-- The settings of a rate limit in a document. -/
def RateSettings.ofJson? (json : Json) : Option RateSettings := do
  let fields ← json.record? ["requests_per_second", "burst"]
  let default : RateSettings := {}
  return {
    requestsPerSecond :=
      ← Json.field? fields "requests_per_second" Json.float? default.requestsPerSecond
    burst := ← Json.field? fields "burst" (Json.integer? (-2 ^ 63) (2 ^ 63 - 1)) default.burst }

/-- The settings of compression in a document. -/
def Compression.Settings.ofJson? (json : Json) : Option Compression.Settings := do
  let fields ← json.record? ["min_size", "level", "max_idle_encoders"]
  let default : Compression.Settings := {}
  return {
    minSize := ← Json.field? fields "min_size" (Json.natural? 64) default.minSize
    level := ← Json.field? fields "level" (Json.natural? 32) default.level
    maxIdle := ← Json.field? fields "max_idle_encoders" (Json.natural? 64) default.maxIdle }

/-- The settings of a policy for other origins in a document. -/
def CorsSettings.ofJson? (json : Json) : Option CorsSettings := do
  let fields ← json.record?
    ["allowed_origins", "allowed_methods", "allowed_headers", "exposed_headers",
      "allow_credentials", "max_age", "validate_hostnames"]
  let texts := Json.list? Json.text?
  let default : CorsSettings := {}
  return {
    allowedOrigins := ← Json.field? fields "allowed_origins" texts default.allowedOrigins
    allowedMethods := ← Json.field? fields "allowed_methods" texts default.allowedMethods
    allowedHeaders := ← Json.field? fields "allowed_headers" texts default.allowedHeaders
    exposedHeaders := ← Json.field? fields "exposed_headers" texts default.exposedHeaders
    allowCredentials :=
      ← Json.field? fields "allow_credentials" Json.flag? default.allowCredentials
    maxAge := ← Json.field? fields "max_age" (Json.integer? (-2 ^ 63) (2 ^ 63 - 1)) default.maxAge
    validateHostnames :=
      ← Json.field? fields "validate_hostnames" Json.flag? default.validateHostnames }

/-- The settings of the log in a document. -/
def LogSettings.ofJson? (json : Json) : Option LogSettings := do
  let fields ← json.record?
    ["enabled", "level", "json_format", "file_line_info", "include_target"]
  let default : LogSettings := {}
  return {
    enabled := ← Json.field? fields "enabled" Json.flag? default.enabled
    level := ← Json.field? fields "level" Json.text? default.level
    json := ← Json.field? fields "json_format" Json.flag? default.json
    location := ← Json.field? fields "file_line_info" Json.flag? default.location
    target := ← Json.field? fields "include_target" Json.flag? default.target }

/-- The settings of the metrics in a document. -/
def MetricsSettings.ofJson? (json : Json) : Option MetricsSettings := do
  let fields ← json.record? ["enabled", "addr"]
  let default : MetricsSettings := {}
  return {
    enabled := ← Json.field? fields "enabled" Json.flag? default.enabled
    address := ← Json.field? fields "addr" Json.text? default.address }

/-- The settings of the log and the metrics in a document. -/
def TelemetrySettings.ofJson? (json : Json) : Option TelemetrySettings := do
  let fields ← json.record? ["logging", "metrics"]
  return {
    logging := ← Json.field? fields "logging" LogSettings.ofJson? {}
    metrics := ← Json.field? fields "metrics" MetricsSettings.ofJson? {} }

/-- Settings of a whole chain. -/
structure ChainSettings where
  recovery : Bool := true
  requestId : Bool := true
  logging : Bool := true
  cors : Option CorsSettings := none
  rateLimit : Option RateSettings := none
  compression : Option Compression.Settings := some {}
  generator : GeneratorSettings := {}
  deriving DecidableEq, Repr, Inhabited

/-- The settings of a chain in a document. -/
def ChainSettings.ofJson? (json : Json) : Option ChainSettings := do
  let fields ← json.record?
    ["recovery", "request_id", "logging", "cors", "rate_limit", "compression", "snowflake"]
  let default : ChainSettings := {}
  return {
    recovery := ← Json.field? fields "recovery" Json.flag? default.recovery
    requestId := ← Json.field? fields "request_id" Json.flag? default.requestId
    logging := ← Json.field? fields "logging" Json.flag? default.logging
    cors := ← Json.field? fields "cors" (Json.optional? CorsSettings.ofJson?) default.cors
    rateLimit :=
      ← Json.field? fields "rate_limit" (Json.optional? RateSettings.ofJson?) default.rateLimit
    compression :=
      ← Json.field? fields "compression" (Json.optional? Compression.Settings.ofJson?)
        default.compression
    generator := ← Json.field? fields "snowflake" GeneratorSettings.ofJson? default.generator }

/-- The compression stage of some settings. -/
def Compression.Settings.stage {τ : Type} (s : Compression.Settings) : Stage τ :=
  .compression s.minSize (.ofSettings s.level s.maxIdle)

/-- **The chain of some settings** on a host at an instant, with the events of building
it. -/
def ChainSettings.chain {τ : Type} (s : ChainSettings) (host : Option Bytes) (now : Int) :
    List (Stage τ) × List Event :=
  let (generator, hostEvents) := Generator.ofSettings s.generator host
  let cors := s.cors.map fun c => CorsPolicy.ofSettings c c.checks
  let limit := s.rateLimit.map fun r => r.bucket now
  let stages :=
    (if s.recovery then [.recovery] else []) ++
      (if s.requestId then [.requestId generator] else []) ++
      (if s.logging then [.logging] else []) ++
      (cors.map fun (policy, _) => .cors policy).toList ++
      (limit.map fun (bucket, _) => .rateLimit bucket).toList ++
      (s.compression.map Compression.Settings.stage).toList
  let events :=
    (if s.requestId then hostEvents else []) ++ (cors.map (·.2)).getD [] ++
      (limit.map (·.2)).getD []
  (stages, events)

end HttpPipeline
