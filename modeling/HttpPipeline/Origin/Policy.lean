import HttpPipeline.Origin.Matcher
import HttpPipeline.Http.Headers

/-!
# The policy for requests from other origins

A `CorsPolicy` is prepared once from its settings: the matcher of the allowed origins
and the values of the headers that do not depend on the request. A list that has no
form as a header value is left out, with an event.

A request is from another origin when its first `Origin` value is not empty. If the
matcher allows it, the response says so (`CorsPolicy.grant`): with `*` if every origin
is allowed, and with the origin itself otherwise. A preflight asks in advance what
will be allowed and is answered with `CorsPolicy.announce` in addition. Whatever comes
of it, the response depends on the origin, and `Vary` says that.
-/

namespace HttpPipeline

/-- Settings of a policy. -/
structure CorsSettings where
  /-- Host names, or `*`. -/
  allowedOrigins : List String := ["*"]
  allowedMethods : List String := ["GET", "HEAD", "POST"]
  allowedHeaders : List String := ["Origin", "Accept", "Content-Type", "X-Requested-With"]
  exposedHeaders : List String := []
  allowCredentials : Bool := false
  /-- Seconds for which the answer to a preflight is good, if positive. -/
  maxAge : Int := 3600
  /-- Only plain host names are allowed as origins. -/
  validateHostnames : Bool := false
  deriving DecidableEq, Repr, Inhabited

/-- The checks that the entries of the settings have to pass. -/
def CorsSettings.checks (s : CorsSettings) : List OriginCheck :=
  if s.validateHostnames then OriginCheck.hostname else []

/-- A policy for requests from other origins. -/
structure CorsPolicy where
  matcher : OriginMatcher
  /-- The values of the headers that announce or expose, where there is one. -/
  methods : Option Bytes := none
  headers : Option Bytes := none
  exposed : Option Bytes := none
  maxAge : Option Bytes := none
  deriving DecidableEq, Inhabited

namespace CorsPolicy

/-- A list as the value of a header, if it is not empty and has a form as one; `field`
is what an event calls a list that has none. -/
def listValue (field : String) (entries : List String) : Option Bytes × List Event :=
  let value := Bytes.ofString (", ".intercalate entries)
  if entries.isEmpty then (none, [])
  else if isFieldValue value then (some value, [])
  else (none, [.headerListOmitted field])

/-- **The policy of some settings**, whose entries have to pass some checks. -/
def ofSettings (s : CorsSettings) (checks : List OriginCheck) : CorsPolicy × List Event :=
  let (matcher, events) := OriginMatcher.ofEntries checks s.allowedOrigins s.allowCredentials
  let (methods, methodEvents) := listValue "allowed_methods" s.allowedMethods
  let (headers, headerEvents) := listValue "allowed_headers" s.allowedHeaders
  let (exposed, exposedEvents) := listValue "exposed_headers" s.exposedHeaders
  let maxAge :=
    if 0 < s.maxAge then some (Bytes.ofString (Text.signedDecimal s.maxAge)) else none
  ({ matcher, methods, headers, exposed, maxAge },
    events ++ methodEvents ++ headerEvents ++ exposedEvents)

/-- What a response says about the origin of a request, if it is allowed. -/
def allowedOrigin? (p : CorsPolicy) (request : Headers) : Option Bytes :=
  (request.nonempty? "origin").bind fun origin =>
    match p.matcher.check ((visibleText? origin).getD "") with
    | .denied => none
    | .wildcard => some (Bytes.ofString "*")
    | .exact => some origin

/-- Whether a request asks what will be allowed. -/
def isPreflight (method : String) (request : Headers) : Bool :=
  method == "OPTIONS" && (request.nonempty? "access-control-request-method").isSome

/-- A header with a value, if there is one. -/
def insertSome (h : Headers) (name : String) (value : Option Bytes) : Headers :=
  match value with
  | some value => h.insert name value
  | none => h

/-- The response depends on a header of the request. -/
def vary (h : Headers) (name : String) : Headers := h.append "vary" (Bytes.ofString name)

/-- **The headers of a response to an allowed origin.** -/
def grant (p : CorsPolicy) (origin : Bytes) (h : Headers) : Headers :=
  let h := h.insert "access-control-allow-origin" origin
  let h :=
    if p.matcher.credentials then
      h.insert "access-control-allow-credentials" (Bytes.ofString "true")
    else h
  insertSome h "access-control-expose-headers" p.exposed

/-- **The headers of an answer to a preflight**, besides those. -/
def announce (p : CorsPolicy) (h : Headers) : Headers :=
  let h := vary (vary h "Access-Control-Request-Method") "Access-Control-Request-Headers"
  let h := insertSome h "access-control-allow-methods" p.methods
  let h := insertSome h "access-control-allow-headers" p.headers
  insertSome h "access-control-max-age" p.maxAge

end CorsPolicy

end HttpPipeline
