import HttpPipeline.Origin.Entry
import HttpPipeline.Origin.Url
import HttpPipeline.Telemetry.Event

/-!
# Matching origins

A matcher is built from configured entries. An entry that fails a check is left out,
with an event; of the others an empty one says nothing, `*` is the wildcard, and any
other is a host name, in lower case.

Credentials and the wildcard exclude each other. If credentials are asked for and
only the wildcard is left, the credentials are dropped, with an event; if host names
are left besides it, the wildcard is dropped. An origin then matches by the wildcard,
or because its host name is one of those listed. The matcher reads no URL itself: it
takes the host name that a reader of URLs finds (`OriginMatcher.checkBy`).
-/

namespace HttpPipeline

/-- What a matcher says about an origin. -/
inductive OriginMatch
  | denied
  /-- Allowed like every origin. -/
  | wildcard
  /-- Allowed by its host name. -/
  | exact
  deriving DecidableEq, Repr, Inhabited

/-- A matcher of origins. -/
structure OriginMatcher where
  /-- The host names allowed, in lower case. -/
  hostnames : List (List Char)
  wildcard : Bool
  credentials : Bool
  deriving DecidableEq, Repr, Inhabited

namespace OriginMatcher

/-- The entries that pass all checks, and an event for each that does not. -/
def sift (checks : List OriginCheck) (entries : List String) : List (List Char) × List Event :=
  (entries.filterMap fun entry =>
      if (OriginCheck.firstError? checks entry.toList).isNone then some entry.toList else none,
    entries.filterMap fun entry =>
      (OriginCheck.firstError? checks entry.toList).map fun cause => .originSkipped entry cause)

/-- **The matcher of some entries.** -/
def ofEntries (checks : List OriginCheck) (entries : List String) (credentials : Bool) :
    OriginMatcher × List Event :=
  let (passed, events) := sift checks entries
  let hostnames := (passed.filter fun e => e != [] && e != ['*']).map Text.lower
  let wildcard := passed.contains ['*']
  if credentials then
    if wildcard && hostnames.isEmpty then
      ({ hostnames, wildcard, credentials := false }, events ++ [.credentialsDropped])
    -- with hosts listed, only those get credentials
    else ({ hostnames, wildcard := false, credentials }, events)
  else ({ hostnames, wildcard, credentials }, events)

/-- What the matcher says about an origin in which a reader of URLs finds the host. -/
def checkBy (reader : Url.Reader) (m : OriginMatcher) (origin : String) : OriginMatch :=
  if m.wildcard then .wildcard
  else if m.hostnames.contains (Url.hostnameBy reader origin.toList) then .exact
  else .denied

/-- **What the matcher says about an origin.** -/
def check (m : OriginMatcher) (origin : String) : OriginMatch := m.checkBy Url.host? origin

end OriginMatcher

end HttpPipeline
