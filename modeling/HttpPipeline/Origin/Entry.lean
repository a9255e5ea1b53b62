import HttpPipeline.Text.Ascii

/-!
# Entries of a list of allowed origins

A configured origin is a bare host name or `*`. A check is any function that may find
an error in an entry. A list of checks is applied in order, and the first that fails
rejects the entry (`OriginCheck.firstError?`). Five checks tell the texts that are not
host names; each has an error of its own.
-/

namespace HttpPipeline

/-- Why an entry is not a bare host name. -/
inductive OriginError
  | scheme
  | path
  | port
  | wildcard
  | empty
  deriving DecidableEq, Repr, Inhabited

/-- The wording of an origin error. -/
def OriginError.message : OriginError → String
  | .scheme => "origin contains scheme (://)"
  | .path => "origin contains path (/)"
  | .port => "origin contains port"
  | .wildcard => "origin is wildcard (*)"
  | .empty => "origin is empty"

/-- A check of one entry. -/
structure OriginCheck where
  /-- How an entry fails the check, if it does. -/
  error? : List Char → Option OriginError

namespace OriginCheck

/-- A scheme stands before its first colon and two slashes. -/
def noScheme : OriginCheck :=
  ⟨fun entry => if Text.occurs "://".toList entry then some .scheme else none⟩

def noPath : OriginCheck := ⟨fun entry => if entry.contains '/' then some .path else none⟩

/-- A single colon is taken for that of a port, and so is one after a closing bracket; an
address with several colons has none. -/
def noPort : OriginCheck :=
  ⟨fun entry =>
    if entry.count ':' = 1 || Text.occurs "]:".toList entry then some .port else none⟩

def noWildcard : OriginCheck := ⟨fun entry => if entry = ['*'] then some .wildcard else none⟩

def notEmpty : OriginCheck := ⟨fun entry => if entry = [] then some .empty else none⟩

/-- Each of them, in the order in which a list of plain host names is checked. -/
def hostname : List OriginCheck := [noScheme, noPath, noPort, noWildcard, notEmpty]

/-- The first error that some checks find in an entry. -/
def firstError? (checks : List OriginCheck) (entry : List Char) : Option OriginError :=
  checks.findSome? fun check => check.error? entry

end OriginCheck

end HttpPipeline
