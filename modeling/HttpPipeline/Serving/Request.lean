import HttpPipeline.Http.Headers

/-!
# Requests

A handler receives a request whose body has been collected. The target of a request
is written in one of four forms: a path, a star for the server as a whole, an
authority alone, or an absolute URL. `Target.ofText` finds the path and the query in
each of them; a star is its own path, an authority has an empty one, and an absolute
URL without a path means the path `/`.

The identifier of a request is assigned by a stage on the way; before that there is
none.
-/

namespace HttpPipeline

/-- What a request is about. -/
structure Target where
  path : List Char
  query : Option (List Char) := none
  deriving DecidableEq, Repr, Inhabited

namespace Target

/-- A path and a query. What follows a number sign is no part of either. -/
def ofPath (text : List Char) : Target :=
  let text := text.takeWhile (· != '#')
  match Text.cut? '?' text with
  | some (path, query) => { path, query := some query }
  | none => { path := text }

/-- What follows `://`, if that is there. -/
def afterScheme? : List Char → Option (List Char)
  | ':' :: '/' :: '/' :: rest => some rest
  | _ :: rest => afterScheme? rest
  | [] => none

/-- **The target in any of its written forms.** -/
def ofText (text : List Char) : Target :=
  match text with
  | '/' :: _ => ofPath text
  | ['*'] => { path := text }
  | _ =>
    match afterScheme? text with
    | none => { path := [] }
    | some rest =>
      let target := ofPath (rest.dropWhile fun c => c != '/' && c != '?' && c != '#')
      if target.path.isEmpty then { target with path := ['/'] } else target

end Target

/-- A request with its body collected. -/
structure Request where
  method : String := "GET"
  target : Target := { path := ['/'] }
  headers : Headers := {}
  body : Bytes := []
  /-- The identifier, once a stage has assigned one. -/
  id : Option String := none
  deriving DecidableEq, Inhabited

namespace Request

/-- The path as text. -/
def path (r : Request) : String := String.ofList r.target.path

end Request

end HttpPipeline
