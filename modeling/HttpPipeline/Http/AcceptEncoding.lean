import HttpPipeline.Http.Headers
import HttpPipeline.Number.Binary64

/-!
# Which encodings a client accepts

A field value of `Accept-Encoding` is a list of codings, separated by commas, each
with parameters after semicolons. The first member that names `gzip`, in letters of
either case, decides: it is accepted unless one of its parameters is a weight of
zero, however that zero is written. A value whose list does not name `gzip` does
not accept it.

A request may carry several such fields. It accepts `gzip` if one of those that
can be read does.
-/

namespace HttpPipeline.AcceptEncoding

/-- Whether a parameter is a weight of zero. -/
def isZeroWeight (parameter : List Char) : Bool :=
  let (key, value) := (Text.cut? '=' parameter).getD (parameter, [])
  Text.sameIgnoringCase (Text.trim key) ['q'] &&
    (Binary64.parse? (Text.trim value)).any Binary64.isZero

/-- What a member of the list says about `gzip`, if it names it. -/
def verdict? (member : List Char) : Option Bool :=
  match Text.splitOn ';' (Text.trim member) with
  | [] => none
  | coding :: parameters =>
    if Text.sameIgnoringCase (Text.trim coding) "gzip".toList then
      some (!parameters.any isZeroWeight)
    else none

/-- **Whether a field value accepts `gzip`.** -/
def acceptsGzip (value : List Char) : Bool :=
  ((Text.splitOn ',' value).findSome? verdict?).getD false

/-- Whether the header fields of a request accept `gzip`. -/
def requestAcceptsGzip (headers : Headers) : Bool :=
  ((headers.values "accept-encoding").filterMap visibleText?).any
    fun value => acceptsGzip value.toList

end HttpPipeline.AcceptEncoding
