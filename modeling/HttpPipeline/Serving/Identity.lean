import HttpPipeline.Response.Sink
import HttpPipeline.Serving.World

/-!
# The identifier of a request

Every request gets an identifier, which the stages further in find in the request and
the client finds in the response. One that the client sends along is used if it is
acceptable: not empty, not too long, and of printable ASCII, so that it can be logged
and sent back as it is. Otherwise a new one is generated.

A log entry about a request names its identifier as the request had it on the way in.
If it had none yet, the header of the response tells which one a stage further in has
assigned (`loggedId?`).
-/

namespace HttpPipeline

/-- The name of the header with the identifier. -/
def idHeader : String := "x-request-id"

/-- Most bytes of an identifier that a client sends along. -/
def maxIdLength : Nat := 256

/-- Whether an identifier that a client sends along is used. -/
def isAcceptableId (id : Bytes) : Bool :=
  !id.isEmpty && id.length ≤ maxIdLength && id.all fun b => 0x20 ≤ b && b ≤ 0x7e

/-- The identifier that a client sent along, if it is acceptable. -/
def inboundId? (headers : Headers) : Option String :=
  ((headers.text? idHeader).filter fun id => isAcceptableId (Bytes.ofString id))

/-- **The identifier of a request**: the client's, or a new one. The second part is the
generator afterwards, and the third the world. -/
def chooseId (g : Generator) (headers : Headers) (world : World) : String × Generator × World :=
  match inboundId? headers with
  | some id => (id, g, world)
  | none =>
    let issue := g.issue world.clock
    (issue.id.text, issue.generator, (world.afterReading issue.clock).logAll issue.events)

/-- A response that carries an identifier, if that can be the value of a field. -/
def carryId {ω : Type} [Sink ω] (id : String) (w : ω) : ω :=
  let value := Bytes.ofString id
  if isFieldValue value then Sink.editHeaders w fun h => h.insert idHeader value else w

/-- The identifier to name in a log entry about a request, given the response. -/
def loggedId? {ω : Type} [Sink ω] (request : Request) (w : ω) : Option String :=
  request.id <|> (Sink.headers w).text? idHeader

end HttpPipeline
