import HttpPipeline.Gzip.Inflate

/-!
# Deflate encoders

A `Deflater` turns the pieces of a body into a deflate stream. It may keep input
back for as long as it likes, with two exceptions: after `sync` all input so far
can be decoded from what it has given out, and `finish` ends the stream. How well
it compresses, and when it gives anything out before that, is its own affair. An
encoder can be used again: `reset` takes it back to where it started.

`StoredBlocks` is the encoder that does not compress: it keeps the input and gives
it out in stored blocks. It is the encoder the pipeline runs with. Everything else
is written for an arbitrary one.
-/

namespace HttpPipeline

/-- An encoder of deflate streams with states `ε`. Each operation gives the next
state and the bytes given out. -/
class Deflater (ε : Type) where
  /-- The state before any input, at a level from 0 (fast) to 9 (small). -/
  start : (level : Nat) → ε
  /-- More input. -/
  push : ε → Bytes → ε × Bytes
  /-- All input so far becomes decodable. -/
  sync : ε → ε × Bytes
  /-- The stream ends. -/
  finish : ε → ε × Bytes
  /-- An encoder of the given level is set back, in whatever state it is. -/
  reset : (level : Nat) → ε → ε
  /-- After that it is as good as new. -/
  reset_eq : ∀ (level : Nat) (e : ε), reset level e = start level

namespace Deflater

/-- A request to an encoder before the end of its stream. -/
inductive Request
  | push (data : Bytes)
  | sync
  deriving DecidableEq, Repr

/-- The input that a request carries. -/
def Request.input : Request → Bytes
  | .push data => data
  | .sync => []

variable {ε : Type} [Deflater ε]

/-- One request. -/
def serve (e : ε) : Request → ε × Bytes
  | .push data => push e data
  | .sync => sync e

/-- The state and the whole output after some requests. -/
def run (e : ε) : List Request → ε × Bytes
  | [] => (e, [])
  | r :: rs =>
    let (e, out) := serve e r
    let (e, later) := run e rs
    (e, out ++ later)

end Deflater

/-- **Correct encoders.** Reading back a finished stream gives the input, and so
does reading back what had been given out at a `sync`. -/
class LawfulDeflater (ε : Type) [Deflater ε] : Prop where
  /-- A finished stream decodes to its input and ends where the encoder ended it. -/
  inflate_finish : ∀ (level : Nat) (rs : List Deflater.Request) (rest : Bytes),
    let (e, out) := Deflater.run (Deflater.start level : ε) rs
    inflate (out ++ (Deflater.finish e).2 ++ rest)
      = (rs.flatMap Deflater.Request.input, .ended rest)
  /-- After a `sync` all input so far is decodable, and the stream is still open. -/
  inflate_sync : ∀ (level : Nat) (rs : List Deflater.Request),
    inflate (Deflater.run (Deflater.start level : ε) (rs ++ [.sync])).2
      = (rs.flatMap Deflater.Request.input, .truncated)

/-! ### Stored blocks -/

/-- Most bytes that one stored block holds. -/
def storedLimit : Nat := 65535

/-- One stored block. -/
def storedBlock (last : Bool) (data : Bytes) : Bytes :=
  (if last then 1 else 0) :: (Bytes.littleEndian 2 data.length ++
    (Bytes.littleEndian 2 (storedLimit - data.length) ++ data))

/-- Some data in stored blocks, at least one. -/
def storedBlocks (last : Bool) (data : Bytes) : Bytes :=
  if data.length ≤ storedLimit then storedBlock last data
  else storedBlock false (data.take storedLimit) ++ storedBlocks last (data.drop storedLimit)
termination_by data.length
decreasing_by
  simp only [List.length_drop, storedLimit] at *
  omega

/-- The encoder that keeps its input and gives it out in stored blocks. -/
structure StoredBlocks where
  /-- Input not given out yet. -/
  kept : Bytes := []
  ended : Bool := false
  deriving DecidableEq, Repr, Inhabited

namespace StoredBlocks

instance : Deflater StoredBlocks where
  start _ := {}
  push e data := if e.ended then (e, []) else ({ e with kept := e.kept ++ data }, [])
  sync e := if e.ended then (e, []) else ({ e with kept := [] }, storedBlocks false e.kept)
  finish e :=
    if e.ended then (e, []) else ({ kept := [], ended := true }, storedBlocks true e.kept)
  reset _ e := { e with kept := [], ended := false }
  reset_eq _ _ := rfl

end StoredBlocks

end HttpPipeline
