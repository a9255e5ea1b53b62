import HttpPipeline.Gzip.Pool

/-!
# Streams on loan

A `Lending` is a pool with the streams that are in use, each under a name. A stream in use
belongs to the pool or not; only one that does goes back to it when its use ends, whether
the user has finished with it or was stopped. A name that is used again ends the use of
what had it before, after the new stream has been lent.
-/

namespace HttpPipeline

/-- A stream in use. -/
structure Loan (τ : Type) where
  name : String
  /-- Whether the stream belongs to the pool. -/
  pooled : Bool
  stream : τ

/-- A pool and the streams in use. -/
structure Lending (τ : Type) where
  pool : EncoderPool τ
  loans : List (Loan τ) := []

namespace Lending

variable {τ : Type} [PooledStream τ]

omit [PooledStream τ] in
/-- The loan of a name. -/
def find? (l : Lending τ) (name : String) : Option (Loan τ) := l.loans.find? (·.name == name)

/-- The use of a stream ends. The second part says whether there was one. -/
def giveBack (l : Lending τ) (name : String) : Lending τ × Bool :=
  let others := l.loans.filter (·.name != name)
  match l.find? name with
  | none => (l, false)
  | some loan =>
    ({ pool := if loan.pooled then l.pool.release loan.stream else l.pool, loans := others }, true)

/-- A stream of the pool is lent under a name. -/
def lend (l : Lending τ) (name : String) : Lending τ :=
  let (stream, pool) := l.pool.acquire
  let l := ({ l with pool }.giveBack name).1
  { l with loans := ⟨name, true, stream⟩ :: l.loans }

/-- A stream that is not the pool's is used under a name. -/
def adopt (l : Lending τ) (name : String) (stream : τ) : Lending τ :=
  let l := (l.giveBack name).1
  { l with loans := ⟨name, false, stream⟩ :: l.loans }

omit [PooledStream τ] in
/-- The stream in use under a name, as it is after some use. -/
def put (l : Lending τ) (name : String) (stream : τ) : Lending τ :=
  { l with
    loans := l.loans.map fun loan => if loan.name == name then { loan with stream } else loan }

end Lending

end HttpPipeline
