import HttpPipeline.Gzip.Stream

/-!
# Streams that are used again

Encoders are costly to set up, so a pool keeps streams that are not in use and
lends them out. A stream that comes back is reset before it is kept: whatever had
been written through it, what is lent out next is new. At most `maxIdle` streams
are kept; any more are let go.
-/

namespace HttpPipeline

/-- Streams kept for later use. -/
structure EncoderPool (τ : Type) where
  level : Nat
  maxIdle : Nat
  /-- The streams not in use, the one to be lent next first. -/
  idle : List τ := []

namespace EncoderPool

variable {τ : Type} [PooledStream τ]

omit [PooledStream τ] in
/-- An empty pool. Levels above 9 mean 9. -/
def ofSettings (level maxIdle : Nat) : EncoderPool τ := { level := min level 9, maxIdle }

/-- A stream is lent out: a kept one, or a new one if there is none. -/
def acquire (p : EncoderPool τ) : τ × EncoderPool τ :=
  match p.idle with
  | [] => (PooledStream.new p.level, p)
  | s :: idle => (s, { p with idle })

/-- A stream comes back. -/
def release (p : EncoderPool τ) (s : τ) : EncoderPool τ :=
  if p.idle.length < p.maxIdle then { p with idle := PooledStream.reset s :: p.idle } else p

/-- The states of a pool: it is made empty, streams are lent, and streams come back in
whatever state they are. -/
inductive Reachable : EncoderPool τ → Prop
  | made (level maxIdle : Nat) : Reachable (.ofSettings level maxIdle)
  | lent {p : EncoderPool τ} (h : Reachable p) : Reachable p.acquire.2
  | returned {p : EncoderPool τ} (h : Reachable p) (s : τ) : Reachable (p.release s)

end EncoderPool

end HttpPipeline
