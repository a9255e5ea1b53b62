import HttpPipeline.Response.Sink

/-!
# Streams that write members

Little is asked of a compressed stream. It can be made, and be made ready for another member
(`PooledStream`); and data can be written to it, flushed and ended, with the output going to a sink
(`MemberStream`). How a stream comes by its output, and what becomes of it when the sink fails, is
its own affair. But all that it does to a sink is to write, so it does the same to two sinks that no
write tells apart. Layers, stages and pools are written for any streams of this kind.
-/

namespace HttpPipeline

/-- Streams that can be used again. -/
class PooledStream (τ : Type) where
  /-- A stream of which nothing has been written, at a level from 0 (fast) to 9 (small). -/
  new : (level : Nat) → τ
  /-- A stream is made ready for another member. -/
  reset : τ → τ

/-- **Streams that write a member** to a sink. An operation gives a result, the stream and the sink
after it. -/
class MemberStream (τ : Type) : Type 1 extends PooledStream τ where
  /-- Data enters the stream. -/
  write : {σ : Type} → [Sink σ] → τ → Bytes → σ → Except StreamError Unit × τ × σ
  /-- All data so far becomes decodable at the sink. -/
  flush : {σ : Type} → [Sink σ] → τ → σ → Except StreamError Unit × τ × σ
  /-- The member is ended. -/
  finish : {σ : Type} → [Sink σ] → τ → σ → Except StreamError Unit × τ × σ
  write_mirrors : ∀ {σ : Type} [Sink σ] {R : σ → σ → Prop}, Sink.MirrorsWrites R →
    ∀ {sink sink' : σ}, R sink sink' → ∀ (s : τ) (data : Bytes),
      Sink.Agree (Sink.Agree R) (write s data sink) (write s data sink')
  flush_mirrors : ∀ {σ : Type} [Sink σ] {R : σ → σ → Prop}, Sink.MirrorsWrites R →
    ∀ {sink sink' : σ}, R sink sink' → ∀ s : τ,
      Sink.Agree (Sink.Agree R) (flush s sink) (flush s sink')
  finish_mirrors : ∀ {σ : Type} [Sink σ] {R : σ → σ → Prop}, Sink.MirrorsWrites R →
    ∀ {sink sink' : σ}, R sink sink' → ∀ s : τ,
      Sink.Agree (Sink.Agree R) (finish s sink) (finish s sink')

end HttpPipeline
