import HttpPipeline.Response.Sink

/-!
# A sink of one of two kinds

Which sink is at the bottom of a tower may be decided when the tower is built. The sum of
two types of sinks is a type of sinks: each request goes to the sink that is there, and the
sum stays on its side.
-/

namespace HttpPipeline.EitherSink

variable {σ τ : Type} [Sink σ] [Sink τ]

/-- An attempt to write to the sink that is there. -/
def write (s : σ ⊕ τ) (data : Bytes) : Attempt × (σ ⊕ τ) :=
  match s with
  | .inl a => (Sink.write a data).map id .inl
  | .inr b => (Sink.write b data).map id .inr

instance : Sink (σ ⊕ τ) where
  headers
    | .inl a => Sink.headers a
    | .inr b => Sink.headers b
  setHeaders s h :=
    match s with
    | .inl a => .inl (Sink.setHeaders a h)
    | .inr b => .inr (Sink.setHeaders b h)
  sendStatus s status :=
    match s with
    | .inl a => .inl (Sink.sendStatus a status)
    | .inr b => .inr (Sink.sendStatus b status)
  write := EitherSink.write
  flush
    | .inl a => (Sink.flush a).map id .inl
    | .inr b => (Sink.flush b).map id .inr
  hijack s answer :=
    match s with
    | .inl a => (Sink.hijack a answer).map id .inl
    | .inr b => (Sink.hijack b answer).map id .inr
  patience
    | .inl a => Sink.patience a
    | .inr b => Sink.patience b
  patience_lt := by
    intro s data message h
    cases s with
    | inl a => exact Sink.patience_lt (s := a) h
    | inr b => exact Sink.patience_lt (s := b) h

end HttpPipeline.EitherSink
