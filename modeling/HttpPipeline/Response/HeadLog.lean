import HttpPipeline.Response.Recorder

/-!
# Watching the heads

`HeadLog σ` is a sink of type `σ` together with the heads that it was given: for each status that
reached it, that status and the headers that stood at the moment. The watched sink may send a head
at once, or keep to the first status, or keep nothing; the log says what there was to send. It
answers each request as the watched sink does.
-/

namespace HttpPipeline

/-- A sink and the heads that it was given, in order. -/
structure HeadLog (σ : Type) where
  sink : σ
  heads : List Head := []

namespace HeadLog

variable {σ : Type} [Sink σ]

/-- A status makes a head of the headers that stand. -/
def sendStatus (w : HeadLog σ) (status : Status) : HeadLog σ :=
  { sink := Sink.sendStatus w.sink status
    heads := w.heads ++ [⟨status, Sink.headers w.sink⟩] }

def write (w : HeadLog σ) (data : Bytes) : Attempt × HeadLog σ :=
  let (attempt, sink) := Sink.write w.sink data
  (attempt, { w with sink })

def flush (w : HeadLog σ) : Except Fault Unit × HeadLog σ :=
  let (result, sink) := Sink.flush w.sink
  (result, { w with sink })

def hijack (w : HeadLog σ) (answer : Bytes) : Except Fault Bytes × HeadLog σ :=
  let (result, sink) := Sink.hijack w.sink answer
  (result, { w with sink })

instance : Sink (HeadLog σ) where
  headers w := Sink.headers w.sink
  setHeaders w h := { w with sink := Sink.setHeaders w.sink h }
  sendStatus := HeadLog.sendStatus
  write := HeadLog.write
  flush := HeadLog.flush
  hijack := HeadLog.hijack
  patience w := Sink.patience w.sink
  patience_lt := by
    intro w data message h
    exact @Sink.patience_lt σ _ w.sink data message h

end HeadLog

end HttpPipeline
