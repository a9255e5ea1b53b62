import HttpPipeline.Response.Recorder

/-!
# A sink that behaves as it is told

A `ScriptedSink` is a sink whose behaviour is data: a list of what it does at
each attempt to write, after which it accepts everything, and what it does when
it is flushed. It never lets its connection be taken over. Since any finite run
over any sink is a run over the scripted sink that gives the same answers, it
stands for a sink of unknown behaviour, in particular for one that fails.
-/

namespace HttpPipeline

/-- What a scripted sink does at one attempt to write. -/
inductive ScriptedWrite
  /-- At most so many bytes are accepted. -/
  | accept (most : Nat)
  /-- The attempt has to be repeated. -/
  | interrupt (message : String)
  /-- The attempt fails. -/
  | fail (cause : StreamError)
  deriving DecidableEq, Repr, Inhabited

/-- What a scripted sink does when it is flushed. -/
inductive ScriptedFlush
  | unsupported
  | succeed
  | fail (cause : StreamError)
  deriving DecidableEq, Repr, Inhabited

/-- A sink whose behaviour is data. -/
structure ScriptedSink where
  /-- What happens at the attempts to come; afterwards everything is accepted. -/
  writes : List ScriptedWrite := []
  onFlush : ScriptedFlush := .unsupported
  /-- The live headers. -/
  headers : Headers := {}
  /-- The first status given, with the headers of that moment. -/
  sent : Option Head := none
  body : Bytes := []
  /-- Whether an attempt to write failed or accepted nothing. -/
  failed : Bool := false
  deriving DecidableEq, Inhabited

namespace ScriptedSink

/-- The first status is remembered. -/
def sendStatus (s : ScriptedSink) (status : Status) : ScriptedSink :=
  match s.sent with
  | some _ => s
  | none => { s with sent := some ⟨status, s.headers⟩ }

/-- The headers the client sees; the live ones while no status was given. -/
def sentHeaders (s : ScriptedSink) : Headers := (s.sent.map Head.headers).getD s.headers

/-- An attempt to write takes the next prescribed answer. -/
def write (s : ScriptedSink) (data : Bytes) : Attempt × ScriptedSink :=
  match s.writes with
  | [] => (.accepted data.length, { s with body := s.body ++ data })
  | .accept most :: later =>
    let count := min most data.length
    (.accepted count,
      { s with
        writes := later
        body := s.body ++ data.take count
        failed := s.failed || most == 0 })
  | .interrupt message :: later => (.interrupted message, { s with writes := later })
  | .fail cause :: later => (.failed cause, { s with writes := later, failed := true })

/-- A flush does what is prescribed for every flush. -/
def flush (s : ScriptedSink) : Except Fault Unit × ScriptedSink :=
  match s.onFlush with
  | .unsupported => (.error .flushNotSupported, s)
  | .succeed => (.ok (), s)
  | .fail cause => (.error (.stream cause), s)

instance : Sink ScriptedSink where
  headers := ScriptedSink.headers
  setHeaders s h := { s with headers := h }
  sendStatus := ScriptedSink.sendStatus
  write := ScriptedSink.write
  flush := ScriptedSink.flush
  hijack s _ := (.error .hijackNotSupported, s)
  patience s := s.writes.length
  patience_lt := by
    intro s data message h
    unfold ScriptedSink.write at h ⊢
    split at h <;> simp_all

end ScriptedSink

end HttpPipeline
