/-!
# What can go wrong while a response is written

Two kinds of failure are told apart. A `StreamError` is a failure of the byte
stream below: it has a kind and a text, and it is what writes and closing report.
A `Fault` is a failure of a capability: flushing or taking the connection over
was refused, or the stream failed while doing so.

Each cause is a constructor and has one wording, given by `Fault.message`. A
fault can always be presented as a stream error (`Fault.toStream`): the failure
of a stream is itself, any other fault is of kind `other` and keeps its wording.
-/

namespace HttpPipeline

/-- Kinds of failure of a byte stream. -/
inductive StreamError.Kind
  | brokenPipe
  | connectionReset
  | interrupted
  | other
  | timedOut
  | unexpectedEof
  | writeZero
  deriving DecidableEq, Repr, Inhabited

/-- A failure of a byte stream. -/
structure StreamError where
  kind : StreamError.Kind
  message : String
  deriving DecidableEq, Repr, Inhabited

namespace StreamError

/-- The name of a kind of failure. -/
def Kind.name : Kind → String
  | .brokenPipe => "BrokenPipe"
  | .connectionReset => "ConnectionReset"
  | .interrupted => "Interrupted"
  | .other => "Other"
  | .timedOut => "TimedOut"
  | .unexpectedEof => "UnexpectedEof"
  | .writeZero => "WriteZero"

/-- The kind of a name; a name that belongs to none means `other`. -/
def Kind.ofName (name : String) : Kind :=
  match name with
  | "BrokenPipe" => .brokenPipe
  | "ConnectionReset" => .connectionReset
  | "Interrupted" => .interrupted
  | "TimedOut" => .timedOut
  | "UnexpectedEof" => .unexpectedEof
  | "WriteZero" => .writeZero
  | _ => .other

/-- The stream accepts no more bytes. -/
def nothingAccepted : StreamError := ⟨.writeZero, "failed to write whole response body"⟩

/-- A compressed stream has already been ended. -/
def alreadyFinished : StreamError := ⟨.other, "gzip stream already finished"⟩

/-- The reader of a response has gone away. -/
def clientGone : StreamError := ⟨.brokenPipe, "client disconnected"⟩

end StreamError

/-- A capability of a response was refused or failed. -/
inductive Fault
  | flushNotSupported
  | hijackNotSupported
  | hijacked
  | alreadyHijacked
  | stream (cause : StreamError)
  deriving DecidableEq, Repr, Inhabited

namespace Fault

/-- The wording of a fault. -/
def message : Fault → String
  | .flushNotSupported => "response writer does not support flushing"
  | .hijackNotSupported => "response writer does not support hijacking"
  | .hijacked => "connection has been hijacked"
  | .alreadyHijacked => "connection already hijacked"
  | .stream cause => "I/O error: " ++ cause.message

/-- A fault presented as a failure of the byte stream. -/
def toStream : Fault → StreamError
  | .stream cause => cause
  | fault => ⟨.other, fault.message⟩

end Fault

end HttpPipeline
