import HttpPipeline.Http.Headers
import HttpPipeline.Response.Fault

/-!
# Where a response is written

A `Sink` is anything one response can be written to: a recorder, a channel to
a client, or a layer that passes what it is given to another sink after looking
at it. Headers may be edited at any time; they take effect when the head is sent,
at the first status or the first write. Beyond that a sink answers four requests.

* `sendStatus` gives the status.
* `write` offers body bytes. One attempt may be accepted in part, may ask to be
  tried again, or may fail (`Attempt`).
* `flush` pushes out what the sinks below still hold back. A sink without that
  capability refuses with `Fault.flushNotSupported`; a layer that has nothing to
  add passes the request down.
* `hijack` takes the raw connection over, on the same terms. The caller reads all
  that the connection has for it and answers on it in one step.

## Writing everything

`writeAll` repeats `write` until nothing is left. It ends because a sink cannot
ask to be tried again for ever: `patience` bounds how often in a row it will, and
`patience_lt` says that each such answer uses some of it up. An attempt that
accepts nothing ends the loop as a failure, and so does every other failure, so
each turn of the loop has fewer bytes to offer or less patience to spend.
-/

namespace HttpPipeline

/-- What became of one attempt to write. -/
inductive Attempt
  /-- So many of the first bytes were taken. -/
  | accepted (count : Nat)
  /-- Nothing was taken; the same attempt may succeed at once. -/
  | interrupted (message : String)
  /-- Nothing was taken, for a cause that a repetition does not remove. -/
  | failed (cause : StreamError)
  deriving DecidableEq, Repr, Inhabited

/-- Anything one response can be written to. -/
class Sink (σ : Type) where
  /-- The response headers as they stand. -/
  headers : σ → Headers
  /-- The sink with other response headers. -/
  setHeaders : σ → Headers → σ
  /-- The status of the response is given. -/
  sendStatus : σ → Status → σ
  /-- Body bytes are offered once. -/
  write : σ → Bytes → Attempt × σ
  /-- What is held back is to be pushed out. -/
  flush : σ → Except Fault Unit × σ
  /-- The connection is taken over; the bytes are the answer sent on it, and the
  result is all that it had to be read. -/
  hijack : σ → Bytes → Except Fault Bytes × σ
  /-- How often in a row a write may ask to be tried again. -/
  patience : σ → Nat
  /-- Asking to be tried again uses patience up. -/
  patience_lt : ∀ {s : σ} {data : Bytes} {message : String},
    (write s data).1 = .interrupted message → patience (write s data).2 < patience s

namespace Sink

variable {σ : Type} [Sink σ]

/-- **Writing everything.** Attempts are repeated until no byte is left. The
first attempt that takes nothing or fails ends the whole with that failure. -/
def writeAll (s : σ) (data : Bytes) : Except StreamError Unit × σ :=
  if data.isEmpty then (.ok (), s)
  else match h : write s data with
    | (.accepted 0, s') => (.error .nothingAccepted, s')
    | (.accepted (count + 1), s') => writeAll s' (data.drop (count + 1))
    -- the same bytes again, from a sink with less patience
    | (.interrupted _, s') => writeAll s' data
    | (.failed cause, s') => (.error cause, s')
termination_by (data.length, patience s)
decreasing_by
  · rename_i hne
    have : data.length ≠ 0 := by
      intro hlen
      exact hne (by simp [List.eq_nil_of_length_eq_zero hlen])
    apply Prod.Lex.left
    simp only [List.length_drop]
    omega
  · have hlt := @patience_lt σ _ s data _ (by rw [h])
    rw [h] at hlt
    exact Prod.Lex.right _ hlt

/-- The headers of a sink, edited. -/
def editHeaders (s : σ) (edit : Headers → Headers) : σ :=
  setHeaders s (edit (headers s))

/-- **A reply that reports an error.** The body is the message and a line break,
declared as plain text; a length declared for another body is withdrawn. Whether
the client can still receive it does not matter any more. -/
def errorReply (s : σ) (status : Status) (message : String) : σ :=
  let s := editHeaders s fun h =>
    ((h.remove "content-length").insert "content-type"
      (Bytes.ofString "text/plain; charset=utf-8")).insert "x-content-type-options"
      (Bytes.ofString "nosniff")
  (writeAll (sendStatus s status) (Bytes.ofString message ++ [10])).2

theorem writeAll_nil (s : σ) : writeAll s [] = (.ok (), s) := by
  rw [writeAll]
  rfl

section Attempts

variable {s s' : σ} {data : Bytes}

/-- The first attempt, and what comes of it. -/
theorem writeAll_attempt (s : σ) (hdata : data ≠ []) :
    writeAll s data =
      match write s data with
      | (.accepted 0, s') => (.error .nothingAccepted, s')
      | (.accepted (count + 1), s') => writeAll s' (data.drop (count + 1))
      | (.interrupted _, s') => writeAll s' data
      | (.failed cause, s') => (.error cause, s') := by
  rw [writeAll, if_neg (by simpa using hdata)]
  split <;> simp only [*]

/-- An attempt that takes nothing is not repeated. -/
theorem writeAll_of_nothing (hdata : data ≠ []) (h : write s data = (.accepted 0, s')) :
    writeAll s data = (.error .nothingAccepted, s') := by
  rw [writeAll_attempt s hdata, h]

/-- After an attempt that takes something comes the rest. -/
theorem writeAll_of_some {count : Nat} (hdata : data ≠ [])
    (h : write s data = (.accepted (count + 1), s')) :
    writeAll s data = writeAll s' (data.drop (count + 1)) := by
  rw [writeAll_attempt s hdata, h]

/-- An attempt that is interrupted is repeated. -/
theorem writeAll_of_interrupted {message : String} (hdata : data ≠ [])
    (h : write s data = (.interrupted message, s')) : writeAll s data = writeAll s' data := by
  rw [writeAll_attempt s hdata, h]

/-- An attempt that fails is not repeated. -/
theorem writeAll_of_failed (hdata : data ≠ []) {cause : StreamError}
    (h : write s data = (.failed cause, s')) : writeAll s data = (.error cause, s') := by
  rw [writeAll_attempt s hdata, h]

/-- An offer that is taken whole is not repeated. -/
theorem writeAll_of_write (hdata : data ≠ [])
    (h : write s data = (.accepted data.length, s')) : writeAll s data = (.ok (), s') := by
  obtain ⟨count, hcount⟩ : ∃ count, data.length = count + 1 :=
    Nat.exists_eq_succ_of_ne_zero (by simpa using hdata)
  rw [hcount] at h
  rw [writeAll_of_some hdata h, ← hcount, List.drop_length, writeAll_nil]

end Attempts

/-! ### What no write tells apart -/

/-- **The same outcome**: one answer, and related states. -/
structure Agree {ρ ω ω' : Type} (R : ω → ω' → Prop) (r : ρ × ω) (r' : ρ × ω') : Prop where
  answer : r.1 = r'.1
  left : R r.2 r'.2

/-- Of the same outcome, only the states have to be told apart. -/
@[elab_as_elim]
theorem Agree.elim {ρ ω ω' : Type} {R : ω → ω' → Prop} {motive : ρ × ω → ρ × ω' → Prop}
    {r : ρ × ω} {r' : ρ × ω'} (h : Agree R r r')
    (hsame : ∀ answer {w : ω} {w' : ω'}, R w w' → motive (answer, w) (answer, w')) :
    motive r r' := by
  obtain ⟨answer, w⟩ := r
  obtain ⟨answer', w'⟩ := r'
  obtain rfl : answer = answer' := h.answer
  exact hsame answer h.left

/-- **States that no write tells apart.** -/
def MirrorsWrites {σ' : Type} [Sink σ'] (R : σ → σ' → Prop) : Prop :=
  ∀ ⦃s s'⦄, R s s' → ∀ data, Agree R (write s data) (write s' data)

/-- Writing everything takes the same attempts. -/
theorem MirrorsWrites.writeAll {σ' : Type} [Sink σ'] {R : σ → σ' → Prop} (hR : MirrorsWrites R)
    {s : σ} {s' : σ'} (h : R s s') (data : Bytes) :
    Agree R (Sink.writeAll s data) (Sink.writeAll s' data) := by
  have hsame {s t : σ} {s' : σ'} {data : Bytes} {attempt : Attempt} (h : R s s')
      (hwrite : write s data = (attempt, t)) : ∃ t', write s' data = (attempt, t') ∧ R t t' := by
    have hagree := hR h data
    rw [hwrite] at hagree
    exact ⟨(write s' data).2, Prod.ext hagree.answer.symm rfl, hagree.left⟩
  -- along the writes of one side, which the other side answers in the same way
  fun_induction Sink.writeAll s data generalizing s' with
  | case1 s data hempty =>
    rw [List.isEmpty_iff.mp hempty, writeAll_nil]
    exact ⟨rfl, h⟩
  | case2 s data hne t hwrite =>
    obtain ⟨t', hwrite', ht⟩ := hsame h hwrite
    rw [writeAll_of_nothing (by simpa using hne) hwrite']
    exact ⟨rfl, ht⟩
  | case3 s data hne count t hwrite ih =>
    obtain ⟨t', hwrite', ht⟩ := hsame h hwrite
    rw [writeAll_of_some (by simpa using hne) hwrite']
    exact ih ht
  | case4 s data hne message t hwrite ih =>
    obtain ⟨t', hwrite', ht⟩ := hsame h hwrite
    rw [writeAll_of_interrupted (by simpa using hne) hwrite']
    exact ih ht
  | case5 s data hne t cause hwrite =>
    obtain ⟨t', hwrite', ht⟩ := hsame h hwrite
    rw [writeAll_of_failed (by simpa using hne) hwrite']
    exact ⟨rfl, ht⟩

end Sink

end HttpPipeline
