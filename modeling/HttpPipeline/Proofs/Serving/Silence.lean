import HttpPipeline.Proofs.Response.TakeOver
import HttpPipeline.Serving.Compression

/-!
# Silence after a take-over

A connection that was taken over speaks another protocol, and any byte of a response on it would
corrupt that. So a compression layer through which a take-over succeeded falls silent. It may hold
back the start of a body then, or be in the middle of a member; it keeps what it has and sends none
of it.

What may still change is the status that the layer remembers, and whatever header edits and further
attempts to take the connection over do to the sink below (`GzipLayer.Silent`). This outlasts every
call and both ends of a response (`GzipLayer.Silent.lived`). A silent layer refuses each request
that would send something, and its ends do nothing. So the stage that owns the layer hands on the
sink below as it finds it, whether the handler returned or failed (`GzipLayer.Silent.leave`).
-/

namespace HttpPipeline.GzipLayer

variable {τ ω σ : Type} [MemberStream τ] [Sink ω] [Sink σ]

/-- **A take-over that succeeds** changes nothing above the sink but that it is remembered. -/
theorem hijack_ok {l taken : GzipLayer τ ω} {answer waiting : Bytes}
    (h : Sink.hijack l answer = (.ok waiting, taken)) :
    taken = { l with inner := taken.inner, hijacked := true } := by
  replace h : l.hijack answer = (.ok waiting, taken) := h
  unfold GzipLayer.hijack at h
  split at h
  · obtain ⟨-, rfl⟩ := Prod.mk.inj h
    rfl
  · exact absurd (congrArg Prod.fst h) (by simp)

omit [MemberStream τ] in
/-- A further attempt to take the connection over is a matter of the sink below. -/
theorem hijack_of_hijacked {l : GzipLayer τ ω} (h : l.hijacked = true) (answer : Bytes) :
    (l.hijack answer).2 = { l with inner := (Sink.hijack l.inner answer).2 } := by
  unfold GzipLayer.hijack
  split <;> rename_i heq <;> simp [heq, h]

/-- `l` is what `taken` has become, a layer that was taken over. It has all that `taken` had, but
for the status, and nothing has arrived below except further attempts to take the connection
over. -/
structure Silent (taken l : GzipLayer τ (Traced σ)) : Prop where
  hijacked : l.hijacked = true
  kept : ∃ inner status, l = { taken with inner, status }
  arrivals : ∃ n, l.inner.arrivals = taken.inner.arrivals ++ List.replicate n .hijack

namespace Silent

variable {taken l : GzipLayer τ (Traced σ)}

/-! ### What a silent layer answers -/

theorem write (h : Silent taken l) (data : Bytes) :
    Sink.write l data = (.failed Fault.hijacked.toStream, l) :=
  if_pos h.hijacked

theorem flush (h : Silent taken l) : Sink.flush l = (.error .hijacked, l) :=
  flush_of_hijacked h.hijacked

theorem close (h : Silent taken l) : l.close = (.ok (), l) :=
  close_of_hijacked h.hijacked

theorem abandon (h : Silent taken l) : l.abandon = l :=
  abandon_of_hijacked h.hijacked

/-- **The stage** that put the layer in front of a sink finds nothing to send, however the handler
ended. -/
theorem leave {run : Run (GzipLayer τ (Traced σ))} (h : Silent taken run.writer)
    (pool : EncoderPool τ) : (Compression.leave pool run).1.writer = run.writer.inner := by
  unfold Compression.leave Compression.settle
  cases run.ending with
  | returned => simp only [h.close]
  | panicked payload => simp only [h.abandon]

/-! ### Staying silent -/

omit [MemberStream τ] [Sink σ] in
/-- A layer that was taken over is silent from then on. -/
theorem refl (h : taken.hijacked = true) : Silent taken taken :=
  ⟨h, ⟨_, _, rfl⟩, 0, (List.append_nil _).symm⟩

/-- **No request** breaks the silence. -/
theorem outlasts : Sink.Outlasts .all (Silent taken) where
  setHeaders := by
    rintro _ ⟨hhijacked, ⟨inner, status, rfl⟩, harrivals⟩ headers _
    exact ⟨hhijacked, ⟨_, _, rfl⟩, harrivals⟩
  sendStatus := by
    rintro _ ⟨hhijacked, ⟨inner, status, rfl⟩, harrivals⟩ code
    exact ⟨hhijacked, ⟨_, _, rfl⟩, harrivals⟩
  write := by
    intro l h data
    rw [h.write]
    exact h
  flush := by
    intro _ l h
    rw [h.flush]
    exact h
  hijack := by
    rintro _ l h answer
    show Silent taken (l.hijack answer).2
    rw [hijack_of_hijacked h.hijacked]
    -- only take-overs still arrive, and this is one more
    obtain ⟨hhijacked, ⟨inner, status, rfl⟩, n, harrivals⟩ := h
    refine ⟨hhijacked, ⟨_, _, rfl⟩, n + 1, ?_⟩
    calc (inner.hijack answer).2.arrivals
        = inner.arrivals ++ [.hijack] := rfl
      _ = taken.inner.arrivals ++ (List.replicate n .hijack ++ [.hijack]) := by
          rw [harrivals, List.append_assoc]
      _ = taken.inner.arrivals ++ List.replicate (n + 1) .hijack := by
          rw [← List.replicate_succ']

/-- **Neither does an end.** -/
theorem lived (htaken : taken.hijacked = true) (h : Lived taken l) : Silent taken l := by
  induction h with
  | fresh => exact refl htaken
  | call _ call ih => exact outlasts.call ih call
  | close _ ih =>
    rw [ih.close]
    exact ih
  | abandon _ ih =>
    rw [ih.abandon]
    exact ih

end Silent

/-- **Nothing of a response follows a take-over.** Let a take-over through a layer succeed, in any
state of the layer and over any sink. Whatever calls and ends follow:

* every write and every flush is refused as made to a connection that was taken over, closing
  succeeds, and with abandoning and a status none of them changes the sink below;
* the decision and the bytes held back are those of the moment of the take-over;
* nothing has reached the sink below since but further attempts to take the connection over;
* the stage that owns the layer hands the sink below on as it is. -/
theorem hijack_silences {l taken later : GzipLayer τ (Traced σ)} {answer waiting : Bytes}
    (h : Sink.hijack l answer = (.ok waiting, taken)) (hlater : Lived taken later) :
    (∀ data, Sink.write later data = (.failed Fault.hijacked.toStream, later)) ∧
    (∀ data, data ≠ [] → Sink.writeAll later data = (.error Fault.hijacked.toStream, later)) ∧
    Sink.flush later = (.error .hijacked, later) ∧
    later.close = (.ok (), later) ∧
    later.abandon = later ∧
    (∀ code, (Sink.sendStatus later code).inner = later.inner) ∧
    later.decision = l.decision ∧ later.buffer = l.buffer ∧
    (∃ n, later.inner.arrivals = taken.inner.arrivals ++ List.replicate n .hijack) ∧
    (∀ (pool : EncoderPool τ) (run : Run (GzipLayer τ (Traced σ))), run.writer = later →
      (Compression.leave pool run).1.writer = later.inner) := by
  have htaken := hijack_ok h
  have hsilent : Silent taken later := .lived (by rw [htaken]) hlater
  obtain ⟨inner, status, hkept⟩ := hsilent.kept
  refine ⟨hsilent.write, fun data hdata => Sink.writeAll_of_failed hdata (hsilent.write data),
    hsilent.flush, hsilent.close, hsilent.abandon, fun _ => rfl, ?_, ?_, hsilent.arrivals, ?_⟩
  · rw [hkept, htaken]
  · rw [hkept, htaken]
  · rintro pool run rfl
    exact hsilent.leave pool

/-- A take-over while two bytes are held back. They are held back for ever. -/
theorem hijack_silences_held :
    let layer : GzipLayer Stored (Traced Recorder) :=
      .around { sink := .withConnection [7] } (.new 6) 4
    let l := (Sink.write layer [1, 2]).2
    let taken := (Sink.hijack l []).2
    let later :=
      (Call.performAll [.write [3, 4, 5], .status 404, .hijack [], .flush] taken).2.close.2.abandon
    Sink.hijack l [] = (.ok [7], taken) ∧ Lived taken later ∧
      later.decision = .pending ∧ later.buffer = [1, 2] ∧
      ∃ n, later.inner.arrivals = [.hijack] ++ List.replicate n .hijack := by
  intro layer l taken later
  have htaken : Sink.hijack l [] = (.ok [7], taken) := rfl
  have hlater : Lived taken later :=
    (Lived.fresh.performAll [.write [3, 4, 5], .status 404, .hijack [], .flush]).close.abandon
  obtain ⟨-, -, -, -, -, -, hdecision, hbuffer, harrivals, -⟩ := hijack_silences htaken hlater
  exact ⟨htaken, hlater, hdecision, hbuffer, harrivals⟩

end HttpPipeline.GzipLayer
