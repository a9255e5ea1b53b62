import HttpPipeline.Response.Polled
import HttpPipeline.Proofs.Response.Polled
import HttpPipeline.Proofs.Response.Requests

/-!
# The headers that a client sees

The head of a response has the headers of the moment at which it is sent. A sink tells its head
once it was sent, and to send it takes a picture of the live headers (`Sink.SendsHead`). What the
client sees is that picture, or the live headers while there is none (`Sink.carried`).

Headers that no request edits are the same at every moment. So it does not matter when the head
is sent: the client sees the values that stood at first (`Sink.SendsHead.carried_values`).
-/

namespace HttpPipeline

namespace Sink

variable {ω : Type} [Sink ω] {sent : ω → Option Head}

/-- The live headers are the same, and so is the head, or it was sent with these headers. -/
def Pictures (sent : ω → Option Head) (w w' : ω) : Prop :=
  Sink.headers w' = Sink.headers w ∧
    (sent w' = sent w ∨ ∃ code, sent w' = some ⟨code, Sink.headers w⟩)

/-- **A head is a picture of the live headers.** -/
structure SendsHead (sent : ω → Option Head) : Prop where
  setHeaders : ∀ w headers, Sink.headers (Sink.setHeaders w headers) = headers ∧
    sent (Sink.setHeaders w headers) = sent w
  sendStatus : ∀ w code, Pictures sent w (Sink.sendStatus w code)
  write : ∀ w data, Pictures sent w (Sink.write w data).2
  flush : ∀ w, Pictures sent w (Sink.flush w).2
  hijack : ∀ w answer, Pictures sent w (Sink.hijack w answer).2

/-- **What the client sees** of the headers. -/
def carried (sent : ω → Option Head) (w : ω) : Headers :=
  ((sent w).map Head.headers).getD (Sink.headers w)

/-- Some headers have given values, in the live headers and in the head. -/
structure Stand (sent : ω → Option Head) (names : String → Bool) (values : String → List Bytes)
    (w : ω) : Prop where
  live : ∀ name, names name = true → (Sink.headers w).values name = values name
  head : ∀ head, sent w = some head → ∀ name, names name = true →
    head.headers.values name = values name

variable {names : String → Bool} {values : String → List Bytes}

theorem Stand.pictures {w w' : ω} (h : Stand sent names values w) (hw : Pictures sent w w') :
    Stand sent names values w' := by
  obtain ⟨hlive, hsent⟩ := hw
  refine ⟨fun name hname => ?_, fun head hhead name hname => ?_⟩
  · rw [hlive]
    exact h.live name hname
  · rcases hsent with hsame | ⟨code, hnew⟩
    · exact h.head head (hsame.symm.trans hhead) name hname
    · obtain rfl := Option.some.inj (hnew.symm.trans hhead)
      exact h.live name hname

/-- **Values that no request edits** stand. -/
theorem SendsHead.outlasts (hsent : SendsHead sent) :
    Outlasts (.sparing names) (Stand sent names values) where
  setHeaders := by
    intro w h headers hedit
    obtain ⟨hlive, hsame⟩ := hsent.setHeaders w headers
    refine ⟨fun name hname => ?_, fun head hhead => h.head head (hsame.symm.trans hhead)⟩
    rw [hlive, hedit name hname]
    exact h.live name hname
  sendStatus := fun h code => h.pictures (hsent.sendStatus _ code)
  write := fun h data => h.pictures (hsent.write _ data)
  flush := fun _ _ h => h.pictures (hsent.flush _)
  hijack := fun _ _ h answer => h.pictures (hsent.hijack _ answer)

theorem Stand.carried {w : ω} (h : Stand sent names values w) {name : String}
    (hname : names name = true) : (Sink.carried sent w).values name = values name := by
  unfold Sink.carried
  cases hhead : sent w with
  | none => exact h.live name hname
  | some head => exact h.head head hhead name hname

/-- **What is set before the head is sent** and never edited again is what the client sees. -/
theorem SendsHead.carried_values (hsent : SendsHead sent) {first w : ω}
    (hunsent : sent first = none) (h : Reached (.sparing names) first w)
    {name : String} (hname : names name = true) :
    (carried sent w).values name = (Sink.headers first).values name := by
  have hfirst : Stand sent names (Sink.headers first).values first :=
    ⟨fun _ _ => rfl, fun head hhead => absurd (hunsent.symm.trans hhead) (by simp)⟩
  exact ((hsent.outlasts.reached hfirst h).carried hname)

end Sink

/-! ### Sinks that send a head -/

theorem Recorder.sendsHead : Sink.SendsHead Recorder.sent := by
  -- a head pictures the live headers, and a recorder that sent one sends no other
  have hhead (r : Recorder) (code : Status) : Sink.Pictures Recorder.sent r (r.sendHead code) := by
    unfold Recorder.sendHead
    split
    · exact ⟨rfl, .inl rfl⟩
    · exact ⟨rfl, .inr ⟨code, rfl⟩⟩
  refine ⟨fun _ _ => ⟨rfl, rfl⟩, fun r code => ?_, fun r data => ?_, fun r => ?_,
    fun r answer => ?_⟩
  · show Sink.Pictures _ r (r.sendStatus code)
    unfold Recorder.sendStatus
    split_ifs
    · exact ⟨rfl, .inl rfl⟩
    · exact hhead r code
  · show Sink.Pictures _ r (r.write data).2
    unfold Recorder.write
    split_ifs
    · exact ⟨rfl, .inl rfl⟩
    · exact hhead r 200
  · show Sink.Pictures _ r r.flush.2
    unfold Recorder.flush
    split_ifs <;> exact ⟨rfl, .inl rfl⟩
  · show Sink.Pictures _ r (r.hijack answer).2
    unfold Recorder.hijack
    split_ifs
    · exact ⟨rfl, .inl rfl⟩
    · split <;> exact ⟨rfl, .inl rfl⟩

namespace Channel

/-- What is pushed out is the body. -/
theorem push_head (c : Channel) :
    c.push.2.headers = c.headers ∧ c.push.2.sent = c.sent := by
  unfold push
  split_ifs <;> exact ⟨rfl, rfl⟩

theorem sendsHead : Sink.SendsHead Channel.sent := by
  have hhead (c : Channel) (code : Status) : Sink.Pictures Channel.sent c (c.sendHead code) := by
    unfold Channel.sendHead
    split
    · exact ⟨rfl, .inl rfl⟩
    · exact ⟨rfl, .inr ⟨code, rfl⟩⟩
  -- what is done after the head was sent
  have hrest {c c' d : Channel} (h : Sink.Pictures Channel.sent c c')
      (hd : d.headers = c'.headers ∧ d.sent = c'.sent) : Sink.Pictures Channel.sent c d := by
    refine ⟨hd.1.trans h.1, ?_⟩
    rw [hd.2]
    exact h.2
  refine ⟨fun _ _ => ⟨rfl, rfl⟩, fun c code => ?_, fun c data => ?_, fun c => ?_,
    fun c answer => ⟨rfl, .inl rfl⟩⟩
  · show Sink.Pictures _ c (c.sendStatus code)
    unfold Channel.sendStatus
    split_ifs
    · exact hhead c code
    · exact ⟨rfl, .inl rfl⟩
  · show Sink.Pictures _ c (c.write data).2
    have hpush := push_head { c.sendHead 200 with pending := (c.sendHead 200).pending ++ data }
    unfold Channel.write
    simp only
    split_ifs
    · exact hrest (hhead c 200) ⟨rfl, rfl⟩
    · split <;> rename_i heq <;> rw [heq] at hpush <;> exact hrest (hhead c 200) hpush
  · show Sink.Pictures _ c c.flush.2
    have hpush := push_head (c.sendHead 200)
    unfold Channel.flush
    split <;> rename_i heq <;> rw [heq] at hpush <;> exact hrest (hhead c 200) hpush

end Channel

/-- A client that polls does not change the head. -/
theorem Polled.sendsHead : Sink.SendsHead fun p : Polled => p.channel.sent := by
  have hturn (p : Polled) : p.turn.channel.headers = p.channel.headers ∧
      p.turn.channel.sent = p.channel.sent := by
    have hheaders : p.turn.channel.unqueued.headers = p.channel.unqueued.headers := by
      rw [p.turn_spec.2]
    have hsent : p.turn.channel.unqueued.sent = p.channel.unqueued.sent := by rw [p.turn_spec.2]
    exact ⟨hheaders, hsent⟩
  -- a request to the channel, after the client's turn
  have hlift {p q : Polled}
      (h : Sink.Pictures Channel.sent p.turn.channel q.channel) :
      Sink.Pictures (fun p : Polled => p.channel.sent) p q := by
    obtain ⟨hheaders, hsent⟩ := hturn p
    refine ⟨h.1.trans hheaders, ?_⟩
    have hpicture := h.2
    rw [hsent] at hpicture
    rcases hpicture with hsame | ⟨code, hnew⟩
    · exact .inl hsame
    · refine .inr ⟨code, ?_⟩
      show q.channel.sent = _
      rw [hnew]
      exact congrArg (fun headers => some (⟨code, headers⟩ : Head)) hheaders
  exact ⟨fun _ _ => ⟨rfl, rfl⟩, fun p code => hlift (Channel.sendsHead.sendStatus _ code),
    fun p data => hlift (Channel.sendsHead.write _ data),
    fun p => hlift (Channel.sendsHead.flush _),
    fun p answer => ⟨(hturn p).1, .inl (hturn p).2⟩⟩

end HttpPipeline
