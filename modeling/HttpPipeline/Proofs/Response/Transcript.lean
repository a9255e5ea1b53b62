import HttpPipeline.Proofs.Response.Calls
import HttpPipeline.Proofs.Response.Polled
import HttpPipeline.Proofs.Response.Reply
import HttpPipeline.Proofs.Text.Pieces

/-!
# What a recorder tells about a channel

A response that is recorded in memory stands for one that is sent to a client. Both sinks do the
same thing with what they are asked: a call edits the live headers, then may give or imply a
status, and the first status fixes the head with the headers of that moment, then adds to the body.
That is a `Transcript`, and a sink transcribes (`Sink.Transcribes`) if it takes every call so and
refuses nothing but a take-over.

A flush is where the two differ. A channel sends the head with it, and a recorder only counts it.
So a transcript is made with respect to the status that a flush implies: `200` for the one and none
for the other. What the client sees is then the same for the calls without their flushes, and for
all calls if none of them flushes before a status or a write (`Recorder.shows_delivered`).

Of the head that the client sees, a recorder shows the status and every header value that can be
read as text, each in its place (`Recorder.Shows`). A client receives the other values too.
-/

namespace HttpPipeline

namespace Call

/-- **The head that some calls fix**: the first status, with the headers of that moment. At the
end it is `200`, with the headers that are left. -/
def fixed (flushed : Option Status) (headers : Headers) : List Call → Head
  | [] => ⟨200, headers⟩
  | call :: calls =>
    match call.given? flushed with
    | some code => ⟨code, call.edited headers⟩
    | none => fixed flushed (call.edited headers) calls

variable {calls : List Call}

/-- **Without their flushes** calls fix the head that they fix where a flush implies nothing. -/
theorem fixed_unflushed (flushed : Option Status) (headers : Headers) (calls : List Call) :
    fixed flushed headers (calls.filter (· ≠ .flush)) = fixed none headers calls := by
  induction calls generalizing headers with
  | nil => rfl
  | cons call calls ih =>
    by_cases hcall : call = .flush
    · subst hcall
      rw [List.filter_cons_of_neg (by simp)]
      exact ih headers
    · rw [List.filter_cons_of_pos (by simpa using hcall), fixed, fixed, given?_of_ne hcall, ih]

/-- **Flushes come late** if a status or a write comes before the first of them. -/
def FlushesLate (calls : List Call) : Prop :=
  .flush ∈ calls → ∃ call ∈ calls.takeWhile (· ≠ .flush), (call.given? none).isSome

instance (calls : List Call) : Decidable (FlushesLate calls) :=
  inferInstanceAs (Decidable
    (.flush ∈ calls → ∃ call ∈ calls.takeWhile (· ≠ .flush), (call.given? none).isSome))

/-- Flushes that come late do not fix the head. -/
theorem fixed_flushed (flushed : Option Status) (headers : Headers) (hlate : FlushesLate calls) :
    fixed flushed headers calls = fixed none headers calls := by
  induction calls generalizing headers with
  | nil => rfl
  | cons call calls ih =>
    -- the first call is no flush
    have hcall : call ≠ .flush := by
      rintro rfl
      obtain ⟨_, hnone, _⟩ := hlate List.mem_cons_self
      simp at hnone
    rw [fixed, fixed, given?_of_ne hcall]
    cases hgiven : call.given? none with
    | some code => rfl
    | none =>
      refine ih _ fun hflush => ?_
      obtain ⟨other, hother, hsome⟩ := hlate (List.mem_cons_of_mem _ hflush)
      rw [List.takeWhile_cons_of_pos (by simpa using hcall)] at hother
      rcases List.mem_cons.mp hother with rfl | hbefore
      · rw [hgiven] at hsome
        exact absurd hsome Bool.false_ne_true
      · exact ⟨other, hbefore, hsome⟩

end Call

/-! ### Transcripts -/

/-- A response as its client will see it. -/
structure Transcript where
  /-- The live headers. -/
  headers : Headers := {}
  /-- The head, once it is fixed. -/
  sent : Option Head := none
  body : Bytes := []

namespace Transcript

/-- A status fixes the head, unless it is fixed. -/
def fix (t : Transcript) (code : Status) : Transcript :=
  { t with sent := t.sent.or (some ⟨code, t.headers⟩) }

/-- A write implies `200` and adds to the body. -/
def add (t : Transcript) (data : Bytes) : Transcript :=
  { t.fix 200 with body := t.body ++ data }

/-- A flush may imply a status. -/
def push (flushed : Option Status) (t : Transcript) : Transcript := flushed.elim t t.fix

/-- **A call** edits the headers, may fix the head, and adds to the body. -/
def after (flushed : Option Status) (t : Transcript) (call : Call) : Transcript where
  headers := call.edited t.headers
  sent := t.sent.or ((call.given? flushed).map fun code => ⟨code, call.edited t.headers⟩)
  body := t.body ++ call.data

/-- The head that the client sees, now or at the end. -/
def head (t : Transcript) : Head := t.sent.getD ⟨200, t.headers⟩

variable {flushed : Option Status} {calls : List Call}

/-- A head that is fixed stays. -/
theorem sent_foldl {t : Transcript} {head : Head} (hsent : t.sent = some head)
    (calls : List Call) : (calls.foldl (after flushed) t).sent = some head := by
  induction calls generalizing t with
  | nil => exact hsent
  | cons call calls ih => exact ih (by rw [after, hsent, Option.some_or])

/-- **The head of a transcript** is the one that the calls fix. -/
theorem head_foldl {t : Transcript} (hsent : t.sent = none) (calls : List Call) :
    (calls.foldl (after flushed) t).head = Call.fixed flushed t.headers calls := by
  induction calls generalizing t with
  | nil => rw [List.foldl_nil, head, hsent, Option.getD_none, Call.fixed]
  | cons call calls ih =>
    rw [List.foldl_cons, Call.fixed]
    cases hgiven : call.given? flushed with
    | some code =>
      have hfixed : (after flushed t call).sent = some ⟨code, call.edited t.headers⟩ := by
        rw [after, hsent, hgiven]
        rfl
      rw [head, sent_foldl hfixed, Option.getD_some]
    | none =>
      have hunfixed : (after flushed t call).sent = none := by
        rw [after, hsent, hgiven]
        rfl
      exact ih hunfixed

/-- **The body of a transcript** is all that was written. -/
theorem body_foldl (t : Transcript) (calls : List Call) :
    (calls.foldl (after flushed) t).body = t.body ++ calls.flatMap Call.data := by
  induction calls generalizing t with
  | nil => simp
  | cons call calls ih =>
    rw [List.foldl_cons, ih, after, List.flatMap_cons, List.append_assoc]

/-- A flush writes nothing. -/
theorem data_unflushed (calls : List Call) :
    (calls.filter (· ≠ .flush)).flatMap Call.data = calls.flatMap Call.data := by
  induction calls with
  | nil => rfl
  | cons call calls ih =>
    by_cases hcall : call = .flush
    · subst hcall
      rw [List.filter_cons_of_neg (by simp), ih, List.flatMap_cons]
      rfl
    · rw [List.filter_cons_of_pos (by simpa using hcall), List.flatMap_cons, List.flatMap_cons, ih]

end Transcript

/-! ### Sinks that transcribe -/

namespace Sink

/-- **A sink that transcribes.** It does with each request what a transcript does, and refuses
nothing but a take-over. -/
structure Transcribes {ω : Type} [Sink ω] (flushed : Option Status)
    (R : Transcript → ω → Prop) : Prop where
  headers : ∀ {t w}, R t w → Sink.headers w = t.headers
  setHeaders : ∀ {t w}, R t w → ∀ headers, R { t with headers } (Sink.setHeaders w headers)
  sendStatus : ∀ {t w}, R t w → ∀ {code}, Status.final code = true →
    R (t.fix code) (Sink.sendStatus w code)
  write : ∀ {t w}, R t w → ∀ data,
    ∃ w', Sink.write w data = (.accepted data.length, w') ∧ R (t.add data) w'
  flush : ∀ {t w}, R t w → ∃ w', Sink.flush w = (.ok (), w') ∧ R (t.push flushed) w'
  hijack : ∀ {t w}, R t w → ∀ answer,
    ∃ w', Sink.hijack w answer = (.error .hijackNotSupported, w') ∧ R t w'

namespace Transcribes

section One

variable {ω : Type} [Sink ω] {flushed : Option Status} {R : Transcript → ω → Prop}
  {t : Transcript} {w : ω}

theorem writeAll (hR : Transcribes flushed R) (h : R t w) {data : Bytes} (hdata : data ≠ []) :
    ∃ w', Sink.writeAll w data = (.ok (), w') ∧ R (t.add data) w' := by
  obtain ⟨w', hwrite, hw'⟩ := hR.write h data
  exact ⟨w', Sink.writeAll_of_write hdata hwrite, hw'⟩

/-- **One call** is transcribed. -/
theorem perform (hR : Transcribes flushed R) (h : R t w) {call : Call}
    (hcall : call.isFinal = true) : R (t.after flushed call) (call.perform w).2 := by
  -- a call that gives no status and writes nothing leaves the transcript, but for the headers
  have hsame {call : Call} {w' : ω} (hgiven : call.given? flushed = none) (hdata : call.data = [])
      (hw : R { t with headers := call.edited t.headers } w') : R (t.after flushed call) w' := by
    rw [Transcript.after, hgiven, hdata, Option.map_none, Option.or_none, List.append_nil]
    exact hw
  have hheader {call : Call} (hcall : call.isHeader = true) :
      R (t.after flushed call) (call.perform w).2 := by
    obtain ⟨hgiven, hdata⟩ := Call.given?_of_isHeader hcall
    refine hsame hgiven hdata ?_
    rcases Call.perform_edited hcall with ⟨hid, hkept⟩ | hedit
    · rw [hid, hkept]
      exact h
    · rw [hedit, Sink.editHeaders, hR.headers h]
      exact hR.setHeaders h _
  cases call with
  | set name value => exact hheader rfl
  | append name value => exact hheader rfl
  | remove name => exact hheader rfl
  | get name => exact hheader rfl
  | status code =>
    by_cases hvalid : Status.valid code = true
    · have hgiven : (Call.status code).given? flushed = some code := if_pos hvalid
      have hdata : (Call.status code).data = [] := rfl
      rw [Call.perform, if_pos hvalid, Transcript.after, hgiven, hdata, List.append_nil]
      exact hR.sendStatus h (by simpa [Call.isFinal, hvalid] using hcall)
    · rw [Call.perform, if_neg hvalid]
      exact hsame (if_neg hvalid) rfl h
  | write data =>
    obtain ⟨w', hwrite, hw'⟩ := hR.write h data
    simp only [Call.perform, hwrite]
    exact hw'
  | writeAll data =>
    by_cases hdata : data = []
    · subst hdata
      rw [Call.perform, Sink.writeAll_nil]
      exact hsame rfl rfl h
    · obtain ⟨w', hwrite, hw'⟩ := hR.writeAll h hdata
      simp only [Call.perform, hwrite]
      have hgiven : (Call.writeAll data).given? flushed = some 200 :=
        if_neg (by simpa using hdata)
      rw [Transcript.after, hgiven]
      exact hw'
  | flush =>
    obtain ⟨w', hflush, hw'⟩ := hR.flush h
    simp only [Call.perform, hflush]
    cases flushed with
    | none => exact hsame rfl rfl hw'
    | some code =>
      have hdata : Call.flush.data = [] := rfl
      rw [Transcript.after, hdata, List.append_nil]
      exact hw'
  | hijack answer =>
    obtain ⟨w', hhijack, hw'⟩ := hR.hijack h answer
    simp only [Call.perform, hhijack]
    exact hsame rfl rfl hw'
  | errorReply code message =>
    by_cases hvalid : Status.valid code = true
    · have hedited : R { t with headers := Sink.replyHeaders t.headers }
          (Sink.editHeaders w Sink.replyHeaders) := by
        rw [Sink.editHeaders, hR.headers h]
        exact hR.setHeaders h _
      have hfinal : Status.final code = true := by simpa [Call.isFinal, hvalid] using hcall
      have hbody : Sink.replyBody message ≠ [] := by simp [Sink.replyBody]
      obtain ⟨w', hwrite, hw'⟩ := hR.writeAll (hR.sendStatus hedited hfinal) hbody
      have hreply : Sink.errorReply w code message = w' := congrArg Prod.snd hwrite
      have hgiven : (Call.errorReply code message).given? flushed = some code := if_pos hvalid
      rw [Call.perform, if_pos hvalid, hreply, Transcript.after, hgiven, Call.edited,
        if_pos hvalid, Call.data, if_pos hvalid]
      -- the head is fixed by the status, so the write implies nothing
      have hadd : (Transcript.fix { t with headers := Sink.replyHeaders t.headers } code).add
          (Sink.replyBody message) =
          ⟨Sink.replyHeaders t.headers,
            t.sent.or (some ⟨code, Sink.replyHeaders t.headers⟩),
            t.body ++ Sink.replyBody message⟩ := by
        unfold Transcript.add Transcript.fix
        cases t.sent <;> rfl
      rw [hadd] at hw'
      exact hw'
    · rw [Call.perform, if_neg hvalid]
      refine hsame (if_neg hvalid) (if_neg hvalid) ?_
      rw [Call.edited, if_neg hvalid]
      exact h

/-- **Any number of calls** are transcribed. -/
theorem performAll (hR : Transcribes flushed R) (h : R t w) {calls : List Call}
    (hcalls : ∀ call ∈ calls, call.isFinal = true) :
    R (calls.foldl (Transcript.after flushed) t) (Call.performAll calls w).2 := by
  induction calls generalizing t w with
  | nil => exact h
  | cons call calls ih =>
    exact ih (hR.perform h (hcalls call List.mem_cons_self)) fun later hlater =>
      hcalls later (List.mem_cons_of_mem _ hlater)

end One

section Two

variable {ω ω' : Type} [Sink ω] [Sink ω'] {flushed flushed' : Option Status}
  {R : Transcript → ω → Prop} {R' : Transcript → ω' → Prop} {t t' : Transcript} {w : ω} {w' : ω'}

/-- **A call is replied to in the same way**, if the live headers are the same. -/
theorem perform_alike (hR : Transcribes flushed R) (hR' : Transcribes flushed' R') (h : R t w)
    (h' : R' t' w') (hheaders : t.headers = t'.headers) (call : Call) :
    (call.perform w).1 = (call.perform w').1 := by
  -- an answer depends on the live headers only, and both writers have those of the transcript
  have hlive : Sink.headers w = Sink.headers w' :=
    (hR.headers h).trans (hheaders.trans (hR'.headers h').symm)
  cases call with
  | set name value => exact Call.perform_header_reply rfl hlive
  | append name value => exact Call.perform_header_reply rfl hlive
  | remove name => exact Call.perform_header_reply rfl hlive
  | get name => exact Call.perform_header_reply rfl hlive
  | status code =>
    simp only [Call.perform]
    split_ifs <;> rfl
  | write data =>
    obtain ⟨_, hwrite, -⟩ := hR.write h data
    obtain ⟨_, hwrite', -⟩ := hR'.write h' data
    simp only [Call.perform, hwrite, hwrite']
  | writeAll data =>
    by_cases hdata : data = []
    · simp only [Call.perform, hdata, Sink.writeAll_nil]
    · obtain ⟨_, hwrite, -⟩ := hR.writeAll h hdata
      obtain ⟨_, hwrite', -⟩ := hR'.writeAll h' hdata
      simp only [Call.perform, hwrite, hwrite']
  | flush =>
    obtain ⟨_, hflush, -⟩ := hR.flush h
    obtain ⟨_, hflush', -⟩ := hR'.flush h'
    simp only [Call.perform, hflush, hflush']
  | hijack answer =>
    obtain ⟨_, hhijack, -⟩ := hR.hijack h answer
    obtain ⟨_, hhijack', -⟩ := hR'.hijack h' answer
    simp only [Call.perform, hhijack, hhijack']
  | errorReply code message =>
    simp only [Call.perform]
    split_ifs <;> rfl

/-- **So are any number of calls.** What a flush implies is no matter of the live headers. -/
theorem performAll_alike (hR : Transcribes flushed R) (hR' : Transcribes flushed' R') (h : R t w)
    (h' : R' t' w') (hheaders : t.headers = t'.headers) {calls : List Call}
    (hcalls : ∀ call ∈ calls, call.isFinal = true) :
    (Call.performAll calls w).1 = (Call.performAll calls w').1 := by
  induction calls generalizing t t' w w' with
  | nil => rfl
  | cons call calls ih =>
    have hcall := hcalls call List.mem_cons_self
    have hrest := ih (hR.perform h hcall) (hR'.perform h' hcall)
      (congrArg call.edited hheaders) fun later hlater =>
        hcalls later (List.mem_cons_of_mem _ hlater)
    simp only [Call.performAll]
    rw [hR.perform_alike hR' h h' hheaders call, hrest]

end Two

end Transcribes

end Sink

/-! ### The recorder -/

namespace Recorder

/-- A recorder without a connection, and what it has recorded. -/
structure Transcribed (t : Transcript) (r : Recorder) : Prop where
  headers : r.headers = t.headers
  sent : r.sent = t.sent
  body : r.body = t.body
  connection : r.connection = none
  hijacked : r.hijacked = false

theorem Transcribed.sendHead {t : Transcript} {r : Recorder} (h : Transcribed t r)
    (code : Status) : Transcribed (t.fix code) (r.sendHead code) := by
  unfold Recorder.sendHead Transcript.fix
  cases hsent : r.sent with
  | some head =>
    refine ⟨h.headers, ?_, h.body, h.connection, h.hijacked⟩
    rw [← h.sent, hsent, Option.some_or]
  | none =>
    refine ⟨h.headers, ?_, h.body, h.connection, h.hijacked⟩
    rw [← h.sent, hsent, h.headers, Option.none_or]

/-- **A recorder transcribes**, and a flush implies nothing. -/
theorem transcribes : Sink.Transcribes none Transcribed where
  headers := fun h => h.headers
  setHeaders := fun h _ => ⟨rfl, h.sent, h.body, h.connection, h.hijacked⟩
  sendStatus := by
    intro t r h code _
    show Transcribed _ (r.sendStatus code)
    rw [Recorder.sendStatus, h.hijacked, if_neg Bool.false_ne_true]
    exact h.sendHead code
  write := by
    intro t r h data
    have hhead := h.sendHead 200
    -- a recorder that was not taken over takes all of the data
    refine ⟨_, if_neg (by rw [h.hijacked]; exact Bool.false_ne_true), hhead.headers, hhead.sent,
      ?_, hhead.connection, hhead.hijacked⟩
    exact congrArg (· ++ data) hhead.body
  flush := by
    intro t r h
    exact ⟨_, if_neg (by rw [h.hijacked]; exact Bool.false_ne_true), h.headers, h.sent, h.body,
      h.connection, h.hijacked⟩
  hijack := by
    intro t r h answer
    refine ⟨r, ?_, h⟩
    show r.hijack answer = _
    simp only [Recorder.hijack, h.hijacked, h.connection, if_neg Bool.false_ne_true]

/-- **The recorded head** is that of the transcript. -/
theorem Transcribed.head_eq {t : Transcript} {r : Recorder} (h : Transcribed t r) :
    r.head = t.head := by
  unfold head status sentHeaders Transcript.head
  rw [← h.sent, ← h.headers]
  cases r.sent <;> rfl

end Recorder

/-! ### The channel -/

namespace Polled

/-- **What arrives at the client** once nothing comes any more: a head and a body that is not
cut short. -/
def Delivers (p : Polled) (head : Head) (body : Bytes) : Prop :=
  p.channel.receiveHead.1 = .head head ∧ .cut ∉ p.toEnd.received ∧
    p.toEnd.received.flatMap Chunk.bytes = body

instance (p : Polled) (head : Head) (body : Bytes) : Decidable (p.Delivers head body) :=
  inferInstanceAs (Decidable (_ ∧ _ ∧ _))

/-- A channel whose client wants the head and the body, and what it was given. -/
structure Transcribed (t : Transcript) (p : Polled) : Prop where
  headWanted : p.channel.headWanted = true
  bodyWanted : p.channel.bodyWanted = true
  headers : p.channel.headers = t.headers
  sent : p.channel.sent = t.sent
  /-- The head waits for the client. -/
  waiting : p.channel.waiting = p.channel.sent
  uncut : .cut ∉ p.chunks
  body : p.chunks.flatMap Chunk.bytes ++ p.channel.pending = t.body

namespace Transcribed

variable {t : Transcript} {p : Polled}

/-- **The client's turn** is no matter of the transcript. -/
theorem turn (h : Transcribed t p) : Transcribed t p.turn := by
  obtain ⟨hchunks, hrest⟩ := p.turn_spec
  have hpart {α : Type} (part : Channel → α) (hpart : ∀ c, part c.unqueued = part c) :
      part p.turn.channel = part p.channel := by
    rw [← hpart p.turn.channel, hrest, hpart]
  have hsent := hpart Channel.sent fun _ => rfl
  refine ⟨(hpart Channel.headWanted fun _ => rfl).trans h.headWanted,
    (hpart Channel.bodyWanted fun _ => rfl).trans h.bodyWanted,
    (hpart Channel.headers fun _ => rfl).trans h.headers, hsent.trans h.sent, ?_, ?_, ?_⟩
  · rw [hpart Channel.waiting fun _ => rfl, hsent]
    exact h.waiting
  · rw [hchunks]
    exact h.uncut
  · rw [hchunks, hpart Channel.pending fun _ => rfl]
    exact h.body

/-- **The head is sent**, unless it was. -/
theorem sendHead (h : Transcribed t p) (code : Status) :
    Transcribed (t.fix code) { p with channel := p.channel.sendHead code } := by
  unfold Channel.sendHead Transcript.fix
  cases hsent : p.channel.sent with
  | some head =>
    refine ⟨h.headWanted, h.bodyWanted, h.headers, ?_, h.waiting, h.uncut, h.body⟩
    rw [← h.sent, hsent, Option.some_or]
  | none =>
    refine ⟨h.headWanted, h.bodyWanted, h.headers, ?_, ?_, h.uncut, h.body⟩
    · rw [← h.sent, hsent, h.headers, Option.none_or]
    · exact if_pos h.headWanted

/-- **What is pending is queued.** -/
theorem push (h : Transcribed t p) :
    ∃ c, p.channel.push = (.ok (), c) ∧ c.pending = [] ∧ Transcribed t { p with channel := c } := by
  unfold Channel.push
  split_ifs with hpending hwanted
  · exact ⟨_, rfl, List.isEmpty_iff.mp hpending, h⟩
  · refine ⟨_, rfl, rfl, h.headWanted, h.bodyWanted, h.headers, h.sent, h.waiting, ?_, ?_⟩
    · have huncut := h.uncut
      simp only [chunks] at huncut ⊢
      simpa using huncut
    · rw [← h.body]
      simp [chunks, Chunk.bytes]
  · exact absurd h.bodyWanted hwanted

/-- Bytes are written, and taken whole. -/
theorem write (h : Transcribed t p) (data : Bytes) :
    ∃ c, p.channel.write data = (.accepted data.length, c) ∧
      Transcribed (t.add data) { p with channel := c } := by
  have hhead := h.sendHead 200
  have hadded : Transcribed (t.add data) { p with channel := { p.channel.sendHead 200 with
      pending := (p.channel.sendHead 200).pending ++ data } } := by
    refine ⟨hhead.headWanted, hhead.bodyWanted, hhead.headers, hhead.sent, hhead.waiting,
      hhead.uncut, ?_⟩
    rw [Transcript.add, ← h.body, ← List.append_assoc]
    exact congrArg (· ++ data) (hhead.body.trans h.body.symm)
  unfold Channel.write
  simp only
  split_ifs with hshort
  · exact ⟨_, rfl, hadded⟩
  · obtain ⟨c, hpush, -, hc⟩ := hadded.push
    rw [hpush]
    exact ⟨c, rfl, hc⟩

/-- **The end of the response** delivers the head and the body. -/
theorem finish (h : Transcribed t p) : p.finish.Delivers t.head t.body := by
  obtain ⟨c, hpush, hempty, hc⟩ := (h.sendHead 200).push
  have hfinish : p.finish = { p with channel := { c with ended := true } } := by
    rw [Polled.finish, Channel.finish, hpush]
  have hall : p.finish.toEnd.received = chunks { p with channel := c } := by
    rw [received_toEnd, hfinish]
    rfl
  refine ⟨?_, ?_, ?_⟩
  · -- the end implies a status at the latest
    have hwaiting : p.finish.channel.waiting = some t.head := by
      rw [hfinish]
      show c.waiting = _
      rw [hc.waiting, hc.sent, Transcript.fix, Transcript.head]
      cases t.sent <;> rfl
    rw [Channel.receiveHead, hwaiting]
  · rw [hall]
    exact hc.uncut
  · have hbody := hc.body
    rw [show ({ p with channel := c } : Polled).channel.pending = [] from hempty,
      List.append_nil] at hbody
    rw [hall]
    exact hbody

end Transcribed

/-- **A channel transcribes**, and a flush implies `200`. -/
theorem transcribes : Sink.Transcribes (some 200) Transcribed where
  headers := fun h => h.headers
  setHeaders := fun h _ =>
    ⟨h.headWanted, h.bodyWanted, rfl, h.sent, h.waiting, h.uncut, h.body⟩
  sendStatus := by
    intro t p h code hcode
    show Transcribed _ { p.turn with channel := p.turn.channel.sendStatus code }
    rw [Channel.sendStatus, if_pos hcode]
    exact h.turn.sendHead code
  write := by
    intro t p h data
    -- the client may take its turn before each call, which leaves the transcript as it is
    obtain ⟨c, hwrite, hc⟩ := h.turn.write data
    refine ⟨_, ?_, hc⟩
    show p.write data = _
    rw [Polled.write, hwrite]
  flush := by
    intro t p h
    obtain ⟨c, hpush, -, hc⟩ := (h.turn.sendHead 200).push
    refine ⟨_, ?_, hc⟩
    show p.flush = _
    simp only [Polled.flush, Channel.flush, hpush]
  hijack := fun h _ => ⟨_, rfl, h.turn⟩

theorem transcribed_start (polls : List Nat) : Transcribed {} { polls } :=
  ⟨rfl, rfl, rfl, rfl, rfl, by simp [chunks], rfl⟩

/-- **What a channel delivers** after some calls and the end. -/
theorem delivers_fixed (polls : List Nat) {calls : List Call}
    (hcalls : ∀ call ∈ calls, call.isFinal = true) :
    (Call.performAll calls ({ polls } : Polled)).2.finish.Delivers
      (Call.fixed (some 200) {} calls) (calls.flatMap Call.data) := by
  have hdelivers := (transcribes.performAll (transcribed_start polls) hcalls).finish
  rwa [Transcript.head_foldl rfl, Transcript.body_foldl] at hdelivers

end Polled

/-! ### The one against the other -/

namespace Recorder

/-- **What a recorder shows of a head**: its status, and of each header the values that are visible,
in their order. -/
structure Shows (r : Recorder) (head : Head) : Prop where
  status : r.status = head.status
  headerAll : ∀ name, (r.headerAll name).map Bytes.ofString
    = (head.values name).filter fun value => value.all isVisibleByte
  /-- The first value, if there is one and it is visible. -/
  header : ∀ name, (r.header? name).map Bytes.ofString
    = (head.values name).head?.filter fun value => value.all isVisibleByte

/-- **A recorder shows its own head.** -/
theorem shows_head (r : Recorder) : r.Shows r.head where
  status := rfl
  headerAll := by
    intro name
    unfold headerAll
    -- value by value: one that is not visible text is dropped on both sides
    induction r.head.values name with
    | nil => rfl
    | cons value values ih =>
      by_cases hvisible : value.all isVisibleByte = true
      · have htext : visibleText? value = some value.toAscii := if_pos hvisible
        rw [List.filterMap_cons_some htext, List.map_cons, ofString_toAscii_of_visible hvisible, ih,
          List.filter_cons, if_pos hvisible]
      · have htext : visibleText? value = none := if_neg hvisible
        rw [List.filterMap_cons_none htext, ih, List.filter_cons, if_neg hvisible]
  header := by
    intro name
    unfold header?
    cases (r.head.values name).head? with
    | none => rfl
    | some value =>
      by_cases hvisible : value.all isVisibleByte = true
      · have htext : visibleText? value = some value.toAscii := if_pos hvisible
        rw [Option.bind_some, htext, Option.map_some, ofString_toAscii_of_visible hvisible]
        exact (if_pos hvisible).symm
      · have htext : visibleText? value = none := if_neg hvisible
        rw [Option.bind_some, htext]
        exact (if_neg hvisible).symm

/-- **All values of a header are shown** if and only if all of them are visible. -/
theorem Shows.headerAll_eq_iff {r : Recorder} {head : Head} (h : r.Shows head) (name : Bytes) :
    (r.headerAll name).map Bytes.ofString = head.values name ↔
      ∀ value ∈ head.values name, value.all isVisibleByte = true := by
  rw [h.headerAll, List.filter_eq_self]

end Recorder

/-- **What a recorder shows of a channel.** The same calls, without an interim status, are
performed on both; the client polls when it wants, and the response is finished.

* Each call is replied to in the same way.
* The body is the same in any case.
* A channel fixes the head at the first status, write or flush; a recorder does so at the first
  status or write. Each has the headers of its moment.
* So the recorder shows the delivered head if the calls are made without their flushes, and for all
  of them if a status or a write comes before the first flush.
* What it shows of a delivered header is all of it if and only if all its values are visible. -/
theorem Recorder.shows_delivered (polls : List Nat) (calls : List Call)
    (hcalls : ∀ call ∈ calls, call.isFinal = true) :
    let recorded := Call.performAll calls ({} : Recorder)
    let sent (calls : List Call) := Call.performAll calls ({ polls } : Polled)
    let head := Call.fixed none {} calls
    recorded.1 = (sent calls).1 ∧
      recorded.2.head = head ∧ recorded.2.Shows head ∧
      (sent calls).2.finish.Delivers (Call.fixed (some 200) {} calls) recorded.2.body ∧
      (sent (calls.filter (· ≠ .flush))).2.finish.Delivers head recorded.2.body ∧
      (Call.FlushesLate calls → (sent calls).2.finish.Delivers head recorded.2.body) ∧
      ∀ name, (recorded.2.headerAll name).map Bytes.ofString = head.values name ↔
        ∀ value ∈ head.values name, value.all isVisibleByte = true := by
  intro recorded sent head
  have hstart : Recorder.Transcribed {} {} := ⟨rfl, rfl, rfl, rfl, rfl⟩
  have hrecorded := Recorder.transcribes.performAll hstart hcalls
  have hhead : recorded.2.head = head :=
    hrecorded.head_eq.trans (Transcript.head_foldl rfl calls)
  have hshows : recorded.2.Shows head := hhead ▸ recorded.2.shows_head
  have hbody : recorded.2.body = calls.flatMap Call.data :=
    hrecorded.body.trans (Transcript.body_foldl {} calls)
  have hdelivered := Polled.delivers_fixed polls hcalls
  rw [← hbody] at hdelivered
  refine ⟨?_, hhead, hshows, hdelivered, ?_, fun hlate => ?_, hshows.headerAll_eq_iff⟩
  · exact Recorder.transcribes.performAll_alike Polled.transcribes hstart
      (Polled.transcribed_start polls) rfl hcalls
  -- without its flushes the client gets the same body under the head of the last moment
  · have hfinal : ∀ call ∈ calls.filter (· ≠ .flush), call.isFinal = true :=
      fun call hcall => hcalls call (List.mem_of_mem_filter hcall)
    have hunflushed := Polled.delivers_fixed polls hfinal
    rw [Call.fixed_unflushed, Transcript.data_unflushed, ← hbody] at hunflushed
    exact hunflushed
  · rw [Call.fixed_flushed (some 200) {} hlate] at hdelivered
    exact hdelivered

/-- A flush after the status, and headers that are edited when they are on their way. The client
receives what is recorded, and one value more than is shown. -/
theorem Recorder.shows_delivered_late :
    let calls : List Call :=
      [.set [120] [49], .append [120] [233], .status 404, .flush, .write [1, 2], .set [120] [50]]
    let recorded : Recorder := (Call.performAll calls {}).2
    let client := (Call.performAll calls ({ polls := [1] } : Polled)).2.finish
    client.Delivers ⟨404, ⟨[("x", [49]), ("x", [233])]⟩⟩ recorded.body ∧ recorded.status = 404 ∧
      recorded.headerAll [120] = ["1"] ∧ recorded.body = [1, 2] := by
  intro calls recorded client
  obtain ⟨-, -, hshows, -, -, hlate, -⟩ := Recorder.shows_delivered [1] calls (by decide)
  exact ⟨hlate (by decide), hshows.status, by decide +kernel, rfl⟩

/-- **A flush that is not shown.** It sends the client a head, and nothing that comes later changes
that head. What is recorded has the later status and the later header. -/
theorem Recorder.flush_unshown :
    let calls : List Call := [.flush, .set (Bytes.ofString "x-late") [49], .status 404]
    let recorded : Recorder := (Call.performAll calls {}).2
    let client := (Call.performAll calls ({} : Polled)).2.finish
    client.Delivers ⟨200, {}⟩ [] ∧ recorded.status = 404 ∧
      recorded.headerAll (Bytes.ofString "x-late") = ["1"] := by
  decide +kernel

end HttpPipeline
