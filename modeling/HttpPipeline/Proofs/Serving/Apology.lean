import HttpPipeline.Proofs.Response.Reply
import HttpPipeline.Proofs.Serving.Recovered

/-!
# Whether a client can read an error reply

A client undoes the codings that the head of a response declares for its body, if it knows them
(`Client.read?`). A reply that reports an error replaces the type and withdraws the length of
whatever response was prepared before it, but it leaves the codings as they stand. So what becomes
of it depends on the headers that were left behind and on the layers that the reply goes through
(`Client.Gets`).

* A compression layer that compresses the reply declares its own coding in place of those that
  stood, and the client reads the reply.
* Otherwise the body is the plain text. If no coding was left behind the client reads it. If one
  was, the client undoes what was never done and reads nothing, since no text is a member
  (`Member.decode?_line`).

`Tower.errorReply_read` says this of any reply, and so of the apology after a failure, through any
layers. `Recovery.apology_unreadable` is a failure that the client cannot read.
-/

namespace HttpPipeline

/-! ### Text is no member -/

namespace Bytes

/-- The first byte of a character is all of it, or says how many more follow. -/
theorem utf8_lead {c : Char} {b : UInt8} {rest : Bytes} (h : String.utf8EncodeChar c = b :: rest) :
    b < 128 ∧ rest = [] ∨ 192 ≤ b := by
  simp only [String.utf8EncodeChar] at h
  split_ifs at h with hone htwo hthree
  all_goals obtain ⟨rfl, rfl⟩ := List.cons.inj h
  · refine .inl ⟨?_, rfl⟩
    rw [UInt8.lt_iff_toNat_lt, UInt8.toNat_ofNat']
    show _ < 128
    omega
  -- a character of several bytes
  all_goals
    right
    rw [UInt8.le_iff_toNat_le, UInt8.toNat_ofNat']
    show 192 ≤ _
    omega

/-- **A line of text** does not start in the middle of a character. What follows a character of
one byte is the rest of the line, if there is more. -/
theorem line_lead {cs : List Char} {b : UInt8} {rest : Bytes} (h : ofChars cs ++ [10] = b :: rest) :
    b < 128 ∧ (rest = [] ∨ ∃ later, rest = ofChars later ++ [10]) ∨ 192 ≤ b := by
  cases cs with
  | nil =>
    obtain ⟨rfl, rfl⟩ := List.cons.inj h
    exact .inl ⟨by decide, .inl rfl⟩
  | cons c cs =>
    have hform : String.utf8EncodeChar c ++ (ofChars cs ++ [10]) = b :: rest := by
      rw [← h, ← List.append_assoc]
      rfl
    -- a character has one byte at least, and its first tells how many there are
    cases hc : String.utf8EncodeChar c with
    | nil =>
      have hlength := String.length_utf8EncodeChar c
      rw [hc] at hlength
      exact absurd hlength.symm (Nat.ne_of_gt c.utf8Size_pos)
    | cons lead others =>
      rw [hc] at hform
      obtain ⟨rfl, rfl⟩ := List.cons.inj hform
      refine (utf8_lead hc).imp_left fun ⟨hascii, hnone⟩ => ⟨hascii, .inr ⟨cs, ?_⟩⟩
      rw [hnone]
      rfl

end Bytes

/-- **No line of text is a member.** The second byte of a member could only be in the middle of a
character, and the first byte is a character. -/
theorem Member.decode?_line (message : String) : decode? (Sink.replyBody message) = none := by
  have hplain : ¬ header <+: Sink.replyBody message := by
    rintro ⟨rest, hrest⟩
    rcases Bytes.line_lead hrest.symm with ⟨-, hnone | ⟨later, hlater⟩⟩ | hlead
    · exact absurd hnone (by simp)
    · rcases Bytes.line_lead hlater.symm with ⟨hascii, -⟩ | hlead
      · exact absurd hascii (by decide)
      · exact absurd hlead (by decide)
    · exact absurd hlead (by decide)
  rw [decode?, body?, if_neg (by rwa [List.isPrefixOf_iff_prefix])]
  rfl

/-! ### What a client reads -/

namespace Client

/-- **The codings** that are declared for a body, in lower case. The coding `identity` is none. -/
def codings (headers : Headers) : List String :=
  let members := (headers.values "content-encoding").flatMap fun value =>
    (Text.splitOn ',' value.toAscii.toList).map fun member =>
      String.ofList (Text.lower (Text.trim member))
  members.filter fun coding => coding != "" && coding != "identity"

/-- **What a client reads** from a body. It knows the coding `gzip` and no other. -/
def read? (headers : Headers) (body : Bytes) : Option Bytes :=
  if codings headers = [] then some body
  else if codings headers = ["gzip"] then Member.decode? body
  else none

/-- **What a client gets** of a reply, where some headers were left behind: the plain text, which
it can read if no coding was left behind, or a member, which it can read. -/
inductive Gets (left : Headers) (message : String) (seen : Headers) (body : Bytes) : Prop
  | plain (hcodings : codings seen = codings left) (hbody : body = Sink.replyBody message)
    (hread : read? seen body = if codings left = [] then some body else none)
  | member (hplain : left.nonempty? "content-encoding" = none)
    (hbody : Member.Holds body (Sink.replyBody message))
    (hread : read? seen body = some (Sink.replyBody message))

/-- **A reply that has arrived** at a sink: its status, and what a client gets of it. -/
structure Answered {σ : Type} [Sink σ] (sent : σ → Option Head) (left : Headers) (code : Status)
    (message : String) (t : Traced σ) : Prop where
  status : t.statuses = [code]
  length : (Sink.carried sent t.sink).values "content-length" = []
  gets : Gets left message (Sink.carried sent t.sink) t.body

theorem codings_congr {headers headers' : Headers}
    (h : headers.values "content-encoding" = headers'.values "content-encoding") :
    codings headers = codings headers' := by
  rw [codings, h, codings]

/-- The coding that a compression layer declares. -/
theorem codings_compressedHeaders (headers : Headers) (buffer : Bytes) :
    codings (GzipLayer.compressedHeaders headers buffer) = ["gzip"] := by
  rw [codings, GzipLayer.compressedHeaders_encoding]
  decide

/-- **Plain text** can be read if no coding is declared for it. -/
theorem read?_plain (headers : Headers) (message : String) :
    read? headers (Sink.replyBody message) =
      if codings headers = [] then some (Sink.replyBody message) else none := by
  rw [read?, Member.decode?_line, ite_self]

/-- A member can be read if it is declared. -/
theorem read?_member {headers : Headers} {member data : Bytes} (h : codings headers = ["gzip"])
    (hmember : Member.Holds member data) : read? headers member = some data := by
  rw [read?, h, if_neg (by simp), if_pos rfl, hmember.decode]

/-- The reply leaves the content encoding as it stands. -/
theorem values_replyHeaders (headers : Headers) :
    (Sink.replyHeaders headers).values "content-encoding" = headers.values "content-encoding" := by
  rw [Sink.replyHeaders, Headers.values_insert_of_ne _ _ (by decide),
    Headers.values_insert_of_ne _ _ (by decide), Headers.values_remove_of_ne _ (by decide)]

/-- The reply has no length. -/
theorem length_replyHeaders (headers : Headers) :
    (Sink.replyHeaders headers).values "content-length" = [] := by
  rw [Sink.replyHeaders, Headers.values_insert_of_ne _ _ (by decide),
    Headers.values_insert_of_ne _ _ (by decide), Headers.values_remove_self]

/-- **What a client gets** of a reply that has gone through layers. -/
theorem Answered.ofArrives {σ : Type} [Sink σ] {P : σ → Prop} {sent : σ → Option Head}
    {left : Headers} {code : Status} {message : String} {head : Head} {body : Bytes} {t : Traced σ}
    (harrives : Arrives ⟨code, Sink.replyHeaders left⟩ (Sink.replyBody message) head body)
    (h : t.Bears P sent head body) : Answered sent left code message t := by
  have hbody := h.body
  have hseen := h.carried
  have hcodings := codings_congr (values_replyHeaders left)
  cases harrives with
  | plain =>
    -- the coding that is seen is the one that was left behind, and the body is text
    refine ⟨h.statuses, by rw [hseen, length_replyHeaders], .plain ?_ hbody ?_⟩
    · rw [hseen, hcodings]
    · rw [hbody, read?_plain, hseen, hcodings]
  | member hplain buffer hcoded =>
    -- the layer went by the coding of the reply, which is the one that was left behind
    refine ⟨h.statuses, by rw [hseen, GzipLayer.compressedHeaders_length], .member ?_ ?_ ?_⟩
    · rwa [Headers.nonempty?, Headers.get?, values_replyHeaders] at hplain
    · rwa [hbody]
    · rw [hseen, hbody]
      exact read?_member (codings_compressedHeaders _ buffer) hcoded

/-- Where no coding was left behind, the client reads the reply. -/
theorem Gets.read {left : Headers} {message : String} {seen : Headers} {body : Bytes}
    (h : Gets left message seen body) (hleft : codings left = []) :
    read? seen body = some (Sink.replyBody message) := by
  cases h with
  | plain _ hbody hread => rw [hread, if_pos hleft, hbody]
  | member _ _ hread => exact hread

end Client

/-! ### Error replies -/

/-- Header edits leave a commit layer as it is. -/
theorem CommitLayer.edited {ω : Type} [Sink ω] (edits : List Headers) (l : CommitLayer ω) :
    edits.foldl Sink.setHeaders l = { l with inner := edits.foldl Sink.setHeaders l.inner } := by
  induction edits generalizing l with
  | nil => rfl
  | cons edit edits ih => exact ih (Sink.setHeaders l edit)

/-- **The stage that recovers** from a failure before which only headers were set. -/
theorem Recovery.serve_panicked {ε σ : Type} [Deflater ε] [Sink σ]
    (inner : List (Stage (GzipStream ε)))
    (handler : Handler (GzipStream ε) σ) (request : Request) (s : Stack)
    (w : s.Writer (GzipStream ε) σ) (world : World)
    (edits : List Headers) {payload : Panic} (hpayload : payload ≠ .abort) :
    let layer : CommitLayer (s.Writer (GzipStream ε) σ) := { inner := w }
    let run := (Chain.serve inner handler request (.commit s) layer (enter world)).1
    run.ending = .panicked payload → run.writer = edits.foldl Sink.setHeaders layer →
      (Chain.serve (.recovery :: inner) handler request s w world).1.writer =
        Sink.errorReply (edits.foldl Sink.setHeaders w) 500 apology := by
  intro layer run hpanicked hwriter
  have hleave : (leave request run).writer = _ := (leave_panicked request hpanicked hpayload).2.1
  have hlayer : run.writer = { layer with inner := edits.foldl Sink.setHeaders w } :=
    hwriter.trans (CommitLayer.edited edits layer)
  rw [hlayer] at hleave
  exact hleave

namespace Tower

variable {ε σ : Type} [Deflater ε] [Sink σ] {P : σ → Prop} {sent : σ → Option Head}

/-- **What a client gets of an error reply.** Let layers of any number, kind and order stand over a
sink that has not sent its head and whose writes do not fail for good. Let any headers be set, one
after the other, then a reply be made, and the tower be closed. The reply has arrived with its
status and without a length, and the client can read it if no coding was left behind. A coding that
was left behind is still declared and keeps the client from reading, unless a layer compressed the
reply; it does so only if the first value of the content encoding is empty or missing.

In particular, this holds of the apology after a failure, whatever stages and whatever handler are
inside the stage that recovers, if all that they did to the response was to set these headers. -/
theorem errorReply_read (hε : Deflater.EndsDecodable ε) (hP : Sink.Reliable P)
    (hsent : Sink.SendsHead sent) {sink : σ} (hsink : P sink) (hunsent : sent sink = none)
    (kinds : List LayerKind) (edits : List Headers) :
    let tower : Tower (GzipStream ε) (Traced σ) := ofLayers { sink } kinds
    let edited := edits.foldl Sink.setHeaders tower.writer
    let left := Sink.headers edited
    let closed (w : tower.shape.Writer (GzipStream ε) (Traced σ)) : Traced σ :=
      (tower.shape.unwind [] w).2
    (∀ code message,
      Client.Answered sent left code message (closed (Sink.errorReply edited code message))) ∧
    ∀ (inner : List (Stage (GzipStream ε))) (handler : Handler (GzipStream ε) (Traced σ))
      (request : Request)
      (world : World) (payload : Panic), payload ≠ .abort →
      let layer : CommitLayer (tower.shape.Writer (GzipStream ε) (Traced σ)) :=
        { inner := tower.writer }
      let run := (Chain.serve inner handler request (.commit tower.shape) layer
        (Recovery.enter world)).1
      run.ending = .panicked payload → run.writer = edits.foldl Sink.setHeaders layer →
      Client.Answered sent left 500 Recovery.apology
        (closed (Chain.serve (.recovery :: inner) handler request tower.shape tower.writer
          world).1.writer) := by
  intro tower edited left closed
  have hR := Traced.replies hP hsent
  have htower := tower.shape.replies (ε := ε) hR
  -- the tower stays fresh while headers are set, and then bears the reply
  have hstart : tower.shape.Fresh (Traced.Fresh P sent) (Sink.headers sink) tower.writer :=
    fresh_ofLayers ⟨hsink, hunsent, rfl, rfl⟩ kinds
  obtain ⟨headers, hedited⟩ := htower.edited hstart edits
  have hleft : left = headers := htower.headers hedited
  have hanswered (code : Status) (message : String) :
      Client.Answered sent left code message (closed (Sink.errorReply edited code message)) := by
    -- the layers close from the top, and each keeps the reply readable
    obtain ⟨head, body, harrives, hbears⟩ :=
      tower.shape.unwind_bears hε hR (htower.errorReply hedited code message)
    rw [hleft]
    exact .ofArrives harrives hbears
  refine ⟨hanswered, ?_⟩
  intro inner handler request world payload hpayload layer run hpanicked hwriter
  rw [Recovery.serve_panicked inner handler request tower.shape tower.writer world edits hpayload
    hpanicked hwriter]
  exact hanswered 500 Recovery.apology

/-- A length that was left behind, before a reply that a layer compresses and before a failure
behind a stage that keeps the access log. -/
theorem errorReply_read_length :
    let length : Headers := Headers.empty.append "content-length" [0x35]
    let tower : Tower Stored (Traced Recorder) := ofLayers { sink := {} } [.status, .gzip 4 6]
    let closed (w : tower.shape.Writer Stored (Traced Recorder)) : Traced Recorder :=
      (tower.shape.unwind [] w).2
    let read? (t : Traced Recorder) : Option Bytes :=
      Client.read? (Sink.carried Recorder.sent t.sink) t.body
    let replied := closed
      (Sink.errorReply (Sink.setHeaders tower.writer length) 429 "Too Many Requests")
    let script : Script :=
      [.call (.set (Bytes.ofString "content-length") [0x35]), .panic (.fixed "x") true]
    let recovered := closed
      (Chain.serve [.recovery, .logging] script.handler {} tower.shape tower.writer {}).1.writer
    (Client.Answered Recorder.sent length 429 "Too Many Requests" replied ∧
      read? replied = some (Sink.replyBody "Too Many Requests")) ∧
    Client.Answered Recorder.sent length 500 "Internal Server Error" recovered ∧
      read? recovered = some (Sink.replyBody "Internal Server Error") := by
  intro length tower closed read? replied script recovered
  -- no coding is left over, so the client reads the bytes as they are
  have hplain : Client.codings length = [] := by decide
  have hsink : ({} : Recorder).hijacked = false := rfl
  obtain ⟨hreply, hrecover⟩ := errorReply_read (Deflater.endsDecodable StoredBlocks)
    Recorder.reliable Recorder.sendsHead hsink rfl [.status, .gzip 4 6] [length]
  have hreplied := hreply 429 "Too Many Requests"
  have hrecovered := hrecover [.logging] script.handler {} {} (.fixed "x") (by decide) rfl rfl
  exact ⟨⟨hreplied, hreplied.gets.read hplain⟩, hrecovered, hrecovered.gets.read hplain⟩

end Tower

/-- **A failure that the client cannot read about.** The handler declares its body as compressed
and fails before it writes. The apology is plain text, and is still declared as compressed. -/
theorem Recovery.apology_unreadable :
    let script : Script :=
      [.call (.set (Bytes.ofString "content-encoding") (Bytes.ofString "gzip")),
        .panic (.fixed "x") true]
    let run := (Chain.serve [.recovery] (script.handler : Handler Stored Recorder) {} .bottom
      ({} : Recorder) {}).1
    let sink : Recorder := run.writer
    run.ending = .returned ∧ sink.status = 500 ∧
      sink.sentHeaders.values "content-encoding" = [Bytes.ofString "gzip"] ∧
      sink.body = Bytes.ofString "Internal Server Error\n" ∧
      Client.read? sink.sentHeaders sink.body = none := by
  intro script run sink
  let left : Headers := Headers.empty.append "content-encoding" (Bytes.ofString "gzip")
  have hreply : sink = Sink.errorReply ({ headers := left } : Recorder) 500 apology :=
    serve_panicked [] script.handler {} .bottom ({} : Recorder) {} [left] (by decide) rfl rfl
  -- the reply keeps the coding that the handler left behind
  have hwritten : sink = { headers := Sink.replyHeaders left
                           sent := some ⟨500, Sink.replyHeaders left⟩
                           body := Sink.replyBody apology } := by
    rw [hreply]
    exact congrArg Prod.snd (Sink.writeAll_of_write (by decide) rfl)
  rw [hwritten]
  decide +kernel

end HttpPipeline
