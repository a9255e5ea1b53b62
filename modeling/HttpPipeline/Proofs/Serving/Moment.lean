import HttpPipeline.Proofs.Serving.Origins
import Mathlib.Data.List.Infix

/-!
# The moment at which the head is sent

Headers may be edited before the head is sent and after. What the client sees of them is what
stands when the first request arrives that sends the head. Through a tower of layers this may be
any request: a layer that compresses holds a status back until it has decided.

Some calls of a handler edit headers, and the rest ask for something that may send the head. So
there is a moment between two calls such that the head is not sent before it, is sent by the call
that follows, and has the values that the calls before it have made (`Stack.exists_moment`). This
holds of all headers that no layer edits. It takes a sink that sends its head once
(`Sink.FixesHead`).
-/

namespace HttpPipeline

namespace Sink

variable {ω : Type} [Sink ω]

namespace Outlasts

variable {P : ω → Prop} {w : ω}

/-- What no request ends is not ended by requests of some kinds. -/
theorem of_all (hP : Outlasts .all P) (kinds : Requests) : Outlasts kinds P :=
  ⟨fun h _ _ => hP.setHeaders h trivial, fun h => hP.sendStatus h, fun h => hP.write h,
    fun _ _ h => hP.flush trivial h, fun _ _ h => hP.hijack trivial h⟩

/-- **Any number of calls** are made of requests. -/
theorem callAll (hP : Outlasts .all P) (h : P w) (calls : List Call) :
    P (Call.performAll calls w).2 := by
  induction calls generalizing w with
  | nil => exact h
  | cons call calls ih => exact ih (hP.call h call)

end Outlasts

/-- **A head that is sent once.** It is a picture of the live headers, and stays as it is. -/
structure FixesHead (sent : ω → Option Head) : Prop extends SendsHead sent where
  keeps : ∀ head, Outlasts .all fun w => sent w = some head

variable {sent : ω → Option Head} {names : String → Bool}

/-- **The client sees** a head that was sent, whatever comes after. -/
theorem FixesHead.carried_of_sent (hsent : FixesHead sent) {w later : ω} {head : Head}
    {kinds : Requests} (hw : sent w = some head) (h : Reached kinds w later) :
    carried sent later = head.headers := by
  have hkept := ((hsent.keeps head).of_all kinds).reached hw h
  rw [carried, hkept]
  rfl

end Sink

/-! ### Sinks that send their head once -/

theorem Recorder.fixesHead : Sink.FixesHead Recorder.sent where
  toSendsHead := Recorder.sendsHead
  keeps := by
    intro head
    -- a head that went out is not replaced by another
    have hhead {r : Recorder} (h : r.sent = some head) (code : Status) :
        (r.sendHead code).sent = some head := by
      rw [Recorder.sendHead, h]
      exact h
    refine ⟨fun h _ _ => h, fun {r} h code => ?_, fun {r} h data => ?_, fun _ {r} h => ?_,
      fun _ {r} h answer => ?_⟩
    · show (r.sendStatus code).sent = _
      unfold Recorder.sendStatus
      split_ifs
      · exact h
      · exact hhead h code
    · show (r.write data).2.sent = _
      unfold Recorder.write
      split_ifs
      · exact h
      · exact hhead h 200
    · show r.flush.2.sent = _
      unfold Recorder.flush
      split_ifs <;> exact h
    · show (r.hijack answer).2.sent = _
      unfold Recorder.hijack
      split_ifs
      · exact h
      · split <;> exact h

theorem Channel.fixesHead : Sink.FixesHead Channel.sent where
  toSendsHead := Channel.sendsHead
  keeps := by
    intro head
    have hhead {c : Channel} (h : c.sent = some head) (code : Status) : c.sendHead code = c := by
      rw [Channel.sendHead, h]
    refine ⟨fun h _ _ => h, fun {c} h code => ?_, fun {c} h data => ?_, fun _ {c} h => ?_,
      fun _ _ h _ => h⟩
    · show (c.sendStatus code).sent = _
      unfold Channel.sendStatus
      split_ifs
      · rw [hhead h]
        exact h
      · exact h
    · show (c.write data).2.sent = _
      -- the push moves bytes and leaves the head where it is
      have hpush := (Channel.push_head { c with pending := c.pending ++ data }).2
      unfold Channel.write
      simp only [hhead h]
      split_ifs
      · exact h
      · split <;> rename_i heq <;> rw [heq] at hpush <;> exact hpush.trans h
    · show c.flush.2.sent = _
      have hpush := (Channel.push_head c).2
      unfold Channel.flush
      simp only [hhead h]
      split <;> rename_i heq <;> rw [heq] at hpush <;> exact hpush.trans h

/-- A client that polls does not change the head. -/
theorem Polled.fixesHead : Sink.FixesHead fun p : Polled => p.channel.sent where
  toSendsHead := Polled.sendsHead
  keeps := by
    intro head
    have hturn {p : Polled} (h : p.channel.sent = some head) :
        p.turn.channel.sent = some head := by
      have hsame : p.turn.channel.unqueued.sent = p.channel.unqueued.sent := by
        rw [p.turn_spec.2]
      exact hsame.trans h
    have hchannel := Channel.fixesHead.keeps head
    exact ⟨fun h _ _ => h, fun h code => hchannel.sendStatus (hturn h) code,
      fun h data => hchannel.write (hturn h) data, fun _ _ h => hchannel.flush trivial (hturn h),
      fun _ _ h _ => hturn h⟩

/-! ### Calls and the headers they edit -/

namespace Call

/-- The headers after some calls. -/
def editedAll (calls : List Call) (headers : Headers) : Headers :=
  calls.foldl (fun headers call => call.edited headers) headers

/-- Whether a call takes values from a header, by setting or removing it. -/
def loses (name : String) : Call → Bool
  | .set field value => fieldName? field == some name && isFieldValue value
  | .remove field => fieldName? field == some name
  | _ => false

variable {names : String → Bool} {name : String}

/-- The values of a header after an edit depend on its values before. -/
theorem values_edited_congr (call : Call) {h h' : Headers}
    (hsame : h.values name = h'.values name) :
    (call.edited h).values name = (call.edited h').values name := by
  -- one edit of one field
  have hinsert (field : String) (value : Bytes) {h h' : Headers}
      (hsame : h.values name = h'.values name) :
      (h.insert field value).values name = (h'.insert field value).values name := by
    by_cases hfield : name = field
    · rw [hfield, Headers.values_insert_self, Headers.values_insert_self]
    · rw [Headers.values_insert_of_ne _ _ hfield, Headers.values_insert_of_ne _ _ hfield, hsame]
  have hremove (field : String) {h h' : Headers} (hsame : h.values name = h'.values name) :
      (h.remove field).values name = (h'.remove field).values name := by
    by_cases hfield : name = field
    · rw [hfield, Headers.values_remove_self, Headers.values_remove_self]
    · rw [Headers.values_remove_of_ne _ hfield, Headers.values_remove_of_ne _ hfield, hsame]
  cases call with
  | set field value =>
    simp only [edited]
    split
    · split_ifs
      · exact hinsert _ value hsame
      · exact hsame
    · exact hsame
  | append field value =>
    simp only [edited]
    split
    · rename_i field' _
      split_ifs
      · by_cases hfield : name = field'
        · subst hfield
          rw [Headers.values_append_self, Headers.values_append_self, hsame]
        · rw [Headers.values_append_of_ne _ _ hfield, Headers.values_append_of_ne _ _ hfield, hsame]
      · exact hsame
    · exact hsame
  | remove field =>
    simp only [edited]
    split
    · exact hremove _ hsame
    · exact hsame
  | errorReply code message =>
    simp only [edited]
    split_ifs
    · exact hinsert _ _ (hinsert _ _ (hremove _ hsame))
    · exact hsame
  | _ => exact hsame

theorem values_editedAll_congr (calls : List Call) {h h' : Headers}
    (hsame : h.values name = h'.values name) :
    (editedAll calls h).values name = (editedAll calls h').values name := by
  induction calls generalizing h h' with
  | nil => exact hsame
  | cons call calls ih => exact ih (call.values_edited_congr hsame)

/-- A reply that reports an error edits the headers that declare its body. -/
theorem values_replyHeaders (headers : Headers)
    (hname : name ∉ ["content-length", "content-type", "x-content-type-options"]) :
    (Sink.replyHeaders headers).values name = headers.values name := by
  simp only [List.mem_cons, List.not_mem_nil, or_false, not_or] at hname
  rw [Sink.replyHeaders, Headers.values_insert_of_ne _ _ hname.2.2,
    Headers.values_insert_of_ne _ _ hname.2.1, Headers.values_remove_of_ne _ hname.1]

/-- **The values stay**, at the front, if the call does not take them. -/
theorem prefix_values_edited {call : Call} (hcall : call.loses name = false)
    (hname : name ∉ ["content-length", "content-type", "x-content-type-options"])
    (headers : Headers) : headers.values name <+: (call.edited headers).values name := by
  cases call with
  | set field value =>
    simp only [edited]
    split
    -- a field of another name is set, for this one would be lost
    · rename_i field' hfield
      split_ifs with hvisible
      · have hne : name ≠ field' := by
          rintro rfl
          simp [loses, hfield, hvisible] at hcall
        rw [Headers.values_insert_of_ne _ _ hne]
      · exact List.prefix_rfl
    · exact List.prefix_rfl
  | append field value =>
    simp only [edited]
    split
    · rename_i field' _
      split_ifs
      · by_cases hfield : name = field'
        · subst hfield
          rw [Headers.values_append_self]
          exact List.prefix_append _ _
        · rw [Headers.values_append_of_ne _ _ hfield]
      · exact List.prefix_rfl
    · exact List.prefix_rfl
  | remove field =>
    simp only [edited]
    split
    · rename_i field' hfield
      have hne : name ≠ field' := by
        rintro rfl
        simp [loses, hfield] at hcall
      rw [Headers.values_remove_of_ne _ hne]
    · exact List.prefix_rfl
  | errorReply code message =>
    simp only [edited]
    split_ifs
    · rw [values_replyHeaders headers hname]
    · exact List.prefix_rfl
  | _ => exact List.prefix_rfl

theorem mem_values_editedAll {calls : List Call}
    (hcalls : ∀ call ∈ calls, call.loses name = false)
    (hname : name ∉ ["content-length", "content-type", "x-content-type-options"])
    {headers : Headers} {value : Bytes} (hvalue : value ∈ headers.values name) :
    value ∈ (editedAll calls headers).values name := by
  induction calls generalizing headers with
  | nil => exact hvalue
  | cons call calls ih =>
    exact ih (fun later hlater => hcalls later (List.mem_cons_of_mem _ hlater))
      ((prefix_values_edited (hcalls call List.mem_cons_self) hname headers).subset hvalue)

/-- **A call that is not about headers** leaves the values alone that a reply leaves alone. -/
theorem spares_of_isHeader_eq_false {call : Call} (hcall : call.isHeader = false)
    (hreply : ∀ name ∈ ["content-length", "content-type", "x-content-type-options"],
      names name = false) :
    call.spares names = true ∧ ∀ headers : Headers, ∀ name, names name = true →
      (call.edited headers).values name = headers.values name := by
  -- the three fields of a reply are not among the names
  have hnot {name : String} (hname : names name = true) :
      name ∉ ["content-length", "content-type", "x-content-type-options"] := by
    intro hmem
    rw [hreply name hmem] at hname
    exact Bool.false_ne_true hname
  cases call with
  | errorReply code message =>
    refine ⟨?_, fun headers name hname => ?_⟩
    · refine List.all_eq_true.mpr fun name hmem => ?_
      rw [hreply name hmem]
      rfl
    · simp only [edited]
      split_ifs
      · exact values_replyHeaders headers (hnot hname)
      · rfl
  | set _ _ => exact absurd hcall.symm Bool.false_ne_true
  | append _ _ => exact absurd hcall.symm Bool.false_ne_true
  | remove _ => exact absurd hcall.symm Bool.false_ne_true
  | get _ => exact absurd hcall.symm Bool.false_ne_true
  | _ => exact ⟨rfl, fun _ _ _ => rfl⟩

end Call

/-! ### The moment -/

namespace Stack

variable {τ σ : Type} [MemberStream τ] [Sink σ] {sent : σ → Option Head} {names : String → Bool}
  (s : Stack)

/-- **A call about headers** edits those of the tower, and sends nothing. -/
theorem perform_isHeader (hsent : Sink.SendsHead sent) {call : Call}
    (hcall : call.isHeader = true) (w : s.Writer τ σ) :
    sent (s.base (call.perform w).2) = sent (s.base w) ∧
      Sink.headers (call.perform w).2 = call.edited (Sink.headers w) := by
  rcases Call.perform_edited hcall with ⟨hid, hkept⟩ | hedit
  · rw [hkept, hid]
    exact ⟨rfl, rfl⟩
  · rw [hedit, s.headers_base, s.base_editHeaders, hsent.sent_edit, hsent.headers_edit,
      s.headers_base w]
    exact ⟨rfl, rfl⟩

/-- **One call** before which the head is not sent. If the call sends it, then with the values that
stood, and if not, then they are edited as the call says. -/
theorem perform_values (hsent : Sink.SendsHead sent)
    (hlayers : GzipLayer.MayCompress (.sparing names))
    (hreply : ∀ name ∈ ["content-length", "content-type", "x-content-type-options"],
      names name = false)
    {w : s.Writer τ σ} (hunsent : sent (s.base w) = none) (call : Call) {name : String}
    (hname : names name = true) :
    (∀ head, sent (s.base (call.perform w).2) = some head →
        head.headers.values name = (Sink.headers w).values name) ∧
      (sent (s.base (call.perform w).2) = none →
        (Sink.headers (call.perform w).2).values name
          = (call.edited (Sink.headers w)).values name) := by
  by_cases hcall : call.isHeader = true
  · obtain ⟨hstill, hheaders⟩ := s.perform_isHeader hsent hcall w
    refine ⟨fun head hhead => ?_, fun _ => by rw [hheaders]⟩
    rw [hstill, hunsent] at hhead
    exact absurd hhead (by simp)
  · obtain ⟨hspares, hsame⟩ := Call.spares_of_isHeader_eq_false
      (by simpa using hcall) hreply
    have hreached := (s.outlasts (τ := τ) hlayers
      (Sink.outlasts_reached (.sparing names) (s.base w))).perform .refl hspares
    have hcarried := hsent.carried_values hunsent hreached hname
    rw [← s.headers_base w] at hcarried
    refine ⟨fun head hhead => ?_, fun hnone => ?_⟩
    · rw [← hcarried, Sink.carried, hhead]
      rfl
    · rw [hsame _ name hname, ← hcarried, Sink.carried, hnone, s.headers_base]
      rfl

/-- **The moment at which the head is sent.** Calls are made of a tower over a sink that has not
sent its head. There is a number of calls after which it still has not, and with the next call, if
there is one, it has. What the client sees then are the values that these calls have made of those
that stood at first, whatever other calls and requests follow that leave them alone. -/
theorem exists_moment (hsent : Sink.FixesHead sent)
    (hlayers : GzipLayer.MayCompress (.sparing names))
    (hreply : ∀ name ∈ ["content-length", "content-type", "x-content-type-options"],
      names name = false)
    (w : s.Writer τ σ) (hunsent : sent (s.base w) = none) (calls : List Call) :
    ∃ n ≤ calls.length,
      sent (s.base (Call.performAll (calls.take n) w).2) = none ∧
      (n < calls.length →
        (sent (s.base (Call.performAll (calls.take (n + 1)) w).2)).isSome) ∧
      ∀ later, Sink.Reached (.sparing names) (s.base (Call.performAll calls w).2) later →
        ∀ name, names name = true → (Sink.carried sent later).values name
          = (Call.editedAll (calls.take n) (Sink.headers w)).values name := by
  induction calls generalizing w with
  | nil =>
    refine ⟨0, Nat.le_refl _, hunsent, fun h => absurd h (Nat.lt_irrefl _), ?_⟩
    intro later hlater name hname
    rw [hsent.carried_values hunsent hlater hname, ← s.headers_base]
    rfl
  | cons call calls ih =>
    have hvalues {name : String} (hname : names name = true) :=
      s.perform_values hsent.toSendsHead hlayers hreply hunsent call hname
    cases hfirst : sent (s.base (call.perform w).2) with
    | some head =>
      -- sent by the first call, and so it stays
      refine ⟨0, Nat.zero_le _, hunsent, fun _ => ?_, fun later hlater name hname => ?_⟩
      · show (sent (s.base (call.perform w).2)).isSome
        rw [hfirst]
        rfl
      · have hkept : sent (s.base (Call.performAll calls (call.perform w).2).2) = some head :=
          (s.outlasts (fun _ _ => trivial) (hsent.keeps head)).callAll hfirst calls
        rw [hsent.carried_of_sent hkept hlater]
        exact (hvalues hname).1 head hfirst
    | none =>
      obtain ⟨n, hn, hstill, hsends, hcarried⟩ := ih (call.perform w).2 hfirst
      refine ⟨n + 1, Nat.succ_le_succ hn, hstill, fun hlt => hsends (Nat.lt_of_succ_lt_succ hlt),
        fun later hlater name hname => ?_⟩
      rw [hcarried later hlater name hname]
      exact Call.values_editedAll_congr _ ((hvalues hname).2 hfirst)

end Stack

end HttpPipeline
