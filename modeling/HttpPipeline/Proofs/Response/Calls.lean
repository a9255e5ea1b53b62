import HttpPipeline.Response.Call
import HttpPipeline.Proofs.Response.Ledger

/-!
# Calls and the ledger

What a handler's calls do to the ledger of a sink. Two things are known about a call:

* what it reports to have written (`Call.reported`), which can be read off its reply and is
  what the ledger gains, whatever part of an offer the sink takes;
* what it writes in full and which status it gives or implies (`Call.data`, `Call.status?`),
  which is what the ledger gains if the sink refuses nothing.

Each is proved of one call and then of any number, by induction on their list.
-/

namespace HttpPipeline

namespace Sink

/-- The headers of a reply, in place of those that stand. -/
def replyHeaders (headers : Headers) : Headers :=
  ((headers.remove "content-length").insert "content-type"
    (Bytes.ofString "text/plain; charset=utf-8")).insert "x-content-type-options"
    (Bytes.ofString "nosniff")

/-- The body of a reply. -/
def replyBody (message : String) : Bytes := Bytes.ofString message ++ [10]

end Sink

namespace Call

variable {ω : Type} [Sink ω] {R : Ledger → ω → Prop} {k : Ledger} {w : ω}

theorem performAll_append (calls later : List Call) (w : ω) :
    (performAll (calls ++ later) w).2 = (performAll later (performAll calls w).2).2 := by
  induction calls generalizing w with
  | nil => rfl
  | cons call calls ih => exact ih (call.perform w).2

/-- A call that edits or reads headers. -/
def isHeader : Call → Bool
  | .set .. => true
  | .append .. => true
  | .remove _ => true
  | .get _ => true
  | _ => false

/-- The headers after a call, given those before it. -/
def edited (call : Call) (headers : Headers) : Headers :=
  match call with
  | .set name value =>
    match fieldName? name with
    | some name => if isFieldValue value then headers.insert name value else headers
    | none => headers
  | .append name value =>
    match fieldName? name with
    | some name => if isFieldValue value then headers.append name value else headers
    | none => headers
  | .remove name =>
    match fieldName? name with
    | some name => headers.remove name
    | none => headers
  | .errorReply code _ => if Status.valid code then Sink.replyHeaders headers else headers
  | _ => headers

/-- **A call about headers** does nothing or makes its edit, whatever the sink. -/
theorem perform_edited {call : Call} (hcall : call.isHeader = true) :
    (call.edited = id ∧ ∀ {ω : Type} [Sink ω] (w : ω), (call.perform w).2 = w) ∨
      ∀ {ω : Type} [Sink ω] (w : ω), (call.perform w).2 = Sink.editHeaders w call.edited := by
  cases call with
  | set name value =>
    cases hname : fieldName? name with
    -- a name that is none makes no edit, whatever the value
    | none =>
      exact .inl ⟨funext fun _ => by simp only [edited, hname, id],
        fun {_ _} w => by simp only [perform, hname]⟩
    | some name =>
      by_cases hvalue : isFieldValue value = true
      · exact .inr fun {_ _} w => by
          simp only [perform, Sink.editHeaders, edited, hname, hvalue, if_true]
      · exact .inl ⟨funext fun _ => by simp only [edited, hname, if_neg hvalue, id],
          fun {_ _} w => by simp only [perform, hname, if_neg hvalue]⟩
  | append name value =>
    cases hname : fieldName? name with
    | none =>
      exact .inl ⟨funext fun _ => by simp only [edited, hname, id],
        fun {_ _} w => by simp only [perform, hname]⟩
    | some name =>
      by_cases hvalue : isFieldValue value = true
      · exact .inr fun {_ _} w => by
          simp only [perform, Sink.editHeaders, edited, hname, hvalue, if_true]
      · exact .inl ⟨funext fun _ => by simp only [edited, hname, if_neg hvalue, id],
          fun {_ _} w => by simp only [perform, hname, if_neg hvalue]⟩
  | remove name =>
    cases hname : fieldName? name with
    | none =>
      exact .inl ⟨funext fun _ => by simp only [edited, hname, id],
        fun {_ _} w => by simp only [perform, hname]⟩
    | some name =>
      exact .inr fun {_ _} w => by simp only [perform, Sink.editHeaders, edited, hname]
  | get name => exact .inl ⟨rfl, fun {_ _} _ => rfl⟩
  | _ => exact absurd hcall Bool.false_ne_true

/-- It does nothing or makes one edit. -/
theorem perform_edits {call : Call} (hcall : call.isHeader = true) :
    (∀ {ω : Type} [Sink ω] (w : ω), (call.perform w).2 = w) ∨
      ∃ edit, ∀ {ω : Type} [Sink ω] (w : ω), (call.perform w).2 = Sink.editHeaders w edit :=
  (perform_edited hcall).imp And.right fun hedit => ⟨call.edited, hedit⟩

/-- Its reply is a matter of the headers alone. -/
theorem perform_header_reply {call : Call} (hcall : call.isHeader = true) {ω' : Type} [Sink ω']
    {w' : ω'} (h : Sink.headers w = Sink.headers w') :
    (call.perform w).1 = (call.perform w').1 := by
  cases call with
  | set name value =>
    simp only [perform, h]
    split
    · split_ifs <;> rfl
    · rfl
  | append name value =>
    simp only [perform, h]
    split
    · split_ifs <;> rfl
    · rfl
  | remove name =>
    simp only [perform, h]
    split <;> rfl
  | get name => simp only [perform, h]
  | _ => exact absurd hcall Bool.false_ne_true

/-- In any case it leaves the sink or sets its headers. -/
theorem perform_isHeader {call : Call} (hcall : call.isHeader = true) (w : ω) :
    (call.perform w).2 = w ∨ ∃ headers, (call.perform w).2 = Sink.setHeaders w headers := by
  rcases perform_edits hcall with hsame | ⟨edit, hedit⟩
  · exact .inl (hsame w)
  · exact .inr ⟨_, hedit w⟩

/-- **Headers** are no matter of the ledger. -/
theorem perform_header (hR : Sink.Keeps R) (h : R k w) {call : Call}
    (hcall : call.isHeader = true) : R k (call.perform w).2 := by
  rcases perform_isHeader hcall w with hsame | ⟨headers, hset⟩
  · rwa [hsame]
  · rw [hset]
    exact hR.setHeaders h headers

/-! ### What is reported as written -/

/-- A call that edits or reads headers, gives a status, writes or flushes. -/
def isPlain : Call → Bool
  | .hijack _ => false
  | .errorReply .. => false
  | _ => true

/-- A call that may come before a body: it edits or reads headers, or gives a status. -/
def isOpening : Call → Bool
  | .status _ => true
  | call => call.isHeader

theorem isPlain_of_isOpening {call : Call} (h : call.isOpening = true) : call.isPlain = true := by
  cases call <;> first | rfl | exact absurd h Bool.false_ne_true

/-- **What comes before a body** does not end a property that header edits and statuses do not
end. -/
theorem perform_opening {P : ω → Prop}
    (hset : ∀ {w}, P w → ∀ headers, P (Sink.setHeaders w headers))
    (hstatus : ∀ {w}, P w → ∀ code, P (Sink.sendStatus w code)) (h : P w) {call : Call}
    (hcall : call.isOpening = true) : P (call.perform w).2 := by
  have hheader (hcall : call.isHeader = true) : P (call.perform w).2 := by
    rcases perform_isHeader hcall w with hsame | ⟨headers, hedited⟩
    · rwa [hsame]
    · rw [hedited]
      exact hset h headers
  cases call with
  | status code =>
    rw [perform]
    split_ifs
    · exact hstatus h code
    · exact h
  | _ => exact hheader hcall

theorem performAll_opening {P : ω → Prop}
    (hset : ∀ {w}, P w → ∀ headers, P (Sink.setHeaders w headers))
    (hstatus : ∀ {w}, P w → ∀ code, P (Sink.sendStatus w code)) (h : P w) {calls : List Call}
    (hcalls : ∀ call ∈ calls, call.isOpening = true) : P (performAll calls w).2 := by
  induction calls generalizing w with
  | nil => exact h
  | cons call calls ih =>
    exact ih (perform_opening hset hstatus h (hcalls call List.mem_cons_self)) fun later hlater =>
      hcalls later (List.mem_cons_of_mem _ hlater)

/-- The bytes that a call reports as written, given its reply. -/
def reported : Call → Reply → Bytes
  | .write data, .accepted count => data.take count
  | .writeAll data, .done => data
  | _, _ => []

/-- The bytes that some calls report as written, in order. -/
def allReported (calls : List Call) (replies : List Reply) : Bytes :=
  (List.zipWith reported calls replies).flatten

/-- **One call** appends to the ledger what it reports as written. -/
theorem perform_reported (hR : Sink.Keeps R) (h : R k w) (call : Call)
    (hcall : call.isPlain = true) :
    ∃ k', R k' (call.perform w).2 ∧
      k'.written = k.written ++ call.reported (call.perform w).1 := by
  -- the ledger stays if nothing is reported
  have hsame {reply : Reply} {w' : ω} (hw : R k w') (hnone : call.reported reply = []) :
      ∃ k', R k' w' ∧ k'.written = k.written ++ call.reported reply :=
    ⟨k, hw, by rw [hnone, List.append_nil]⟩
  cases call with
  | set name value => exact hsame (perform_header hR h rfl) rfl
  | append name value => exact hsame (perform_header hR h rfl) rfl
  | remove name => exact hsame (perform_header hR h rfl) rfl
  | get name => exact hsame (perform_header hR h rfl) rfl
  | status code =>
    simp only [perform]
    split_ifs with hvalid
    · by_cases hfinal : Status.final code = true
      · exact ⟨_, hR.sendFinal h hfinal, by rw [Ledger.hear_written]; simp [reported]⟩
      · rcases hR.sendInterim h (by simpa using hfinal) with hkept | hsettled
        · exact hsame hkept rfl
        · exact ⟨_, hsettled, by rw [Ledger.settle_written]; simp [reported]⟩
    · exact hsame h rfl
  | write data =>
    have htaken := hR.write h data
    simp only [perform]
    rcases heq : Sink.write w data with ⟨attempt, w'⟩
    rw [heq] at htaken
    cases attempt with
    | accepted count => exact ⟨_, htaken.2.2, rfl⟩
    | interrupted message =>
      rcases htaken with hkept | hsettled
      · exact hsame hkept rfl
      · exact ⟨_, hsettled, by simp [reported, Reply.ofAttempt]⟩
    | failed cause => exact absurd htaken id
  | writeAll data =>
    obtain ⟨w', hwrite, hnil, hadd⟩ := hR.writeAll h data
    simp only [perform, hwrite]
    by_cases hd : data = []
    · -- nothing is written, and the sink is not asked at all
      rw [hnil hd]
      exact hsame h hd
    · exact ⟨_, hadd hd, rfl⟩
  | flush =>
    have hflushed := hR.flush h
    simp only [perform]
    rcases heq : Sink.flush w with ⟨result, w'⟩
    rw [heq] at hflushed
    cases result with
    | ok => exact ⟨_, hflushed, by simp [reported]⟩
    | error fault =>
      rcases hflushed with hkept | hsettled
      · exact hsame hkept rfl
      · exact ⟨_, hsettled, by simp [reported]⟩
  | hijack answer => exact absurd hcall Bool.false_ne_true
  | errorReply code message => exact absurd hcall Bool.false_ne_true

/-- **Any number of calls** append what they report as written. -/
theorem performAll_reported (hR : Sink.Keeps R) (calls : List Call)
    (hcalls : ∀ call ∈ calls, call.isPlain = true) (h : R k w) :
    ∃ k', R k' (performAll calls w).2 ∧
      k'.written = k.written ++ allReported calls (performAll calls w).1 := by
  induction calls generalizing k w with
  | nil => exact ⟨k, h, by simp [performAll, allReported]⟩
  | cons call calls ih =>
    obtain ⟨k₁, h₁, hfirst⟩ :=
      perform_reported hR h call (hcalls call List.mem_cons_self)
    obtain ⟨k₂, h₂, hrest⟩ := ih (fun c hc => hcalls c (List.mem_cons_of_mem _ hc)) h₁
    refine ⟨k₂, h₂, ?_⟩
    rw [hrest, hfirst, List.append_assoc]
    rfl

/-! ### What is written in full -/

/-- The bytes that a call writes. -/
def data : Call → Bytes
  | .write data => data
  | .writeAll data => data
  | .errorReply code message =>
    if Status.valid code then Bytes.ofString message ++ [10] else []
  | _ => []

/-- The status that a call gives or implies. -/
def status? : Call → Option Status
  | .status code => if Status.valid code then some code else none
  | .write _ => some 200
  | .writeAll data => if data.isEmpty then none else some 200
  | .flush => some 200
  | .errorReply code _ => if Status.valid code then some code else none
  | _ => none

/-- The status that a call gives or implies where a flush implies some status or none. It implies
none where it is not counted or is refused. -/
def given? (flushed : Option Status) : Call → Option Status
  | .flush => flushed
  | call => call.status?

/-- But for a flush it does not matter what a flush implies. -/
theorem given?_of_ne {flushed : Option Status} {call : Call} (hcall : call ≠ .flush) :
    call.given? flushed = call.given? none := by
  cases call <;> first | rfl | exact absurd rfl hcall

/-- A call about headers gives no status and writes nothing. -/
theorem given?_of_isHeader {flushed : Option Status} {call : Call}
    (hcall : call.isHeader = true) : call.given? flushed = none ∧ call.data = [] := by
  cases call <;> first | exact ⟨rfl, rfl⟩ | exact absurd hcall Bool.false_ne_true

/-- Whether a call gives no interim status. -/
def isFinal : Call → Bool
  | .status code => !Status.valid code || Status.final code
  | .errorReply code _ => !Status.valid code || Status.final code
  | _ => true

/-- **One call** to a sink that refuses nothing but a take-over. The status of the ledger is
that of the first call that has one, if no interim status comes. -/
theorem perform_whole (hR : Sink.Keeps R) (hW : Sink.Whole R) (h : R k w) (call : Call) :
    ∃ k', R k' (call.perform w).2 ∧ k'.written = k.written ++ call.data ∧
      (call.isFinal = true → k'.status = k.status.or call.status?) := by
  have hsame {w' : ω} (hw : R k w') (hdata : call.data = []) (hstatus : call.status? = none) :
      ∃ k', R k' w' ∧ k'.written = k.written ++ call.data ∧
        (call.isFinal = true → k'.status = k.status.or call.status?) :=
    ⟨k, hw, by rw [hdata, List.append_nil], fun _ => by rw [hstatus, Option.or_none]⟩
  -- the first status counts
  have hgiven (j : Ledger) (code : Status) :
      some (j.status.getD code) = j.status.or (some code) := by
    cases j.status <;> rfl
  -- a status, and the ledger after it
  have hstatus (w : ω) (hw : R k w) (code : Status) :
      ∃ j, R j (Sink.sendStatus w code) ∧ j.written = k.written ∧
        (Status.final code = true → j.status = k.status.or (some code)) := by
    by_cases hfinal : Status.final code = true
    · exact ⟨_, hR.sendFinal hw hfinal, rfl, fun _ => hgiven k code⟩
    · rcases hR.sendInterim hw (by simpa using hfinal) with hkept | hsettled
      · exact ⟨_, hkept, rfl, fun hf => absurd hf hfinal⟩
      · exact ⟨_, hsettled, rfl, fun hf => absurd hf hfinal⟩
  cases call with
  | set name value => exact hsame (perform_header hR h rfl) rfl rfl
  | append name value => exact hsame (perform_header hR h rfl) rfl rfl
  | remove name => exact hsame (perform_header hR h rfl) rfl rfl
  | get name => exact hsame (perform_header hR h rfl) rfl rfl
  | status code =>
    by_cases hvalid : Status.valid code = true
    · obtain ⟨j, hj, hwritten, hfirst⟩ := hstatus w h code
      refine ⟨j, by simpa only [perform, if_pos hvalid] using hj, ?_, fun hfinal => ?_⟩
      · rw [hwritten]
        simp [data]
      · rw [status?, if_pos hvalid]
        exact hfirst (by simpa [isFinal, hvalid] using hfinal)
    · rw [perform, if_neg hvalid]
      exact hsame h rfl (if_neg hvalid)
  | write data =>
    have htaken := hR.write h data
    obtain ⟨w', hwrite⟩ := hW.write_eq h data
    rw [hwrite] at htaken
    simp only [perform, hwrite]
    obtain ⟨-, -, hadd⟩ := htaken
    rw [List.take_length] at hadd
    exact ⟨_, hadd, rfl, fun _ => hgiven k 200⟩
  | writeAll data =>
    obtain ⟨w', hwrite, hnil, hadd⟩ := hR.writeAll h data
    simp only [perform, hwrite]
    by_cases hd : data = []
    · rw [hnil hd]
      exact hsame h hd (by rw [status?, hd]; rfl)
    · have hne : data.isEmpty = false := by simpa using hd
      exact ⟨_, hadd hd, rfl, fun _ => by
        rw [status?, hne, if_neg Bool.false_ne_true]
        exact hgiven k 200⟩
  | flush =>
    have hflushed := hR.flush h
    obtain ⟨w', hflush⟩ := hW.flush_eq h
    rw [hflush] at hflushed
    simp only [perform, hflush]
    exact ⟨_, hflushed, by simp [data], fun _ => hgiven k 200⟩
  | hijack answer => exact hsame (hW.hijack h answer).2 rfl rfl
  | errorReply code message =>
    by_cases hvalid : Status.valid code = true
    · obtain ⟨j, hj, hwritten, hfirst⟩ := hstatus _ (hR.editHeaders h _) code
      obtain ⟨w', hwrite, -, hadd⟩ := hR.writeAll hj (Bytes.ofString message ++ [10])
      rw [perform, if_pos hvalid, Sink.errorReply, hwrite]
      refine ⟨_, hadd (by simp), ?_, fun hfinal => ?_⟩
      · rw [Ledger.add_written, hwritten, data, if_pos hvalid]
      · have hj := hfirst (by simpa [isFinal, hvalid] using hfinal)
        rw [Ledger.add_status, hj, status?, if_pos hvalid]
        cases k.status <;> rfl
    · rw [perform, if_neg hvalid]
      exact hsame h (if_neg hvalid) (if_neg hvalid)

/-- **Any number of calls** to a sink that refuses nothing but a take-over. -/
theorem performAll_whole (hR : Sink.Keeps R) (hW : Sink.Whole R) (calls : List Call)
    (h : R k w) :
    ∃ k', R k' (performAll calls w).2 ∧ k'.written = k.written ++ calls.flatMap data ∧
      ((∀ call ∈ calls, call.isFinal = true) →
        k'.status = k.status.or (calls.findSome? status?)) := by
  induction calls generalizing k w with
  | nil => exact ⟨k, h, by simp, fun _ => by simp⟩
  | cons call calls ih =>
    obtain ⟨k₁, h₁, hwritten₁, hstatus₁⟩ := perform_whole hR hW h call
    obtain ⟨k₂, h₂, hwritten₂, hstatus₂⟩ := ih h₁
    refine ⟨k₂, h₂, ?_, fun hfinal => ?_⟩
    · rw [hwritten₂, hwritten₁, List.append_assoc, List.flatMap_cons]
    · rw [hstatus₂ fun c hc => hfinal c (List.mem_cons_of_mem _ hc),
        hstatus₁ (hfinal call List.mem_cons_self), Option.or_assoc, List.findSome?_cons]
      cases call.status? <;> rfl

end Call

end HttpPipeline
