import HttpPipeline.Proofs.Response.Flushing

/-!
# Repeated writes

A write that is to take everything is repeated over whatever the sink answers
(`HttpPipeline.Response.Sink`). Here the sink answers anything at all for a while and takes all that
it is offered afterwards (`ScriptedSink`), with layers in front of it that forward what they are
given.

Such layers add nothing to the loop: one attempt on a tower is one attempt on its bottom, and each
status layer counts what the bottom took (`Stack.write_forwards`). So the loop on the tower is the
loop on the bottom, and that is followed along the answers (`ScriptedSink.writeWithin_ends`), one
step an answer. It makes at most one attempt more than there are answers. Either all bytes were
taken, or the first answer that does not let it go on is the failure that it reports
(`ScriptedSink.Ends`).
-/

namespace HttpPipeline

/-! ### So many attempts -/

namespace Sink

variable {σ ω : Type} [Sink σ] [Sink ω]

/-- **Writing everything in so many attempts**, if they are enough. -/
def writeWithin : (attempts : ℕ) → (s : σ) → (data : Bytes) → Option (Except StreamError Unit × σ)
  | 0, s, data => if data.isEmpty then some (.ok (), s) else none
  | attempts + 1, s, data =>
    if data.isEmpty then some (.ok (), s)
    else match write s data with
      | (.accepted 0, s') => some (.error .nothingAccepted, s')
      | (.accepted (count + 1), s') => writeWithin attempts s' (data.drop (count + 1))
      | (.interrupted _, s') => writeWithin attempts s' data
      | (.failed cause, s') => some (.error cause, s')

theorem writeWithin_nil (attempts : ℕ) (s : σ) : writeWithin attempts s [] = some (.ok (), s) := by
  cases attempts <;> rfl

theorem writeWithin_succ (attempts : ℕ) (s : σ) {data : Bytes} (hdata : data ≠ []) :
    writeWithin (attempts + 1) s data =
      match write s data with
      | (.accepted 0, s') => some (.error .nothingAccepted, s')
      | (.accepted (count + 1), s') => writeWithin attempts s' (data.drop (count + 1))
      | (.interrupted _, s') => writeWithin attempts s' data
      | (.failed cause, s') => some (.error cause, s') :=
  if_neg (by simpa using hdata)

/-- If they are enough, all attempts together come to the same. -/
theorem writeAll_of_writeWithin {attempts : ℕ} {s : σ} {data : Bytes}
    {outcome : Except StreamError Unit × σ} (h : writeWithin attempts s data = some outcome) :
    writeAll s data = outcome := by
  rcases eq_or_ne data [] with rfl | hdata
  · rw [writeWithin_nil] at h
    rw [writeAll_nil]
    exact Option.some.inj h
  · induction attempts generalizing s data with
    | zero => simp [writeWithin, hdata] at h
    | succ attempts ih =>
      rw [writeWithin_succ attempts s hdata] at h
      rw [writeAll_attempt s hdata]
      split <;> rename_i heq <;> simp only [heq] at h
      · exact Option.some.inj h
      · rename_i count s'
        -- nothing may be left to offer
        rcases eq_or_ne (data.drop (count + 1)) [] with hrest | hrest
        · rw [hrest, writeWithin_nil] at h
          rw [hrest, writeAll_nil]
          exact Option.some.inj h
        · exact ih h hrest
      · exact ih h hdata
      · exact Option.some.inj h

/-- **A sink that forwards** its writes to another: the same attempts, with the same outcome. -/
theorem writeWithin_map {f : ω → σ}
    (hf : ∀ w data, write (f w) data = (write w data).map id f) (attempts : ℕ) (w : ω)
    (data : Bytes) :
    writeWithin attempts (f w) data = (writeWithin attempts w data).map (Prod.map id f) := by
  induction attempts generalizing w data with
  | zero =>
    unfold writeWithin
    split_ifs <;> rfl
  | succ attempts ih =>
    rcases eq_or_ne data [] with rfl | hdata
    · rw [writeWithin_nil, writeWithin_nil]
      rfl
    · rw [writeWithin_succ attempts _ hdata, writeWithin_succ attempts _ hdata, hf]
      rcases write w data with ⟨_ | _ | _, w'⟩
      · rename_i count
        cases count with
        | zero => rfl
        | succ count => exact ih w' _
      · exact ih w' data
      · rfl

end Sink

/-! ### Along the answers -/

namespace ScriptedWrite

/-- How many bytes are taken at most. -/
def granted : ScriptedWrite → ℕ
  | accept most => most
  | interrupt _ => 0
  | fail _ => 0

/-- How many bytes are taken at most over several answers. -/
def allGranted : List ScriptedWrite → ℕ
  | [] => 0
  | answer :: later => answer.granted + allGranted later

/-- **The failure** with which an answer ends a repeated write, if it does. To be asked again does
not, and neither does to take something. -/
def stops? : ScriptedWrite → Option StreamError
  | accept 0 => some .nothingAccepted
  | accept (_ + 1) => none
  | interrupt _ => none
  | fail cause => some cause

end ScriptedWrite

namespace ScriptedSink

open ScriptedWrite (allGranted)

/-- **How a repeated write ends**: the answers that it got and those to come, the bytes that were
taken and those that were not. -/
inductive Ends : (asked later : List ScriptedWrite) → (taken left : Bytes) →
    (result : Except StreamError Unit) → Prop
  /-- Everything was taken, by what the answers grant or by a sink that has no more of them. -/
  | complete {asked later : List ScriptedWrite} {taken : Bytes}
    (hgoes : ∀ answer ∈ asked, answer.stops? = none)
    (hgranted : later = [] ∨ taken.length ≤ allGranted asked) :
    Ends asked later taken [] (.ok ())
  /-- The first answer that does not let it go on came while something was left. -/
  | stopped {earlier later : List ScriptedWrite} {answer : ScriptedWrite} {cause : StreamError}
    {taken left : Bytes} (hgoes : ∀ answer ∈ earlier, answer.stops? = none)
    (hstops : answer.stops? = some cause) (hgranted : taken.length = allGranted earlier)
    (hleft : left ≠ []) :
    Ends (earlier ++ [answer]) later taken left (.error cause)

/-- One more answer in front, by which some first bytes were taken. -/
theorem Ends.cons {asked later : List ScriptedWrite} {taken left front : Bytes}
    {result : Except StreamError Unit} (h : Ends asked later taken left result)
    {answer : ScriptedWrite} (hgoes : answer.stops? = none)
    (hfront : front.length ≤ answer.granted)
    (hmore : taken ++ left ≠ [] → front.length = answer.granted) :
    Ends (answer :: asked) later (front ++ taken) left result := by
  cases h with
  | complete hasked hgranted =>
    refine .complete (List.forall_mem_cons.mpr ⟨hgoes, hasked⟩) (hgranted.imp_right fun h => ?_)
    rw [List.length_append, allGranted]
    exact Nat.add_le_add hfront h
  | stopped hearlier hstops hgranted hleft =>
    refine .stopped (List.forall_mem_cons.mpr ⟨hgoes, hearlier⟩) hstops ?_ hleft
    rw [List.length_append, allGranted, hgranted,
      hmore (List.append_ne_nil_of_right_ne_nil _ hleft)]

/-- The sink after a repeated write. -/
def after (s : ScriptedSink) (later : List ScriptedWrite) (taken : Bytes)
    (result : Except StreamError Unit) : ScriptedSink :=
  { s with writes := later, body := s.body ++ taken, failed := s.failed || !result.isOk }

/-- **What comes of a repeated write** to the sink itself. -/
def Writes (s : ScriptedSink) (data : Bytes) (outcome : Except StreamError Unit × ScriptedSink) :
    Prop :=
  ∃ (asked later : List ScriptedWrite) (taken left : Bytes),
    s.writes = asked ++ later ∧ data = taken ++ left ∧ Ends asked later taken left outcome.1 ∧
      outcome.2 = s.after later taken outcome.1

section Steps

variable {s : ScriptedSink} {data : Bytes} {outcome : Except StreamError Unit × ScriptedSink}
  {answer : ScriptedWrite} {later : List ScriptedWrite}

theorem writes_nil (s : ScriptedSink) : s.Writes [] (.ok (), s) := by
  refine ⟨[], s.writes, [], [], rfl, rfl, .complete (by simp) (.inr (Nat.zero_le _)), ?_⟩
  simp [after, Except.isOk, Except.toBool]

/-- All the rest is taken. -/
theorem writes_all (hs : s.writes = []) (data : Bytes) :
    s.Writes data (.ok (), { s with body := s.body ++ data }) := by
  refine ⟨[], [], data, [], hs, (List.append_nil data).symm, .complete (by simp) (.inl rfl), ?_⟩
  simp [after, ← hs, Except.isOk, Except.toBool]

theorem writes_of_stops (hs : s.writes = answer :: later) (hdata : data ≠ []) {cause : StreamError}
    (hstops : answer.stops? = some cause) :
    s.Writes data (.error cause, { s with writes := later, failed := true }) := by
  have hends : Ends ([] ++ [answer]) later [] data (.error cause) :=
    .stopped (by simp) hstops rfl hdata
  refine ⟨[answer], later, [], data, hs, rfl, hends, ?_⟩
  simp [after, Except.isOk, Except.toBool]

/-- One more answer in front, by which some first bytes were taken. -/
theorem Writes.cons {front rest : Bytes}
    (h : Writes { s with writes := later, body := s.body ++ front } rest outcome)
    (hs : s.writes = answer :: later) (hdata : data = front ++ rest)
    (hgoes : answer.stops? = none) (hfront : front.length ≤ answer.granted)
    (hmore : rest ≠ [] → front.length = answer.granted) : s.Writes data outcome := by
  obtain ⟨asked, last, taken, left, hasked, rfl, hends, hafter⟩ := h
  refine ⟨answer :: asked, last, front ++ taken, left, ?_, ?_, hends.cons hgoes hfront hmore, ?_⟩
  · rw [hs, show later = asked ++ last from hasked]
    rfl
  · rw [hdata, List.append_assoc]
  · rw [hafter]
    simp [after]

end Steps

/-- **One attempt with an answer** that lets the loop go on. -/
theorem write_accept {s : ScriptedSink} {most : ℕ} {later : List ScriptedWrite}
    (hs : s.writes = .accept (most + 1) :: later) {data : Bytes} (hdata : data ≠ []) :
    ∃ count, Sink.write s data = (.accepted (count + 1),
        { s with writes := later, body := s.body ++ data.take (count + 1) }) ∧
      (data.take (count + 1)).length ≤ most + 1 ∧
      (data.drop (count + 1) ≠ [] → (data.take (count + 1)).length = most + 1) := by
  obtain ⟨count, hcount⟩ : ∃ count, min (most + 1) data.length = count + 1 :=
    Nat.exists_eq_add_one.mpr
      (Nat.lt_min.mpr ⟨Nat.succ_pos most, List.length_pos_of_ne_nil hdata⟩)
  refine ⟨count, ?_, ?_, fun hmore => ?_⟩
  · show s.write data = _
    rw [write, hs, ← hcount]
    simp
  · rw [List.length_take]
    omega
  · -- what is left over was not granted
    rw [ne_eq, List.drop_eq_nil_iff] at hmore
    rw [List.length_take]
    omega

/-- **A repeated write to the sink itself** gets along with one attempt more than there are
answers. -/
theorem writeWithin_ends (s : ScriptedSink) (data : Bytes) :
    ∃ outcome, Sink.writeWithin (s.writes.length + 1) s data = some outcome ∧
      s.Writes data outcome := by
  rcases eq_or_ne data [] with rfl | hdata
  · exact ⟨_, Sink.writeWithin_nil _ s, s.writes_nil⟩
  -- on the answers that are left: each attempt uses up one of them
  induction hs : s.writes generalizing s data with
  | nil =>
    refine ⟨_, ?_, writes_all hs data⟩
    have hwrite : Sink.write s data
        = (.accepted data.length, { s with body := s.body ++ data }) := by
      show s.write data = _
      rw [write, hs]
    obtain ⟨count, hcount⟩ : ∃ count, data.length = count + 1 :=
      Nat.exists_eq_succ_of_ne_zero (by simpa using hdata)
    -- the one attempt beyond the answers
    rw [Sink.writeWithin_succ _ _ hdata, hwrite, hcount]
    simp only
    rw [← hcount, List.drop_length, Sink.writeWithin_nil]
  | cons answer later ih =>
    have hwrite : Sink.write s data = s.write data := rfl
    rw [write, hs] at hwrite
    rw [List.length_cons, Sink.writeWithin_succ _ _ hdata]
    cases answer with
    | fail cause =>
      rw [hwrite]
      exact ⟨_, rfl, writes_of_stops hs hdata rfl⟩
    | interrupt message =>
      obtain ⟨outcome, hrun, hwrites⟩ := ih { s with writes := later } data hdata rfl
      have hsame : Writes { s with writes := later, body := s.body ++ [] } data outcome := by
        rwa [List.append_nil]
      rw [hwrite]
      exact ⟨outcome, hrun, hsame.cons hs rfl rfl (Nat.zero_le _) fun _ => rfl⟩
    | accept most =>
      cases most with
      | zero =>
        rw [hwrite]
        refine ⟨_, rfl, ?_⟩
        simpa using writes_of_stops hs hdata rfl
      | succ most =>
        obtain ⟨count, hwrite, hfront, hmore⟩ := write_accept hs hdata
        have hsplit := (List.take_append_drop (count + 1) data).symm
        rw [hwrite]
        let next : ScriptedSink :=
          { s with writes := later, body := s.body ++ data.take (count + 1) }
        suffices ∃ outcome, Sink.writeWithin (later.length + 1) next (data.drop (count + 1))
            = some outcome ∧ next.Writes (data.drop (count + 1)) outcome by
          obtain ⟨outcome, hrun, hwrites⟩ := this
          exact ⟨outcome, hrun, hwrites.cons hs hsplit rfl hfront hmore⟩
        -- an answer that takes all of the data ends the loop with no further attempt
        rcases eq_or_ne (data.drop (count + 1)) [] with hrest | hrest
        · rw [hrest]
          exact ⟨_, Sink.writeWithin_nil _ next, next.writes_nil⟩
        · exact ih next _ hrest rfl

end ScriptedSink

/-! ### Through layers -/

/-- How many bytes an attempt took. -/
def Attempt.taken : Attempt → ℕ
  | accepted count => count
  | interrupted _ => 0
  | failed _ => 0

/-- A status layer counts what the sink below took. -/
theorem StatusLayer.write_counts {ω : Type} [Sink ω] (l : StatusLayer ω) (data : Bytes) :
    (Sink.write l data).1 = (Sink.write l.inner data).1 ∧
      (Sink.write l data).2.inner = (Sink.write l.inner data).2 ∧
      (Sink.write l data).2.bytesWritten = l.bytesWritten + (Sink.write l.inner data).1.taken := by
  show (l.write data).1 = _ ∧ (l.write data).2.inner = _ ∧ (l.write data).2.bytesWritten = _
  simp only [write, imply]
  rcases Sink.write l.inner data with ⟨_ | _ | _, inner⟩ <;> exact ⟨rfl, rfl, rfl⟩

/-- A scripted sink appends what it takes. -/
theorem ScriptedSink.write_body (s : ScriptedSink) (data : Bytes) :
    ∃ piece, (Sink.write s data).2.body = s.body ++ piece ∧
      (Sink.write s data).1.taken = piece.length := by
  show ∃ piece, (s.write data).2.body = _ ∧ (s.write data).1.taken = _
  unfold write
  split
  · exact ⟨data, rfl, rfl⟩
  · rename_i most later heq
    refine ⟨data.take (min most data.length), rfl, ?_⟩
    rw [List.length_take, Nat.min_eq_left (Nat.min_le_right _ _)]
    rfl
  · exact ⟨[], (List.append_nil _).symm, rfl⟩
  · exact ⟨[], (List.append_nil _).symm, rfl⟩

namespace Stack

variable {τ σ : Type}

/-- What the status layers of a tower count, from the outside in. -/
def counts : (s : Stack) → Writer τ σ s → List ℕ
  | bottom, _ => []
  | status below, w => StatusLayer.bytesWritten w :: counts below (StatusLayer.inner w)
  | commit below, w => counts below (CommitLayer.inner w)
  | pass below, w => counts below (PassLayer.inner w)
  | gzip below, w => counts below (GzipLayer.inner w)

variable [MemberStream τ] [Sink σ]

/-- **One attempt on a tower** that does not compress is one on its bottom, and every status layer
counts what that took. -/
theorem write_forwards (s : Stack) (hs : s.gzips = 0) (w : s.Writer τ σ) (data : Bytes) :
    Sink.write (s.base w) data = (Sink.write w data).map id s.base ∧
      s.counts (Sink.write w data).2
        = (s.counts w).map (· + (Sink.write w data).1.taken) := by
  induction s with
  | bottom => exact ⟨rfl, rfl⟩
  | gzip below => exact absurd hs (Nat.succ_ne_zero _)
  | commit below ih => exact ih hs (CommitLayer.inner w)
  | pass below ih => exact ih hs (PassLayer.inner w)
  | status below ih =>
    let l : StatusLayer (below.Writer τ σ) := w
    obtain ⟨hbase, hcounts⟩ := ih hs l.inner
    obtain ⟨hattempt, hinner, hwritten⟩ := l.write_counts data
    constructor
    · exact hbase.trans (Prod.ext hattempt.symm (congrArg below.base hinner.symm))
    · show (Sink.write l data).2.bytesWritten :: below.counts (Sink.write l data).2.inner
        = (l.bytesWritten :: below.counts l.inner).map (· + (Sink.write l data).1.taken)
      rw [hwritten, hinner, hcounts, hattempt, List.map_cons]

/-- Through the whole loop, the counts grow as the body does. -/
theorem writeAll_counts (s : Stack) (hs : s.gzips = 0) (w : s.Writer τ ScriptedSink)
    (data : Bytes) :
    ∃ piece, (s.base (Sink.writeAll w data).2).body = (s.base w).body ++ piece ∧
      s.counts (Sink.writeAll w data).2 = (s.counts w).map (· + piece.length) := by
  have hone : Sink.OutlastsWrites fun w' : s.Writer τ ScriptedSink =>
      ∃ piece, (s.base w').body = (s.base w).body ++ piece ∧
        s.counts w' = (s.counts w).map (· + piece.length) := by
    rintro w' ⟨piece, hbody, hcounts⟩ data
    obtain ⟨hbase, hgrown⟩ := s.write_forwards hs w' data
    obtain ⟨more, hmore, htaken⟩ := (s.base w').write_body data
    rw [hbase] at hmore htaken
    refine ⟨piece ++ more, ?_, ?_⟩
    · rw [← List.append_assoc, ← hbody]
      exact hmore
    · rw [hgrown, hcounts, List.map_map, List.length_append]
      refine List.map_congr_left fun count _ => ?_
      show count + piece.length + _ = _
      rw [Nat.add_assoc]
      exact congrArg (fun taken => count + (piece.length + taken)) htaken
  exact hone.writeAll ⟨[], (List.append_nil _).symm, by simp⟩ data

/-- **A repeated write through any layers that forward** ends after at most one attempt more than
the sink below has answers prescribed. It succeeds if the sink took all the bytes, and fails
otherwise with the first answer that does not let it go on: one that takes nothing, or a failure
other than the wish to be asked again. What the sink took was appended to its body, from the first
byte on and without a gap, and was counted by each of the status layers, whatever the outcome. -/
theorem writeAll_ends (s : Stack) (hs : s.gzips = 0) (w : s.Writer τ ScriptedSink) (data : Bytes) :
    let (result, w') := Sink.writeAll w data
    Sink.writeWithin ((s.base w).writes.length + 1) w data = some (result, w') ∧
      ∃ (asked later : List ScriptedWrite) (taken left : Bytes),
        (s.base w).writes = asked ++ later ∧ data = taken ++ left ∧
          ScriptedSink.Ends asked later taken left result ∧
          s.base w' = (s.base w).after later taken result ∧
          s.counts w' = (s.counts w).map (· + taken.length) := by
  obtain ⟨⟨result, sink⟩, hrun, asked, later, taken, left, hasked, hsplit, hends, hafter⟩ :=
    (s.base w).writeWithin_ends data
  have hforwards := Sink.writeWithin_map (fun w data => (s.write_forwards hs w data).1)
    ((s.base w).writes.length + 1) w data
  rw [hrun] at hforwards
  -- the loop on the tower has come to an end as well
  obtain ⟨⟨result', w'⟩, houtcome, hsame⟩ := Option.map_eq_some_iff.mp hforwards.symm
  obtain ⟨rfl, hbase⟩ : result' = result ∧ s.base w' = (s.base w).after later taken result :=
    ⟨congrArg Prod.fst hsame, (congrArg Prod.snd hsame).trans hafter⟩
  have hall := Sink.writeAll_of_writeWithin houtcome
  obtain ⟨piece, hbody, hcounts⟩ := s.writeAll_counts hs w data
  rw [hall] at hbody hcounts ⊢
  refine ⟨houtcome, asked, later, taken, left, hasked, hsplit, hends, hbase, ?_⟩
  rw [hbase] at hbody
  rw [hcounts, ← List.append_cancel_left hbody]

/-- Two status layers and a commit layer over a sink that has to be asked again, takes two bytes and
one, and then breaks: three of five bytes have arrived, and both layers have counted them. -/
theorem writeAll_ends_layers :
    let s : Stack := .status (.commit (.status .bottom))
    let broken : StreamError := ⟨.brokenPipe, "broken pipe"⟩
    let sink : ScriptedSink :=
      { writes := [.interrupt "again", .accept 2, .accept 1, .fail broken, .accept 7]
        body := [0] }
    let layered : StatusLayer (CommitLayer (StatusLayer ScriptedSink)) := ⟨⟨⟨sink, none, 1, false⟩,
      false⟩, none, 4, false⟩
    let w : s.Writer Stored ScriptedSink := layered
    let outcome := Sink.writeAll w [1, 2, 3, 4, 5]
    s.gzips = 0 ∧ outcome.1 = .error broken ∧ (s.base outcome.2).body = [0, 1, 2, 3] ∧
      (s.base outcome.2).writes = [.accept 7] ∧ s.counts outcome.2 = [7, 4] ∧
      ∃ taken, s.counts outcome.2 = (s.counts w).map (· + taken) := by
  intro s broken sink layered w outcome
  obtain ⟨hattempts, -, -, taken, -, -, -, -, -, hcounts⟩ :=
    writeAll_ends s rfl w [1, 2, 3, 4, 5]
  -- the attempts can be carried out one by one
  have hrun : Sink.writeWithin 6 w [1, 2, 3, 4, 5] = some (.error broken, _) := rfl
  have houtcome : outcome = _ := Option.some.inj (hattempts.symm.trans hrun)
  refine ⟨rfl, ?_, ?_, ?_, ?_, taken.length, hcounts⟩ <;> rw [houtcome] <;> rfl

end Stack

end HttpPipeline
