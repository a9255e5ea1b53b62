import HttpPipeline.Proofs.Response.Flushing
import HttpPipeline.Proofs.Response.TakeOver

/-!
# What is noted after a take-over

Whoever takes a connection over may go on making requests of the response, by mistake or because
it does not know. The sink at the bottom has let go: it refuses to flush, and nothing gives the
connection back (`Sink.Detaches`). The layers of a tower over it behave so as well
(`Stack.detaches`).

A status layer takes note of a status and of a write without asking whether the connection is still
there. So its status after a take-over depends on what reaches it (`Sink.Watches`). A flush is
refused below and leaves no trace. A status or a write is noted, if it is the first. But a
compression layer that the take-over has passed through lets no request pass any more but header
edits and further attempts, so a status layer further in is *shielded*. The layers in between are
added one at a time.
-/

namespace HttpPipeline

/-! ### Sinks that let go of their connection -/

namespace Sink

/-- **Letting go of a connection.** Once it was taken over it stays gone, and no flush succeeds. -/
structure Detaches {ω : Type} [Sink ω] (gone : ω → Prop) : Prop where
  outlasts : Outlasts .all gone
  flush : ∀ {w}, gone w → ∃ fault, (Sink.flush w).1 = .error fault
  hijack : ∀ {w answer waiting}, (Sink.hijack w answer).1 = .ok waiting →
    gone (Sink.hijack w answer).2

end Sink

/-- A recorder lets go of its connection. -/
theorem Recorder.detaches : Sink.Detaches fun r : Recorder => r.hijacked = true where
  outlasts :=
    { setHeaders := fun h _ _ => h
      sendStatus := by
        intro r h code
        show (r.sendStatus code).hijacked = true
        rw [Recorder.sendStatus, if_pos h]
        exact h
      write := by
        intro r h data
        show (r.write data).2.hijacked = true
        rw [Recorder.write, if_pos h]
        exact h
      flush := by
        intro _ r h
        show r.flush.2.hijacked = true
        rw [Recorder.flush, if_pos h]
        exact h
      hijack := by
        intro _ r h answer
        show (r.hijack answer).2.hijacked = true
        rw [Recorder.hijack, if_pos h]
        exact h }
  flush := fun {r} h => ⟨.hijacked, congrArg Prod.fst (if_pos h : r.flush = _)⟩
  hijack := by
    intro r answer waiting h
    change (r.hijack answer).1 = _ at h
    show (r.hijack answer).2.hijacked = true
    unfold Recorder.hijack at h ⊢
    -- a recorder that was taken over refuses
    split_ifs at h ⊢
    split at h
    · exact absurd h (by simp)
    · rfl

/-- **A layer relays a take-over**: it asks the sink below, and answers as that does. -/
structure Sink.Relays {ω ω' : Type} [Sink ω] [Sink ω'] (below : ω' → ω) : Prop where
  answer : ∀ l answer, (Sink.hijack l answer).1 = (Sink.hijack (below l) answer).1
  below : ∀ l answer, below (Sink.hijack l answer).2 = (Sink.hijack (below l) answer).2

section Layers

variable {ω : Type} [Sink ω] {gone : ω → Prop}

theorem StatusLayer.relays : Sink.Relays (StatusLayer.inner : StatusLayer ω → ω) where
  answer := by
    intro l answer
    show (l.hijack answer).1 = _
    unfold StatusLayer.hijack
    split <;> rename_i heq <;> rw [heq]
  below := StatusLayer.hijack_inner

theorem CommitLayer.relays : Sink.Relays (CommitLayer.inner : CommitLayer ω → ω) where
  answer := by
    intro l answer
    show (l.hijack answer).1 = _
    unfold CommitLayer.hijack
    split <;> rename_i heq <;> rw [heq]
  below := CommitLayer.hijack_inner

theorem GzipLayer.relays {τ : Type} [MemberStream τ] :
    Sink.Relays (GzipLayer.inner : GzipLayer τ ω → ω) where
  answer := by
    intro l answer
    show (l.hijack answer).1 = _
    unfold GzipLayer.hijack
    split <;> rename_i heq <;> rw [heq]
  below := GzipLayer.hijack_inner

/-- A take-over that was relayed has let go below. -/
theorem Sink.Detaches.relayed {ω' : Type} [Sink ω'] {below : ω' → ω} (h : Sink.Detaches gone)
    (hrelays : Sink.Relays below) {l : ω'} {answer waiting : Bytes}
    (hgranted : (Sink.hijack l answer).1 = .ok waiting) :
    gone (below (Sink.hijack l answer).2) := by
  rw [hrelays.below]
  exact h.hijack ((hrelays.answer l answer).symm.trans hgranted)

theorem StatusLayer.detaches (h : Sink.Detaches gone) :
    Sink.Detaches fun l : StatusLayer ω => gone l.inner where
  outlasts := StatusLayer.outlasts h.outlasts
  flush := by
    intro l hl
    rw [l.flush_inner.1]
    exact h.flush hl
  hijack := h.relayed StatusLayer.relays

theorem CommitLayer.detaches (h : Sink.Detaches gone) :
    Sink.Detaches fun l : CommitLayer ω => gone l.inner where
  outlasts := CommitLayer.outlasts h.outlasts
  flush := by
    intro l hl
    rw [l.flush_inner.1]
    exact h.flush hl
  hijack := h.relayed CommitLayer.relays

theorem PassLayer.detaches (h : Sink.Detaches gone) :
    Sink.Detaches fun l : PassLayer ω => gone l.inner where
  outlasts := PassLayer.outlasts h.outlasts
  flush := by
    intro l hl
    cases hclosed : l.closed with
    | true => exact ⟨_, congrArg Prod.fst (PassLayer.flush_closed hclosed)⟩
    | false =>
      rw [(PassLayer.flush_open hclosed).1]
      exact h.flush hl
  hijack := by
    intro l answer waiting hgranted
    change (l.hijack answer).1 = _ at hgranted
    show gone (l.hijack answer).2.inner
    unfold PassLayer.hijack at hgranted ⊢
    split_ifs at hgranted ⊢
    exact h.hijack hgranted

/-- **A compression layer** brings its decision about before it flushes, and whatever comes of that,
the flush fails below at the latest. -/
theorem GzipLayer.detaches {τ : Type} [MemberStream τ] (h : Sink.Detaches gone) :
    Sink.Detaches fun l : GzipLayer τ ω => gone l.inner where
  outlasts := GzipLayer.outlasts (fun _ _ => trivial) h.outlasts
  flush := by
    intro l hl
    have hcommit := GzipLayer.outlasts_commit (fun _ _ => trivial) h.outlasts hl
    show ∃ fault, l.flush.1 = .error fault
    unfold GzipLayer.flush
    split_ifs
    · exact ⟨_, rfl⟩
    · simp only
      split
      · exact ⟨_, rfl⟩
      -- the stream writes to a sink that is gone before the flush is passed on
      · split
        · have hstream :=
            MemberStream.flush_outlasts h.outlasts.writes hcommit l.commit.stream
          split
          · exact ⟨_, rfl⟩
          · rename_i heq
            rw [heq] at hstream
            exact h.flush hstream
        · exact h.flush hcommit
  hijack := h.relayed GzipLayer.relays

end Layers

/-- **A tower lets go** of the connection that its bottom lets go of. -/
theorem Stack.detaches {τ σ : Type} [MemberStream τ] [Sink σ] {gone : σ → Prop}
    (h : Sink.Detaches gone) (s : Stack) :
    Sink.Detaches fun w : s.Writer τ σ => gone (s.base w) := by
  induction s with
  | bottom => exact h
  | status below ih => exact StatusLayer.detaches ih
  | commit below ih => exact CommitLayer.detaches ih
  | pass below ih => exact PassLayer.detaches ih
  | gzip below ih => exact GzipLayer.detaches ih

/-! ### A status that is watched -/

/-- The status that a layer has seen when one more is given. A layer that is shielded does not see
it. -/
def latch (shielded : Bool) (seen given : Option Status) : Option Status :=
  if shielded then seen else seen.or given

theorem latch_none (shielded : Bool) (seen : Option Status) : latch shielded seen none = seen := by
  unfold latch
  rw [Option.or_none, ite_self]

theorem latch_latch (shielded : Bool) (seen given later : Option Status) :
    latch shielded (latch shielded seen given) later = latch shielded seen (given.or later) := by
  cases shielded
  · exact Option.or_assoc
  · rfl

/-- A layer that is not shielded has seen a status when it was given one. -/
theorem latch_some (shielded : Bool) (seen : Option Status) (code : Status) :
    shielded = true ∨ (latch shielded seen (some code)).isSome := by
  cases shielded
  · exact .inr (by cases seen <;> rfl)
  · exact .inl rfl

namespace Sink

/-- **Watching a connection** that may be taken over. Before it is, the sink is idle, and
afterwards it has seen some status. -/
structure Watches {ω : Type} [Sink ω] (shielded : Bool) (idle : ω → Prop)
    (taken : Option Status → ω → Prop) : Prop where
  edit : ∀ {w}, idle w → ∀ headers, idle (Sink.setHeaders w headers)
  refuse : ∀ {w answer fault}, idle w → (Sink.hijack w answer).1 = .error fault →
    idle (Sink.hijack w answer).2
  grant : ∀ {w answer waiting}, idle w → (Sink.hijack w answer).1 = .ok waiting →
    taken none (Sink.hijack w answer).2
  setHeaders : ∀ {seen w}, taken seen w → ∀ headers, taken seen (Sink.setHeaders w headers)
  sendStatus : ∀ {seen w}, taken seen w → ∀ code,
    taken (latch shielded seen (some code)) (Sink.sendStatus w code)
  write : ∀ {seen w}, taken seen w → ∀ data,
    taken (latch shielded seen (some 200)) (Sink.write w data).2
  flush : ∀ {seen w}, taken seen w →
    (∃ fault, (Sink.flush w).1 = .error fault) ∧ taken seen (Sink.flush w).2
  hijack : ∀ {seen w}, taken seen w → ∀ answer, taken seen (Sink.hijack w answer).2

namespace Watches

variable {ω : Type} [Sink ω] {shielded : Bool} {idle : ω → Prop}
  {taken : Option Status → ω → Prop} {seen : Option Status} {w : ω}

/-- A status that was seen is not replaced. -/
theorem writes (h : Watches shielded idle taken) (seen : Option Status) (code : Status) :
    OutlastsWrites (taken (latch shielded seen (some code))) := by
  intro w hw data
  have hwritten := h.write hw data
  rwa [latch_latch, Option.some_or] at hwritten

/-- **Writing everything** is a write, and more of them. -/
theorem writeAll (h : Watches shielded idle taken) (hw : taken seen w) {data : Bytes}
    (hdata : data ≠ []) : taken (latch shielded seen (some 200)) (Sink.writeAll w data).2 := by
  have hwritten := h.write hw data
  have hmore := h.writes seen 200
  rw [Sink.writeAll, if_neg (by simpa using hdata)]
  split <;> rename_i heq <;> rw [heq] at hwritten
  · exact hwritten
  · exact hmore.writeAll hwritten _
  · exact hmore.writeAll hwritten _
  · exact hwritten

/-- **A call on a connection that is gone.** A status and a write are seen, a flush is not. -/
theorem perform (h : Watches shielded idle taken) (hw : taken seen w) (call : Call) :
    taken (latch shielded seen (call.given? none)) (call.perform w).2 := by
  -- a call that gives no status leaves what is latched
  have hsame {w' : ω} {call : Call} (hgiven : call.given? none = none) (hw' : taken seen w') :
      taken (latch shielded seen (call.given? none)) w' := by
    rwa [hgiven, latch_none]
  have hheader {call : Call} (hcall : call.isHeader = true) :
      taken (latch shielded seen (call.given? none)) (call.perform w).2 := by
    refine hsame (Call.given?_of_isHeader hcall).1 ?_
    rcases Call.perform_isHeader hcall w with hkept | ⟨headers, hset⟩
    · rwa [hkept]
    · rw [hset]
      exact h.setHeaders hw headers
  cases call with
  | set name value => exact hheader rfl
  | append name value => exact hheader rfl
  | remove name => exact hheader rfl
  | get name => exact hheader rfl
  | status code =>
    by_cases hvalid : Status.valid code = true
    · have hgiven : (Call.status code).given? none = some code := if_pos hvalid
      rw [Call.perform, if_pos hvalid, hgiven]
      exact h.sendStatus hw code
    · rw [Call.perform, if_neg hvalid]
      exact hsame (if_neg hvalid) hw
  | write data => exact h.write hw data
  | writeAll data =>
    by_cases hdata : data = []
    · subst hdata
      rw [Call.perform, Sink.writeAll_nil]
      exact hsame rfl hw
    · have hgiven : (Call.writeAll data).given? none = some 200 := if_neg (by simpa using hdata)
      rw [hgiven]
      exact h.writeAll hw hdata
  | flush => exact hsame rfl (h.flush hw).2
  | hijack answer => exact hsame rfl (h.hijack hw answer)
  | errorReply code message =>
    by_cases hvalid : Status.valid code = true
    · have hgiven : (Call.errorReply code message).given? none = some code := if_pos hvalid
      rw [Call.perform, if_pos hvalid, hgiven]
      -- the status is seen first, so the message implies nothing
      exact (h.writes seen code).writeAll (h.sendStatus (h.setHeaders hw _) code) _
    · rw [Call.perform, if_neg hvalid]
      exact hsame (if_neg hvalid) hw

/-- **Any number of calls** on a connection that is gone. The first status or write is seen. -/
theorem performAll (h : Watches shielded idle taken) (hw : taken seen w) (calls : List Call) :
    taken (latch shielded seen (calls.findSome? (Call.given? none)))
      (Call.performAll calls w).2 := by
  induction calls generalizing seen w with
  | nil =>
    rw [List.findSome?_nil, latch_none]
    exact hw
  | cons call calls ih =>
    have hrest := ih (h.perform hw call)
    rw [latch_latch] at hrest
    rw [List.findSome?_cons]
    cases hgiven : call.given? none <;> rw [hgiven] at hrest <;> exact hrest

/-- **Calls without a status** find the sink idle and leave it so, or have taken it over. -/
theorem perform_silent (h : Watches shielded idle taken) (hw : idle w ∨ taken none w)
    {call : Call} (hcall : call.status? = none) :
    idle (call.perform w).2 ∨ taken none (call.perform w).2 := by
  rcases hw with hidle | htaken
  -- an idle sink stays idle, unless the call takes it over
  · have hheader (hheader : call.isHeader = true) : idle (call.perform w).2 := by
      rcases Call.perform_isHeader hheader w with hkept | ⟨headers, hset⟩
      · rwa [hkept]
      · rw [hset]
        exact h.edit hidle headers
    cases call with
    | set name value => exact .inl (hheader rfl)
    | append name value => exact .inl (hheader rfl)
    | remove name => exact .inl (hheader rfl)
    | get name => exact .inl (hheader rfl)
    | hijack answer =>
      rcases hanswer : (Sink.hijack w answer).1 with fault | waiting
      · exact .inl (h.refuse hidle hanswer)
      · exact .inr (h.grant hidle hanswer)
    | writeAll data =>
      -- it writes nothing, so the sink is not asked
      have hdata : data = [] := by
        by_contra hdata
        have hgiven : (Call.writeAll data).status? = some 200 := if_neg (by simpa using hdata)
        exact absurd (hgiven.symm.trans hcall) (by simp)
      subst hdata
      rw [Call.perform, Sink.writeAll_nil]
      exact .inl hidle
    | status code =>
      -- a code that the call passes on would be a status given
      have hvalid : ¬ Status.valid code = true := fun hvalid => by
        have hgiven : (Call.status code).status? = some code := if_pos hvalid
        exact absurd (hgiven.symm.trans hcall) (by simp)
      rw [Call.perform, if_neg hvalid]
      exact .inl hidle
    | errorReply code message =>
      have hvalid : ¬ Status.valid code = true := fun hvalid => by
        have hgiven : (Call.errorReply code message).status? = some code := if_pos hvalid
        exact absurd (hgiven.symm.trans hcall) (by simp)
      rw [Call.perform, if_neg hvalid]
      exact .inl hidle
    | write data => exact absurd hcall (by simp [Call.status?])
    | flush => exact absurd hcall (by simp [Call.status?])
  -- once taken over, what was noted changes with the status given alone
  · have hgiven : call.given? none = none := by
      cases call <;> first | exact hcall | rfl
    have hperformed := h.perform htaken call
    rw [hgiven, latch_none] at hperformed
    exact .inr hperformed

theorem performAll_silent (h : Watches shielded idle taken) (hw : idle w ∨ taken none w)
    {calls : List Call} (hcalls : ∀ call ∈ calls, call.status? = none) :
    idle (Call.performAll calls w).2 ∨ taken none (Call.performAll calls w).2 := by
  induction calls generalizing w with
  | nil => exact hw
  | cons call calls ih =>
    exact ih (h.perform_silent hw (hcalls call List.mem_cons_self)) fun later hlater =>
      hcalls later (List.mem_cons_of_mem _ hlater)

/-- **Taken over before any status.** What is seen in the end is the first status or write after
the take-over. -/
theorem performAll_taken (h : Watches shielded idle taken) (hw : idle w) {first later : List Call}
    {answer waiting : Bytes} (hfirst : ∀ call ∈ first, call.status? = none)
    (hgranted : (Sink.hijack (Call.performAll first w).2 answer).1 = .ok waiting) :
    taken (latch shielded none (later.findSome? (Call.given? none)))
      (Call.performAll (first ++ .hijack answer :: later) w).2 := by
  have htaken : taken none (Sink.hijack (Call.performAll first w).2 answer).2 := by
    rcases h.performAll_silent (.inl hw) hfirst with hidle | htaken
    · exact h.grant hidle hgranted
    · exact h.hijack htaken answer
  rw [Call.performAll_append]
  exact h.performAll htaken later

/-- **A take-over that a layer relays** is refused or granted by the sink below. -/
theorem relay_refused {ω' : Type} [Sink ω'] {below : ω' → ω} (h : Watches shielded idle taken)
    (hrelays : Relays below) {l : ω'} (hl : idle (below l)) {answer : Bytes} {fault : Fault}
    (hrefused : (Sink.hijack l answer).1 = .error fault) :
    idle (below (Sink.hijack l answer).2) := by
  rw [hrelays.below]
  exact h.refuse hl ((hrelays.answer l answer).symm.trans hrefused)

theorem relay_granted {ω' : Type} [Sink ω'] {below : ω' → ω} (h : Watches shielded idle taken)
    (hrelays : Relays below) {l : ω'} (hl : idle (below l)) {answer waiting : Bytes}
    (hgranted : (Sink.hijack l answer).1 = .ok waiting) :
    taken none (below (Sink.hijack l answer).2) := by
  rw [hrelays.below]
  exact h.grant hl ((hrelays.answer l answer).symm.trans hgranted)

theorem relay_hijack {ω' : Type} [Sink ω'] {below : ω' → ω} (h : Watches shielded idle taken)
    (hrelays : Relays below) {l : ω'} (hl : taken seen (below l)) (answer : Bytes) :
    taken seen (below (Sink.hijack l answer).2) := by
  rw [hrelays.below]
  exact h.hijack hl answer

end Watches

end Sink

/-! ### The layer that watches, and layers in front of it -/

section Layers

variable {ω : Type} [Sink ω] {shielded : Bool} {idle : ω → Prop}
  {taken : Option Status → ω → Prop}

namespace StatusLayer

/-- A status layer that has noted a take-over, over a sink that is gone. -/
def Noted (gone : ω → Prop) (seen : Option Status) (l : StatusLayer ω) : Prop :=
  l.status = seen ∧ l.hijacked = true ∧ gone l.inner

omit [Sink ω] in
/-- **What the layer reports** after a take-over. -/
theorem Noted.effectiveStatus {gone : ω → Prop} {seen : Option Status} {l : StatusLayer ω}
    (h : Noted gone seen l) : l.effectiveStatus = seen.getD 101 := by
  obtain ⟨rfl, hhijacked, -⟩ := h
  rw [StatusLayer.effectiveStatus, hhijacked, if_pos rfl]

/-- **A status layer watches** what it is asked, also on a connection that is gone. -/
theorem watches {gone : ω → Prop} (h : Sink.Detaches gone) :
    Sink.Watches false (fun l : StatusLayer ω => l.status = none) (Noted gone) where
  edit := fun hl _ => hl
  refuse := by
    intro l answer fault hl _
    show (l.hijack answer).2.status = none
    unfold StatusLayer.hijack
    split <;> exact hl
  grant := by
    intro l answer waiting hl hgranted
    have hgone := h.relayed StatusLayer.relays hgranted
    change (l.hijack answer).1 = _ at hgranted
    change gone (l.hijack answer).2.inner at hgone
    show Noted gone none (l.hijack answer).2
    refine ⟨?_, ?_, hgone⟩
    · unfold StatusLayer.hijack
      split <;> exact hl
    · unfold StatusLayer.hijack at hgranted ⊢
      split at hgranted
      · rfl
      · exact absurd hgranted (by simp)
  setHeaders := fun hl _ => ⟨hl.1, hl.2.1, h.outlasts.setHeaders hl.2.2 trivial⟩
  sendStatus := by
    rintro _ l ⟨rfl, hhijacked, hgone⟩ code
    show Noted gone (l.status.or (some code)) (l.sendStatus code)
    -- only the first status is kept, and only that one went below
    unfold StatusLayer.sendStatus
    split <;> rename_i hstatus
    · exact ⟨by rw [hstatus, Option.some_or], hhijacked, hgone⟩
    · exact ⟨by rw [hstatus, Option.none_or], hhijacked, h.outlasts.sendStatus hgone code⟩
  write := by
    rintro _ l ⟨rfl, hhijacked, hgone⟩ data
    have hbelow := h.outlasts.write hgone data
    -- a write notes 200 where no status was noted
    have hseen : (l.imply 200).status = l.status.or (some 200) := by
      unfold imply
      cases l.status <;> rfl
    show Noted gone (l.status.or (some 200)) (l.write data).2
    unfold StatusLayer.write
    simp only
    split <;> rename_i heq <;> rw [show (l.imply 200).inner = l.inner from rfl] at heq <;>
      rw [heq] at hbelow <;> exact ⟨hseen, hhijacked, hbelow⟩
  flush := by
    rintro _ l ⟨rfl, hhijacked, hgone⟩
    obtain ⟨fault, hrefused⟩ := h.flush hgone
    have hbelow := h.outlasts.flush trivial hgone
    show (∃ fault, l.flush.1 = _) ∧ Noted gone l.status l.flush.2
    unfold StatusLayer.flush
    split <;> rename_i heq <;> rw [heq] at hrefused hbelow
    · exact absurd hrefused (by simp)
    · exact ⟨⟨_, rfl⟩, rfl, hhijacked, hbelow⟩
  hijack := by
    rintro _ l ⟨rfl, hhijacked, hgone⟩ answer
    have hbelow := h.outlasts.hijack trivial hgone answer
    show Noted gone l.status (l.hijack answer).2
    unfold StatusLayer.hijack
    split <;> rename_i heq <;> rw [heq] at hbelow
    · exact ⟨rfl, rfl, hbelow⟩
    · exact ⟨rfl, hhijacked, hbelow⟩

/-- A status layer in front of a sink that watches. It drops a status only after another, and then
the sink below has seen one, or is shielded. -/
def Fronts (shielded : Bool) (taken : Option Status → ω → Prop) (seen : Option Status)
    (l : StatusLayer ω) : Prop :=
  taken seen l.inner ∧ (l.status.isSome → shielded = true ∨ seen.isSome)

theorem watches_front (h : Sink.Watches shielded idle taken) :
    Sink.Watches shielded (fun l : StatusLayer ω => idle l.inner ∧ l.status = none)
      (Fronts shielded taken) where
  edit := fun hl headers => ⟨h.edit hl.1 headers, hl.2⟩
  refuse := by
    intro l answer fault hl hrefused
    refine ⟨h.relay_refused StatusLayer.relays hl.1 hrefused, ?_⟩
    show (l.hijack answer).2.status = none
    unfold StatusLayer.hijack
    split <;> exact hl.2
  grant := by
    intro l answer waiting hl hgranted
    -- a take-over notes no status, so the layer has none to stand for
    have hnone : (l.hijack answer).2.status = none := by
      unfold StatusLayer.hijack
      split <;> exact hl.2
    refine ⟨h.relay_granted StatusLayer.relays hl.1 hgranted, fun hsome => ?_⟩
    change (l.hijack answer).2.status.isSome at hsome
    rw [hnone] at hsome
    exact absurd hsome Bool.false_ne_true
  setHeaders := fun hl headers => ⟨h.setHeaders hl.1 headers, hl.2⟩
  sendStatus := by
    intro seen l hl code
    show Fronts shielded taken (latch shielded seen (some code)) (l.sendStatus code)
    unfold StatusLayer.sendStatus
    split <;> rename_i hstatus
    · -- dropped here, and it would change nothing below
      have hsame : latch shielded seen (some code) = seen := by
        unfold latch
        rcases hl.2 (by rw [hstatus]; rfl) with hshielded | hseen
        · rw [if_pos hshielded]
        · obtain ⟨first, rfl⟩ := Option.isSome_iff_exists.mp hseen
          rw [Option.some_or, ite_self]
      rw [hsame]
      exact hl
    · exact ⟨h.sendStatus hl.1 code, fun _ => latch_some shielded seen code⟩
  write := by
    intro seen l hl data
    have hbelow := h.write hl.1 data
    show Fronts shielded taken (latch shielded seen (some 200)) (l.write data).2
    unfold StatusLayer.write
    simp only
    split <;> rename_i heq <;> rw [show (l.imply 200).inner = l.inner from rfl] at heq <;>
      rw [heq] at hbelow <;> exact ⟨hbelow, fun _ => latch_some shielded seen 200⟩
  flush := by
    intro seen l hl
    obtain ⟨⟨fault, hrefused⟩, hbelow⟩ := h.flush hl.1
    show (∃ fault, l.flush.1 = _) ∧ Fronts shielded taken seen l.flush.2
    unfold StatusLayer.flush
    split <;> rename_i heq <;> rw [heq] at hrefused hbelow
    · exact absurd hrefused (by simp)
    · exact ⟨⟨_, rfl⟩, hbelow, hl.2⟩
  hijack := by
    intro seen l hl answer
    have hbelow := h.hijack hl.1 answer
    show Fronts shielded taken seen (l.hijack answer).2
    unfold StatusLayer.hijack
    split <;> rename_i heq <;> rw [heq] at hbelow <;> exact ⟨hbelow, hl.2⟩

end StatusLayer

namespace CommitLayer

/-- **A commit layer** in front of a sink that watches. The take-over has committed the response. -/
theorem watches_front (h : Sink.Watches shielded idle taken) :
    Sink.Watches shielded (fun l : CommitLayer ω => idle l.inner)
      (fun seen l => taken seen l.inner ∧ l.written = true) where
  edit := fun hl headers => h.edit hl headers
  refuse := fun hl hrefused => h.relay_refused CommitLayer.relays hl hrefused
  grant := by
    intro l answer waiting hl hgranted
    refine ⟨h.relay_granted CommitLayer.relays hl hgranted, ?_⟩
    change (l.hijack answer).1 = _ at hgranted
    show (l.hijack answer).2.written = true
    unfold CommitLayer.hijack at hgranted ⊢
    split at hgranted
    · rfl
    · exact absurd hgranted (by simp)
  setHeaders := fun hl headers => ⟨h.setHeaders hl.1 headers, hl.2⟩
  sendStatus := by
    intro seen l hl code
    refine ⟨h.sendStatus hl.1 code, ?_⟩
    show (l.written || Status.final code) = true
    -- the take-over has set the flag before
    rw [hl.2, Bool.true_or]
  write := fun hl data => ⟨h.write hl.1 data, rfl⟩
  flush := by
    intro seen l hl
    obtain ⟨⟨fault, hrefused⟩, hbelow⟩ := h.flush hl.1
    show (∃ fault, l.flush.1 = _) ∧ taken seen l.flush.2.inner ∧ l.flush.2.written = true
    unfold CommitLayer.flush
    split <;> rename_i heq <;> rw [heq] at hrefused hbelow
    · exact absurd hrefused (by simp)
    · exact ⟨⟨_, rfl⟩, hbelow, hl.2⟩
  hijack := by
    intro seen l hl answer
    have hbelow := h.hijack hl.1 answer
    show taken seen (l.hijack answer).2.inner ∧ (l.hijack answer).2.written = true
    unfold CommitLayer.hijack
    split <;> rename_i heq <;> rw [heq] at hbelow
    · exact ⟨hbelow, rfl⟩
    · exact ⟨hbelow, hl.2⟩

end CommitLayer

namespace GzipLayer

variable {τ : Type} [MemberStream τ]

/-- **A compression layer shields** what is below it. Once the take-over has passed through it,
neither a status nor a write does. -/
theorem watches_front (h : Sink.Watches shielded idle taken) :
    Sink.Watches true (fun l : GzipLayer τ ω => idle l.inner)
      (fun seen l => taken seen l.inner ∧ l.hijacked = true) where
  edit := fun hl headers => h.edit hl headers
  refuse := fun hl hrefused => h.relay_refused GzipLayer.relays hl hrefused
  grant := by
    intro l answer waiting hl hgranted
    refine ⟨h.relay_granted GzipLayer.relays hl hgranted, (l.hijack_hijacked answer).mpr (.inr ?_)⟩
    exact ⟨waiting, (GzipLayer.relays.answer l answer).symm.trans hgranted⟩
  setHeaders := fun hl headers => ⟨h.setHeaders hl.1 headers, hl.2⟩
  -- the status is kept here and goes no further
  sendStatus := fun hl _ => hl
  write := by
    intro seen l hl data
    have hrefused : (Sink.write l data).2 = l := by
      show (l.write data).2 = l
      rw [GzipLayer.write, if_pos hl.2]
    rw [hrefused]
    exact hl
  flush := by
    intro seen l hl
    have hrefused : Sink.flush l = (.error .hijacked, l) := flush_of_hijacked hl.2
    rw [hrefused]
    exact ⟨⟨_, rfl⟩, hl⟩
  hijack := by
    intro seen l hl answer
    exact ⟨h.relay_hijack GzipLayer.relays hl.1 answer, (l.hijack_hijacked answer).mpr (.inl hl.2)⟩

end GzipLayer

end Layers

end HttpPipeline
