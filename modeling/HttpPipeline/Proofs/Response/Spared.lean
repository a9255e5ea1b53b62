import HttpPipeline.Proofs.Response.Heads

/-!
# Headers that are left alone

The headers of a tower are those of its bottom, and an edit of them is an edit there. Most calls are
about other headers than those of interest, or about none: a call spares a header if it does not
change its values (`Call.spares`). What outlasts all requests that leave the values of some headers
as they are outlasts every call that spares these headers (`Sink.Outlasts.perform`). The same holds
without take-overs, if no call is one (`Sink.Outlasts.perform_keeping`).
-/

namespace HttpPipeline

/-! ### The headers of a tower -/

namespace Stack

variable {τ σ : Type} [MemberStream τ] [Sink σ]

/-- The headers of a tower are those of its bottom. -/
theorem headers_base (s : Stack) (w : s.Writer τ σ) : Sink.headers w = Sink.headers (s.base w) := by
  induction s with
  | bottom => rfl
  | status below ih => exact ih (StatusLayer.inner w)
  | commit below ih => exact ih (CommitLayer.inner w)
  | pass below ih => exact ih (PassLayer.inner w)
  | gzip below ih => exact ih (GzipLayer.inner w)

/-- And so they are edited. -/
theorem base_setHeaders (s : Stack) (w : s.Writer τ σ) (headers : Headers) :
    s.base (Sink.setHeaders w headers) = Sink.setHeaders (s.base w) headers := by
  induction s with
  | bottom => rfl
  | status below ih => exact ih (StatusLayer.inner w)
  | commit below ih => exact ih (CommitLayer.inner w)
  | pass below ih => exact ih (PassLayer.inner w)
  | gzip below ih => exact ih (GzipLayer.inner w)

theorem base_editHeaders (s : Stack) (w : s.Writer τ σ) (edit : Headers → Headers) :
    s.base (Sink.editHeaders w edit) = Sink.editHeaders (s.base w) edit := by
  rw [Sink.editHeaders, base_setHeaders, headers_base]
  rfl

end Stack

namespace Sink.SendsHead

variable {ω : Type} [Sink ω] {sent : ω → Option Head}

theorem headers_edit (hsent : SendsHead sent) (w : ω) (edit : Headers → Headers) :
    Sink.headers (Sink.editHeaders w edit) = edit (Sink.headers w) :=
  (hsent.setHeaders w _).1

theorem sent_edit (hsent : SendsHead sent) (w : ω) (edit : Headers → Headers) :
    sent (Sink.editHeaders w edit) = sent w :=
  (hsent.setHeaders w _).2

end Sink.SendsHead

/-! ### Calls that spare headers -/

/-- A call that leaves the values of some headers as they are. -/
def Call.spares (names : String → Bool) : Call → Bool
  | .set name _ => ((fieldName? name).all fun name => !names name)
  | .append name _ => ((fieldName? name).all fun name => !names name)
  | .remove name => ((fieldName? name).all fun name => !names name)
  -- a reply that reports an error declares its body
  | .errorReply .. =>
    ["content-length", "content-type", "x-content-type-options"].all fun name => !names name
  | _ => true

/-- All requests but take-overs that leave the values of some headers as they are. -/
def Requests.keeping (names : String → Bool) : Requests :=
  ⟨(Requests.sparing names).edit, True, False⟩

namespace Sink.Outlasts

variable {ω : Type} [Sink ω] {names : String → Bool} {P : ω → Prop} {w : ω}

/-- Among the requests that spare some headers are those that do not take over. -/
theorem keeping (hP : Outlasts (.sparing names) P) : Outlasts (.keeping names) P :=
  ⟨fun h _ hedit => hP.setHeaders h hedit, fun h => hP.sendStatus h, fun h => hP.write h,
    fun hflush _ h => hP.flush hflush h, fun hhijack => absurd hhijack id⟩

/-- An edit of one header, which is none of those that are spared. -/
theorem edit_other (hP : Outlasts (.keeping names) P) (h : P w) {name : String}
    (hname : names name = false) {edit : Headers → Headers}
    (hedit : ∀ headers other, other ≠ name → (edit headers).values other = headers.values other) :
    P (Sink.editHeaders w edit) := by
  refine hP.setHeaders h fun other hother => hedit _ other ?_
  rintro rfl
  rw [hname] at hother
  exact Bool.false_ne_true hother

/-- **A call that spares the headers** does not end it, unless it is a take-over. -/
theorem perform_keeping (hP : Outlasts (.keeping names) P) (h : P w) {call : Call}
    (hcall : call.spares names = true) (hhijack : ∀ answer, call ≠ .hijack answer) :
    P (call.perform w).2 := by
  have hother {name : Bytes} {field : String} (hfield : fieldName? name = some field)
      (hspares : ((fieldName? name).all fun name => !names name) = true) :
      names field = false := by simpa [hfield] using hspares
  cases call with
  | set name value =>
    simp only [Call.perform]
    split
    · rename_i field hfield
      split_ifs
      · exact hP.edit_other h (hother hfield hcall) fun headers _ hne =>
          headers.values_insert_of_ne value hne
      · exact h
    · exact h
  | append name value =>
    simp only [Call.perform]
    split
    · rename_i field hfield
      split_ifs
      · exact hP.edit_other h (hother hfield hcall) fun headers _ hne =>
          headers.values_append_of_ne value hne
      · exact h
    · exact h
  | remove name =>
    simp only [Call.perform]
    split
    · rename_i field hfield
      exact hP.edit_other h (hother hfield hcall) fun headers _ hne =>
        headers.values_remove_of_ne hne
    · exact h
  | get name => exact h
  | status code =>
    simp only [Call.perform]
    split_ifs
    · exact hP.sendStatus h code
    · exact h
  | write data => exact hP.write h data
  | writeAll data => exact hP.writes.writeAll h data
  | flush => exact hP.flush trivial h
  | hijack answer => exact absurd rfl (hhijack answer)
  | errorReply code message =>
    simp only [Call.perform]
    split_ifs
    · refine hP.writes.writeAll (hP.sendStatus (hP.setHeaders h fun other hspared => ?_) code) _
      -- the kept names are spared by the call, so none of them is one of the three fields
      have hne {name : String}
          (hname : name ∈ ["content-length", "content-type", "x-content-type-options"]) :
          other ≠ name := by
        rintro rfl
        have hnot := List.all_eq_true.mp hcall other hname
        simp [hspared] at hnot
      rw [Headers.values_insert_of_ne _ _ (hne (by simp)),
        Headers.values_insert_of_ne _ _ (hne (by simp)),
        Headers.values_remove_of_ne _ (hne (by simp))]
    · exact h

/-- If take-overs do not end it either, no call does that spares the headers. -/
theorem perform (hP : Outlasts (.sparing names) P) (h : P w) {call : Call}
    (hcall : call.spares names = true) : P (call.perform w).2 := by
  by_cases hhijack : ∃ answer, call = .hijack answer
  · obtain ⟨answer, rfl⟩ := hhijack
    exact hP.hijack trivial h answer
  · exact hP.keeping.perform_keeping h hcall fun answer heq => hhijack ⟨answer, heq⟩

theorem performAll (hP : Outlasts (.sparing names) P) (h : P w) {calls : List Call}
    (hcalls : ∀ call ∈ calls, call.spares names = true) : P (Call.performAll calls w).2 := by
  induction calls generalizing w with
  | nil => exact h
  | cons call calls ih =>
    exact ih (hP.perform h (hcalls call List.mem_cons_self)) fun later hlater =>
      hcalls later (List.mem_cons_of_mem _ hlater)

/-- **Any number of calls** that spare the headers and take nothing over. -/
theorem performAll_keeping (hP : Outlasts (.keeping names) P) (h : P w) {calls : List Call}
    (hcalls : ∀ call ∈ calls, call.isPlain = true ∧ call.spares names = true) :
    P (Call.performAll calls w).2 := by
  induction calls generalizing w with
  | nil => exact h
  | cons call calls ih =>
    obtain ⟨hplain, hspares⟩ := hcalls call List.mem_cons_self
    refine ih (hP.perform_keeping h hspares fun answer heq => ?_) fun later hlater =>
      hcalls later (List.mem_cons_of_mem _ hlater)
    rw [heq] at hplain
    exact Bool.false_ne_true hplain

end Sink.Outlasts

end HttpPipeline
