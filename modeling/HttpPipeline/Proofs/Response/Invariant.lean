import HttpPipeline.Gzip.MemberStream
import HttpPipeline.Proofs.Response.Calls

/-!
# What no request changes

A property of the states of a sink is invariant if no header edit, status, write or flush ends
it (`Sink.Invariant`). It then outlasts every call that is made of these, in particular a write
that is repeated until everything is taken, whatever the sink answers in between. If an attempt
to take the connection over does not end it either, it outlasts every call.

Some requests are made of writes alone: to write everything, and all that a compressed stream asks
of the sink below. A property that no single write ends (`Sink.OutlastsWrites`) outlasts these.

A part of a state that no request at all changes is fixed (`Sink.Fixed`). To have some value of
it is an invariant.
-/

namespace HttpPipeline

variable {ω : Type} [Sink ω]

namespace Sink

/-- **A property that no write ends**, whatever comes of the write. -/
def OutlastsWrites (P : ω → Prop) : Prop := ∀ ⦃w⦄, P w → ∀ data, P (Sink.write w data).2

namespace OutlastsWrites

variable {P : ω → Prop} {w : ω}

/-- No write tells a state with the property from itself. -/
theorem mirrorsWrites (hP : OutlastsWrites P) : MirrorsWrites fun w w' => w = w' ∧ P w := by
  rintro w _ ⟨rfl, h⟩ data
  exact ⟨rfl, rfl, hP h data⟩

/-- Neither does a repeated write end it. -/
theorem writeAll (hP : OutlastsWrites P) (h : P w) (data : Bytes) : P (Sink.writeAll w data).2 :=
  (hP.mirrorsWrites.writeAll ⟨rfl, h⟩ data).left.2

end OutlastsWrites

/-- **A property that no request ends**, take-overs apart. -/
structure Invariant (P : ω → Prop) : Prop where
  setHeaders : ∀ {w}, P w → ∀ headers, P (Sink.setHeaders w headers)
  sendStatus : ∀ {w}, P w → ∀ code, P (Sink.sendStatus w code)
  write : ∀ {w}, P w → ∀ data, P (Sink.write w data).2
  flush : ∀ {w}, P w → P (Sink.flush w).2

namespace Invariant

variable {P : ω → Prop} {w : ω}

theorem writeAll (hP : Invariant P) (h : P w) (data : Bytes) : P (Sink.writeAll w data).2 :=
  OutlastsWrites.writeAll (fun _ hw => hP.write hw) h data

theorem errorReply (hP : Invariant P) (h : P w) (code : Status) (message : String) :
    P (Sink.errorReply w code message) :=
  hP.writeAll (hP.sendStatus (hP.setHeaders h _) code) _

/-- **A call** does not end it, unless it takes the connection over. -/
theorem perform (hP : Invariant P) (h : P w) (call : Call)
    (hhijack : ∀ answer, call = .hijack answer → P (Sink.hijack w answer).2) :
    P (call.perform w).2 := by
  have hheader (hcall : call.isHeader = true) : P (call.perform w).2 := by
    rcases Call.perform_isHeader hcall w with hsame | ⟨headers, hset⟩
    · rwa [hsame]
    · rw [hset]
      exact hP.setHeaders h headers
  cases call with
  | status code =>
    -- a number that is no status is refused before the sink is asked
    rw [Call.perform]
    split_ifs
    · exact hP.sendStatus h code
    · exact h
  | write data => exact hP.write h data
  | writeAll data => exact hP.writeAll h data
  | flush => exact hP.flush h
  | hijack answer => exact hhijack answer rfl
  | errorReply code message =>
    rw [Call.perform]
    split_ifs
    · exact hP.errorReply h code message
    · exact h
  | _ => exact hheader rfl

/-- **Any number of calls** do not end it, if none takes the connection over. -/
theorem performAll (hP : Invariant P) (h : P w) (calls : List Call)
    (hcalls : ∀ call ∈ calls, call.isPlain = true) : P (Call.performAll calls w).2 := by
  induction calls generalizing w with
  | nil => exact h
  | cons call calls ih =>
    refine ih (hP.perform h call fun answer heq => ?_)
      fun c hc => hcalls c (List.mem_cons_of_mem _ hc)
    have hplain := hcalls call List.mem_cons_self
    rw [heq] at hplain
    exact absurd hplain Bool.false_ne_true

end Invariant

/-- **A part of a state that no request changes**, a take-over no more than the others. -/
structure Fixed {α : Type} (part : ω → α) : Prop where
  setHeaders : ∀ w headers, part (Sink.setHeaders w headers) = part w
  sendStatus : ∀ w code, part (Sink.sendStatus w code) = part w
  write : ∀ w data, part (Sink.write w data).2 = part w
  flush : ∀ w, part (Sink.flush w).2 = part w
  hijack : ∀ w answer, part (Sink.hijack w answer).2 = part w

namespace Fixed

variable {α : Type} {part : ω → α}

/-- A value of a fixed part stays. -/
theorem invariant (hpart : Fixed part) (a : α) : Invariant fun w => part w = a where
  setHeaders := fun h headers => (hpart.setHeaders _ headers).trans h
  sendStatus := fun h code => (hpart.sendStatus _ code).trans h
  write := fun h data => (hpart.write _ data).trans h
  flush := fun h => (hpart.flush _).trans h

theorem writeAll (hpart : Fixed part) (w : ω) (data : Bytes) :
    part (Sink.writeAll w data).2 = part w :=
  (hpart.invariant (part w)).writeAll rfl data

theorem errorReply (hpart : Fixed part) (w : ω) (code : Status) (message : String) :
    part (Sink.errorReply w code message) = part w :=
  (hpart.invariant (part w)).errorReply rfl code message

/-- **Any call** leaves it as it is. -/
theorem perform (hpart : Fixed part) (call : Call) (w : ω) :
    part (call.perform w).2 = part w :=
  (hpart.invariant (part w)).perform rfl call fun answer _ => hpart.hijack w answer

end Fixed

end Sink

/-! ### What a compressed stream asks of the sink below -/

namespace MemberStream

variable {τ : Type} [MemberStream τ] {P : ω → Prop} {sink : ω}

theorem write_outlasts (hP : Sink.OutlastsWrites P) (h : P sink) (s : τ) (data : Bytes) :
    P (write s data sink).2.2 :=
  (write_mirrors hP.mirrorsWrites ⟨rfl, h⟩ s data).left.left.2

theorem flush_outlasts (hP : Sink.OutlastsWrites P) (h : P sink) (s : τ) :
    P (flush s sink).2.2 :=
  (flush_mirrors hP.mirrorsWrites ⟨rfl, h⟩ s).left.left.2

theorem finish_outlasts (hP : Sink.OutlastsWrites P) (h : P sink) (s : τ) :
    P (finish s sink).2.2 :=
  (finish_mirrors hP.mirrorsWrites ⟨rfl, h⟩ s).left.left.2

end MemberStream

end HttpPipeline
