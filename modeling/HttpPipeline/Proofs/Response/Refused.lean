import HttpPipeline.Proofs.Response.Alike
import HttpPipeline.Response.Channel
import HttpPipeline.Response.Scripted
import HttpPipeline.Response.Traced

/-!
# Attempts to take over that were refused

A connection can be taken over once, and not every sink has one. An attempt that is refused should
leave no trace: the response is to be written as if nobody had asked. Every layer that an attempt
passes through notes whether it succeeded, at any depth and in any state, so none of them may note
it on the way back from a refusal.

For a single attempt this is so over any sink. All that a refused attempt does to a tower is what it
does to the bottom, if it gets that far (`Stack.ask_refused`).

For a whole course of requests the bottom matters, since a sink might go by the attempts it has
refused (`Wary` does, `Move.refusals_noticed`). One that does not (`Sink.Disregards`) cannot be told
apart from itself without them, and neither can a tower over it: the relation between the two runs
is that all layers have one memory and the bottoms are related (`Stack.Alike`). A request that both
runs make keeps it, because layers mirror what is below them, and a refused attempt that only one of
them makes keeps it by the above. So the attempts can be deleted (`Move.refusals_deleted`).
-/

namespace HttpPipeline

/-- A take-over is refused: there is nothing to take over, or it was taken before. -/
def Fault.IsRefusal (fault : Fault) : Prop :=
  fault = .hijackNotSupported ∨ fault = .alreadyHijacked

instance (fault : Fault) : Decidable fault.IsRefusal :=
  inferInstanceAs (Decidable (_ ∨ _))

/-! ### Sinks that do not go by refusals -/

namespace Sink

variable {σ : Type} [Sink σ]

/-- **Refusals that are disregarded**: states that no request tells apart, whether a take-over was
refused in between or not. -/
structure Disregards (R : σ → σ → Prop) : Prop extends Mirrors R where
  refused : ∀ {s s'}, R s s' → ∀ {answer fault}, (Sink.hijack s' answer).1 = .error fault →
    fault.IsRefusal → R s (Sink.hijack s' answer).2

/-- A sink that a refusal leaves as it is. -/
theorem disregards_eq (h : ∀ (s : σ) {answer fault}, (Sink.hijack s answer).1 = .error fault →
    fault.IsRefusal → (Sink.hijack s answer).2 = s) : Disregards (Eq : σ → σ → Prop) where
  toMirrors := mirrors_eq
  refused := by
    rintro s _ rfl answer fault hfault hrefusal
    exact (h s hfault hrefusal).symm

end Sink

/-- A recorder changes only when its connection is taken. -/
theorem Recorder.disregards : Sink.Disregards (Eq : Recorder → Recorder → Prop) := by
  refine Sink.disregards_eq fun r answer fault hfault _ => ?_
  change (r.hijack answer).1 = _ at hfault
  show (r.hijack answer).2 = r
  unfold Recorder.hijack at hfault ⊢
  split_ifs at hfault ⊢
  · rfl
  · split at hfault
    · rfl
    · cases hfault

/-- A channel has no connection to take. -/
theorem Channel.disregards : Sink.Disregards (Eq : Channel → Channel → Prop) :=
  Sink.disregards_eq fun _ _ _ _ _ => rfl

/-- Neither has a scripted sink. -/
theorem ScriptedSink.disregards : Sink.Disregards (Eq : ScriptedSink → ScriptedSink → Prop) :=
  Sink.disregards_eq fun _ _ _ _ _ => rfl

namespace Traced

variable {σ : Type} {R : σ → σ → Prop}

/-- **Spared some attempts.** Of two watched sinks, the first has received all that the second has
received, in the same order, but for some attempts to take it over; and no request tells them
apart. -/
structure Spared (R : σ → σ → Prop) (t t' : Traced σ) : Prop where
  sink : R t.sink t'.sink
  arrivals : t.arrivals.Sublist t'.arrivals
  others : t.arrivals.filter (· ≠ .hijack) = t'.arrivals.filter (· ≠ .hijack)

/-- The same arrives at both. -/
theorem Spared.note {t t' : Traced σ} (h : t.Spared R t') (a : Arrival) {s s' : σ} (hs : R s s') :
    (t.note a s).Spared R (t'.note a s') where
  sink := hs
  arrivals := h.arrivals.append (List.Sublist.refl [a])
  others := by
    show (t.arrivals ++ [a]).filter _ = (t'.arrivals ++ [a]).filter _
    rw [List.filter_append, List.filter_append, h.others]

/-- An attempt is made of the second only. -/
theorem Spared.attempt {t t' : Traced σ} (h : t.Spared R t') {s' : σ} (hs : R t.sink s') :
    t.Spared R (t'.note .hijack s') where
  sink := hs
  arrivals := h.arrivals.trans (List.sublist_append_left _ _)
  others := by
    show _ = (t'.arrivals ++ [Arrival.hijack]).filter _
    rw [List.filter_append, h.others]
    exact (List.append_nil _).symm

variable [Sink σ]

theorem disregards (hR : Sink.Disregards R) : Sink.Disregards (Spared R) where
  headers := fun h => hR.headers h.sink
  setHeaders := fun h headers => ⟨hR.setHeaders h.sink headers, h.arrivals, h.others⟩
  sendStatus := fun h code => h.note _ (hR.sendStatus h.sink code)
  write := by
    intro t t' h data
    have hwrite := hR.write h.sink data
    -- both have taken the same part of the offer
    have hsame : taken data (Sink.write t.sink data).1 = taken data (Sink.write t'.sink data).1 :=
      congrArg (taken data) hwrite.answer
    refine ⟨hwrite.answer, ?_⟩
    show (t.note (.bytes (taken data (Sink.write t.sink data).1))
        (Sink.write t.sink data).2).Spared R
      (t'.note (.bytes (taken data (Sink.write t'.sink data).1)) (Sink.write t'.sink data).2)
    rw [hsame]
    exact h.note _ hwrite.left
  flush := by
    intro t t' h
    have hflush := hR.flush h.sink
    exact ⟨hflush.answer, h.note _ hflush.left⟩
  hijack := by
    intro t t' h answer
    have hhijack := hR.hijack h.sink answer
    exact ⟨hhijack.answer, h.note _ hhijack.left⟩
  refused := fun h _ _ hfault hrefusal => h.attempt (hR.refused h.sink hfault hrefusal)

end Traced

/-! ### Layers take no note of a refusal -/

section Layers

variable {ω : Type} [Sink ω] {answer : Bytes} {fault : Fault}

theorem StatusLayer.hijack_refused {l : StatusLayer ω} (h : (l.hijack answer).1 = .error fault) :
    (Sink.hijack l.inner answer).1 = .error fault ∧
      (l.hijack answer).2 = { l with inner := (Sink.hijack l.inner answer).2 } := by
  unfold StatusLayer.hijack at h ⊢
  generalize Sink.hijack l.inner answer = r at h ⊢
  obtain ⟨result, inner⟩ := r
  cases result with
  | ok => cases h
  | error => exact ⟨h, rfl⟩

theorem CommitLayer.hijack_refused {l : CommitLayer ω} (h : (l.hijack answer).1 = .error fault) :
    (Sink.hijack l.inner answer).1 = .error fault ∧
      (l.hijack answer).2 = { l with inner := (Sink.hijack l.inner answer).2 } := by
  unfold CommitLayer.hijack at h ⊢
  generalize Sink.hijack l.inner answer = r at h ⊢
  obtain ⟨result, inner⟩ := r
  cases result with
  | ok => cases h
  | error => exact ⟨h, rfl⟩

theorem GzipLayer.hijack_refused {τ : Type} {l : GzipLayer τ ω}
    (h : (l.hijack answer).1 = .error fault) :
    (Sink.hijack l.inner answer).1 = .error fault ∧
      (l.hijack answer).2 = { l with inner := (Sink.hijack l.inner answer).2 } := by
  unfold GzipLayer.hijack at h ⊢
  generalize Sink.hijack l.inner answer = r at h ⊢
  obtain ⟨result, inner⟩ := r
  cases result with
  | ok => cases h
  | error => exact ⟨h, rfl⟩

/-- A closed layer refuses by itself. -/
theorem PassLayer.hijack_refused {l : PassLayer ω} (h : (l.hijack answer).1 = .error fault) :
    (l.hijack answer).2 = l ∨ (Sink.hijack l.inner answer).1 = .error fault ∧
      (l.hijack answer).2 = { l with inner := (Sink.hijack l.inner answer).2 } := by
  unfold PassLayer.hijack at h ⊢
  split_ifs at h ⊢
  · exact .inl rfl
  · exact .inr ⟨h, rfl⟩

end Layers

/-! ### One refusal -/

namespace Stack

variable {τ σ : Type} [MemberStream τ] [Sink σ] {R : σ → σ → Prop} {s : Stack} {w w' : s.Writer τ σ}

/-- **A refusal reaches no layer.** What a refused attempt does to a tower it does to the bottom,
which has refused it, or it does nothing at all, because it did not get there. -/
def Unnoted (s : Stack) (w : s.Writer τ σ) (answer : Bytes) (fault : Fault)
    (after : s.Writer τ σ) : Prop :=
  after = w ∨ (Sink.hijack (s.base w) answer).1 = .error fault ∧
    after = s.onBase (fun b => (Sink.hijack b answer).2) w

section Unnoted

omit [MemberStream τ]

variable {answer : Bytes} {fault : Fault} {below : Stack} {inner : below.Writer τ σ}

theorem Unnoted.status {l : StatusLayer (below.Writer τ σ)}
    (h : below.Unnoted l.inner answer fault inner) :
    (Stack.status below).Unnoted (τ := τ) l answer fault ({ l with inner } : StatusLayer _) := by
  rcases h with rfl | ⟨hfault, rfl⟩
  · exact .inl rfl
  · exact .inr ⟨hfault, rfl⟩

theorem Unnoted.commit {l : CommitLayer (below.Writer τ σ)}
    (h : below.Unnoted l.inner answer fault inner) :
    (Stack.commit below).Unnoted (τ := τ) l answer fault ({ l with inner } : CommitLayer _) := by
  rcases h with rfl | ⟨hfault, rfl⟩
  · exact .inl rfl
  · exact .inr ⟨hfault, rfl⟩

theorem Unnoted.pass {l : PassLayer (below.Writer τ σ)}
    (h : below.Unnoted l.inner answer fault inner) :
    (Stack.pass below).Unnoted (τ := τ) l answer fault ({ l with inner } : PassLayer _) := by
  rcases h with rfl | ⟨hfault, rfl⟩
  · exact .inl rfl
  · exact .inr ⟨hfault, rfl⟩

theorem Unnoted.gzip {l : GzipLayer τ (below.Writer τ σ)}
    (h : below.Unnoted l.inner answer fault inner) :
    (Stack.gzip below).Unnoted l answer fault ({ l with inner } : GzipLayer τ _) := by
  rcases h with rfl | ⟨hfault, rfl⟩
  · exact .inl rfl
  · exact .inr ⟨hfault, rfl⟩

end Unnoted

/-- **A refused attempt**, made of the tower itself. -/
theorem hijack_refused {answer : Bytes} {fault : Fault}
    (h : (Sink.hijack w answer).1 = .error fault) :
    s.Unnoted w answer fault (Sink.hijack w answer).2 := by
  induction s with
  | bottom => exact .inr ⟨h, rfl⟩
  | status below ih =>
    obtain ⟨hinner, hafter⟩ := StatusLayer.hijack_refused h
    exact hafter ▸ (ih hinner).status
  | commit below ih =>
    obtain ⟨hinner, hafter⟩ := CommitLayer.hijack_refused h
    exact hafter ▸ (ih hinner).commit
  | pass below ih =>
    rcases PassLayer.hijack_refused h with hsame | ⟨hinner, hafter⟩
    · exact .inl hsame
    · exact hafter ▸ (ih hinner).pass
  | gzip below ih =>
    obtain ⟨hinner, hafter⟩ := GzipLayer.hijack_refused h
    exact hafter ▸ (ih hinner).gzip

/-- **A refused attempt**, made of the tower some layers further in. -/
theorem ask_refused {depth : Nat} {answer : Bytes} {fault : Fault}
    (h : (ask depth (.hijack answer) s w).1 = .fault fault) :
    s.Unnoted w answer fault (ask depth (.hijack answer) s w).2 := by
  -- on the depth: each layer that is passed leaves what is behind it unnoted
  induction depth generalizing s with
  | zero =>
    refine hijack_refused (?_ : (Sink.hijack w answer).1 = .error fault)
    change Reply.ofHijack (Sink.hijack w answer).1 = .fault fault at h
    cases hresult : (Sink.hijack w answer).1 with
    | ok waiting =>
      rw [hresult] at h
      cases h
    | error cause =>
      rw [hresult] at h
      rw [Reply.fault.inj h]
  | succ depth ih =>
    cases s with
    | bottom => cases h
    | status below =>
      change StatusLayer (below.Writer τ σ) at w
      simp only [ask, reach_status] at h ⊢
      exact (ih h).status
    | commit below =>
      change CommitLayer (below.Writer τ σ) at w
      simp only [ask, reach_commit] at h ⊢
      exact (ih h).commit
    | pass below =>
      change PassLayer (below.Writer τ σ) at w
      simp only [ask, reach_pass] at h ⊢
      split_ifs at h ⊢
      exact (ih h).pass
    | gzip below =>
      change GzipLayer τ (below.Writer τ σ) at w
      simp only [ask, reach_gzip] at h ⊢
      exact (ih h).gzip

/-- A refused attempt that is made of one tower only leaves it alike to the other. -/
theorem Alike.refused (hR : Sink.Disregards R) (h : s.Alike (fun _ => Eq) R w w') {depth : Nat}
    {answer : Bytes} {fault : Fault} (hfault : (s.ask depth (.hijack answer) w').1 = .fault fault)
    (hrefusal : fault.IsRefusal) :
    s.Alike (fun _ => Eq) R w (s.ask depth (.hijack answer) w').2 := by
  rcases ask_refused hfault with hsame | ⟨hbase, hafter⟩
  · rwa [hsame]
  · rw [hafter]
    exact h.onBase (hR.refused h.base hbase hrefusal)

end Stack

/-! ### Courses of requests -/

/-- **What is done with a tower**: calls, of the tower itself or some layers further in, and the end
of its outermost layer. -/
inductive Move
  | ask (depth : Nat) (call : Call)
  | part (how : Parting)
  deriving DecidableEq, Repr

namespace Move

variable {τ σ : Type} [MemberStream τ] [Sink σ]

/-- One move, with what is seen of it. -/
def make (move : Move) (s : Stack) (w : s.Writer τ σ) : Reply × s.Writer τ σ :=
  match move with
  | .ask depth call => s.ask depth call w
  | .part how =>
    let (result, w) := s.partTop how w
    ((result.map Reply.ofStream).getD .notGzip, w)

/-- One move after the other. -/
def makeAll (moves : List Move) (s : Stack) (w : s.Writer τ σ) : List Reply × s.Writer τ σ :=
  match moves with
  | [] => ([], w)
  | move :: moves =>
    let (reply, w) := move.make s w
    let (replies, w) := makeAll moves s w
    (reply :: replies, w)

/-- Whether a move was an attempt to take over, and was refused. -/
def isRefused (move : Move) (reply : Reply) : Bool :=
  match move, reply with
  | .ask _ (.hijack _), .fault fault => decide fault.IsRefusal
  | _, _ => false

theorem of_isRefused {move : Move} {reply : Reply} (h : move.isRefused reply = true) :
    ∃ depth answer fault, move = .ask depth (.hijack answer) ∧ reply = .fault fault ∧
      fault.IsRefusal := by
  unfold isRefused at h
  split at h
  · exact ⟨_, _, _, rfl, rfl, of_decide_eq_true h⟩
  · cases h

/-- The moves of a course that were not refused attempts to take over, with what was seen of
them. -/
def kept (moves : List Move) (s : Stack) (w : s.Writer τ σ) : List (Move × Reply) :=
  (moves.zip (makeAll moves s w).1).filter fun p => !p.1.isRefused p.2

variable {R : σ → σ → Prop} {s : Stack} {w w' : s.Writer τ σ}

/-- A move has the same outcome. -/
theorem make_alike (hR : Sink.Mirrors R) (h : s.Alike (fun _ => Eq) R w w') (move : Move) :
    Sink.Agree (s.Alike (fun _ => Eq) R) (move.make s w) (move.make s w') := by
  cases move with
  | ask depth call => exact h.ask (fun _ => MemberStream.twins_eq) hR depth call
  | part how =>
    have hpart := h.partTop (fun _ => MemberStream.twins_eq) hR how
    exact ⟨congrArg (fun result => (Option.map Reply.ofStream result).getD .notGzip) hpart.answer,
      hpart.left⟩

/-- **Two courses**: one of all moves, and one of those that were not refused attempts. -/
theorem makeAll_kept (hR : Sink.Disregards R) (h : s.Alike (fun _ => Eq) R w w')
    (moves : List Move) :
    (makeAll ((kept moves s w').map Prod.fst) s w).1 = (kept moves s w').map Prod.snd ∧
      s.Alike (fun _ => Eq) R (makeAll ((kept moves s w').map Prod.fst) s w).2
        (makeAll moves s w').2 := by
  induction moves generalizing w w' with
  | nil => exact ⟨rfl, h⟩
  | cons move moves ih =>
    cases hrefused : move.isRefused (move.make s w').1 with
    | true =>
      -- the attempt is made in the second course only
      have hdropped : ¬(!move.isRefused (move.make s w').1) = true := by
        rw [hrefused]
        exact Bool.false_ne_true
      have hkept : kept (move :: moves) s w' = kept moves s (move.make s w').2 :=
        List.filter_cons_of_neg hdropped
      obtain ⟨depth, answer, fault, rfl, hfault, hrefusal⟩ := of_isRefused hrefused
      rw [hkept]
      exact ih (h.refused hR hfault hrefusal)
    | false =>
      have hstays : (!move.isRefused (move.make s w').1) = true := by
        rw [hrefused]
        rfl
      have hkept : kept (move :: moves) s w'
          = (move, (move.make s w').1) :: kept moves s (move.make s w').2 :=
        List.filter_cons_of_pos hstays
      have hmove := make_alike hR.toMirrors h move
      obtain ⟨hreplies, hleft⟩ := ih hmove.left
      rw [hkept]
      exact ⟨congrArg₂ List.cons hmove.answer hreplies, hleft⟩

/-- **Refused attempts can be deleted.** Take any layers, whatever they remember, around any sink.
An attempt that is refused, at whatever depth, does nothing to the layers.

Let the sink be one that does not go by the attempts it has refused. Of any course of calls, at any
depth, and of ends of the outermost layer, delete the refused attempts. What is seen of the other
moves is the same, all layers remember the same, and the sink has received the same in the same
order but for some attempts to take it over. Neither is there a difference if the towers are then
taken apart. -/
theorem refusals_deleted (s : Stack) (w : s.Writer τ (Traced σ)) :
    (∀ depth answer fault, (s.ask depth (.hijack answer) w).1 = .fault fault →
      s.Unnoted w answer fault (s.ask depth (.hijack answer) w).2) ∧
    ∀ R : σ → σ → Prop, Sink.Disregards R → R (s.base w).sink (s.base w).sink →
      ∀ moves : List Move,
        let full := makeAll moves s w
        let others := kept moves s w
        let spared := makeAll (others.map Prod.fst) s w
        spared.1 = others.map Prod.snd ∧
        spared.2 = s.onBase (fun _ => s.base spared.2) full.2 ∧
        (s.base spared.2).Spared R (s.base full.2) ∧
        ∀ hows, (s.unwind hows spared.2).1 = (s.unwind hows full.2).1 ∧
          (s.unwind hows spared.2).2.Spared R (s.unwind hows full.2).2 := by
  refine ⟨fun depth answer fault h => Stack.ask_refused h, ?_⟩
  intro R hR hw moves full others spared
  have hT := Traced.disregards hR
  have hsame : (s.base w).Spared R (s.base w) := ⟨hw, List.Sublist.refl _, rfl⟩
  obtain ⟨hreplies, halike⟩ := makeAll_kept hT (Stack.alike_refl (fun _ _ _ => rfl) hsame) moves
  refine ⟨hreplies, halike.eq_onBase fun _ _ _ _ => id, halike.base, fun hows => ?_⟩
  have hunwound := halike.unwind hT.toMirrors hows
  exact ⟨hunwound.answer, hunwound.left⟩

/-- Two attempts, one at the outermost layer and one further in, with a recorder that has no
connection. The body is still in the buffer, and goes down when the tower is taken apart. -/
theorem refusals_deleted_recorder :
    let tower : Tower Stored (Traced Recorder) :=
      .ofLayers { sink := {} } [.status, .pass false, .commit, .gzip 2 6]
    let full := makeAll [.ask 0 (.status 201), .ask 0 (.hijack [1]), .ask 0 (.write [7]),
      .ask 2 (.hijack [])] tower.shape tower.writer
    let spared := makeAll [.ask 0 (.status 201), .ask 0 (.write [7])] tower.shape tower.writer
    full.1 = [.done, .fault .hijackNotSupported, .accepted 1, .fault .hijackNotSupported] ∧
    spared.1 = [.done, .accepted 1] ∧
    (tower.shape.unwind [] spared.2).1 = (tower.shape.unwind [] full.2).1 ∧
    (tower.shape.unwind [] spared.2).2.sink = (tower.shape.unwind [] full.2).2.sink := by
  intro tower full spared
  -- the two attempts are refused, so the other calls are what is kept
  have hothers : (kept [.ask 0 (.status 201), .ask 0 (.hijack [1]), .ask 0 (.write [7]),
      .ask 2 (.hijack [])] tower.shape tower.writer).map Prod.fst
      = [.ask 0 (.status 201), .ask 0 (.write [7])] := rfl
  obtain ⟨-, -, -, hunwound⟩ :=
    (refusals_deleted tower.shape tower.writer).2 Eq Recorder.disregards rfl
      [.ask 0 (.status 201), .ask 0 (.hijack [1]), .ask 0 (.write [7]), .ask 2 (.hijack [])]
  rw [hothers] at hunwound
  obtain ⟨hremoved, hbottom⟩ := hunwound []
  refine ⟨rfl, rfl, ?_, ?_⟩
  · simp only [full, spared]
    exact hremoved
  · simp only [full, spared]
    exact hbottom.sink

end Move

/-! ### A sink that goes by refusals -/

/-- A sink that takes no more bytes once it has refused to be taken over. -/
structure Wary where
  headers : Headers := {}
  body : Bytes := []
  refused : Bool := false

namespace Wary

/-- Bytes are taken as long as nobody has asked for the connection. -/
def write (w : Wary) (data : Bytes) : Attempt × Wary :=
  if w.refused then (.failed Fault.hijackNotSupported.toStream, w)
  else (.accepted data.length, { w with body := w.body ++ data })

instance : Sink Wary where
  headers := Wary.headers
  setHeaders w h := { w with headers := h }
  sendStatus w _ := w
  write := Wary.write
  flush w := (.ok (), w)
  hijack w _ := (.error .hijackNotSupported, { w with refused := true })
  patience _ := 0
  patience_lt := by
    intro w data message h
    unfold Wary.write at h
    split at h <;> cases h

end Wary

/-- **A refusal that is noticed.** An attempt to take over is made through a status layer, and then
a byte is written. A recorder without a connection has received the attempt, which it has not if the
attempt is deleted. A sink that goes by refusals does not take the byte, which it does if the
attempt is deleted. -/
theorem Move.refusals_noticed :
    let moves : List Move := [.ask 0 (.hijack []), .ask 0 (.write [97])]
    let others : List Move := [.ask 0 (.write [97])]
    let s : Stack := .status .bottom
    let recorder : s.Writer Stored (Traced Recorder) := { inner := { sink := {} } }
    let wary : s.Writer Stored Wary := { inner := {} }
    (makeAll moves s recorder).1 = [.fault .hijackNotSupported, .accepted 1] ∧
    (s.base (makeAll moves s recorder).2).arrivals = [.hijack, .bytes [97]] ∧
    (s.base (makeAll others s recorder).2).arrivals = [.bytes [97]] ∧
    (makeAll moves s wary).1
      = [.fault .hijackNotSupported, .streamError Fault.hijackNotSupported.toStream] ∧
    (makeAll others s wary).1 = [.accepted 1] :=
  ⟨rfl, rfl, rfl, rfl, rfl⟩

end HttpPipeline
