import HttpPipeline.Response.Recorder
import Mathlib.Data.List.Basic
import Mathlib.Tactic.SplitIfs

/-!
# What a sink owes to its user

A `Ledger` is the account of a response in the eyes of whoever writes it: the status that
the response is bound to have, once something has determined it, and the bytes that were
taken of the body. It changes with each request in one way (`Ledger.hear`, `Ledger.settle`,
`Ledger.add`): the first final status counts, a write and a flush imply `200`, and bytes that
were taken are appended.

A relation between ledgers and the states of a sink is kept by the sink (`Sink.Keeps`) if the
requests to the sink keep it, as long as no connection is taken over. A sink may take any
part of what it is offered and may refuse to flush. Two stronger promises are apart:

* a sink that was told nothing yet sends the head as soon as it gets a final status
  (`Sink.Prompt`);
* every write is taken whole, no flush is refused and no connection is taken over
  (`Sink.Whole`).

An interim status is dropped by some sinks and taken for the status by others. In the second
case nothing but `200` can follow, so the ledger is settled.

For a sink that keeps a relation a repeated write takes everything (`Sink.Keeps.writeAll`).
-/

namespace HttpPipeline

/-- The account of a response. -/
@[ext]
structure Ledger where
  /-- The status that the response is bound to have. -/
  status : Option Status := none
  /-- The head, once it is known to have been sent. -/
  sent : Option Head := none
  /-- What was taken of the body. -/
  written : Bytes := []

namespace Ledger

/-- A final status was given. The first one counts. -/
def hear (k : Ledger) (code : Status) : Ledger := { k with status := some (k.status.getD code) }

/-- Something implied that the status is `200`, if there was none. -/
def settle (k : Ledger) : Ledger := k.hear 200

/-- Bytes of the body were taken. -/
def add (k : Ledger) (data : Bytes) : Ledger := { k.settle with written := k.written ++ data }

@[simp] theorem hear_written (k : Ledger) (code : Status) :
    (k.hear code).written = k.written := rfl

@[simp] theorem hear_status (k : Ledger) (code : Status) :
    (k.hear code).status = some (k.status.getD code) := rfl

@[simp] theorem settle_written (k : Ledger) : k.settle.written = k.written := rfl

@[simp] theorem settle_status (k : Ledger) : k.settle.status = some (k.status.getD 200) := rfl

@[simp] theorem add_written (k : Ledger) (data : Bytes) :
    (k.add data).written = k.written ++ data := rfl

@[simp] theorem add_status (k : Ledger) (data : Bytes) :
    (k.add data).status = some (k.status.getD 200) := rfl

@[simp] theorem settle_add (k : Ledger) (data : Bytes) : k.settle.add data = k.add data := rfl

@[simp] theorem add_settle (k : Ledger) (data : Bytes) : (k.add data).settle = k.add data := rfl

theorem add_add (k : Ledger) (a b : Bytes) : (k.add a).add b = k.add (a ++ b) := by
  simp [add, settle, hear]

/-- A ledger with a status is not changed by what implies one. -/
theorem hear_of_isSome {k : Ledger} (h : k.status.isSome) (code : Status) : k.hear code = k := by
  obtain ⟨status, sent, written⟩ := k
  obtain ⟨c, rfl⟩ := Option.isSome_iff_exists.mp h
  rfl

theorem settle_of_isSome {k : Ledger} (h : k.status.isSome) : k.settle = k :=
  hear_of_isSome h 200

end Ledger

namespace Sink

variable {ω : Type} [Sink ω]

/-- What may have become of an offer of some bytes: a part was taken, not empty unless the
offer was, or the offer has to be repeated. -/
def Taken (R : Ledger → ω → Prop) (k : Ledger) (data : Bytes) : Attempt × ω → Prop
  | (.accepted count, w) =>
    count ≤ data.length ∧ (data ≠ [] → 0 < count) ∧ R (k.add (data.take count)) w
  | (.interrupted _, w) => R k w ∨ R k.settle w
  | (.failed _, _) => False

/-- What may have become of a flush. -/
def Flushed (R : Ledger → ω → Prop) (k : Ledger) : Except Fault Unit × ω → Prop
  | (.ok (), w) => R k.settle w
  | (.error _, w) => R k w ∨ R k.settle w

/-- **Keeping a ledger.** Each request changes the ledger as it should. -/
structure Keeps (R : Ledger → ω → Prop) : Prop where
  setHeaders : ∀ {k w}, R k w → ∀ headers, R k (Sink.setHeaders w headers)
  sendFinal : ∀ {k w}, R k w → ∀ {code}, Status.final code = true →
    R (k.hear code) (Sink.sendStatus w code)
  sendInterim : ∀ {k w}, R k w → ∀ {code}, Status.final code = false →
    R k (Sink.sendStatus w code) ∨ R k.settle (Sink.sendStatus w code)
  write : ∀ {k w}, R k w → ∀ data, Taken R k data (Sink.write w data)
  flush : ∀ {k w}, R k w → Flushed R k (Sink.flush w)

/-- **Sending at once.** A final status, given first, is sent with the headers of that
moment. -/
def Prompt (R : Ledger → ω → Prop) : Prop :=
  ∀ ⦃w⦄, R {} w → ∀ ⦃code⦄, Status.final code = true →
    R { status := some code, sent := some ⟨code, Sink.headers w⟩ } (Sink.sendStatus w code)

/-- **Refusing nothing** but a take-over. -/
structure Whole (R : Ledger → ω → Prop) : Prop where
  write : ∀ {k w}, R k w → ∀ data, (Sink.write w data).1 = .accepted data.length
  flush : ∀ {k w}, R k w → (Sink.flush w).1 = .ok ()
  hijack : ∀ {k w}, R k w → ∀ answer,
    (∃ fault, (Sink.hijack w answer).1 = .error fault) ∧ R k (Sink.hijack w answer).2

variable {R : Ledger → ω → Prop} {k : Ledger} {w : ω}

omit [Sink ω] in
/-- A write that took everything. -/
theorem taken_whole {data : Bytes} (h : R (k.add data) w) :
    Taken R k data (.accepted data.length, w) :=
  ⟨Nat.le_refl _, List.length_pos_of_ne_nil, by rwa [List.take_length]⟩

omit [Sink ω] in
/-- A write to a sink whose status was settled before. -/
theorem Taken.of_settle {data : Bytes} {p : Attempt × ω} (h : Taken R k.settle data p) :
    Taken R k data p := by
  obtain ⟨attempt, w⟩ := p
  cases attempt with
  | accepted count => exact h
  | interrupted message =>
    right
    rcases h with hsame | hsame <;> exact hsame
  | failed cause => exact h

namespace Whole

theorem write_eq (hW : Whole R) (h : R k w) (data : Bytes) :
    ∃ w', Sink.write w data = (.accepted data.length, w') :=
  ⟨_, Prod.ext (hW.write h data) rfl⟩

theorem flush_eq (hW : Whole R) (h : R k w) : ∃ w', Sink.flush w = (.ok (), w') :=
  ⟨_, Prod.ext (hW.flush h) rfl⟩

theorem hijack_eq (hW : Whole R) (h : R k w) (answer : Bytes) :
    ∃ fault w', Sink.hijack w answer = (.error fault, w') ∧ R k w' := by
  obtain ⟨⟨fault, hrefused⟩, hkept⟩ := hW.hijack h answer
  exact ⟨fault, _, Prod.ext hrefused rfl, hkept⟩

end Whole

namespace Keeps

theorem editHeaders (hR : Keeps R) (h : R k w) (edit : Headers → Headers) :
    R k (Sink.editHeaders w edit) :=
  hR.setHeaders h _

/-- **Writing everything** succeeds and takes everything. Writing nothing does nothing. -/
theorem writeAll (hR : Keeps R) (h : R k w) (data : Bytes) :
    ∃ w', Sink.writeAll w data = (.ok (), w') ∧
      (data = [] → w' = w) ∧ (data ≠ [] → R (k.add data) w') := by
  fun_induction Sink.writeAll w data generalizing k with
  | case1 s data hempty =>
    have hnil : data = [] := List.isEmpty_iff.mp hempty
    exact ⟨s, rfl, fun _ => rfl, fun hne => absurd hnil hne⟩
  | case2 s data hne s' hwrite =>
    -- of an offer that is not empty something is accepted
    have htaken := hR.write h data
    rw [hwrite] at htaken
    exact absurd (htaken.2.1 (by simpa using hne)) (Nat.lt_irrefl 0)
  | case3 s data hne count s' hwrite ih =>
    have htaken := hR.write h data
    rw [hwrite] at htaken
    obtain ⟨w', hrest, hnil, hadd⟩ := ih htaken.2.2
    refine ⟨w', hrest, fun hd => absurd hd (by simpa using hne), fun _ => ?_⟩
    by_cases hdone : data.drop (count + 1) = []
    · -- the repetition stops here, so what it says of a rest does not apply
      rw [hnil hdone]
      have hall : data.take (count + 1) = data :=
        List.take_of_length_le (List.drop_eq_nil_iff.mp hdone)
      simpa only [hall] using htaken.2.2
    · have := hadd hdone
      rwa [Ledger.add_add, List.take_append_drop] at this
  | case4 s data hne message s' hwrite ih =>
    -- the same offer is made again, with the status settled or not
    have htaken := hR.write h data
    rw [hwrite] at htaken
    have hd : data ≠ [] := by simpa using hne
    rcases htaken with hsame | hsettled
    · obtain ⟨w', hrest, -, hadd⟩ := ih hsame
      exact ⟨w', hrest, fun hnil => absurd hnil hd, hadd⟩
    · obtain ⟨w', hrest, -, hadd⟩ := ih hsettled
      exact ⟨w', hrest, fun hnil => absurd hnil hd, hadd⟩
  | case5 s data hne cause s' hwrite =>
    have htaken := hR.write h data
    rw [hwrite] at htaken
    exact absurd htaken id

/-- Writing everything to a sink whose status is settled. -/
theorem writeAll_settled (hR : Keeps R) (h : R k w) (hs : k.status.isSome) (data : Bytes) :
    ∃ w', Sink.writeAll w data = (.ok (), w') ∧
      R { k with written := k.written ++ data } w' := by
  obtain ⟨w', hwrite, hnil, hadd⟩ := hR.writeAll h data
  refine ⟨w', hwrite, ?_⟩
  by_cases hd : data = []
  · rw [hnil hd, hd, List.append_nil]
    exact h
  · have := hadd hd
    rwa [Ledger.add, Ledger.settle_of_isSome hs] at this

end Keeps

end Sink

end HttpPipeline
