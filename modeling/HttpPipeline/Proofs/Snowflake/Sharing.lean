import HttpPipeline.Proofs.Snowflake.Order
import HttpPipeline.Snowflake.Machine
import Mathlib.Data.Nat.Basic
import Mathlib.Tactic.SplitIfs

/-!
# A generator that several callers share

The callers of one generator take turns. Whoever holds its lock makes one identifier and
lets go of the lock; who gets it next is not prescribed. `Sharing κ` is a generator with
its lock and with the identifiers issued so far, each with the caller that it was issued
to, in the order in which they were issued. `Sharing.Step` says what may happen: the free
lock is taken, the holder is served, or the clock changes. A change of the clock is
arbitrary, so time may have gone on, stood still or been set back before any identifier,
and the readings taken for one are any finite sequence that ends its waits.

The identifiers issued increase strictly (`Sharing.issued_increasing`). Everything rests
on what one issue does to the generator (`Generator.issue_advances`): either the timestamp
moves on and the sequence number starts again at zero, or the timestamp stays and the
sequence number is one more. All six ways through an issue come down to these two. The
invariant of a run (`Sharing.Ordered`) says that the state of the generator is the place of
the last identifier, so that an advance of the state is an identifier above all earlier
ones.
-/

namespace HttpPipeline

/-! ### One issue -/

namespace Clock

/-- A wait ends with a reading that reaches its target. -/
theorem le_waitUntil (target : Nat) (c : Clock) : target ≤ (c.waitUntil target).1 := by
  fun_induction waitUntil target c with
  | case1 c _ ih => exact ih
  | case2 c h => omega

end Clock

namespace Generator

/-- A state after another one: a later timestamp with the first sequence number, or the
same timestamp with the next one. -/
structure Advances (g g' : Generator) : Prop where
  later : g.last < g'.last ∧ g'.sequence = 0 ∨
    g'.last = g.last ∧ g'.sequence = g.sequence + 1
  sequence_le : g'.sequence ≤ maxSequence
  machine_eq : g'.machine = g.machine

/-- The time for an identifier is never before the last timestamp. -/
theorem last_le_currentTime (g : Generator) (clock : Clock) :
    g.last ≤ (g.currentTime clock).1 := by
  simp only [currentTime]
  split_ifs with hahead hnear
  · exact hahead
  · exact Clock.le_waitUntil _ _
  · -- too far behind to wait: time stands still at the last timestamp
    exact le_refl _

/-- The place of an identifier lies after the place of the last one. -/
theorem place_advances (g : Generator) {now : Nat} (hnow : g.last ≤ now) (behind : Bool)
    (clock : Clock) {t s : Nat} (ht : (g.place now behind clock).1 = t)
    (hs : (g.place now behind clock).2.1 = s) :
    (g.last < t ∧ s = 0 ∨ t = g.last ∧ s = g.sequence + 1) ∧ s ≤ maxSequence := by
  subst ht hs
  unfold place
  split_ifs with hmoved hroom hbehind
  · exact ⟨Or.inl ⟨by simp only; omega, rfl⟩, Nat.zero_le _⟩
  · -- within the millisecond there is a number left
    have hsame : now = g.last := by omega
    exact ⟨Or.inr ⟨hsame, rfl⟩, hroom⟩
  · -- behind the clock there is nothing to wait for, so the next millisecond is borrowed
    exact ⟨Or.inl ⟨Nat.lt_succ_self _, rfl⟩, Nat.zero_le _⟩
  · -- the wait is for a reading beyond the last timestamp
    have hwait := clock.le_waitUntil (g.last + 1)
    exact ⟨Or.inl ⟨hwait, rfl⟩, Nat.zero_le _⟩

/-- **One issue** advances the generator, and the identifier is the new state in writing. -/
theorem issue_advances (g : Generator) (clock : Clock) :
    g.Advances (g.issue clock).generator ∧
      (g.issue clock).id = .ofParts (g.issue clock).generator.last g.machine
        (g.issue clock).generator.sequence := by
  have hplace := g.place_advances (g.last_le_currentTime clock) (g.currentTime clock).2.1
    (g.currentTime clock).2.2.1 rfl rfl
  exact ⟨⟨hplace.1, hplace.2, rfl⟩, rfl⟩

/-- The identifier that a state stands for. -/
def lastId (g : Generator) : SnowflakeId := .ofParts g.last g.machine g.sequence

theorem Advances.last_le {g g' : Generator} (h : g.Advances g') : g.last ≤ g'.last := by
  rcases h.later with ⟨hlt, -⟩ | ⟨heq, -⟩ <;> omega

/-- The identifier of a later state is greater. -/
theorem Advances.lastId_lt {g g' : Generator} (h : g.Advances g')
    (hseq : g.sequence ≤ maxSequence) (hlast : g'.last < 2 ^ 41) :
    g.lastId.value < g'.lastId.value := by
  have hseq' := h.sequence_le
  unfold maxSequence at hseq hseq'
  rw [lastId, lastId, h.machine_eq]
  apply SnowflakeId.ofParts_lt_ofParts _ hlast (by omega) (by omega)
  rcases h.later with ⟨hlt, -⟩ | ⟨heq, hnext⟩
  · exact Or.inl hlt
  · exact Or.inr ⟨heq.symm, by omega⟩

end Generator

/-! ### Callers that take turns -/

/-- A generator behind a lock, with callers named by `κ`. -/
structure Sharing (κ : Type) where
  generator : Generator
  clock : Clock
  /-- Who holds the lock. -/
  holder : Option κ := none
  /-- What was issued, and to whom, in order. -/
  issued : List (κ × SnowflakeId) := []

namespace Sharing

variable {κ : Type}

/-- The holder of the lock gets an identifier and lets go of the lock. -/
def serve (s : Sharing κ) (caller : κ) : Sharing κ :=
  let issue := s.generator.issue s.clock
  { generator := issue.generator
    clock := issue.clock
    holder := none
    issued := s.issued ++ [(caller, issue.id)] }

theorem mem_serve {s : Sharing κ} {caller : κ} {p : κ × SnowflakeId} :
    p ∈ (s.serve caller).issued ↔
      p ∈ s.issued ∨ p = (caller, (s.generator.issue s.clock).id) := by
  rw [Sharing.serve, List.mem_append, List.mem_singleton]

/-- What may happen next. -/
inductive Step : Sharing κ → Sharing κ → Prop
  /-- The free lock is taken. -/
  | take {s : Sharing κ} (caller : κ) (free : s.holder = none) :
    Step s { s with holder := some caller }
  /-- The holder of the lock is served. -/
  | serve {s : Sharing κ} {caller : κ} (held : s.holder = some caller) : Step s (s.serve caller)
  /-- The clock shows something else. -/
  | clock {s : Sharing κ} (clock : Clock) : Step s { s with clock }

/-- What may have happened after some steps. -/
inductive Reached (start : Sharing κ) : Sharing κ → Prop
  | refl : Reached start start
  | step {s s' : Sharing κ} (before : Reached start s) (next : Step s s') : Reached start s'

/-- **The invariant of a run.** The state of the generator is the place of the last
identifier, and the identifiers lie below each other. -/
structure Ordered (machine : Nat) (s : Sharing κ) : Prop where
  sequence_le : s.generator.sequence ≤ Generator.maxSequence
  machine_eq : s.generator.machine = machine
  /-- No identifier is above the place of the last one. -/
  le_lastId : ∀ p ∈ s.issued, p.2.value ≤ s.generator.lastId.value
  timestamp_le : ∀ p ∈ s.issued, p.2.timestamp ≤ s.generator.last
  machine_mod : ∀ p ∈ s.issued, p.2.machine = machine % 2 ^ 16
  increasing : s.issued.Pairwise fun a b =>
    a.2.value < b.2.value ∧ a.2.timestamp ≤ b.2.timestamp

theorem Step.last_le {s s' : Sharing κ} (h : Step s s') :
    s.generator.last ≤ s'.generator.last := by
  cases h with
  | take caller free => exact le_refl _
  | serve held => exact (s.generator.issue_advances s.clock).1.last_le
  | clock clock => exact le_refl _

/-- **A service keeps the invariant**: its identifier is above all earlier ones. -/
theorem Ordered.serve {machine : Nat} {s : Sharing κ} (h : Ordered machine s) (caller : κ)
    (hlast : (s.serve caller).generator.last < 2 ^ 41) : Ordered machine (s.serve caller) := by
  obtain ⟨hadv, hid⟩ := s.generator.issue_advances s.clock
  have hlt := hadv.lastId_lt h.sequence_le hlast
  have hid' : (s.generator.issue s.clock).id = (s.serve caller).generator.lastId := by
    rw [hid, ← hadv.machine_eq]
    rfl
  have hstamp : (s.generator.issue s.clock).id.timestamp = (s.serve caller).generator.last := by
    rw [hid, SnowflakeId.timestamp_ofParts]
    exact Nat.mod_eq_of_lt hlast
  have hmono := hadv.last_le
  refine ⟨hadv.sequence_le, hadv.machine_eq.trans h.machine_eq, ?_, ?_, ?_, ?_⟩
  · intro p hp
    rcases mem_serve.mp hp with hold | rfl
    · exact le_trans (h.le_lastId p hold) (le_of_lt hlt)
    · exact le_of_eq (congrArg SnowflakeId.value hid')
  · intro p hp
    rcases mem_serve.mp hp with hold | rfl
    · exact le_trans (h.timestamp_le p hold) hmono
    · exact le_of_eq hstamp
  · intro p hp
    rcases mem_serve.mp hp with hold | rfl
    · exact h.machine_mod p hold
    · rw [hid, SnowflakeId.machine_ofParts, h.machine_eq]
  · -- all earlier identifiers are at most the last one, and that is below the new one
    refine List.pairwise_append.mpr ⟨h.increasing, List.pairwise_singleton _ _, ?_⟩
    intro p hp q hq
    obtain rfl := List.mem_singleton.mp hq
    refine ⟨?_, ?_⟩
    · rw [hid']
      exact lt_of_le_of_lt (h.le_lastId p hp) hlt
    · rw [hstamp]
      exact le_trans (h.timestamp_le p hp) hmono

theorem Ordered.step {machine : Nat} {s s' : Sharing κ} (h : Ordered machine s)
    (hstep : Step s s') (hlast : s'.generator.last < 2 ^ 41) : Ordered machine s' := by
  -- who holds the lock and what the clock shows is no matter of the invariant
  cases hstep with
  | take caller free => exact ⟨h.1, h.2, h.3, h.4, h.5, h.6⟩
  | serve held => exact h.serve _ hlast
  | clock clock => exact ⟨h.1, h.2, h.3, h.4, h.5, h.6⟩

/-- A run keeps the invariant as long as its timestamps fit. They only grow, so it is
enough that the last one does. -/
theorem Reached.ordered {machine : Nat} {start s : Sharing κ} (h : Reached start s)
    (hstart : Ordered machine start) (hlast : s.generator.last < 2 ^ 41) :
    Ordered machine s := by
  induction h with
  | refl => exact hstart
  | step before next ih =>
    have hbefore := ih (lt_of_le_of_lt next.last_le hlast)
    exact hbefore.step next hlast

/-- A generator as it is made, with a clock and nobody holding its lock. -/
def start (settings : GeneratorSettings) (host : Option Bytes) (clock : Clock) : Sharing κ :=
  { generator := (Generator.ofSettings settings host).1, clock }

theorem start_ordered (settings : GeneratorSettings) (host : Option Bytes) (clock : Clock) :
    Ordered (Generator.ofSettings settings host).1.machine
      (start settings host clock : Sharing κ) where
  sequence_le := by
    unfold start Generator.ofSettings
    split <;> exact Nat.zero_le _
  machine_eq := rfl
  le_lastId := fun p hp => absurd hp List.not_mem_nil
  timestamp_le := fun p hp => absurd hp List.not_mem_nil
  machine_mod := fun p hp => absurd hp List.not_mem_nil
  increasing := List.Pairwise.nil

/-- **Identifiers increase.** Whatever the clock does and in whatever order callers take the
lock: as long as the timestamps fit into their 41 bits, every identifier is greater than
all that were issued before it, as a number and in writing, so none is issued twice. Its
timestamp is not earlier, and the machine is always the same. -/
theorem issued_increasing (settings : GeneratorSettings) (host : Option Bytes) (clock : Clock)
    {s : Sharing κ} (hs : Reached (start settings host clock) s)
    (hlast : s.generator.last < 2 ^ 41) :
    (s.issued.Pairwise fun earlier later =>
      earlier.2.value < later.2.value ∧ earlier.2.text < later.2.text ∧
        earlier.2.timestamp ≤ later.2.timestamp) ∧
    (s.issued.map Prod.snd).Nodup ∧
    ∀ p ∈ s.issued, p.2.machine = (Generator.ofSettings settings host).1.machine % 2 ^ 16 := by
  have hord := hs.ordered (start_ordered settings host clock) hlast
  refine ⟨?_, ?_, hord.machine_mod⟩
  · refine hord.increasing.imp ?_
    rintro a b ⟨hvalue, hstamp⟩
    exact ⟨hvalue, SnowflakeId.text_lt_text_iff.mpr hvalue, hstamp⟩
  · refine List.Pairwise.map _ ?_ hord.increasing
    rintro a b ⟨hvalue, -⟩ heq
    rw [heq] at hvalue
    exact absurd hvalue (Nat.lt_irrefl _)

/-- Two callers, between whom the clock is set back beyond the tolerance. -/
theorem issued_increasing_setBack :
    ∃ s : Sharing String,
      Reached (start { machine := some 7, driftTolerance := 0 } none (.standing 5)) s ∧
      s.generator.last < 2 ^ 41 ∧ s.issued.map Prod.fst = ["left", "right"] ∧
      s.issued.Pairwise fun earlier later => earlier.2.value < later.2.value := by
  let s₀ : Sharing String := start { machine := some 7, driftTolerance := 0 } none (.standing 5)
  let s₁ : Sharing String := { s₀ with holder := some "left" }
  let s₂ : Sharing String :=
    { s₁.serve "left" with clock := .standing (-1), holder := some "right" }
  have h₁ : Reached s₀ s₁ := Reached.refl.step (Step.take (s := s₀) "left" rfl)
  have h₂ : Reached s₀ (s₁.serve "left") := h₁.step (Step.serve (s := s₁) rfl)
  have h₃ := h₂.step (Step.clock (.standing (-1)))
  have h₄ : Reached s₀ s₂ := h₃.step (Step.take "right" rfl)
  have hs : Reached s₀ (s₂.serve "right") := h₄.step (Step.serve (s := s₂) rfl)
  have hlast : (s₂.serve "right").generator.last < 2 ^ 41 := by decide
  refine ⟨s₂.serve "right", hs, hlast, rfl, ?_⟩
  exact (issued_increasing _ _ _ hs hlast).1.imp fun h => h.1

end Sharing

end HttpPipeline
