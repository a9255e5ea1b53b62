import HttpPipeline.RateLimit.Bucket
import Mathlib.Data.Int.Order.Basic
import Mathlib.Tactic.SplitIfs

/-!
# Attempts, one after the other

A bucket is locked during an attempt. So the attempts of any number of callers are one list, in
the order in which they get the lock, and `Bucket.run` goes through it.

An attempt looks at nothing but the bucket as it is refilled (`Bucket.acquireAt_congr`): either
there is a token then, and it is spent, or the refill is all that happens. So what refills and
payments keep is kept by an attempt (`Bucket.acquireAt_keeps`) and by a run (`Bucket.run_keeps`).
The time of the last refill is the latest instant of an attempt (`Bucket.run_lastRefill`). Nothing
here depends on the kind of numbers.
-/

namespace HttpPipeline

namespace Admission

/-- Whether an attempt was admitted, whatever it was told otherwise. -/
def isAdmitted : Admission → Bool
  | .admitted => true
  | .rejected _ => false

@[simp] theorem isAdmitted_admitted : isAdmitted .admitted = true := rfl

@[simp] theorem isAdmitted_rejected (retryAfter : Duration) :
    isAdmitted (.rejected retryAfter) = false := rfl

end Admission

namespace Bucket

variable {ν : Type} [TokenArithmetic ν] {b b' : Bucket ν} {now : ℤ}

/-! ### One attempt -/

/-- There is a token, and it is spent. -/
theorem acquireAt_of_holds (h : TokenArithmetic.holdsOne (b.refill now).tokens = true) :
    b.acquireAt now = (.admitted,
      { b.refill now with
        tokens := TokenArithmetic.sub (b.refill now).tokens (TokenArithmetic.ofNat 1) }) := by
  unfold acquireAt
  simp only
  rw [if_pos h]

/-- There is none, and the refill is kept. -/
theorem acquireAt_of_lacks (h : ¬TokenArithmetic.holdsOne (b.refill now).tokens = true) :
    b.acquireAt now = (.rejected (b.refill now).wait, b.refill now) := by
  unfold acquireAt
  simp only
  rw [if_neg h]

/-- Who is turned away found no token. -/
theorem acquireAt_rejected {retryAfter : Duration}
    (h : (b.acquireAt now).1 = .rejected retryAfter) :
    ¬TokenArithmetic.holdsOne (b.refill now).tokens = true ∧
      (b.acquireAt now).2 = b.refill now ∧ retryAfter = (b.refill now).wait := by
  by_cases hone : TokenArithmetic.holdsOne (b.refill now).tokens = true
  · rw [acquireAt_of_holds hone] at h
    exact absurd h (by simp)
  · rw [acquireAt_of_lacks hone] at h ⊢
    exact ⟨hone, rfl, (Admission.rejected.inj h).symm⟩

/-- An attempt is about the refilled bucket. -/
theorem acquireAt_congr (h : b.refill now = b'.refill now) :
    b.acquireAt now = b'.acquireAt now := by
  unfold acquireAt
  rw [h]

/-- **An attempt keeps** what refills and payments keep. -/
theorem acquireAt_keeps {P : Bucket ν → Prop} (hrefill : ∀ b now, P b → P (b.refill now))
    (hspend : ∀ b, P b → TokenArithmetic.holdsOne b.tokens = true →
      P { b with tokens := TokenArithmetic.sub b.tokens (TokenArithmetic.ofNat 1) })
    (h : P b) (now : ℤ) : P (b.acquireAt now).2 := by
  have hrefilled := hrefill b now h
  by_cases hone : TokenArithmetic.holdsOne (b.refill now).tokens = true
  · rw [acquireAt_of_holds hone]
    exact hspend _ hrefilled hone
  · rw [acquireAt_of_lacks hone]
    exact hrefilled

/-! ### Runs -/

theorem run_cons (b : Bucket ν) (now : ℤ) (later : List ℤ) :
    b.run (now :: later) =
      ((b.acquireAt now).1 :: ((b.acquireAt now).2.run later).1,
        ((b.acquireAt now).2.run later).2) := rfl

/-- **Two runs** are one. -/
theorem run_append (b : Bucket ν) (earlier later : List ℤ) :
    b.run (earlier ++ later) =
      ((b.run earlier).1 ++ ((b.run earlier).2.run later).1,
        ((b.run earlier).2.run later).2) := by
  induction earlier generalizing b with
  | nil => rfl
  | cons now earlier ih => rw [List.cons_append, run_cons, run_cons, ih, List.cons_append]

/-- **A run keeps** what attempts keep. -/
theorem run_keeps {P : Bucket ν → Prop} (hattempt : ∀ b now, P b → P (b.acquireAt now).2)
    (h : P b) (instants : List ℤ) : P (b.run instants).2 := by
  induction instants generalizing b with
  | nil => exact h
  | cons now later ih => exact ih (hattempt b now h)

theorem length_run (b : Bucket ν) (instants : List ℤ) :
    (b.run instants).1.length = instants.length := by
  induction instants generalizing b with
  | nil => rfl
  | cons now later ih => rw [run_cons, List.length_cons, List.length_cons, ih]

/-! ### The last refill -/

theorem acquireAt_lastRefill (b : Bucket ν) (now : ℤ) :
    (b.acquireAt now).2.lastRefill = max b.lastRefill now := by
  unfold acquireAt
  simp only
  split_ifs <;> rfl

/-- **The last refill** was at the latest instant. -/
theorem run_lastRefill (b : Bucket ν) (instants : List ℤ) :
    (b.run instants).2.lastRefill = instants.foldl max b.lastRefill := by
  induction instants generalizing b with
  | nil => rfl
  | cons now later ih =>
    rw [List.foldl_cons, ← acquireAt_lastRefill]
    exact ih (b.acquireAt now).2

end Bucket

end HttpPipeline
