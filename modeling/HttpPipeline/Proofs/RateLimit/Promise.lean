import HttpPipeline.Proofs.RateLimit.Runs
import Mathlib.Data.Rat.Cast.Order
import Mathlib.Tactic.Linarith
import Mathlib.Tactic.Positivity
import Mathlib.Tactic.Ring

/-!
# What a rate limit promises

With a refill that is not rounded, a bucket keeps the promise of its rate
(`Bucket.admissions_limited`): between any two points of a run it admits no more than its burst and
what the rate gives for the time from the last refill at the first to the last refill at the second.

The tokens are the potential that pays for this. A refill adds no more than the rate gives for the
time it is credited with, an admission takes one, and there are never more than the burst nor fewer
than none (`Bucket.Sound`). The times that are credited sum to the advance of the last refill, in
whatever order the instants come (`Bucket.sum_credited`): no time is credited twice, since an
instant earlier than the last refill is credited with none.

An attempt that is turned away leaves no trace in what is admitted. All it does is to refill, and
the refill of a later instant makes up for one that was left out (`Bucket.refill_refill`). Until
such an instant comes, everybody is turned away with it or without it (`Bucket.Ahead`).
-/

namespace HttpPipeline

namespace Bucket

/-! ### Credited time -/

section Credited

variable {ν : Type} [TokenArithmetic ν]

/-- The time that each attempt of a run is credited with. -/
def credited (b : Bucket ν) : List ℤ → List Duration
  | [] => []
  | now :: later => .between b.lastRefill now :: credited (b.acquireAt now).2 later

theorem nanoseconds_between (earlier later : ℤ) :
    ((Duration.between earlier later).nanoseconds : ℤ) = max earlier later - earlier := by
  unfold Duration.between
  simp only
  omega

/-- **No time is credited twice.** -/
theorem sum_credited (b : Bucket ν) (instants : List ℤ) :
    ((b.credited instants).map fun d => (d.nanoseconds : ℤ)).sum =
      (b.run instants).2.lastRefill - b.lastRefill := by
  induction instants generalizing b with
  | nil => exact (sub_self _).symm
  | cons now later ih =>
    rw [credited, List.map_cons, List.sum_cons, ih, run_cons, nanoseconds_between,
      acquireAt_lastRefill]
    ring

end Credited

/-! ### Without rounding -/

variable {rate : ℚ} {burst : ℕ} {b : Bucket ℚ} {now : ℤ}

theorem tokens_refill (b : Bucket ℚ) (now : ℤ) :
    (b.refill now).tokens =
      min ((Duration.between b.lastRefill now).nanoseconds / Duration.perSecond * b.rate +
        b.tokens) b.capacity := by
  show (if _ < _ then _ else _) = _
  split_ifs with hless
  · exact (min_eq_right hless.le).symm
  · exact (min_eq_left (not_lt.mp hless)).symm

/-- **A bucket as it should be**: no more tokens than the burst, and no fewer than none. -/
structure Sound (rate : ℚ) (burst : ℕ) (b : Bucket ℚ) : Prop where
  rate_eq : b.rate = rate
  capacity_eq : b.capacity = burst
  nonneg : 0 ≤ b.tokens
  le_burst : b.tokens ≤ burst

theorem sound_full (rate : ℚ) (burst : ℕ) (created : ℤ) :
    Sound rate burst (full rate burst created) :=
  ⟨rfl, rfl, Nat.cast_nonneg burst, le_rfl⟩

namespace Sound

theorem refill (h : Sound rate burst b) (hrate : 0 ≤ rate) (now : ℤ) :
    Sound rate burst (b.refill now) := by
  refine ⟨h.rate_eq, h.capacity_eq, ?_, ?_⟩
  · rw [tokens_refill, h.rate_eq, h.capacity_eq]
    have hnonneg := h.nonneg
    exact le_min (by positivity) (Nat.cast_nonneg burst)
  · rw [tokens_refill, h.capacity_eq]
    exact min_le_right _ _

theorem spend (h : Sound rate burst b) (hone : TokenArithmetic.holdsOne b.tokens = true) :
    Sound rate burst
      { b with tokens := TokenArithmetic.sub b.tokens (TokenArithmetic.ofNat 1) } := by
  have htoken : 1 ≤ b.tokens := of_decide_eq_true hone
  refine ⟨h.rate_eq, h.capacity_eq, ?_, ?_⟩
  · show 0 ≤ b.tokens - ((1 : ℕ) : ℚ)
    rw [Nat.cast_one]
    exact sub_nonneg.mpr htoken
  · show b.tokens - ((1 : ℕ) : ℚ) ≤ burst
    rw [Nat.cast_one]
    exact (sub_le_self _ zero_le_one).trans h.le_burst

theorem acquireAt (h : Sound rate burst b) (hrate : 0 ≤ rate) (now : ℤ) :
    Sound rate burst (b.acquireAt now).2 :=
  acquireAt_keeps (fun _ now hb => hb.refill hrate now) (fun _ hb hone => hb.spend hone) h now

theorem run (h : Sound rate burst b) (hrate : 0 ≤ rate) (instants : List ℤ) :
    Sound rate burst (b.run instants).2 :=
  run_keeps (fun _ now hb => hb.acquireAt hrate now) h instants

/-! ### The potential -/

/-- **What an attempt costs** is paid for by the tokens there were and by the time it is credited
with. -/
theorem spent_le (h : Sound rate burst b) (now : ℤ) :
    (b.acquireAt now).2.tokens + (if (b.acquireAt now).1.isAdmitted then 1 else 0) ≤
      b.tokens + rate * ((Duration.between b.lastRefill now).nanoseconds / Duration.perSecond) := by
  have hgrown : (b.refill now).tokens ≤
      b.tokens + rate * ((Duration.between b.lastRefill now).nanoseconds / Duration.perSecond) := by
    rw [tokens_refill, h.rate_eq, mul_comm rate, add_comm b.tokens]
    exact min_le_left _ _
  by_cases hone : TokenArithmetic.holdsOne (b.refill now).tokens = true
  · rw [acquireAt_of_holds hone, Admission.isAdmitted_admitted, if_pos rfl]
    calc (b.refill now).tokens - ((1 : ℕ) : ℚ) + 1 = (b.refill now).tokens := by
          rw [Nat.cast_one, sub_add_cancel]
      _ ≤ _ := hgrown
  · rw [acquireAt_of_lacks hone, Admission.isAdmitted_rejected, if_neg Bool.false_ne_true,
      add_zero]
    exact hgrown

/-- **What a run costs.** -/
theorem run_spent_le (h : Sound rate burst b) (hrate : 0 ≤ rate) (instants : List ℤ) :
    (b.run instants).2.tokens + ((b.run instants).1.countP Admission.isAdmitted : ℕ) ≤
      b.tokens + rate *
        (((b.run instants).2.lastRefill - b.lastRefill : ℤ) / Duration.perSecond) := by
  induction instants generalizing b with
  | nil => simp [Bucket.run]
  | cons now later ih =>
    have hfirst := h.spent_le now
    have hrest := ih (h.acquireAt hrate now)
    have hcount : (((b.run (now :: later)).1.countP Admission.isAdmitted : ℕ) : ℚ) =
        (((b.acquireAt now).2.run later).1.countP Admission.isAdmitted : ℕ) +
          if (b.acquireAt now).1.isAdmitted then 1 else 0 := by
      rw [run_cons, List.countP_cons]
      push_cast
      rfl
    have htime : ((Duration.between b.lastRefill now).nanoseconds : ℚ) =
        ((b.acquireAt now).2.lastRefill - b.lastRefill : ℤ) := by
      rw [acquireAt_lastRefill, ← nanoseconds_between, Int.cast_natCast]
    rw [hcount, run_cons]
    rw [htime] at hfirst
    -- the two stretches of time add up
    have hsum : rate * (((b.acquireAt now).2.lastRefill - b.lastRefill : ℤ) /
          Duration.perSecond) +
        rate * ((((b.acquireAt now).2.run later).2.lastRefill -
          (b.acquireAt now).2.lastRefill : ℤ) / Duration.perSecond) =
        rate * ((((b.acquireAt now).2.run later).2.lastRefill - b.lastRefill : ℤ) /
          Duration.perSecond) := by
      push_cast
      ring
    linarith

end Sound

/-! ### Attempts that are left out -/

/-- A refill does not take tokens away. -/
theorem Sound.tokens_le_refill (h : Sound rate burst b) (hrate : 0 ≤ rate) (now : ℤ) :
    b.tokens ≤ (b.refill now).tokens := by
  rw [tokens_refill, h.rate_eq, h.capacity_eq]
  refine le_min (le_add_of_nonneg_left ?_) h.le_burst
  positivity

/-- Two refills are as good as one if they leave the same tokens at the same instant. -/
theorem refill_congr {x y z : ℤ} (htokens : ((b.refill x).refill y).tokens = (b.refill z).tokens)
    (hlast : ((b.refill x).refill y).lastRefill = (b.refill z).lastRefill) :
    (b.refill x).refill y = b.refill z := by
  calc (b.refill x).refill y
      = { b.refill z with
          tokens := ((b.refill x).refill y).tokens
          lastRefill := ((b.refill x).refill y).lastRefill } := rfl
    _ = b.refill z := by rw [htokens, hlast]

/-- **A later refill makes up for an earlier one.** -/
theorem refill_refill (hrate : 0 ≤ b.rate) {x y : ℤ} (hxy : x ≤ y) :
    (b.refill x).refill y = b.refill y := by
  have hlast : ((b.refill x).refill y).lastRefill = (b.refill y).lastRefill := by
    show max (max b.lastRefill x) y = max b.lastRefill y
    rw [max_assoc, max_eq_right hxy]
  have htime : ((Duration.between b.lastRefill y).nanoseconds : ℚ) =
      (Duration.between b.lastRefill x).nanoseconds +
        (Duration.between (max b.lastRefill x) y).nanoseconds := by
    have hsum : ((Duration.between b.lastRefill y).nanoseconds : ℤ) =
        (Duration.between b.lastRefill x).nanoseconds +
          (Duration.between (max b.lastRefill x) y).nanoseconds := by
      rw [nanoseconds_between, nanoseconds_between, nanoseconds_between, max_assoc,
        max_eq_right hxy]
      ring
    exact_mod_cast hsum
  have htokens : ((b.refill x).refill y).tokens = (b.refill y).tokens := by
    rw [tokens_refill, tokens_refill, tokens_refill]
    show min ((Duration.between (max b.lastRefill x) y).nanoseconds / Duration.perSecond * b.rate
      + _) b.capacity = _
    rw [htime, add_div, add_mul, ← min_add_add_left, min_assoc]
    -- a bucket that the first refill has filled is full
    have hfull : b.capacity ≤ (Duration.between (max b.lastRefill x) y).nanoseconds /
        Duration.perSecond * b.rate + b.capacity := le_add_of_nonneg_left (by positivity)
    rw [min_eq_right hfull]
    congr 1
    ring
  exact refill_congr htokens hlast

/-- A refill at an instant that is no later does nothing more. -/
theorem refill_earlier {x y : ℤ} (hyx : y ≤ x) : (b.refill x).refill y = b.refill x := by
  have hlast : ((b.refill x).refill y).lastRefill = (b.refill x).lastRefill := by
    show max (max b.lastRefill x) y = max b.lastRefill x
    rw [max_assoc, max_eq_left hyx]
  have htime : (Duration.between (b.refill x).lastRefill y).nanoseconds = 0 := by
    have hbetween := nanoseconds_between (b.refill x).lastRefill y
    have hearlier : y ≤ (b.refill x).lastRefill := hyx.trans (le_max_right b.lastRefill x)
    rw [max_eq_left hearlier, sub_self] at hbetween
    exact_mod_cast hbetween
  have htokens : ((b.refill x).refill y).tokens = (b.refill x).tokens := by
    rw [tokens_refill, htime, Nat.cast_zero, zero_div, zero_mul, zero_add]
    refine min_eq_left ?_
    rw [tokens_refill]
    exact min_le_right _ _
  exact refill_congr htokens hlast

/-- **Ahead by a refill that was of no use**: `a` is `b` after a refill at `x`, and has less than a
token. -/
structure Ahead (x : ℤ) (a b : Bucket ℚ) : Prop where
  refilled : a = b.refill x
  lacks : a.tokens < 1

namespace Ahead

variable {x : ℤ} {a : Bucket ℚ}

/-- **One attempt** makes the difference go away, or it is turned away by both. -/
theorem acquireAt (h : Ahead x a b) (hsound : Sound rate burst b) (hrate : 0 ≤ rate) (y : ℤ) :
    a.acquireAt y = b.acquireAt y ∨
      (a.acquireAt y).1.isAdmitted = false ∧ (b.acquireAt y).1.isAdmitted = false ∧
        Ahead x (a.acquireAt y).2 (b.acquireAt y).2 := by
  obtain ⟨rfl, hlacks⟩ := h
  have hrate' : 0 ≤ b.rate := by rwa [hsound.rate_eq]
  rcases le_total x y with hxy | hyx
  · -- the refill at `y` does all that the one at `x` did
    left
    exact acquireAt_congr (refill_refill hrate' hxy)
  · right
    have hsame : (b.refill x).refill y = b.refill x := refill_earlier hyx
    -- what `b` is refilled to now is less still
    have hless : (b.refill y).tokens < 1 := by
      refine lt_of_le_of_lt ?_ hlacks
      rw [← refill_refill hrate' hyx]
      exact (hsound.refill hrate y).tokens_le_refill hrate x
    have hafter : ¬TokenArithmetic.holdsOne ((b.refill x).refill y).tokens = true := by
      rw [hsame]
      exact fun hone => absurd (of_decide_eq_true hone) (not_le.mpr hlacks)
    have hbefore : ¬TokenArithmetic.holdsOne (b.refill y).tokens = true :=
      fun hone => absurd (of_decide_eq_true hone) (not_le.mpr hless)
    rw [acquireAt_of_lacks hafter, acquireAt_of_lacks hbefore]
    refine ⟨rfl, rfl, ?_, ?_⟩
    · rw [hsame, refill_refill hrate' hyx]
    · rw [hsame]
      exact hlacks

/-- **A run** admits the same from both. -/
theorem run (h : Ahead x a b) (hsound : Sound rate burst b) (hrate : 0 ≤ rate)
    (instants : List ℤ) :
    (a.run instants).1.map Admission.isAdmitted = (b.run instants).1.map Admission.isAdmitted := by
  induction instants generalizing a b with
  | nil => rfl
  | cons y later ih =>
    rw [run_cons, run_cons, List.map_cons, List.map_cons]
    rcases h.acquireAt hsound hrate y with hsame | ⟨ha, hb, hahead⟩
    · rw [hsame]
    · rw [ha, hb, ih hahead (hsound.acquireAt hrate y)]

end Ahead

/-- **The promise of a rate limit.** Between two points of a run, no more attempts are admitted than
the burst and what the rate gives for the time between the last refills there. This is the time that
the attempts in between were credited with, whatever the order of their instants. And if an attempt
that is turned away is left out, every other one is admitted or turned away as before. -/
theorem admissions_limited {rate : ℚ} (hrate : 0 < rate) (burst : ℕ) (created : ℤ)
    (before : List ℤ) :
    let start := ((full rate burst created).run before).2
    (∀ between : List ℤ,
      let stop := ((full rate burst created).run (before ++ between)).2
      (((start.run between).1.countP Admission.isAdmitted : ℕ) : ℚ) ≤
          burst + rate * ((stop.lastRefill - start.lastRefill : ℤ) / Duration.perSecond) ∧
        ((start.credited between).map fun d => (d.nanoseconds : ℤ)).sum =
          stop.lastRefill - start.lastRefill) ∧
    ∀ now retryAfter, (start.acquireAt now).1 = .rejected retryAfter → ∀ after : List ℤ,
      ((full rate burst created).run (before ++ after)).1.map Admission.isAdmitted =
        (((full rate burst created).run (before ++ now :: after)).1.map
          Admission.isAdmitted).eraseIdx before.length := by
  intro start
  have hsound : Sound rate burst start := (sound_full rate burst created).run hrate.le before
  refine ⟨?_, ?_⟩
  · intro between stop
    have hstop : stop = (start.run between).2 := by
      show ((full rate burst created).run (before ++ between)).2 = _
      rw [run_append]
    rw [hstop]
    refine ⟨?_, sum_credited start between⟩
    -- what is spent was there before or was credited since, and the rest is not negative
    have hspent := hsound.run_spent_le hrate.le between
    have hleft := (hsound.run hrate.le between).nonneg
    have hstart := hsound.le_burst
    linarith
  · intro now retryAfter hrejected after
    obtain ⟨hlacks, hkept, -⟩ := acquireAt_rejected hrejected
    -- the rejected request refilled the bucket and took nothing, so it can be left out
    have hahead : Ahead now (start.refill now) start :=
      ⟨rfl, not_le.mp fun hone => hlacks (decide_eq_true hone)⟩
    have hlength : (((full rate burst created).run before).1.map Admission.isAdmitted).length =
        before.length := by rw [List.length_map, length_run]
    have hsame := hahead.run hsound hrate.le after
    rw [run_append, run_append, List.map_append, List.map_append, run_cons, List.map_cons, hkept,
      hsame, ← hlength, List.eraseIdx_append_of_length_le le_rfl, Nat.sub_self,
      List.eraseIdx_cons_zero]

/-- A burst of two, and instants that go back. The third attempt is turned away, and without it
the others fare as before. -/
theorem admissions_limited_back :
    let start := ((full (1 / 2 : ℚ) 2 0).run [0, 0]).2
    (((start.run [1000000000, 500000000, 2000000000]).1.countP Admission.isAdmitted : ℕ) : ℚ) ≤
        2 + 1 / 2 * (((2000000000 : ℤ) : ℚ) / Duration.perSecond) ∧
      (start.acquireAt 1000000000).1 = .rejected ⟨1000000000⟩ ∧
      ((full (1 / 2 : ℚ) 2 0).run [0, 0, 500000000, 2000000000]).1.map Admission.isAdmitted =
        [true, true, false, true] := by
  intro start
  obtain ⟨hlimited, hleft⟩ := admissions_limited (show (0 : ℚ) < 1 / 2 by norm_num) 2 0 [0, 0]
  have hrejected : (start.acquireAt 1000000000).1 = .rejected ⟨1000000000⟩ := by decide +kernel
  have hbound := (hlimited [1000000000, 500000000, 2000000000]).1
  refine ⟨?_, hrejected, ?_⟩
  · have hadvance : ((full (1 / 2 : ℚ) 2 0).run
        ([0, 0] ++ [1000000000, 500000000, 2000000000])).2.lastRefill - start.lastRefill =
          2000000000 := by decide +kernel
    rw [hadvance] at hbound
    exact_mod_cast hbound
  · have hsame := hleft _ _ hrejected [500000000, 2000000000]
    refine hsame.trans ?_
    decide +kernel

end Bucket

end HttpPipeline
