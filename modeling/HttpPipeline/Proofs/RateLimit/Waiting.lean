import HttpPipeline.Proofs.RateLimit.Spending
import Mathlib.Tactic.FieldSimp

/-!
# Waiting as long as one was told

An attempt that is turned away is told how long the missing part of a token takes to come, in whole
seconds. Whoever waits so long need not find a token. The time is computed as a quotient, which is
rounded twice to 53 digits and once to whole nanoseconds before it is rounded up to seconds, and the
rounding to nanoseconds may well go down. So what is told may be short of the time until the token,
by half a nanosecond and a part of `2 ^ 52` of that time (`Bucket.missing_le`).
`Bucket.rejected_after_wait` is a bucket for which it is.

What holds is said in `Bucket.retry_admitted`. The wait is enough unless the time until the token
lies just above a whole number of seconds. And it is not enough but once: the little that is then
missing has come when the next wait is over, which is a second at least.

The tokens after a wait are a single rounding of the exact sum (`Bucket.Exact.toRat?_awaited`). They
are one or more from `1 - 2 ^ (-54)` on, since the numbers from there are rounded up to one.
-/

namespace HttpPipeline

/-! ### The seconds that are told -/

namespace Duration

open Binary64

/-- A number of seconds, rounded to the nearest nanosecond. -/
def nearestTo (q : ℚ) : Duration := ⟨(nearest (q * perSecond)).toNat⟩

theorem one_le_retryAfterSeconds (d : Duration) : 1 ≤ d.retryAfterSeconds := le_max_right _ _

/-- Seconds are rounded up, away from the bound. -/
theorem le_retryAfterSeconds {d : Duration} (h : d.nanoseconds ≤ (2 ^ 64 - 1) * perSecond) :
    d.nanoseconds ≤ d.retryAfterSeconds * perSecond := by
  have hsplit := Nat.div_add_mod d.nanoseconds perSecond
  have hsmall := Nat.mod_lt d.nanoseconds (show 0 < perSecond by decide)
  unfold retryAfterSeconds seconds subsecond
  unfold perSecond at *
  simp only [Nat.reducePow, Nat.reduceSub, Nat.reduceMul] at *
  split_ifs <;> omega

/-- No more than one second is added, or it is the least that is told. -/
theorem retryAfterSeconds_le (d : Duration) :
    d.retryAfterSeconds * perSecond ≤ d.nanoseconds + perSecond := by
  have hsplit := Nat.div_add_mod d.nanoseconds perSecond
  unfold retryAfterSeconds seconds subsecond
  simp only
  unfold perSecond at *
  split_ifs <;> omega

/-- Whole seconds are told as they are. -/
theorem retryAfterSeconds_whole {n : ℕ} (hn : 1 ≤ n) :
    retryAfterSeconds ⟨n * perSecond⟩ = n := by
  unfold retryAfterSeconds seconds subsecond
  simp only
  rw [Nat.mul_mod_left, if_neg (lt_irrefl 0), Nat.mul_div_cancel n (by decide), max_eq_left hn]

section Told

variable {q : ℚ}

theorem nanoseconds_nearestTo (hq : 0 ≤ q) :
    ((nearestTo q).nanoseconds : ℤ) = nearest (q * perSecond) := by
  have hnonneg : 0 ≤ nearest (q * perSecond) := le_nearest (by push_cast; positivity)
  exact Int.toNat_of_nonneg hnonneg

/-- **What is told is short** by half a nanosecond at most. -/
theorem le_told (hq : 0 ≤ q)
    (hfar : nearest (q * perSecond) ≤ ((2 ^ 64 - 2 ^ 11) * perSecond : ℕ)) :
    q ≤ (nearestTo q).retryAfterSeconds + 1 / (2 * perSecond) := by
  have hnanos := nanoseconds_nearestTo hq
  have hbound : (nearestTo q).nanoseconds ≤ (2 ^ 64 - 1) * perSecond := by
    have hless : (2 ^ 64 - 2 ^ 11) * perSecond ≤ (2 ^ 64 - 1) * perSecond := by decide
    omega
  have hup : ((nearestTo q).nanoseconds : ℚ) ≤ (nearestTo q).retryAfterSeconds * perSecond := by
    exact_mod_cast le_retryAfterSeconds hbound
  have herror := (abs_le.mp (abs_nearest_sub_le (q * perSecond))).1
  rw [← hnanos, Int.cast_natCast] at herror
  have hsecond : (0 : ℚ) < perSecond := by norm_num [perSecond]
  have hscaled : q * perSecond ≤
      ((nearestTo q).retryAfterSeconds + 1 / (2 * perSecond)) * perSecond := by
    calc q * perSecond ≤ (nearestTo q).retryAfterSeconds * perSecond + 1 / 2 := by linarith
      _ = ((nearestTo q).retryAfterSeconds + 1 / (2 * perSecond)) * perSecond := by
        field_simp
  exact le_of_mul_le_mul_right hscaled hsecond

/-- **What is told is a number of the format.** It has few digits, or the number it was rounded from
is so large that it is whole. -/
theorem has_told (hq : Has q) : Has ((nearestTo q).retryAfterSeconds : ℚ) := by
  by_cases hfew : (nearestTo q).retryAfterSeconds < 2 ^ 53
  · exact has_natCast hfew
  · -- with so many seconds the number is beyond `2 ^ 52`, where all of the format is whole
    have hnanos := nanoseconds_nearestTo hq.nonneg
    have hle := retryAfterSeconds_le (nearestTo q)
    have herror := (abs_le.mp (abs_nearest_sub_le (q * perSecond))).2
    have hmany : ((2 ^ 53 - 1) * perSecond : ℕ) ≤ nearest (q * perSecond) := by
      have hmore : 2 ^ 53 * perSecond ≤ (nearestTo q).retryAfterSeconds * perSecond :=
        Nat.mul_le_mul_right _ (not_lt.mp hfew)
      unfold perSecond at *
      omega
    have hlarge : (2 : ℚ) ^ 52 ≤ q := by
      have hcast : (((2 ^ 53 - 1) * perSecond : ℕ) : ℚ) ≤ nearest (q * perSecond) := by
        exact_mod_cast hmany
      have hsecond : (perSecond : ℚ) = 1000000000 := by norm_num [perSecond]
      rw [hsecond] at herror
      norm_num [perSecond] at hcast
      linarith
    obtain ⟨n, rfl⟩ := hq.whole hlarge
    have hwhole : nearestTo (n : ℚ) = ⟨n * perSecond⟩ := by
      have hcast : (n : ℚ) * perSecond = ((n * perSecond : ℕ) : ℤ) := by push_cast; rfl
      rw [nearestTo, hcast, nearest_intCast, Int.toNat_natCast]
    have hone : 1 ≤ n := by
      have hcast : (2 ^ 52 : ℕ) ≤ n := by exact_mod_cast hlarge
      omega
    rw [hwhole, retryAfterSeconds_whole hone]
    exact hq

end Told

end Duration

namespace Bucket

open Binary64

/-! ### The wait in numbers -/

/-- The seconds until a bucket with less than a token has one, as they are computed. -/
def secondsTold (tokens rate : ℚ) : ℚ := rounded (rounded (1 - tokens) / rate)

section Numbers

variable {x r : ℚ}

/-- What is missing is computed up to a part of `2 ^ 53`. -/
theorem le_rounded_missing (hx : Has x) (hless : x < 1) :
    (1 - x) - (1 - x) / 2 ^ 53 ≤ rounded (1 - x) := by
  have hgap := hx.le_one_sub hless
  have hnormal : (2 : ℚ) ^ (-1022 : ℤ) ≤ 1 - x := by
    calc (2 : ℚ) ^ (-1022 : ℤ) ≤ 2 ^ (-53 : ℤ) :=
          zpow_le_zpow_right₀ (by norm_num) (by norm_num)
      _ = 1 / 2 ^ 53 := by norm_num
      _ ≤ 1 - x := by linarith
  linarith [(abs_le.mp (abs_rounded_sub_le_part hnormal)).1]

theorem rounded_missing_pos (hx : Has x) (hless : x < 1) : 0 < rounded (1 - x) := by
  have hle := le_rounded_missing hx hless
  linarith

/-- **What is told is short** of the time until the token by half a nanosecond and a part of
`2 ^ 52` of that time, if it is not the least that is told. -/
theorem missing_le (hx : Has x) (hless : x < 1) (hr : 0 < r) {told : ℚ} (hone : 1 ≤ told)
    (htold : secondsTold x r ≤ told + 1 / (2 * Duration.perSecond)) :
    (1 - x) / r ≤ told + 1 / (2 * Duration.perSecond) + (1 - x) / r / 2 ^ 52 := by
  have htime : (0 : ℚ) ≤ (1 - x) / r := div_nonneg (by linarith) hr.le
  have hsecond : (0 : ℚ) < 1 / (2 * Duration.perSecond) := by norm_num [Duration.perSecond]
  have hquotient : (1 - x) / r - (1 - x) / r / 2 ^ 53 ≤ rounded (1 - x) / r := by
    calc (1 - x) / r - (1 - x) / r / 2 ^ 53 = ((1 - x) - (1 - x) / 2 ^ 53) / r := by ring
      _ ≤ rounded (1 - x) / r := by
        gcongr
        exact le_rounded_missing hx hless
  by_cases hnormal : 2 ^ (-1022 : ℤ) ≤ rounded (1 - x) / r
  · have herror := (abs_le.mp (abs_rounded_sub_le_part hnormal)).1
    unfold secondsTold at htold
    linarith
  · -- a time so short is over within the second that is told at least
    have hshort : rounded (1 - x) / r ≤ 1 / 2 := by
      calc rounded (1 - x) / r ≤ 2 ^ (-1022 : ℤ) := (not_le.mp hnormal).le
        _ ≤ 2 ^ (-1 : ℤ) := zpow_le_zpow_right₀ (by norm_num) (by norm_num)
        _ = 1 / 2 := by norm_num
    clear hnormal
    linarith

/-- With more tokens, no more is told. -/
theorem secondsTold_anti {x' : ℚ} (hx' : Has x') (hless : x' < 1) (hr : 0 < r) (h : x ≤ x') :
    secondsTold x' r ≤ secondsTold x r := by
  have hmissing : rounded (1 - x') ≤ rounded (1 - x) :=
    rounded_mono (by linarith) (by linarith)
  refine rounded_mono (div_pos (rounded_missing_pos hx' hless) hr) ?_
  gcongr

/-- **A second wait is enough.** What the first one was short by is less than what comes in a
second, or else it is so little that the second wait is not short of it by anything that counts. -/
theorem second_wait {x' told told' : ℚ} (hx : 0 ≤ x) (hr : 0 < r)
    (hshort : (1 - x) / r ≤ told + 1 / (2 * Duration.perSecond) + (1 - x) / r / 2 ^ 52)
    (hsum : (x + r * told) - 1 / 2 ^ 54 ≤ x') (hone : 1 ≤ told')
    (hshort' : (1 - x') / r ≤ told' + 1 / (2 * Duration.perSecond) + (1 - x') / r / 2 ^ 52) :
    1 - 1 / 2 ^ 54 ≤ x' + r * told' := by
  have hsecond : (Duration.perSecond : ℚ) = 1000000000 := by norm_num [Duration.perSecond]
  rw [hsecond] at hshort hshort'
  -- both in tokens
  have htokens {y t : ℚ} (h : (1 - y) / r ≤ t + 1 / (2 * 1000000000) + (1 - y) / r / 2 ^ 52) :
      1 - y ≤ r * t + r / 2000000000 + (1 - y) / 2 ^ 52 := by
    calc 1 - y = r * ((1 - y) / r) := by field_simp
      _ ≤ r * (t + 1 / (2 * 1000000000) + (1 - y) / r / 2 ^ 52) := by gcongr
      _ = r * t + r / 2000000000 + (1 - y) / 2 ^ 52 := by
        field_simp
        ring
  have hfirst := htokens hshort
  have hagain := htokens hshort'
  have hleast : r ≤ r * told' := le_mul_of_one_le_right hr.le hone
  by_cases hslow : r < 1 / 2 ^ 51
  · -- so little is missing now that the error of the second wait does not count
    linarith
  · -- what the first wait was short by comes in a second
    linarith

end Numbers

/-! ### Buckets that turned somebody away -/

/-- **A bucket with less than a token**, as an attempt that is turned away leaves it. -/
structure Lacking (rate : Binary64) (burst : ℕ) (x : ℚ) (b : Bucket Binary64) : Prop
    extends Exact rate burst b where
  value : b.tokens.toRat? = some x
  less : x < 1

namespace Lacking

variable {rate : Binary64} {burst : ℕ} {b : Bucket Binary64} {x r : ℚ} {m : ℕ} {e : ℤ}

theorem has (h : Lacking rate burst x b) : Has x := h.representable x h.value

/-- The quotient that the wait is computed as. -/
theorem quotient_eq (h : Lacking rate burst x b) (hrate : rate = .finite false (m + 1) e)
    (hr : rate.toRat? = some r) :
    Binary64.div (Binary64.sub (.ofNat 1) b.tokens) b.rate =
      round (rounded (1 - x) / r) false := by
  have hmissing : 0 < 1 - x := sub_pos.mpr h.less
  have hone : Amount (.ofNat 1) := amount_round (Nat.cast_nonneg 1)
  have hle : rounded (1 - x) ≤ 1 :=
    rounded_le hmissing has_one (sub_le_self 1 h.has.nonneg)
  have hrange : rounded (1 - x) < 2 ^ (1024 : ℤ) := by
    refine lt_of_le_of_lt hle ?_
    exact one_lt_zpow₀ (by norm_num) (by norm_num)
  rw [h.rate, hone.sub_eq_round toRat?_one h.value]
  rw [hrate] at hr ⊢
  exact (amount_round hmissing.le).div_eq_round (toRat?_round hmissing hrange) hr

theorem quotient_pos (h : Lacking rate burst x b) (hr : 0 < r) : 0 < rounded (1 - x) / r :=
  div_pos (rounded_missing_pos h.has h.less) hr

/-- **What is told**, if it is not too long. -/
theorem wait_eq (h : Lacking rate burst x b) (hrate : rate = .finite false (m + 1) e)
    (hr : rate.toRat? = some r) (hr0 : 0 < r) (hless : secondsTold x r < 2 ^ 64) :
    b.wait = .nearestTo (secondsTold x r) ∧ Has (secondsTold x r) ∧
      nearest (secondsTold x r * Duration.perSecond) ≤
        (((2 ^ 64 - 2 ^ 11) * Duration.perSecond : ℕ) : ℤ) := by
  have hpos := h.quotient_pos hr0
  have hrange : rounded (rounded (1 - x) / r) < 2 ^ (1024 : ℤ) := by
    have hpower : (2 : ℚ) ^ (64 : ℤ) ≤ 2 ^ (1024 : ℤ) :=
      zpow_le_zpow_right₀ (by norm_num) (by norm_num)
    exact lt_of_lt_of_le (by exact_mod_cast hless) hpower
  have hvalue : (round (rounded (1 - x) / r) false).toRat? = some (secondsTold x r) :=
    toRat?_round hpos hrange
  obtain ⟨hsome, hfar⟩ := Duration.ofSeconds?_of_lt (amount_round hpos.le) hvalue hless
  refine ⟨?_, representable_round hpos.le _ hvalue, hfar⟩
  show (Duration.ofSeconds? (Binary64.div (Binary64.sub (.ofNat 1) b.tokens) b.rate)).getD
    .longest = _
  rw [h.quotient_eq hrate hr, hsome]
  rfl

/-- A wait that is not the longest is not too long. -/
theorem wait_lt_longest_iff (h : Lacking rate burst x b) (hrate : rate = .finite false (m + 1) e)
    (hr : rate.toRat? = some r) (hr0 : 0 < r) :
    b.wait.nanoseconds < Duration.longest.nanoseconds ↔ secondsTold x r < 2 ^ 64 := by
  have hpos := h.quotient_pos hr0
  constructor
  · intro hwait
    have hsaturates : b.wait ≠ .longest := fun hsame => by
      rw [hsame] at hwait
      exact lt_irrefl _ hwait
    have hshown : b.wait = (Duration.ofSeconds?
        (round (rounded (1 - x) / r) false)).getD .longest := by
      rw [← h.quotient_eq hrate hr]
      rfl
    rw [hshown, ne_eq, Duration.saturates_iff (amount_round hpos.le), not_or] at hsaturates
    by_contra hlong
    rcases round_cases hpos false with ⟨hinfinite, -⟩ | ⟨m', e', hround, -, -, -, hvalue⟩
    · exact hsaturates.1 hinfinite
    · refine hsaturates.2 ⟨secondsTold x r, ?_, not_lt.mp hlong⟩
      rw [hround, toRat?_finite, hvalue]
      rfl
  · intro hless
    -- a wait that fits is told to the nearest nanosecond, which stays clear of the longest
    obtain ⟨hwait, hhas, hfar⟩ := h.wait_eq hrate hr hr0 hless
    have hnanos := Duration.nanoseconds_nearestTo hhas.nonneg
    have hbound : (2 ^ 64 - 2 ^ 11) * Duration.perSecond < Duration.longest.nanoseconds := by
      decide
    rw [hwait]
    omega

/-- **The whole seconds that are told.** -/
theorem retryAfter_spec (h : Lacking rate burst x b) (hrate : rate = .finite false (m + 1) e)
    (hr : rate.toRat? = some r) (hr0 : 0 < r) (hless : secondsTold x r < 2 ^ 64) :
    1 ≤ b.wait.retryAfterSeconds ∧ Has (b.wait.retryAfterSeconds : ℚ) ∧
      (1 - x) / r ≤
        b.wait.retryAfterSeconds + 1 / (2 * Duration.perSecond) + (1 - x) / r / 2 ^ 52 := by
  obtain ⟨hwait, hhas, hfar⟩ := h.wait_eq hrate hr hr0 hless
  have hone : 1 ≤ b.wait.retryAfterSeconds := Duration.one_le_retryAfterSeconds _
  refine ⟨hone, ?_, missing_le h.has h.less hr0 (by exact_mod_cast hone) ?_⟩
  · rw [hwait]
    exact Duration.has_told hhas
  · rw [hwait]
    exact Duration.le_told hhas.nonneg hfar

/-- Some time brings some tokens. -/
theorem awaited_pos (h : Lacking rate burst x b) (hr0 : 0 < r) {n : ℕ} (hone : 1 ≤ n) :
    0 < x + r * n := by
  have hcast : (1 : ℚ) ≤ n := by exact_mod_cast hone
  have hgain : 0 < r * n := mul_pos hr0 (by linarith)
  linarith [h.has.nonneg]

/-- Rounding does not take them away. -/
theorem le_awaited (h : Lacking rate burst x b) (hr0 : 0 < r) {n : ℕ} (hone : 1 ≤ n) :
    x ≤ rounded (x + r * n) := by
  refine le_rounded (h.awaited_pos hr0 hone) h.has (le_add_of_nonneg_right ?_)
  positivity

/-- **Coming back** after some whole seconds. There is a token if the exact sum is near enough to
one, and if not, what there is now is that sum, rounded. -/
theorem acquireAt_awaited (h : Lacking rate burst x b) (hsome : 1 ≤ burst) (hburst : burst < 2 ^ 53)
    (hrate : rate = .finite false (m + 1) e) (hr : rate.toRat? = some r) (hr0 : 0 < r) {n : ℕ}
    (hone : 1 ≤ n) (hn : Has n) {later : ℤ}
    (hlater : later = b.lastRefill + n * Duration.perSecond) :
    ((b.acquireAt later).1 = .admitted ↔ 1 - 1 / 2 ^ 54 ≤ x + r * n) ∧
      ∀ retryAfter, (b.acquireAt later).1 = .rejected retryAfter →
        Lacking rate burst (rounded (x + r * n)) (b.acquireAt later).2 ∧
          retryAfter = (b.acquireAt later).2.wait ∧ (b.acquireAt later).2.lastRefill = later := by
  have hbetween : Duration.between b.lastRefill later = ⟨n * Duration.perSecond⟩ := by
    unfold Duration.between
    rw [hlater, add_sub_cancel_left, ← Nat.cast_mul, Int.toNat_natCast]
  -- after a whole number of seconds the product is exact, so the sum is rounded once
  have htokens := h.toRat?_refill hburst hrate hr
    (by rw [hbetween]; exact Duration.toSeconds_whole hn) h.value
  have hsum : (n : ℚ) * r + x = x + r * n := by ring
  rw [hsum] at htokens
  have hpos := h.awaited_pos hr0 hone
  have hcapacity : (1 : ℚ) ≤ burst := by exact_mod_cast hsome
  have hholds : TokenArithmetic.holdsOne (b.refill later).tokens = true ↔
      1 ≤ rounded (x + r * n) := by
    rw [holdsOne_iff htokens, le_min_iff]
    exact and_iff_left hcapacity
  refine ⟨?_, ?_⟩
  · rw [← one_le_rounded_iff hpos, ← hholds]
    constructor
    · intro hadmitted
      by_contra hlacks
      rw [acquireAt_of_lacks hlacks] at hadmitted
      exact absurd hadmitted (by simp)
    · intro hone'
      rw [acquireAt_of_holds hone']
  · intro retryAfter hrejected
    obtain ⟨hlacks, hkept, htold⟩ := acquireAt_rejected hrejected
    -- rejected, so it was not filled up to the burst either, and still lacks
    have hless : rounded (x + r * n) < 1 := not_le.mp (mt hholds.mpr hlacks)
    have hlast : (b.refill later).lastRefill = later := by
      show max b.lastRefill later = later
      rw [hlater]
      exact max_eq_right (le_add_of_nonneg_right (by positivity))
    rw [hkept]
    refine ⟨{ h.refill hburst hrate later with value := ?_, less := hless }, htold, hlast⟩
    rw [htokens, min_eq_left (hless.le.trans hcapacity)]

end Lacking

/-- **A time just above a whole number of seconds**, by no more than what rounding may lose. -/
def JustAbove (time : ℚ) : Prop :=
  ∃ k : ℕ, 1 ≤ k ∧ k < time ∧ time ≤ k + 1 / (2 * Duration.perSecond) + time / 2 ^ 52

/-- Instants that are no later have no later one among them. -/
theorem foldl_max_le {instants : List ℤ} {created now : ℤ} (hcreated : created ≤ now)
    (h : ∀ earlier ∈ instants, earlier ≤ now) : instants.foldl max created ≤ now := by
  induction instants generalizing created with
  | nil => exact hcreated
  | cons first rest ih =>
    exact ih (max_le hcreated (h first List.mem_cons_self))
      fun earlier hmem => h earlier (List.mem_cons_of_mem first hmem)

/-- **Who waits as long as told** is admitted if and only if the tokens there were and what the rate
gives in that time come so near to one that they are rounded to it. So it is unless the time until
the token lies just above a whole number of seconds. Whoever is turned away nevertheless is told a
time once more, and then it is enough. -/
theorem retry_admitted {rate : Binary64} (hfinite : rate.isFinite = true)
    (hpositive : Binary64.lt (.zero false) rate = true) {burst : ℕ} (hsome : 1 ≤ burst)
    (hburst : burst < 2 ^ 32) (created : ℤ) (instants : List ℤ) {now : ℤ}
    (hlatest : ∀ earlier ∈ created :: instants, earlier ≤ now) {retryAfter : Duration}
    (hrejected : (((full rate burst created).run instants).2.acquireAt now).1 =
      .rejected retryAfter)
    (hwait : retryAfter.nanoseconds < Duration.longest.nanoseconds) :
    let b := (((full rate burst created).run instants).2.acquireAt now).2
    let later := now + retryAfter.retryAfterSeconds * Duration.perSecond
    ∃ tokens perSecond : ℚ, b.tokens.toRat? = some tokens ∧ rate.toRat? = some perSecond ∧
      ((b.acquireAt later).1 = .admitted ↔
        1 - 1 / 2 ^ 54 ≤ tokens + perSecond * retryAfter.retryAfterSeconds) ∧
      (¬JustAbove ((1 - tokens) / perSecond) → (b.acquireAt later).1 = .admitted) ∧
      ∀ retryAfter', (b.acquireAt later).1 = .rejected retryAfter' →
        retryAfter'.nanoseconds < Duration.longest.nanoseconds ∧
          ((b.acquireAt later).2.acquireAt
            (later + retryAfter'.retryAfterSeconds * Duration.perSecond)).1 = .admitted := by
  intro b later
  have hdigits : burst < 2 ^ 53 := lt_trans hburst (by norm_num)
  obtain ⟨m, e, hrate⟩ := Binary64.exists_of_positive hfinite hpositive
  obtain ⟨r, hr, hr0⟩ : ∃ r, rate.toRat? = some r ∧ 0 < r := by
    refine ⟨_, by rw [hrate, toRat?_finite], ?_⟩
    positivity
  -- the bucket that the attempt leaves
  obtain ⟨hlacks, hkept, htold⟩ := acquireAt_rejected hrejected
  have hreached := (exact_full hdigits rate created).run hdigits hrate instants
  have hexact : Exact rate burst b := hreached.acquireAt hdigits hrate now
  obtain ⟨x, hx, hx0, -, -⟩ := hexact.value
  have hless : x < 1 := by
    rw [← hkept] at hlacks
    exact not_le.mp (mt (holdsOne_iff hx).mpr hlacks)
  have hlacking : Lacking rate burst x b := { hexact with value := hx, less := hless }
  have hlast : b.lastRefill = now := by
    rw [acquireAt_lastRefill, run_lastRefill]
    exact max_eq_right (foldl_max_le (hlatest created List.mem_cons_self)
      fun earlier hmem => hlatest earlier (List.mem_cons_of_mem created hmem))
  obtain rfl : retryAfter = b.wait := by
    rw [htold, ← hkept]
  -- what it tells, and what there is when that time is over
  have hseconds := (hlacking.wait_lt_longest_iff hrate hr hr0).mp hwait
  obtain ⟨hone, htold, hshort⟩ := hlacking.retryAfter_spec hrate hr hr0 hseconds
  obtain ⟨hadmitted, hagain⟩ := hlacking.acquireAt_awaited hsome hdigits hrate hr hr0 hone htold
    (show later = _ by rw [hlast])
  refine ⟨x, r, hx, hr, hadmitted, ?_, ?_⟩
  · intro hclear
    by_contra hnot
    have hmissing : (b.wait.retryAfterSeconds : ℚ) < (1 - x) / r := by
      rw [lt_div_iff₀ hr0]
      have hfew := not_le.mp (mt hadmitted.mpr hnot)
      linarith
    exact hclear ⟨_, hone, hmissing, hshort⟩
  · intro retryAfter' hrejected'
    obtain ⟨hlacking', rfl, hlast'⟩ := hagain retryAfter' hrejected'
    have hfew : x + r * b.wait.retryAfterSeconds < 1 - 1 / 2 ^ 54 := by
      refine not_le.mp (mt hadmitted.mpr ?_)
      rw [hrejected']
      simp
    have hpos := hlacking.awaited_pos hr0 hone
    have hgrown := hlacking.le_awaited hr0 hone
    have hseconds' := (secondsTold_anti hlacking'.has hlacking'.less hr0 hgrown).trans_lt hseconds
    obtain ⟨hone', htold', hshort'⟩ := hlacking'.retryAfter_spec hrate hr hr0 hseconds'
    refine ⟨(hlacking'.wait_lt_longest_iff hrate hr hr0).mpr hseconds', ?_⟩
    refine (hlacking'.acquireAt_awaited hsome hdigits hrate hr hr0 hone' htold'
      (by rw [hlast'])).1.mpr ?_
    have herror := (abs_le.mp (abs_rounded_sub_le_below_one hpos (by linarith))).1
    exact second_wait hx0 hr0 hshort (by linarith) (by exact_mod_cast hone') hshort'

/-- Three tenths of a token a second. Whoever is turned away is told four seconds, and then there
is a token and a part. -/
theorem retry_admitted_fourth :
    let rate : Binary64 := .finite false 5404319552844595 (-54)
    let b := ((full rate 1 0).run [0]).2
    (∀ earlier ∈ ([0, 0] : List ℤ), earlier ≤ 1000) ∧
      (b.acquireAt 1000).1 = .rejected ⟨3333332333⟩ ∧
      Duration.retryAfterSeconds ⟨3333332333⟩ = 4 ∧
      ((b.acquireAt 1000).2.acquireAt 4000001000).1 = .admitted := by
  intro rate b
  have hlatest : ∀ earlier ∈ ([0, 0] : List ℤ), earlier ≤ 1000 := by decide
  have hrejected : (b.acquireAt 1000).1 = .rejected ⟨3333332333⟩ := by decide +kernel
  obtain ⟨tokens, perSecond, htokens, hperSecond, hadmitted, -⟩ :=
    retry_admitted (show rate.isFinite = true from rfl) (by decide +kernel) le_rfl
      (show 1 < 2 ^ 32 by norm_num) 0 [0] hlatest hrejected (by decide +kernel)
  have hpart : (b.acquireAt 1000).2.tokens.toRat? = some (5666839779443574 / 2 ^ 74) := by
    decide +kernel
  have hrate : rate.toRat? = some (5404319552844595 / 2 ^ 54) := by decide +kernel
  obtain rfl := Option.some.inj (hpart.symm.trans htokens)
  obtain rfl := Option.some.inj (hrate.symm.trans hperSecond)
  refine ⟨hlatest, hrejected, rfl, hadmitted.mpr ?_⟩
  norm_num [show Duration.retryAfterSeconds ⟨3333332333⟩ = 4 from rfl]

/-- **A wait that is not enough.** At a rate just below a half, a token takes two seconds and a part
of a nanosecond. That part is rounded away before the seconds are rounded up, so two seconds are
told, and whoever comes back after two seconds is turned away. -/
theorem rejected_after_wait :
    let rate : Binary64 := .finite false 9007199252939552 (-54)
    let b := ((full rate 1 0).run [0]).2
    rate.isFinite = true ∧ Binary64.lt (.zero false) rate = true ∧
      (∀ earlier ∈ ([0, 0] : List ℤ), earlier ≤ 0) ∧
      (b.acquireAt 0).1 = .rejected ⟨2000000000⟩ ∧
      Duration.retryAfterSeconds ⟨2000000000⟩ = 2 ∧
      ((b.acquireAt 0).2.acquireAt (0 + 2 * 1000000000)).1 = .rejected ⟨0⟩ := by
  decide +kernel

end Bucket

end HttpPipeline
