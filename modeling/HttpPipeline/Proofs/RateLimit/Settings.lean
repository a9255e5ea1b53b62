import HttpPipeline.Proofs.RateLimit.Spending
import HttpPipeline.RateLimit.Settings

/-!
# Settings that make a working bucket

All that is known of a bucket rests on a rate that is positive and finite and on a burst of a whole
token or more. Settings come from outside and may be anything. Each of the two settings is used if
it works, and otherwise the default of one is used in its place and an event says so
(`RateSettings.Settled`). Both defaults work, so every bucket that is made of settings does, and
admits as many attempts back to back as the burst that it was given or has instead
(`RateSettings.bucket_works`).

A burst does not work either if it takes more than 32 bits, and is then replaced by the least of all
bursts. So a larger burst admits no fewer attempts as long as it stays below that bound, and no
longer (`RateSettings.bucket_large_burst`).
-/

namespace HttpPipeline

/-- **A positive number** that is finite. -/
def Binary64.IsPositive (x : Binary64) : Prop := ∃ q : ℚ, x.toRat? = some q ∧ 0 < q

theorem Binary64.isPositive_iff {x : Binary64} :
    x.IsPositive ↔ x.isFinite = true ∧ Binary64.lt (.zero false) x = true := by
  constructor
  · rintro ⟨q, hq, hpositive⟩
    obtain ⟨negative, m, e, rfl⟩ := exists_of_value hq
    exact ⟨rfl, (lt_iff_value (toRat?_zero false) hq).mpr hpositive⟩
  · rintro ⟨hfinite, hpositive⟩
    obtain ⟨m, e, rfl⟩ := exists_of_positive hfinite hpositive
    exact ⟨_, toRat?_finite (m + 1) e, by positivity⟩

namespace Bucket

variable {rate : Binary64} {burst : ℕ}

/-- **A full bucket** admits its burst before time advances. -/
theorem countP_run_full (hrate : rate.IsPositive) (hburst : burst < 2 ^ 53) {now : ℤ}
    {instants : List ℤ} (hinstants : ∀ instant ∈ instants, instant ≤ now) :
    ((full rate burst now).run instants).1.countP Admission.isAdmitted
      = min burst instants.length := by
  obtain ⟨hfinite, hpositive⟩ := Binary64.isPositive_iff.mp hrate
  obtain ⟨m, e, hrate⟩ := Binary64.exists_of_positive hfinite hpositive
  obtain ⟨hadmissions, -, -⟩ := (exact_full hburst rate now).run_standing hburst hrate
    (Binary64.ofNat_exact hburst) instants hinstants
  have hcount := congrArg (List.countP id) hadmissions
  rw [List.countP_map, Nat.floor_natCast, List.countP_append, List.countP_replicate,
    List.countP_replicate] at hcount
  simpa using hcount

end Bucket

namespace RateSettings

/-! ### One setting -/

/-- **What becomes of a setting**, and the events about that. It is used if it works; otherwise the
default is, with one event that says so. -/
inductive Settled {α : Type} (works : Prop) (given default : α) (replaced : Event) :
    (used : α) → (events : List Event) → Prop
  | used (h : works) : Settled works given default replaced given []
  | replaced (h : ¬works) : Settled works given default replaced default [replaced]

namespace Settled

variable {α : Type} {works : Prop} {given default used : α} {replacement : Event}
  {events : List Event}

/-- What holds of the default, and of the given value if that works, holds of the one in use. -/
theorem holds {P : α → Prop} (h : Settled works given default replacement used events)
    (hgiven : works → P given) (hdefault : P default) : P used := by
  cases h with
  | used hworks => exact hgiven hworks
  | replaced => exact hdefault

theorem eq_replacement (h : Settled works given default replacement used events) {event : Event}
    (hevent : event ∈ events) : event = replacement := by
  cases h with
  | used => exact absurd hevent List.not_mem_nil
  | replaced => exact List.mem_singleton.mp hevent

end Settled

/-- A burst that works: a positive number of 32 bits. -/
def BurstWorks (s : RateSettings) : Prop := 0 < s.burst ∧ s.burst < 2 ^ 32

section

variable (s : RateSettings)

theorem settled_rate : Settled s.requestsPerSecond.IsPositive s.requestsPerSecond (.ofNat 1)
    (.rateReplaced s.requestsPerSecond (.ofNat 1)) s.rate.1 s.rate.2 := by
  unfold rate
  split_ifs with hworks
  · exact .used (Binary64.isPositive_iff.mpr (by simpa using hworks))
  · exact .replaced (mt Binary64.isPositive_iff.mp (by simpa using hworks))

theorem settled_burst : Settled s.BurstWorks s.burst 1 (.burstReplaced s.burst 1)
    (s.burstUsed.1 : ℤ) s.burstUsed.2 := by
  unfold burstUsed
  split_ifs with hworks
  · have hgiven : (s.burst.toNat : ℤ) = s.burst := Int.toNat_of_nonneg hworks.1.le
    rw [hgiven]
    exact .used hworks
  · exact .replaced hworks

/-- Either way the rate works, -/
theorem isPositive_rate : s.rate.1.IsPositive := by
  have hone : (Binary64.ofNat 1).IsPositive := ⟨1, Binary64.toRat?_one, one_pos⟩
  exact s.settled_rate.holds id hone

/-- and so does the burst. -/
theorem burstUsed_bounds : 0 < s.burstUsed.1 ∧ s.burstUsed.1 < 2 ^ 32 := by
  have hused := s.settled_burst.holds (P := fun burst => 0 < burst ∧ burst < 2 ^ 32) id (by decide)
  omega

/-- **A larger burst** is no smaller when it comes to be used, if it is a number of 32 bits. -/
theorem burstUsed_mono {s s' : RateSettings} (h : s.burst ≤ s'.burst) (hbits : s'.burst < 2 ^ 32) :
    s.burstUsed.1 ≤ s'.burstUsed.1 := by
  unfold burstUsed
  split_ifs <;> simp only [defaultBurst] <;> omega

/-! ### The bucket -/

theorem toRat?_capacity (now : ℤ) :
    (s.bucket now).1.capacity.toRat? = some (s.burstUsed.1 : ℚ) :=
  Binary64.ofNat_exact (s.burstUsed_bounds.2.trans (by norm_num))

/-- The attempts that are admitted back to back. -/
theorem countP_run_bucket {now : ℤ} {instants : List ℤ}
    (hinstants : ∀ instant ∈ instants, instant ≤ now) :
    ((s.bucket now).1.run instants).1.countP Admission.isAdmitted
      = min s.burstUsed.1 instants.length :=
  Bucket.countP_run_full s.isPositive_rate (s.burstUsed_bounds.2.trans (by norm_num)) hinstants

end

/-- **Any settings make a bucket that works.** Its rate is positive and finite, its capacity is a
positive whole number, and so many attempts it admits before time advances. A setting is replaced
by one, with a warning, if it does not work, and only then: a rate that is not a positive finite
number, a burst that is not a positive number of 32 bits.

Of two settings the one with the larger burst makes a bucket with no less capacity, which admits no
fewer attempts back to back, as long as that burst is a number of 32 bits. -/
theorem bucket_works (s : RateSettings) (now : ℤ) :
    let b := (s.bucket now).1
    b.rate.IsPositive ∧
    ∃ (burst : ℕ) (rateEvents burstEvents : List Event),
      0 < burst ∧ b.capacity.toRat? = some (burst : ℚ) ∧
      (∀ instants : List ℤ, (∀ instant ∈ instants, instant ≤ now) →
        (b.run instants).1.countP Admission.isAdmitted = min burst instants.length) ∧
      (s.bucket now).2 = rateEvents ++ burstEvents ∧
      (∀ event ∈ rateEvents ++ burstEvents, event.severity = .warn) ∧
      Settled s.requestsPerSecond.IsPositive s.requestsPerSecond (.ofNat 1)
        (.rateReplaced s.requestsPerSecond (.ofNat 1)) b.rate rateEvents ∧
      Settled s.BurstWorks s.burst 1 (.burstReplaced s.burst 1) (burst : ℤ) burstEvents ∧
      ∀ s' : RateSettings, s.burst ≤ s'.burst → s'.burst < 2 ^ 32 →
        let b' := (s'.bucket now).1
        ∃ burst' : ℕ, b'.capacity.toRat? = some (burst' : ℚ) ∧ burst ≤ burst' ∧
          ∀ instants : List ℤ, (∀ instant ∈ instants, instant ≤ now) →
            (b.run instants).1.countP Admission.isAdmitted
              ≤ (b'.run instants).1.countP Admission.isAdmitted := by
  intro b
  have hrate := s.settled_rate
  have hburst := s.settled_burst
  refine ⟨s.isPositive_rate, s.burstUsed.1, s.rate.2, s.burstUsed.2, s.burstUsed_bounds.1,
    s.toRat?_capacity now, fun instants hinstants => s.countP_run_bucket hinstants, rfl, ?_, hrate,
    hburst, ?_⟩
  · intro event hevent
    rcases List.mem_append.mp hevent with hevent | hevent
    · rw [hrate.eq_replacement hevent]
      rfl
    · rw [hburst.eq_replacement hevent]
      rfl
  · intro s' hlarger hbits b'
    have hmono := burstUsed_mono hlarger hbits
    refine ⟨s'.burstUsed.1, s'.toRat?_capacity now, hmono, fun instants hinstants => ?_⟩
    rw [s.countP_run_bucket hinstants, s'.countP_run_bucket hinstants]
    exact min_le_min_right _ hmono

/-- A rate of no number and a negative burst are both replaced by one, with a warning each, and the
bucket has less than the one of the largest burst. -/
theorem bucket_works_replaced :
    let s : RateSettings := ⟨.nan, -3⟩
    let s' : RateSettings := ⟨.nan, 2 ^ 32 - 1⟩
    (s.bucket 0).2.length = 2 ∧
      ∃ burst : ℕ, (s.bucket 0).1.capacity.toRat? = some (burst : ℚ) ∧
        ((s.bucket 0).1.run [0, 0]).1.countP Admission.isAdmitted = min burst 2 ∧
        ((s.bucket 0).1.run [0, 0]).1.countP Admission.isAdmitted
          ≤ ((s'.bucket 0).1.run [0, 0]).1.countP Admission.isAdmitted := by
  intro s s'
  obtain ⟨-, burst, -, -, -, hcapacity, hadmits, -, -, -, -, hlarger⟩ := s.bucket_works 0
  obtain ⟨-, -, -, hmore⟩ := hlarger s' (by decide) (by decide)
  exact ⟨rfl, burst, hcapacity, hadmits [0, 0] (by decide), hmore [0, 0] (by decide)⟩

/-- **A burst of 33 bits** is replaced by one, as if it were not positive, and admits one of two
attempts where the burst just below it admits both. -/
theorem bucket_large_burst :
    let most : RateSettings := ⟨.ofNat 10, 2 ^ 32 - 1⟩
    let more : RateSettings := ⟨.ofNat 10, 2 ^ 32⟩
    most.burst < more.burst ∧
      (most.bucket 0).2 = [] ∧ (more.bucket 0).2 = [.burstReplaced (2 ^ 32) 1] ∧
      (most.bucket 0).1.capacity = .ofNat (2 ^ 32 - 1) ∧ (more.bucket 0).1.capacity = .ofNat 1 ∧
      ((most.bucket 0).1.run [0, 0]).1.countP Admission.isAdmitted = 2 ∧
      ((more.bucket 0).1.run [0, 0]).1.countP Admission.isAdmitted = 1 := by
  decide +kernel

end RateSettings

end HttpPipeline
