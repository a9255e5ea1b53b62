import HttpPipeline.Proofs.Snowflake.Waits

/-!
# How far identifiers run ahead of the clock

While its clock is far behind, a generator goes on without it: it holds its timestamp and
then advances it, a millisecond for every 128 identifiers. Its timestamps may so come to lie
ahead of all that the clock has ever shown, and `Generator.issueMany_lead` says how far:
after `n` identifiers by at most `n` places, of which a millisecond has 128.

The argument is a potential. `Generator.position` counts the places up to the last one used.
An issue that is far behind moves it by one, whether the timestamp is held or advanced,
since it is advanced only from the last place of its millisecond to the first of the next
(`Generator.position_held`). Any other issue moves it by one as well, or else to the first
place of a millisecond that the clock has shown. So by `Generator.Leads.issue` the distance
to the greatest reading grows by at most one an identifier.
-/

namespace HttpPipeline

namespace Clock

/-- The greatest of some readings. -/
def peak (readings : List Nat) : Nat := readings.foldr max 0

theorem peak_append (a b : List Nat) : peak (a ++ b) = max (peak a) (peak b) := by
  induction a with
  | nil => exact (Nat.zero_max _).symm
  | cons r a ih =>
    simp only [peak, List.cons_append, List.foldr_cons] at ih ⊢
    rw [ih, max_assoc]

@[simp] theorem peak_singleton (r : Nat) : peak [r] = r := Nat.max_zero r

end Clock

namespace Generator

/-! ### One issue -/

/-- The number of places up to the last one used. -/
def position (g : Generator) : Nat := 128 * g.last + g.sequence

/-- Without the clock, a generator moves on by one place. -/
theorem position_held {g : Generator} (h : g.sequence ≤ maxSequence) :
    g.held.position = g.position + 1 := by
  unfold held position
  unfold maxSequence at h ⊢
  split_ifs with hroom
  · rfl
  · -- the last place of a millisecond is followed by the first one of the next
    simp only
    omega

/-- The time for an identifier is not before the first reading. -/
theorem read_le_currentTime (g : Generator) (clock : Clock) :
    clock.read.1 ≤ (g.currentTime clock).1 := by
  simp only [currentTime]
  split_ifs with hahead hnear
  · exact le_refl _
  · -- a wait for the last timestamp ends after it, and so after the first reading
    exact le_trans (le_of_lt (not_le.mp hahead)) (Clock.le_waitUntil _ _)
  · exact le_of_lt (not_le.mp hahead)

/-- The timestamp is not before the time for it. -/
theorem le_place (g : Generator) (now : Nat) (behind : Bool) (clock : Clock) :
    now ≤ (g.place now behind clock).1 := by
  unfold place
  split_ifs with hmoved hroom hbehind
  · exact le_refl _
  · exact le_refl _
  · rw [not_not.mp hmoved]
    exact Nat.le_succ _
  · rw [not_not.mp hmoved]
    exact le_trans (Nat.le_succ _) (clock.le_waitUntil _)

theorem read_le_issue (g : Generator) (clock : Clock) :
    clock.read.1 ≤ (g.issue clock).generator.last :=
  le_trans (g.read_le_currentTime clock) (g.le_place _ _ _)

/-- A clock far behind is read once. -/
theorem took_issue_of_farBehind {g : Generator} {clock : Clock} (h : g.FarBehind clock.read.1) :
    clock.Took [clock.read.1] (g.issue clock).clock := by
  have hclock : (g.issue clock).clock = clock.read.2 := by
    simp only [issue, currentTime_of_farBehind h, place_of_behind]
  rw [hclock]
  exact clock.took_read

/-- As long as it fits, the timestamp of an identifier is that of the state left behind. -/
theorem timestamp_issue {g : Generator} {clock : Clock}
    (hfits : (g.issue clock).generator.last < 2 ^ 41) :
    (g.issue clock).id.timestamp = (g.issue clock).generator.last := by
  rw [(g.issue_advances clock).2, SnowflakeId.timestamp_ofParts, Nat.mod_eq_of_lt hfits]

theorem sequence_issue (g : Generator) (clock : Clock) :
    (g.issue clock).id.sequence = (g.issue clock).generator.sequence := by
  obtain ⟨hadv, hid⟩ := g.issue_advances clock
  rw [hid, SnowflakeId.sequence_ofParts]
  exact Nat.mod_eq_of_lt (Nat.lt_succ_of_le hadv.sequence_le)

/-! ### A run of issues -/

/-- After `count` identifiers a generator is ahead of the greatest of the readings taken for
them by at most as many places. -/
structure Leads (g : Generator) (readings : List Nat) (count : Nat) : Prop where
  position_le : g.position ≤ 128 * Clock.peak readings + count
  sequence_le : g.sequence ≤ maxSequence

/-- **One issue** adds at most one place to the lead. -/
theorem Leads.issue {g : Generator} {clock : Clock} {readings waited : List Nat} {final count : Nat}
    (h : g.Leads readings count) (hcourse : g.Course clock waited final) :
    (g.issue clock).generator.Leads (readings ++ (waited ++ [final])) (count + 1) := by
  have hadv := (g.issue_advances clock).1
  have hpeak : Clock.peak (readings ++ (waited ++ [final])) =
      max (Clock.peak readings) (max (Clock.peak waited) final) := by
    rw [Clock.peak_append, Clock.peak_append, Clock.peak_singleton]
  have hle := h.position_le
  refine ⟨?_, hadv.sequence_le⟩
  rw [hpeak]
  by_cases hfar : g.FarBehind clock.read.1
  · -- the clock has no part in it
    rw [(hcourse.held hfar).2.1, position_held h.sequence_le]
    omega
  · obtain ⟨-, -, hlast, -⟩ := hcourse.followed hfar
    rcases hadv.later with ⟨-, hfirst⟩ | ⟨hsame, hnext⟩
    · -- a new millisecond is one that the clock has just shown
      have hposition : (g.issue clock).generator.position = 128 * final := by
        rw [position, hlast, hfirst, Nat.add_zero]
      omega
    · have hposition : (g.issue clock).generator.position = g.position + 1 := by
        rw [position, hsame, hnext, position, Nat.add_assoc]
      omega

/-- The last identifier of a run is issued by what the run before it has left. -/
theorem issueMany_succ (g : Generator) (clock : Clock) (count : Nat) :
    g.issueMany clock (count + 1) =
      let before := g.issueMany clock count
      let i := before.2.1.issue before.2.2.1
      (before.1 ++ [i.id], i.generator, i.clock, before.2.2.2 ++ i.events) := by
  induction count generalizing g clock with
  | zero => simp [issueMany]
  | succ count ih =>
    rw [issueMany, ih]
    simp [issueMany]

/-- The readings taken for a run bear out its lead. -/
theorem Leads.issueMany {g : Generator} (h : g.Leads [] 0) (clock : Clock) (count : Nat) :
    ∃ readings, clock.Took readings (g.issueMany clock count).2.2.1 ∧
      (g.issueMany clock count).2.1.Leads readings count := by
  induction count with
  | zero => exact ⟨[], .nil clock, h⟩
  | succ count ih =>
    obtain ⟨readings, htook, hleads⟩ := ih
    obtain ⟨waited, final, hcourse⟩ :=
      (g.issueMany clock count).2.1.exists_course (g.issueMany clock count).2.2.1
    rw [issueMany_succ]
    exact ⟨readings ++ (waited ++ [final]), htook.append hcourse.took, hleads.issue hcourse⟩

/-- The tolerance is never changed. -/
theorem issueMany_tolerance (g : Generator) (clock : Clock) (count : Nat) :
    (g.issueMany clock count).2.1.tolerance = g.tolerance := by
  induction count with
  | zero => rfl
  | succ count ih =>
    rw [issueMany_succ]
    exact ih

/-- The timestamp of the last of some identifiers, 0 if there is none. -/
def lastTimestamp (ids : List SnowflakeId) : Nat :=
  (ids.getLast?.map SnowflakeId.timestamp).getD 0

/-- A run leaves the timestamp of its last identifier, as long as it fits. -/
theorem issueMany_last {g : Generator} (hfresh : g.last = 0) (clock : Clock) (count : Nat)
    (hfits : (g.issueMany clock count).2.1.last < 2 ^ 41) :
    lastTimestamp (g.issueMany clock count).1 = (g.issueMany clock count).2.1.last := by
  cases count with
  | zero => exact hfresh.symm
  | succ count =>
    simp only [issueMany_succ] at hfits ⊢
    rw [lastTimestamp, List.getLast?_concat, Option.map_some, Option.getD_some]
    exact timestamp_issue hfits

theorem ofSettings_fresh (settings : GeneratorSettings) (host : Option Bytes) :
    (ofSettings settings host).1.tolerance = settings.driftTolerance ∧
      (ofSettings settings host).1.last = 0 ∧ (ofSettings settings host).1.sequence = 0 := by
  unfold ofSettings
  split <;> exact ⟨rfl, rfl, rfl⟩

/-- **The lead over the clock.** Whatever the clock shows: the identifier after `count`
others is at most `count + 1` places ahead of the greatest reading taken so far, so its
timestamp is by at most a millisecond for every 128 identifiers. It is not before the first
reading of its own issue. If that reading is behind the last timestamp by more than the
tolerance, it is the only one and the issue reports one error; no other issue reports
anything. -/
theorem issueMany_lead (settings : GeneratorSettings) (host : Option Bytes) (clock : Clock)
    {count : Nat} {ids : List SnowflakeId} {g : Generator} {now : Clock} {events : List Event}
    (hbefore : (ofSettings settings host).1.issueMany clock count = (ids, g, now, events))
    (hfits : (g.issue now).generator.last < 2 ^ 41) :
    let i := g.issue now
    ((ofSettings settings host).1.issueMany clock (count + 1)).1 = ids ++ [i.id] ∧
    (∃ readings, clock.Took readings i.clock ∧
      128 * i.id.timestamp + i.id.sequence ≤ 128 * Clock.peak readings + (count + 1) ∧
      i.id.timestamp ≤ Clock.peak readings + (count + 1) / 128) ∧
    now.read.1 ≤ i.id.timestamp ∧
    (now.read.1 + settings.driftTolerance < lastTimestamp ids →
      now.Took [now.read.1] i.clock ∧
      i.events = [.clockWentBack (lastTimestamp ids - now.read.1) settings.driftTolerance] ∧
      i.events.map Event.severity = [.error]) ∧
    (lastTimestamp ids ≤ now.read.1 + settings.driftTolerance → i.events = []) := by
  intro i
  obtain ⟨htolerance, hlast, hsequence⟩ := ofSettings_fresh settings host
  -- the state that the earlier identifiers have left
  have hstart : (ofSettings settings host).1.Leads [] 0 :=
    ⟨by rw [position, hlast, hsequence]; exact Nat.zero_le _,
      by rw [hsequence]; exact Nat.zero_le _⟩
  obtain ⟨readings, htook, hleads⟩ := hstart.issueMany clock count
  have hprevious := issueMany_last hlast clock count
  have hsame := issueMany_tolerance (ofSettings settings host).1 clock count
  have hnext := issueMany_succ (ofSettings settings host).1 clock count
  simp only [hbefore] at htook hleads hprevious hsame hnext
  rw [htolerance] at hsame
  have hids := hprevious (lt_of_le_of_lt (g.issue_advances now).1.last_le hfits)
  have hstamp : i.id.timestamp = i.generator.last := timestamp_issue hfits
  obtain ⟨waited, final, hcourse⟩ := g.exists_course now
  have hlead : 128 * i.id.timestamp + i.id.sequence ≤
      128 * Clock.peak (readings ++ (waited ++ [final])) + (count + 1) := by
    rw [hstamp, sequence_issue]
    exact (hleads.issue hcourse).position_le
  rw [hids, ← hsame]
  refine ⟨by rw [hnext], ⟨_, htook.append hcourse.took, hlead, by omega⟩, ?_, ?_, ?_⟩
  · rw [hstamp]
    exact g.read_le_issue now
  · intro hfar
    obtain ⟨-, -, hevents⟩ := hcourse.held hfar
    exact ⟨took_issue_of_farBehind hfar, hevents, by rw [hevents]; rfl⟩
  · intro hnear
    exact (hcourse.followed (not_lt.mpr hnear)).2.2.2

/-- The clock shows 1000 and is then set back by 900 ms, beyond the tolerance of 500. -/
theorem issueMany_lead_setBack :
    let clock : Clock := { listed := [1000, 100], next := 101 }
    let g : Generator := { machine := 7, tolerance := 500, last := 1000 }
    let now : Clock := { listed := [100], next := 101, taken := [1000] }
    (ofSettings { machine := some 7 } none).1.issueMany clock 1
      = ([.ofParts 1000 7 0], g, now, []) ∧
      (g.issue now).generator.last < 2 ^ 41 ∧
      now.Took [100] (g.issue now).clock ∧ (g.issue now).events = [.clockWentBack 900 500] ∧
      ∃ readings, clock.Took readings (g.issue now).clock ∧
        (g.issue now).id.timestamp ≤ Clock.peak readings := by
  intro clock g now
  have hbefore : (ofSettings { machine := some 7 } none).1.issueMany clock 1 =
      ([.ofParts 1000 7 0], g, now, []) := by decide
  have hfits : (g.issue now).generator.last < 2 ^ 41 := by decide
  obtain ⟨-, ⟨readings, htook, -, hlead⟩, -, hfar, -⟩ :=
    issueMany_lead { machine := some 7 } none clock hbefore hfits
  obtain ⟨hone, herror, -⟩ := hfar (by decide)
  exact ⟨hbefore, hfits, hone, herror, readings, htook, hlead⟩

end Generator

end HttpPipeline
