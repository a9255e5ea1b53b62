import HttpPipeline.Proofs.Snowflake.Sharing

/-!
# Which readings an issue waits on after

An issue takes readings of the clock. After all but the last of them it goes on waiting,
with the lock of the generator in hand. `Generator.Course` says everything that an issue
does about the clock: which readings were waited on after, which one ended the issue, and
what became of the generator.

A clock that is behind by more than the tolerance should not be waited for. That is so at
the first reading of an issue: then it is the only one, and the timestamp is held. The
tolerance is not looked at again, so a clock that is set back during a wait is waited for,
however far behind it is. `Generator.issue_waits_iff` says that these are the only waits
of this kind.
-/

namespace HttpPipeline

namespace Clock

/-- Between two states of a clock these readings were taken, in this order. -/
def Took (c : Clock) (readings : List Nat) (c' : Clock) : Prop :=
  c'.taken = readings.reverse ++ c.taken

theorem Took.nil (c : Clock) : c.Took [] c := rfl

theorem Took.append {c c' c'' : Clock} {before after : List Nat} (h : c.Took before c')
    (h' : c'.Took after c'') : c.Took (before ++ after) c'' := by
  rw [Took, List.reverse_append, List.append_assoc, ← h]
  exact h'

theorem took_read (c : Clock) : c.Took [c.read.1] c.read.2 := by
  unfold read Took
  split <;> rfl

/-- A wait takes readings before its target, and then the one that ends it. -/
theorem took_waitUntil (target : Nat) (c : Clock) : ∃ early, (∀ r ∈ early, r < target) ∧
    c.Took (early ++ [(c.waitUntil target).1]) (c.waitUntil target).2 := by
  fun_induction waitUntil target c with
  | case1 c hearly ih =>
    obtain ⟨early, hall, htook⟩ := ih
    exact ⟨c.read.1 :: early, List.forall_mem_cons.mpr ⟨hearly, hall⟩,
      c.took_read.append htook⟩
  | case2 c hlate =>
    exact ⟨[], List.forall_mem_nil _, c.took_read⟩

end Clock

namespace Generator

/-- A reading is behind the last timestamp by more than the tolerance. -/
def FarBehind (g : Generator) (reading : Nat) : Prop := reading + g.tolerance < g.last

instance (g : Generator) (reading : Nat) : Decidable (g.FarBehind reading) :=
  inferInstanceAs (Decidable (_ < _))

theorem FarBehind.lt {g : Generator} {reading : Nat} (h : g.FarBehind reading) :
    reading < g.last := by
  unfold FarBehind at h
  omega

/-- The state after an identifier in which the clock has no part: the next sequence number
of the timestamp held, or the first one of the next millisecond. -/
def held (g : Generator) : Generator :=
  if g.sequence < maxSequence then { g with sequence := g.sequence + 1 }
  else { g with last := g.last + 1, sequence := 0 }

/-! ### The time of an issue -/

theorem currentTime_of_farBehind {g : Generator} {clock : Clock}
    (h : g.FarBehind clock.read.1) :
    g.currentTime clock = (g.last, true, clock.read.2,
      [.clockWentBack (g.last - clock.read.1) g.tolerance]) := by
  have hlt := h.lt
  unfold FarBehind at h
  simp only [currentTime, if_neg (show ¬ g.last ≤ clock.read.1 by omega),
    if_neg (show ¬ g.last - clock.read.1 ≤ g.tolerance by omega)]

/-- If the clock is not far behind, all readings before the one that gives the time are
behind the last timestamp. -/
theorem currentTime_followed {g : Generator} {clock : Clock}
    (h : ¬ g.FarBehind clock.read.1) :
    (g.currentTime clock).2.1 = false ∧ (g.currentTime clock).2.2.2 = [] ∧
    ∃ waited, (∀ r ∈ waited, r < g.last) ∧
      clock.Took (waited ++ [(g.currentTime clock).1]) (g.currentTime clock).2.2.1 := by
  unfold FarBehind at h
  by_cases hahead : g.last ≤ clock.read.1
  · have htime : g.currentTime clock = (clock.read.1, false, clock.read.2, []) := by
      simp only [currentTime, if_pos hahead]
    rw [htime]
    exact ⟨rfl, rfl, [], List.forall_mem_nil _, clock.took_read⟩
  · -- the clock is near: its first reading is the first one waited on after
    have hnear : g.last - clock.read.1 ≤ g.tolerance := by omega
    have htime : g.currentTime clock = ((clock.read.2.waitUntil g.last).1, false,
        (clock.read.2.waitUntil g.last).2, []) := by
      simp only [currentTime, if_neg hahead, if_pos hnear]
    obtain ⟨early, hearly, htook⟩ := clock.read.2.took_waitUntil g.last
    rw [htime]
    exact ⟨rfl, rfl, clock.read.1 :: early,
      List.forall_mem_cons.mpr ⟨not_le.mp hahead, hearly⟩, clock.took_read.append htook⟩

/-! ### The place of an issue -/

theorem place_of_behind (g : Generator) (clock : Clock) :
    g.place g.last true clock = (g.held.last, g.held.sequence, clock) := by
  unfold place held
  split_ifs <;> simp_all

/-- If the clock is not far behind, the timestamp is the last reading taken, and the ones
before it show at most the last timestamp. The first of all is the time itself. -/
theorem place_followed {g : Generator} {now : Nat} (clock : Clock) (hnow : g.last ≤ now) :
    ∃ waited more, now :: more = waited ++ [(g.place now false clock).1] ∧
      g.last ≤ (g.place now false clock).1 ∧ (∀ r ∈ waited, r ≤ g.last) ∧
      clock.Took more (g.place now false clock).2.2 := by
  simp only [place, Bool.false_eq_true, if_false]
  split_ifs with hmoved hroom
  · exact ⟨[], [], rfl, hnow, List.forall_mem_nil _, .nil _⟩
  · exact ⟨[], [], rfl, hnow, List.forall_mem_nil _, .nil _⟩
  · -- the sequence numbers are used up, so the time itself is waited on after
    obtain ⟨early, hearly, htook⟩ := clock.took_waitUntil (g.last + 1)
    have hfinal := clock.le_waitUntil (g.last + 1)
    refine ⟨now :: early, _, rfl, by simp only; omega, ?_, htook⟩
    intro r hr
    rcases List.mem_cons.mp hr with rfl | hr
    · omega
    · exact Nat.le_of_lt_succ (hearly r hr)

/-! ### The course of an issue -/

/-- What an issue does about the clock: it goes on waiting after the readings `waited`,
and `final` is its last reading. -/
structure Course (g : Generator) (clock : Clock) (waited : List Nat) (final : Nat) : Prop where
  took : clock.Took (waited ++ [final]) (g.issue clock).clock
  /-- A clock far behind is not waited for. -/
  held : g.FarBehind clock.read.1 → waited = [] ∧ (g.issue clock).generator = g.held ∧
    (g.issue clock).events = [.clockWentBack (g.last - clock.read.1) g.tolerance]
  /-- Any other clock is waited for and gives the timestamp. -/
  followed : ¬ g.FarBehind clock.read.1 → (∀ r ∈ waited, r ≤ g.last) ∧ g.last ≤ final ∧
    (g.issue clock).generator.last = final ∧ (g.issue clock).events = []

/-- Every issue has a course. -/
theorem exists_course (g : Generator) (clock : Clock) :
    ∃ waited final, g.Course clock waited final := by
  by_cases hfar : g.FarBehind clock.read.1
  · have htime := currentTime_of_farBehind hfar
    have hissue : (g.issue clock).generator = g.held ∧
        (g.issue clock).clock = clock.read.2 ∧
        (g.issue clock).events = [.clockWentBack (g.last - clock.read.1) g.tolerance] := by
      simp only [issue, htime, place_of_behind, held]
      split_ifs <;> simp
    refine ⟨[], clock.read.1, ?_, fun _ => ⟨rfl, hissue.1, hissue.2.2⟩, fun h => absurd hfar h⟩
    rw [hissue.2.1]
    exact clock.took_read
  · obtain ⟨hbehind, hquiet, early, hearly, htime⟩ := currentTime_followed hfar
    obtain ⟨late, more, hmore, hfinal, hlate, hplace⟩ :=
      g.place_followed (g.currentTime clock).2.2.1 (g.last_le_currentTime clock)
    rw [← hbehind] at hmore hfinal hplace
    refine ⟨early ++ late, _, ?_, fun h => absurd h hfar,
      fun _ => ⟨?_, hfinal, rfl, hquiet⟩⟩
    · -- the time is the last reading of one list and the first of the other
      have hboth := htime.append hplace
      rw [List.append_assoc, List.singleton_append, hmore, ← List.append_assoc] at hboth
      exact hboth
    · intro r hr
      rcases List.mem_append.mp hr with hr | hr
      · exact le_of_lt (hearly r hr)
      · exact hlate r hr

/-- **A clock that is far behind.** If it is so at the first reading of an issue, that
reading is the only one, and the identifier holds the timestamp, or advances it when the
sequence numbers are used up. Otherwise the last reading is the timestamp, and the issue
goes on waiting after a reading that is far behind exactly if there is one, that is, if the
clock has been set back again since the first reading. -/
theorem issue_waits_iff (g : Generator) (clock : Clock) :
    ∃ waited final, clock.Took (waited ++ [final]) (g.issue clock).clock ∧
      (g.FarBehind clock.read.1 → waited = [] ∧
        (g.issue clock).id = .ofParts g.held.last g.machine g.held.sequence) ∧
      (¬ g.FarBehind clock.read.1 → (g.issue clock).generator.last = final) ∧
      ((∃ r ∈ waited, g.FarBehind r) ↔
        ¬ g.FarBehind clock.read.1 ∧ ∃ r ∈ waited ++ [final], g.FarBehind r) := by
  obtain ⟨waited, final, h⟩ := g.exists_course clock
  refine ⟨waited, final, h.took, ?_, fun hnear => (h.followed hnear).2.2.1, ?_, ?_⟩
  · intro hfar
    obtain ⟨hwaited, hheld, -⟩ := h.held hfar
    rw [(g.issue_advances clock).2, hheld]
    exact ⟨hwaited, rfl⟩
  · rintro ⟨r, hr, hfar⟩
    refine ⟨fun hfirst => ?_, r, List.mem_append_left _ hr, hfar⟩
    rw [(h.held hfirst).1] at hr
    exact absurd hr List.not_mem_nil
  · rintro ⟨hnear, r, hr, hfar⟩
    rcases List.mem_append.mp hr with hr | hr
    · exact ⟨r, hr, hfar⟩
    · -- a wait does not end with a reading behind the last timestamp
      obtain rfl := List.mem_singleton.mp hr
      exact absurd (h.followed hnear).2.1 (not_le.mpr hfar.lt)

/-- The tolerance is 500 ms and the last timestamp 1000. A reading of 900 is waited for,
and so is the reading of 100 that comes next. -/
theorem waits_on_beyond_tolerance :
    let fresh : Generator := { machine := 7, tolerance := 500 }
    let i := fresh.issue { listed := [1000, 900, 100, 2000], next := 2001 }
    let i' := i.generator.issue i.clock
    i.generator.FarBehind 100 ∧ i.clock.Took [900, 100, 2000] i'.clock ∧
      i'.id = .ofParts 2000 7 0 ∧ i'.events = [] := by
  simp [issue, currentTime, place, FarBehind, Clock.Took, Clock.read, Clock.waitUntil]

end Generator

end HttpPipeline
