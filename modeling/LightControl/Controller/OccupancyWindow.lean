import LightControl.Controller.LightStateDeterminer
import Mathlib.Data.List.Induction

/-!
# The occupancy window over whole runs

The room is meant to count as occupied for `occupancy_timeout_delta` after the sensor fired.  The
determiner keeps the firing and computes the deadline as times of day, and starts from midnight
for a sensor that never fired.

`occupancyWindow_iff` says for every run, and every instant at which the decision is asked for,
exactly when the timeout test answers the question it is meant to answer: when the instant lies
on the deadline's calendar day, or on a later day at a later time of day.  What a call of
`light_should_be` says then is `reachesComparison_iff`.
-/

namespace LightControl.LightStateDeterminer

/-- The calls that change the determiner in a run. -/
inductive Call
  | occupancySensorFired
  | setLightIntensity (lightIn : ℕ)
  | userSetLightOff
  | userSetLightOn
  | userSetLightToDefault
  deriving DecidableEq, Repr

/-- A call made at an instant of the absolute clock. -/
def Call.apply (d : LightStateDeterminer) (clock : ℕ) : Call → LightStateDeterminer
  | .occupancySensorFired => d.occupancySensorFired (QTime.currentTime clock)
  | .setLightIntensity lightIn => d.setLightIntensity lightIn
  | .userSetLightOff => d.userSetLightOff
  | .userSetLightOn => d.userSetLightOn
  | .userSetLightToDefault => d.userSetLightToDefault

/-- The determiner after a run of calls, each with its instant. -/
def runCalls (d : LightStateDeterminer) (calls : List (ℕ × Call)) : LightStateDeterminer :=
  calls.foldl (fun d c => c.2.apply d c.1) d

/-- The instant of a call that reports the sensor. -/
def firing : ℕ × Call → Option ℕ
  | (clock, .occupancySensorFired) => some clock
  | _ => none

/-- The instant at which the sensor fired last. -/
def lastFiring (calls : List (ℕ × Call)) : Option ℕ := (calls.filterMap firing).getLast?

/-- **What the test is meant to find out**: some firing lies no further back than the timeout. -/
def OccupiedAt (calls : List (ℕ × Call)) (delta : QTime) (t : ℕ) : Prop :=
  ∃ t₀, (t₀, Call.occupancySensorFired) ∈ calls ∧ t₀ ≤ t ∧ t - t₀ ≤ delta.mds

/-- The instants at which the times of day tell it: for a sensor that fired, those on the day of
the deadline or later at a later time of day; for one that never did, those after the timeout
has passed since midnight. -/
def WindowVisible (calls : List (ℕ × Call)) (delta : QTime) (t : ℕ) : Prop :=
  match lastFiring calls with
  | some t₀ => SameDayOrLater (t₀ + delta.mds) t
  | none => delta.mds < t % msecsPerDay

lemma mem_filterMap_firing {calls : List (ℕ × Call)} {t₀ : ℕ} :
    t₀ ∈ calls.filterMap firing ↔ (t₀, Call.occupancySensorFired) ∈ calls := by
  rw [List.mem_filterMap]
  constructor
  · rintro ⟨⟨clock, call⟩, hmem, hfire⟩
    cases call <;> simp only [firing, Option.some.injEq, reduceCtorEq] at hfire
    exact hfire ▸ hmem
  · intro hmem
    exact ⟨_, hmem, rfl⟩

lemma lastFiring_append (calls : List (ℕ × Call)) (c : ℕ × Call) :
    lastFiring (calls ++ [c]) = (firing c).or (lastFiring calls) := by
  rw [lastFiring, List.filterMap_append]
  cases hc : firing c with
  | none => simp [hc, lastFiring]
  | some t => simp [hc]

lemma runCalls_fields (d : LightStateDeterminer) (calls : List (ℕ × Call)) :
    (runCalls d calls).occupancyTimeoutDelta = d.occupancyTimeoutDelta ∧
      (runCalls d calls).lastTimeOccupancySensorFired
        = (lastFiring calls).elim d.lastTimeOccupancySensorFired QTime.currentTime := by
  induction calls using List.reverseRecOn with
  | nil => exact ⟨rfl, rfl⟩
  | append_singleton calls c ih =>
      rcases ih with ⟨hd, hl⟩
      have hrun : runCalls d (calls ++ [c]) = c.2.apply (runCalls d calls) c.1 := by
        simp [runCalls]
      rw [hrun, lastFiring_append]
      rcases c with ⟨clock, call⟩
      cases call with
      | occupancySensorFired => exact ⟨hd, rfl⟩
      | setLightIntensity lightIn => exact ⟨hd, hl⟩
      | userSetLightOff => exact ⟨hd, hl⟩
      | userSetLightOn => exact ⟨hd, hl⟩
      | userSetLightToDefault => exact ⟨hd, hl⟩

/-- In a run at non-decreasing instants the last firing is the latest. -/
lemma occupiedAt_iff {calls : List (ℕ × Call)} {delta : QTime} {t : ℕ}
    (hsorted : (calls.map Prod.fst).Pairwise (· ≤ ·)) (hlast : ∀ c ∈ calls, c.1 ≤ t) :
    OccupiedAt calls delta t ↔ ∃ t₀, lastFiring calls = some t₀ ∧ t ≤ t₀ + delta.mds := by
  have hfired : (calls.filterMap firing).Pairwise (· ≤ ·) := by
    rw [List.pairwise_map] at hsorted
    refine hsorted.filterMap firing ?_
    rintro ⟨clock, call⟩ ⟨clock', call'⟩ hab x hx y hy
    cases call <;> simp only [firing, Option.some.injEq, reduceCtorEq] at hx
    cases call' <;> simp only [firing, Option.some.injEq, reduceCtorEq] at hy
    exact hx ▸ hy ▸ hab
  constructor
  · rintro ⟨t₀, hmem, hle, hwin⟩
    rw [← mem_filterMap_firing] at hmem
    obtain ⟨l, hl⟩ : ∃ l, lastFiring calls = some l :=
      ⟨_, List.getLast?_eq_some_getLast (List.ne_nil_of_mem hmem)⟩
    rcases List.getLast?_eq_some_iff.mp hl with ⟨init, heq⟩
    refine ⟨l, hl, ?_⟩
    rw [heq, List.mem_append, List.mem_singleton] at hmem
    have hmax : t₀ ≤ l := by
      rcases hmem with hmem | rfl
      · rw [heq, List.pairwise_append] at hfired
        exact hfired.2.2 t₀ hmem l (by simp)
      · exact Nat.le_refl _
    omega
  · rintro ⟨t₀, hfire, hwin⟩
    have hmem : (t₀, Call.occupancySensorFired) ∈ calls :=
      mem_filterMap_firing.mp (List.mem_of_getLast? hfire)
    exact ⟨t₀, hmem, hlast _ hmem, by omega⟩

/-- The determiner with its timeout set. -/
def withTimeout (low high : ℕ) (delta : QTime) : LightStateDeterminer :=
  (new low high).setOccupancyTimeoutDelta delta

/-- **What the timeout test decides.**  With nothing set by the user, a call says what the bounds
say, whatever the light intensity and whatever `ret_value` held, exactly if the test lets it go on
to them. -/
theorem reachesComparison_iff {d : LightStateDeterminer} {now : QTime}
    (hundef : d.userLightSetting = .undefined) :
    d.ReachesComparison now ↔ ∀ lightIn retValue,
      (d.setLightIntensity lightIn).lightShouldBe now retValue
        = (d.setLightIntensity lightIn).comparison retValue := by
  constructor
  · intro hreach lightIn
    have hreach' : (d.setLightIntensity lightIn).ReachesComparison now := hreach
    exact lightShouldBe_of_reachesComparison hreach'
  · intro hall
    by_contra hreach
    have hoff : (d.setLightIntensity 0).lightShouldBe now LightStates.on.code
        = LightStates.off.code :=
      lightShouldBe_of_timeout (d := d.setLightIntensity 0) hundef hreach _
    -- in the dark the comparison does not say off
    rw [hall] at hoff
    simp only [comparison, setLightIntensity, Nat.not_lt_zero, if_false, ite_self] at hoff
    exact absurd hoff (by decide)

/-- **When the timeout test is right.**  In every run, at every instant `t` at which the decision
is asked for and the user has set nothing: the test goes on to the light intensity comparison if
and only if some firing lies within the timeout before `t`, exactly under `WindowVisible`. -/
theorem occupancyWindow_iff (low high : ℕ) {delta : QTime} (hdelta : delta.mds % 1000 = 0)
    {calls : List (ℕ × Call)} {t : ℕ} (hsorted : (calls.map Prod.fst).Pairwise (· ≤ ·))
    (hlast : ∀ c ∈ calls, c.1 ≤ t)
    (hundef : (runCalls (withTimeout low high delta) calls).userLightSetting = .undefined) :
    ((runCalls (withTimeout low high delta) calls).ReachesComparison (QTime.currentTime t) ↔
      OccupiedAt calls delta t) ↔ WindowVisible calls delta t := by
  rcases runCalls_fields (withTimeout low high delta) calls with ⟨hd, hl⟩
  have hvalid := delta.valid
  have hsecs : delta.mds / 1000 * 1000 = delta.mds := by omega
  rw [occupiedAt_iff hsorted hlast, ReachesComparison, hundef, occupancyTimeout,
    lastOccupancyDetected, hd, hl]
  simp only [true_and, withTimeout, setOccupancyTimeoutDelta, QTime.hour_minute_second,
    WindowVisible]
  cases hfire : lastFiring calls with
  | none =>
      simp only [Option.elim_none, new, reduceCtorEq, false_and, exists_false, iff_false,
        not_not, QTime.addSecs, QTime.lt_def, QTime.ofMSecs, QTime.mds_currentTime, hsecs,
        Nat.zero_add, Nat.mod_eq_of_lt hvalid]
  | some t₀ =>
      have hle : t₀ ≤ t :=
        hlast _ (mem_filterMap_firing.mp (List.mem_of_getLast? hfire))
      simp only [Option.elim_some, QTime.addSecs_currentTime, hsecs, Option.some.injEq,
        exists_eq_left']
      exact currentTime_le_deadline_iff hvalid hle

/-- A sensor that fired at 12:00, asked about at 12:04 of the same day. -/
theorem occupancyWindow_noon :
    (runCalls (withTimeout 50 60 ⟨300000, by decide⟩)
        [(43200000, .occupancySensorFired)]).ReachesComparison (QTime.currentTime 43440000) ↔
      OccupiedAt [(43200000, .occupancySensorFired)] ⟨300000, by decide⟩ 43440000 :=
  (occupancyWindow_iff 50 60 (by decide) (by decide) (by decide) (by decide)).mpr
    (Or.inl (by decide))

/-- **The law fails in the first minutes of a day**: the sensor never fired, it is 00:03, and the
timeout test lets the call go on. -/
theorem not_occupancyWindow :
    ¬ ∀ (low high : ℕ) (delta : QTime), delta.mds % 1000 = 0 →
      ∀ (calls : List (ℕ × Call)) (t : ℕ), (calls.map Prod.fst).Pairwise (· ≤ ·) →
        (∀ c ∈ calls, c.1 ≤ t) →
        (runCalls (withTimeout low high delta) calls).userLightSetting = .undefined →
        ((runCalls (withTimeout low high delta) calls).ReachesComparison (QTime.currentTime t) ↔
          OccupiedAt calls delta t) := by
  intro h
  have hreach : (runCalls (withTimeout 50 60 ⟨300000, by decide⟩) []).ReachesComparison
      (QTime.currentTime 180000) := by decide
  obtain ⟨t₀, hmem, -⟩ :=
    (h 50 60 ⟨300000, by decide⟩ (by decide) [] 180000 (by decide) (by simp) rfl).mp hreach
  simp at hmem

end LightControl.LightStateDeterminer
