import LightControl.Controller.PolicyRefinement

/-!
# How often the lamp is switched on

The two bounds on the daylight are apart so that the lamp does not flicker.  `Dip`s are what is
left of the daylight once the jitter is gone: falls below the low bound after the high bound was
exceeded.

* `ons_happen` — one happening: a lamp that is switched on has been paid for before, by a motion,
  by the user or by a dip (`credit`).
* `ons_le` — from it, for whole runs of the policy.
* `switchOns_le` — the same for the GPIO, in every run of the program whose decisions are faithful.
-/

namespace LightControl

open Runs

namespace LightPolicy

/-- The lamp goes on at the next look only if something else happens first.  `high` tells that the
daylight has exceeded the high bound and has not been below the low one since. -/
def Barred (policy : LightPolicy) (room : Room) (high : Bool) : Prop :=
  room.override = some false ∨
    room.override = none ∧ (¬ policy.Occupied room ∨ high = true)

instance (policy : LightPolicy) (room : Room) (high : Bool) :
    Decidable (policy.Barred room high) :=
  inferInstanceAs (Decidable (_ ∨ _ ∧ (_ ∨ _)))

/-- Whether the lamp can be switched on without anything else that counts. -/
def credit (policy : LightPolicy) (room : Room) (high : Bool) : ℕ :=
  if room.lamp = true ∨ policy.Barred room high then 0 else 1

/-- What `high` tells. -/
structure Tells (policy : LightPolicy) (room : Room) (high : Bool) : Prop where
  low : high = true → ¬ room.level < policy.lowBound
  high : ¬ room.level < policy.lowBound → policy.highBound < room.level → high = true

/-- Whether the daylight is past the high bound, after a happening. -/
def past (policy : LightPolicy) (high : Bool) : Happening → Bool
  | .brightness level =>
      if level < policy.lowBound then false
      else if policy.highBound < level then true
      else high
  | _ => high

/-- What a happening pays for. -/
def pays (policy : LightPolicy) (high : Bool) : Happening → ℕ
  | .brightness level => if level < policy.lowBound then high.toNat else 0
  | .pass _ => 0
  | .look => 0
  | .motion => 1
  | .button => 1
  | .automatic => 1
  | .shutOff => 1

/-- What some happenings pay for. -/
def paid (policy : LightPolicy) : Bool → List Happening → ℕ
  | _, [] => 0
  | high, h :: hs => policy.pays high h + policy.paid (policy.past high h) hs

variable {policy : LightPolicy} {room : Room} {high : Bool}

lemma Tells.happen (htells : policy.Tells room high) (h : Happening) :
    policy.Tells (policy.happen room h) (policy.past high h) := by
  cases h with
  | brightness level =>
      simp only [LightPolicy.happen, past]
      split
      case isTrue hlow => exact ⟨fun h => absurd h (by decide), fun h => absurd hlow h⟩
      case isFalse hlow =>
        split
        case isTrue hhigh => exact ⟨fun _ => hlow, fun _ _ => rfl⟩
        case isFalse hhigh => exact ⟨fun _ => hlow, fun _ h => absurd h hhigh⟩
  | _ => exact ⟨htells.low, htells.high⟩

/-- While the lamp is barred, a look does not switch it on. -/
lemma wanted_of_barred (htells : policy.Tells room high) (hbarred : policy.Barred room high)
    (hlamp : room.lamp = false) : policy.wanted room = false := by
  rcases hbarred with ho | ⟨ho, hvacant | hhigh⟩
  · rw [wanted, ho]
    rfl
  · exact wanted_of_vacant hvacant (by rw [ho]; decide)
  · rw [wanted, ho, verdict, if_neg (htells.low hhigh), hlamp]
    split_ifs <;> rfl

/-- A lit lamp that a look switches off is barred from then on. -/
lemma barred_of_wanted (htells : policy.Tells room high) (hlamp : room.lamp = true)
    (hoff : policy.wanted room = false) : policy.Barred room high := by
  cases ho : room.override with
  | some lit =>
      rw [wanted, ho] at hoff
      left
      rw [ho, show lit = false from hoff]
  | none =>
      refine Or.inr ⟨ho, ?_⟩
      rw [wanted, ho, Option.getD_none, verdict, hlamp] at hoff
      by_cases hoccupied : policy.Occupied room
      · right
        rw [if_neg (not_not.mpr hoccupied)] at hoff
        by_cases hlow : room.level < policy.lowBound
        · rw [if_pos hlow] at hoff
          cases hoff
        · rw [if_neg hlow] at hoff
          by_cases hhigh : policy.highBound < room.level
          · exact htells.high hlow hhigh
          · rw [if_neg hhigh] at hoff
            cases hoff
      · exact Or.inl hoccupied

lemma credit_le_one (policy : LightPolicy) (room : Room) (high : Bool) :
    policy.credit room high ≤ 1 := by
  rw [credit]
  split <;> decide

/-- A room in which the lamp is barred if it was before has no more credit. -/
lemma credit_mono {room' : Room} {high' : Bool} (hlamp : room'.lamp = room.lamp)
    (hbarred : policy.Barred room high → policy.Barred room' high') :
    policy.credit room' high' ≤ policy.credit room high := by
  rw [credit, credit]
  split
  case isTrue => exact Nat.zero_le _
  case isFalse hnot =>
    rw [if_neg ?_]
    intro h
    rw [hlamp] at hnot
    exact hnot (h.imp_right hbarred)

/-- A look. -/
lemma ons_look (htells : policy.Tells room high) :
    turnsOn room.lamp (policy.wanted room)
        + policy.credit (policy.happen room .look) high
      ≤ policy.credit room high := by
  have hlit : policy.wanted room = true → policy.credit (policy.happen room .look) high = 0 :=
    fun hwanted => if_pos (Or.inl hwanted)
  cases hlamp : room.lamp with
  | true =>
      have hafter : policy.credit (policy.happen room .look) high = 0 := by
        cases hwanted : policy.wanted room with
        | true => exact hlit hwanted
        | false => exact if_pos (Or.inr (barred_of_wanted htells hlamp hwanted))
      rw [hafter]
      exact Nat.zero_le _
  | false =>
      cases hwanted : policy.wanted room with
      | true =>
          have hfree : ¬ policy.Barred room high := by
            intro hbarred
            rw [wanted_of_barred htells hbarred hlamp] at hwanted
            cases hwanted
          have hbefore : policy.credit room high = 1 := by
            refine if_neg ?_
            rintro (hlit | hbarred)
            · rw [hlamp] at hlit
              cases hlit
            · exact hfree hbarred
          rw [hlit hwanted, hbefore]
          exact Nat.le_refl _
      | false =>
          rw [show turnsOn false false = 0 from rfl, Nat.zero_add]
          exact credit_mono (hwanted.trans hlamp.symm) id

/-- **One happening**: when it switches the lamp on, it spends the credit that is there or that it
pays for. -/
lemma ons_happen (htells : policy.Tells room high) (h : Happening) :
    turnsOn room.lamp (policy.happen room h).lamp
        + policy.credit (policy.happen room h) (policy.past high h)
      ≤ policy.credit room high + policy.pays high h := by
  have hsame : turnsOn room.lamp room.lamp = 0 := by cases room.lamp <;> rfl
  have hpaid : ∀ room' high', turnsOn room.lamp room.lamp + policy.credit room' high'
      ≤ policy.credit room high + 1 := by
    intro room' high'
    rw [hsame, Nat.zero_add]
    exact Nat.le_trans (credit_le_one policy room' high') (Nat.le_add_left _ _)
  cases h with
  | pass msecs =>
      have hmono : policy.credit (policy.happen room (.pass msecs)) high
          ≤ policy.credit room high := by
        refine credit_mono rfl ?_
        rintro (ho | ⟨ho, hvacant | hhigh⟩)
        · exact Or.inl ho
        · exact Or.inr ⟨ho, Or.inl (vacant_pass hvacant msecs)⟩
        · exact Or.inr ⟨ho, Or.inr hhigh⟩
      simp only [happen, past, pays, hsame, Nat.zero_add, Nat.add_zero]
      exact hmono
  | brightness level =>
      have hmono : ∀ high', (high = true → high' = true) →
          policy.credit (policy.happen room (.brightness level)) high'
            ≤ policy.credit room high := by
        intro high' hle
        refine credit_mono rfl ?_
        rintro (ho | ⟨ho, hvacant | hhigh⟩)
        · exact Or.inl ho
        · exact Or.inr ⟨ho, Or.inl hvacant⟩
        · exact Or.inr ⟨ho, Or.inr (hle hhigh)⟩
      have hkept : (policy.happen room (.brightness level)).lamp = room.lamp := rfl
      by_cases hlow : level < policy.lowBound
      · simp only [past, pays, if_pos hlow, hkept]
        -- a dip pays for the credit it gives
        cases high with
        | true => exact hpaid _ _
        | false =>
            rw [hsame, Nat.zero_add]
            exact hmono false id
      · simp only [past, pays, if_neg hlow, hkept, hsame, Nat.zero_add, Nat.add_zero]
        refine hmono _ fun hhigh => ?_
        rw [hhigh, ite_self]
  | look => exact ons_look htells
  | motion => exact hpaid _ _
  | button => exact hpaid _ _
  | automatic => exact hpaid _ _
  | shutOff =>
      have hoff : turnsOn room.lamp false = 0 := by cases room.lamp <;> rfl
      simp only [happen, past, pays, hoff, Nat.zero_add]
      exact Nat.le_trans (credit_le_one policy _ _) (Nat.le_add_left _ _)

/-- **Whole runs**: the lamp is switched on no more often than what happens pays for. -/
theorem ons_le (htells : policy.Tells room high) (hs : List Happening) :
    ons policy.step Room.lamp room hs ≤ policy.credit room high + policy.paid high hs := by
  induction hs generalizing room high with
  | nil => exact Nat.zero_le _
  | cons h hs ih =>
      have hstep : policy.step room h = some (policy.happen room h) := rfl
      rw [ons_cons hstep, paid]
      have hone := ons_happen htells h
      have hrest := ih (htells.happen h)
      omega

end LightPolicy

/-! ## The GPIO -/

namespace ClockedController

variable {s : ClockedController} {lowBound highBound : ℕ} {room : Room}

/-- The lamp is lit. -/
def lit (s : ClockedController) : Bool := s.controller.powerControlGpio = .one

lemma lit_eq_lamp (h : s.Shows lowBound highBound room) : s.lit = room.lamp := by
  rw [lit, h.lamp]
  cases room.lamp <;> rfl

/-- The window switches the lamp on no more often than the happenings pay for. -/
theorem ons_runSlots (h : s.Shows lowBound highBound room) {calls : List SlotCall}
    (hfaithful : FaithfulRun lowBound highBound room calls) {high : Bool}
    (htells : (controllerPolicy lowBound highBound).Tells room high) :
    ons step lit s calls
      ≤ (controllerPolicy lowBound highBound).credit room high
        + (controllerPolicy lowBound highBound).paid high
            (calls.flatMap SlotCall.happenings) := by
  have hslots : ons step lit s calls
      = ons (controllerPolicy lowBound highBound).slotStep Room.lamp room calls :=
    ons_simulation (R := fun s room => s.Shows lowBound highBound room)
      (fun _ _ _ _ => shows_step) (fun _ _ => lit_eq_lamp) calls h hfaithful (run_step s calls)
  have hall : emitted (controllerPolicy lowBound highBound).slotStep
      (fun _ => SlotCall.happenings) room calls = calls.flatMap SlotCall.happenings :=
    emitted_of_isSome (fun _ _ => rfl) calls room
  have hhappen : ons (controllerPolicy lowBound highBound).slotStep Room.lamp room calls
      ≤ ons (controllerPolicy lowBound highBound).step Room.lamp room
          (calls.flatMap SlotCall.happenings) := by
    rw [← hall]
    refine ons_emitted (f := id) ?_ calls
      (LightPolicy.run_slotStep (controllerPolicy lowBound highBound) room calls)
    intro room e room' hstep
    rw [LightPolicy.slotStep, Option.some.injEq] at hstep
    rw [id, id, LightPolicy.run_step, hstep]
  rw [hslots]
  exact Nat.le_trans hhappen (LightPolicy.ons_le htells _)

end ClockedController

namespace Program

variable {charSigned : Bool} {clock : ℕ} {lightLast powerLast : ℤ} {io : I2cOutcome}
  {es : List Event} {p : Program}

/-- **The lamp does not flicker.**  In every run of faithful decisions the GPIO is switched on no
more often than somebody moves, the user presses a button or closes the window, and the daylight
falls below 50 after it was above 60; how the daylight moves otherwise does not count. -/
theorem switchOns_le
    (h : run (step charSigned) (start charSigned clock lightLast powerLast io) es = some p)
    (hfaithful : ClockedController.FaithfulRun 50 60 (Room.atRest clock)
      ((start charSigned clock lightLast powerLast io).runCalls charSigned es)) :
    ons (step charSigned) (fun p => p.window.lit)
        (start charSigned clock lightLast powerLast io) es
      ≤ (controllerPolicy 50 60).paid false
          ((start charSigned clock lightLast powerLast io).happenings charSigned es) := by
  have hdark : (Room.atRest clock).level < (controllerPolicy 50 60).lowBound :=
    Nat.zero_lt_succ 49
  have htells : (controllerPolicy 50 60).Tells (Room.atRest clock) false :=
    ⟨fun h => absurd h (by decide), fun h => absurd hdark h⟩
  have hnone : (controllerPolicy 50 60).credit (Room.atRest clock) false = 0 := by
    refine if_pos (Or.inr (Or.inr ⟨rfl, Or.inl ?_⟩))
    rintro ⟨m, hm, -⟩
    cases hm
  have hwindow := ClockedController.ons_runSlots
    (ClockedController.shows_start clock 50 60) hfaithful htells
  rw [hnone, Nat.zero_add] at hwindow
  exact Nat.le_trans (ons_emitted (f := Program.window) (fun _ _ _ => step_slotCalls) es h)
    hwindow

/-- Somebody comes in at noon, the sun comes out and goes again. -/
def sunnyNoon : List Event :=
  [.pirEdge [0x31, 0x0a], .lightStatePoll 2, .lightSensorPoll ⟨0, some 0, some 0⟩,
    .lightStatePoll 2, .lightSensorPoll ⟨0, some 255, some 255⟩, .lightStatePoll 2]

/-- The lamp is switched on twice, once for the motion and once for the daylight's fall. -/
theorem switchOns_le_noon : ∃ p, run (step false) startNoon sunnyNoon = some p ∧
    ons (step false) (fun p => p.window.lit) startNoon sunnyNoon = 2 ∧
    2 ≤ (controllerPolicy 50 60).paid false (startNoon.happenings false sunnyNoon) := by
  have h : run (step false) startNoon sunnyNoon = some _ := rfl
  have hfaithful : ClockedController.FaithfulRun 50 60 (Room.atRest 43200000)
      (startNoon.runCalls false sunnyNoon) := by decide
  have htwice : ons (step false) (fun p => p.window.lit) startNoon sunnyNoon = 2 := by decide
  have hle := switchOns_le h hfaithful
  exact ⟨_, h, htwice, htwice.symm.trans_le hle⟩

end Program

end LightControl
