import LightControl.Core.Simulation

/-!
# What the controller is for

A room with a lamp, seen from outside: there is a clock that never wraps, somebody moves, the
daylight changes, a button is pressed, and from time to time the controller looks.  No times of
day, no wire and no uninitialised local.

* `verdict` — what occupancy and daylight say; between the two bounds they say nothing, and the
  lamp stays as it is.
* `lamp_eq_lastVerdict` — left to itself, the lamp shows the last verdict that was given.
* `Dark` — a room that nobody is in stays dark until somebody moves or presses the button.
-/

namespace LightControl

open Runs

/-- The bounds on the daylight and the time a room counts as occupied after a motion. -/
structure LightPolicy where
  lowBound : ℕ
  highBound : ℕ
  timeout : ℕ
  deriving DecidableEq, Repr

/-- A room: what was seen last, what the user asked for, and whether the lamp is lit. -/
structure Room where
  clock : ℕ
  lastMotion : Option ℕ
  level : ℕ
  override : Option Bool
  lamp : Bool
  deriving DecidableEq, Repr

inductive Happening
  | pass (msecs : ℕ)
  | motion
  | brightness (level : ℕ)
  | button
  | automatic
  | look
  | shutOff
  deriving DecidableEq, Repr

namespace LightPolicy

/-- Somebody moved no longer ago than the timeout. -/
def Occupied (policy : LightPolicy) (room : Room) : Prop :=
  ∃ m ∈ room.lastMotion, room.clock ≤ m + policy.timeout

instance (policy : LightPolicy) (room : Room) : Decidable (policy.Occupied room) :=
  match h : room.lastMotion with
  | none => isFalse (by simp [Occupied, h])
  | some m => decidable_of_iff (room.clock ≤ m + policy.timeout) (by simp [Occupied, h])

/-- What the sensors say, if they say anything. -/
def verdict (policy : LightPolicy) (room : Room) : Option Bool :=
  if ¬ policy.Occupied room then some false
  else if room.level < policy.lowBound then some true
  else if policy.highBound < room.level then some false
  else none

/-- Whether the lamp should be lit: the user first, then the sensors, then no change. -/
def wanted (policy : LightPolicy) (room : Room) : Bool :=
  room.override.getD ((policy.verdict room).getD room.lamp)

/-- What a happening does. -/
def happen (policy : LightPolicy) (room : Room) : Happening → Room
  | .pass msecs => { room with clock := room.clock + msecs }
  | .motion => { room with lastMotion := some room.clock }
  | .brightness level => { room with level := level }
  | .button => { room with override := some (!policy.wanted room) }
  | .automatic => { room with override := none }
  | .look => { room with lamp := policy.wanted room }
  | .shutOff => { room with lamp := false }

/-- `happen` as a step that never goes wrong. -/
def step (policy : LightPolicy) (room : Room) (h : Happening) : Option Room :=
  some (policy.happen room h)

/-- The room after some happenings. -/
def after (policy : LightPolicy) (room : Room) (hs : List Happening) : Room :=
  hs.foldl policy.happen room

variable {policy : LightPolicy} {room : Room}

lemma run_step (room : Room) (hs : List Happening) :
    run policy.step room hs = some (policy.after room hs) :=
  run_some policy.happen room hs

@[simp] lemma after_nil : policy.after room [] = room := rfl

lemma after_append (hs more : List Happening) :
    policy.after room (hs ++ more) = policy.after (policy.after room hs) more :=
  List.foldl_append

@[simp] lemma after_concat (hs : List Happening) (h : Happening) :
    policy.after room (hs ++ [h]) = policy.happen (policy.after room hs) h := by
  rw [after_append]
  rfl

lemma wanted_of_vacant (hvacant : ¬ policy.Occupied room) (hset : room.override ≠ some true) :
    policy.wanted room = false := by
  rw [wanted, verdict, if_pos hvacant]
  cases ho : room.override with
  | none => rfl
  | some lit =>
      cases lit with
      | false => rfl
      | true => exact absurd ho hset

/-! ## The lamp left to itself -/

/-- What is said at a look. -/
def said (policy : LightPolicy) (room : Room) (h : Happening) : List Bool :=
  if h = .look then (policy.verdict room).toList else []

/-- The verdicts given at the looks. -/
def verdicts (policy : LightPolicy) (room : Room) (hs : List Happening) : List Bool :=
  emitted policy.step policy.said room hs

lemma verdicts_concat (hs : List Happening) (h : Happening) :
    policy.verdicts room (hs ++ [h])
      = policy.verdicts room hs ++ policy.said (policy.after room hs) h := by
  rw [verdicts, emitted_append hs [h] (run_step room hs)]
  simp only [emitted, step, Option.elim_some, List.append_nil]
  rfl

/-- **The lamp shows the last verdict**: whatever happens in a room in which the user has set
nothing and presses nothing, the lamp is as the last look left it at which the sensors said
something. -/
theorem lamp_eq_lastVerdict (hset : room.override = none) {hs : List Happening}
    (hquiet : ∀ h ∈ hs, h ≠ .button ∧ h ≠ .shutOff) :
    (policy.after room hs).override = none ∧
      (policy.after room hs).lamp = (policy.verdicts room hs).getLast?.getD room.lamp := by
  induction hs using List.reverseRecOn with
  | nil => exact ⟨hset, rfl⟩
  | append_singleton hs h ih =>
      rcases List.forall_mem_append.mp hquiet with ⟨hhs, hh⟩
      rcases ih hhs with ⟨ho, hlamp⟩
      rw [after_concat, verdicts_concat]
      cases h with
      | button => exact absurd rfl (hh .button (by simp)).1
      | shutOff => exact absurd rfl (hh .shutOff (by simp)).2
      | look =>
          refine ⟨ho, ?_⟩
          simp only [happen, wanted, ho, Option.getD_none, said, if_true]
          cases policy.verdict (policy.after room hs) with
          | none => simpa using hlamp
          | some lit => simp
      | automatic => exact ⟨rfl, by simpa [happen, said] using hlamp⟩
      | pass msecs => exact ⟨ho, by simpa [happen, said] using hlamp⟩
      | motion => exact ⟨ho, by simpa [happen, said] using hlamp⟩
      | brightness level => exact ⟨ho, by simpa [happen, said] using hlamp⟩

/-! ## A room that nobody is in -/

/-- Nobody is there, the user does not want light, and there is none. -/
structure Dark (policy : LightPolicy) (room : Room) : Prop where
  vacant : ¬ policy.Occupied room
  setting : room.override ≠ some true
  lamp : room.lamp = false

/-- The time only makes a room more vacant. -/
lemma vacant_pass (hvacant : ¬ policy.Occupied room) (msecs : ℕ) :
    ¬ policy.Occupied { room with clock := room.clock + msecs } := by
  rintro ⟨m, hm, hle⟩
  exact hvacant ⟨m, hm, Nat.le_trans (Nat.le_add_right _ _) hle⟩

/-- A look at a vacant room makes it dark. -/
lemma dark_look (hvacant : ¬ policy.Occupied room) (hset : room.override ≠ some true) :
    policy.Dark (policy.happen room .look) :=
  ⟨hvacant, hset, wanted_of_vacant hvacant hset⟩

lemma dark_happen {h : Happening} (hdark : policy.Dark room) (hmotion : h ≠ .motion)
    (hbutton : h ≠ .button) : policy.Dark (policy.happen room h) := by
  cases h with
  | pass msecs => exact ⟨vacant_pass hdark.vacant msecs, hdark.setting, hdark.lamp⟩
  | motion => exact absurd rfl hmotion
  | brightness level => exact ⟨hdark.vacant, hdark.setting, hdark.lamp⟩
  | button => exact absurd rfl hbutton
  | automatic => exact ⟨hdark.vacant, by simp [happen], hdark.lamp⟩
  | look => exact dark_look hdark.vacant hdark.setting
  | shutOff => exact ⟨hdark.vacant, hdark.setting, rfl⟩

/-- **A dark room stays dark** until somebody moves in it or presses the button. -/
theorem dark_after (hdark : policy.Dark room) {hs : List Happening}
    (hquiet : ∀ h ∈ hs, h ≠ .motion ∧ h ≠ .button) : policy.Dark (policy.after room hs) := by
  refine run_invariant_of_mem hs ?_ hdark (run_step room hs)
  rintro room h room' hmem hdark hstep
  rw [step, Option.some.injEq] at hstep
  exact hstep ▸ dark_happen hdark (hquiet h hmem).1 (hquiet h hmem).2

end LightPolicy

end LightControl
