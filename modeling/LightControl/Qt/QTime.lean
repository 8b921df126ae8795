import Mathlib.Order.Basic
import Mathlib.Data.Nat.Notation
import Mathlib.Tactic.Common

/-!
# Times of day

`QTime` as Qt documents it: a time of day in milliseconds since midnight.  `addSecs` wraps at
midnight and `<` compares times of day, so neither knows which day it is.

The absolute clock is a number of milliseconds that never wraps, and `currentTime` is what is
left of it.  `currentTime_le_deadline_iff` compares the two views of a deadline: the times of day
tell whether it has passed exactly when `SameDayOrLater` holds.
-/

namespace LightControl

/-- `MSECS_PER_DAY`. -/
def msecsPerDay : ℕ := 86400000

/-- A time of day. -/
structure QTime where
  mds : ℕ
  valid : mds < msecsPerDay
  deriving DecidableEq, Repr

namespace QTime

/-- The time of day of an instant of the absolute clock. -/
def ofMSecs (clock : ℕ) : QTime := ⟨clock % msecsPerDay, Nat.mod_lt _ (by decide)⟩

/-- `QTime::currentTime()` at an instant of the absolute clock. -/
def currentTime (clock : ℕ) : QTime := ofMSecs clock

/-- `hour`. -/
def hour (q : QTime) : ℕ := q.mds / 3600000

/-- `minute`. -/
def minute (q : QTime) : ℕ := q.mds % 3600000 / 60000

/-- `second`. -/
def second (q : QTime) : ℕ := q.mds / 1000 % 60

/-- `addSecs`. -/
def addSecs (q : QTime) (secs : ℕ) : QTime := ofMSecs (q.mds + secs * 1000)

instance : LT QTime := ⟨fun a b => a.mds < b.mds⟩

instance (a b : QTime) : Decidable (a < b) := inferInstanceAs (Decidable (a.mds < b.mds))

lemma lt_def (a b : QTime) : a < b ↔ a.mds < b.mds := Iff.rfl

@[simp] lemma mds_currentTime (clock : ℕ) : (currentTime clock).mds = clock % msecsPerDay := rfl

lemma hour_minute_second (q : QTime) :
    q.hour * 3600 + q.minute * 60 + q.second = q.mds / 1000 := by
  simp only [hour, minute, second]
  omega

/-- Adding a time of day to the time of day of an instant is adding it to the instant. -/
lemma addSecs_currentTime (clock secs : ℕ) :
    (currentTime clock).addSecs secs = currentTime (clock + secs * 1000) := by
  simp only [addSecs, currentTime, ofMSecs, mk.injEq]
  exact Nat.mod_add_mod clock msecsPerDay (secs * 1000)

end QTime

/-- The instant `t` lies on the day of the deadline, or on a later day but at a later time of
day. -/
def SameDayOrLater (deadline t : ℕ) : Prop :=
  t / msecsPerDay = deadline / msecsPerDay ∨
    deadline / msecsPerDay < t / msecsPerDay ∧ deadline % msecsPerDay < t % msecsPerDay

instance (deadline t : ℕ) : Decidable (SameDayOrLater deadline t) :=
  inferInstanceAs (Decidable (t / msecsPerDay = deadline / msecsPerDay ∨
    deadline / msecsPerDay < t / msecsPerDay ∧ deadline % msecsPerDay < t % msecsPerDay))

/-- **Deadlines by time of day.**  A deadline less than a day after `start`, and a query at or
after `start`: comparing times of day answers whether the deadline has passed if and only if the
query falls on the deadline's day or later at a later time of day. -/
theorem currentTime_le_deadline_iff {start delta t : ℕ} (hdelta : delta < msecsPerDay)
    (hst : start ≤ t) :
    ((¬ QTime.currentTime (start + delta) < QTime.currentTime t) ↔ t ≤ start + delta) ↔
      SameDayOrLater (start + delta) t := by
  simp only [QTime.lt_def, QTime.mds_currentTime, SameDayOrLater, msecsPerDay] at *
  omega

end LightControl
