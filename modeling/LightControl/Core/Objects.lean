import Mathlib.Algebra.BigOperators.Group.List.Basic
import Mathlib.Algebra.GroupWithZero.Nat
import Mathlib.Data.List.Basic

/-!
# Objects behind pointers

The objects a program makes with `new`, in the order in which it makes them; a pointer is an
index, and a deleted object is gone for good.  Reading through a pointer fails (`none`) where the
object was never made or is deleted, so a model that binds on `get` has its undefined behaviour
in the open.

* `get_assign`, `get_create`, `get_delete` — each operation touches one object only.
* `total` — a sum over the live objects, with what each operation adds to it.
-/

/-- The objects made so far. -/
abbrev Objects (α : Type*) := List (Option α)

namespace Objects

variable {α : Type*} {objs : Objects α} {p q : ℕ} {a b : α}

/-- What a pointer points to. -/
def get (objs : Objects α) (p : ℕ) : Option α := objs[p]?.join

/-- `new`; the pointer it returns is `objs.length`. -/
def create (objs : Objects α) (a : α) : Objects α := objs ++ [some a]

/-- An assignment through a pointer. -/
def assign (objs : Objects α) (p : ℕ) (a : α) : Objects α := objs.set p (some a)

/-- `delete`. -/
def delete (objs : Objects α) (p : ℕ) : Objects α := objs.set p none

lemma lt_length_of_get (h : objs.get p = some a) : p < objs.length := by
  by_contra hlt
  simp [get, List.getElem?_eq_none (Nat.not_lt.mp hlt)] at h

@[simp] lemma length_create : (objs.create a).length = objs.length + 1 := by simp [create]

@[simp] lemma length_assign : (objs.assign p a).length = objs.length := by simp [assign]

@[simp] lemma length_delete : (objs.delete p).length = objs.length := by simp [delete]

lemma get_assign (h : (objs.get p).isSome) :
    (objs.assign p a).get q = if q = p then some a else objs.get q := by
  rcases Option.isSome_iff_exists.mp h with ⟨b, hb⟩
  have hlt := lt_length_of_get hb
  by_cases hq : q = p
  · simp [get, assign, hq, hlt]
  · simp [get, assign, List.getElem?_set_ne (Ne.symm hq), hq]

lemma isSome_get_assign (h : (objs.get p).isSome) :
    ((objs.assign p a).get q).isSome = (objs.get q).isSome := by
  rw [get_assign h]
  by_cases hq : q = p
  · rw [if_pos hq, hq, h]
    rfl
  · rw [if_neg hq]

lemma get_create : (objs.create a).get q = if q = objs.length then some a else objs.get q := by
  by_cases hq : q = objs.length
  · simp [get, create, hq]
  · rcases Nat.lt_or_gt_of_ne hq with hlt | hgt
    · simp [get, create, hq, List.getElem?_append_left hlt]
    · have hout : (objs ++ [some a]).length ≤ q := by
        rw [List.length_append, List.length_singleton]
        omega
      simp [get, create, hq, List.getElem?_eq_none hout, List.getElem?_eq_none (Nat.le_of_lt hgt)]

lemma get_delete : (objs.delete p).get q = if q = p then none else objs.get q := by
  by_cases hq : q = p
  · rw [if_pos hq, hq, get, delete, List.getElem?_set_self']
    cases objs[p]? <;> rfl
  · simp [get, delete, List.getElem?_set_ne (Ne.symm hq), hq]

@[simp] lemma assign_assign : (objs.assign p a).assign p b = objs.assign p b := by
  simp [assign, List.set_set]

/-! ## Sums -/

/-- The sum of a measure over the objects that are live. -/
def total (f : α → ℕ) (objs : Objects α) : ℕ := (objs.map fun o => (o.map f).getD 0).sum

variable {f : α → ℕ}

lemma total_create : (objs.create a).total f = objs.total f + f a := by
  simp [total, create]

/-- An object that is deleted at once leaves nothing behind. -/
lemma total_delete_create : ((objs.create a).delete objs.length).total f = objs.total f := by
  simp [total, create, delete]

/-- An assignment exchanges one summand. -/
lemma total_assign (h : objs.get p = some a) :
    (objs.assign p b).total f + f a = objs.total f + f b := by
  induction objs generalizing p with
  | nil => simp [get] at h
  | cons o objs ih =>
      cases p with
      | zero =>
          obtain rfl : o = some a := by simpa [get] using h
          simp only [total, assign, List.set_cons_zero, List.map_cons, List.sum_cons,
            Option.map_some, Option.getD_some]
          omega
      | succ p =>
          have hrest := ih (p := p) (by simpa [get] using h)
          simp only [total, assign, List.set_cons_succ, List.map_cons, List.sum_cons] at hrest ⊢
          omega

/-- A deleted object takes its summand with it. -/
lemma total_delete (h : objs.get p = some a) :
    (objs.delete p).total f + f a = objs.total f := by
  induction objs generalizing p with
  | nil => simp [get] at h
  | cons o objs ih =>
      cases p with
      | zero =>
          obtain rfl : o = some a := by simpa [get] using h
          simp only [total, delete, List.set_cons_zero, List.map_cons, List.sum_cons,
            Option.map_some, Option.getD_some, Option.map_none, Option.getD_none]
          omega
      | succ p =>
          have hrest := ih (p := p) (by simpa [get] using h)
          simp only [total, delete, List.set_cons_succ, List.map_cons, List.sum_cons] at hrest ⊢
          omega

end Objects
