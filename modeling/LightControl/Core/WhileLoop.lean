import Mathlib.Data.Option.Basic
import Mathlib.Data.Nat.Notation

/-!
# While loops whose body can go wrong

`while_ guard body fuel s` runs `body` as long as `guard` holds, at most `fuel` times.  The
result is `none` when the body goes wrong, and also when the fuel runs out with the guard still
true, so a `some` always is the state in which the loop ended.

* `while_total` — the rule for total correctness: an invariant under which the body is defined,
  and a measure that every iteration lowers.  It gives the final state and excludes both failures.
* `Passes` — the states in which the loop tests its guard, the last one included (`passes_while`),
  with `Passes.invariant` for what holds in all of them.
* `while_congr` — two bodies that agree under an invariant make the same loop.
-/

namespace WhileLoop

variable {σ : Type*} {guard : σ → Bool} {body : σ → Option σ}

/-- `while (guard s) s = body s;`, cut off after `fuel` iterations. -/
def while_ (guard : σ → Bool) (body : σ → Option σ) : ℕ → σ → Option σ
  | 0, s => if guard s then none else some s
  | fuel + 1, s => if guard s then (body s).bind (while_ guard body fuel) else some s

/-- **Total correctness.**  Fuel `measure s` is enough, and the loop ends with the invariant
true and the guard false. -/
theorem while_total {I : σ → Prop} {measure : σ → ℕ}
    (hbody : ∀ s, I s → guard s = true → ∃ s', body s = some s' ∧ I s' ∧ measure s' < measure s) :
    ∀ (fuel : ℕ) (s : σ), I s → measure s ≤ fuel →
      ∃ s', while_ guard body fuel s = some s' ∧ I s' ∧ guard s' = false := by
  intro fuel
  induction fuel with
  | zero =>
      intro s hI hfuel
      cases hg : guard s with
      | false => exact ⟨s, by simp [while_, hg], hI, hg⟩
      | true =>
          rcases hbody s hI hg with ⟨s', _, _, hlt⟩
          omega
  | succ fuel ih =>
      intro s hI hfuel
      cases hg : guard s with
      | false => exact ⟨s, by simp [while_, hg], hI, hg⟩
      | true =>
          rcases hbody s hI hg with ⟨s₁, hs₁, hI₁, hlt⟩
          rcases ih s₁ hI₁ (by omega) with ⟨s', hs', hI', hg'⟩
          refine ⟨s', ?_, hI', hg'⟩
          rw [while_, if_pos hg, hs₁]
          exact hs'

/-- The states in which the loop that starts in `s` tests its guard. -/
inductive Passes (guard : σ → Bool) (body : σ → Option σ) (s : σ) : σ → Prop
  | start : Passes guard body s s
  | next {t t' : σ} (h : Passes guard body s t) (hguard : guard t = true)
      (hbody : body t = some t') : Passes guard body s t'

/-- An invariant of the body holds wherever the loop passes. -/
theorem Passes.invariant {I : σ → Prop} {s t : σ} (h : Passes guard body s t) (h0 : I s)
    (hbody : ∀ t t', I t → guard t = true → body t = some t' → I t') : I t := by
  induction h with
  | start => exact h0
  | next _ hguard hstep ih => exact hbody _ _ ih hguard hstep

lemma Passes.trans {s t u : σ} (h : Passes guard body s t) (h' : Passes guard body t u) :
    Passes guard body s u := by
  induction h' with
  | start => exact h
  | next _ hguard hstep ih => exact ih.next hguard hstep

/-- The state in which the loop ends is one of those it passes through. -/
lemma passes_while : ∀ (fuel : ℕ) {s t : σ}, while_ guard body fuel s = some t →
    Passes guard body s t := by
  intro fuel
  induction fuel with
  | zero =>
      intro s t h
      simp only [while_] at h
      split at h
      case isTrue => cases h
      case isFalse =>
        cases h
        exact .start
  | succ fuel ih =>
      intro s t h
      simp only [while_] at h
      split at h
      case isTrue hg =>
        rcases Option.bind_eq_some_iff.mp h with ⟨s₁, hs₁, hrest⟩
        exact (Passes.start.next hg hs₁).trans (ih hrest)
      case isFalse =>
        cases h
        exact .start

/-- Bodies that agree wherever the invariant holds make the same loop. -/
theorem while_congr {I : σ → Prop} {body' : σ → Option σ}
    (hbody : ∀ s, I s → guard s = true →
      body' s = body s ∧ ∀ s', body s = some s' → I s') :
    ∀ (fuel : ℕ) (s : σ), I s → while_ guard body' fuel s = while_ guard body fuel s := by
  intro fuel
  induction fuel with
  | zero =>
      intro s _
      rfl
  | succ fuel ih =>
      intro s hI
      cases hg : guard s with
      | false => simp [while_, hg]
      | true =>
          rcases hbody s hI hg with ⟨heq, hnext⟩
          simp only [while_, hg, if_true, heq]
          refine Option.bind_congr ?_
          intro s' hs'
          exact ih s' (hnext s' hs')

end WhileLoop
