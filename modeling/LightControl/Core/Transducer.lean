import Mathlib.Data.List.Basic

/-!
# Transducers: machines that read a list and emit as they go

`feed step s xs` reads `xs` one symbol at a time and collects what each step emits.

* `feed_append` — reading a concatenation is reading its parts in turn.  Everything about how a
  stream is cut into chunks comes from this one equation.
* `mem_feed_iff` — what is emitted, step by step.
* `feed_simulation` — two transducers whose steps agree through a map of states and a map of
  outputs agree on every input.
* `feed_invariant` — an invariant of the states, with a property of everything emitted.
-/

namespace Transducer

variable {σ τ α β γ : Type*}

/-- The state after reading the list, and everything emitted on the way. -/
def feed (step : σ → α → σ × List β) : σ → List α → σ × List β
  | s, [] => (s, [])
  | s, a :: as => ((feed step (step s a).1 as).1, (step s a).2 ++ (feed step (step s a).1 as).2)

variable {step : σ → α → σ × List β}

@[simp] lemma feed_nil (s : σ) : feed step s [] = (s, []) := rfl

lemma feed_cons (s : σ) (a : α) (as : List α) :
    feed step s (a :: as)
      = ((feed step (step s a).1 as).1, (step s a).2 ++ (feed step (step s a).1 as).2) := rfl

lemma feed_singleton (s : σ) (a : α) : feed step s [a] = step s a := by
  simp [feed_cons]

/-- **Reading in two goes.** -/
theorem feed_append (s : σ) (as bs : List α) :
    feed step s (as ++ bs)
      = ((feed step (feed step s as).1 bs).1,
          (feed step s as).2 ++ (feed step (feed step s as).1 bs).2) := by
  induction as generalizing s with
  | nil => simp
  | cons a as ih => simp only [List.cons_append, feed_cons, ih, List.append_assoc]

/-- What is emitted is emitted by one of the steps, in the state that the symbols before it lead
to. -/
theorem mem_feed_iff {b : β} : ∀ (as : List α) (s : σ), b ∈ (feed step s as).2 ↔
    ∃ pre a post, as = pre ++ a :: post ∧ b ∈ (step (feed step s pre).1 a).2 := by
  intro as
  induction as with
  | nil => simp
  | cons a as ih =>
      intro s
      rw [feed_cons, List.mem_append, ih]
      constructor
      · rintro (h | ⟨pre, a', post, rfl, h⟩)
        · exact ⟨[], a, as, rfl, h⟩
        · exact ⟨a :: pre, a', post, rfl, h⟩
      · rintro ⟨pre, a', post, has, h⟩
        cases pre with
        | nil =>
            rw [List.nil_append, List.cons.injEq] at has
            rw [has.1]
            exact Or.inl h
        | cons c pre =>
            rw [List.cons_append, List.cons.injEq] at has
            rw [has.1]
            exact Or.inr ⟨pre, a', post, has.2, h⟩

/-- Steps that agree through `f` on states and `g` on outputs, wherever `I` holds, agree on
whole inputs. -/
theorem feed_simulation {step' : τ → α → τ × List γ} {I : σ → Prop} (f : σ → τ) (g : β → γ)
    (hI : ∀ s a, I s → I (step s a).1)
    (hstep : ∀ s a, I s → step' (f s) a = (f (step s a).1, (step s a).2.map g)) :
    ∀ (as : List α) (s : σ), I s →
      feed step' (f s) as = (f (feed step s as).1, (feed step s as).2.map g) := by
  intro as
  induction as with
  | nil =>
      intro s _
      rfl
  | cons a as ih =>
      intro s hs
      simp only [feed_cons, hstep s a hs, List.map_append]
      rw [ih (step s a).1 (hI s a hs)]

/-- An invariant of the states holds after every input, and a property that each step gives to
what it emits is had by everything emitted. -/
theorem feed_invariant {I : σ → Prop} {Q : β → Prop}
    (hstep : ∀ s a, I s → I (step s a).1 ∧ ∀ b ∈ (step s a).2, Q b) :
    ∀ (as : List α) (s : σ), I s → I (feed step s as).1 ∧ ∀ b ∈ (feed step s as).2, Q b := by
  intro as
  induction as with
  | nil =>
      intro s hs
      exact ⟨hs, by simp⟩
  | cons a as ih =>
      intro s hs
      rcases hstep s a hs with ⟨hI, hQ⟩
      rcases ih (step s a).1 hI with ⟨hI', hQ'⟩
      refine ⟨hI', ?_⟩
      intro b hb
      rw [feed_cons, List.mem_append] at hb
      exact hb.elim (hQ b) (hQ' b)

end Transducer
