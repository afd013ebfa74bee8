/-
# Runs of a state machine

A machine takes a state and an action to the next state.  The rules below carry
facts about single steps over to runs:

* `Runs.invariant` : what every step keeps holds throughout;
* `Runs.run_filterMap` : a machine whose actions are those of another, but for some that
  do nothing, runs like it;
* `Runs.run_unmarked` : steps that do nothing can be left out;
* `Runs.related` : what every step relates, from states that satisfy an
  invariant, relates the ends of a run;
* `Runs.reachable_iff` : a view of the states whose changes are just those that runs bring
  about;
* `Runs.exists_turning_point` : what holds at the end and not at the start came
  about in some step;
* `Runs.iterate_of_marked` : an observation that the marked steps change by one
  function, and the other steps not at all, has been changed by that function as
  often as there were marked steps.
-/
import Mathlib

namespace Runs

variable {σ α β : Type*} (step : σ → α → σ)

/-- The state after a list of actions. -/
def run (s : σ) (as : List α) : σ := as.foldl step s

@[simp] theorem run_nil (s : σ) : run step s [] = s := rfl

@[simp] theorem run_cons (s : σ) (a : α) (as : List α) :
    run step s (a :: as) = run step (step s a) as := rfl

theorem run_append (s : σ) (as bs : List α) :
    run step s (as ++ bs) = run step (run step s as) bs := List.foldl_append

variable {step} {I : σ → Prop}

/-- **Idle actions.**  Where each action is an action of another machine, or does nothing,
a run is a run of that machine. -/
theorem run_filterMap {step' : σ → β → σ} {f : α → Option β}
    (hsome : ∀ s a b, f a = some b → step s a = step' s b)
    (hnone : ∀ s a, f a = none → step s a = s) (s : σ) (as : List α) :
    run step s as = run step' s (as.filterMap f) := by
  induction as generalizing s with
  | nil => rfl
  | cons a as ih =>
      cases ha : f a with
      | none => rw [run_cons, hnone s a ha, List.filterMap_cons_none ha, ih]
      | some b => rw [run_cons, hsome s a b ha, List.filterMap_cons_some ha, run_cons, ih]

variable (step) in
/-- The actions of a run without those that are marked in the state they find. -/
def unmarked (mark : σ → α → Bool) : σ → List α → List α
  | _, [] => []
  | s, a :: as =>
      if mark s a then unmarked mark (step s a) as else a :: unmarked mark (step s a) as

/-- **Idle steps** can be left out of a run. -/
theorem run_unmarked {mark : σ → α → Bool} {as : List α}
    (hidle : ∀ s, ∀ a ∈ as, mark s a = true → step s a = s) (s : σ) :
    run step s (unmarked step mark s as) = run step s as := by
  induction as generalizing s with
  | nil => rfl
  | cons a as ih =>
      have htail := ih (fun s b hb => hidle s b (List.mem_cons_of_mem a hb)) (step s a)
      rw [unmarked, run_cons]
      cases hmark : mark s a with
      | true =>
          rw [hidle s a List.mem_cons_self hmark] at htail ⊢
          rw [if_pos rfl, htail]
      | false => rw [if_neg Bool.false_ne_true, run_cons, htail]

/-- **The invariant rule.** -/
theorem invariant (hstep : ∀ s a, I s → I (step s a)) {s : σ} (hs : I s) (as : List α) :
    I (run step s as) := by
  induction as generalizing s with
  | nil => exact hs
  | cons a as ih => exact ih (hstep s a hs)

/-- A reflexive and transitive relation between the states around a step relates
the ends of a run. -/
theorem related {R : σ → σ → Prop} (hI : ∀ s a, I s → I (step s a)) (hrefl : ∀ s, R s s)
    (htrans : ∀ s₁ s₂ s₃, R s₁ s₂ → R s₂ s₃ → R s₁ s₃)
    (hstep : ∀ s a, I s → R s (step s a)) {s : σ} (hs : I s) (as : List α) :
    R s (run step s as) := by
  induction as generalizing s with
  | nil => exact hrefl s
  | cons a as ih => exact htrans _ _ _ (hstep s a hs) (ih (hI s a hs))

/-- **An exact abstraction.**  Where every admissible step is a change of what is seen, and
from states that satisfy an invariant every change comes about by some run of admissible
steps, what such runs can reach is what changes can reach. -/
theorem reachable_iff {τ : Type*} {view : σ → τ} {R : τ → τ → Prop} {Q : α → Prop}
    (hstep : ∀ s a, Q a → R (view s) (view (step s a)))
    (hrun : ∀ s, I s → ∀ t, R (view s) t →
      ∃ as, (∀ a ∈ as, Q a) ∧ view (run step s as) = t ∧ I (run step s as))
    {s : σ} (hs : I s) (t : τ) :
    (∃ as, (∀ a ∈ as, Q a) ∧ view (run step s as) = t) ↔
      Relation.ReflTransGen R (view s) t := by
  constructor
  · rintro ⟨as, hall, rfl⟩
    induction as using List.reverseRecOn with
    | nil => exact .refl
    | append_singleton as a ih =>
        rw [List.forall_mem_append, List.forall_mem_singleton] at hall
        rw [run_append]
        exact (ih hall.1).tail (hstep _ a hall.2)
  · intro h
    have hreach : ∃ as, (∀ a ∈ as, Q a) ∧ view (run step s as) = t ∧ I (run step s as) := by
      induction h with
      | refl => exact ⟨[], fun a ha => absurd ha (by simp), rfl, hs⟩
      | tail _ hchange ih =>
          obtain ⟨as, hall, rfl, has⟩ := ih
          obtain ⟨bs, hall', rfl, hbs⟩ := hrun _ has _ hchange
          exact ⟨as ++ bs, List.forall_mem_append.mpr ⟨hall, hall'⟩, by rw [run_append],
            by rwa [run_append]⟩
    obtain ⟨as, hall, has, -⟩ := hreach
    exact ⟨as, hall, has⟩

/-- **Provenance.**  A fact that a run has brought about was brought about by one
of its steps. -/
theorem exists_turning_point {P : σ → Prop} {s : σ} {as : List α} (hstart : ¬ P s)
    (hend : P (run step s as)) :
    ∃ before a after, as = before ++ a :: after ∧ ¬ P (run step s before) ∧
      P (step (run step s before) a) := by
  induction as generalizing s with
  | nil => exact absurd hend hstart
  | cons a as ih =>
      by_cases ha : P (step s a)
      · exact ⟨[], a, as, rfl, hstart, ha⟩
      · obtain ⟨before, b, after, rfl, hbefore, hb⟩ := ih ha hend
        exact ⟨a :: before, b, after, rfl, hbefore, hb⟩

variable (step)

/-- The number of marked steps of a run. -/
def countMarked (mark : σ → α → Bool) : σ → List α → ℕ
  | _, [] => 0
  | s, a :: as => (if mark s a then 1 else 0) + countMarked mark (step s a) as

variable {step}

/-- **Counting.**  Along a run the observation `f` goes through `g` once for each
marked step, provided that it does so in each single step. -/
theorem iterate_of_marked {f : σ → β} {g : β → β} {mark : σ → α → Bool}
    (hI : ∀ s a, I s → I (step s a))
    (hmarked : ∀ s a, I s → mark s a = true → f (step s a) = g (f s))
    (hother : ∀ s a, I s → mark s a = false → f (step s a) = f s) {s : σ} (hs : I s)
    (as : List α) : f (run step s as) = g^[countMarked step mark s as] (f s) := by
  induction as generalizing s with
  | nil => rfl
  | cons a as ih =>
      rw [run_cons, ih (hI s a hs), countMarked]
      cases hmark : mark s a with
      | true =>
          rw [hmarked s a hs hmark, if_pos rfl, Nat.add_comm, Function.iterate_add_apply,
            Function.iterate_one]
      | false => rw [hother s a hs hmark, if_neg Bool.false_ne_true, Nat.zero_add]

/-- A marked step of which the observation does not allow even one does not occur. -/
theorem countMarked_eq_zero {mark : σ → α → Bool} (hI : ∀ s a, I s → I (step s a))
    (hnone : ∀ s a, I s → mark s a = false) {s : σ} (hs : I s) (as : List α) :
    countMarked step mark s as = 0 := by
  induction as generalizing s with
  | nil => rfl
  | cons a as ih =>
      rw [countMarked, hnone s a hs, if_neg Bool.false_ne_true, ih (hI s a hs)]

end Runs
