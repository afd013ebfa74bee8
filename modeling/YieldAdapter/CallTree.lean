/-
# Return data in a tree of calls

The programs of a transaction share one slot of return data, which carries the id
of the program that wrote it.  A program that is entered finds the slot empty and
under its own name; what it leaves there is what its caller finds.

A `Script` is what a program does to the slot while it runs: it sets data, and it
calls programs that have scripts of their own.
-/
import Mathlib

namespace CallTree

variable {P β : Type*}

/-- What a running program does to the slot. -/
inductive Script (P β : Type*) where
  | done
  | set (data : List β) (rest : Script P β)
  | call (callee : P) (body rest : Script P β)

namespace Script

/-- The slot after a script of program `self`. -/
def run : P → P × List β → Script P β → P × List β
  | _, slot, .done => slot
  | self, _, .set data rest => run self (self, data) rest
  | self, _, .call callee body rest => run self (run callee (callee, []) body) rest

/-- The slot after a program is entered and runs its script. -/
def enter (self : P) (s : Script P β) : P × List β := s.run self (self, [])

/-- Everything that is written to the slot, with its author, in order. -/
def writes : P → Script P β → List (P × List β)
  | _, .done => []
  | self, .set data rest => (self, data) :: writes self rest
  | self, .call callee body rest => writes callee body ++ writes self rest

/-- Nothing in the tree is a call of `p`. -/
def Avoids (p : P) : Script P β → Prop
  | .done => True
  | .set _ rest => rest.Avoids p
  | .call callee body rest => callee ≠ p ∧ body.Avoids p ∧ rest.Avoids p

/-- The last thing the program itself does is to set `data`. -/
def EndsWith (data : List β) : Script P β → Prop
  | .done => False
  | .set data' rest => rest = .done ∧ data' = data ∨ rest.EndsWith data
  | .call _ _ rest => rest.EndsWith data

/-- A program that ends by setting data leaves just that, under its own name. -/
theorem run_of_endsWith {data : List β} {s : Script P β} (h : s.EndsWith data) (self : P)
    (slot : P × List β) : s.run self slot = (self, data) := by
  induction s generalizing slot with
  | done => exact absurd h id
  | set data' rest ih =>
      rcases h with ⟨rfl, rfl⟩ | h
      · rfl
      · exact ih h _
  | call callee body rest _ ih => exact ih h _

/-- **Whatever is in the slot was written by somebody**, if it was not there before
and is not empty. -/
theorem run_mem_writes (s : Script P β) (self : P) (slot : P × List β)
    (hne : (s.run self slot).2 ≠ []) :
    s.run self slot = slot ∨ s.run self slot ∈ s.writes self := by
  -- a callee starts from an empty slot, so what it leaves behind is its own doing
  induction s generalizing self slot with
  | done => exact .inl rfl
  | set data rest ih =>
      rw [run] at hne ⊢
      rcases ih self (self, data) hne with h | h
      · rw [h]
        exact .inr List.mem_cons_self
      · exact .inr (List.mem_cons_of_mem _ h)
  | call callee body rest ihbody ihrest =>
      rw [run] at hne ⊢
      rcases ihrest self _ hne with h | h
      · rw [h] at hne ⊢
        rcases ihbody callee (callee, []) hne with h' | h'
        · rw [h'] at hne
          exact absurd rfl hne
        · exact .inr (List.mem_append_left _ h')
      · exact .inr (List.mem_append_right _ h)

/-- What a program leaves in the slot, if anything, was written during its script. -/
theorem enter_mem_writes (s : Script P β) (self : P) (hne : (s.enter self).2 ≠ []) :
    s.enter self ∈ s.writes self := by
  rcases s.run_mem_writes self (self, []) hne with h | h
  · rw [enter, h] at hne
    exact absurd rfl hne
  · exact h

end Script

end CallTree
