/-
# What a computation depends on

What a computation does depends on its environment through the program it runs as, the
clock, and what its calls do; and it does not depend on the calls that are on record.

* `Exec.SameIn` : a computation that does the same in two environments;
* `Exec.IgnoresRecord` : a computation that does the same with one more call on record.

Both are closed under sequencing, and a relay has them when its one call does.
-/
import YieldAdapter.Relay

open Solana

namespace Exec

variable {ε Ev α β γ : Type} {e e' : Env ε Ev}

/-- `x` does the same in both environments. -/
def SameIn (e e' : Env ε Ev) (x : Exec ε Ev α) : Prop := x e = x e'

namespace SameIn

theorem lift (r : Except (ProgramError ε) α) : SameIn e e' (Exec.lift r : Exec ε Ev α) := rfl

/-- **The sequencing rule.** -/
theorem bind {x : Exec ε Ev α} {f : α → Exec ε Ev β} (hx : SameIn e e' x)
    (hf : ∀ a, SameIn e e' (f a)) : SameIn e e' (x >>= f) := by
  funext m
  rw [bind_apply, bind_apply, hx]
  rcases x e' m with ⟨_ | a, m₁⟩
  · rfl
  · exact congrFun (hf a) m₁

theorem emit (hself : e.program_id = e'.program_id) (ev : Ev) :
    SameIn e e' (Exec.emit ev : Exec ε Ev Unit) := by
  funext m
  rw [Exec.emit, Exec.emit, hself]

theorem set_return_data (hself : e.program_id = e'.program_id) (data : List UInt8) :
    SameIn e e' (Exec.set_return_data data : Exec ε Ev Unit) := by
  funext m
  rw [Exec.set_return_data, Exec.set_return_data, hself]

theorem get_return_data : SameIn e e' (Exec.get_return_data : Exec ε Ev _) := rfl

/-- **A relay** does the same where its one call does. -/
theorem relay {plan : Except (ProgramError ε) (Instruction × γ)} {after : γ → Exec ε Ev Unit}
    (hself : e.program_id = e'.program_id)
    (hcall : ∀ ix g, plan = .ok (ix, g) → ∀ m, e.call ix m = e'.call ix m)
    (hafter : ∀ g, SameIn e e' (after g)) : SameIn e e' (relay plan after) := by
  funext m
  rcases hplan : plan with err | ⟨ix, g⟩
  · rw [relay_of_error rfl, relay_of_error rfl]
  · rw [relay_of_ok rfl, relay_of_ok rfl, hself, hcall ix g hplan]
    rcases e'.call ix (m.called e'.program_id ix) with ⟨err | ⟨⟩, m₁⟩
    · rfl
    · exact congrFun (hafter g) m₁

/-- As an instruction it has the same outcome. -/
theorem transact_eq {x : Exec ε Ev Unit} (h : SameIn e e' x)
    (hself : e.program_id = e'.program_id) (ℓ : Ledger) : transact x e ℓ = transact x e' ℓ := by
  have hrun : x e (Machine.start e.program_id ℓ) = x e' (Machine.start e'.program_id ℓ) := by
    rw [← hself]
    exact congrFun h _
  rw [transact, transact, hrun, hself]

end SameIn

/-! ## The calls on record -/

end Exec

/-- The machine with a call on record before all others. -/
def Machine.preceded {Ev : Type} (m : Machine Ev) (c : Pubkey × Instruction) : Machine Ev :=
  { m with calls := c :: m.calls }

namespace Exec

variable {ε Ev α β γ : Type} {e : Env ε Ev}

/-- `x` does the same with another call on record, and leaves it there. -/
def IgnoresRecord (e : Env ε Ev) (x : Exec ε Ev α) : Prop :=
  ∀ c m, x e (m.preceded c) = ((x e m).1, (x e m).2.preceded c)

namespace IgnoresRecord

theorem lift (r : Except (ProgramError ε) α) : IgnoresRecord e (Exec.lift r : Exec ε Ev α) :=
  fun _ _ => rfl

/-- **The sequencing rule.** -/
theorem bind {x : Exec ε Ev α} {f : α → Exec ε Ev β} (hx : IgnoresRecord e x)
    (hf : ∀ a, IgnoresRecord e (f a)) : IgnoresRecord e (x >>= f) := by
  intro c m
  rw [bind_apply, bind_apply, hx]
  rcases x e m with ⟨_ | a, m₁⟩
  · rfl
  · exact hf a c m₁

theorem emit (ev : Ev) : IgnoresRecord e (Exec.emit ev : Exec ε Ev Unit) := fun _ _ => rfl

theorem set_return_data (data : List UInt8) :
    IgnoresRecord e (Exec.set_return_data data : Exec ε Ev Unit) := fun _ _ => rfl

/-- **A relay** ignores the record when its one call does. -/
theorem relay {plan : Except (ProgramError ε) (Instruction × γ)} {after : γ → Exec ε Ev Unit}
    (hcall : ∀ ix g, plan = .ok (ix, g) → ∀ c m,
      e.call ix (m.preceded c) = ((e.call ix m).1, (e.call ix m).2.preceded c))
    (hafter : ∀ g, IgnoresRecord e (after g)) : IgnoresRecord e (relay plan after) := by
  intro c m
  rcases hplan : plan with err | ⟨ix, g⟩
  · rw [relay_of_error rfl, relay_of_error rfl]
  · have hstep := hcall ix g hplan c (m.called e.program_id ix)
    rw [relay_of_ok rfl, relay_of_ok rfl]
    change e.call ix ((m.preceded c).called e.program_id ix) = _ at hstep
    rw [hstep]
    rcases e.call ix (m.called e.program_id ix) with ⟨err | ⟨⟩, m₁⟩
    · rfl
    · exact hafter g c m₁

end IgnoresRecord

end Exec
