/-
# Relays

A relay checks its input, settles on one instruction, hands it to `invoke`, and
finishes up once that instruction has returned.  It is the shape of a program
that routes calls to other programs: everything it decides is in its *plan*, a
pure function of its input, and everything it does is one call.

The lemmas below say what a run of a relay amounts to in terms of its plan: which
call it makes, what it leaves behind when it succeeds, and that it does nothing at
all when there is no plan.
-/
import YieldAdapter.Exec

open Solana

variable {ε Ev γ : Type}

/-- Carry out a plan: one instruction, and what is left to do after it. -/
def relay (plan : Except (ProgramError ε) (Instruction × γ)) (after : γ → Exec ε Ev Unit) :
    Exec ε Ev Unit := do
  let p ← Exec.lift plan
  Exec.invoke p.1
  after p.2

section Run

variable {plan : Except (ProgramError ε) (Instruction × γ)} {after : γ → Exec ε Ev Unit}
  {env : Env ε Ev} {m : Machine Ev}

/-- Without a plan a relay does nothing. -/
theorem relay_of_error {e : ProgramError ε} (h : plan = .error e) :
    relay plan after env m = (.error e, m) := by
  subst h
  rfl

/-- With a plan a relay makes its one call, and finishes up if the call returns. -/
theorem relay_of_ok {ix : Instruction} {g : γ} (h : plan = .ok (ix, g)) :
    relay plan after env m =
      match env.call ix (m.called env.program_id ix) with
      | (.ok (), m') => after g env m'
      | (.error e, m') => (.error e, m') := by
  subst h
  show Exec.bind (Exec.invoke ix) (fun _ => after g) env m = _
  rw [Exec.bind, Exec.invoke]
  rcases env.call ix (m.called env.program_id ix) with ⟨e | ⟨⟩, m'⟩ <;>
    rfl

/-- Finishing up makes no calls. -/
def Quiet (env : Env ε Ev) (after : γ → Exec ε Ev Unit) : Prop :=
  ∀ g m, (after g env m).2.calls = m.calls

/-- A relay's calls: the planned one, then those made on its behalf. -/
theorem calls_relay_of_ok (hafter : Quiet env after) {ix : Instruction} {g : γ}
    (h : plan = .ok (ix, g)) :
    (relay plan after env m).2.calls =
      (env.call ix (m.called env.program_id ix)).2.calls := by
  rw [relay_of_ok h]
  rcases env.call ix (m.called env.program_id ix) with ⟨e | ⟨⟩, m₁⟩
  · rfl
  · exact hafter g m₁

/-- A run of `x` hands `ix` to `invoke` as its first call. -/
def Reaches (x : Exec ε Ev Unit) (env : Env ε Ev) (m : Machine Ev) (ix : Instruction) : Prop :=
  ∃ cs, (x env m).2.calls = m.calls ++ (env.program_id, ix) :: cs

/-- Calls stay on record. -/
def Env.Records (env : Env ε Ev) : Prop :=
  ∀ ix m, ∃ cs, (env.call ix m).2.calls = m.calls ++ cs

/-- **A relay reaches exactly the instruction it plans.** -/
theorem reaches_relay_iff (hafter : Quiet env after) (hrecords : env.Records)
    {ix : Instruction} :
    Reaches (relay plan after) env m ix ↔ ∃ g, plan = .ok (ix, g) := by
  rcases hplan : plan with e | ⟨ix', g⟩
  · constructor
    · rintro ⟨cs, hcs⟩
      rw [relay_of_error rfl] at hcs
      exact absurd hcs (by simp)
    · rintro ⟨g, hg⟩
      exact absurd hg (by simp)
  · obtain ⟨cs, hcs⟩ := hrecords ix' (m.called env.program_id ix')
    rw [Machine.calls_called, List.append_assoc] at hcs
    constructor
    · rintro ⟨cs', hcs'⟩
      rw [calls_relay_of_ok hafter rfl, hcs] at hcs'
      have htail := List.append_cancel_left hcs'
      simp only [List.singleton_append, List.cons.injEq, Prod.mk.injEq, true_and] at htail
      exact ⟨g, by rw [htail.1]⟩
    · rintro ⟨g', hg'⟩
      obtain ⟨rfl, -⟩ := by simpa only [Except.ok.injEq, Prod.mk.injEq] using hg'
      exact ⟨cs, by rw [calls_relay_of_ok hafter rfl, hcs]; rfl⟩

/-- What a run of `x` hands to `invoke` itself, apart from what its callees do. -/
def performed (x : Exec ε Ev Unit) (env : Env ε Ev) (m : Machine Ev) : List Instruction :=
  (((x env m).2.calls.drop m.calls.length).filter fun c => c.1 = env.program_id).map Prod.snd

/-- The planned instruction, if there is one. -/
def planned (plan : Except (ProgramError ε) (Instruction × γ)) : List Instruction :=
  match plan with
  | .ok p => [p.1]
  | .error _ => []

/-- **A relay performs what it plans**, when nothing below calls in its name. -/
theorem performed_relay (hafter : Quiet env after)
    (hcallee : ∀ ix g m, plan = .ok (ix, g) →
      ∃ cs, (env.call ix m).2.calls = m.calls ++ cs ∧ ∀ c ∈ cs, c.1 ≠ env.program_id) :
    performed (relay plan after) env m = planned plan := by
  unfold performed planned
  rcases hplan : plan with e | ⟨ix, g⟩
  · rw [relay_of_error rfl]
    simp
  · obtain ⟨cs, hcs, hforeign⟩ := hcallee ix g (m.called env.program_id ix) hplan
    have hnone : cs.filter (fun c => decide (c.1 = env.program_id)) = [] := by
      rw [List.filter_eq_nil_iff]
      intro c hc
      simpa using hforeign c hc
    rw [calls_relay_of_ok hafter rfl, hcs, Machine.calls_called, List.append_assoc,
      List.drop_left, List.singleton_append, List.filter_cons_of_pos (by simp), hnone]
    rfl

end Run

/-! ## Frames -/

section Frame

variable {plan : Except (ProgramError ε) (Instruction × γ)} {after : γ → Exec ε Ev Unit}
  {env : Env ε Ev} {p : Pubkey}

/-- A relay run by another program does not involve `p`, if its call does not. -/
theorem Foreign.relay (hself : env.program_id ≠ p)
    (hcall : ∀ ix g m, plan = .ok (ix, g) → Foreign p m (env.call ix m).2)
    (hafter : ∀ g, Exec.Within env (Foreign p) (after g)) :
    Exec.Within env (Foreign p) (relay plan after) := by
  intro m
  rcases hplan : plan with e | ⟨ix, g⟩
  · rw [relay_of_error rfl]
    exact Foreign.refl m
  · have hinvoke := Foreign.invoke hself ix (fun m => hcall ix g m hplan) m
    rw [relay_of_ok rfl]
    change Foreign p m (env.call ix (m.called env.program_id ix)).2
      at hinvoke
    rcases hrun : env.call ix (m.called env.program_id ix) with
      ⟨e | ⟨⟩, m₁⟩
    · rw [hrun] at hinvoke
      exact hinvoke
    · rw [hrun] at hinvoke
      exact hinvoke.trans (hafter g m₁)

/-- A relay writes no account itself: the ledger changes by what the call does. -/
theorem ledger_relay {R : Ledger → Ledger → Prop} (hrefl : ∀ ℓ, R ℓ ℓ)
    (hcall : ∀ ix g m, plan = .ok (ix, g) → R m.ledger (env.call ix m).2.ledger)
    (hafter : ∀ g m, (after g env m).2.ledger = m.ledger) :
    Exec.Within env (fun m m' => R m.ledger m'.ledger) (relay plan after) := by
  intro m
  rcases hplan : plan with e | ⟨ix, g⟩
  · rw [relay_of_error rfl]
    exact hrefl _
  · have hstep := hcall ix g (m.called env.program_id ix) hplan
    rw [relay_of_ok rfl]
    rcases hrun : env.call ix (m.called env.program_id ix) with
      ⟨e | ⟨⟩, m₁⟩
    · rw [hrun] at hstep
      exact hstep
    · rw [hrun] at hstep
      show R m.ledger (after g env m₁).2.ledger
      rw [hafter]
      exact hstep

end Frame

/-! ## Relays as instructions -/

section Transact

variable {plan : Except (ProgramError ε) (Instruction × γ)} {after : γ → Exec ε Ev Unit}
  {env : Env ε Ev} {ℓ : Ledger}

/-- An instruction without a plan fails, calls nothing and changes nothing. -/
theorem transact_relay_of_error {e : ProgramError ε} (h : plan = .error e) :
    transact (relay plan after) env ℓ = ⟨.error e, ℓ, [], (env.program_id, []), []⟩ :=
  transact_of_error (relay_of_error h)

/-- An instruction whose call fails is rolled back, though the calls stay on record. -/
theorem transact_relay_of_call_error {ix : Instruction} {g : γ} {e : ProgramError ε}
    {m : Machine Ev} (h : plan = .ok (ix, g))
    (hcall : env.call ix ((Machine.start env.program_id ℓ).called env.program_id ix) =
      (.error e, m)) :
    transact (relay plan after) env ℓ = ⟨.error e, ℓ, [], (env.program_id, []), m.calls⟩ := by
  refine transact_of_error ?_
  rw [relay_of_ok h, hcall]

/-- An instruction whose call returns is committed once it has finished up. -/
theorem transact_relay_of_call_ok {ix : Instruction} {g : γ} {m m' : Machine Ev}
    (h : plan = .ok (ix, g))
    (hcall : env.call ix ((Machine.start env.program_id ℓ).called env.program_id ix) =
      (.ok (), m))
    (hafter : after g env m = (.ok (), m')) :
    transact (relay plan after) env ℓ =
      ⟨.ok (), m'.ledger, m'.events, m'.return_data, m'.calls⟩ := by
  refine transact_of_ok ?_
  rw [relay_of_ok h, hcall]
  exact hafter

/-- An instruction that cannot finish up is rolled back as well. -/
theorem transact_relay_of_after_error {ix : Instruction} {g : γ} {e : ProgramError ε}
    {m m' : Machine Ev} (h : plan = .ok (ix, g))
    (hcall : env.call ix ((Machine.start env.program_id ℓ).called env.program_id ix) =
      (.ok (), m))
    (hafter : after g env m = (.error e, m')) :
    transact (relay plan after) env ℓ = ⟨.error e, ℓ, [], (env.program_id, []), m'.calls⟩ := by
  refine transact_of_error ?_
  rw [relay_of_ok h, hcall]
  exact hafter

/-- An instruction with a plan makes the planned call, and those made on its behalf. -/
theorem calls_transact_relay_of_ok (hafter : Quiet env after) {ix : Instruction} {g : γ}
    (h : plan = .ok (ix, g)) :
    (transact (relay plan after) env ℓ).calls =
      (env.call ix ((Machine.start env.program_id ℓ).called env.program_id ix)).2.calls := by
  have hcalls := calls_relay_of_ok (m := Machine.start env.program_id ℓ) hafter h
  rw [transact]
  rcases hrun : relay plan after env (Machine.start env.program_id ℓ) with ⟨e | ⟨⟩, m⟩
  · rw [hrun] at hcalls
    exact hcalls
  · rw [hrun] at hcalls
    exact hcalls

end Transact
