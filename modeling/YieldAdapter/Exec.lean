/-
# Program execution

A program is a computation over the machine state, in which it can fail, read and
write accounts, emit events, set return data and call other programs.

* `Exec ε Ev α` : computations with custom errors `ε` and events `Ev`;
* `Foreign p` : what a computation of programs other than `p` may do to the
  machine, with its closure rules;
* `transact` : a top-level instruction, committed or rolled back as a whole.

A computation that fails keeps the machine it failed in, so that the calls it
made can still be read off; rolling back is the business of `transact`.
-/
import YieldAdapter.Solana

open Solana

/-! ## Errors -/

/-- The errors raised by Anchor's account and instruction checks. -/
inductive AnchorError where
  | InstructionFallbackNotFound
  | InstructionDidNotDeserialize
  | EventInstructionStub
  | ConstraintMut
  | ConstraintHasOne
  | ConstraintAddress
  | ConstraintSeeds
  | AccountDiscriminatorNotFound
  | AccountDiscriminatorMismatch
  | AccountDidNotDeserialize
  | AccountDidNotSerialize
  | AccountNotEnoughKeys
  | AccountOwnedByWrongProgram
  | InvalidProgramId
  | AccountNotSigner
  | AccountNotInitialized
  | TryingToInitPayerAsProgramAccount
  deriving DecidableEq, Repr

/-- What a program can fail with: an Anchor error, an error of its own, an error that
the runtime, the System program or the SPL token library names, an exhausted call
stack, an error code of some other program, or a panic. -/
inductive ProgramError (ε : Type) where
  | anchor (e : AnchorError)
  | custom (e : ε)
  | missingAccount
  | privilegeEscalation
  | externalAccountLamportSpend
  | invalidArgument
  | invalidAccountData
  | uninitializedAccount
  | accountAlreadyInUse
  | resultWithNegativeLamports
  | callDepth
  | foreign (code : ℕ)
  | panic
  deriving DecidableEq, Repr

/-- `require!(cond, err)`. -/
def require {ε : Type} (cond : Bool) (e : ProgramError ε) : Except (ProgramError ε) Unit :=
  if cond then .ok () else .error e

@[simp] theorem require_true {ε : Type} (e : ProgramError ε) : require true e = .ok () := rfl

@[simp] theorem require_false {ε : Type} (e : ProgramError ε) : require false e = .error e := rfl

theorem require_eq_ok {ε : Type} {cond : Bool} {e : ProgramError ε} {u : Unit} :
    require cond e = .ok u ↔ cond = true := by
  cases cond <;> simp

theorem except_ok_bind {ε α β : Type} (a : α) (f : α → Except ε β) : (.ok a >>= f) = f a := rfl

theorem except_error_bind {ε α β : Type} (e : ε) (f : α → Except ε β) :
    (.error e >>= f) = .error e := rfl

/-- Checks in a row pass when each of them does. -/
theorem except_bind_eq_ok {ε α β : Type} {x : Except ε α} {f : α → Except ε β} {b : β} :
    (x >>= f) = .ok b ↔ ∃ a, x = .ok a ∧ f a = .ok b := by
  cases x <;> simp [bind, Except.bind]

/-- Checks in a row fail with the first failure. -/
theorem except_bind_eq_error {ε α β : Type} {x : Except ε α} {f : α → Except ε β} {e : ε} :
    (x >>= f) = .error e ↔ x = .error e ∨ ∃ a, x = .ok a ∧ f a = .error e := by
  cases x <;> simp [bind, Except.bind]

theorem require_eq_error {ε : Type} {cond : Bool} {e e' : ProgramError ε} :
    require cond e = .error e' ↔ cond = false ∧ e = e' := by
  cases cond <;> simp

/-- `bs[i]`, which panics out of bounds. -/
def indexAt {ε α : Type} (xs : List α) (i : ℕ) : Except (ProgramError ε) α :=
  match xs[i]? with
  | some x => .ok x
  | none => .error .panic

/-- `&bs[i..]`, which panics when `i` is past the end. -/
def sliceFrom {ε α : Type} (xs : List α) (i : ℕ) : Except (ProgramError ε) (List α) :=
  if i ≤ xs.length then .ok (xs.drop i) else .error .panic

/-- `&bs[i..j]`, which panics unless `i ≤ j ≤ bs.len()`. -/
def slice {ε α : Type} (xs : List α) (i j : ℕ) : Except (ProgramError ε) (List α) :=
  if i ≤ j ∧ j ≤ xs.length then .ok ((xs.take j).drop i) else .error .panic

section Bounds

variable {ε α : Type} {xs : List α} {i j : ℕ} {e : ProgramError ε}

theorem indexAt_eq_error : indexAt xs i = .error e ↔ xs.length ≤ i ∧ e = .panic := by
  unfold indexAt
  rcases hget : xs[i]? with _ | x
  · have hle := List.getElem?_eq_none_iff.mp hget
    exact ⟨fun h => ⟨hle, (Except.error.inj h).symm⟩, fun h => congrArg _ h.2.symm⟩
  · obtain ⟨hlt, -⟩ := List.getElem?_eq_some_iff.mp hget
    exact ⟨fun h => absurd h (by simp), fun h => absurd h.1 (by omega)⟩

theorem sliceFrom_eq_error : sliceFrom xs i = .error e ↔ xs.length < i ∧ e = .panic := by
  unfold sliceFrom
  by_cases h : i ≤ xs.length
  · simp [h]
  · simp [h, Nat.lt_of_not_le h, eq_comm]

theorem slice_eq_error :
    slice xs i j = .error e ↔ ¬ (i ≤ j ∧ j ≤ xs.length) ∧ e = .panic := by
  unfold slice
  by_cases h : i ≤ j ∧ j ≤ xs.length
  · simp [h]
  · simp [h, eq_comm]

end Bounds

/-! ## The machine -/

/-- What a running program can observe or change.  Events and calls are tagged
with the program they come from; `calls`, the instructions handed to `invoke`, is a
record for the statements, which no program reads. -/
structure Machine (Ev : Type) where
  ledger : Ledger
  return_data : Pubkey × List UInt8
  events : List (Pubkey × Ev)
  calls : List (Pubkey × Instruction)

/-- The machine with another account at `k`. -/
def Machine.write {Ev : Type} (m : Machine Ev) (k : Pubkey) (a : Account) : Machine Ev :=
  { m with ledger := Function.update m.ledger k a }

@[simp] theorem Machine.ledger_write {Ev : Type} (m : Machine Ev) (k : Pubkey) (a : Account) :
    (m.write k a).ledger = Function.update m.ledger k a := rfl

@[simp] theorem Machine.events_write {Ev : Type} (m : Machine Ev) (k : Pubkey) (a : Account) :
    (m.write k a).events = m.events := rfl

@[simp] theorem Machine.calls_write {Ev : Type} (m : Machine Ev) (k : Pubkey) (a : Account) :
    (m.write k a).calls = m.calls := rfl

@[simp] theorem Machine.write_write {Ev : Type} (m : Machine Ev) (k : Pubkey) (a b : Account) :
    (m.write k a).write k b = m.write k b := by
  simp [write]

/-- Writing back what is there changes nothing. -/
theorem Machine.write_ledger {Ev : Type} (m : Machine Ev) (k : Pubkey) :
    m.write k (m.ledger k) = m := by
  rw [write, Function.update_eq_self]

theorem Machine.write_comm {Ev : Type} (m : Machine Ev) {k₁ k₂ : Pubkey} (h : k₁ ≠ k₂)
    (a₁ a₂ : Account) : (m.write k₁ a₁).write k₂ a₂ = (m.write k₂ a₂).write k₁ a₁ := by
  simp only [write, Function.update_comm h]

/-- The machine with one more event. -/
def Machine.emit {Ev : Type} (m : Machine Ev) (p : Pubkey) (ev : Ev) : Machine Ev :=
  { m with events := m.events ++ [(p, ev)] }

@[simp] theorem Machine.ledger_emit {Ev : Type} (m : Machine Ev) (p : Pubkey) (ev : Ev) :
    (m.emit p ev).ledger = m.ledger := rfl

@[simp] theorem Machine.events_emit {Ev : Type} (m : Machine Ev) (p : Pubkey) (ev : Ev) :
    (m.emit p ev).events = m.events ++ [(p, ev)] := rfl

@[simp] theorem Machine.calls_emit {Ev : Type} (m : Machine Ev) (p : Pubkey) (ev : Ev) :
    (m.emit p ev).calls = m.calls := rfl

/-- The machine with one more call on record. -/
def Machine.called {Ev : Type} (m : Machine Ev) (p : Pubkey) (ix : Instruction) : Machine Ev :=
  { m with calls := m.calls ++ [(p, ix)] }

@[simp] theorem Machine.ledger_called {Ev : Type} (m : Machine Ev) (p : Pubkey)
    (ix : Instruction) : (m.called p ix).ledger = m.ledger := rfl

@[simp] theorem Machine.events_called {Ev : Type} (m : Machine Ev) (p : Pubkey)
    (ix : Instruction) : (m.called p ix).events = m.events := rfl

@[simp] theorem Machine.calls_called {Ev : Type} (m : Machine Ev) (p : Pubkey)
    (ix : Instruction) : (m.called p ix).calls = m.calls ++ [(p, ix)] := rfl

/-- The circumstances of one program invocation: who runs, the clock, and how the
runtime carries out an instruction handed to `invoke`. -/
structure Env (ε Ev : Type) where
  program_id : Pubkey
  unix_timestamp : Int64
  call : Instruction → Machine Ev → Except (ProgramError ε) Unit × Machine Ev

/-- A computation of a program. -/
def Exec (ε Ev α : Type) : Type :=
  Env ε Ev → Machine Ev → Except (ProgramError ε) α × Machine Ev

namespace Exec

variable {ε Ev α β : Type}

/-- Sequencing: a failure skips the rest. -/
def bind (x : Exec ε Ev α) (f : α → Exec ε Ev β) : Exec ε Ev β := fun env m =>
  match x env m with
  | (.ok a, m') => f a env m'
  | (.error e, m') => (.error e, m')

instance : Monad (Exec ε Ev) where
  pure a := fun _ m => (.ok a, m)
  bind := bind

/-- A check or a pure computation that may fail. -/
def lift (r : Except (ProgramError ε) α) : Exec ε Ev α := fun _ m => (r, m)

/-- `invoke(&instruction, &account_infos)`. -/
def invoke (ix : Instruction) : Exec ε Ev Unit := fun env m =>
  env.call ix (m.called env.program_id ix)

/-- `emit!(event)`. -/
def emit (ev : Ev) : Exec ε Ev Unit := fun env m => (.ok (), m.emit env.program_id ev)

/-- `set_return_data(data)`. -/
def set_return_data (data : List UInt8) : Exec ε Ev Unit := fun env m =>
  (.ok (), { m with return_data := (env.program_id, data) })

/-- `get_return_data()`: empty return data counts as none. -/
def get_return_data : Exec ε Ev (Option (Pubkey × List UInt8)) := fun _ m =>
  (.ok (if m.return_data.2 = [] then none else some m.return_data), m)

/-- `Clock::get()?.unix_timestamp`. -/
def unix_timestamp : Exec ε Ev Int64 := fun env m => (.ok env.unix_timestamp, m)

/-- The account now stored at a key. -/
def readAccount (k : Pubkey) : Exec ε Ev Account := fun _ m => (.ok (m.ledger k), m)

/-- Replace the account stored at a key. -/
def writeAccount (k : Pubkey) (a : Account) : Exec ε Ev Unit := fun _ m => (.ok (), m.write k a)

/-! ## Evaluation -/

theorem bind_apply (x : Exec ε Ev α) (f : α → Exec ε Ev β) (env : Env ε Ev) (m : Machine Ev) :
    (x >>= f) env m = match x env m with
      | (.ok a, m') => f a env m'
      | (.error e, m') => (.error e, m') := rfl

@[simp] theorem lift_apply (r : Except (ProgramError ε) α) (env : Env ε Ev) (m : Machine Ev) :
    (lift r : Exec ε Ev α) env m = (r, m) := rfl

/-- A sequence succeeds when both parts do, the second from where the first ended. -/
theorem bind_eq_ok {x : Exec ε Ev α} {f : α → Exec ε Ev β} {env : Env ε Ev} {m m' : Machine Ev}
    {b : β} :
    (x >>= f) env m = (.ok b, m') ↔
      ∃ a m₁, x env m = (.ok a, m₁) ∧ f a env m₁ = (.ok b, m') := by
  rw [bind_apply]
  rcases x env m with ⟨_ | a, m₁⟩ <;> simp

@[simp] theorem lift_eq_ok {r : Except (ProgramError ε) α} {env : Env ε Ev} {m m' : Machine Ev}
    {a : α} : (lift r : Exec ε Ev α) env m = (.ok a, m') ↔ r = .ok a ∧ m' = m := by
  rw [lift_apply, Prod.mk.injEq]
  exact and_congr_right fun _ => eq_comm

@[simp] theorem readAccount_eq_ok {k : Pubkey} {a : Account} {env : Env ε Ev}
    {m m' : Machine Ev} :
    (readAccount k : Exec ε Ev Account) env m = (.ok a, m') ↔ a = m.ledger k ∧ m' = m := by
  simp [readAccount, eq_comm]

@[simp] theorem writeAccount_eq_ok {k : Pubkey} {a : Account} {env : Env ε Ev}
    {m m' : Machine Ev} {u : Unit} :
    (writeAccount k a : Exec ε Ev Unit) env m = (.ok u, m') ↔ m' = m.write k a := by
  simp [writeAccount, eq_comm]

@[simp] theorem emit_eq_ok {ev : Ev} {env : Env ε Ev} {m m' : Machine Ev} {u : Unit} :
    (emit ev : Exec ε Ev Unit) env m = (.ok u, m') ↔ m' = m.emit env.program_id ev := by
  simp [emit, eq_comm]

@[simp] theorem unix_timestamp_eq_ok {env : Env ε Ev} {m m' : Machine Ev} {t : Int64} :
    (unix_timestamp : Exec ε Ev Int64) env m = (.ok t, m') ↔ t = env.unix_timestamp ∧ m' = m := by
  simp [unix_timestamp, eq_comm]

/-- A failing check stops the sequence where it stands. -/
theorem bind_lift_error {e : ProgramError ε} (f : α → Exec ε Ev β) (env : Env ε Ev)
    (m : Machine Ev) : ((lift (.error e) : Exec ε Ev α) >>= f) env m = (.error e, m) := rfl

/-- Nothing is left to do after a computation that just returns. -/
theorem bind_pure_right (x : Exec ε Ev α) : x >>= pure = x := by
  funext env m
  rw [bind_apply]
  rcases x env m with ⟨_ | _, _⟩ <;> rfl

theorem bind_assoc_right {γ : Type} (x : Exec ε Ev α) (f : α → Exec ε Ev β)
    (g : β → Exec ε Ev γ) : x >>= f >>= g = x >>= fun a => f a >>= g := by
  funext env m
  rw [bind_apply, bind_apply, bind_apply]
  rcases x env m with ⟨_ | _, _⟩ <;> rfl

instance : LawfulMonad (Exec ε Ev) :=
  LawfulMonad.mk' (Exec ε Ev) bind_pure_right (fun _ _ => rfl) bind_assoc_right

theorem lift_pure (a : α) : (lift (pure a) : Exec ε Ev α) = pure a := rfl

/-- Checks in a row can be lifted one by one. -/
theorem lift_bind (x : Except (ProgramError ε) α) (f : α → Except (ProgramError ε) β) :
    (lift (x >>= f) : Exec ε Ev β) = lift x >>= fun a => lift (f a) := by
  cases x <;> rfl

/-! ## Relating the machine before and after -/

/-- In environment `env`, running `x` relates the machine before to the machine
after by `R`, whether it fails or not. -/
def Within (env : Env ε Ev) (R : Machine Ev → Machine Ev → Prop) (x : Exec ε Ev α) : Prop :=
  ∀ m, R m (x env m).2

namespace Within

variable {env : Env ε Ev} {R : Machine Ev → Machine Ev → Prop}

theorem lift (hrefl : ∀ m, R m m) (r : Except (ProgramError ε) α) :
    Within env R (Exec.lift r : Exec ε Ev α) := fun m => hrefl m

/-- **The sequencing rule.** -/
theorem bind (htrans : ∀ m₁ m₂ m₃, R m₁ m₂ → R m₂ m₃ → R m₁ m₃) {x : Exec ε Ev α}
    {f : α → Exec ε Ev β} (hx : Within env R x) (hf : ∀ a, Within env R (f a)) :
    Within env R (x >>= f) := by
  intro m
  have hxm := hx m
  rw [bind_apply]
  rcases hrun : x env m with ⟨_ | a, m₁⟩
  · rw [hrun] at hxm
    exact hxm
  · rw [hrun] at hxm
    exact htrans _ _ _ hxm (hf a m₁)

end Within

end Exec

/-! ## What other programs may do -/

/-- What a computation that does not involve program `p` may do to the machine:
`p`'s accounts are protected, and nothing it emits or calls is `p`'s. -/
structure Foreign {Ev : Type} (p : Pubkey) (m m' : Machine Ev) : Prop where
  ledger : OwnerFrame p m.ledger m'.ledger
  events : ∃ es, m'.events = m.events ++ es ∧ ∀ e ∈ es, e.1 ≠ p
  calls : ∃ cs, m'.calls = m.calls ++ cs ∧ ∀ c ∈ cs, c.1 ≠ p

namespace Foreign

variable {ε Ev α β : Type} {p : Pubkey}

theorem refl (m : Machine Ev) : Foreign p m m :=
  ⟨.refl _ _, ⟨[], by simp⟩, ⟨[], by simp⟩⟩

theorem trans {m₁ m₂ m₃ : Machine Ev} (h₁ : Foreign p m₁ m₂) (h₂ : Foreign p m₂ m₃) :
    Foreign p m₁ m₃ := by
  obtain ⟨es₁, hes₁, hne₁⟩ := h₁.events
  obtain ⟨es₂, hes₂, hne₂⟩ := h₂.events
  obtain ⟨cs₁, hcs₁, hnc₁⟩ := h₁.calls
  obtain ⟨cs₂, hcs₂, hnc₂⟩ := h₂.calls
  refine ⟨h₁.ledger.trans h₂.ledger, ⟨es₁ ++ es₂, ?_, ?_⟩, ⟨cs₁ ++ cs₂, ?_, ?_⟩⟩
  · rw [hes₂, hes₁, List.append_assoc]
  · intro e he
    rcases List.mem_append.mp he with he | he
    · exact hne₁ e he
    · exact hne₂ e he
  · rw [hcs₂, hcs₁, List.append_assoc]
  · intro c hc
    rcases List.mem_append.mp hc with hc | hc
    · exact hnc₁ c hc
    · exact hnc₂ c hc

variable {env : Env ε Ev}

/-- A program other than `p` may call whatever does not involve `p`. -/
theorem invoke (hself : env.program_id ≠ p) (ix : Instruction)
    (hcall : ∀ m, Foreign p m (env.call ix m).2) :
    Exec.Within env (Foreign p) (Exec.invoke ix : Exec ε Ev Unit) := by
  intro m
  have hrecord : Foreign p m (m.called env.program_id ix) :=
    ⟨.refl _ _, ⟨[], by simp⟩, ⟨[(env.program_id, ix)], rfl, by simpa using hself⟩⟩
  exact hrecord.trans (hcall _)

theorem emit (hself : env.program_id ≠ p) (ev : Ev) :
    Exec.Within env (Foreign p) (Exec.emit ev : Exec ε Ev Unit) := fun m =>
  ⟨.refl _ _, ⟨[(env.program_id, ev)], rfl, by simpa using hself⟩, ⟨[], by simp [Exec.emit]⟩⟩

theorem set_return_data (data : List UInt8) :
    Exec.Within env (Foreign p) (Exec.set_return_data data : Exec ε Ev Unit) := fun _ =>
  ⟨.refl _ _, ⟨[], by simp [Exec.set_return_data]⟩, ⟨[], by simp [Exec.set_return_data]⟩⟩

end Foreign

/-- The programs other than `p`, as far as `p` can tell: any behaviour at all that
does not involve `p`.  No program is re-entered through another one, so this is
what a call to another program amounts to. -/
structure ForeignPrograms (ε Ev : Type) (p : Pubkey) where
  call : Instruction → Machine Ev → Except (ProgramError ε) Unit × Machine Ev
  foreign : ∀ ix m, ix.program_id ≠ p → Foreign p m (call ix m).2

/-! ## Programs and their entry -/

/-- A deployed program: what it does with the accounts and the data of an
instruction. -/
abbrev Program (ε Ev : Type) := List AccountInfo → List UInt8 → Exec ε Ev Unit

/-- The runtime looks for the account of the callee among those of the program that
calls it, and calls nothing that is not there. -/
def findCallee {ε Ev : Type} (accounts : List Pubkey)
    (call : Instruction → Machine Ev → Except (ProgramError ε) Unit × Machine Ev)
    (ix : Instruction) (m : Machine Ev) : Except (ProgramError ε) Unit × Machine Ev :=
  if ix.program_id ∈ accounts then call ix m else (.error .missingAccount, m)

section FindCallee

variable {ε Ev : Type} {accounts : List Pubkey} {ix : Instruction} {m : Machine Ev}
  {call : Instruction → Machine Ev → Except (ProgramError ε) Unit × Machine Ev}

theorem findCallee_of_mem (h : ix.program_id ∈ accounts) :
    findCallee accounts call ix m = call ix m := if_pos h

theorem findCallee_of_not_mem (h : ix.program_id ∉ accounts) :
    findCallee accounts call ix m = (.error .missingAccount, m) := if_neg h

theorem findCallee_congr
    {call' : Instruction → Machine Ev → Except (ProgramError ε) Unit × Machine Ev}
    (h : call ix m = call' ix m) :
    findCallee accounts call ix m = findCallee accounts call' ix m := by
  unfold findCallee
  rw [h]

/-- Where nothing is called, nothing happens. -/
theorem findCallee_related {R : Machine Ev → Machine Ev → Prop} (hrefl : R m m)
    (h : R m (call ix m).2) : R m (findCallee accounts call ix m).2 := by
  by_cases hmem : ix.program_id ∈ accounts
  · rw [findCallee_of_mem hmem]
    exact h
  · rw [findCallee_of_not_mem hmem]
    exact hrefl

end FindCallee

/-- Entering a program through a CPI: the privileges are merged, the accounts are
read, the return data is reset, and what the program can call is among its accounts. -/
def enter {ε Ev : Type} (program : Program ε Ev) (unix_timestamp : Int64)
    (call : Instruction → Machine Ev → Except (ProgramError ε) Unit × Machine Ev)
    (ix : Instruction) (m : Machine Ev) : Except (ProgramError ε) Unit × Machine Ev :=
  program (cpiAccounts m.ledger ix.accounts) ix.data
    ⟨ix.program_id, unix_timestamp, findCallee (ix.accounts.map AccountMeta.pubkey) call⟩
    { m with return_data := (ix.program_id, []) }

/-! ## Transactions -/

/-- What an instruction leaves behind.  `calls` records every instruction that was
handed to `invoke`, also one that the runtime has refused to carry out, and also by an
instruction that failed afterwards. -/
structure Outcome (ε Ev : Type) where
  result : Except (ProgramError ε) Unit
  ledger : Ledger
  events : List (Pubkey × Ev)
  return_data : Pubkey × List UInt8
  calls : List (Pubkey × Instruction)

/-- The machine at the start of an instruction. -/
def Machine.start {Ev : Type} (p : Pubkey) (ℓ : Ledger) : Machine Ev := ⟨ℓ, (p, []), [], []⟩

/-- Running an instruction: on failure its writes and events are discarded. -/
def transact {ε Ev : Type} (x : Exec ε Ev Unit) (env : Env ε Ev) (ℓ : Ledger) : Outcome ε Ev :=
  match x env (Machine.start env.program_id ℓ) with
  | (.ok (), m) => ⟨.ok (), m.ledger, m.events, m.return_data, m.calls⟩
  | (.error e, m) => ⟨.error e, ℓ, [], (env.program_id, []), m.calls⟩

section Transact

variable {ε Ev : Type} {x : Exec ε Ev Unit} {env : Env ε Ev} {ℓ : Ledger}

theorem transact_of_ok {m : Machine Ev}
    (h : x env (Machine.start env.program_id ℓ) = (.ok (), m)) :
    transact x env ℓ = ⟨.ok (), m.ledger, m.events, m.return_data, m.calls⟩ := by
  rw [transact, h]

theorem transact_of_error {e : ProgramError ε} {m : Machine Ev}
    (h : x env (Machine.start env.program_id ℓ) = (.error e, m)) :
    transact x env ℓ = ⟨.error e, ℓ, [], (env.program_id, []), m.calls⟩ := by
  rw [transact, h]

/-- A committed instruction is a successful run. -/
theorem transact_result_ok (h : (transact x env ℓ).result = .ok ()) :
    ∃ m, x env (Machine.start env.program_id ℓ) = (.ok (), m) ∧
      transact x env ℓ = ⟨.ok (), m.ledger, m.events, m.return_data, m.calls⟩ := by
  rcases hrun : x env (Machine.start env.program_id ℓ) with ⟨e | ⟨⟩, m⟩
  · rw [transact_of_error hrun] at h
    exact absurd h (by simp)
  · exact ⟨m, rfl, transact_of_ok hrun⟩

/-- **Atomicity.**  A failed instruction leaves the ledger as it was and commits
no event. -/
theorem transact_of_not_ok (h : (transact x env ℓ).result ≠ .ok ()) :
    (transact x env ℓ).ledger = ℓ ∧ (transact x env ℓ).events = [] := by
  rcases hrun : x env (Machine.start env.program_id ℓ) with ⟨e | ⟨⟩, m⟩
  · rw [transact_of_error hrun]
    exact ⟨rfl, rfl⟩
  · rw [transact_of_ok hrun] at h
    exact absurd rfl h

/-- What holds of the machine at every outcome of a run holds of the ledger after
the transaction, when it survives a rollback. -/
theorem transact_ledger_of_within {R : Ledger → Ledger → Prop} (hrefl : ∀ ℓ, R ℓ ℓ)
    (h : Exec.Within env (fun m m' => R m.ledger m'.ledger) x) :
    R ℓ (transact x env ℓ).ledger := by
  have hrun' := h (Machine.start env.program_id ℓ)
  rcases hrun : x env (Machine.start env.program_id ℓ) with ⟨e | ⟨⟩, m⟩
  · rw [transact_of_error hrun]
    exact hrefl ℓ
  · rw [transact_of_ok hrun]
    rw [hrun] at hrun'
    exact hrun'

end Transact
