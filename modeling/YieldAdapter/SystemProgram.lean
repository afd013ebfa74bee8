/-
# The System program

What the System program does to the accounts it is asked to fund, to size and to give
away, as far as it concerns programs that have accounts created: `transfer`,
`allocate`, `assign` and `create_account`.  The caller has seen to the signatures and
the privileges.  What a transaction costs, and the state of its accounts' rent once it
has ended, are no matter of an instruction and left out.
-/
import YieldAdapter.Exec

open Solana

/-- `Rent::minimum_balance`, at the rent of the cluster's genesis. -/
def Rent.minimum_balance (space : ℕ) : ℕ := (128 + space) * 6960

theorem Rent.minimum_balance_pos (space : ℕ) : 0 < minimum_balance space := by
  unfold minimum_balance
  omega

namespace System

variable {ε Ev : Type}

/-! ## The instructions -/

/-- `transfer`: the sender is a plain account that has the lamports. -/
def transfer (sender recipient : Pubkey) (lamports : ℕ) : Exec ε Ev Unit := do
  let paying ← Exec.readAccount sender
  Exec.lift (require (paying.data = []) .invalidArgument)
  Exec.lift (require (lamports ≤ paying.lamports) .resultWithNegativeLamports)
  Exec.lift (require (paying.owner = System.ID ∨ lamports = 0) .externalAccountLamportSpend)
  Exec.writeAccount sender { paying with lamports := paying.lamports - lamports }
  let paid ← Exec.readAccount recipient
  Exec.writeAccount recipient { paid with lamports := paid.lamports + lamports }

/-- `allocate`: zeros, for an account that nobody uses. -/
def allocate (key : Pubkey) (space : ℕ) : Exec ε Ev Unit := do
  let account ← Exec.readAccount key
  Exec.lift (require account.Plain .accountAlreadyInUse)
  Exec.writeAccount key { account with data := List.replicate space 0 }

/-- `assign`, of an account of the System program. -/
def assign (key owner : Pubkey) : Exec ε Ev Unit := do
  let account ← Exec.readAccount key
  Exec.writeAccount key { account with owner := owner }

/-- `create_account`. -/
def create_account (payer key : Pubkey) (lamports space : ℕ) (owner : Pubkey) :
    Exec ε Ev Unit := do
  let account ← Exec.readAccount key
  Exec.lift (require (account.lamports = 0) .accountAlreadyInUse)
  allocate key space
  assign key owner
  transfer payer key lamports

/-! ## An account that comes into being -/

/-- What an account of `space` bytes at `k` lacks in lamports. -/
def rentDue (ℓ : Ledger) (k : Pubkey) (space : ℕ) : ℕ :=
  Rent.minimum_balance space - (ℓ k).lamports

/-- The ledger in which `payer` has paid for an account at `k`, which `owner` owns and
which holds `data`. -/
def created (ℓ : Ledger) (payer k owner : Pubkey) (data : List UInt8) : Ledger :=
  Function.update
    (Function.update ℓ payer
      { ℓ payer with lamports := (ℓ payer).lamports - rentDue ℓ k data.length })
    k ⟨(ℓ k).lamports + rentDue ℓ k data.length, owner, data⟩

/-- `payer` can have an account of `space` bytes created at `k`: nobody uses it, and what
it lacks in lamports can be taken from `payer`. -/
structure Creatable (ℓ : Ledger) (payer k : Pubkey) (space : ℕ) : Prop where
  unused : (ℓ k).Plain
  apart : payer ≠ k
  funded : rentDue ℓ k space = 0 ∨
    ((ℓ payer).Plain ∧ rentDue ℓ k space ≤ (ℓ payer).lamports)

section Created

variable {ℓ : Ledger} {payer k k' owner : Pubkey} {data : List UInt8}

@[simp] theorem created_self :
    created ℓ payer k owner data k =
      ⟨(ℓ k).lamports + rentDue ℓ k data.length, owner, data⟩ := Function.update_self _ _ _

theorem created_payer (h : payer ≠ k) :
    created ℓ payer k owner data payer =
      { ℓ payer with lamports := (ℓ payer).lamports - rentDue ℓ k data.length } := by
  rw [created, Function.update_of_ne h, Function.update_self]

theorem created_of_ne (hk : k' ≠ k) (hpayer : k' ≠ payer) :
    created ℓ payer k owner data k' = ℓ k' := by
  rw [created, Function.update_of_ne hk, Function.update_of_ne hpayer]

/-- Everywhere else, what an account holds is as before. -/
theorem created_holds_of_ne (hk : k' ≠ k) :
    (created ℓ payer k owner data k').owner = (ℓ k').owner ∧
      (created ℓ payer k owner data k').data = (ℓ k').data := by
  by_cases hpayer : k' = payer
  · subst hpayer
    rw [created_payer hk]
    exact ⟨rfl, rfl⟩
  · rw [created_of_ne hk hpayer]
    exact ⟨rfl, rfl⟩

/-- No lamports come from nowhere, and none get lost. -/
theorem lamports_created (h : Creatable ℓ payer k data.length) :
    (created ℓ payer k owner data payer).lamports + (created ℓ payer k owner data k).lamports =
      (ℓ payer).lamports + (ℓ k).lamports := by
  rw [created_payer h.apart, created_self]
  show (ℓ payer).lamports - rentDue ℓ k data.length + ((ℓ k).lamports + rentDue ℓ k data.length) =
    (ℓ payer).lamports + (ℓ k).lamports
  rcases h.funded with hnone | ⟨-, hfunds⟩
  · omega
  · omega

end Created

end System

/-- The machine in which that account has come into being. -/
def Machine.create {Ev : Type} (m : Machine Ev) (payer k owner : Pubkey) (data : List UInt8) :
    Machine Ev := { m with ledger := System.created m.ledger payer k owner data }

@[simp] theorem Machine.ledger_create {Ev : Type} (m : Machine Ev) (payer k owner : Pubkey)
    (data : List UInt8) :
    (m.create payer k owner data).ledger = System.created m.ledger payer k owner data := rfl

/-- It takes one write to the payer and one to the new account. -/
theorem Machine.create_eq_write {Ev : Type} (m : Machine Ev) (payer k owner : Pubkey)
    (data : List UInt8) :
    m.create payer k owner data =
      (m.write payer { m.ledger payer with
          lamports := (m.ledger payer).lamports - System.rentDue m.ledger k data.length }).write k
        ⟨(m.ledger k).lamports + System.rentDue m.ledger k data.length, owner, data⟩ := rfl

namespace System

variable {ε Ev : Type}

/-! ## When the instructions succeed -/

variable {env : Env ε Ev} {m m' : Machine Ev} {payer key owner : Pubkey} {space : ℕ} {u : Unit}

theorem transfer_eq_ok {sender recipient : Pubkey} {lamports : ℕ} (hne : sender ≠ recipient)
    (hpos : 0 < lamports) :
    (transfer sender recipient lamports : Exec ε Ev Unit) env m = (.ok u, m') ↔
      (m.ledger sender).Plain ∧ lamports ≤ (m.ledger sender).lamports ∧
        m' = (m.write sender { m.ledger sender with
            lamports := (m.ledger sender).lamports - lamports }).write recipient
          { m.ledger recipient with lamports := (m.ledger recipient).lamports + lamports } := by
  simp only [transfer, Exec.bind_eq_ok, Exec.readAccount_eq_ok, Exec.writeAccount_eq_ok,
    Exec.lift_eq_ok, require_eq_ok, decide_eq_true_eq, and_assoc, exists_and_left, exists_eq_left,
    exists_const, hpos.ne', or_false, Machine.ledger_write, Function.update_of_ne hne.symm]
  constructor
  · rintro ⟨hdata, hfunds, howner, rfl⟩
    exact ⟨⟨howner, hdata⟩, hfunds, rfl⟩
  · rintro ⟨⟨howner, hdata⟩, hfunds, rfl⟩
    exact ⟨hdata, hfunds, howner, rfl⟩

theorem allocate_eq_ok :
    (allocate key space : Exec ε Ev Unit) env m = (.ok u, m') ↔
      (m.ledger key).Plain ∧
        m' = m.write key { m.ledger key with data := List.replicate space 0 } := by
  simp only [allocate, Exec.bind_eq_ok, Exec.readAccount_eq_ok, Exec.writeAccount_eq_ok,
    Exec.lift_eq_ok, require_eq_ok, decide_eq_true_eq, and_assoc, exists_and_left, exists_eq_left,
    exists_const]

theorem assign_eq_ok :
    (assign key owner : Exec ε Ev Unit) env m = (.ok u, m') ↔
      m' = m.write key { m.ledger key with owner := owner } := by
  simp only [assign, Exec.bind_eq_ok, Exec.readAccount_eq_ok, Exec.writeAccount_eq_ok,
    and_assoc, exists_and_left, exists_eq_left]

theorem create_account_eq_ok {lamports : ℕ} (hpos : 0 < lamports) (hspace : 0 < space) :
    (create_account payer key lamports space owner : Exec ε Ev Unit) env m = (.ok u, m') ↔
      (m.ledger key).lamports = 0 ∧ (m.ledger key).Plain ∧ payer ≠ key ∧
        (m.ledger payer).Plain ∧ lamports ≤ (m.ledger payer).lamports ∧
        m' = (m.write payer { m.ledger payer with
            lamports := (m.ledger payer).lamports - lamports }).write key
          ⟨lamports, owner, List.replicate space 0⟩ := by
  by_cases hne : payer = key
  · -- the payer's account has data by the time it is to pay
    subst hne
    simp only [ne_eq, not_true_eq_false, false_and, and_false, iff_false]
    simp only [create_account, transfer, Exec.bind_eq_ok, allocate_eq_ok, assign_eq_ok,
      Exec.readAccount_eq_ok, Exec.lift_eq_ok, require_eq_ok, decide_eq_true_eq]
    rintro ⟨_, _, -, _, _, -, _, _, ⟨-, rfl⟩, _, _, rfl, _, _, ⟨rfl, rfl⟩, _, _, ⟨hdata, -⟩, -⟩
    simp only [Machine.ledger_write, Function.update_self, List.replicate_eq_nil_iff] at hdata
    omega
  · simp only [create_account, Exec.bind_eq_ok, Exec.readAccount_eq_ok, Exec.lift_eq_ok,
      require_eq_ok, decide_eq_true_eq, allocate_eq_ok, assign_eq_ok, transfer_eq_ok hne hpos,
      and_assoc, exists_and_left, exists_eq_left, exists_const, Machine.ledger_write,
      Function.update_self, Function.update_of_ne hne, Machine.write_write, ne_eq, hne,
      not_false_eq_true, true_and]
    refine and_congr_right fun hempty => and_congr_right fun _ => and_congr_right fun _ =>
      and_congr_right fun _ => ?_
    -- what `allocate` and `assign` have written is written over when the lamports arrive
    rw [hempty, Nat.zero_add, m.write_comm (Ne.symm hne), Machine.write_write]

end System
