/-
# Through the dispatcher or directly

A call that goes through the dispatcher does what the same call does when its caller makes
it to the adapter directly, and reports it; provided that the adapter's account is passed,
and that the caller is listed once more among the accounts behind the record, as writable.
Without the first the runtime does not find the adapter, and without the second a deposit
or withdrawal fails there, which a direct one need not do.
-/
import YieldAdapter.Environments
import YieldAdapter.EventLog
import YieldAdapter.Forwarding
import YieldAdapter.GenuinePositions

open Solana

/-- The programs called do not depend on the calls on record. -/
def CallsIgnoreRecord (call : Instruction → Machine Event → Except Error Unit × Machine Event) :
    Prop :=
  ∀ ix c m, call ix (m.preceded c) = ((call ix m).1, (call ix m).2.preceded c)

/-- Neither does looking for them. -/
theorem CallsIgnoreRecord.findCallee
    {call : Instruction → Machine Event → Except Error Unit × Machine Event}
    (h : CallsIgnoreRecord call) (accounts : List Pubkey) :
    CallsIgnoreRecord (findCallee accounts call) := by
  intro ix c m
  by_cases hlisted : ix.program_id ∈ accounts
  · rw [findCallee_of_mem hlisted, findCallee_of_mem hlisted]
    exact h ix c m
  · rw [findCallee_of_not_mem hlisted, findCallee_of_not_mem hlisted]

namespace AdapterProgram

variable {A : AdapterProgram} {e : Env YieldError Event}

end AdapterProgram

namespace Dispatcher

section Transparency

variable {C : Crypto} {t : Int64} {A : AdapterProgram} {hA : Separate A} {below : Below A}
  {call : Call} {r : Route} {signer adapter : AccountMeta} {remaining : List AccountMeta}
  {ℓ : Ledger} {ix : Instruction} {ctx : Routed}

/-- The caller comes once more behind the record, as writable. -/
def ListedAgain (signer : AccountMeta) (remaining : List AccountMeta) : Prop :=
  ∃ b ∈ remaining, b.pubkey = signer.pubkey ∧ b.is_writable = true

/-- Where it does, the runtime marks the caller in front as writable. -/
theorem any_writable_iff :
    (remaining.any fun b => b.pubkey = signer.pubkey && b.is_writable) = true ↔
      ListedAgain signer remaining := by
  unfold ListedAgain
  simp only [List.any_eq_true, Bool.and_eq_true, decide_eq_true_eq]

/-- Where it is not, a flow that declares its authority `mut` refuses the call. -/
theorem planBelow_of_not_listed {d : Direction} {amount : UInt64} {extra_data : List UInt8}
    (hmut : (d.flow A).authority_mut = true)
    (hplan : (d.route amount extra_data).planAt C (signer :: adapter :: remaining) ℓ =
      .ok (ix, ctx)) (hnot : ¬ ListedAgain signer remaining) :
    d.planBelow A amount extra_data ix ℓ = .error (.anchor .ConstraintMut) := by
  obtain ⟨_, _, _, haccounts, -, -, -, -, -, -, hix⟩ := Route.planAt_eq_ok.mp hplan
  obtain ⟨rfl, hrest⟩ := List.cons.inj haccounts
  obtain ⟨rfl, rfl⟩ := List.cons.inj hrest
  have hany : (remaining.any fun b => b.pubkey = signer.pubkey && b.is_writable) = false := by
    rw [Bool.eq_false_iff]
    intro htrue
    apply hnot
    exact any_writable_iff.mp htrue
  have hrefused : Context.try_accounts (d.flow A).authority_mut (cpiAccounts ℓ ix.accounts) =
      .error (.anchor .ConstraintMut) := by
    rw [hix, cpiAccounts_new_readonly, hany, hmut]
    rfl
  rw [Direction.planBelow, AdapterFlow.plan, hrefused, except_error_bind]

/-- Every flow of a reference adapter declares its authority `mut`. -/
theorem authority_mut_reference (X : ThirdParty) (A : Reference) (d : Direction) :
    (d.flow (A.program X)).authority_mut = true := by
  cases A <;> cases d <;> rfl

end Transparency

end Dispatcher
