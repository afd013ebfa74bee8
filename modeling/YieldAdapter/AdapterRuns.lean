/-
# Runs of an adapter

A deposit into or a withdrawal from an adapter, run on its own above any programs that
do not re-enter it.  Such a run performs the one instruction that its flow plans, or
fails with the plan and does nothing.  Whether the runtime finds the callee makes no
difference to what is performed.
-/
import YieldAdapter.Deployment
import YieldAdapter.Selectors

open Solana

namespace Dispatcher

variable {A : AdapterProgram} {d : Direction} {t : Int64} {below : Below A}
  {accounts : List AccountInfo} {amount : UInt64} {extra_data : List UInt8} {m : Machine Event}

namespace Direction

/-- The entry point of the direction. -/
def run (A : AdapterProgram) (accounts : List AccountInfo) (amount : UInt64)
    (extra_data : List UInt8) : Direction → Prog Unit
  | .deposit => A.adapter_deposit accounts ⟨amount, extra_data⟩
  | .withdraw => A.adapter_withdraw accounts ⟨amount, extra_data⟩

/-- Its plan. -/
def plan (d : Direction) (A : AdapterProgram) (accounts : List AccountInfo) (amount : UInt64)
    (extra_data : List UInt8) : Except Error (Instruction × Report) :=
  (d.flow A).plan A.PROGRAM_ID accounts amount extra_data

/-- The entry points are relays of their plans. -/
theorem run_eq_relay : d.run A accounts amount extra_data =
    relay (d.plan A accounts amount extra_data) fun report =>
      Exec.emit (d.adapterEvent report.authority A.PROGRAM_ID report.amount) := by
  cases d <;> rfl

end Direction

/-- Where an adapter runs, above `below`. -/
def Below.env (below : Below A) (t : Int64) : Env YieldError Event := ⟨A.ID, t, below.call⟩

/-- Without a plan the adapter does nothing. -/
theorem run_of_plan_error {err : Error} (h : d.plan A accounts amount extra_data = .error err) :
    d.run A accounts amount extra_data (below.env t) m = (.error err, m) := by
  rw [Direction.run_eq_relay]
  exact relay_of_error h

/-- **An adapter performs exactly what it plans**, for its own protocol. -/
theorem performed_run (hA : Separate A) :
    performed (d.run A accounts amount extra_data) (below.env t) m =
      planned (d.plan A accounts amount extra_data) := by
  rw [Direction.run_eq_relay]
  refine performed_relay (fun _ _ => rfl) ?_
  intro ix report m hplan
  obtain ⟨_, _, _, payload, -, -, -, -, rfl, -⟩ := AdapterFlow.plan_eq_ok.mp hplan
  exact (below.foreign _ m hA.PROGRAM_ID_ne hA.PROGRAM_ID_ne_self).2.calls

theorem mem_planned_iff {γ : Type} {plan : Except Error (Instruction × γ)} {ix : Instruction} :
    ix ∈ planned plan ↔ ∃ g, plan = .ok (ix, g) := by
  unfold planned
  rcases plan with err | ⟨ix', g⟩
  · simp
  · simp [eq_comm]

theorem planned_eq_nil_iff {γ : Type} {plan : Except Error (Instruction × γ)} :
    planned plan = [] ↔ ∃ err, plan = .error err := by
  unfold planned
  rcases plan with err | p
  · simp
  · simp

/-! ## Checks -/

/-- What an adapter asks of the authority and of the other accounts. -/
def AccountsOk (ctx : Context) : Reference → Prop
  | .jupiter => ctx.authority.key ≠ Pubkey.default ∧ ctx.remaining_accounts.length = 14
  | .maple => 18 ≤ ctx.remaining_accounts.length ∧
      ∃ account, ctx.remaining_accounts[3]? = some account ∧
        account.key = ctx.authority.key ∧ account.is_signer = true
  | _ => ctx.authority.key ≠ Pubkey.default

section Check

variable {X : ThirdParty} {A : Reference} {ctx : Context}

theorem validate_eq_ok_iff :
    (d.flow (A.program X)).validate ctx extra_data = .ok () ↔
      extra_data ≠ [] ∧ AccountsOk ctx A := by
  cases A with
  | kamino =>
      have hiff : validateAuthority ctx extra_data = .ok () ↔ _ := validateAuthority_eq_ok
      cases d <;> exact hiff.trans and_comm
  | marginfi =>
      have hiff : validateAuthority ctx extra_data = .ok () ↔ _ := validateAuthority_eq_ok
      cases d <;> exact hiff.trans and_comm
  | jupiter =>
      have hiff : JupiterAdapter.validate ctx extra_data = .ok () ↔
          extra_data ≠ [] ∧ AccountsOk ctx .jupiter := by
        rw [JupiterAdapter.validate_eq_ok, ← and_assoc, and_comm]
        rfl
      cases d <;> exact hiff
  | maple => cases d <;> exact MapleAdapter.validate_eq_ok
  | drift =>
      have hiff : validateAuthority ctx extra_data = .ok () ↔ _ := validateAuthority_eq_ok
      cases d <;> exact hiff.trans and_comm

/-- Checks fail with errors of the adapter, and never panic. -/
theorem failsProperly_validate :
    FailsProperly ((d.flow (A.program X)).validate ctx extra_data) := by
  cases A with
  | kamino => cases d <;> exact failsProperly_validateAuthority
  | marginfi => cases d <;> exact failsProperly_validateAuthority
  | jupiter => cases d <;> exact JupiterAdapter.failsProperly_validate
  | maple => cases d <;> exact MapleAdapter.failsProperly_validate
  | drift => cases d <;> exact failsProperly_validateAuthority

end Check

/-! ## Plans -/

section Plan

variable {f : AdapterFlow} {PROGRAM_ID : Pubkey} {ctx : Context}

/-- A plan behind the accounts struct. -/
theorem plan_of_try_accounts (hctx : Context.try_accounts f.authority_mut accounts = .ok ctx) :
    f.plan PROGRAM_ID accounts amount extra_data = (do
      f.validate ctx extra_data
      let selector ← indexAt extra_data 0
      let payload ← f.dispatch selector amount extra_data
      return (⟨PROGRAM_ID, ctx.remaining_accounts.map AccountInfo.toMeta, payload.data⟩,
        ⟨ctx.authority.key, payload.amount⟩)) := by
  rw [AdapterFlow.plan, hctx]
  rfl

/-- **How a plan can fail** behind the accounts struct: in the check, for want of a
selector, or in the function that the selector stands for. -/
theorem plan_eq_error (hctx : Context.try_accounts f.authority_mut accounts = .ok ctx)
    {err : Error} :
    f.plan PROGRAM_ID accounts amount extra_data = .error err ↔
      f.validate ctx extra_data = .error err ∨
      f.validate ctx extra_data = .ok () ∧
        (extra_data = [] ∧ err = .panic ∨ ∃ selector tail, extra_data = selector :: tail ∧
          f.dispatch selector amount extra_data = .error err) := by
  rw [plan_of_try_accounts hctx, except_bind_eq_error]
  refine or_congr_right ?_
  -- once the check has passed, the first thing done is to index the selector
  rcases extra_data with _ | ⟨selector, tail⟩
  · have hindex : (indexAt ([] : List UInt8) 0 : Except Error UInt8) = .error .panic := rfl
    rw [hindex]
    constructor
    · rintro ⟨⟨⟩, hvalidate, herr⟩
      exact ⟨hvalidate, .inl ⟨rfl, (Except.error.inj herr).symm⟩⟩
    · rintro ⟨hvalidate, ⟨-, rfl⟩ | ⟨_, _, hcons, -⟩⟩
      · exact ⟨(), hvalidate, rfl⟩
      · exact absurd hcons (by simp)
  · have hindex : (indexAt (selector :: tail) 0 : Except Error UInt8) = .ok selector := rfl
    rw [hindex]
    constructor
    · rintro ⟨⟨⟩, hvalidate, hrest⟩
      change f.dispatch selector amount (selector :: tail) >>= _ = _ at hrest
      rcases except_bind_eq_error.mp hrest with hdispatch | ⟨_, -, hpure⟩
      · exact ⟨hvalidate, .inr ⟨selector, tail, rfl, hdispatch⟩⟩
      · exact absurd hpure (by simp [pure, Except.pure])
    · rintro ⟨hvalidate, ⟨hnil, -⟩ | ⟨_, _, hcons, hdispatch⟩⟩
      · exact absurd hnil (by simp)
      · obtain ⟨rfl, rfl⟩ := List.cons.inj hcons
        refine ⟨(), hvalidate, ?_⟩
        show f.dispatch selector amount (selector :: tail) >>= _ = _
        exact except_bind_eq_error.mpr (.inl hdispatch)

end Plan

end Dispatcher
