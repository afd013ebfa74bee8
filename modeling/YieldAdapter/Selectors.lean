/-
# Selectors

What each adapter checks before it looks at the selector, and what each selector stands
for: the data that the protocol is sent, given the amount and the bytes behind the
selector, and the amount that is reported.
-/
import YieldAdapter.ReferenceAdapters

open Solana

/-! ## Failures -/

/-- Whatever fails, fails with an error of the adapter. -/
def FailsProperly {α : Type} (x : Except Error α) : Prop :=
  ∀ err, x = .error err → ∃ e, err = adapterError e

namespace FailsProperly

variable {α β : Type}

theorem ok (a : α) : FailsProperly (.ok a) := by
  intro err h
  exact absurd h (by simp)

theorem error (e : AdapterError) : FailsProperly (.error (adapterError e) : Except Error α) := by
  intro err h
  exact ⟨e, (Except.error.inj h).symm⟩

theorem require (cond : Bool) (e : AdapterError) :
    FailsProperly (require cond (adapterError e)) := by
  intro err h
  exact ⟨e, (require_eq_error.mp h).2.symm⟩

/-- One thing after another. -/
theorem bind {x : Except Error α} {f : α → Except Error β} (hx : FailsProperly x)
    (hf : ∀ a, x = .ok a → FailsProperly (f a)) : FailsProperly (x >>= f) := by
  intro err h
  rcases except_bind_eq_error.mp h with herr | ⟨a, ha, herr⟩
  · exact hx err herr
  · exact hf a ha err herr

/-- One thing or another. -/
theorem ite {c : Prop} [Decidable c] {x y : Except Error α} (hx : FailsProperly x)
    (hy : FailsProperly y) : FailsProperly (if c then x else y) := by
  by_cases hc : c
  · rw [if_pos hc]
    exact hx
  · rw [if_neg hc]
    exact hy

end FailsProperly

/-! ## Checks -/

section Checks

variable {ctx : Context} {extra_data : List UInt8}

theorem indexAt_eq_ok {ε α : Type} {xs : List α} {i : ℕ} {x : α} :
    (indexAt xs i : Except (ProgramError ε) α) = .ok x ↔ xs[i]? = some x := by
  unfold indexAt
  rcases xs[i]? with _ | y
  · simp
  · simp

theorem failsProperly_validateAuthority : FailsProperly (validateAuthority ctx extra_data) :=
  .bind (.require _ _) fun _ _ => .require _ _

theorem validateAuthority_eq_ok :
    validateAuthority ctx extra_data = .ok () ↔
      ctx.authority.key ≠ Pubkey.default ∧ extra_data ≠ [] := by
  simp only [validateAuthority, except_bind_eq_ok, require_eq_ok, exists_const]
  simp

theorem JupiterAdapter.failsProperly_validate :
    FailsProperly (JupiterAdapter.validate ctx extra_data) :=
  .bind (.require _ _) fun _ _ => .bind (.require _ _) fun _ _ => .require _ _

theorem JupiterAdapter.validate_eq_ok :
    JupiterAdapter.validate ctx extra_data = .ok () ↔
      ctx.authority.key ≠ Pubkey.default ∧ ctx.remaining_accounts.length = 14 ∧
        extra_data ≠ [] := by
  simp only [JupiterAdapter.validate, except_bind_eq_ok, require_eq_ok, exists_const]
  simp

/-- Maple counts the accounts before it looks at the fourth. -/
theorem MapleAdapter.failsProperly_validate :
    FailsProperly (MapleAdapter.validate ctx extra_data) := by
  refine .bind (.require _ _) fun _ _ => .bind (.require _ _) fun _ hcount => ?_
  have hlength : 18 ≤ ctx.remaining_accounts.length := by
    simpa using require_eq_ok.mp hcount
  refine .bind ?_ fun account _ => .bind (.require _ _) fun _ _ => .require _ _
  intro err hindex
  obtain ⟨hshort, -⟩ := indexAt_eq_error.mp hindex
  omega

theorem MapleAdapter.validate_eq_ok :
    MapleAdapter.validate ctx extra_data = .ok () ↔
      extra_data ≠ [] ∧ 18 ≤ ctx.remaining_accounts.length ∧
        ∃ account, ctx.remaining_accounts[3]? = some account ∧
          account.key = ctx.authority.key ∧ account.is_signer = true := by
  simp only [MapleAdapter.validate, except_bind_eq_ok, require_eq_ok, exists_const, indexAt_eq_ok]
  simp

end Checks

/-! ## Shapes of functions -/

theorem sliceFrom_one_cons {ε α : Type} (x : α) (xs : List α) :
    (sliceFrom (x :: xs) 1 : Except (ProgramError ε) (List α)) = .ok xs := by
  simp [sliceFrom]

theorem sliceFrom_three_cons_eq_ok {ε α : Type} {x : α} {xs tail : List α} :
    (sliceFrom (x :: xs) 3 : Except (ProgramError ε) (List α)) = .ok tail ↔
      2 ≤ xs.length ∧ tail = xs.drop 2 := by
  by_cases h : 2 ≤ xs.length <;> simp [sliceFrom, h, eq_comm]

theorem slice_one_three_cons_eq_ok {ε α : Type} {x : α} {xs market : List α} :
    (slice (x :: xs) 1 3 : Except (ProgramError ε) (List α)) = .ok market ↔
      2 ≤ xs.length ∧ market = xs.take 2 := by
  by_cases h : 2 ≤ xs.length <;> simp [slice, h, eq_comm]

section Shapes

variable {discriminator tail : List UInt8} {amount : UInt64} {selector : UInt8}
  {payload : Payload}

theorem sendAmountAndTail_cons :
    sendAmountAndTail discriminator amount (selector :: tail) =
      .ok (.withAmount discriminator amount tail) := by
  rw [sendAmountAndTail, sliceFrom_one_cons]
  rfl

theorem DriftAdapter.sendMarketAmountTail_cons_eq_ok :
    DriftAdapter.sendMarketAmountTail discriminator amount (selector :: tail) = .ok payload ↔
      2 ≤ tail.length ∧ payload = ⟨discriminator ++ tail.take 2 ++ Codec.u64.encode amount ++
        tail.drop 2, amount⟩ := by
  simp only [DriftAdapter.sendMarketAmountTail, except_bind_eq_ok, slice_one_three_cons_eq_ok,
    sliceFrom_three_cons_eq_ok]
  constructor
  · rintro ⟨_, ⟨hlength, rfl⟩, _, ⟨-, rfl⟩, h⟩
    exact ⟨hlength, (Except.ok.inj h).symm⟩
  · rintro ⟨hlength, rfl⟩
    exact ⟨_, ⟨hlength, rfl⟩, _, ⟨hlength, rfl⟩, rfl⟩

end Shapes

/-! ## Kamino -/

namespace KaminoAdapter

variable {tail : List UInt8} {amount : UInt64} {selector : UInt8} {payload : Payload}

theorem AdapterDeposit_dispatch_eq_ok :
    AdapterDeposit.dispatch selector amount (selector :: tail) = .ok payload ↔
      selector = 0 ∧ payload = .withAmount
        DEPOSIT_RESERVE_LIQUIDITY_AND_OBLIGATION_COLLATERAL_V2_DISCRIMINATOR amount [] ∨
      selector = 1 ∧ payload = .withAmount DEPOSIT_RESERVE_LIQUIDITY amount [] ∨
      selector = 2 ∧ payload = .withAmount DEPOSIT_OBLIGATION_COLLATERLA_V2 amount [] ∨
      selector = 3 ∧ payload = .withAmount DEPOSIT_AND_WITHDRAW amount tail := by
  simp only [AdapterDeposit, deposit_and_withdraw, sendAmountAndTail_cons]
  constructor
  · intro h
    split_ifs at h with h0 h1 h2 h3
    · exact .inl ⟨h0, (Except.ok.inj h).symm⟩
    · exact .inr (.inl ⟨h1, (Except.ok.inj h).symm⟩)
    · exact .inr (.inr (.inl ⟨h2, (Except.ok.inj h).symm⟩))
    · exact .inr (.inr (.inr ⟨h3, (Except.ok.inj h).symm⟩))
  · rintro (⟨rfl, rfl⟩ | ⟨rfl, rfl⟩ | ⟨rfl, rfl⟩ | ⟨rfl, rfl⟩) <;> rfl

theorem AdapterWithdraw_dispatch_eq_ok :
    AdapterWithdraw.dispatch selector amount (selector :: tail) = .ok payload ↔
      selector = 0 ∧ payload = .withAmount
        WITHDRAW_OBLIGATION_COLLATERAL_AND_REDEEM_RESERVE_COLLATERAL_V2 amount [] ∨
      selector = 1 ∧ payload = .withAmount REDEEM_RESERVE_COLLATERAL amount tail ∨
      selector = 2 ∧ payload = .withAmount DEPOSIT_AND_WITHDRAW amount tail := by
  simp only [AdapterWithdraw, redeem_reserve_collateral, deposit_and_withdraw,
    sendAmountAndTail_cons]
  constructor
  · intro h
    split_ifs at h with h0 h1 h2
    · exact .inl ⟨h0, (Except.ok.inj h).symm⟩
    · exact .inr (.inl ⟨h1, (Except.ok.inj h).symm⟩)
    · exact .inr (.inr ⟨h2, (Except.ok.inj h).symm⟩)
  · rintro (⟨rfl, rfl⟩ | ⟨rfl, rfl⟩ | ⟨rfl, rfl⟩) <;> rfl

end KaminoAdapter

/-! ## MarginFi -/

namespace MarginfiAdapter

variable {tail : List UInt8} {amount : UInt64} {selector : UInt8} {payload : Payload}

theorem AdapterDeposit_dispatch_eq_ok :
    AdapterDeposit.dispatch selector amount (selector :: tail) = .ok payload ↔
      selector = 0 ∧
        payload = .withAmount LENDING_ACCOUNT_DEPOSIT_DISCRIMINATOR amount tail := by
  simp only [AdapterDeposit, lending_account_deposit, sendAmountAndTail_cons]
  constructor
  · intro h
    split_ifs at h with h0
    exact ⟨h0, (Except.ok.inj h).symm⟩
  · rintro ⟨rfl, rfl⟩
    rfl

theorem AdapterWithdraw_dispatch_eq_ok :
    AdapterWithdraw.dispatch selector amount (selector :: tail) = .ok payload ↔
      selector = 0 ∧
        payload = .withAmount LENDING_ACCOUNT_WITHDRAW_DISCRIMINATOR amount tail := by
  simp only [AdapterWithdraw, lending_account_withdraw, sendAmountAndTail_cons]
  constructor
  · intro h
    split_ifs at h with h0
    exact ⟨h0, (Except.ok.inj h).symm⟩
  · rintro ⟨rfl, rfl⟩
    rfl

end MarginfiAdapter

/-! ## Jupiter -/

namespace JupiterAdapter

variable {tail : List UInt8} {amount : UInt64} {selector : UInt8} {payload : Payload}

theorem AdapterDeposit_dispatch_eq_ok :
    AdapterDeposit.dispatch selector amount (selector :: tail) = .ok payload ↔
      selector = 0 ∧
        payload = .withAmount DEPOSIT_COLLATERAL_FOR_BORROWS_DISCRIMINATOR amount [] ∨
      selector = 1 ∧ payload = .withAmount ADD_LIQUIDITY2 amount tail := by
  simp only [AdapterDeposit, add_liquidity2, sendAmountAndTail_cons]
  constructor
  · intro h
    split_ifs at h with h0 h1
    · exact .inl ⟨h0, (Except.ok.inj h).symm⟩
    · exact .inr ⟨h1, (Except.ok.inj h).symm⟩
  · rintro (⟨rfl, rfl⟩ | ⟨rfl, rfl⟩) <;> rfl

theorem AdapterWithdraw_dispatch_eq_ok :
    AdapterWithdraw.dispatch selector amount (selector :: tail) = .ok payload ↔
      selector = 0 ∧
        payload = .withAmount WITHDRAW_COLLATERAL_FOR_BORROWS_DISCRIMINATOR amount [] ∨
      selector = 1 ∧ payload = .withAmount REMOVE_LIQUIDITY amount tail := by
  simp only [AdapterWithdraw, remove_liquidity, sendAmountAndTail_cons]
  constructor
  · intro h
    split_ifs at h with h0 h1
    · exact .inl ⟨h0, (Except.ok.inj h).symm⟩
    · exact .inr ⟨h1, (Except.ok.inj h).symm⟩
  · rintro (⟨rfl, rfl⟩ | ⟨rfl, rfl⟩) <;> rfl

end JupiterAdapter

/-! ## Maple -/

namespace MapleAdapter

variable {tail : List UInt8} {amount : UInt64} {selector : UInt8} {payload : Payload}

theorem AdapterDeposit_dispatch_eq_ok :
    AdapterDeposit.dispatch selector amount (selector :: tail) = .ok payload ↔
      selector = 0 ∧ payload = ⟨CCIP_SEND ++ tail, amount⟩ := by
  simp only [AdapterDeposit, ccip_send, sliceFrom_one_cons]
  constructor
  · intro h
    split_ifs at h with h0
    exact ⟨h0, (Except.ok.inj h).symm⟩
  · rintro ⟨rfl, rfl⟩
    rfl

theorem AdapterWithdraw_dispatch_eq_ok :
    AdapterWithdraw.dispatch selector amount (selector :: tail) = .ok payload ↔
      selector = 0 ∧ payload = ⟨CCIP_SEND ++ tail, amount⟩ := AdapterDeposit_dispatch_eq_ok

end MapleAdapter

/-! ## Drift -/

namespace DriftAdapter

variable {tail : List UInt8} {amount : UInt64} {selector : UInt8} {payload : Payload}

theorem AdapterDeposit_dispatch_eq_ok :
    AdapterDeposit.dispatch selector amount (selector :: tail) = .ok payload ↔
      selector = 0 ∧ 2 ≤ tail.length ∧ payload = ⟨DEPOSIT ++ tail.take 2 ++
        Codec.u64.encode amount ++ tail.drop 2, amount⟩ ∨
      selector = 1 ∧
        payload = ⟨ADD_INSURANCE_FUND_STAKE ++ tail ++ Codec.u64.encode amount, amount⟩ ∨
      selector = 2 ∧ payload = ⟨INITIALIZE_INSURANCE_FUND_STAKE ++ tail, 0⟩ := by
  simp only [AdapterDeposit, deposit, add_insurance_fund_stake, initialize_insurance_fund_stake,
    sliceFrom_one_cons]
  constructor
  · intro h
    split_ifs at h with h0 h1 h2
    · exact .inl ⟨h0, sendMarketAmountTail_cons_eq_ok.mp h⟩
    · exact .inr (.inl ⟨h1, (Except.ok.inj h).symm⟩)
    · exact .inr (.inr ⟨h2, (Except.ok.inj h).symm⟩)
  · rintro (⟨rfl, h⟩ | ⟨rfl, rfl⟩ | ⟨rfl, rfl⟩)
    · exact sendMarketAmountTail_cons_eq_ok.mpr h
    · rfl
    · rfl

theorem AdapterWithdraw_dispatch_eq_ok :
    AdapterWithdraw.dispatch selector amount (selector :: tail) = .ok payload ↔
      selector = 0 ∧ 2 ≤ tail.length ∧ payload = ⟨WITHDRAW ++ tail.take 2 ++
        Codec.u64.encode amount ++ tail.drop 2, amount⟩ ∨
      selector = 1 ∧ 2 ≤ tail.length ∧ payload = ⟨REQUEST_REMOVE_INSURANCE_FUND_STAKE ++
        tail.take 2 ++ Codec.u64.encode amount, amount⟩ ∨
      selector = 2 ∧ 2 ≤ tail.length ∧
        payload = ⟨REMOVE_INSURANCE_FUND_STAKE ++ tail.take 2, 0⟩ := by
  simp only [AdapterWithdraw, withdraw, request_remove_insurance_fund_stake,
    remove_insurance_fund_stake]
  constructor
  · intro h
    split_ifs at h with h0 h1 h2
    · exact .inl ⟨h0, sendMarketAmountTail_cons_eq_ok.mp h⟩
    · obtain ⟨_, hmarket, hpayload⟩ := except_bind_eq_ok.mp h
      obtain ⟨hlength, rfl⟩ := slice_one_three_cons_eq_ok.mp hmarket
      exact .inr (.inl ⟨h1, hlength, (Except.ok.inj hpayload).symm⟩)
    · obtain ⟨_, hmarket, hpayload⟩ := except_bind_eq_ok.mp h
      obtain ⟨hlength, rfl⟩ := slice_one_three_cons_eq_ok.mp hmarket
      exact .inr (.inr ⟨h2, hlength, (Except.ok.inj hpayload).symm⟩)
  · rintro (⟨rfl, h⟩ | ⟨rfl, hlength, rfl⟩ | ⟨rfl, hlength, rfl⟩)
    · exact sendMarketAmountTail_cons_eq_ok.mpr h
    · exact except_bind_eq_ok.mpr ⟨_, slice_one_three_cons_eq_ok.mpr ⟨hlength, rfl⟩, rfl⟩
    · exact except_bind_eq_ok.mpr ⟨_, slice_one_three_cons_eq_ok.mpr ⟨hlength, rfl⟩, rfl⟩

end DriftAdapter
