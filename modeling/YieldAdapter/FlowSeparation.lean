/-
# Deposits and withdrawals kept apart

Over the same remaining accounts, an adapter never sends its protocol one instruction
both as a deposit and as a withdrawal, with one exception: Kamino's
`deposit_and_withdraw`, which both of its flows offer.  Maple is left out, since its
two flows are one by design.
-/
import YieldAdapter.SelectorTables

open Solana

namespace Dispatcher

/-! ## Discriminators by direction -/

/-- The discriminators that an adapter sends in one direction only. -/
def Direction.discriminators : Direction → Reference → List (List UInt8)
  | .deposit, .kamino =>
      [KaminoAdapter.DEPOSIT_RESERVE_LIQUIDITY_AND_OBLIGATION_COLLATERAL_V2_DISCRIMINATOR,
        KaminoAdapter.DEPOSIT_RESERVE_LIQUIDITY, KaminoAdapter.DEPOSIT_OBLIGATION_COLLATERLA_V2]
  | .withdraw, .kamino =>
      [KaminoAdapter.WITHDRAW_OBLIGATION_COLLATERAL_AND_REDEEM_RESERVE_COLLATERAL_V2,
        KaminoAdapter.REDEEM_RESERVE_COLLATERAL]
  | .deposit, .marginfi => [MarginfiAdapter.LENDING_ACCOUNT_DEPOSIT_DISCRIMINATOR]
  | .withdraw, .marginfi => [MarginfiAdapter.LENDING_ACCOUNT_WITHDRAW_DISCRIMINATOR]
  | .deposit, .jupiter =>
      [JupiterAdapter.DEPOSIT_COLLATERAL_FOR_BORROWS_DISCRIMINATOR,
        JupiterAdapter.ADD_LIQUIDITY2]
  | .withdraw, .jupiter =>
      [JupiterAdapter.WITHDRAW_COLLATERAL_FOR_BORROWS_DISCRIMINATOR,
        JupiterAdapter.REMOVE_LIQUIDITY]
  | _, .maple => []
  | .deposit, .drift =>
      [DriftAdapter.DEPOSIT, DriftAdapter.ADD_INSURANCE_FUND_STAKE,
        DriftAdapter.INITIALIZE_INSURANCE_FUND_STAKE]
  | .withdraw, .drift =>
      [DriftAdapter.WITHDRAW, DriftAdapter.REQUEST_REMOVE_INSURANCE_FUND_STAKE,
        DriftAdapter.REMOVE_INSURANCE_FUND_STAKE]

/-- No discriminator is sent in both directions. -/
theorem discriminators_disjoint (A : Reference) {discriminator : List UInt8}
    (h : discriminator ∈ Direction.deposit.discriminators A) :
    discriminator ∉ Direction.withdraw.discriminators A := by
  have hdisjoint : ∀ bs ∈ Direction.deposit.discriminators A,
      bs ∉ Direction.withdraw.discriminators A := by
    cases A <;> decide
  exact hdisjoint discriminator h

/-- `DEPOSIT_AND_WITHDRAW` belongs to neither direction. -/
theorem deposit_and_withdraw_notMem_discriminators (d : Direction) (A : Reference) :
    KaminoAdapter.DEPOSIT_AND_WITHDRAW ∉ d.discriminators A := by
  cases d <;> cases A <;> decide

/-- The selector of Kamino's `deposit_and_withdraw`. -/
def Direction.depositAndWithdraw : Direction → UInt8
  | .deposit => 3
  | .withdraw => 2

/-! ## The data of each direction -/

section Data

variable {X : ThirdParty} {A : Reference} {amount amount' : UInt64} {selector selector' : UInt8}
  {tail tail' : List UInt8} {payload payload' : Payload}

/-- A row's discriminator belongs to the row's direction, but for the row of
`deposit_and_withdraw`. -/
theorem discriminator_of_mem_table {d : Direction} {entry : SelectorEntry} (hA : A ≠ .maple)
    (h : entry ∈ d.table A) :
    entry.discriminator ∈ d.discriminators A ∨
      A = .kamino ∧ entry = ⟨d.depositAndWithdraw, KaminoAdapter.DEPOSIT_AND_WITHDRAW, true⟩ := by
  have hrows : ∀ e ∈ d.table A, e.discriminator ∈ d.discriminators A ∨
      A = .kamino ∧ e = ⟨d.depositAndWithdraw, KaminoAdapter.DEPOSIT_AND_WITHDRAW, true⟩ := by
    cases A with
    | maple => exact absurd rfl hA
    | _ => cases d <;> decide
  exact hrows entry h

/-- **The discriminator tells the direction**, but for `deposit_and_withdraw`. -/
theorem discriminator_dispatch {d : Direction} (hA : A ≠ .maple)
    (h : (d.flow (A.program X)).dispatch selector amount (selector :: tail) = .ok payload) :
    payload.data.take 8 ∈ d.discriminators A ∨
      A = .kamino ∧ selector = d.depositAndWithdraw ∧
        payload = .withAmount KaminoAdapter.DEPOSIT_AND_WITHDRAW amount tail := by
  by_cases hdrift : A = .drift
  · -- Drift has no table, so its functions are gone through one by one
    subst hdrift
    have hmem : ∀ {discriminator data : List UInt8}, discriminator <+: data →
        discriminator.length = 8 → discriminator ∈ d.discriminators .drift →
          data.take 8 ∈ d.discriminators .drift := by
      intro discriminator data hstart hlength h
      rw [take_of_starts hstart hlength]
      exact h
    cases d with
    | deposit =>
        obtain ⟨-, -, rfl⟩ | ⟨-, rfl⟩ | ⟨-, rfl⟩ :=
          DriftAdapter.AdapterDeposit_dispatch_eq_ok.mp h
        · exact .inl (hmem (((List.prefix_append _ _).trans (List.prefix_append _ _)).trans
            (List.prefix_append _ _)) rfl (by decide))
        · exact .inl (hmem ((List.prefix_append _ _).trans (List.prefix_append _ _)) rfl
            (by decide))
        · exact .inl (hmem (List.prefix_append _ _) rfl (by decide))
    | withdraw =>
        obtain ⟨-, -, rfl⟩ | ⟨-, -, rfl⟩ | ⟨-, -, rfl⟩ :=
          DriftAdapter.AdapterWithdraw_dispatch_eq_ok.mp h
        · exact .inl (hmem (((List.prefix_append _ _).trans (List.prefix_append _ _)).trans
            (List.prefix_append _ _)) rfl (by decide))
        · exact .inl (hmem ((List.prefix_append _ _).trans (List.prefix_append _ _)) rfl
            (by decide))
        · exact .inl (hmem (List.prefix_append _ _) rfl (by decide))
  · obtain ⟨entry, hentry, hselector, rfl⟩ := (dispatch_eq_ok_iff hdrift).mp h
    have hstart := take_of_starts (discriminator_prefix_data A entry amount tail)
      (length_discriminator hentry)
    rcases discriminator_of_mem_table hA hentry with hmem | ⟨rfl, rfl⟩
    · rw [hstart]
      exact .inl hmem
    · exact .inr ⟨rfl, hselector, rfl⟩

/-- **When a deposit sends what a withdrawal sends.** -/
theorem data_eq_iff (hA : A ≠ .maple)
    (h : (A.program X).deposit.dispatch selector amount (selector :: tail) = .ok payload)
    (h' : (A.program X).withdraw.dispatch selector' amount' (selector' :: tail') = .ok payload') :
    payload.data = payload'.data ↔
      A = .kamino ∧ selector = 3 ∧ selector' = 2 ∧ amount = amount' ∧ tail = tail' := by
  constructor
  · intro hdata
    have hboth : ∀ amount tail, (Payload.withAmount KaminoAdapter.DEPOSIT_AND_WITHDRAW amount
        tail).data.take 8 = KaminoAdapter.DEPOSIT_AND_WITHDRAW :=
      fun _ _ => take_of_starts (prefix_withAmount _ _ _) rfl
    -- equal data start with equal discriminators, which only one function shares
    rcases discriminator_dispatch (d := .deposit) hA h with hdeposit | ⟨rfl, rfl, rfl⟩
    · rw [hdata] at hdeposit
      rcases discriminator_dispatch (d := .withdraw) hA h' with hwithdraw | ⟨-, -, rfl⟩
      · exact absurd hwithdraw (discriminators_disjoint A hdeposit)
      · rw [hboth] at hdeposit
        exact absurd hdeposit (deposit_and_withdraw_notMem_discriminators _ A)
    · rcases discriminator_dispatch (d := .withdraw) hA h' with hwithdraw | ⟨-, rfl, rfl⟩
      · rw [← hdata, hboth] at hwithdraw
        exact absurd hwithdraw (deposit_and_withdraw_notMem_discriminators _ _)
      · obtain ⟨hamount, htail⟩ := withAmount_inj hdata
        exact ⟨rfl, rfl, rfl, hamount, htail⟩
  · rintro ⟨rfl, rfl, rfl, rfl, rfl⟩
    have hdeposit : KaminoAdapter.AdapterDeposit.dispatch 3 amount (3 :: tail) =
        .ok (.withAmount KaminoAdapter.DEPOSIT_AND_WITHDRAW amount tail) :=
      KaminoAdapter.AdapterDeposit_dispatch_eq_ok.mpr (.inr (.inr (.inr ⟨rfl, rfl⟩)))
    have hwithdraw : KaminoAdapter.AdapterWithdraw.dispatch 2 amount (2 :: tail) =
        .ok (.withAmount KaminoAdapter.DEPOSIT_AND_WITHDRAW amount tail) :=
      KaminoAdapter.AdapterWithdraw_dispatch_eq_ok.mpr (.inr (.inr ⟨rfl, rfl⟩))
    rw [Except.ok.inj (h.symm.trans hdeposit), Except.ok.inj (h'.symm.trans hwithdraw)]

end Data

/-! ## The two entry points -/

section EntryPoints

variable {X : ThirdParty} {A : Reference} {e e' : Env YieldError Event} {m m' : Machine Event}
  {accounts accounts' : List AccountInfo} {args : AdapterDepositArgs}
  {args' : AdapterWithdrawArgs} {ix ix' : Instruction}

/-- What a deposit hands to `invoke` is what it plans. -/
theorem reaches_adapter_deposit_iff {A : AdapterProgram} (he : e.Records) :
    Reaches (A.adapter_deposit accounts args) e m ix ↔
      ∃ report, A.deposit.plan A.PROGRAM_ID accounts args.amount args.extra_data =
        .ok (ix, report) :=
  reaches_relay_iff (fun _ _ => rfl) he

/-- What a withdrawal hands to `invoke` is what it plans. -/
theorem reaches_adapter_withdraw_iff {A : AdapterProgram} (he : e.Records) :
    Reaches (A.adapter_withdraw accounts args') e m ix ↔
      ∃ report, A.withdraw.plan A.PROGRAM_ID accounts args'.amount args'.extra_data =
        .ok (ix, report) :=
  reaches_relay_iff (fun _ _ => rfl) he

/-- **A deposit is a withdrawal** only where Kamino's `deposit_and_withdraw` is selected
in both directions, with the same amount and the same forwarded bytes. -/
theorem deposit_eq_withdraw_iff (hA : A ≠ .maple) (he : e.Records) (he' : e'.Records)
    (hremaining : accounts.drop 1 = accounts'.drop 1)
    (h : Reaches ((A.program X).adapter_deposit accounts args) e m ix)
    (h' : Reaches ((A.program X).adapter_withdraw accounts' args') e' m' ix') :
    ix = ix' ↔ A = .kamino ∧ args.amount = args'.amount ∧
      ∃ tail, args.extra_data = 3 :: tail ∧ args'.extra_data = 2 :: tail := by
  obtain ⟨report, hplan⟩ := (reaches_adapter_deposit_iff he).mp h
  obtain ⟨report', hplan'⟩ := (reaches_adapter_withdraw_iff he').mp h'
  obtain ⟨ctx, selector, tail, payload, hctx, -, hdata, hdispatch, rfl, -⟩ :=
    AdapterFlow.plan_eq_ok.mp hplan
  obtain ⟨ctx', selector', tail', payload', hctx', -, hdata', hdispatch', rfl, -⟩ :=
    AdapterFlow.plan_eq_ok.mp hplan'
  have hsame : ctx.remaining_accounts = ctx'.remaining_accounts := by
    rw [(Context.try_accounts_eq_ok.mp hctx).1, (Context.try_accounts_eq_ok.mp hctx').1]
      at hremaining
    exact hremaining
  have hiff := data_eq_iff hA (hdata ▸ hdispatch) (hdata' ▸ hdispatch')
  rw [hsame, Instruction.mk.injEq, hdata, hdata']
  simp only [true_and, List.cons.injEq]
  rw [hiff]
  constructor
  · rintro ⟨hkamino, rfl, rfl, hamount, rfl⟩
    exact ⟨hkamino, hamount, tail, ⟨rfl, rfl⟩, rfl, rfl⟩
  · rintro ⟨hkamino, hamount, _, ⟨rfl, rfl⟩, rfl, rfl⟩
    exact ⟨hkamino, rfl, rfl, hamount, rfl⟩

/-- Where every call returns at once. -/
def quietEnv (program_id : Pubkey) : Env YieldError Event :=
  ⟨program_id, 1700000000, fun _ m => (.ok (), m)⟩

theorem records_quietEnv (program_id : Pubkey) : (quietEnv program_id).Records :=
  fun _ _ => ⟨[], (List.append_nil _).symm⟩

/-- An authority, and the account of the program that is to be called. -/
def authorityAnd (callee : Pubkey) : List AccountInfo :=
  [⟨INITIALIZER, true, true, 0, System.ID, []⟩, ⟨callee, false, false, 0, System.ID, []⟩]

/-- With selector 3, a deposit into Kamino sends what a withdrawal with selector 2 does. -/
theorem deposit_eq_withdraw :
    let A := KaminoAdapter.program sampleThirdParty.klend
    ∃ ix, Reaches (A.adapter_deposit (authorityAnd A.PROGRAM_ID) ⟨5, [3, 9]⟩) (quietEnv A.ID)
        (Machine.start A.ID genesis) ix ∧
      Reaches (A.adapter_withdraw (authorityAnd A.PROGRAM_ID) ⟨5, [2, 9]⟩) (quietEnv A.ID)
        (Machine.start A.ID genesis) ix := by
  intro A
  exact ⟨_, (reaches_adapter_deposit_iff (records_quietEnv _)).mpr ⟨_, rfl⟩,
    (reaches_adapter_withdraw_iff (records_quietEnv _)).mpr ⟨_, rfl⟩⟩

/-- Another selector keeps the withdrawal apart. -/
theorem deposit_eq_withdraw_iff_redeem :
    let A := KaminoAdapter.program sampleThirdParty.klend
    ∃ ix ix', Reaches (A.adapter_deposit (authorityAnd A.PROGRAM_ID) ⟨5, [3, 9]⟩) (quietEnv A.ID)
        (Machine.start A.ID genesis) ix ∧
      Reaches (A.adapter_withdraw (authorityAnd A.PROGRAM_ID) ⟨5, [1, 9]⟩) (quietEnv A.ID)
        (Machine.start A.ID genesis) ix' ∧ ix ≠ ix' := by
  intro A
  have hdeposit :
      Reaches (A.adapter_deposit (authorityAnd A.PROGRAM_ID) ⟨5, [3, 9]⟩) (quietEnv A.ID)
        (Machine.start A.ID genesis) _ :=
    (reaches_adapter_deposit_iff (records_quietEnv _)).mpr ⟨_, rfl⟩
  have hwithdraw :
      Reaches (A.adapter_withdraw (authorityAnd A.PROGRAM_ID) ⟨5, [1, 9]⟩) (quietEnv A.ID)
        (Machine.start A.ID genesis) _ :=
    (reaches_adapter_withdraw_iff (records_quietEnv _)).mpr ⟨_, rfl⟩
  refine ⟨_, _, hdeposit, hwithdraw, fun heq => ?_⟩
  obtain ⟨-, -, tail, -, hselector⟩ := (deposit_eq_withdraw_iff (X := sampleThirdParty)
    (A := .kamino) (by decide) (records_quietEnv _) (records_quietEnv _) rfl hdeposit
    hwithdraw).mp heq
  exact absurd (List.cons.inj hselector).1 (by decide)

end EntryPoints

end Dispatcher
