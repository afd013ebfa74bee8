/-
# Adapter programs

What the adapters have in common.  An adapter has three entry points.  Its deposit
and withdrawal flows check their input, let the first byte of `extra_data` select
one of the adapter's functions, and hand the instruction which that function
assembles to the protocol, with the remaining accounts as they are: each flow is a
relay.  Its `current_value` reads a number off the remaining accounts.

An adapter is given by its tables and checks (`AdapterProgram`); the modules of the
five reference adapters fill these in.
-/
import YieldAdapter.Interface
import YieldAdapter.Relay

open Solana

/-! ## Entry points -/

/-- `AdapterDepositArgs`, which every adapter declares alike. -/
structure AdapterDepositArgs where
  amount : UInt64
  extra_data : List UInt8
  deriving DecidableEq

/-- `AdapterWithdrawArgs`, which every adapter declares alike. -/
structure AdapterWithdrawArgs where
  amount : UInt64
  extra_data : List UInt8
  deriving DecidableEq

/-- Borsh format of `AdapterDepositArgs`. -/
def AdapterDepositArgs.codec : Codec AdapterDepositArgs :=
  amountDataCodec ⟨fun p => ⟨p.1, p.2⟩, fun a => (a.amount, a.extra_data), fun _ => rfl,
    fun _ => rfl⟩

/-- Borsh format of `AdapterWithdrawArgs`. -/
def AdapterWithdrawArgs.codec : Codec AdapterWithdrawArgs :=
  amountDataCodec ⟨fun p => ⟨p.1, p.2⟩, fun a => (a.amount, a.extra_data), fun _ => rfl,
    fun _ => rfl⟩

/-- An entry point of an adapter with its arguments. -/
inductive AdapterCall where
  | adapter_deposit (args : AdapterDepositArgs)
  | adapter_withdraw (args : AdapterWithdrawArgs)
  | adapter_current_value
  deriving DecidableEq

/-- The dispatch that `#[program]` generates: the call, and the bytes after its
arguments. -/
def AdapterCall.decode (data : List UInt8) : Except Error (AdapterCall × List UInt8) :=
  let disc := data.take 8
  if disc = ADAPTER_DEPOSIT_DISCRIMINATOR then
    match AdapterDepositArgs.codec.decode (data.drop 8) with
    | some (args, rest) => .ok (.adapter_deposit args, rest)
    | none => .error (.anchor .InstructionDidNotDeserialize)
  else if disc = ADAPTER_WITHDRAW_DISCRIMINATOR then
    match AdapterWithdrawArgs.codec.decode (data.drop 8) with
    | some (args, rest) => .ok (.adapter_withdraw args, rest)
    | none => .error (.anchor .InstructionDidNotDeserialize)
  else if disc = ADAPTER_CURRENT_VALUE_DISCRIMINATOR then
    .ok (.adapter_current_value, data.drop 8)
  else if disc = Anchor.EVENT_IX_TAG_LE then .error (.anchor .EventInstructionStub)
  else .error (.anchor .InstructionFallbackNotFound)

/-- A deployed adapter, from what its entry points do.  Bytes after the arguments
are ignored. -/
def adapterEntry (run : List AccountInfo → AdapterCall → Prog Unit) :
    Program YieldError Event := fun accounts data => do
  let call ← Exec.lift (AdapterCall.decode data)
  run accounts call.1

/-! ## Flows -/

/-- `Context`: the one account that every adapter's accounts structs declare, and
the others. -/
structure Context where
  authority : AccountInfo
  remaining_accounts : List AccountInfo

/-- The checks of an accounts struct, with or without `#[account(mut)]`. -/
def Context.try_accounts (authority_mut : Bool) (accounts : List AccountInfo) :
    Except Error Context := do
  let (authority, remaining_accounts) ← Anchor.next_account accounts
  Anchor.signer authority
  Anchor.constraint_mut_if authority_mut authority
  return { authority, remaining_accounts }

theorem Context.try_accounts_eq_ok {authority_mut : Bool} {accounts : List AccountInfo}
    {ctx : Context} :
    Context.try_accounts authority_mut accounts = .ok ctx ↔
      accounts = ctx.authority :: ctx.remaining_accounts ∧ ctx.authority.is_signer = true ∧
        (authority_mut = true → ctx.authority.is_writable = true) := by
  simp only [Context.try_accounts, except_bind_eq_ok, Prod.exists, Anchor.next_account_eq_ok,
    Anchor.signer_eq_ok, Anchor.constraint_mut_if_eq_ok, exists_and_left, exists_const]
  constructor
  · rintro ⟨authority, remaining, rfl, hsigner, hmut, h⟩
    obtain rfl := Except.ok.inj h
    exact ⟨rfl, hsigner, hmut⟩
  · rintro ⟨rfl, hsigner, hmut⟩
    exact ⟨ctx.authority, ctx.remaining_accounts, rfl, hsigner, hmut, rfl⟩

/-- An accounts struct refuses with errors of Anchor. -/
theorem Context.try_accounts_ne_panic {authority_mut : Bool} {accounts : List AccountInfo} :
    Context.try_accounts authority_mut accounts ≠ .error .panic := by
  intro h
  rcases except_bind_eq_error.mp h with hnext | ⟨⟨authority, remaining⟩, -, hchecks⟩
  · exact absurd hnext (Anchor.next_account_ne_panic accounts)
  · rcases except_bind_eq_error.mp hchecks with hsigner | ⟨-, -, hrest⟩
    · exact absurd (require_eq_error.mp hsigner).2 (by simp)
    · rcases except_bind_eq_error.mp hrest with hmut | ⟨-, -, hpure⟩
      · exact absurd hmut (Anchor.constraint_mut_if_ne_panic authority_mut authority)
      · exact absurd hpure (by simp [pure, Except.pure])

/-- What a function of an adapter assembles: the data of the protocol instruction,
and the amount that the event will report. -/
structure Payload where
  data : List UInt8
  amount : UInt64
  deriving DecidableEq

/-- The data that Kamino, MarginFi and Jupiter send: the discriminator, the amount,
the forwarded bytes. -/
def Payload.withAmount (discriminator : List UInt8) (amount : UInt64)
    (extra_data : List UInt8) : Payload where
  data := discriminator ++ Codec.u64.encode amount ++ extra_data
  amount := amount

/-- A deposit or withdrawal flow: its check, and the function that the selector
stands for. -/
structure AdapterFlow where
  authority_mut : Bool
  validate : Context → List UInt8 → Except Error Unit
  dispatch : UInt8 → UInt64 → List UInt8 → Except Error Payload

/-- What is left to report once the protocol has returned. -/
structure Report where
  authority : Pubkey
  amount : UInt64
  deriving DecidableEq

/-- The protocol instruction of a flow. -/
def AdapterFlow.plan (f : AdapterFlow) (PROGRAM_ID : Pubkey) (accounts : List AccountInfo)
    (amount : UInt64) (extra_data : List UInt8) : Except Error (Instruction × Report) := do
  let ctx ← Context.try_accounts f.authority_mut accounts
  f.validate ctx extra_data
  let selector ← indexAt extra_data 0
  let payload ← f.dispatch selector amount extra_data
  return (⟨PROGRAM_ID, ctx.remaining_accounts.map AccountInfo.toMeta, payload.data⟩,
    ⟨ctx.authority.key, payload.amount⟩)

theorem indexAt_zero_eq_ok {ε α : Type} {xs : List α} {x : α} :
    (indexAt xs 0 : Except (ProgramError ε) α) = .ok x ↔ ∃ tail, xs = x :: tail := by
  cases xs <;> simp [indexAt, eq_comm]

/-- **When a flow reaches its protocol**, and with what. -/
theorem AdapterFlow.plan_eq_ok {f : AdapterFlow} {PROGRAM_ID : Pubkey}
    {accounts : List AccountInfo} {amount : UInt64} {extra_data : List UInt8}
    {ix : Instruction} {report : Report} :
    f.plan PROGRAM_ID accounts amount extra_data = .ok (ix, report) ↔
      ∃ ctx selector tail payload,
        Context.try_accounts f.authority_mut accounts = .ok ctx ∧
        f.validate ctx extra_data = .ok () ∧ extra_data = selector :: tail ∧
        f.dispatch selector amount extra_data = .ok payload ∧
        ix = ⟨PROGRAM_ID, ctx.remaining_accounts.map AccountInfo.toMeta, payload.data⟩ ∧
        report = ⟨ctx.authority.key, payload.amount⟩ := by
  simp only [AdapterFlow.plan, except_bind_eq_ok, indexAt_zero_eq_ok]
  constructor
  · rintro ⟨ctx, hctx, ⟨⟩, hvalidate, selector, ⟨tail, rfl⟩, payload, hpayload, h⟩
    obtain ⟨rfl, rfl⟩ := Prod.mk.inj (Except.ok.inj h)
    exact ⟨ctx, selector, tail, payload, hctx, hvalidate, rfl, hpayload, rfl, rfl⟩
  · rintro ⟨ctx, selector, tail, payload, hctx, hvalidate, rfl, hpayload, rfl, rfl⟩
    exact ⟨ctx, hctx, (), hvalidate, selector, ⟨tail, rfl⟩, payload, hpayload, rfl⟩

/-! ## Adapter programs -/

/-- A reference adapter. -/
structure AdapterProgram where
  /-- `declare_id!`. -/
  ID : Pubkey
  /-- The protocol that the adapter calls. -/
  PROGRAM_ID : Pubkey
  deposit : AdapterFlow
  withdraw : AdapterFlow
  /-- Whether the accounts struct of `adapter_current_value` declares `mut`. -/
  current_value_mut : Bool
  /-- What `adapter_current_value` reads. -/
  value : Context → Except Error UInt64

namespace AdapterProgram

variable (A : AdapterProgram)

/-- `AdapterDeposit::adapter_deposit`. -/
def adapter_deposit (accounts : List AccountInfo) (args : AdapterDepositArgs) : Prog Unit :=
  relay (A.deposit.plan A.PROGRAM_ID accounts args.amount args.extra_data) fun report =>
    Exec.emit (.AdapterDepositEvent report.authority A.PROGRAM_ID report.amount)

/-- `AdapterWithdraw::adapter_withdraw`. -/
def adapter_withdraw (accounts : List AccountInfo) (args : AdapterWithdrawArgs) : Prog Unit :=
  relay (A.withdraw.plan A.PROGRAM_ID accounts args.amount args.extra_data) fun report =>
    Exec.emit (.AdapterWithdrawEvent report.authority A.PROGRAM_ID report.amount)

/-- `AdapterCurrentValue::adapter_current_value`. -/
def adapter_current_value (accounts : List AccountInfo) : Prog Unit := do
  let ctx ← Exec.lift (Context.try_accounts A.current_value_mut accounts)
  let current_value ← Exec.lift (A.value ctx)
  set_return_u64 current_value
  Exec.emit (.AdapterCurrentValueEvent ctx.authority.key A.PROGRAM_ID current_value)

/-- The entry points. -/
def run (accounts : List AccountInfo) : AdapterCall → Prog Unit
  | .adapter_deposit args => A.adapter_deposit accounts args
  | .adapter_withdraw args => A.adapter_withdraw accounts args
  | .adapter_current_value => A.adapter_current_value accounts

/-- The deployed program. -/
def entry : Program YieldError Event := adapterEntry A.run

end AdapterProgram
