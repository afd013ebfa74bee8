/-
# The instructions of the dispatcher

The six handlers, each with the checks of its accounts struct, in the order in
which they are carried out: the fields are read off the account list, `init`
creates its account, the remaining constraints are checked, the handler runs, and
the accounts marked `mut` are written back.

`deposit`, `withdraw` and `current_value` only read the record they are given.
They settle on one instruction for the adapter, so each is a relay.
-/
import YieldAdapter.DispatcherState

open Solana

namespace Dispatcher

variable (C : Crypto)

/-! ## Setting up -/

/-- `RegistryInit::registry_init`. -/
def registry_init (accounts : List AccountInfo) : Prog Unit := do
  let (initializer, accounts) ← Exec.lift (Anchor.next_account accounts)
  Exec.lift (Anchor.signer initializer)
  let (registry, accounts) ← Exec.lift (Anchor.next_account accounts)
  let (system_program, _) ← Exec.lift (Anchor.next_account accounts)
  Exec.lift (Anchor.program System.ID system_program)
  let bump ← Exec.lift (Anchor.constraint_seeds_find C Registry.seeds ID registry)
  Anchor.init Registry.accountType ID initializer registry
  Exec.lift (Anchor.constraint_mut initializer)
  Exec.lift (Anchor.constraint_key initializer.key INITIALIZER (dispatcherError .Unauthorized))
  let inner : Registry := { initializer := initializer.key, bump := bump }
  Exec.lift inner.invariant
  Anchor.exit Registry.accountType registry.key inner

/-- `AdapterInitArgs`. -/
structure AdapterInitArgs where
  authority : Pubkey
  program_id : Pubkey
  supported_mint : Pubkey
  status : UInt8
  deriving DecidableEq

/-- Borsh format of `AdapterInitArgs`. -/
def AdapterInitArgs.codec : Codec AdapterInitArgs :=
  Codec.imap (.pair Pubkey.codec (.pair Pubkey.codec (.pair Pubkey.codec .u8)))
    ⟨fun p => ⟨p.1, p.2.1, p.2.2.1, p.2.2.2⟩,
      fun a => (a.authority, a.program_id, a.supported_mint, a.status), fun _ => rfl, fun _ => rfl⟩

/-- `AdapterInit::validate`. -/
def AdapterInitArgs.validate (args : AdapterInitArgs) : Except Error Unit :=
  require (AdapterStatus.from_u8 args.status).isSome (dispatcherError .InvalidStatus)

/-- The record that `args` describe. -/
def AdapterInitArgs.record (args : AdapterInitArgs) (registered_at : Int64) (bump : UInt8) :
    Adapter where
  authority := args.authority
  program_id := args.program_id
  supported_mint := args.supported_mint
  status := args.status
  registered_at := registered_at
  bump := bump

/-- `AdapterInit::adapter_init`. -/
def adapter_init (accounts : List AccountInfo) (args : AdapterInitArgs) : Prog Unit := do
  let (initializer, accounts) ← Exec.lift (Anchor.next_account accounts)
  Exec.lift (Anchor.signer initializer)
  let (adapter, accounts) ← Exec.lift (Anchor.next_account accounts)
  let (registry_info, accounts) ← Exec.lift (Anchor.next_account accounts)
  let registry ← Exec.lift (Anchor.account Registry.accountType ID registry_info)
  let (system_program, _) ← Exec.lift (Anchor.next_account accounts)
  Exec.lift (Anchor.program System.ID system_program)
  let bump ← Exec.lift
    (Anchor.constraint_seeds_find C (Adapter.seeds args.program_id args.authority) ID adapter)
  Anchor.init Adapter.accountType ID initializer adapter
  Exec.lift (Anchor.constraint_mut initializer)
  Exec.lift (Anchor.constraint_seeds C Registry.seeds registry.bump ID registry_info)
  Exec.lift
    (Anchor.constraint_key registry.initializer initializer.key (dispatcherError .Unauthorized))
  Exec.lift args.validate
  let registered_at ← Exec.unix_timestamp
  let inner := args.record registered_at bump
  Exec.lift inner.invariant
  Anchor.exit Adapter.accountType adapter.key inner

/-! ## Toggling -/

/-- The status after a toggle. -/
def nextStatus : AdapterStatus → Except Error AdapterStatus
  | .Active => .ok .Paused
  | .Paused => .ok .Active
  | .Deprecated => .error (dispatcherError .Deprecated)

/-- `ToggleAdapter::toggle_adapter`. -/
def toggle_adapter (accounts : List AccountInfo) : Prog Unit := do
  let (authority, accounts) ← Exec.lift (Anchor.next_account accounts)
  Exec.lift (Anchor.signer authority)
  let (info, _) ← Exec.lift (Anchor.next_account accounts)
  let adapter ← Exec.lift (Anchor.account Adapter.accountType ID info)
  Exec.lift (Anchor.constraint_mut authority)
  Exec.lift (Anchor.constraint_seeds C (Adapter.seeds adapter.program_id adapter.authority)
    adapter.bump ID info)
  Exec.lift (Anchor.constraint_mut info)
  Exec.lift
    (Anchor.constraint_key adapter.authority authority.key (dispatcherError .Unauthorized))
  let status ← Exec.lift adapter.readStatus
  let next_status ← Exec.lift (nextStatus status)
  let adapter := { adapter with status := next_status.as_u8 }
  Exec.emit (.ToggleEvent authority.key info.key adapter.program_id adapter.status)
  Anchor.exit Adapter.accountType info.key adapter

/-! ## Routing -/

/-- The accounts of a routed call: `struct Deposit`, `Withdraw` and `CurrentValue`. -/
structure Routed where
  signer : AccountInfo
  adapter_info : AccountInfo
  adapter : Adapter
  remaining_accounts : List AccountInfo

/-- The checks of `struct Deposit`, `Withdraw` and `CurrentValue`, which are alike. -/
def Routed.try_accounts (accounts : List AccountInfo) : Except Error Routed := do
  let (signer, accounts) ← Anchor.next_account accounts
  Anchor.signer signer
  let (adapter_info, remaining_accounts) ← Anchor.next_account accounts
  let adapter ← Anchor.account Adapter.accountType ID adapter_info
  Anchor.constraint_mut signer
  Anchor.constraint_seeds C (Adapter.seeds adapter.program_id adapter.authority) adapter.bump ID
    adapter_info
  return { signer, adapter_info, adapter, remaining_accounts }

/-- The instruction for the adapter: the caller comes first, as a read-only
signer, and the remaining accounts follow unchanged. -/
def Routed.instruction (ctx : Routed) (data : List UInt8) : Instruction where
  program_id := ctx.adapter.program_id
  accounts := AccountMeta.new_readonly ctx.signer.key true ::
    ctx.remaining_accounts.map AccountInfo.toMeta
  data := data

/-- `Deposit::validate`. -/
def Deposit.validate (adapter : Adapter) (args : DepositArgs) : Except Error Unit := do
  let active ← adapter.is_active
  require active (dispatcherError .Inactive)
  require (args.extra_data.length ≤ EXTRA_DATA_MAX_LEN) (dispatcherError .Overflow)

/-- The data of the instruction that `deposit` builds. -/
def Deposit.data (args : DepositArgs) : List UInt8 :=
  ADAPTER_DEPOSIT_DISCRIMINATOR ++ DepositArgs.codec.encode args

/-- `Deposit::deposit`. -/
def deposit (accounts : List AccountInfo) (args : DepositArgs) : Prog Unit := do
  let ctx ← Exec.lift (Routed.try_accounts C accounts)
  Exec.lift (Deposit.validate ctx.adapter args)
  Exec.invoke (ctx.instruction (Deposit.data args))
  Exec.emit (.DepositEvent ctx.signer.key ctx.adapter.program_id args.amount)

/-- `Withdraw::validate`. -/
def Withdraw.validate (adapter : Adapter) (args : WithdrawArgs) : Except Error Unit := do
  let active ← adapter.is_active
  require active (dispatcherError .Inactive)
  require (args.extra_data.length ≤ EXTRA_DATA_MAX_LEN) (dispatcherError .Overflow)

/-- The data of the instruction that `withdraw` builds. -/
def Withdraw.data (args : WithdrawArgs) : List UInt8 :=
  ADAPTER_WITHDRAW_DISCRIMINATOR ++ WithdrawArgs.codec.encode args

/-- `Withdraw::withdraw`. -/
def withdraw (accounts : List AccountInfo) (args : WithdrawArgs) : Prog Unit := do
  let ctx ← Exec.lift (Routed.try_accounts C accounts)
  Exec.lift (Withdraw.validate ctx.adapter args)
  Exec.invoke (ctx.instruction (Withdraw.data args))
  Exec.emit (.WithdrawEvent ctx.signer.key ctx.adapter.program_id args.amount)

/-- `CurrentValue::validate`. -/
def CurrentValue.validate (adapter : Adapter) : Except Error Unit := do
  let active ← adapter.is_active
  require active (dispatcherError .Inactive)

/-- `CurrentValue::current_value`. -/
def current_value (accounts : List AccountInfo) : Prog Unit := do
  let ctx ← Exec.lift (Routed.try_accounts C accounts)
  Exec.lift (CurrentValue.validate ctx.adapter)
  Exec.invoke (ctx.instruction ADAPTER_CURRENT_VALUE_DISCRIMINATOR)
  let current_value ← read_return_u64
  set_return_u64 current_value

/-! ## The entry point -/

/-- An instruction of the dispatcher with its arguments. -/
inductive Call where
  | registry_init
  | adapter_init (args : AdapterInitArgs)
  | deposit (args : DepositArgs)
  | withdraw (args : WithdrawArgs)
  | current_value
  | toggle_adapter
  deriving DecidableEq

/-- The arguments of an instruction; bytes after them are ignored. -/
def Call.args {α : Type} (c : Codec α) (data : List UInt8) : Except Error α :=
  match c.decode data with
  | some (a, _) => .ok a
  | none => .error (.anchor .InstructionDidNotDeserialize)

/-- The dispatch that `#[program]` generates, on `sha256("global:name")[..8]`. -/
def Call.decode (data : List UInt8) : Except Error Call :=
  let disc := data.take 8
  let args := data.drop 8
  if disc = [228, 125, 58, 79, 128, 90, 99, 179] then .ok .registry_init
  else if disc = [233, 208, 174, 182, 160, 5, 170, 143] then
    (Call.args AdapterInitArgs.codec args).map .adapter_init
  else if disc = [242, 35, 198, 137, 82, 225, 242, 182] then
    (Call.args DepositArgs.codec args).map .deposit
  else if disc = [183, 18, 70, 156, 148, 109, 161, 34] then
    (Call.args WithdrawArgs.codec args).map .withdraw
  else if disc = [232, 199, 167, 206, 247, 56, 234, 20] then .ok .current_value
  else if disc = [195, 177, 191, 101, 219, 2, 240, 202] then .ok .toggle_adapter
  else if disc = Anchor.EVENT_IX_TAG_LE then .error (.anchor .EventInstructionStub)
  else .error (.anchor .InstructionFallbackNotFound)

/-- Carry out an instruction. -/
def Call.run (accounts : List AccountInfo) : Call → Prog Unit
  | .registry_init => Dispatcher.registry_init C accounts
  | .adapter_init args => Dispatcher.adapter_init C accounts args
  | .deposit args => Dispatcher.deposit C accounts args
  | .withdraw args => Dispatcher.withdraw C accounts args
  | .current_value => Dispatcher.current_value C accounts
  | .toggle_adapter => Dispatcher.toggle_adapter C accounts

/-- The deployed program. -/
def entry : Program YieldError Event := fun accounts data => do
  let call ← Exec.lift (Call.decode data)
  call.run C accounts

end Dispatcher
