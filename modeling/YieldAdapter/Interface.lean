/-
# The yield adapter interface

What the dispatcher and the adapters agree on: the three entry-point
discriminators, the arguments of a deposit and of a withdrawal, the status of a
registered adapter, the return-data convention of `current_value`, and the
checked readers of raw account data.

The errors and the events of all the programs are gathered here, since they meet
in one transaction.
-/
import YieldAdapter.Anchor

open Solana

/-! ## Errors -/

/-- `DispatcherError`. -/
inductive DispatcherError where
  | InvalidAccount
  | Unauthorized
  | Overflow
  | Inactive
  | InvalidStatus
  | Deprecated
  deriving DecidableEq, Repr

/-- `YieldAdapterInterfaceError`. -/
inductive YieldAdapterInterfaceError where
  | MissingReturnData
  | InvalidReturnData
  | AccountDataTooShort
  | InvalidAccountData
  | OffsetOverflow
  deriving DecidableEq, Repr

/-- `AdapterError`, which the adapters declare alike.  `Unauthorized` is Maple's. -/
inductive AdapterError where
  | UnknownFunction
  | InvalidAccount
  | InvalidArgs
  | Unauthorized
  deriving DecidableEq, Repr

/-- The custom errors of the repository's programs. -/
inductive YieldError where
  | dispatcher (e : DispatcherError)
  | interface (e : YieldAdapterInterfaceError)
  | adapter (e : AdapterError)
  deriving DecidableEq, Repr

/-- The error of a program call. -/
abbrev Error := ProgramError YieldError

/-- `error!(DispatcherError::e)`. -/
abbrev dispatcherError (e : DispatcherError) : Error := .custom (.dispatcher e)

/-- `error!(YieldAdapterInterfaceError::e)`. -/
abbrev interfaceError (e : YieldAdapterInterfaceError) : Error := .custom (.interface e)

/-- `error!(AdapterError::e)`. -/
abbrev adapterError (e : AdapterError) : Error := .custom (.adapter e)

/-! ## Events -/

/-- The events of the repository's programs, and those of any other program. -/
inductive Event where
  | DepositEvent (authority program_id : Pubkey) (amount : UInt64)
  | WithdrawEvent (authority program_id : Pubkey) (amount : UInt64)
  | ToggleEvent (authority adapter program_id : Pubkey) (status : UInt8)
  | AdapterDepositEvent (authority program_id : Pubkey) (amount : UInt64)
  | AdapterWithdrawEvent (authority program_id : Pubkey) (amount : UInt64)
  | AdapterCurrentValueEvent (authority program_id : Pubkey) (current_value : UInt64)
  | MockDepositCalled (authority : Pubkey) (amount : UInt64) (extra_data : List UInt8)
  | MockWithdrawCalled (authority : Pubkey) (amount : UInt64) (extra_data : List UInt8)
  | MockCurrentValueCalled (authority : Pubkey) (value : UInt64)
  | other (data : List UInt8)
  deriving DecidableEq

/-- Computations of the repository's programs. -/
abbrev Prog := Exec YieldError Event

/-! ## Entry points and arguments -/

/-- The longest `extra_data` that is routed. -/
def EXTRA_DATA_MAX_LEN : ℕ := 64

/-- `sha256("global:adapter_deposit")[..8]`. -/
def ADAPTER_DEPOSIT_DISCRIMINATOR : List UInt8 := [190, 207, 72, 186, 232, 106, 46, 72]

/-- `sha256("global:adapter_withdraw")[..8]`. -/
def ADAPTER_WITHDRAW_DISCRIMINATOR : List UInt8 := [121, 55, 72, 46, 185, 100, 173, 236]

/-- `sha256("global:adapter_current_value")[..8]`. -/
def ADAPTER_CURRENT_VALUE_DISCRIMINATOR : List UInt8 := [67, 200, 59, 238, 163, 138, 170, 179]

/-- `DepositArgs`. -/
structure DepositArgs where
  amount : UInt64
  extra_data : List UInt8
  deriving DecidableEq

/-- `WithdrawArgs`. -/
structure WithdrawArgs where
  amount : UInt64
  extra_data : List UInt8
  deriving DecidableEq

/-- Borsh format of an amount with extra data, whichever struct holds the two. -/
def amountDataCodec {α : Type} (e : UInt64 × List UInt8 ≃ α) : Codec α :=
  (Codec.pair .u64 .byteVec).imap e

theorem fits_amountDataCodec_iff {α : Type} (e : UInt64 × List UInt8 ≃ α) (a : α) :
    (amountDataCodec e).Fits a ↔ (e.symm a).2.length < 2 ^ 32 :=
  ⟨fun h => (Codec.fits_byteVec_iff _).mp h.2,
    fun h => ⟨trivial, (Codec.fits_byteVec_iff _).mpr h⟩⟩

/-- Borsh format of `DepositArgs`. -/
def DepositArgs.codec : Codec DepositArgs :=
  amountDataCodec ⟨fun p => ⟨p.1, p.2⟩, fun a => (a.amount, a.extra_data), fun _ => rfl,
    fun _ => rfl⟩

/-- Borsh format of `WithdrawArgs`. -/
def WithdrawArgs.codec : Codec WithdrawArgs :=
  amountDataCodec ⟨fun p => ⟨p.1, p.2⟩, fun a => (a.amount, a.extra_data), fun _ => rfl,
    fun _ => rfl⟩

/-! ## Adapter status -/

/-- `AdapterStatus`. -/
inductive AdapterStatus where
  | Active
  | Paused
  | Deprecated
  deriving DecidableEq, Repr

namespace AdapterStatus

/-- `AdapterStatus::from_u8`. -/
def from_u8 (value : UInt8) : Option AdapterStatus :=
  if value = 0 then some Active
  else if value = 1 then some Paused
  else if value = 2 then some Deprecated
  else none

/-- `AdapterStatus::as_u8`. -/
def as_u8 : AdapterStatus → UInt8
  | Active => 0
  | Paused => 1
  | Deprecated => 2

/-- `AdapterStatus::is_active`. -/
def is_active : AdapterStatus → Bool
  | Active => true
  | _ => false

@[simp] theorem from_u8_as_u8 (s : AdapterStatus) : from_u8 s.as_u8 = some s := by
  cases s <;> decide

/-- The bytes that denote a status are the encodings of statuses. -/
theorem from_u8_eq_some_iff {value : UInt8} {s : AdapterStatus} :
    from_u8 value = some s ↔ value = s.as_u8 := by
  constructor
  · intro h
    rw [from_u8] at h
    split_ifs at h with h0 h1 h2
    · obtain rfl := Option.some.inj h
      exact h0
    · obtain rfl := Option.some.inj h
      exact h1
    · obtain rfl := Option.some.inj h
      exact h2
  · rintro rfl
    exact from_u8_as_u8 s

end AdapterStatus

/-! ## Return data -/

/-- `set_return_u64`. -/
def set_return_u64 (value : UInt64) : Prog Unit :=
  Exec.set_return_data (Codec.u64.encode value)

/-- The value that return data stands for. -/
def parse_return_u64 (data : Option (Pubkey × List UInt8)) : Except Error UInt64 := do
  match data with
  | none => .error (interfaceError .MissingReturnData)
  | some (_, data) =>
      require (data.length ≥ 8) (interfaceError .InvalidReturnData)
      return UInt64.ofNat (LittleEndian.value (data.take 8))

/-- `read_return_u64`.  The id of the program that set the data is dropped. -/
def read_return_u64 : Prog UInt64 := do
  let data ← Exec.get_return_data
  Exec.lift (parse_return_u64 data)

theorem parse_return_u64_some (p : Pubkey) (data : List UInt8) :
    parse_return_u64 (some (p, data)) =
      if 8 ≤ data.length then .ok (UInt64.ofNat (LittleEndian.value (data.take 8)))
      else .error (interfaceError .InvalidReturnData) := by
  rw [parse_return_u64]
  by_cases h : 8 ≤ data.length
  · rw [if_pos h, decide_eq_true h]
    rfl
  · rw [if_neg h, decide_eq_false h]
    rfl

theorem read_return_u64_apply (env : Env YieldError Event) (m : Machine Event) :
    read_return_u64 env m =
      (parse_return_u64 (if m.return_data.2 = [] then none else some m.return_data), m) := rfl

/-! ## Reading account data -/

/-- `read_bytes`, at a 64-bit `offset` and `length`. -/
def read_bytes (data : List UInt8) (offset length : UInt64) : Except Error (List UInt8) := do
  -- `checked_add`
  require (offset.toNat + length.toNat < 2 ^ 64) (interfaceError .OffsetOverflow)
  let end_ := offset.toNat + length.toNat
  require (data.length ≥ end_) (interfaceError .AccountDataTooShort)
  slice data offset.toNat end_

/-- `read_u64_le`. -/
def read_u64_le (data : List UInt8) (offset : UInt64) : Except Error UInt64 := do
  let bytes ← read_bytes data offset 8
  return UInt64.ofNat (LittleEndian.value bytes)

/-- `read_u128_le`. -/
def read_u128_le (data : List UInt8) (offset : UInt64) : Except Error (BitVec 128) := do
  let bytes ← read_bytes data offset 16
  return BitVec.ofNat 128 (LittleEndian.value bytes)

/-- `read_i128_le`. -/
def read_i128_le (data : List UInt8) (offset : UInt64) : Except Error ℤ := do
  let bytes ← read_bytes data offset 16
  return (BitVec.ofNat 128 (LittleEndian.value bytes)).toInt

/-- `read_pubkey`. -/
def read_pubkey (data : List UInt8) (offset : UInt64) : Except Error Pubkey := do
  let bytes ← read_bytes data offset 32
  if h : bytes.length = 32 then return ⟨bytes, h⟩
  else .error (interfaceError .InvalidAccountData)
