/-
# The reference adapters

The five adapters of the repository, and the mock adapter of its tests.  Each
function of an adapter keeps its name; those that only differ in their
discriminator and in whether they forward the rest of `extra_data` are instances of
`Payload.withAmount`.

`current_value` of Kamino and of Maple decodes accounts with third-party code,
which is a parameter.
-/
import YieldAdapter.AdapterProgram

open Solana

/-! ## Third-party decoders -/

/-- `klend_interface::state::Reserve` under `bytemuck::from_bytes`, which panics on
bytes of another size or that are not aligned. -/
structure Klend where
  reserve_size : ℕ
  aligned : AccountInfo → Bool
  available_liquidity : List UInt8 → UInt64

/-- `bytemuck::from_bytes::<Reserve>`, read for its available liquidity. -/
def Klend.from_bytes (klend : Klend) (info : AccountInfo) (bytes : List UInt8) :
    Except Error UInt64 :=
  if bytes.length = klend.reserve_size ∧ klend.aligned info then
    .ok (klend.available_liquidity bytes)
  else .error .panic

/-- `anchor_spl::token::TokenAccount`, as far as it is used. -/
structure TokenAccount where
  mint : Pubkey
  owner : Pubkey
  amount : UInt64

/-- What `Pack::unpack` fails with: bytes that are no token account, or one that has not
been initialised. -/
inductive UnpackError where
  | InvalidAccountData
  | UninitializedAccount

/-- The error of the instruction. -/
def UnpackError.toError : UnpackError → Error
  | InvalidAccountData => .invalidAccountData
  | UninitializedAccount => .uninitializedAccount

/-- The SPL token program: its id, and the layout of its accounts. -/
structure SplToken where
  ID : Pubkey
  ID_ne_system : ID ≠ System.ID
  unpack : List UInt8 → Except UnpackError TokenAccount

/-- `Account::<TokenAccount>::try_from`. -/
def SplToken.try_from (spl : SplToken) (info : AccountInfo) : Except Error TokenAccount := do
  require (¬ (info.owner = System.ID ∧ info.lamports = 0)) (.anchor .AccountNotInitialized)
  require (info.owner = spl.ID) (.anchor .AccountOwnedByWrongProgram)
  match spl.unpack info.data with
  | .ok account => .ok account
  | .error e => .error e.toError

theorem SplToken.try_from_eq_ok {spl : SplToken} {info : AccountInfo} {account : TokenAccount} :
    spl.try_from info = .ok account ↔
      info.owner = spl.ID ∧ spl.unpack info.data = .ok account := by
  simp only [try_from, except_bind_eq_ok, require_eq_ok, decide_eq_true_eq, exists_const]
  constructor
  · rintro ⟨-, howner, h⟩
    rcases hunpack : spl.unpack info.data with e | account'
    · rw [hunpack] at h
      exact absurd h (by simp)
    · rw [hunpack] at h
      obtain rfl := Except.ok.inj h
      exact ⟨howner, rfl⟩
  · rintro ⟨howner, hunpack⟩
    refine ⟨fun hvacant => spl.ID_ne_system (howner.symm.trans hvacant.1), howner, ?_⟩
    rw [hunpack]

theorem SplToken.try_from_ne_panic (spl : SplToken) (info : AccountInfo) :
    spl.try_from info ≠ .error .panic := by
  intro h
  rcases except_bind_eq_error.mp h with hexists | ⟨-, -, h⟩
  · exact absurd (require_eq_error.mp hexists).2 (by simp)
  · rcases except_bind_eq_error.mp h with howner | ⟨-, -, h⟩
    · exact absurd (require_eq_error.mp howner).2 (by simp)
    · rcases hunpack : spl.unpack info.data with e | account
      · rw [hunpack] at h
        cases e with
        | InvalidAccountData => exact absurd h (by simp [UnpackError.toError])
        | UninitializedAccount => exact absurd h (by simp [UnpackError.toError])
      · rw [hunpack] at h
        exact absurd h (by simp)

/-! ## Shared checks and functions -/

/-- The check of Kamino, MarginFi and Drift. -/
def validateAuthority (ctx : Context) (extra_data : List UInt8) : Except Error Unit := do
  require (ctx.authority.key ≠ Pubkey.default) (adapterError .InvalidAccount)
  require (!extra_data.isEmpty) (adapterError .InvalidArgs)

/-- A function that sends the amount alone. -/
def sendAmount (discriminator : List UInt8) (amount : UInt64) : Except Error Payload :=
  .ok (.withAmount discriminator amount [])

/-- A function that sends the amount and forwards `extra_data[1..]`. -/
def sendAmountAndTail (discriminator : List UInt8) (amount : UInt64)
    (extra_data : List UInt8) : Except Error Payload := do
  let tail ← sliceFrom extra_data 1
  return .withAmount discriminator amount tail

/-! ## Kamino -/

namespace KaminoAdapter

/-- `declare_id!("BaxHrSyiFkoS4on2HmmEBCAL7BwMfXnZarpHNx6V3GrT")`. -/
def ID : Pubkey :=
  ⟨[157, 71, 141, 158, 129, 149, 186, 102, 98, 149, 99, 116, 215, 224, 83, 185, 230, 248, 223, 41,
    136, 203, 160, 176, 81, 166, 43, 95, 205, 126, 148, 192], rfl⟩

/-- `pubkey!("KLend2g3cP87fffoy8q1mQqGKjrxjC8boSyAYavgmjD")`. -/
def PROGRAM_ID : Pubkey :=
  ⟨[4, 178, 172, 177, 18, 88, 204, 227, 104, 44, 65, 139, 168, 114, 255, 61, 249, 17, 2, 113, 47,
    21, 175, 18, 182, 190, 105, 179, 67, 91, 0, 8], rfl⟩

def DEPOSIT_RESERVE_LIQUIDITY_AND_OBLIGATION_COLLATERAL_V2_DISCRIMINATOR : List UInt8 :=
  [216, 224, 191, 27, 204, 151, 102, 175]

def DEPOSIT_RESERVE_LIQUIDITY : List UInt8 := [169, 201, 30, 126, 6, 205, 102, 68]

def DEPOSIT_OBLIGATION_COLLATERLA_V2 : List UInt8 := [108, 209, 4, 72, 21, 22, 118, 133]

def DEPOSIT_AND_WITHDRAW : List UInt8 := [141, 153, 39, 15, 64, 61, 88, 84]

def WITHDRAW_OBLIGATION_COLLATERAL_AND_REDEEM_RESERVE_COLLATERAL_V2 : List UInt8 :=
  [235, 52, 119, 152, 149, 197, 20, 7]

def REDEEM_RESERVE_COLLATERAL : List UInt8 := [234, 117, 181, 125, 185, 142, 220, 29]

def deposit_reserve_liquidity_and_obligation_collateral_v2 (amount : UInt64) :
    Except Error Payload :=
  sendAmount DEPOSIT_RESERVE_LIQUIDITY_AND_OBLIGATION_COLLATERAL_V2_DISCRIMINATOR amount

def deposit_reserve_liquidity (amount : UInt64) : Except Error Payload :=
  sendAmount DEPOSIT_RESERVE_LIQUIDITY amount

def deposit_oblogation_collaterla_v2 (amount : UInt64) : Except Error Payload :=
  sendAmount DEPOSIT_OBLIGATION_COLLATERLA_V2 amount

/-- The function that both flows offer. -/
def deposit_and_withdraw (amount : UInt64) (extra_data : List UInt8) : Except Error Payload :=
  sendAmountAndTail DEPOSIT_AND_WITHDRAW amount extra_data

def withdraw_obligation_collateral_and_redeem_reserve_collateral_v2 (amount : UInt64) :
    Except Error Payload :=
  sendAmount WITHDRAW_OBLIGATION_COLLATERAL_AND_REDEEM_RESERVE_COLLATERAL_V2 amount

def redeem_reserve_collateral (amount : UInt64) (extra_data : List UInt8) :
    Except Error Payload :=
  sendAmountAndTail REDEEM_RESERVE_COLLATERAL amount extra_data

/-- `AdapterDeposit`. -/
def AdapterDeposit : AdapterFlow where
  authority_mut := true
  validate := validateAuthority
  dispatch := fun selector amount extra_data =>
    if selector = 0 then deposit_reserve_liquidity_and_obligation_collateral_v2 amount
    else if selector = 1 then deposit_reserve_liquidity amount
    else if selector = 2 then deposit_oblogation_collaterla_v2 amount
    else if selector = 3 then deposit_and_withdraw amount extra_data
    else .error (adapterError .UnknownFunction)

/-- `AdapterWithdraw`. -/
def AdapterWithdraw : AdapterFlow where
  authority_mut := true
  validate := validateAuthority
  dispatch := fun selector amount extra_data =>
    if selector = 0 then withdraw_obligation_collateral_and_redeem_reserve_collateral_v2 amount
    else if selector = 1 then redeem_reserve_collateral amount extra_data
    else if selector = 2 then deposit_and_withdraw amount extra_data
    else .error (adapterError .UnknownFunction)

/-- The available liquidity of the reserve in `remaining_accounts[0]`. -/
def current_value (klend : Klend) (ctx : Context) : Except Error UInt64 := do
  let reserve_info ← indexAt ctx.remaining_accounts 0
  let bytes ← sliceFrom reserve_info.data 8
  klend.from_bytes reserve_info bytes

/-- The Kamino adapter. -/
def program (klend : Klend) : AdapterProgram where
  ID := ID
  PROGRAM_ID := PROGRAM_ID
  deposit := AdapterDeposit
  withdraw := AdapterWithdraw
  current_value_mut := false
  value := current_value klend

end KaminoAdapter

/-! ## MarginFi -/

namespace MarginfiAdapter

/-- `declare_id!("43vGkNHfLML24Df9xCJddmwsx1mbje34yVsH13bqnbny")`. -/
def ID : Pubkey :=
  ⟨[45, 82, 116, 233, 130, 124, 63, 216, 54, 154, 80, 163, 136, 64, 68, 92, 201, 136, 114, 99, 58,
    187, 165, 198, 7, 204, 7, 164, 13, 28, 228, 250], rfl⟩

/-- `pubkey!("MFv2hWf31Z9kbCa1snEPYctwafyhdvnV7FZnsebVacA")`. -/
def PROGRAM_ID : Pubkey :=
  ⟨[5, 48, 122, 214, 69, 75, 188, 94, 30, 78, 146, 5, 146, 83, 161, 139, 184, 200, 134, 140, 88,
    166, 49, 46, 200, 106, 57, 230, 34, 78, 55, 59], rfl⟩

def LENDING_ACCOUNT_DEPOSIT_DISCRIMINATOR : List UInt8 := [171, 94, 235, 103, 82, 64, 212, 140]

def LENDING_ACCOUNT_WITHDRAW_DISCRIMINATOR : List UInt8 := [36, 72, 74, 19, 210, 210, 192, 192]

def lending_account_deposit (amount : UInt64) (extra_data : List UInt8) : Except Error Payload :=
  sendAmountAndTail LENDING_ACCOUNT_DEPOSIT_DISCRIMINATOR amount extra_data

def lending_account_withdraw (amount : UInt64) (extra_data : List UInt8) : Except Error Payload :=
  sendAmountAndTail LENDING_ACCOUNT_WITHDRAW_DISCRIMINATOR amount extra_data

/-- `AdapterDeposit`. -/
def AdapterDeposit : AdapterFlow where
  authority_mut := true
  validate := validateAuthority
  dispatch := fun selector amount extra_data =>
    if selector = 0 then lending_account_deposit amount extra_data
    else .error (adapterError .UnknownFunction)

/-- `AdapterWithdraw`. -/
def AdapterWithdraw : AdapterFlow where
  authority_mut := true
  validate := validateAuthority
  dispatch := fun selector amount extra_data =>
    if selector = 0 then lending_account_withdraw amount extra_data
    else .error (adapterError .UnknownFunction)

/-- `marginfi_account::ASSET_SHARES`. -/
def ASSET_SHARES : UInt64 := 8 + 32

/-- The low 64 bits of the shares in `remaining_accounts[0]`. -/
def current_value (ctx : Context) : Except Error UInt64 := do
  let account_info ← indexAt ctx.remaining_accounts 0
  let asset_shares ← read_u128_le account_info.data ASSET_SHARES
  return UInt64.ofNat asset_shares.toNat

/-- The MarginFi adapter. -/
def program : AdapterProgram where
  ID := ID
  PROGRAM_ID := PROGRAM_ID
  deposit := AdapterDeposit
  withdraw := AdapterWithdraw
  current_value_mut := true
  value := current_value

end MarginfiAdapter

/-! ## Jupiter -/

namespace JupiterAdapter

/-- `declare_id!("CqNUZykVkiQsGTW8rQRSm4cm2DtXgMCmNRvWfgHV9nB2")`. -/
def ID : Pubkey :=
  ⟨[175, 212, 183, 157, 142, 139, 149, 65, 108, 65, 28, 191, 20, 179, 78, 99, 120, 111, 182, 191,
    132, 208, 246, 155, 155, 195, 207, 62, 126, 75, 212, 89], rfl⟩

/-- `pubkey!("PERPHjGBqRHArX4DySjwM6UJHiR3sWAatqfdBS2qQJu")`. -/
def PROGRAM_ID : Pubkey :=
  ⟨[5, 177, 243, 202, 241, 148, 98, 239, 135, 96, 240, 171, 222, 117, 205, 61, 158, 227, 27, 58,
    50, 198, 32, 232, 148, 18, 46, 156, 155, 129, 69, 250], rfl⟩

def DEPOSIT_COLLATERAL_FOR_BORROWS_DISCRIMINATOR : List UInt8 := [17, 2, 195, 190, 76, 16, 238, 74]

def WITHDRAW_COLLATERAL_FOR_BORROWS_DISCRIMINATOR : List UInt8 :=
  [117, 160, 60, 82, 237, 233, 46, 182]

def ADD_LIQUIDITY2 : List UInt8 := [228, 162, 78, 28, 70, 219, 116, 115]

def REMOVE_LIQUIDITY : List UInt8 := [230, 215, 82, 127, 241, 101, 227, 146]

def deposit_collateral_for_borrows (amount : UInt64) : Except Error Payload :=
  sendAmount DEPOSIT_COLLATERAL_FOR_BORROWS_DISCRIMINATOR amount

def add_liquidity2 (amount : UInt64) (extra_data : List UInt8) : Except Error Payload :=
  sendAmountAndTail ADD_LIQUIDITY2 amount extra_data

def withdraw_collateral_for_borrows (amount : UInt64) : Except Error Payload :=
  sendAmount WITHDRAW_COLLATERAL_FOR_BORROWS_DISCRIMINATOR amount

def remove_liquidity (amount : UInt64) (extra_data : List UInt8) : Except Error Payload :=
  sendAmountAndTail REMOVE_LIQUIDITY amount extra_data

/-- `validate` of both flows. -/
def validate (ctx : Context) (extra_data : List UInt8) : Except Error Unit := do
  require (ctx.authority.key ≠ Pubkey.default) (adapterError .InvalidAccount)
  require (ctx.remaining_accounts.length = 14) (adapterError .InvalidAccount)
  require (!extra_data.isEmpty) (adapterError .InvalidArgs)

/-- `AdapterDeposit`. -/
def AdapterDeposit : AdapterFlow where
  authority_mut := true
  validate := validate
  dispatch := fun selector amount extra_data =>
    if selector = 0 then deposit_collateral_for_borrows amount
    else if selector = 1 then add_liquidity2 amount extra_data
    else .error (adapterError .UnknownFunction)

/-- `AdapterWithdraw`. -/
def AdapterWithdraw : AdapterFlow where
  authority_mut := true
  validate := validate
  dispatch := fun selector amount extra_data =>
    if selector = 0 then withdraw_collateral_for_borrows amount
    else if selector = 1 then remove_liquidity amount extra_data
    else .error (adapterError .UnknownFunction)

/-- `jupiter_borrow_position::LOCKED_COLLATERAL`. -/
def LOCKED_COLLATERAL : UInt64 := 8 + 32 + 32 + 32 + 8 + 8 + 16 + 16

/-- The locked collateral of the position in `remaining_accounts[0]`. -/
def current_value (ctx : Context) : Except Error UInt64 := do
  let account_info ← indexAt ctx.remaining_accounts 0
  read_u64_le account_info.data LOCKED_COLLATERAL

/-- The Jupiter adapter. -/
def program : AdapterProgram where
  ID := ID
  PROGRAM_ID := PROGRAM_ID
  deposit := AdapterDeposit
  withdraw := AdapterWithdraw
  current_value_mut := false
  value := current_value

end JupiterAdapter

/-! ## Maple -/

namespace MapleAdapter

/-- `declare_id!("7A1CFrXTEw96vdtsYPG1h5vhXbFCszaipfavL1XhgQKL")`. -/
def ID : Pubkey :=
  ⟨[91, 116, 145, 122, 141, 78, 231, 10, 12, 157, 198, 112, 113, 92, 252, 224, 248, 88, 122, 223,
    242, 103, 252, 168, 34, 185, 5, 104, 42, 70, 120, 59], rfl⟩

/-- `pubkey!("Ccip842gzYHhvdDkSyi2YVCoAWPbYJoApMFzSxQroE9C")`. -/
def PROGRAM_ID : Pubkey :=
  ⟨[172, 151, 41, 119, 225, 186, 181, 255, 246, 198, 134, 41, 31, 153, 79, 245, 47, 52, 171, 237,
    27, 199, 223, 136, 247, 111, 67, 249, 38, 89, 44, 143], rfl⟩

def CCIP_SEND : List UInt8 := [108, 216, 134, 191, 249, 234, 33, 84]

/-- The function of both flows.  The amount that is sent is part of `extra_data`;
`amount` is only reported. -/
def ccip_send (amount : UInt64) (extra_data : List UInt8) : Except Error Payload := do
  let tail ← sliceFrom extra_data 1
  return { data := CCIP_SEND ++ tail, amount := amount }

/-- `validate` of both flows: account 3 is the authority, as a signer. -/
def validate (ctx : Context) (extra_data : List UInt8) : Except Error Unit := do
  require (!extra_data.isEmpty) (adapterError .InvalidArgs)
  require (ctx.remaining_accounts.length ≥ 18) (adapterError .InvalidAccount)
  let account ← indexAt ctx.remaining_accounts 3
  require (account.key = ctx.authority.key) (adapterError .Unauthorized)
  require account.is_signer (adapterError .Unauthorized)

/-- `AdapterDeposit`. -/
def AdapterDeposit : AdapterFlow where
  authority_mut := true
  validate := validate
  dispatch := fun selector amount extra_data =>
    if selector = 0 then ccip_send amount extra_data
    else .error (adapterError .UnknownFunction)

/-- `AdapterWithdraw`. -/
def AdapterWithdraw : AdapterFlow where
  authority_mut := true
  validate := validate
  dispatch := fun selector amount extra_data =>
    if selector = 0 then ccip_send amount extra_data
    else .error (adapterError .UnknownFunction)

/-- The balance of the token account in `remaining_accounts[0]`. -/
def current_value (spl : SplToken) (ctx : Context) : Except Error UInt64 := do
  require (!ctx.remaining_accounts.isEmpty) (adapterError .InvalidAccount)
  let syrup_usdc_account_info ← indexAt ctx.remaining_accounts 0
  let syrup_usdc_account ← spl.try_from syrup_usdc_account_info
  return syrup_usdc_account.amount

/-- The Maple adapter. -/
def program (spl : SplToken) : AdapterProgram where
  ID := ID
  PROGRAM_ID := PROGRAM_ID
  deposit := AdapterDeposit
  withdraw := AdapterWithdraw
  current_value_mut := true
  value := current_value spl

end MapleAdapter

/-! ## Drift -/

namespace DriftAdapter

/-- `declare_id!("EojJcwUUuTuHyTJDyFjUjSxHbZLBuqJt7KPpBR6rVKZb")`. -/
def ID : Pubkey :=
  ⟨[205, 32, 122, 245, 58, 166, 26, 27, 89, 221, 210, 14, 0, 200, 167, 228, 139, 153, 175, 229,
    181, 191, 159, 181, 5, 72, 218, 129, 26, 224, 14, 122], rfl⟩

/-- `pubkey!("dRiftyHA39MWEi3m9aunc5MzRF1JYuBsbn6VPcn33UH")`. -/
def PROGRAM_ID : Pubkey :=
  ⟨[9, 84, 219, 190, 158, 201, 96, 201, 138, 122, 41, 63, 226, 19, 54, 150, 111, 225, 128, 209, 81,
    174, 75, 129, 121, 86, 31, 137, 133, 74, 83, 246], rfl⟩

def DEPOSIT : List UInt8 := [242, 35, 198, 137, 82, 225, 242, 182]

def WITHDRAW : List UInt8 := [183, 18, 70, 156, 148, 109, 161, 34]

def ADD_INSURANCE_FUND_STAKE : List UInt8 := [251, 144, 115, 11, 222, 47, 62, 236]

def REQUEST_REMOVE_INSURANCE_FUND_STAKE : List UInt8 := [142, 70, 204, 92, 73, 106, 180, 52]

def REMOVE_INSURANCE_FUND_STAKE : List UInt8 := [128, 166, 142, 9, 254, 187, 143, 174]

def INITIALIZE_INSURANCE_FUND_STAKE : List UInt8 := [187, 179, 243, 70, 248, 90, 92, 147]

/-- The market index, the amount, and whatever follows in `extra_data`. -/
def sendMarketAmountTail (discriminator : List UInt8) (amount : UInt64)
    (extra_data : List UInt8) : Except Error Payload := do
  let market ← slice extra_data 1 3
  let tail ← sliceFrom extra_data 3
  return { data := discriminator ++ market ++ Codec.u64.encode amount ++ tail, amount := amount }

def deposit (amount : UInt64) (extra_data : List UInt8) : Except Error Payload :=
  sendMarketAmountTail DEPOSIT amount extra_data

/-- All of `extra_data[1..]` comes before the amount. -/
def add_insurance_fund_stake (amount : UInt64) (extra_data : List UInt8) :
    Except Error Payload := do
  let tail ← sliceFrom extra_data 1
  return { data := ADD_INSURANCE_FUND_STAKE ++ tail ++ Codec.u64.encode amount, amount := amount }

/-- Sends no amount, and reports 0. -/
def initialize_insurance_fund_stake (extra_data : List UInt8) : Except Error Payload := do
  let tail ← sliceFrom extra_data 1
  return { data := INITIALIZE_INSURANCE_FUND_STAKE ++ tail, amount := 0 }

def withdraw (amount : UInt64) (extra_data : List UInt8) : Except Error Payload :=
  sendMarketAmountTail WITHDRAW amount extra_data

def request_remove_insurance_fund_stake (amount : UInt64) (extra_data : List UInt8) :
    Except Error Payload := do
  let market ← slice extra_data 1 3
  return { data := REQUEST_REMOVE_INSURANCE_FUND_STAKE ++ market ++ Codec.u64.encode amount,
           amount := amount }

/-- Sends no amount, and reports 0. -/
def remove_insurance_fund_stake (extra_data : List UInt8) : Except Error Payload := do
  let market ← slice extra_data 1 3
  return { data := REMOVE_INSURANCE_FUND_STAKE ++ market, amount := 0 }

/-- `AdapterDeposit`. -/
def AdapterDeposit : AdapterFlow where
  authority_mut := true
  validate := validateAuthority
  dispatch := fun selector amount extra_data =>
    if selector = 0 then deposit amount extra_data
    else if selector = 1 then add_insurance_fund_stake amount extra_data
    else if selector = 2 then initialize_insurance_fund_stake extra_data
    else .error (adapterError .UnknownFunction)

/-- `AdapterWithdraw`. -/
def AdapterWithdraw : AdapterFlow where
  authority_mut := true
  validate := validateAuthority
  dispatch := fun selector amount extra_data =>
    if selector = 0 then withdraw amount extra_data
    else if selector = 1 then request_remove_insurance_fund_stake amount extra_data
    else if selector = 2 then remove_insurance_fund_stake extra_data
    else .error (adapterError .UnknownFunction)

/-- `drift_user::SPOT_0_SCALED_BALANCE`. -/
def SPOT_0_SCALED_BALANCE : UInt64 := 8 + 32 + 32 + 32

/-- The scaled balance of the user in `remaining_accounts[0]`. -/
def current_value (ctx : Context) : Except Error UInt64 := do
  let account_info ← indexAt ctx.remaining_accounts 0
  read_u64_le account_info.data SPOT_0_SCALED_BALANCE

/-- The Drift adapter. -/
def program : AdapterProgram where
  ID := ID
  PROGRAM_ID := PROGRAM_ID
  deposit := AdapterDeposit
  withdraw := AdapterWithdraw
  current_value_mut := true
  value := current_value

end DriftAdapter

/-! ## The mock adapter -/

namespace MockAdapter

/-- `declare_id!("3ChHEmV3NhvmtzLXPDY62aJizN4tiBGapzpmUKwxj6cV")`. -/
def ID : Pubkey :=
  ⟨[32, 182, 78, 180, 137, 173, 217, 54, 217, 60, 166, 246, 96, 97, 183, 8, 191, 113, 135, 209,
    175, 207, 84, 215, 254, 255, 184, 249, 58, 209, 220, 126], rfl⟩

/-- `MOCK_CURRENT_VALUE`. -/
def MOCK_CURRENT_VALUE : UInt64 := 123456789

def adapter_deposit (accounts : List AccountInfo) (args : AdapterDepositArgs) : Prog Unit := do
  let ctx ← Exec.lift (Context.try_accounts false accounts)
  Exec.emit (.MockDepositCalled ctx.authority.key args.amount args.extra_data)

def adapter_withdraw (accounts : List AccountInfo) (args : AdapterWithdrawArgs) : Prog Unit := do
  let ctx ← Exec.lift (Context.try_accounts false accounts)
  Exec.emit (.MockWithdrawCalled ctx.authority.key args.amount args.extra_data)

def adapter_current_value (accounts : List AccountInfo) : Prog Unit := do
  let ctx ← Exec.lift (Context.try_accounts false accounts)
  Exec.emit (.MockCurrentValueCalled ctx.authority.key MOCK_CURRENT_VALUE)
  set_return_u64 MOCK_CURRENT_VALUE

/-- The entry points. -/
def run (accounts : List AccountInfo) : AdapterCall → Prog Unit
  | .adapter_deposit args => MockAdapter.adapter_deposit accounts args
  | .adapter_withdraw args => MockAdapter.adapter_withdraw accounts args
  | .adapter_current_value => MockAdapter.adapter_current_value accounts

end MockAdapter

/-! ## All of them -/

/-- The reference adapters. -/
inductive Reference where
  | kamino
  | marginfi
  | jupiter
  | maple
  | drift
  deriving DecidableEq, Repr

/-- Third-party code that the adapters use. -/
structure ThirdParty where
  klend : Klend
  spl : SplToken

/-- The program of a reference adapter. -/
def Reference.program (X : ThirdParty) : Reference → AdapterProgram
  | .kamino => KaminoAdapter.program X.klend
  | .marginfi => MarginfiAdapter.program
  | .jupiter => JupiterAdapter.program
  | .maple => MapleAdapter.program X.spl
  | .drift => DriftAdapter.program
