/-
# The state of the dispatcher

The two account types that the dispatcher owns: the registry, of which there is
one, and the record of a registered adapter.  Each comes with its serialised
form, its invariant and the seeds of its address.
-/
import YieldAdapter.Interface

open Solana

namespace Dispatcher

/-! ## Constants -/

/-- `declare_id!("8yq3ahdnSz4GBcVWtohNF5V7MxnVmk6umN4TNhJX182n")`. -/
def ID : Pubkey :=
  ⟨[118, 144, 168, 107, 3, 34, 249, 207, 200, 228, 83, 250, 151, 94, 206, 87, 111, 191, 26, 65,
    208, 172, 181, 175, 156, 32, 93, 16, 186, 168, 102, 99], rfl⟩

/-- `pubkey!("GAe1b8H1eUQhGuwAEJKstXLFdpaoHp9voszu1uw46Htm")`. -/
def INITIALIZER : Pubkey :=
  ⟨[225, 87, 96, 241, 53, 59, 181, 143, 250, 18, 145, 121, 205, 120, 41, 26, 39, 141, 168, 230,
    207, 226, 170, 115, 85, 21, 68, 90, 216, 51, 2, 178], rfl⟩

/-- `b"dispatcher"`. -/
def SEED_PREFIX : List UInt8 := [100, 105, 115, 112, 97, 116, 99, 104, 101, 114]

/-- `b"registry"`. -/
def SEED_REGISTRY : List UInt8 := [114, 101, 103, 105, 115, 116, 114, 121]

/-- `b"adapter_info"`. -/
def SEED_ADAPTER : List UInt8 := [97, 100, 97, 112, 116, 101, 114, 95, 105, 110, 102, 111]

theorem ID_ne_system : ID ≠ System.ID := by decide

/-! ## Adapter records -/

/-- `Adapter`. -/
structure Adapter where
  authority : Pubkey
  program_id : Pubkey
  supported_mint : Pubkey
  status : UInt8
  registered_at : Int64
  bump : UInt8
  deriving DecidableEq

namespace Adapter

/-- Borsh format of `Adapter`. -/
def codec : Codec Adapter :=
  Codec.imap
    (.pair Pubkey.codec (.pair Pubkey.codec (.pair Pubkey.codec (.pair .u8 (.pair .i64 .u8)))))
    ⟨fun p => ⟨p.1, p.2.1, p.2.2.1, p.2.2.2.1, p.2.2.2.2.1, p.2.2.2.2.2⟩,
      fun a => (a.authority, a.program_id, a.supported_mint, a.status, a.registered_at, a.bump),
      fun _ => rfl, fun _ => rfl⟩

/-- `#[account] struct Adapter`, with `sha256("account:Adapter")[..8]`. -/
def accountType : AccountType Adapter where
  discriminator := [218, 97, 146, 51, 83, 14, 30, 252]
  codec := codec
  INIT_SPACE := 106
  length_discriminator := rfl
  discriminator_nonzero := ⟨218, by decide, by decide⟩
  fits := fun _ => ⟨trivial, trivial, trivial, trivial, trivial, trivial⟩
  length_encode := fun a => by
    show (a.authority.bytes ++ (a.program_id.bytes ++ (a.supported_mint.bytes ++
      (Codec.u8.encode a.status ++
        (Codec.i64.encode a.registered_at ++ Codec.u8.encode a.bump))))).length = 106
    simp only [List.length_append, Pubkey.length_bytes, Codec.length_encode_u8,
      Codec.length_encode_i64]

/-- `Adapter::status()`. -/
def readStatus (a : Adapter) : Except Error AdapterStatus :=
  match AdapterStatus.from_u8 a.status with
  | some s => .ok s
  | none => .error (dispatcherError .InvalidStatus)

/-- `Adapter::is_active()`. -/
def is_active (a : Adapter) : Except Error Bool := do
  let s ← a.readStatus
  return s.is_active

/-- `Adapter::invariant()`. -/
def invariant (a : Adapter) : Except Error Unit := do
  require (a.authority ≠ Pubkey.default) (dispatcherError .InvalidAccount)
  require (a.program_id ≠ Pubkey.default) (dispatcherError .InvalidAccount)
  require (a.supported_mint ≠ Pubkey.default) (dispatcherError .InvalidAccount)
  require (AdapterStatus.from_u8 a.status).isSome (dispatcherError .InvalidStatus)

/-- The seeds of a record's address, without the bump. -/
def seeds (program_id authority : Pubkey) : List (List UInt8) :=
  [SEED_PREFIX, program_id.bytes, SEED_ADAPTER, authority.bytes]

theorem readStatus_eq_ok {a : Adapter} {s : AdapterStatus} :
    a.readStatus = .ok s ↔ a.status = s.as_u8 := by
  rw [← AdapterStatus.from_u8_eq_some_iff, readStatus]
  cases AdapterStatus.from_u8 a.status <;> simp

theorem is_active_eq_ok_true {a : Adapter} :
    a.is_active = .ok true ↔ a.status = AdapterStatus.Active.as_u8 := by
  rw [← readStatus_eq_ok, is_active]
  rcases a.readStatus with e | s
  · simp [bind, Except.bind]
  · cases s <;> simp [bind, Except.bind, pure, Except.pure, AdapterStatus.is_active]

/-- **The invariant of a record**: no key is the default key, and the status byte
denotes a status. -/
theorem invariant_eq_ok {a : Adapter} :
    a.invariant = .ok () ↔
      a.authority ≠ Pubkey.default ∧ a.program_id ≠ Pubkey.default ∧
        a.supported_mint ≠ Pubkey.default ∧ ∃ s : AdapterStatus, a.status = s.as_u8 := by
  simp only [invariant, except_bind_eq_ok, require_eq_ok, decide_eq_true_eq,
    Option.isSome_iff_exists, AdapterStatus.from_u8_eq_some_iff, exists_const, ne_eq]

end Adapter

/-! ## The registry -/

/-- `Registry`. -/
structure Registry where
  initializer : Pubkey
  bump : UInt8
  deriving DecidableEq

namespace Registry

/-- Borsh format of `Registry`. -/
def codec : Codec Registry :=
  Codec.imap (.pair Pubkey.codec .u8)
    ⟨fun p => ⟨p.1, p.2⟩, fun r => (r.initializer, r.bump), fun _ => rfl, fun _ => rfl⟩

/-- `#[account] struct Registry`, with `sha256("account:Registry")[..8]`. -/
def accountType : AccountType Registry where
  discriminator := [47, 174, 110, 246, 184, 182, 252, 218]
  codec := codec
  INIT_SPACE := 33
  length_discriminator := rfl
  discriminator_nonzero := ⟨47, by decide, by decide⟩
  fits := fun _ => ⟨trivial, trivial⟩
  length_encode := fun r => by
    show (r.initializer.bytes ++ Codec.u8.encode r.bump).length = 33
    rw [List.length_append, Pubkey.length_bytes, Codec.length_encode_u8]

/-- `Registry::invariant()`. -/
def invariant (r : Registry) : Except Error Unit :=
  require (r.initializer ≠ Pubkey.default) (dispatcherError .InvalidAccount)

/-- The seeds of the registry's address, without the bump. -/
def seeds : List (List UInt8) := [SEED_PREFIX, SEED_REGISTRY]

end Registry

/-- Records and the registry are told apart by their discriminators. -/
theorem discriminators_ne :
    Adapter.accountType.discriminator ≠ Registry.accountType.discriminator := by decide

/-! ## What an account holds -/

/-- The record held by an account of the dispatcher, if it holds one. -/
def heldAdapter (account : Account) : Option Adapter := Adapter.accountType.held ID account

/-- The registry held by an account of the dispatcher, if it holds one. -/
def heldRegistry (account : Account) : Option Registry := Registry.accountType.held ID account

theorem heldAdapter_of_plain {account : Account} (h : account.Plain) : heldAdapter account = none :=
  Adapter.accountType.held_of_owner_ne (h.owner.trans_ne ID_ne_system.symm)

theorem heldRegistry_of_plain {account : Account} (h : account.Plain) :
    heldRegistry account = none :=
  Registry.accountType.held_of_owner_ne (h.owner.trans_ne ID_ne_system.symm)

/-- No account holds both. -/
theorem heldRegistry_of_heldAdapter {account : Account} {a : Adapter}
    (h : heldAdapter account = some a) : heldRegistry account = none := by
  obtain ⟨howner, rest, hdata⟩ := Adapter.accountType.held_eq_some.mp h
  obtain ⟨lamports, owner, data⟩ := account
  subst howner hdata
  exact Registry.accountType.held_other lamports ID Adapter.accountType discriminators_ne a rest

end Dispatcher
