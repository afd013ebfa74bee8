/-
# Accounts, ledgers and program-derived addresses

The part of the Solana runtime that any program sees: public keys, the accounts
an instruction names and the privileges it names them with, the ledger behind
them, and the derivation of program addresses.

Two functions of the runtime are not defined by Solana's documentation in terms
of anything simpler and stay parameters (`Crypto`): the hash and the test that
an address lies on the curve.  No result below assumes anything about them.
-/
import YieldAdapter.Borsh

namespace Solana

/-! ## Public keys -/

/-- A 32-byte address. -/
structure Pubkey where
  bytes : List UInt8
  size : bytes.length = 32
  deriving DecidableEq

namespace Pubkey

/-- The all-zero key. -/
def default : Pubkey := ⟨List.replicate 32 0, rfl⟩

instance : Inhabited Pubkey := ⟨default⟩

@[simp] theorem length_bytes (k : Pubkey) : k.bytes.length = 32 := k.size

/-- A key is the array of its bytes. -/
def equivArray : {bs : List UInt8 // bs.length = 32} ≃ Pubkey where
  toFun := fun a => ⟨a.val, a.property⟩
  invFun := fun k => ⟨k.bytes, k.size⟩
  left_inv := fun _ => rfl
  right_inv := fun _ => rfl

/-- The Borsh format of a key. -/
def codec : Codec Pubkey := (Codec.array 32).imap equivArray

end Pubkey

/-- The System program: the owner of every account that no program has claimed. -/
def System.ID : Pubkey := Pubkey.default

/-! ## The ledger -/

/-- What the ledger stores at an address. -/
structure Account where
  lamports : ℕ
  owner : Pubkey
  data : List UInt8
  deriving DecidableEq

/-- The account at an address that nobody has created. -/
def Account.vacant : Account := ⟨0, System.ID, []⟩

/-- An account of the System program without data: a wallet, or an address that no
program has claimed, whether lamports have been sent to it or not. -/
structure Account.Plain (a : Account) : Prop where
  owner : a.owner = System.ID
  data : a.data = []

instance (a : Account) : Decidable a.Plain :=
  decidable_of_iff (a.owner = System.ID ∧ a.data = [])
    ⟨fun h => ⟨h.1, h.2⟩, fun h => ⟨h.owner, h.data⟩⟩

theorem Account.plain_vacant : vacant.Plain := ⟨rfl, rfl⟩

/-- What is left of an account by programs that do not own it: they may send lamports
to it. -/
structure Account.Kept (a a' : Account) : Prop where
  owner : a'.owner = a.owner
  data : a'.data = a.data
  lamports : a.lamports ≤ a'.lamports

theorem Account.Kept.refl (a : Account) : a.Kept a := ⟨rfl, rfl, le_rfl⟩

theorem Account.Kept.trans {a₁ a₂ a₃ : Account} (h₁ : a₁.Kept a₂) (h₂ : a₂.Kept a₃) :
    a₁.Kept a₃ :=
  ⟨h₂.owner.trans h₁.owner, h₂.data.trans h₁.data, h₁.lamports.trans h₂.lamports⟩

/-- All accounts.  An address that was never used holds `Account.vacant`. -/
abbrev Ledger := Pubkey → Account

/-- The runtime's protection of accounts: between `ℓ` and `ℓ'` every account of `owner`
has been kept, and the accounts newly assigned to `owner` are zero-filled.  This is
what programs other than `owner` can do. -/
structure OwnerFrame (owner : Pubkey) (ℓ ℓ' : Ledger) : Prop where
  kept : ∀ k, (ℓ k).owner = owner → (ℓ k).Kept (ℓ' k)
  zeroed : ∀ k, (ℓ k).owner ≠ owner → (ℓ' k).owner = owner → ∀ b ∈ (ℓ' k).data, b = 0

theorem OwnerFrame.refl (owner : Pubkey) (ℓ : Ledger) : OwnerFrame owner ℓ ℓ :=
  ⟨fun k _ => .refl (ℓ k), fun _ hne heq => absurd heq hne⟩

theorem OwnerFrame.trans {owner : Pubkey} {ℓ₁ ℓ₂ ℓ₃ : Ledger}
    (h₁ : OwnerFrame owner ℓ₁ ℓ₂) (h₂ : OwnerFrame owner ℓ₂ ℓ₃) : OwnerFrame owner ℓ₁ ℓ₃ where
  kept := fun k hk => by
    have hmid := h₁.kept k hk
    exact hmid.trans (h₂.kept k (hmid.owner.trans hk))
  zeroed := fun k hne heq => by
    by_cases hmid : (ℓ₂ k).owner = owner
    · rw [(h₂.kept k hmid).data]
      exact h₁.zeroed k hne hmid
    · exact h₂.zeroed k hmid heq

/-! ## Instructions and the accounts they name -/

/-- An account of an instruction, with the privileges the instruction asks for. -/
structure AccountMeta where
  pubkey : Pubkey
  is_signer : Bool
  is_writable : Bool
  deriving DecidableEq

/-- `AccountMeta::new_readonly`. -/
def AccountMeta.new_readonly (pubkey : Pubkey) (is_signer : Bool) : AccountMeta :=
  ⟨pubkey, is_signer, false⟩

/-- An instruction, as handed to `invoke`. -/
structure Instruction where
  program_id : Pubkey
  accounts : List AccountMeta
  data : List UInt8
  deriving DecidableEq

/-- An account as a running program sees it. -/
structure AccountInfo where
  key : Pubkey
  is_signer : Bool
  is_writable : Bool
  lamports : ℕ
  owner : Pubkey
  data : List UInt8
  deriving DecidableEq

/-- The account a meta names, read from the ledger. -/
def AccountInfo.load (ℓ : Ledger) (a : AccountMeta) : AccountInfo :=
  ⟨a.pubkey, a.is_signer, a.is_writable, (ℓ a.pubkey).lamports, (ℓ a.pubkey).owner,
    (ℓ a.pubkey).data⟩

/-- The meta that names an account with the privileges it has here. -/
def AccountInfo.toMeta (a : AccountInfo) : AccountMeta :=
  { pubkey := a.key, is_signer := a.is_signer, is_writable := a.is_writable }

/-- Forwarding loaded accounts reproduces the metas they were loaded from. -/
@[simp] theorem map_toMeta_load (ℓ : Ledger) (as : List AccountMeta) :
    (as.map (AccountInfo.load ℓ)).map AccountInfo.toMeta = as := by
  rw [List.map_map]
  exact List.map_id as

/-! ## Privileges inside a CPI -/

/-- The runtime gives a key, at each of its occurrences, the union of the
privileges that the instruction's metas ask for it. -/
def mergeFlags (as : List AccountMeta) : List AccountMeta :=
  as.map fun a =>
    { pubkey := a.pubkey
      is_signer := as.any fun b => b.pubkey = a.pubkey && b.is_signer
      is_writable := as.any fun b => b.pubkey = a.pubkey && b.is_writable }

/-- The accounts a callee sees. -/
def cpiAccounts (ℓ : Ledger) (as : List AccountMeta) : List AccountInfo :=
  (mergeFlags as).map (AccountInfo.load ℓ)

/-- Every occurrence of one key carries the same privileges. -/
def FlagsAgree (as : List AccountMeta) : Prop :=
  ∀ a ∈ as, ∀ b ∈ as, a.pubkey = b.pubkey → a = b

instance (as : List AccountMeta) : Decidable (FlagsAgree as) :=
  inferInstanceAs (Decidable (∀ a ∈ as, ∀ b ∈ as, a.pubkey = b.pubkey → a = b))

/-- Privileges `a` asks for that `b` has as well. -/
def AccountMeta.Within (a b : AccountMeta) : Prop :=
  a.pubkey = b.pubkey ∧ (a.is_signer = true → b.is_signer = true) ∧
    (a.is_writable = true → b.is_writable = true)

theorem any_flag_eq {as : List AccountMeta} {f : AccountMeta → Bool} {a : AccountMeta}
    (ha : a ∈ as) (hagree : ∀ b ∈ as, b.pubkey = a.pubkey → f b = true → f a = true) :
    (as.any fun b => b.pubkey = a.pubkey && f b) = f a := by
  rw [Bool.eq_iff_iff, List.any_eq_true]
  constructor
  · rintro ⟨b, hb, h⟩
    obtain ⟨hkey, hf⟩ := by simpa only [Bool.and_eq_true, decide_eq_true_eq] using h
    exact hagree b hb hkey hf
  · intro hf
    exact ⟨a, ha, by simp [hf]⟩

/-- **Merging changes no agreeing list**, whatever weaker privileges its keys are
also asked for at the front: the accounts behind the front keep their flags. -/
theorem mergeFlags_append_of_within {front as : List AccountMeta} (hagree : FlagsAgree as)
    (hfront : ∀ a ∈ front, ∀ b ∈ as, a.pubkey = b.pubkey → a.Within b) :
    (mergeFlags (front ++ as)).drop front.length = as := by
  rw [mergeFlags, List.map_append, List.drop_left' (List.length_map _)]
  -- no occurrence of a key, in front or behind, asks for more than those behind
  have hsame : ∀ a ∈ as, ∀ b ∈ front ++ as, b.pubkey = a.pubkey → b.Within a := by
    intro a ha b hb hkey
    rcases List.mem_append.mp hb with hb | hb
    · exact hfront b hb a ha hkey
    · rw [hagree b hb a ha hkey]
      exact ⟨rfl, id, id⟩
  refine (List.map_congr_left ?_).trans (List.map_id as)
  intro a ha
  have hmem : a ∈ front ++ as := List.mem_append_right _ ha
  rw [any_flag_eq (f := AccountMeta.is_signer) hmem
      (fun b hb hkey => (hsame a ha b hb hkey).2.1),
    any_flag_eq (f := AccountMeta.is_writable) hmem
      (fun b hb hkey => (hsame a ha b hb hkey).2.2)]
  rfl

/-- The accounts behind a read-only signer that is put in front of a list: the
signer is writable if the list says so, and the others follow. -/
theorem cpiAccounts_new_readonly (ℓ : Ledger) (k : Pubkey) (as : List AccountMeta) :
    cpiAccounts ℓ (AccountMeta.new_readonly k true :: as) =
      AccountInfo.load ℓ ⟨k, true, as.any fun b => b.pubkey = k && b.is_writable⟩ ::
        ((mergeFlags (AccountMeta.new_readonly k true :: as)).drop 1).map
          (AccountInfo.load ℓ) := by
  simp [cpiAccounts, mergeFlags, AccountMeta.new_readonly]

/-! ## Program-derived addresses -/

/-- The two primitives of address derivation. -/
structure Crypto where
  /-- `sha256` of a byte string. -/
  sha256 : List UInt8 → Pubkey
  /-- Whether the bytes are a point of the ed25519 curve. -/
  bytes_are_curve_point : Pubkey → Bool

/-- `MAX_SEEDS`. -/
def MAX_SEEDS : ℕ := 16

/-- `MAX_SEED_LEN`. -/
def MAX_SEED_LEN : ℕ := 32

/-- `b"ProgramDerivedAddress"`. -/
def PDA_MARKER : List UInt8 :=
  [80, 114, 111, 103, 114, 97, 109, 68, 101, 114, 105, 118, 101, 100, 65, 100, 100, 114, 101, 115,
    115]

variable (C : Crypto)

/-- `Pubkey::create_program_address`. -/
def create_program_address (seeds : List (List UInt8)) (program_id : Pubkey) : Option Pubkey :=
  if seeds.length > MAX_SEEDS then none
  else if seeds.any (fun s => s.length > MAX_SEED_LEN) then none
  else
    let hash := C.sha256 (seeds.flatten ++ program_id.bytes ++ PDA_MARKER)
    if C.bytes_are_curve_point hash then none else some hash

/-- The bump seeds from `bump` down to `1`, tried in order. -/
def tryBumps (seeds : List (List UInt8)) (program_id : Pubkey) : ℕ → Option (Pubkey × UInt8)
  | 0 => none
  | bump + 1 =>
      match create_program_address C (seeds ++ [[UInt8.ofNat (bump + 1)]]) program_id with
      | some address => some (address, UInt8.ofNat (bump + 1))
      | none => tryBumps seeds program_id bump

/-- `Pubkey::try_find_program_address`. -/
def find_program_address (seeds : List (List UInt8)) (program_id : Pubkey) :
    Option (Pubkey × UInt8) :=
  tryBumps C seeds program_id 255

theorem tryBumps_sound {seeds : List (List UInt8)} {program_id : Pubkey} {n : ℕ}
    {address : Pubkey} {bump : UInt8}
    (h : tryBumps C seeds program_id n = some (address, bump)) :
    create_program_address C (seeds ++ [[bump]]) program_id = some address := by
  induction n with
  | zero => exact absurd h (by simp [tryBumps])
  | succ n ih =>
      rw [tryBumps] at h
      cases hcreate : create_program_address C (seeds ++ [[UInt8.ofNat (n + 1)]]) program_id with
      | none =>
          rw [hcreate] at h
          exact ih h
      | some found =>
          rw [hcreate] at h
          obtain ⟨rfl, rfl⟩ := by simpa only [Option.some.injEq, Prod.mk.injEq] using h
          exact hcreate

/-- The bump that is found derives the address that is found. -/
theorem create_of_find {seeds : List (List UInt8)} {program_id address : Pubkey} {bump : UInt8}
    (h : find_program_address C seeds program_id = some (address, bump)) :
    create_program_address C (seeds ++ [[bump]]) program_id = some address :=
  tryBumps_sound C h

/-- A derived address is a hash that is not on the curve. -/
theorem sha256_of_find {seeds : List (List UInt8)} {program_id address : Pubkey} {bump : UInt8}
    (h : find_program_address C seeds program_id = some (address, bump)) :
    (∃ bs, C.sha256 bs = address) ∧ C.bytes_are_curve_point address = false := by
  have hcreate := create_of_find C h
  rw [create_program_address] at hcreate
  split_ifs at hcreate
  dsimp only at hcreate
  split_ifs at hcreate with hcurve
  obtain rfl := Option.some.inj hcreate
  exact ⟨⟨_, rfl⟩, Bool.eq_false_iff.mpr hcurve⟩

end Solana
