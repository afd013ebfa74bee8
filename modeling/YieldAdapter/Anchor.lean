/-
# Anchor's account checks

The checks that Anchor generates from an accounts struct, each as one function:
the account types (`Signer`, `Program<System>`, `Account<T>`) and the constraints
(`mut`, `address`, `seeds`, `has_one`, `init`), and the write-back of a typed
account on exit.

An account type `AccountType α` packages the discriminator and the format of `α`
with the facts every use needs: the format has a fixed size, and the discriminator
is not all zeros, so that a freshly created account holds no `α`.
-/
import YieldAdapter.SystemProgram

open Solana

/-! ## Account types -/

/-- The serialised form of a fixed-size Anchor account. -/
structure AccountType (α : Type) where
  discriminator : List UInt8
  codec : Codec α
  /-- `T::INIT_SPACE`. -/
  INIT_SPACE : ℕ
  length_discriminator : discriminator.length = 8
  discriminator_nonzero : ∃ b ∈ discriminator, b ≠ 0
  fits : ∀ a, codec.Fits a
  length_encode : ∀ a, (codec.encode a).length = INIT_SPACE

namespace AccountType

variable {ε α β : Type} (T : AccountType α)

/-- `try_serialize`. -/
def try_serialize (a : α) : List UInt8 := T.discriminator ++ T.codec.encode a

/-- `try_deserialize`: the discriminator, then the fields.  What follows them is
not looked at. -/
def try_deserialize (data : List UInt8) : Except (ProgramError ε) α :=
  if data.length < 8 then .error (.anchor .AccountDiscriminatorNotFound)
  else if data.take 8 ≠ T.discriminator then .error (.anchor .AccountDiscriminatorMismatch)
  else
    match T.codec.decode (data.drop 8) with
    | some (a, _) => .ok a
    | none => .error (.anchor .AccountDidNotDeserialize)

@[simp] theorem length_try_serialize (a : α) :
    (T.try_serialize a).length = 8 + T.INIT_SPACE := by
  rw [try_serialize, List.length_append, T.length_discriminator, T.length_encode]

/-- **What deserialises is a serialisation**, possibly followed by more bytes. -/
theorem try_deserialize_eq_ok {data : List UInt8} {a : α} :
    (T.try_deserialize data : Except (ProgramError ε) α) = .ok a ↔
      ∃ rest, data = T.try_serialize a ++ rest := by
  constructor
  · intro h
    rw [try_deserialize] at h
    -- past the two guards, the discriminator and the decoded bytes make up the data
    split_ifs at h with hshort hdisc
    cases hdecode : T.codec.decode (data.drop 8) with
    | none =>
        rw [hdecode] at h
        exact absurd h (by simp)
    | some p =>
        obtain ⟨a', rest⟩ := p
        rw [hdecode] at h
        obtain rfl := by simpa using h
        obtain ⟨-, hdata⟩ := (T.codec.decode_eq_some_iff _ _ _).mp hdecode
        refine ⟨rest, ?_⟩
        rw [try_serialize, List.append_assoc, ← hdata, ← not_ne_iff.mp hdisc,
          List.take_append_drop]
  · rintro ⟨rest, rfl⟩
    have htake : (T.try_serialize a ++ rest).take 8 = T.discriminator := by
      rw [try_serialize, List.append_assoc, List.take_left' T.length_discriminator]
    have hdrop : (T.try_serialize a ++ rest).drop 8 = T.codec.encode a ++ rest := by
      rw [try_serialize, List.append_assoc, List.drop_left' T.length_discriminator]
    rw [try_deserialize, htake, hdrop, T.codec.decode_encode_append (T.fits a),
      if_neg (by rw [List.length_append, length_try_serialize]; omega), if_neg (by simp)]

/-- Zero-filled data holds no `α`. -/
theorem try_deserialize_zeroed {data : List UInt8} (h : ∀ b ∈ data, b = 0) (a : α) :
    (T.try_deserialize data : Except (ProgramError ε) α) ≠ .ok a := by
  intro hok
  obtain ⟨rest, rfl⟩ := T.try_deserialize_eq_ok.mp hok
  obtain ⟨b, hb, hne⟩ := T.discriminator_nonzero
  exact hne (h b (by simp [try_serialize, hb]))

/-- Data that starts with the serialisation of one type holds no value of a type
with another discriminator. -/
theorem try_deserialize_other (S : AccountType β) (hne : S.discriminator ≠ T.discriminator)
    (b : β) (rest : List UInt8) (a : α) :
    (T.try_deserialize (S.try_serialize b ++ rest) : Except (ProgramError ε) α) ≠ .ok a := by
  intro hok
  obtain ⟨rest', hdata⟩ := T.try_deserialize_eq_ok.mp hok
  rw [try_serialize, try_serialize, List.append_assoc, List.append_assoc] at hdata
  have hlen : S.discriminator.length = T.discriminator.length := by
    rw [S.length_discriminator, T.length_discriminator]
  exact hne (List.append_inj hdata hlen).1

/-- The `α` held by an account of `owner`, if it holds one. -/
def held (owner : Pubkey) (account : Account) : Option α :=
  if account.owner = owner then
    match (T.try_deserialize account.data : Except (ProgramError Empty) α) with
    | .ok a => some a
    | .error _ => none
  else none

theorem held_eq_some {owner : Pubkey} {account : Account} {a : α} :
    T.held owner account = some a ↔
      account.owner = owner ∧ ∃ rest, account.data = T.try_serialize a ++ rest := by
  rw [held, ← T.try_deserialize_eq_ok (ε := Empty)]
  split_ifs with howner
  · cases (T.try_deserialize account.data : Except (ProgramError Empty) α) <;> simp [howner]
  · simp [howner]

/-- What an account holds is a matter of its owner and its data. -/
theorem held_congr {owner : Pubkey} {account account' : Account}
    (howner : account'.owner = account.owner) (hdata : account'.data = account.data) :
    T.held owner account' = T.held owner account := by
  rw [held, held, howner, hdata]

/-- An account that was just serialised into holds what was serialised. -/
theorem held_serialized (lamports : ℕ) (owner : Pubkey) (a : α) (rest : List UInt8) :
    T.held owner ⟨lamports, owner, T.try_serialize a ++ rest⟩ = some a :=
  T.held_eq_some.mpr ⟨rfl, rest, rfl⟩

/-- The account that was just serialised into has no more bytes than that. -/
theorem held_image (lamports : ℕ) (owner : Pubkey) (a : α) :
    T.held owner ⟨lamports, owner, T.try_serialize a⟩ = some a :=
  T.held_eq_some.mpr ⟨rfl, [], (List.append_nil _).symm⟩

theorem held_other (lamports : ℕ) (owner : Pubkey) (S : AccountType β)
    (hne : S.discriminator ≠ T.discriminator) (b : β) (rest : List UInt8) :
    T.held owner ⟨lamports, owner, S.try_serialize b ++ rest⟩ = none := by
  rw [Option.eq_none_iff_forall_ne_some]
  intro a ha
  exact T.try_deserialize_other (ε := Empty) S hne b rest a
    (T.try_deserialize_eq_ok.mpr (T.held_eq_some.mp ha).2)

theorem held_of_owner_ne {owner : Pubkey} {account : Account} (h : account.owner ≠ owner) :
    T.held owner account = none := by
  rw [held, if_neg h]

theorem held_zeroed {owner : Pubkey} {account : Account} (h : ∀ b ∈ account.data, b = 0) :
    T.held owner account = none := by
  rw [Option.eq_none_iff_forall_ne_some]
  intro a ha
  exact T.try_deserialize_zeroed (ε := Empty) h a
    (T.try_deserialize_eq_ok.mpr (T.held_eq_some.mp ha).2)

/-- **Programs other than the owner neither create, change nor remove what is
held.** -/
theorem held_of_frame {owner : Pubkey} {ℓ ℓ' : Ledger} (h : OwnerFrame owner ℓ ℓ') (k : Pubkey) :
    T.held owner (ℓ' k) = T.held owner (ℓ k) := by
  by_cases howner : (ℓ k).owner = owner
  · exact T.held_congr (h.kept k howner).owner (h.kept k howner).data
  · rw [T.held_of_owner_ne howner]
    by_cases howner' : (ℓ' k).owner = owner
    · exact T.held_zeroed (h.zeroed k howner howner')
    · exact T.held_of_owner_ne howner'

end AccountType

/-! ## The checks -/

namespace Anchor

variable {ε Ev α : Type}

/-- `EVENT_IX_TAG_LE`: what the data of an event that is emitted through a CPI starts with. -/
def EVENT_IX_TAG_LE : List UInt8 := [228, 69, 165, 46, 81, 203, 154, 29]

/-- The account of the next field of an accounts struct. -/
def next_account : List AccountInfo → Except (ProgramError ε) (AccountInfo × List AccountInfo)
  | [] => .error (.anchor .AccountNotEnoughKeys)
  | info :: rest => .ok (info, rest)

/-- `Signer`. -/
def signer (info : AccountInfo) : Except (ProgramError ε) Unit :=
  require info.is_signer (.anchor .AccountNotSigner)

/-- `Program<T>`. -/
def program (id : Pubkey) (info : AccountInfo) : Except (ProgramError ε) Unit :=
  require (info.key = id) (.anchor .InvalidProgramId)

/-- `Account<T>`: whether the account exists, its owner, then its contents. -/
def account (T : AccountType α) (owner : Pubkey) (info : AccountInfo) :
    Except (ProgramError ε) α := do
  require (¬ (info.owner = System.ID ∧ info.lamports = 0)) (.anchor .AccountNotInitialized)
  require (info.owner = owner) (.anchor .AccountOwnedByWrongProgram)
  T.try_deserialize info.data

/-- `#[account(mut)]`. -/
def constraint_mut (info : AccountInfo) : Except (ProgramError ε) Unit :=
  require info.is_writable (.anchor .ConstraintMut)

/-- `#[account(mut)]`, where it is declared. -/
def constraint_mut_if (declared : Bool) (info : AccountInfo) : Except (ProgramError ε) Unit :=
  if declared then constraint_mut info else .ok ()

/-- `#[account(address = key @ e)]`, also `has_one = key @ e`. -/
def constraint_key (actual expected : Pubkey) (e : ProgramError ε) :
    Except (ProgramError ε) Unit :=
  require (actual = expected) e

/-- `#[account(seeds = [..], bump = bump)]`. -/
def constraint_seeds (C : Crypto) (seeds : List (List UInt8)) (bump : UInt8)
    (program_id : Pubkey) (info : AccountInfo) : Except (ProgramError ε) Unit :=
  require (create_program_address C (seeds ++ [[bump]]) program_id = some info.key)
    (.anchor .ConstraintSeeds)

/-- `#[account(seeds = [..], bump)]`: the canonical bump, which it returns.  That
no bump works is a panic. -/
def constraint_seeds_find (C : Crypto) (seeds : List (List UInt8)) (program_id : Pubkey)
    (info : AccountInfo) : Except (ProgramError ε) UInt8 :=
  match find_program_address C seeds program_id with
  | none => .error .panic
  | some (address, bump) => do
      require (address = info.key) (.anchor .ConstraintSeeds)
      return bump

/-- The privileges of a call to the System program that funds or claims an account:
the program must have them itself.  The derived address `info` is signed for. -/
def privileges (payer info : AccountInfo) : Except (ProgramError ε) Unit :=
  require (payer.is_signer && payer.is_writable && info.is_writable) .privilegeEscalation

/-- What an address lacks in lamports is sent to it. -/
def topUp (required_lamports : ℕ) (payer info : AccountInfo) : Exec ε Ev Unit :=
  if required_lamports > 0 then do
    Exec.lift (privileges payer info)
    System.transfer payer.key info.key required_lamports
  else pure ()

/-- `init`, at an address to which lamports have been sent before. -/
def claim (owner : Pubkey) (space : ℕ) (payer info : AccountInfo) : Exec ε Ev Unit := do
  Exec.lift (require (payer.key ≠ info.key) (.anchor .TryingToInitPayerAsProgramAccount))
  let current ← Exec.readAccount info.key
  topUp (Rent.minimum_balance space - current.lamports) payer info
  Exec.lift (require info.is_writable .privilegeEscalation)
  System.allocate info.key space
  System.assign info.key owner

/-- `init`, wherever lamports have been sent before or not. -/
def create (owner : Pubkey) (space : ℕ) (payer info : AccountInfo) : Exec ε Ev Unit := do
  let current ← Exec.readAccount info.key
  if current.lamports = 0 then
    Exec.lift (privileges payer info)
    System.create_account payer.key info.key (Rent.minimum_balance space) space owner
  else claim owner space payer info

/-- `#[account(init, payer = payer, space = 8 + T::INIT_SPACE)]`, at a derived address:
the account is created zero-filled.  That it is declared `mut` comes after that. -/
def init (T : AccountType α) (owner : Pubkey) (payer info : AccountInfo) : Exec ε Ev Unit := do
  create owner (8 + T.INIT_SPACE) payer info
  Exec.lift (constraint_mut info)

/-- Write-back of a typed account when the instruction ends. -/
def exit (T : AccountType α) (key : Pubkey) (a : α) : Exec ε Ev Unit := do
  let current ← Exec.readAccount key
  Exec.lift (require ((T.try_serialize a).length ≤ current.data.length)
    (.anchor .AccountDidNotSerialize))
  Exec.writeAccount key { current with
    data := T.try_serialize a ++ current.data.drop (T.try_serialize a).length }

theorem next_account_eq_ok {accounts rest : List AccountInfo} {info : AccountInfo} :
    (next_account accounts : Except (ProgramError ε) _) = .ok (info, rest) ↔
      accounts = info :: rest := by
  cases accounts <;> simp [next_account]

theorem next_account_ne_panic (accounts : List AccountInfo) :
    (next_account accounts : Except (ProgramError ε) _) ≠ .error .panic := by
  cases accounts <;> simp [next_account]

theorem constraint_mut_if_ne_panic (declared : Bool) (info : AccountInfo) :
    (constraint_mut_if declared info : Except (ProgramError ε) Unit) ≠ .error .panic := by
  intro h
  cases declared with
  | false => exact absurd h (by simp [constraint_mut_if])
  | true => exact absurd (require_eq_error.mp h).2 (by simp)

theorem account_eq_ok {T : AccountType α} {owner : Pubkey} (hsystem : owner ≠ System.ID)
    {info : AccountInfo} {a : α} :
    (account T owner info : Except (ProgramError ε) α) = .ok a ↔
      T.held owner ⟨info.lamports, info.owner, info.data⟩ = some a := by
  rw [T.held_eq_some, ← T.try_deserialize_eq_ok (ε := ε)]
  by_cases h : info.owner = owner
  · -- an account that the program owns exists
    have hexists : ¬ (info.owner = System.ID ∧ info.lamports = 0) := fun hvacant =>
      hsystem (h.symm.trans hvacant.1)
    rw [account, decide_eq_true hexists, decide_eq_true h]
    exact (and_iff_right h).symm
  · rw [account, decide_eq_false h]
    by_cases hexists : info.owner = System.ID ∧ info.lamports = 0
    · rw [decide_eq_false (not_not_intro hexists)]
      simp [h, bind, Except.bind]
    · simp [hexists, h, bind, Except.bind]

/-- On a loaded account, `Account<T>` yields what the ledger holds there. -/
theorem account_load_eq_ok {T : AccountType α} {owner : Pubkey} (hsystem : owner ≠ System.ID)
    {ℓ : Ledger} {i : AccountMeta} {a : α} :
    (account T owner (AccountInfo.load ℓ i) : Except (ProgramError ε) α) = .ok a ↔
      T.held owner (ℓ i.pubkey) = some a := account_eq_ok hsystem

theorem constraint_seeds_eq_ok {C : Crypto} {seeds : List (List UInt8)} {bump : UInt8}
    {program_id : Pubkey} {info : AccountInfo} {u : Unit} :
    (constraint_seeds C seeds bump program_id info : Except (ProgramError ε) Unit) = .ok u ↔
      create_program_address C (seeds ++ [[bump]]) program_id = some info.key := by
  rw [constraint_seeds, require_eq_ok, decide_eq_true_eq]

theorem constraint_seeds_find_eq_ok {C : Crypto} {seeds : List (List UInt8)} {bump : UInt8}
    {program_id : Pubkey} {info : AccountInfo} :
    (constraint_seeds_find C seeds program_id info : Except (ProgramError ε) UInt8) = .ok bump ↔
      find_program_address C seeds program_id = some (info.key, bump) := by
  rw [constraint_seeds_find]
  rcases find_program_address C seeds program_id with _ | ⟨address, found⟩
  · simp
  · by_cases h : address = info.key
    · simp [h, bind, Except.bind, pure, Except.pure]
    · simp [h, bind, Except.bind]

theorem constraint_mut_eq_ok {info : AccountInfo} {u : Unit} :
    (constraint_mut info : Except (ProgramError ε) Unit) = .ok u ↔ info.is_writable = true :=
  require_eq_ok

theorem privileges_eq_ok {payer info : AccountInfo} {u : Unit} :
    (privileges payer info : Except (ProgramError ε) Unit) = .ok u ↔
      payer.is_signer = true ∧ payer.is_writable = true ∧ info.is_writable = true := by
  rw [privileges, require_eq_ok, Bool.and_eq_true, Bool.and_eq_true, and_assoc]

section Init

variable {owner : Pubkey} {payer info : AccountInfo} {space : ℕ} {env : Env ε Ev}
  {m m' : Machine Ev} {u : Unit}

/-- The payer has the privileges to pay for what an account lacks, if it lacks anything. -/
def CanPay (ℓ : Ledger) (payer info : AccountInfo) (space : ℕ) : Prop :=
  System.rentDue ℓ info.key space = 0 ∨ (payer.is_signer = true ∧ payer.is_writable = true)

theorem topUp_eq_ok {required_lamports : ℕ} (hne : payer.key ≠ info.key) :
    (topUp required_lamports payer info : Exec ε Ev Unit) env m = (.ok u, m') ↔
      (required_lamports = 0 ∨ (payer.is_signer = true ∧ payer.is_writable = true ∧
        info.is_writable = true)) ∧
      (required_lamports = 0 ∨ ((m.ledger payer.key).Plain ∧
        required_lamports ≤ (m.ledger payer.key).lamports)) ∧
      m' = (m.write payer.key { m.ledger payer.key with
          lamports := (m.ledger payer.key).lamports - required_lamports }).write info.key
        { m.ledger info.key with
          lamports := (m.ledger info.key).lamports + required_lamports } := by
  rcases Nat.eq_zero_or_pos required_lamports with rfl | hpos
  · -- nothing is sent
    have hsame : (m.write payer.key (m.ledger payer.key)).write info.key (m.ledger info.key) =
        m := by
      rw [m.write_ledger, m.write_ledger]
    simp only [topUp, gt_iff_lt, lt_irrefl, if_false, true_or, true_and, Nat.sub_zero,
      Nat.add_zero, hsame]
    exact ⟨fun h => (Prod.mk.inj h).2.symm, fun h => by rw [h]; rfl⟩
  · simp only [topUp, gt_iff_lt, hpos, if_true, Exec.bind_eq_ok, Exec.lift_eq_ok,
      privileges_eq_ok, System.transfer_eq_ok hne hpos, and_assoc, exists_and_left,
      exists_eq_left, exists_const, hpos.ne', false_or]

theorem claim_eq_ok :
    (claim owner space payer info : Exec ε Ev Unit) env m = (.ok u, m') ↔
      info.is_writable = true ∧ CanPay m.ledger payer info space ∧
        System.Creatable m.ledger payer.key info.key space ∧
        m' = m.create payer.key info.key owner (List.replicate space 0) := by
  have hplain : ∀ n, (⟨n, (m.ledger info.key).owner, (m.ledger info.key).data⟩ : Account).Plain ↔
      (m.ledger info.key).Plain := fun n => ⟨fun h => ⟨h.owner, h.data⟩, fun h => ⟨h.owner, h.data⟩⟩
  by_cases hne : payer.key = info.key
  · -- the address cannot pay for itself
    have hapart : ¬ System.Creatable m.ledger payer.key info.key space := fun h => h.apart hne
    simp only [claim, Exec.bind_eq_ok, Exec.lift_eq_ok, require_eq_ok, decide_eq_true_eq, ne_eq,
      hne, not_true_eq_false, false_and, exists_false, false_iff]
    exact fun h => hapart (hne ▸ h.2.2.1)
  · simp only [claim, Exec.bind_eq_ok, Exec.readAccount_eq_ok, Exec.lift_eq_ok, require_eq_ok,
      decide_eq_true_eq, topUp_eq_ok hne, System.allocate_eq_ok, System.assign_eq_ok, and_assoc,
      exists_and_left, exists_eq_left, exists_const, Machine.ledger_write, Function.update_self,
      Machine.write_write, hplain, Machine.create_eq_write, List.length_replicate, CanPay]
    constructor
    · rintro ⟨-, hpay, hfunds, hwritable, hplain, rfl⟩
      exact ⟨hwritable, hpay.imp_right fun h => ⟨h.1, h.2.1⟩, ⟨hplain, hne, hfunds⟩, rfl⟩
    · rintro ⟨hwritable, hpay, ⟨hplain, -, hfunds⟩, rfl⟩
      exact ⟨hne, hpay.imp_right fun h => ⟨h.1, h.2, hwritable⟩, hfunds, hwritable, hplain, rfl⟩

theorem create_eq_ok (hspace : 0 < space) :
    (create owner space payer info : Exec ε Ev Unit) env m = (.ok u, m') ↔
      info.is_writable = true ∧ CanPay m.ledger payer info space ∧
        System.Creatable m.ledger payer.key info.key space ∧
        m' = m.create payer.key info.key owner (List.replicate space 0) := by
  by_cases hempty : (m.ledger info.key).lamports = 0
  · have hrent := Rent.minimum_balance_pos space
    have hdue : System.rentDue m.ledger info.key space = Rent.minimum_balance space := by
      rw [System.rentDue, hempty, Nat.sub_zero]
    simp only [create, Exec.bind_eq_ok, Exec.readAccount_eq_ok, Exec.lift_eq_ok, hempty, if_true,
      privileges_eq_ok, System.create_account_eq_ok hrent hspace, and_assoc, exists_and_left,
      exists_eq_left, exists_const, CanPay, hdue, hrent.ne', false_or, Machine.create_eq_write,
      List.length_replicate, Nat.zero_add, true_and]
    constructor
    · rintro ⟨hsigner, hpayer, hwritable, hplain, hne, hplain', hfunds, rfl⟩
      exact ⟨hwritable, hsigner, hpayer, ⟨hplain, hne, .inr ⟨hplain', hdue ▸ hfunds⟩⟩, rfl⟩
    · rintro ⟨hwritable, hsigner, hpayer, ⟨hplain, hne, hfunds⟩, rfl⟩
      rw [hdue] at hfunds
      obtain ⟨hplain', hfunds⟩ := hfunds.resolve_left hrent.ne'
      exact ⟨hsigner, hpayer, hwritable, hplain, hne, hplain', hfunds, rfl⟩
  · simp only [create, Exec.bind_eq_ok, Exec.readAccount_eq_ok, and_assoc, exists_and_left,
      exists_eq_left, hempty, if_false, claim_eq_ok]

/-- **What `init` does**, when it succeeds. -/
theorem init_eq_ok {T : AccountType α} :
    (init T owner payer info : Exec ε Ev Unit) env m = (.ok u, m') ↔
      info.is_writable = true ∧ CanPay m.ledger payer info (8 + T.INIT_SPACE) ∧
        System.Creatable m.ledger payer.key info.key (8 + T.INIT_SPACE) ∧
        m' = m.create payer.key info.key owner (List.replicate (8 + T.INIT_SPACE) 0) := by
  have hspace : 0 < 8 + T.INIT_SPACE := by omega
  simp only [init, Exec.bind_eq_ok, create_eq_ok hspace, Exec.lift_eq_ok, constraint_mut_eq_ok]
  constructor
  · rintro ⟨_, m₁, ⟨hwritable, hpay, hcreatable, rfl⟩, -, rfl⟩
    exact ⟨hwritable, hpay, hcreatable, rfl⟩
  · rintro ⟨hwritable, hpay, hcreatable, rfl⟩
    exact ⟨(), _, ⟨hwritable, hpay, hcreatable, rfl⟩, hwritable, rfl⟩

end Init

/-- **What write-back does**, when it succeeds. -/
theorem exit_eq_ok {T : AccountType α} {key : Pubkey} {a : α} {env : Env ε Ev}
    {m m' : Machine Ev} {u : Unit} :
    (exit T key a : Exec ε Ev Unit) env m = (.ok u, m') ↔
      8 + T.INIT_SPACE ≤ (m.ledger key).data.length ∧
        m' = m.write key { m.ledger key with
          data := T.try_serialize a ++ (m.ledger key).data.drop (8 + T.INIT_SPACE) } := by
  simp only [exit, Exec.bind_eq_ok, Exec.readAccount_eq_ok, Exec.writeAccount_eq_ok,
    Exec.lift_eq_ok, require_eq_ok, decide_eq_true_eq, and_assoc, exists_and_left, exists_eq_left,
    exists_const, T.length_try_serialize]

/-- Write-back to an account that `init` has just created. -/
theorem exit_after_init {T : AccountType α} {owner payer key : Pubkey} {a : α} {env : Env ε Ev}
    {m m' : Machine Ev} {u : Unit} :
    (exit T key a : Exec ε Ev Unit) env
        (m.create payer key owner (List.replicate (8 + T.INIT_SPACE) 0)) = (.ok u, m') ↔
      m' = m.create payer key owner (T.try_serialize a) := by
  have hlength : (T.try_serialize a).length =
      (List.replicate (8 + T.INIT_SPACE) (0 : UInt8)).length := by
    rw [T.length_try_serialize, List.length_replicate]
  rw [exit_eq_ok]
  simp only [Machine.ledger_create, System.created_self, List.length_replicate, le_refl, true_and,
    List.drop_replicate, Nat.sub_self, List.replicate_zero, List.append_nil]
  rw [Machine.create_eq_write, Machine.create_eq_write, Machine.write_write, hlength,
    List.length_replicate]

theorem signer_eq_ok {info : AccountInfo} {u : Unit} :
    (signer info : Except (ProgramError ε) Unit) = .ok u ↔ info.is_signer = true := require_eq_ok

theorem program_eq_ok {id : Pubkey} {info : AccountInfo} {u : Unit} :
    (program id info : Except (ProgramError ε) Unit) = .ok u ↔ info.key = id := by
  rw [program, require_eq_ok, decide_eq_true_eq]

theorem constraint_mut_if_eq_ok {declared : Bool} {info : AccountInfo} {u : Unit} :
    (constraint_mut_if declared info : Except (ProgramError ε) Unit) = .ok u ↔
      (declared = true → info.is_writable = true) := by
  cases declared <;> simp [constraint_mut_if, constraint_mut_eq_ok]

theorem constraint_key_eq_ok {actual expected : Pubkey} {e : ProgramError ε} {u : Unit} :
    constraint_key actual expected e = .ok u ↔ actual = expected := by
  rw [constraint_key, require_eq_ok, decide_eq_true_eq]

end Anchor
