/-
# What the offsets hit

The accounts that Drift, Jupiter and MarginFi keep of a position, as images made of
their fields in order, and the bytes that `current_value` reads of them.

The offsets of Drift and of Jupiter are those of the fields that they are meant for.
MarginFi's is not: the group is counted, and then the authority is read.
-/
import YieldAdapter.Admissibility
import YieldAdapter.ReportedValue

open Solana Windows

/-! ## Layouts -/

/-- A field of `n` bytes. -/
abbrev Bytes (n : ℕ) := {bs : List UInt8 // bs.length = n}

/-- Drift's `User`, as far as the balance of the first spot position. -/
structure DriftUser where
  discriminator : Bytes 8
  authority : Pubkey
  delegate : Pubkey
  name : Bytes 32
  scaled_balance : UInt64
  rest : List UInt8

/-- Jupiter's `BorrowPosition`, as far as the locked collateral. -/
structure BorrowPosition where
  discriminator : Bytes 8
  owner : Pubkey
  pool : Pubkey
  custody : Pubkey
  open_time : Bytes 8
  update_time : Bytes 8
  borrow_size : Bytes 16
  interest_snapshot : Bytes 16
  locked_collateral : UInt64
  rest : List UInt8

/-- MarginFi's `MarginfiAccount`, as far as the asset shares of the first balance. -/
structure MarginfiAccount where
  discriminator : Bytes 8
  group : Pubkey
  authority : Pubkey
  active : UInt8
  bank_pk : Pubkey
  bank_asset_tag : UInt8
  padding : Bytes 6
  asset_shares : BitVec 128
  rest : List UInt8

namespace DriftUser

variable (u : DriftUser)

/-- The fields before the balance. -/
def before : List UInt8 := u.discriminator.1 ++ u.authority.bytes ++ u.delegate.bytes ++ u.name.1

/-- The account data. -/
def image : List UInt8 := u.before ++ u64Format.encode u.scaled_balance ++ u.rest

theorem length_before : u.before.length = DriftAdapter.SPOT_0_SCALED_BALANCE.toNat := by
  unfold before
  rw [List.length_append, List.length_append, List.length_append, u.discriminator.2, u.name.2,
    Pubkey.length_bytes, Pubkey.length_bytes]
  rfl

/-- Drift's offset is where the fields before the balance end. -/
theorem window_image :
    window u.image DriftAdapter.SPOT_0_SCALED_BALANCE.toNat 8 =
      u64Format.encode u.scaled_balance := by
  have hwindow := window_append u.before (u64Format.encode u.scaled_balance) u.rest
  rwa [u.length_before, u64Format.length_encode] at hwindow

end DriftUser

namespace BorrowPosition

variable (p : BorrowPosition)

/-- The fields before the collateral. -/
def before : List UInt8 :=
  p.discriminator.1 ++ p.owner.bytes ++ p.pool.bytes ++ p.custody.bytes ++ p.open_time.1 ++
    p.update_time.1 ++ p.borrow_size.1 ++ p.interest_snapshot.1

/-- The account data. -/
def image : List UInt8 := p.before ++ u64Format.encode p.locked_collateral ++ p.rest

theorem length_before : p.before.length = JupiterAdapter.LOCKED_COLLATERAL.toNat := by
  unfold before
  simp only [List.length_append, Pubkey.length_bytes, p.discriminator.2, p.open_time.2,
    p.update_time.2, p.borrow_size.2, p.interest_snapshot.2]
  rfl

/-- Jupiter's offset is where the fields before the collateral end. -/
theorem window_image :
    window p.image JupiterAdapter.LOCKED_COLLATERAL.toNat 8 =
      u64Format.encode p.locked_collateral := by
  have hwindow := window_append p.before (u64Format.encode p.locked_collateral) p.rest
  rwa [p.length_before, u64Format.length_encode] at hwindow

end BorrowPosition

namespace MarginfiAccount

variable (a : MarginfiAccount)

/-- The fields of the first balance before its shares. -/
def balance : List UInt8 := [a.active] ++ a.bank_pk.bytes ++ [a.bank_asset_tag] ++ a.padding.1

/-- The account data. -/
def image : List UInt8 :=
  a.discriminator.1 ++ a.group.bytes ++ a.authority.bytes ++ a.balance ++
    u128Format.encode a.asset_shares ++ a.rest

/-- **MarginFi's offset is that of the authority.** -/
theorem window_image :
    window a.image MarginfiAdapter.ASSET_SHARES.toNat 16 = a.authority.bytes.take 16 := by
  have hlength : (a.discriminator.1 ++ a.group.bytes).length =
      MarginfiAdapter.ASSET_SHARES.toNat := by
    rw [List.length_append, a.discriminator.2, Pubkey.length_bytes]
    rfl
  have hfield : (a.authority.bytes.take 16).length = 16 := by
    rw [List.length_take, Pubkey.length_bytes]
    rfl
  have himage : a.image = a.discriminator.1 ++ a.group.bytes ++ a.authority.bytes.take 16 ++
      (a.authority.bytes.drop 16 ++ a.balance ++ u128Format.encode a.asset_shares ++ a.rest) := by
    unfold image
    conv_lhs => rw [← List.take_append_drop 16 a.authority.bytes]
    simp only [List.append_assoc]
  have hwindow := window_append (a.discriminator.1 ++ a.group.bytes) (a.authority.bytes.take 16)
    (a.authority.bytes.drop 16 ++ a.balance ++ u128Format.encode a.asset_shares ++ a.rest)
  rwa [hlength, hfield, ← himage] at hwindow

end MarginfiAccount

/-! ## The low half of a word -/

/-- Casting a `u128` to a `u64` keeps its first 8 bytes. -/
theorem ofNat_decode_u128 {bs : List UInt8} (h : bs.length = 16) :
    UInt64.ofNat (u128Format.decode bs).toNat = u64Format.decode (bs.take 8) := by
  have hlt : LittleEndian.value bs < 2 ^ 128 := by
    have hvalue := LittleEndian.value_lt bs
    rw [h] at hvalue
    exact hvalue
  show UInt64.ofNat (BitVec.ofNat 128 (LittleEndian.value bs)).toNat =
    UInt64.ofNat (LittleEndian.value (bs.take 8))
  rw [BitVec.toNat_ofNat, Nat.mod_eq_of_lt hlt, LittleEndian.value_take]
  apply UInt64.toNat_inj.mp
  rw [UInt64.toNat_ofNat', UInt64.toNat_ofNat']
  omega

/-! ## Images -/

/-- An account of one of the three protocols. -/
inductive PositionImage where
  | drift (user : DriftUser)
  | jupiter (position : BorrowPosition)
  | marginfi (account : MarginfiAccount)

namespace PositionImage

/-- The adapter that reads it. -/
def adapter : PositionImage → Reference
  | .drift _ => .drift
  | .jupiter _ => .jupiter
  | .marginfi _ => .marginfi

/-- Its data. -/
def data : PositionImage → List UInt8
  | .drift user => user.image
  | .jupiter position => position.image
  | .marginfi account => account.image

/-- Where the adapter reads. -/
def offset : PositionImage → ℕ
  | .drift _ => DriftAdapter.SPOT_0_SCALED_BALANCE.toNat
  | .jupiter _ => JupiterAdapter.LOCKED_COLLATERAL.toNat
  | .marginfi _ => MarginfiAdapter.ASSET_SHARES.toNat

/-- How much it reads. -/
def size : PositionImage → ℕ
  | .drift _ | .jupiter _ => 8
  | .marginfi _ => 16

/-- The bytes that it reads. -/
def seen (p : PositionImage) : List UInt8 := window p.data p.offset p.size

/-- The bytes of the field that it claims to report. -/
def field : PositionImage → List UInt8
  | .drift user => u64Format.encode user.scaled_balance
  | .jupiter position => u64Format.encode position.locked_collateral
  | .marginfi account => u128Format.encode account.asset_shares

/-- The value of that field, of which MarginFi reports the low half. -/
def value : PositionImage → UInt64
  | .drift user => user.scaled_balance
  | .jupiter position => position.locked_collateral
  | .marginfi account => UInt64.ofNat account.asset_shares.toNat

/-- The first `n` bytes that are read are those of the field: on MarginFi, the authority
happens to begin like the shares. -/
def InPlace (n : ℕ) : PositionImage → Prop
  | .drift _ | .jupiter _ => True
  | .marginfi account =>
      account.authority.bytes.take n = (u128Format.encode account.asset_shares).take n

/-- On MarginFi, two accounts whose authorities begin alike. -/
def AuthoritiesAgree : PositionImage → PositionImage → Prop
  | .marginfi account, .marginfi account' =>
      account.authority.bytes.take 8 = account'.authority.bytes.take 8
  | _, _ => True

variable {p q : PositionImage} {X : ThirdParty}

theorem seen_drift (user : DriftUser) : (drift user).seen = (drift user).field := user.window_image

theorem seen_jupiter (position : BorrowPosition) :
    (jupiter position).seen = (jupiter position).field := position.window_image

theorem seen_marginfi (account : MarginfiAccount) :
    (marginfi account).seen = account.authority.bytes.take 16 := account.window_image

/-- Off MarginFi, what is read is the field. -/
theorem seen_of_ne (hp : p.adapter ≠ .marginfi) : p.seen = p.field := by
  cases p with
  | drift user => exact seen_drift user
  | jupiter position => exact seen_jupiter position
  | marginfi account => exact absurd rfl hp

theorem seen_take_eq_iff {n : ℕ} (hn : n ≤ 16) :
    p.seen.take n = p.field.take n ↔ p.InPlace n := by
  cases p with
  | drift user => exact iff_of_true (congrArg (List.take n) (seen_drift user)) trivial
  | jupiter position => exact iff_of_true (congrArg (List.take n) (seen_jupiter position)) trivial
  | marginfi account =>
      rw [seen_marginfi, List.take_take, Nat.min_eq_left hn]
      rfl

theorem length_field : p.field.length = p.size := by
  cases p with
  | drift user => exact u64Format.length_encode _
  | jupiter position => exact u64Format.length_encode _
  | marginfi account => exact u128Format.length_encode _

theorem length_seen : p.seen.length = p.size := by
  cases p with
  | drift user => exact (congrArg List.length (seen_drift user)).trans length_field
  | jupiter position => exact (congrArg List.length (seen_jupiter position)).trans length_field
  | marginfi account =>
      rw [seen_marginfi, List.length_take, Pubkey.length_bytes]
      rfl

theorem size_cases (p : PositionImage) : p.size = 8 ∨ p.size = 16 := by
  cases p with
  | drift user => exact .inl rfl
  | jupiter position => exact .inl rfl
  | marginfi account => exact .inr rfl

/-- An account that holds an image can be read. -/
theorem readable_of_data {info : AccountInfo} (h : info.data = p.data) :
    Reference.Readable X p.adapter info := by
  have hpos : 0 < p.size := by have := p.size_cases; omega
  have hbound : p.offset + p.size ≤ info.data.length := by
    rw [h]
    exact (length_window_eq_iff hpos).mp length_seen
  cases p with
  | drift user => exact hbound
  | jupiter position => exact hbound
  | marginfi account => exact hbound

/-- **What is reported** is what the first 8 bytes read stand for. -/
theorem valueOf_of_data {info : AccountInfo} (h : info.data = p.data) :
    Reference.valueOf X p.adapter info = u64Format.decode (p.seen.take 8) := by
  have hseen : window info.data p.offset p.size = p.seen := by rw [h, seen]
  cases p with
  | drift user =>
      have hlength : (drift user).seen.length = 8 := length_seen
      rw [List.take_of_length_le hlength.le]
      exact congrArg u64Format.decode hseen
  | jupiter position =>
      have hlength : (jupiter position).seen.length = 8 := length_seen
      rw [List.take_of_length_le hlength.le]
      exact congrArg u64Format.decode hseen
  | marginfi account =>
      have hlength : (marginfi account).seen.length = 16 := length_seen
      rw [← ofNat_decode_u128 hlength]
      exact congrArg (fun bs => UInt64.ofNat (u128Format.decode bs).toNat) hseen

/-- What is to be reported is what the first 8 bytes of the field stand for. -/
theorem value_eq (p : PositionImage) : p.value = u64Format.decode (p.field.take 8) := by
  cases p with
  | drift user =>
      have hlength : (drift user).field.length = 8 := length_field
      rw [List.take_of_length_le hlength.le]
      exact (u64Format.decode_encode user.scaled_balance trivial).symm
  | jupiter position =>
      have hlength : (jupiter position).field.length = 8 := length_field
      rw [List.take_of_length_le hlength.le]
      exact (u64Format.decode_encode position.locked_collateral trivial).symm
  | marginfi account =>
      have hlength : (marginfi account).field.length = 16 := length_field
      rw [← ofNat_decode_u128 hlength]
      exact congrArg (fun shares => UInt64.ofNat shares.toNat)
        (u128Format.decode_encode account.asset_shares trivial).symm

/-- The first 8 bytes are told apart by what they stand for. -/
theorem decode_take_inj {bs bs' : List UInt8} (h : 8 ≤ bs.length) (h' : 8 ≤ bs'.length) :
    u64Format.decode (bs.take 8) = u64Format.decode (bs'.take 8) ↔ bs.take 8 = bs'.take 8 :=
  u64Format.decode_inj (List.length_take_of_le h) (List.length_take_of_le h')

/-! ## Reports of an image -/

variable (X) in
/-- The accounts of a caller that the adapter takes, with an account that holds `p`. -/
def Shows (p : PositionImage) (accounts : List AccountInfo) : Prop :=
  ∃ authority info more, accounts = authority :: info :: more ∧ authority.is_signer = true ∧
    ((p.adapter.program X).current_value_mut = true → authority.is_writable = true) ∧
    info.data = p.data

variable {accounts accounts' : List AccountInfo}

theorem returns_of_shows (h : p.Shows X accounts) {v : UInt64} :
    (p.adapter.program X).Returns accounts v ↔ v = u64Format.decode (p.seen.take 8) := by
  obtain ⟨authority, info, more, rfl, hsigner, hmut, hdata⟩ := h
  rw [AdapterProgram.returns_iff, Reference.reports_iff]
  constructor
  · rintro ⟨_, _, _, heq, -, -, -, rfl⟩
    obtain ⟨-, hrest⟩ := List.cons.inj heq
    obtain ⟨rfl, -⟩ := List.cons.inj hrest
    exact valueOf_of_data hdata
  · rintro rfl
    exact ⟨_, _, _, rfl, hsigner, hmut, readable_of_data hdata, (valueOf_of_data hdata).symm⟩

/-- Two images with the same field are read alike unless their authorities differ. -/
theorem seen_take_eq_seen_take_iff (hadapter : p.adapter = q.adapter) (hfield : p.field = q.field) :
    p.seen.take 8 = q.seen.take 8 ↔ p.AuthoritiesAgree q := by
  have htake : ∀ account : MarginfiAccount,
      (marginfi account).seen.take 8 = account.authority.bytes.take 8 := by
    intro account
    rw [seen_marginfi, List.take_take]
    rfl
  cases p with
  | drift user =>
      have hsame : (drift user).seen = q.seen := by
        rw [seen_drift, hfield, seen_of_ne (by rw [← hadapter]; simp [adapter])]
      exact iff_of_true (congrArg (List.take 8) hsame) trivial
  | jupiter position =>
      have hsame : (jupiter position).seen = q.seen := by
        rw [seen_jupiter, hfield, seen_of_ne (by rw [← hadapter]; simp [adapter])]
      exact iff_of_true (congrArg (List.take 8) hsame) trivial
  | marginfi account =>
      cases q with
      | drift user => exact absurd hadapter (by simp [adapter])
      | jupiter position => exact absurd hadapter (by simp [adapter])
      | marginfi account' =>
          rw [htake, htake]
          rfl

/-- **When the offset read is the field claimed.**  The bytes read are those of the field,
and the value returned is the field's, on every image of Drift and of Jupiter, and on an
image of MarginFi only where its authority begins like its shares.  Two images with the
same field give the same value unless they are MarginFi's and their authorities differ. -/
theorem offset_reads_field_iff :
    (p.seen = p.field ↔ p.InPlace 16) ∧
    (p.Shows X accounts →
      ((p.adapter.program X).Returns accounts p.value ↔ p.InPlace 8)) ∧
    (p.Shows X accounts → q.Shows X accounts' → p.adapter = q.adapter → p.field = q.field →
      ((∀ v, (p.adapter.program X).Returns accounts v ↔
        (q.adapter.program X).Returns accounts' v) ↔ p.AuthoritiesAgree q)) := by
  have hseen : 8 ≤ p.seen.length := by have := p.size_cases; have := p.length_seen; omega
  have hseen' : 8 ≤ q.seen.length := by have := q.size_cases; have := q.length_seen; omega
  have hfield : 8 ≤ p.field.length := by have := p.size_cases; have := p.length_field; omega
  have hsize : p.size ≤ 16 := by have := p.size_cases; omega
  refine ⟨?_, ?_, ?_⟩
  -- nothing is longer than 16 bytes, so comparing 16 compares everything
  · rw [← seen_take_eq_iff (le_refl 16), List.take_of_length_le (length_seen.le.trans hsize),
      List.take_of_length_le (length_field.le.trans hsize)]
  · intro hshows
    rw [returns_of_shows hshows, value_eq, decode_take_inj hfield hseen, eq_comm,
      seen_take_eq_iff (by decide)]
  · intro hshows hshows' hadapter hfields
    -- each run returns one value, so the runs agree when the two values do
    have hvalues : (∀ v, (p.adapter.program X).Returns accounts v ↔
        (q.adapter.program X).Returns accounts' v) ↔
        u64Format.decode (p.seen.take 8) = u64Format.decode (q.seen.take 8) := by
      constructor
      · intro hsame
        exact (returns_of_shows hshows').mp ((hsame _).mp ((returns_of_shows hshows).mpr rfl))
      · intro heq v
        rw [returns_of_shows hshows, returns_of_shows hshows', heq]
    rw [hvalues, decode_take_inj hseen hseen', seen_take_eq_seen_take_iff hadapter hfields]

/-- A MarginFi account of `authority` that holds no shares. -/
def emptyMarginfi (authority : Pubkey) : PositionImage :=
  .marginfi ⟨⟨List.replicate 8 0, rfl⟩, Pubkey.default, authority, 1, Dispatcher.USDC, 0,
    ⟨List.replicate 6 0, rfl⟩, 0, []⟩

/-- A caller, and an account of MarginFi's that holds the image. -/
def showing (p : PositionImage) : List AccountInfo :=
  [⟨Dispatcher.INITIALIZER, true, true, 0, System.ID, []⟩,
    ⟨Dispatcher.USDC, false, false, 0, MarginfiAdapter.PROGRAM_ID, p.data⟩]

theorem shows_showing (p : PositionImage) : p.Shows X (showing p) :=
  ⟨_, _, _, rfl, rfl, fun _ => rfl, rfl⟩

/-- Of an account without shares, the first bytes of its authority are reported; and for
another authority, other bytes. -/
theorem offset_misses_field :
    let p := emptyMarginfi Dispatcher.INITIALIZER
    let q := emptyMarginfi Dispatcher.USDC
    p.seen ≠ p.field ∧ ¬ MarginfiAdapter.program.Returns (showing p) p.value ∧
      p.adapter = q.adapter ∧ p.field = q.field ∧
      ∃ v, MarginfiAdapter.program.Returns (showing p) v ∧
        ¬ MarginfiAdapter.program.Returns (showing q) v := by
  intro p q
  have hvalue : p.value ≠ u64Format.decode (p.seen.take 8) := by
    rw [show p.seen = _ from seen_marginfi _]
    decide
  have hother : u64Format.decode (p.seen.take 8) ≠ u64Format.decode (q.seen.take 8) := by
    rw [show p.seen = _ from seen_marginfi _, show q.seen = _ from seen_marginfi _]
    decide
  have hp : ∀ v, MarginfiAdapter.program.Returns (showing p) v ↔
      v = u64Format.decode (p.seen.take 8) :=
    fun v => returns_of_shows (X := Dispatcher.sampleThirdParty) (shows_showing p)
  have hq : ∀ v, MarginfiAdapter.program.Returns (showing q) v ↔
      v = u64Format.decode (q.seen.take 8) :=
    fun v => returns_of_shows (X := Dispatcher.sampleThirdParty) (shows_showing q)
  refine ⟨fun hfield => ?_, fun h => hvalue ((hp _).mp h), rfl, rfl, _, (hp _).mpr rfl,
    fun h => hother ((hq _).mp h)⟩
  rw [hfield, ← value_eq] at hvalue
  exact hvalue rfl

end PositionImage

/-! ## Numbers that do not fit -/

namespace MarginfiAdapter

variable {authority info : AccountInfo} {more : List AccountInfo} {v : UInt64}

theorem ofNat_toNat_eq_iff {n : ℕ} : v = UInt64.ofNat n ↔ v.toNat = n % 2 ^ 64 := by
  rw [← UInt64.toNat_inj, UInt64.toNat_ofNat']

/-- **The value is the number that is read modulo 2 ^ 64**, and there is one for every number
that can be read.  The code calls it `asset_shares`, whatever lies there. -/
theorem returns_iff_shares :
    program.Returns (authority :: info :: more) v ↔
      authority.is_signer = true ∧ authority.is_writable = true ∧
        ∃ asset_shares, read_u128_le info.data ASSET_SHARES = .ok asset_shares ∧
          v.toNat = asset_shares.toNat % 2 ^ 64 := by
  rw [AdapterProgram.returns_iff]
  constructor
  · rintro ⟨ctx, hctx, hvalue⟩
    obtain ⟨haccounts, hsigner, hmut⟩ := Context.try_accounts_eq_ok.mp hctx
    obtain ⟨rfl, hremaining⟩ := List.cons.inj haccounts
    change current_value ctx = .ok v at hvalue
    rw [Reference.marginfi_value_eq hremaining.symm] at hvalue
    obtain ⟨asset_shares, hread, hv⟩ := except_bind_eq_ok.mp hvalue
    exact ⟨hsigner, hmut rfl, asset_shares, hread,
      ofNat_toNat_eq_iff.mp (Except.ok.inj hv).symm⟩
  · rintro ⟨hsigner, hwritable, asset_shares, hread, hv⟩
    have hctx : Context.try_accounts program.current_value_mut (authority :: info :: more) =
        .ok ⟨authority, info :: more⟩ :=
      Context.try_accounts_eq_ok.mpr ⟨rfl, hsigner, fun _ => hwritable⟩
    refine ⟨_, hctx, ?_⟩
    show current_value _ = .ok v
    rw [Reference.marginfi_value_eq rfl]
    exact except_bind_eq_ok.mpr ⟨asset_shares, hread,
      congrArg Except.ok (ofNat_toNat_eq_iff.mpr hv).symm⟩

/-- Numbers with the same upper half are ordered and told apart by their lower halves. -/
theorem low_half_mono {a b : ℕ} (h : a / 2 ^ 64 = b / 2 ^ 64) :
    (a ≤ b ↔ a % 2 ^ 64 ≤ b % 2 ^ 64) ∧ (a ≠ b ↔ a % 2 ^ 64 ≠ b % 2 ^ 64) := by
  have ha := Nat.div_add_mod a (2 ^ 64)
  have hb := Nat.div_add_mod b (2 ^ 64)
  constructor
  · omega
  · omega

/-- **Numbers and values.**  What is returned is the number that is read at the adapter's
offset for the shares, modulo 2 ^ 64, and no number is refused for its size; numbers with
the same upper half, such as any two that fit into 64 bits, keep their order and are told
apart. -/
theorem shares_truncated :
    (∀ authority info more v, program.Returns (authority :: info :: more) v ↔
      authority.is_signer = true ∧ authority.is_writable = true ∧
        ∃ asset_shares, read_u128_le info.data ASSET_SHARES = .ok asset_shares ∧
          v.toNat = asset_shares.toNat % 2 ^ 64) ∧
    ∀ authority info more v authority' info' more' v',
      program.Returns (authority :: info :: more) v →
      program.Returns (authority' :: info' :: more') v' →
      ∃ shares shares', read_u128_le info.data ASSET_SHARES = .ok shares ∧
        read_u128_le info'.data ASSET_SHARES = .ok shares' ∧
        (shares.toNat / 2 ^ 64 = shares'.toNat / 2 ^ 64 →
          (shares ≤ shares' ↔ v ≤ v') ∧ (shares ≠ shares' ↔ v ≠ v')) := by
  refine ⟨fun _ _ _ _ => returns_iff_shares, ?_⟩
  intro authority info more v authority' info' more' v' h h'
  obtain ⟨-, -, shares, hread, hv⟩ := returns_iff_shares.mp h
  obtain ⟨-, -, shares', hread', hv'⟩ := returns_iff_shares.mp h'
  refine ⟨shares, shares', hread, hread', fun hhigh => ?_⟩
  obtain ⟨hle, hne⟩ := low_half_mono hhigh
  constructor
  · rw [BitVec.le_def, UInt64.le_iff_toNat_le, hv, hv']
    exact hle
  · rw [ne_eq, ne_eq, ← BitVec.toNat_inj, ← UInt64.toNat_inj, hv, hv']
    exact hne

/-- An account that has `shares` where the adapter reads. -/
def holding (shares : BitVec 128) : List AccountInfo :=
  [⟨Dispatcher.INITIALIZER, true, true, 0, System.ID, []⟩,
    ⟨Dispatcher.USDC, false, false, 0, PROGRAM_ID, u128Format.placed 0 ASSET_SHARES.toNat shares⟩]

theorem returns_holding (shares : BitVec 128) (h : v.toNat = shares.toNat % 2 ^ 64) :
    program.Returns (holding shares) v := by
  refine returns_iff_shares.mpr ⟨rfl, rfl, shares, ?_, h⟩
  have hlength := u128Format.length_placed (0 : UInt8) ASSET_SHARES.toNat shares
  refine (reads_u128_le.eq_ok_iff_valueAt (by decide)).mpr ⟨hlength.ge, ?_⟩
  exact (u128Format.valueAt_placed (0 : UInt8) ASSET_SHARES.toNat trivial).symm

/-- The number 1 gives 1, and the larger number 2 ^ 64 is not refused and gives 0. -/
theorem shares_not_monotone :
    program.Returns (holding 1#128) 1 ∧ program.Returns (holding 18446744073709551616#128) 0 ∧
      1#128 ≤ 18446744073709551616#128 ∧ ¬ (1 : UInt64) ≤ 0 :=
  ⟨returns_holding _ (by decide), returns_holding _ (by decide), by decide, by decide⟩

end MarginfiAdapter
