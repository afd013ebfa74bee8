/-
# The readers of account data

`read_bytes` takes a window out of raw account data, with every bound checked, and
the readers of numbers and keys decode the window they get.  Each reads a format of
fixed size at an offset: it succeeds when the window lies in the data, and what it
returns is what is encoded there.
-/
import YieldAdapter.Interface
import YieldAdapter.Windows

open Solana Windows

/-! ## Formats -/

/-- What fits into 8 bytes is a `u64`. -/
theorem toNat_ofNat_of_lt_bytes (n : ℕ) (h : n < 256 ^ 8) : (UInt64.ofNat n).toNat = n := by
  rw [UInt64.toNat_ofNat']
  omega

/-- A `u64` fits into 8 bytes. -/
theorem toNat_lt_bytes (a : UInt64) : a.toNat < 256 ^ 8 := by
  have := a.toNat_lt
  omega

/-- `u64`. -/
def u64Format : FixedFormat UInt64 UInt8 8 :=
  .word 8 UInt64.toNat UInt64.ofNat (fun _ => True) (fun _ _ => UInt64.ofNat_toNat)
    toNat_ofNat_of_lt_bytes (fun _ _ => trivial) toNat_lt_bytes

/-- `u128`. -/
def u128Format : FixedFormat (BitVec 128) UInt8 16 :=
  .word 16 BitVec.toNat (BitVec.ofNat 128) (fun _ => True) (fun a _ => BitVec.ofNat_toNat 128 a)
    (fun n h => by rw [BitVec.toNat_ofNat]; omega) (fun _ _ => trivial)
    (fun a => by have := a.isLt; omega)

/-- `i128`, in two's complement. -/
def i128Format : FixedFormat ℤ UInt8 16 :=
  .word 16 (fun v => (BitVec.ofInt 128 v).toNat) (fun n => (BitVec.ofNat 128 n).toInt)
    (fun v => -2 ^ 127 ≤ v ∧ v < 2 ^ 127)
    (fun v h => by
      rw [BitVec.ofNat_toNat, BitVec.setWidth_eq, BitVec.toInt_ofInt]
      exact Int.bmod_eq_of_le (by omega) (by omega))
    (fun n h => by rw [BitVec.ofInt_toInt, BitVec.toNat_ofNat]; omega)
    (fun n _ => ⟨BitVec.le_toInt _, BitVec.toInt_lt⟩)
    (fun v => by have := (BitVec.ofInt 128 v).isLt; omega)

/-- A key. -/
def pubkeyFormat : FixedFormat Pubkey UInt8 32 where
  encode := Pubkey.bytes
  decode := fun bs => if h : bs.length = 32 then ⟨bs, h⟩ else Pubkey.default
  Fits := fun _ => True
  length_encode := Pubkey.length_bytes
  decode_encode := fun k _ => dif_pos k.size
  fits_decode := fun _ _ => trivial
  encode_decode := fun bs h => by rw [dif_pos h]

/-! ## `read_bytes` -/

section ReadBytes

variable {data : List UInt8} {offset length : UInt64}

/-- Slicing inside the bounds takes a window. -/
theorem slice_of_le {ε α : Type} {xs : List α} {i n : ℕ} (h : i + n ≤ xs.length) :
    (slice xs i (i + n) : Except (ProgramError ε) (List α)) = .ok (window xs i n) := by
  have hbound : i ≤ i + n ∧ i + n ≤ xs.length := ⟨Nat.le_add_right i n, h⟩
  unfold slice window
  rw [if_pos hbound, List.drop_take, Nat.add_sub_cancel_left]

/-- An end beyond the top of the address space is an overflow. -/
theorem read_bytes_of_overflow (h : 2 ^ 64 ≤ offset.toNat + length.toNat) :
    read_bytes data offset length = .error (interfaceError .OffsetOverflow) := by
  have hcheck : decide (offset.toNat + length.toNat < 2 ^ 64) = false := decide_eq_false (by omega)
  unfold read_bytes
  rw [hcheck]
  rfl

/-- An end beyond the end of the data is refused. -/
theorem read_bytes_of_short (hfits : offset.toNat + length.toNat < 2 ^ 64)
    (h : data.length < offset.toNat + length.toNat) :
    read_bytes data offset length = .error (interfaceError .AccountDataTooShort) := by
  have hcheck : decide (data.length ≥ offset.toNat + length.toNat) = false :=
    decide_eq_false (by omega)
  unfold read_bytes
  dsimp only
  rw [decide_eq_true hfits, hcheck]
  rfl

/-- **A window that lies in the data is read.** -/
theorem read_bytes_of_le (hfits : offset.toNat + length.toNat < 2 ^ 64)
    (h : offset.toNat + length.toNat ≤ data.length) :
    read_bytes data offset length = .ok (window data offset.toNat length.toNat) := by
  have hcheck : decide (data.length ≥ offset.toNat + length.toNat) = true := decide_eq_true h
  have hslice : (slice data offset.toNat (offset.toNat + length.toNat) : Except Error _) = _ :=
    slice_of_le h
  unfold read_bytes
  dsimp only
  rw [decide_eq_true hfits, hcheck]
  exact hslice

/-- The three outcomes of `read_bytes`. -/
theorem read_bytes_cases (data : List UInt8) (offset length : UInt64) :
    (2 ^ 64 ≤ offset.toNat + length.toNat ∧
      read_bytes data offset length = .error (interfaceError .OffsetOverflow)) ∨
    (offset.toNat + length.toNat < 2 ^ 64 ∧ data.length < offset.toNat + length.toNat ∧
      read_bytes data offset length = .error (interfaceError .AccountDataTooShort)) ∨
    (offset.toNat + length.toNat < 2 ^ 64 ∧ offset.toNat + length.toNat ≤ data.length ∧
      read_bytes data offset length = .ok (window data offset.toNat length.toNat)) := by
  rcases Nat.lt_or_ge (offset.toNat + length.toNat) (2 ^ 64) with hfits | hover
  · rcases Nat.lt_or_ge data.length (offset.toNat + length.toNat) with hshort | hle
    · exact .inr (.inl ⟨hfits, hshort, read_bytes_of_short hfits hshort⟩)
    · exact .inr (.inr ⟨hfits, hle, read_bytes_of_le hfits hle⟩)
  · exact .inl ⟨hover, read_bytes_of_overflow hover⟩

theorem read_bytes_eq_ok {bs : List UInt8} :
    read_bytes data offset length = .ok bs ↔
      offset.toNat + length.toNat < 2 ^ 64 ∧ offset.toNat + length.toNat ≤ data.length ∧
        bs = window data offset.toNat length.toNat := by
  rcases read_bytes_cases data offset length with
    ⟨hover, hread⟩ | ⟨hfits, hshort, hread⟩ | ⟨hfits, hle, hread⟩
  · rw [hread]
    exact ⟨fun h => absurd h (by simp), fun h => absurd h.1 (by omega)⟩
  · rw [hread]
    exact ⟨fun h => absurd h (by simp), fun h => absurd h.2.1 (by omega)⟩
  · rw [hread]
    exact ⟨fun h => ⟨hfits, hle, (Except.ok.inj h).symm⟩, fun h => congrArg _ h.2.2.symm⟩

/-- What is read depends on the window only. -/
theorem read_bytes_congr {data' : List UInt8} (hpos : 0 < length.toNat)
    (h : window data offset.toNat length.toNat = window data' offset.toNat length.toNat) :
    read_bytes data offset length = read_bytes data' offset length := by
  have hsame : offset.toNat + length.toNat ≤ data.length ↔
      offset.toNat + length.toNat ≤ data'.length := by
    rw [← length_window_eq_iff hpos, ← length_window_eq_iff hpos, h]
  rcases read_bytes_cases data offset length with
    ⟨hover, hread⟩ | ⟨hfits, hshort, hread⟩ | ⟨hfits, hle, hread⟩
  · rw [hread, read_bytes_of_overflow hover]
  · rw [hread, read_bytes_of_short hfits (by omega)]
  · rw [hread, read_bytes_of_le hfits (hsame.mp hle), h]

end ReadBytes

/-! ## Readers of a format -/

/-- `read` reads the format `F` at an offset. -/
structure Reads {α : Type} {size : ℕ} (F : FixedFormat α UInt8 size)
    (read : List UInt8 → UInt64 → Except Error α) : Prop where
  /-- What is returned is what is encoded in the window. -/
  eq_ok_iff : ∀ data offset v, read data offset = .ok v ↔
    offset.toNat + size < 2 ^ 64 ∧ offset.toNat + size ≤ data.length ∧
      F.Fits v ∧ F.encode v = window data offset.toNat size
  /-- A buffer that has an address for each of its bytes is read wherever the window
  lies in it. -/
  succeeds_iff : ∀ data offset, data.length < 2 ^ 64 →
    ((∃ v, read data offset = .ok v) ↔ offset.toNat + size ≤ data.length)
  read_overwrite : ∀ data offset v, data.length < 2 ^ 64 → offset.toNat + size ≤ data.length →
    F.Fits v → read (overwrite data offset.toNat (F.encode v)) offset = .ok v
  congr : ∀ data data' offset, window data offset.toNat size = window data' offset.toNat size →
    read data offset = read data' offset
  ne_panic : ∀ data offset, read data offset ≠ .error .panic

/-- A reader that decodes the window it gets from `read_bytes` reads the format. -/
theorem Reads.of_decode {α : Type} {size : ℕ} {F : FixedFormat α UInt8 size}
    {read : List UInt8 → UInt64 → Except Error α} {length : UInt64} (hlength : length.toNat = size)
    (hpos : 0 < size)
    (hread : ∀ data offset, read data offset = (read_bytes data offset length).map F.decode) :
    Reads F read := by
  subst hlength
  have hok : ∀ data offset v, read data offset = .ok v ↔
      offset.toNat + length.toNat < 2 ^ 64 ∧ offset.toNat + length.toNat ≤ data.length ∧
        F.Fits v ∧ F.encode v = window data offset.toNat length.toNat := by
    intro data offset v
    rw [hread]
    rcases read_bytes_cases data offset length with
      ⟨hover, hbytes⟩ | ⟨hfits, hshort, hbytes⟩ | ⟨hfits, hle, hbytes⟩
    · rw [hbytes]
      exact ⟨fun h => absurd h (by simp [Except.map]), fun h => absurd h.1 (by omega)⟩
    · rw [hbytes]
      exact ⟨fun h => absurd h (by simp [Except.map]), fun h => absurd h.2.1 (by omega)⟩
    · -- the window has the format's size, where decoding undoes encoding
      have hvalue := F.eq_valueAt_iff hle (a := v)
      rw [hbytes]
      constructor
      · intro h
        exact ⟨hfits, hle, hvalue.mp (Except.ok.inj h).symm⟩
      · rintro ⟨-, -, h⟩
        exact congrArg Except.ok (hvalue.mpr h).symm
  have hoverwrite : ∀ data offset v, data.length < 2 ^ 64 →
      offset.toNat + length.toNat ≤ data.length → F.Fits v →
      read (overwrite data offset.toNat (F.encode v)) offset = .ok v := by
    intro data offset v hdata hle hfits
    have hbound : offset.toNat + (F.encode v).length ≤ data.length := by rwa [F.length_encode]
    -- writing keeps the length, so the window lies in the new buffer as well
    have hlength : offset.toNat + length.toNat ≤
        (overwrite data offset.toNat (F.encode v)).length := by rwa [length_overwrite hbound]
    have hvalue := F.valueAt_overwrite hle hfits
    exact (hok _ offset v).mpr ⟨by omega, hlength, (F.eq_valueAt_iff hlength).mp hvalue.symm⟩
  refine ⟨hok, ?_, hoverwrite, ?_, ?_⟩
  · intro data offset hdata
    constructor
    · rintro ⟨v, hv⟩
      exact ((hok data offset v).mp hv).2.1
    · intro hle
      have hvalue := (F.eq_valueAt_iff hle (a := F.valueAt data offset.toNat)).mp rfl
      exact ⟨_, (hok data offset _).mpr ⟨by omega, hle, hvalue⟩⟩
  · intro data data' offset hwindow
    rw [hread, hread, read_bytes_congr hpos hwindow]
  · intro data offset
    rw [hread]
    rcases read_bytes_cases data offset length with ⟨-, hbytes⟩ | ⟨-, -, hbytes⟩ | ⟨-, -, hbytes⟩
    · rw [hbytes]
      simp [Except.map]
    · rw [hbytes]
      simp [Except.map]
    · rw [hbytes]
      simp [Except.map]

/-- Read where no end overflows, a format gives its value in the window. -/
theorem Reads.eq_ok_iff_valueAt {α : Type} {size : ℕ} {F : FixedFormat α UInt8 size}
    {read : List UInt8 → UInt64 → Except Error α} (h : Reads F read) {data : List UInt8}
    {offset : UInt64} (hoffset : offset.toNat + size < 2 ^ 64) {v : α} :
    read data offset = .ok v ↔
      offset.toNat + size ≤ data.length ∧ v = F.valueAt data offset.toNat := by
  rw [h.eq_ok_iff]
  constructor
  · rintro ⟨-, hle, hwindow⟩
    exact ⟨hle, (F.eq_valueAt_iff hle).mpr hwindow⟩
  · rintro ⟨hle, hv⟩
    exact ⟨hoffset, hle, (F.eq_valueAt_iff hle).mp hv⟩

theorem reads_u64_le : Reads u64Format read_u64_le := by
  have hlength : (8 : UInt64).toNat = 8 := rfl
  refine Reads.of_decode hlength (by decide) fun data offset => ?_
  unfold read_u64_le
  rcases read_bytes data offset 8 with e | bs <;> rfl

theorem reads_u128_le : Reads u128Format read_u128_le := by
  have hlength : (16 : UInt64).toNat = 16 := rfl
  refine Reads.of_decode hlength (by decide) fun data offset => ?_
  unfold read_u128_le
  rcases read_bytes data offset 16 with e | bs <;> rfl

theorem reads_i128_le : Reads i128Format read_i128_le := by
  have hlength : (16 : UInt64).toNat = 16 := rfl
  refine Reads.of_decode hlength (by decide) fun data offset => ?_
  unfold read_i128_le
  rcases read_bytes data offset 16 with e | bs <;> rfl

/-- A window of 32 bytes is a key, so that `InvalidAccountData` never occurs. -/
theorem reads_pubkey : Reads pubkeyFormat read_pubkey := by
  have hlength : (32 : UInt64).toNat = 32 := rfl
  refine Reads.of_decode hlength (by decide) fun data offset => ?_
  unfold read_pubkey
  rcases hbytes : read_bytes data offset 32 with e | bs
  · rfl
  · obtain ⟨-, hle, hwindow⟩ := read_bytes_eq_ok.mp hbytes
    have hsize : bs.length = 32 := by
      rw [hwindow]
      exact length_window hle
    show (if h : bs.length = 32 then pure ⟨bs, h⟩ else _ : Except Error Pubkey) =
      .ok (if h : bs.length = 32 then ⟨bs, h⟩ else Pubkey.default)
    rw [dif_pos hsize, dif_pos hsize]
    rfl

/-- **The layout readers.**  `read_bytes` takes a window out of the data exactly when
the window lies in it, with one error for an end that overflows and another for an
end behind the data, and never panics; each of the four readers built on it reads
its format. -/
theorem layout_readers :
    (∀ data offset length,
      (∀ bs, read_bytes data offset length = .ok bs ↔
        offset.toNat + length.toNat < 2 ^ 64 ∧ offset.toNat + length.toNat ≤ data.length ∧
          bs = window data offset.toNat length.toNat) ∧
      (read_bytes data offset length = .error (interfaceError .OffsetOverflow) ↔
        2 ^ 64 ≤ offset.toNat + length.toNat) ∧
      (read_bytes data offset length = .error (interfaceError .AccountDataTooShort) ↔
        offset.toNat + length.toNat < 2 ^ 64 ∧ data.length < offset.toNat + length.toNat) ∧
      read_bytes data offset length ≠ .error .panic) ∧
    Reads u64Format read_u64_le ∧ Reads u128Format read_u128_le ∧
      Reads i128Format read_i128_le ∧ Reads pubkeyFormat read_pubkey := by
  refine ⟨fun data offset length => ?_, reads_u64_le, reads_u128_le, reads_i128_le, reads_pubkey⟩
  refine ⟨fun bs => read_bytes_eq_ok, ?_⟩
  rcases read_bytes_cases data offset length with
    ⟨hover, hread⟩ | ⟨hfits, hshort, hread⟩ | ⟨hfits, hle, hread⟩
  · rw [hread]
    exact ⟨⟨fun _ => hover, fun _ => rfl⟩,
      ⟨fun h => absurd h (by simp), fun h => absurd h.1 (by omega)⟩, by simp⟩
  · rw [hread]
    exact ⟨⟨fun h => absurd h (by simp), fun h => absurd h (by omega)⟩,
      ⟨fun _ => ⟨hfits, hshort⟩, fun _ => rfl⟩, by simp⟩
  · rw [hread]
    exact ⟨⟨fun h => absurd h (by simp), fun h => absurd h (by omega)⟩,
      ⟨fun h => absurd h (by simp), fun h => absurd h.2 (by omega)⟩, by simp⟩
