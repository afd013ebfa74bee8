/-
# Borsh codecs

A codec is an encoder together with the prefix decoder that inverts it.  The
single law `decode_eq_some_iff` says that the decoder accepts exactly the
encodings of the values that fit the format, followed by anything, and returns
that value and that rest.  Round trip, injectivity and canonicity of the format
are all read off this law.

The constructors follow Borsh: integers are little-endian, a struct is the
concatenation of its fields in order, and a `Vec` is a `u32` length followed by
its items.  A value fits when no `Vec` inside it has `2 ^ 32` items or more.
-/
import YieldAdapter.LittleEndian

/-- An encoder with its prefix decoder, and the law that ties them together. -/
structure Codec (α : Type) where
  encode : α → List UInt8
  decode : List UInt8 → Option (α × List UInt8)
  /-- The values that the format can represent. -/
  Fits : α → Prop
  decode_eq_some_iff : ∀ bs a rest,
    decode bs = some (a, rest) ↔ Fits a ∧ bs = encode a ++ rest

namespace Codec

variable {α β : Type}

/-! ## Consequences of the law -/

/-- **Round trip.**  Decoding an encoding followed by anything returns the value
and what follows. -/
theorem decode_encode_append (c : Codec α) {a : α} (h : c.Fits a) (rest : List UInt8) :
    c.decode (c.encode a ++ rest) = some (a, rest) :=
  (c.decode_eq_some_iff _ _ _).mpr ⟨h, rfl⟩

/-- Round trip with nothing following: every byte is consumed. -/
theorem decode_encode (c : Codec α) {a : α} (h : c.Fits a) :
    c.decode (c.encode a) = some (a, []) := by
  have := c.decode_encode_append h []
  rwa [List.append_nil] at this

/-- **Unambiguity.**  Two encodings that start the same byte string are
encodings of the same value, and what follows them is the same. -/
theorem encode_append_inj (c : Codec α) {a b : α} {r s : List UInt8}
    (ha : c.Fits a) (hb : c.Fits b) (h : c.encode a ++ r = c.encode b ++ s) :
    a = b ∧ r = s := by
  have hra := c.decode_encode_append ha r
  rw [h, c.decode_encode_append hb s] at hra
  have hpair := Option.some.inj hra
  exact ⟨(congrArg Prod.fst hpair).symm, (congrArg Prod.snd hpair).symm⟩

/-! ## Fixed-width words -/

/-- A `w`-byte little-endian word. -/
def word (w : ℕ) (toNat : α → ℕ) (ofNat : ℕ → α)
    (hof : ∀ a, ofNat (toNat a) = a) (hto : ∀ n, n < 256 ^ w → toNat (ofNat n) = n)
    (hlt : ∀ a, toNat a < 256 ^ w) : Codec α where
  encode := fun a => LittleEndian.bytes w (toNat a)
  decode := fun bs =>
    if w ≤ bs.length then some (ofNat (LittleEndian.value (bs.take w)), bs.drop w) else none
  Fits := fun _ => True
  decode_eq_some_iff := by
    intro bs a rest
    constructor
    · intro h
      by_cases hw : w ≤ bs.length
      · rw [if_pos hw, Option.some.injEq, Prod.mk.injEq] at h
        obtain ⟨hvalue, hrest⟩ := h
        have hlen : (bs.take w).length = w := List.length_take_of_le hw
        have hfit : LittleEndian.value (bs.take w) < 256 ^ w := by
          have := LittleEndian.value_lt (bs.take w)
          rwa [hlen] at this
        have hbytes : LittleEndian.bytes w (toNat a) = bs.take w := by
          rw [← hvalue, hto _ hfit]
          have := LittleEndian.bytes_value (bs.take w)
          rwa [hlen] at this
        refine ⟨trivial, ?_⟩
        rw [hbytes, ← hrest, List.take_append_drop]
      · rw [if_neg hw] at h
        exact absurd h (by simp)
    · rintro ⟨-, rfl⟩
      have hlen : (LittleEndian.bytes w (toNat a)).length = w := LittleEndian.length_bytes _ _
      rw [if_pos (by rw [List.length_append, hlen]; omega), List.take_left' hlen,
        List.drop_left' hlen, LittleEndian.value_bytes_of_lt (hlt a), hof]

/-- `u8`. -/
def u8 : Codec UInt8 :=
  word 1 UInt8.toNat UInt8.ofNat (fun _ => UInt8.ofNat_toNat)
    (fun n h => by rw [UInt8.toNat_ofNat']; omega) (fun a => by have := a.toNat_lt; omega)

/-- `u16`. -/
def u16 : Codec UInt16 :=
  word 2 UInt16.toNat UInt16.ofNat (fun _ => UInt16.ofNat_toNat)
    (fun n h => by rw [UInt16.toNat_ofNat']; omega) (fun a => by have := a.toNat_lt; omega)

/-- `u32`. -/
def u32 : Codec UInt32 :=
  word 4 UInt32.toNat UInt32.ofNat (fun _ => UInt32.ofNat_toNat)
    (fun n h => by rw [UInt32.toNat_ofNat']; omega) (fun a => by have := a.toNat_lt; omega)

/-- `u64`. -/
def u64 : Codec UInt64 :=
  word 8 UInt64.toNat UInt64.ofNat (fun _ => UInt64.ofNat_toNat)
    (fun n h => by rw [UInt64.toNat_ofNat']; omega) (fun a => by have := a.toNat_lt; omega)

/-- `i64`, through the two's-complement `u64`. -/
def i64 : Codec Int64 :=
  word 8 (fun a => a.toUInt64.toNat) (fun n => (UInt64.ofNat n).toInt64)
    (fun a => by simp) (fun n h => by simp; omega)
    (fun a => by have := a.toUInt64.toNat_lt; omega)

@[simp] theorem length_encode_u8 (a : UInt8) : (u8.encode a).length = 1 :=
  LittleEndian.length_bytes _ _

@[simp] theorem length_encode_u16 (a : UInt16) : (u16.encode a).length = 2 :=
  LittleEndian.length_bytes _ _

@[simp] theorem length_encode_u64 (a : UInt64) : (u64.encode a).length = 8 :=
  LittleEndian.length_bytes _ _

@[simp] theorem length_encode_i64 (a : Int64) : (i64.encode a).length = 8 :=
  LittleEndian.length_bytes _ _

/-- `bool`: a byte that is 0 or 1. -/
def bool : Codec Bool where
  encode := fun b => [b.toUInt8]
  decode := fun bs =>
    match bs with
    | [] => none
    | b :: rest => if b = 0 then some (false, rest) else if b = 1 then some (true, rest) else none
  Fits := fun _ => True
  decode_eq_some_iff := by
    intro bs a rest
    cases bs with
    | nil => cases a <;> simp
    | cons b bs =>
        constructor
        · intro h
          dsimp only at h
          split_ifs at h with h0 h1
          · obtain ⟨rfl, rfl⟩ := Prod.mk.inj (Option.some.inj h)
            rw [h0]
            exact ⟨trivial, rfl⟩
          · obtain ⟨rfl, rfl⟩ := Prod.mk.inj (Option.some.inj h)
            rw [h1]
            exact ⟨trivial, rfl⟩
        · rintro ⟨-, h⟩
          obtain ⟨rfl, rfl⟩ := List.cons.inj h
          cases a <;> rfl

/-- `[u8; n]`. -/
def array (n : ℕ) : Codec {bs : List UInt8 // bs.length = n} where
  encode := fun a => a.val
  decode := fun bs =>
    if h : n ≤ bs.length then some (⟨bs.take n, List.length_take_of_le h⟩, bs.drop n) else none
  Fits := fun _ => True
  decode_eq_some_iff := by
    rintro bs ⟨a, ha⟩ rest
    constructor
    · intro h
      by_cases hn : n ≤ bs.length
      · rw [dif_pos hn, Option.some.injEq, Prod.mk.injEq, Subtype.mk.injEq] at h
        obtain ⟨htake, hdrop⟩ := h
        refine ⟨trivial, ?_⟩
        show bs = a ++ rest
        rw [← htake, ← hdrop, List.take_append_drop]
      · rw [dif_neg hn] at h
        exact absurd h (by simp)
    · rintro ⟨-, rfl⟩
      rw [dif_pos (by rw [List.length_append, ha]; omega), Option.some.injEq, Prod.mk.injEq,
        Subtype.mk.injEq]
      exact ⟨List.take_left' ha, List.drop_left' ha⟩

/-! ## Structs -/

/-- Two fields in order. -/
def pair (c : Codec α) (d : Codec β) : Codec (α × β) where
  encode := fun p => c.encode p.1 ++ d.encode p.2
  decode := fun bs =>
    (c.decode bs).bind fun (a, rest) => (d.decode rest).map fun (b, rest') => ((a, b), rest')
  Fits := fun p => c.Fits p.1 ∧ d.Fits p.2
  decode_eq_some_iff := by
    rintro bs ⟨a, b⟩ rest
    constructor
    · intro h
      obtain ⟨⟨a', mid⟩, hc, h⟩ := Option.bind_eq_some_iff.mp h
      obtain ⟨⟨b', rest'⟩, hd, h⟩ := Option.map_eq_some_iff.mp h
      obtain ⟨⟨rfl, rfl⟩, rfl⟩ := by simpa only [Prod.mk.injEq] using h
      obtain ⟨hfa, rfl⟩ := (c.decode_eq_some_iff _ _ _).mp hc
      obtain ⟨hfb, rfl⟩ := (d.decode_eq_some_iff _ _ _).mp hd
      exact ⟨⟨hfa, hfb⟩, by rw [List.append_assoc]⟩
    · rintro ⟨⟨hfa, hfb⟩, rfl⟩
      rw [List.append_assoc, c.decode_encode_append hfa]
      simp only [Option.bind_some]
      rw [d.decode_encode_append hfb]
      rfl

/-- A struct is the tuple of its fields. -/
def imap (c : Codec α) (e : α ≃ β) : Codec β where
  encode := fun b => c.encode (e.symm b)
  decode := fun bs => (c.decode bs).map fun (a, rest) => (e a, rest)
  Fits := fun b => c.Fits (e.symm b)
  decode_eq_some_iff := by
    intro bs b rest
    rw [← c.decode_eq_some_iff, Option.map_eq_some_iff]
    constructor
    · rintro ⟨⟨a, rest'⟩, hc, h⟩
      obtain ⟨rfl, rfl⟩ := by simpa only [Prod.mk.injEq] using h
      rw [hc, e.symm_apply_apply]
    · intro h
      exact ⟨_, h, by simp only [e.apply_symm_apply]⟩

/-! ## `Vec` -/

/-- Decode `n` items in order. -/
def decodeItems (c : Codec α) : ℕ → List UInt8 → Option (List α × List UInt8)
  | 0, bs => some ([], bs)
  | n + 1, bs =>
      (c.decode bs).bind fun (a, rest) =>
        (decodeItems c n rest).map fun (as, rest') => (a :: as, rest')

theorem decodeItems_eq_some_iff (c : Codec α) (n : ℕ) (bs : List UInt8) (as : List α)
    (rest : List UInt8) :
    decodeItems c n bs = some (as, rest) ↔
      as.length = n ∧ (∀ a ∈ as, c.Fits a) ∧ bs = as.flatMap c.encode ++ rest := by
  -- the count drives the decoder, so the induction is on it
  induction n generalizing bs as with
  | zero =>
      rw [decodeItems, Option.some.injEq, Prod.mk.injEq]
      constructor
      · rintro ⟨rfl, rfl⟩
        simp
      · rintro ⟨hlen, -, rfl⟩
        obtain rfl := List.length_eq_zero_iff.mp hlen
        simp
  | succ n ih =>
      rw [decodeItems]
      constructor
      · intro h
        obtain ⟨⟨a, mid⟩, hc, h⟩ := Option.bind_eq_some_iff.mp h
        obtain ⟨⟨as', rest'⟩, hitems, h⟩ := Option.map_eq_some_iff.mp h
        obtain ⟨rfl, rfl⟩ := by simpa only [Prod.mk.injEq] using h
        obtain ⟨hfit, rfl⟩ := (c.decode_eq_some_iff _ _ _).mp hc
        obtain ⟨hlen, hfits, rfl⟩ := (ih _ _).mp hitems
        refine ⟨by rw [List.length_cons, hlen], ?_, by simp⟩
        intro b hb
        rcases List.mem_cons.mp hb with rfl | hb
        · exact hfit
        · exact hfits b hb
      · rintro ⟨hlen, hfits, rfl⟩
        cases as with
        | nil => exact absurd hlen (by simp)
        | cons a as =>
            have hrec := (ih (as.flatMap c.encode ++ rest) as).mpr
              ⟨by simpa using hlen, fun b hb => hfits b (List.mem_cons_of_mem _ hb), rfl⟩
            rw [List.flatMap_cons, List.append_assoc,
              c.decode_encode_append (hfits a List.mem_cons_self)]
            simp only [Option.bind_some]
            rw [hrec]
            rfl

/-- `Vec<T>`: a `u32` length followed by the items. -/
def vec (c : Codec α) : Codec (List α) where
  encode := fun as => LittleEndian.bytes 4 as.length ++ as.flatMap c.encode
  decode := fun bs => (u32.decode bs).bind fun (n, rest) => decodeItems c n.toNat rest
  Fits := fun as => as.length < 2 ^ 32 ∧ ∀ a ∈ as, c.Fits a
  decode_eq_some_iff := by
    intro bs as rest
    constructor
    · intro h
      obtain ⟨⟨n, mid⟩, hn, hitems⟩ := Option.bind_eq_some_iff.mp h
      obtain ⟨-, rfl⟩ := (u32.decode_eq_some_iff _ _ _).mp hn
      obtain ⟨hlen, hfits, rfl⟩ := (decodeItems_eq_some_iff c n.toNat _ _ _).mp hitems
      refine ⟨⟨by rw [hlen]; exact n.toNat_lt, hfits⟩, ?_⟩
      rw [hlen, List.append_assoc]
      rfl
    · rintro ⟨⟨hlen, hfits⟩, rfl⟩
      have hcount : (UInt32.ofNat as.length).toNat = as.length := by
        rw [UInt32.toNat_ofNat']
        omega
      have hhead : LittleEndian.bytes 4 as.length = u32.encode (UInt32.ofNat as.length) := by
        show _ = LittleEndian.bytes 4 (UInt32.ofNat as.length).toNat
        rw [hcount]
      rw [hhead, List.append_assoc, u32.decode_encode_append trivial]
      simp only [Option.bind_some]
      rw [hcount]
      exact (decodeItems_eq_some_iff c _ _ _ _).mpr ⟨rfl, hfits, rfl⟩

theorem encode_vec (c : Codec α) (as : List α) :
    (vec c).encode as = LittleEndian.bytes 4 as.length ++ as.flatMap c.encode := rfl

/-- The size of a `Vec` whose items are all of one size. -/
theorem length_encode_vec (c : Codec α) {n : ℕ} (h : ∀ a, (c.encode a).length = n)
    (as : List α) : ((vec c).encode as).length = 4 + n * as.length := by
  have hitems : (as.map fun a => (c.encode a).length).sum = n * as.length := by
    simp [h, Nat.mul_comm]
  rw [encode_vec, List.length_append, LittleEndian.length_bytes, List.length_flatMap, hitems]

/-- `Vec<u8>`. -/
def byteVec : Codec (List UInt8) := vec u8

@[simp] theorem length_encode_byteVec (bs : List UInt8) :
    (byteVec.encode bs).length = 4 + bs.length := by
  rw [byteVec, length_encode_vec u8 length_encode_u8, Nat.one_mul]

theorem fits_byteVec_iff (bs : List UInt8) : byteVec.Fits bs ↔ bs.length < 2 ^ 32 :=
  ⟨fun h => h.1, fun h => ⟨h, fun _ _ => trivial⟩⟩

end Codec
