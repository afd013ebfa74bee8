/-
# Windows of a buffer

A window is a run of consecutive items of a buffer, given by its offset and its
size.  What a format of fixed size reads at an offset is determined by the window
there, and is what was written there last.

* `window`, `overwrite` : taking a run out of a buffer, and putting one in;
* `FixedFormat` : values that correspond to the strings of one size;
* `FixedFormat.valueAt` : the value that a window stands for.
-/
import YieldAdapter.LittleEndian

namespace Windows

section Windows

variable {β : Type*}

/-- The `size` items at `offset`, as far as the buffer has them. -/
def window (data : List β) (offset size : ℕ) : List β := (data.drop offset).take size

/-- The buffer with `items` put at `offset`. -/
def overwrite (data : List β) (offset : ℕ) (items : List β) : List β :=
  data.take offset ++ items ++ data.drop (offset + items.length)

variable {data : List β} {offset size : ℕ}

/-- A window has its full size exactly when it lies in the buffer. -/
theorem length_window_eq_iff (hsize : 0 < size) :
    (window data offset size).length = size ↔ offset + size ≤ data.length := by
  unfold window
  rw [List.length_take, List.length_drop]
  omega

theorem length_window (h : offset + size ≤ data.length) :
    (window data offset size).length = size := by
  unfold window
  rw [List.length_take, List.length_drop]
  omega

/-- A window behind `before` starts where `before` ends. -/
theorem window_append (before field after : List β) :
    window (before ++ field ++ after) before.length field.length = field := by
  unfold window
  rw [List.append_assoc, List.drop_left, List.take_left]

theorem length_overwrite {items : List β} (h : offset + items.length ≤ data.length) :
    (overwrite data offset items).length = data.length := by
  unfold overwrite
  rw [List.length_append, List.length_append, List.length_take, List.length_drop]
  omega

/-- **What was put in is taken out.** -/
theorem window_overwrite {items : List β} (h : offset + items.length ≤ data.length) :
    window (overwrite data offset items) offset items.length = items := by
  have hbefore : (data.take offset).length = offset := by
    rw [List.length_take]
    omega
  have hwindow := window_append (data.take offset) items (data.drop (offset + items.length))
  rw [hbefore] at hwindow
  exact hwindow

end Windows

/-! ## Formats of fixed size -/

/-- Values that correspond to the strings of length `size`. -/
structure FixedFormat (α β : Type*) (size : ℕ) where
  encode : α → List β
  decode : List β → α
  /-- The values that the format can represent. -/
  Fits : α → Prop
  length_encode : ∀ a, (encode a).length = size
  decode_encode : ∀ a, Fits a → decode (encode a) = a
  fits_decode : ∀ bs, bs.length = size → Fits (decode bs)
  encode_decode : ∀ bs, bs.length = size → encode (decode bs) = bs

namespace FixedFormat

variable {α β : Type*} {size : ℕ} (F : FixedFormat α β size)

/-- Strings of the right size stand for different values. -/
theorem decode_inj {bs bs' : List β} (h : bs.length = size) (h' : bs'.length = size) :
    F.decode bs = F.decode bs' ↔ bs = bs' := by
  constructor
  · intro heq
    rw [← F.encode_decode bs h, heq, F.encode_decode bs' h']
  · rintro rfl
    rfl

/-- The value that the window at `offset` stands for. -/
def valueAt (data : List β) (offset : ℕ) : α := F.decode (window data offset size)

variable {data : List β} {offset : ℕ}

/-- **The value at an offset is the one that is encoded there.** -/
theorem eq_valueAt_iff (h : offset + size ≤ data.length) {a : α} :
    a = F.valueAt data offset ↔ F.Fits a ∧ F.encode a = window data offset size := by
  have hlength : (window data offset size).length = size := length_window h
  unfold valueAt
  constructor
  · rintro rfl
    exact ⟨F.fits_decode _ hlength, F.encode_decode _ hlength⟩
  · rintro ⟨hfits, hencode⟩
    rw [← hencode, F.decode_encode a hfits]

/-- A field is read where the fields before it end. -/
theorem valueAt_append (before : List β) {a : α} (hfits : F.Fits a) (after : List β) :
    F.valueAt (before ++ F.encode a ++ after) before.length = a := by
  have hwindow := window_append before (F.encode a) after
  rw [F.length_encode] at hwindow
  unfold valueAt
  rw [hwindow, F.decode_encode a hfits]

/-- **Reading undoes writing.** -/
theorem valueAt_overwrite (h : offset + size ≤ data.length) {a : α} (hfits : F.Fits a) :
    F.valueAt (overwrite data offset (F.encode a)) offset = a := by
  have hbound : offset + (F.encode a).length ≤ data.length := by rwa [F.length_encode]
  have hwindow := window_overwrite hbound
  rw [F.length_encode] at hwindow
  unfold valueAt
  rw [hwindow, F.decode_encode a hfits]

/-- The buffer that holds `a` at `offset` and ends there, with `pad` in front. -/
def placed (pad : β) (offset : ℕ) (a : α) : List β := List.replicate offset pad ++ F.encode a ++ []

theorem length_placed (pad : β) (offset : ℕ) (a : α) :
    (F.placed pad offset a).length = offset + size := by
  unfold placed
  rw [List.append_nil, List.length_append, List.length_replicate, F.length_encode]

theorem valueAt_placed (pad : β) (offset : ℕ) {a : α} (hfits : F.Fits a) :
    F.valueAt (F.placed pad offset a) offset = a := by
  have hvalue := F.valueAt_append (List.replicate offset pad) hfits []
  rwa [List.length_replicate] at hvalue

end FixedFormat

/-- `w`-byte little-endian words that stand for numbers. -/
def FixedFormat.word {α : Type*} (w : ℕ) (toNat : α → ℕ) (ofNat : ℕ → α) (Fits : α → Prop)
    (hof : ∀ a, Fits a → ofNat (toNat a) = a) (hto : ∀ n, n < 256 ^ w → toNat (ofNat n) = n)
    (hfits : ∀ n, n < 256 ^ w → Fits (ofNat n)) (hlt : ∀ a, toNat a < 256 ^ w) :
    FixedFormat α UInt8 w where
  encode := fun a => LittleEndian.bytes w (toNat a)
  decode := fun bs => ofNat (LittleEndian.value bs)
  Fits := Fits
  length_encode := fun a => LittleEndian.length_bytes w (toNat a)
  decode_encode := by
    intro a ha
    rw [LittleEndian.value_bytes_of_lt (hlt a), hof a ha]
  fits_decode := by
    rintro bs rfl
    exact hfits _ (LittleEndian.value_lt bs)
  encode_decode := by
    rintro bs rfl
    rw [hto _ (LittleEndian.value_lt bs), LittleEndian.bytes_value]

end Windows
