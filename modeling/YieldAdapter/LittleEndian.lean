/-
# Little-endian byte strings

The fixed-width little-endian representation of natural numbers, as used by
every integer on the wire and in account data.

* `LittleEndian.bytes w n` : the `w` low bytes of `n`, least significant first;
* `LittleEndian.value bs` : the number a byte string denotes.

The two are inverse on numbers that fit (`value_bytes`) and on byte strings of
the right length (`bytes_value`), which is all that the codecs need.
-/
import Mathlib

namespace LittleEndian

/-- The `w` low bytes of `n`, least significant byte first. -/
def bytes : ℕ → ℕ → List UInt8
  | 0, _ => []
  | w + 1, n => UInt8.ofNat n :: bytes w (n / 256)

/-- The number denoted by a little-endian byte string. -/
def value (bs : List UInt8) : ℕ := Nat.ofDigits 256 (bs.map UInt8.toNat)

@[simp] theorem length_bytes (w n : ℕ) : (bytes w n).length = w := by
  induction w generalizing n with
  | zero => rfl
  | succ w ih => rw [bytes, List.length_cons, ih]

@[simp] theorem value_nil : value [] = 0 := rfl

theorem value_cons (b : UInt8) (bs : List UInt8) :
    value (b :: bs) = b.toNat + 256 * value bs := by
  rw [value, List.map_cons, Nat.ofDigits_cons, value]

/-- A byte string of length `w` denotes a number below `256 ^ w`. -/
theorem value_lt (bs : List UInt8) : value bs < 256 ^ bs.length := by
  have hdigit : ∀ x ∈ bs.map UInt8.toNat, x < 256 := by
    intro x hx
    obtain ⟨b, _, rfl⟩ := List.mem_map.mp hx
    exact b.toNat_lt
  have h := Nat.ofDigits_lt_base_pow_length (by decide : 1 < 256) hdigit
  rwa [List.length_map] at h

/-- Reading back the `w` low bytes of `n` gives `n` modulo `256 ^ w`. -/
theorem value_bytes (w n : ℕ) : value (bytes w n) = n % 256 ^ w := by
  induction w generalizing n with
  | zero => rw [bytes, value_nil, pow_zero, Nat.mod_one]
  | succ w ih =>
      rw [bytes, value_cons, ih, pow_succ', Nat.mod_mul]
      simp

/-- Reading back a number that fits. -/
theorem value_bytes_of_lt {w n : ℕ} (h : n < 256 ^ w) : value (bytes w n) = n := by
  rw [value_bytes, Nat.mod_eq_of_lt h]

/-- The low bytes denote the number modulo a power of 256. -/
theorem value_take (n : ℕ) (bs : List UInt8) : value (bs.take n) = value bs % 256 ^ n := by
  induction n generalizing bs with
  | zero => rw [List.take_zero, value_nil, pow_zero, Nat.mod_one]
  | succ n ih =>
      cases bs with
      | nil => rw [List.take_nil, value_nil, Nat.zero_mod]
      | cons b bs =>
          have hb := b.toNat_lt
          have hlow : (b.toNat + 256 * value bs) % 256 = b.toNat := by omega
          have hhigh : (b.toNat + 256 * value bs) / 256 = value bs := by omega
          rw [List.take_succ_cons, value_cons, value_cons, ih, pow_succ', Nat.mod_mul, hlow, hhigh]

/-- Writing the number a byte string denotes gives the byte string back. -/
theorem bytes_value (bs : List UInt8) : bytes bs.length (value bs) = bs := by
  induction bs with
  | nil => rfl
  | cons b bs ih =>
      have hlow : UInt8.ofNat (b.toNat + 256 * value bs) = b := by
        apply UInt8.toNat_inj.mp
        simp
      have hhigh : (b.toNat + 256 * value bs) / 256 = value bs := by
        have hb := b.toNat_lt
        omega
      rw [List.length_cons, value_cons, bytes, hlow, hhigh, ih]

end LittleEndian
