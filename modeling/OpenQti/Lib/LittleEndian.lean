import Mathlib.Data.Nat.Digits.Lemmas
import Mathlib.Logic.Function.Basic
import Mathlib.Tactic.Ring
import OpenQti.Lib.Bytes

/-!
# Bytes as one number

The first bytes of a memory, the lowest first, are the digits of a number to the base 256.
Bits that begin inside a byte are digits of it, too: `value_bits` takes a number of at most
eight bits out of two bytes, and `value_append` says which stores add further bits to those
that are there. The lengths in bits need not be multiples of eight.
-/

namespace Bytes

/-- The number that the first `count` bytes are the digits of. -/
def value (bytes : Bytes) (count : Nat) : Nat :=
  Nat.ofDigits 256 ((List.range count).map fun i => (bytes i).toNat)

variable {bytes other : Bytes} {count : Nat}

theorem value_zero (bytes : Bytes) : bytes.value 0 = 0 := rfl

theorem value_succ (bytes : Bytes) (count : Nat) :
    bytes.value (count + 1) = bytes.value count + 256 ^ count * (bytes count).toNat := by
  simp [value, List.range_succ, Nat.ofDigits_append]

/-- Only the first bytes matter. -/
theorem value_congr (h : ∀ i < count, bytes i = other i) :
    bytes.value count = other.value count := by
  unfold value
  rw [List.map_congr_left fun i hi => by rw [h i (List.mem_range.1 hi)]]

theorem value_lt (bytes : Bytes) (count : Nat) : bytes.value count < 256 ^ count := by
  have hdigits : ∀ digit ∈ (List.range count).map fun i => (bytes i).toNat, digit < 256 := by
    intro digit hdigit
    obtain ⟨i, -, rfl⟩ := List.mem_map.1 hdigit
    exact (bytes i).toNat_lt
  have hlt := Nat.ofDigits_lt_base_pow_length (by decide) hdigits
  rwa [List.length_map, List.length_range] at hlt

/-- The bytes behind the first ones are the higher digits. -/
theorem value_add (bytes : Bytes) (first count : Nat) :
    bytes.value (first + count) =
      bytes.value first + 256 ^ first * value (fun i => bytes (first + i)) count := by
  induction count with
  | zero => simp [value_zero]
  | succ count ih =>
      rw [← Nat.add_assoc, value_succ, value_succ, ih]
      ring

/-- Two bytes of the number. -/
theorem value_div_mod {first : Nat} (h : first + 2 ≤ count) :
    bytes.value count / 256 ^ first % 65536 =
      (bytes first).toNat + 256 * (bytes (first + 1)).toNat := by
  obtain ⟨rest, rfl⟩ := Nat.exists_eq_add_of_le h
  have hfirst := (bytes first).toNat_lt
  have hsecond := (bytes (first + 1)).toNat_lt
  have hpos : 0 < 256 ^ first := Nat.pow_pos (by decide)
  rw [Nat.add_assoc, value_add, Nat.add_mul_div_left _ _ hpos,
    Nat.div_eq_of_lt (value_lt bytes first), Nat.zero_add, value_add, value_succ, value_succ,
    value_zero]
  simp only [Nat.add_zero]
  omega

theorem pow_two_eq (pos : Nat) : 2 ^ pos = 256 ^ (pos / 8) * 2 ^ (pos % 8) := by
  conv_lhs => rw [← Nat.div_add_mod pos 8, Nat.pow_add, Nat.pow_mul]

/-- Bits that are there are not changed by further bytes. -/
theorem value_succ_bits {pos width : Nat} (h : pos + width ≤ 8 * count) :
    bytes.value (count + 1) / 2 ^ pos % 2 ^ width = bytes.value count / 2 ^ pos % 2 ^ width := by
  obtain ⟨rest, hrest⟩ := Nat.exists_eq_add_of_le h
  have hpow : 256 ^ count = 2 ^ pos * (2 ^ width * 2 ^ rest) := by
    rw [← Nat.mul_assoc, ← Nat.pow_add, ← Nat.pow_add, ← hrest, Nat.pow_mul]
  rw [value_succ, hpow, Nat.mul_assoc, Nat.add_mul_div_left _ _ (Nat.pow_pos (by decide)),
    Nat.mul_assoc, Nat.add_mul_mod_self_left]

/-- Up to eight bits at a position are in the byte that they begin in and the next one. -/
theorem value_bits {pos width : Nat} (hwidth : width ≤ 8) (h : pos + width ≤ 8 * count) :
    bytes.value count / 2 ^ pos % 2 ^ width =
      ((bytes (pos / 8)).toNat + 256 * (bytes (pos / 8 + 1)).toNat) / 2 ^ (pos % 8) %
        2 ^ width := by
  -- the next byte may be the first one after the number
  rw [← value_succ_bits h]
  by_cases hnone : width = 0
  · rw [hnone, Nat.pow_zero, Nat.mod_one, Nat.mod_one]
  have hbytes : pos / 8 + 2 ≤ count + 1 := by omega
  have hdvd : 2 ^ (pos % 8) * 2 ^ width ∣ 65536 := by
    rw [← Nat.pow_add]
    exact Nat.pow_dvd_pow 2 (show _ ≤ 16 by omega)
  rw [← value_div_mod hbytes, pow_two_eq pos, ← Nat.div_div_eq_div_mul]
  generalize bytes.value (count + 1) / 256 ^ (pos / 8) = word
  rw [← Nat.mod_mul_right_div_self, ← Nat.mod_mul_right_div_self, Nat.mod_mod_of_dvd _ hdvd]

/-- The byte in which the bits of a number end has no others. -/
theorem last_byte_lt {used : Nat} (h : bytes.value (used / 8 + 1) < 2 ^ used) :
    (bytes (used / 8)).toNat < 2 ^ (used % 8) := by
  rw [value_succ, pow_two_eq used] at h
  exact Nat.lt_of_mul_lt_mul_left (Nat.lt_of_le_of_lt (Nat.le_add_left _ _) h)

/-- Bits are added behind those that are used: in the byte in which these end, if they end inside
one, and in the next one if there is not enough room. -/
theorem value_append {used width v : Nat} (hpos : 0 < width) (hwidth : width ≤ 8)
    (hv : v < 2 ^ width) (hsame : ∀ i < used / 8, other i = bytes i)
    (hlow : (other (used / 8)).toNat =
      (if used % 8 = 0 then 0 else (bytes (used / 8)).toNat) + v * 2 ^ (used % 8) % 256)
    (hhigh : 8 < used % 8 + width → (other (used / 8 + 1)).toNat = v * 2 ^ (used % 8) / 256) :
    other.value ((used + width + 7) / 8) = bytes.value ((used + 7) / 8) + v * 2 ^ used := by
  have hbefore := value_congr hsame
  have hproduct : v * 2 ^ (used % 8) < 2 ^ (used % 8 + width) := by
    rw [Nat.add_comm, Nat.pow_add]
    exact Nat.mul_lt_mul_of_pos_right hv (Nat.pow_pos (by decide))
  have hcount : bytes.value ((used + 7) / 8) = bytes.value (used / 8) +
      256 ^ (used / 8) * if used % 8 = 0 then 0 else (bytes (used / 8)).toNat := by
    split_ifs with halign
    · rw [show (used + 7) / 8 = used / 8 by omega, Nat.mul_zero, Nat.add_zero]
    · rw [show (used + 7) / 8 = used / 8 + 1 by omega, value_succ]
  rw [hcount, pow_two_eq used]
  generalize (if used % 8 = 0 then 0 else (bytes (used / 8)).toNat) = kept at hlow ⊢
  by_cases hroom : used % 8 + width ≤ 8
  · have hsmall : v * 2 ^ (used % 8) < 256 :=
      Nat.lt_of_lt_of_le hproduct (Nat.pow_le_pow_right (by decide) hroom)
    rw [show (used + width + 7) / 8 = used / 8 + 1 by omega, value_succ, hbefore, hlow,
      Nat.mod_eq_of_lt hsmall]
    ring
  · have hsplit := Nat.mod_add_div (v * 2 ^ (used % 8)) 256
    rw [show (used + width + 7) / 8 = used / 8 + 2 by omega, value_succ, value_succ, hbefore, hlow,
      hhigh (by omega), Nat.pow_succ]
    calc _ = bytes.value (used / 8) + 256 ^ (used / 8) * (kept +
            (v * 2 ^ (used % 8) % 256 + 256 * (v * 2 ^ (used % 8) / 256))) := by ring
      _ = _ := by
        rw [hsplit]
        ring

end Bytes
