/-
Bitmaps of bytes. Bit `b` is bit `b % 8` of byte `b / 8`, counted from its most
significant bit. Bits are set a byte at a time (`has_or`); a byte is what its
bits are (`byte_ext`).
-/
import Mathlib.Logic.Function.Basic

namespace Bitmaps

variable {v w : UInt8} {m : Nat → UInt8} {i k b : Nat}

/-- A bit of a byte. -/
def bit (v : UInt8) (k : Nat) : Bool := v.toBitVec.getMsbD k

@[simp] theorem bit_or : bit (v ||| w) k = (bit v k || bit w k) := by simp [bit]

@[simp] theorem bit_and : bit (v &&& w) k = (bit v k && bit w k) := by simp [bit]

theorem bit_not (hk : k < 8) : bit (~~~ v) k = !bit v k := by simp [bit, hk]

@[simp] theorem bit_zero : bit 0 k = false := by simp [bit]

theorem bit_ones (hk : k < 8) : bit 0xff k = true := by
  have hall : ∀ k : Fin 8, bit 0xff k = true := by decide
  exact hall ⟨k, hk⟩

theorem byte_ext (h : ∀ k < 8, bit v k = bit w k) : v = w := by
  rw [← UInt8.toBitVec_inj]
  exact BitVec.eq_of_getMsbD_eq h

/-- A bit of a bitmap. -/
def has (m : Nat → UInt8) (b : Nat) : Bool := bit (m (b / 8)) (b % 8)

theorem has_or : has (Function.update m i (m i ||| v)) b = (has m b || (decide (b / 8 = i) && bit v (b % 8))) := by
  unfold has
  by_cases hi : b / 8 = i
  · subst hi
    simp
  · simp [hi]

/-- A byte all of whose bits are set. -/
theorem eq_ones_iff : m i = 0xff ↔ ∀ b, b / 8 = i → has m b = true := by
  constructor
  · rintro h b rfl
    rw [has, h, bit_ones (Nat.mod_lt b (by decide))]
  · intro h
    refine byte_ext fun k hk => ?_
    have hb := h (8 * i + k) (by omega)
    rw [has, show (8 * i + k) / 8 = i by omega, show (8 * i + k) % 8 = k by omega] at hb
    rw [hb, bit_ones hk]

end Bitmaps
