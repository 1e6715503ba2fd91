/-
BSMP messages as the transports see them: a command byte, the size of the
payload in two bytes, and the payload. A transport fills a buffer with the
bytes as they arrive and reads the size out of it (`sCarga`), whether or not
the buffer holds a header yet.
-/
import UdcFirmware.Lib.Filling

namespace UdcFirmware.Drivers

open ByteMem Filling

/-! ## The size in a buffer -/

/-- `(data[1] << 8) | data[2]`. -/
def sCarga (b : Buffer UInt8) : UInt16 := ((b.data 1).toUInt16 <<< 8) ||| (b.data 2).toUInt16

/-- The size in a header is the number its two bytes stand for. -/
theorem sCarga_toNat (b : Buffer UInt8) : (sCarga b).toNat = (b.data 1).toNat * 256 + (b.data 2).toNat := by
  have h₁ := (b.data 1).toNat_lt
  have h₂ := (b.data 2).toNat_lt
  have hor := Nat.shiftLeft_add_eq_or_of_lt (i := 8) h₂ (b.data 1).toNat
  simp only [sCarga, UInt16.toNat_or, UInt16.toNat_shiftLeft, UInt8.toNat_toUInt16,
    show UInt16.toNat 8 % 16 = 8 from rfl]
  rw [Nat.mod_eq_of_lt (by rw [Nat.shiftLeft_eq]; omega), ← hor, Nat.shiftLeft_eq]

theorem sCarga_congr {b b' : Buffer UInt8} (h₁ : b'.data 1 = b.data 1) (h₂ : b'.data 2 = b.data 2) :
    sCarga b' = sCarga b := by
  rw [sCarga, sCarga, h₁, h₂]

@[simp] theorem sCarga_reset (b : Buffer UInt8) : sCarga b.reset = sCarga b := rfl

/-- More bytes after a header leave it alone. -/
theorem sCarga_append {b : Buffer UInt8} (h : 3 ≤ b.index) (xs : List UInt8) :
    sCarga (b.append xs) = sCarga b :=
  sCarga_congr (b.data_append_of_lt xs (by omega)) (b.data_append_of_lt xs (by omega))

/-- A header read out of an empty buffer that has just been filled. -/
theorem sCarga_fresh {data : Mem UInt8} {cmd hi lo : UInt8} {bytes : List UInt8} :
    (sCarga (Buffer.append ⟨data, 0⟩ (cmd :: hi :: lo :: bytes))).toNat = hi.toNat * 256 + lo.toNat := by
  have h₁ : (Buffer.append ⟨data, 0⟩ (cmd :: hi :: lo :: bytes)).data 1 = hi :=
    Buffer.data_append_add ⟨data, 0⟩ (i := 1) rfl
  have h₂ : (Buffer.append ⟨data, 0⟩ (cmd :: hi :: lo :: bytes)).data 2 = lo :=
    Buffer.data_append_add ⟨data, 0⟩ (i := 2) rfl
  rw [sCarga_toNat, h₁, h₂]

/-! ## Well-formed messages -/

structure WireMessage where
  cmd : UInt8
  hi : UInt8
  lo : UInt8
  payload : List UInt8
  declared : hi.toNat * 256 + lo.toNat = payload.length

/-- A header of zeros declares an empty payload. -/
theorem declared_nil : (0 : UInt8).toNat * 256 + (0 : UInt8).toNat = ([] : List UInt8).length := rfl

namespace WireMessage

variable {m : WireMessage} {p q : List UInt8}

def bytes (m : WireMessage) : List UInt8 := m.cmd :: m.hi :: m.lo :: m.payload

@[simp] theorem bytes_length (m : WireMessage) : m.bytes.length = 3 + m.payload.length := by
  simp [bytes]
  omega

theorem bytes_ne_nil (m : WireMessage) : m.bytes ≠ [] := by simp [bytes]

theorem split_length (hs : m.bytes = p ++ q) : p.length + q.length = 3 + m.payload.length := by
  rw [← m.bytes_length, hs, List.length_append]

/-- The header, as far as it is in the buffer. -/
theorem header_of_held {b : Buffer UInt8} (hb : b.held = p) (hs : m.bytes = p ++ q) :
    (2 ≤ p.length → b.data 1 = m.hi) ∧ (3 ≤ p.length → b.data 2 = m.lo) := by
  have hdata : ∀ i (h : i < p.length), m.bytes[i]? = some (b.data i) := by
    intro i h
    have hi : i < b.held.length := by rw [hb]; exact h
    rw [hs, List.getElem?_append_left h, Buffer.data_of_held b hi, ← List.getElem?_eq_getElem hi, hb]
  constructor
  · intro h
    have := hdata 1 h
    simpa [bytes] using this.symm
  · intro h
    have := hdata 2 h
    simpa [bytes] using this.symm

/-- With the header in the buffer, the size read is that of the payload. -/
theorem sCarga_of_held {b : Buffer UInt8} (hb : b.held = p) (hs : m.bytes = p ++ q) (hp : 3 ≤ p.length) :
    (sCarga b).toNat = m.payload.length := by
  obtain ⟨h₁, h₂⟩ := header_of_held hb hs
  rw [sCarga_toNat, h₁ (by omega), h₂ hp, m.declared]

/-- The completion test: more bytes than the size read and two. With fewer than
three bytes it fails whatever is read. -/
theorem complete_iff {b : Buffer UInt8} (hb : b.held = p) (hs : m.bytes = p ++ q) :
    (sCarga b).toNat + 2 < b.index ↔ q = [] := by
  have hindex : b.index = p.length := by rw [← Buffer.held_length, hb]
  have hlen := split_length hs
  rw [← List.length_eq_zero_iff, hindex]
  by_cases hp : 3 ≤ p.length
  · have hsize := sCarga_of_held hb hs hp
    omega
  · omega

end WireMessage

end UdcFirmware.Drivers
