/-
The display, `ihm.c`. `IHMIntHandler` moves bytes from the FIFO of the UART
into `Dado` while there is room, and asks for a dispatch;
`DisplayProcessData` takes a message with a good checksum apart
(`SeparaDado`), has its command carried out and empties the buffer.

The handler may be invoked between any two statements of a dispatch, also
while `SeparaDado` copies out of the buffer; `Ihm.advance` makes them one by
one. Whatever arrives, no statement writes outside its array
(`Ihm.Inv.step`).
-/
import UdcFirmware.Drivers.UsbToSerial

namespace UdcFirmware.Drivers

open Bsmp ByteMem Checked Filling

/-! ## `ihm.c` -/

@[simp] abbrev ihmBufSize : Nat := 256

/-- The sizes of `Dado.buffer_rx` and `Mensagem.DADO`. -/
@[simp] abbrev ihmRxSize : Nat := 265
@[simp] abbrev ihmDadoSize : Nat := 256

/-- `buffer_t`. -/
structure BufferT where
  bufferRx : Mem UInt8
  counter : Nat
  ndado : UInt8
  csum : UInt8

/-- `protocolo_t`. -/
structure Protocolo where
  cmd : UInt8
  pdado : UInt8
  ndado : UInt8
  dado : Mem UInt8
  ack : UInt8
  cks : UInt8

/-- Where a dispatch stands. -/
inductive DisplayPc
  /-- Outside of `DisplayProcessData`, or at its test of the checksum. -/
  | idle
  /-- At the reads of the header in `SeparaDado`. -/
  | header
  /-- At the test of its loop. -/
  | copying (count : Nat)
  | ack (count : Nat)
  | clear
  /-- At `ProcessCmd`. -/
  | process
  | resetCounter
  | resetCsum
  deriving DecidableEq

structure Ihm where
  flags : Flags
  fifo : List UInt8
  dado : BufferT
  mensagem : Protocolo
  pc : DisplayPc

/-- The loop of `IHMIntHandler`, over the bytes in the FIFO. -/
def BufferT.receive (b : BufferT) : List UInt8 → Except Fault (BufferT × List UInt8)
  | [] => .ok (b, [])
  | c :: cs =>
    if b.counter < ihmBufSize then do
      let bufferRx ← writeCell Fault.buffer ihmRxSize b.bufferRx b.counter c
      receive { b with bufferRx, counter := b.counter + 1, csum := b.csum + bufferRx b.counter } cs
    else .ok (b, c :: cs)

/-- Only the receive time-out, `0x40`, is served. -/
def ihmIntHandler (s : Ihm) (status : IntStatus) : Except Fault Ihm :=
  if status = .rt then do
    let (dado, fifo) ← s.dado.receive s.fifo
    return { s with dado, fifo, flags := (taskSetNew s.flags ETask.processDisplayMessage.num).1 }
  else .ok s

/-- The next statement of `DisplayProcessData`. What `ProcessCmd` does to `Mensagem` is a parameter. -/
def Ihm.advance (processCmd : Protocolo → Protocolo) (s : Ihm) : Except Fault Ihm :=
  match s.pc with
  | .idle => .ok { s with pc := if s.dado.csum ≠ 0 then .resetCounter else .header }
  | .header =>
    .ok { s with
      mensagem := { s.mensagem with
        cmd := s.dado.bufferRx 0
        pdado := s.dado.bufferRx 1
        ndado := s.dado.bufferRx 2 }
      pc := .copying 0 }
  | .copying count =>
    if count < s.mensagem.ndado.toNat then do
      let dado ← writeCell Fault.buffer ihmDadoSize s.mensagem.dado count (s.dado.bufferRx (count + 3))
      return { s with mensagem := { s.mensagem with dado }, pc := .copying (count + 1) }
    else .ok { s with pc := .ack count }
  | .ack count =>
    .ok { s with mensagem := { s.mensagem with ack := s.dado.bufferRx (count + 3) }, pc := .clear }
  | .clear => .ok { s with dado := { s.dado with counter := 0, ndado := 0 }, pc := .process }
  | .process => .ok { s with mensagem := processCmd s.mensagem, pc := .resetCounter }
  | .resetCounter => .ok { s with dado := { s.dado with counter := 0 }, pc := .resetCsum }
  | .resetCsum => .ok { s with dado := { s.dado with csum := 0 }, pc := .idle }

inductive DisplayEvent
  /-- Bytes have arrived in the FIFO, and the handler is invoked. -/
  | interrupt (status : IntStatus) (bytes : List UInt8)
  | advance

def Ihm.step (processCmd : Protocolo → Protocolo) (s : Ihm) : DisplayEvent → Except Fault Ihm
  | .interrupt status bytes => ihmIntHandler { s with fifo := s.fifo ++ bytes } status
  | .advance => s.advance processCmd

def Ihm.powerUp : Ihm where
  flags := fun _ => false
  fifo := []
  dado := ⟨fun _ => 0, 0, 0, 0⟩
  mensagem := ⟨0, 0, 0, fun _ => 0, 0, 0⟩
  pc := .idle

/-! ## No write is out of bounds -/

variable {s : Ihm}

/-- The counter stays within what the loop of the handler allows. -/
def Ihm.Inv (s : Ihm) : Prop := s.dado.counter ≤ ihmBufSize

theorem BufferT.receive_ok (b : BufferT) (cs : List UInt8) (h : b.counter ≤ ihmBufSize) :
    ∃ b' rest, b.receive cs = .ok (b', rest) ∧ b'.counter ≤ ihmBufSize := by
  induction cs generalizing b with
  | nil => exact ⟨b, [], rfl, h⟩
  | cons c cs ih =>
    by_cases hb : b.counter < ihmBufSize
    · have hin : b.counter < ihmRxSize := Nat.lt_trans hb (by decide)
      rw [receive, if_pos hb, writeCell_ok hin]
      exact ih _ hb
    · rw [receive, if_neg hb]
      exact ⟨b, _, rfl, h⟩

theorem Ihm.Inv.interrupt (h : s.Inv) (status : IntStatus) : Returns (ihmIntHandler s status) Ihm.Inv := by
  unfold ihmIntHandler
  split
  · obtain ⟨dado, fifo, hrecv, hcounter⟩ := s.dado.receive_ok s.fifo h
    exact .step hrecv (.pure hcounter)
  · exact .ok h

/-- A length byte is at most 255, and the array has 256 cells. -/
theorem Ihm.Inv.advance (h : s.Inv) (processCmd : Protocolo → Protocolo) :
    Returns (s.advance processCmd) Ihm.Inv := by
  unfold Ihm.advance
  split
  · exact .ok h
  · exact .ok h
  · next count _ =>
    split
    · next hlt =>
      have hbyte := s.mensagem.ndado.toNat_lt
      have hin : count < ihmDadoSize := by simp only [ihmDadoSize]; omega
      exact .step (writeCell_ok hin) (.pure h)
    · exact .ok h
  · exact .ok h
  · exact .ok (Nat.zero_le _)
  · exact .ok h
  · exact .ok (Nat.zero_le _)
  · exact .ok h

theorem Ihm.Inv.step (h : s.Inv) (processCmd : Protocolo → Protocolo) (e : DisplayEvent) :
    Returns (s.step processCmd e) Ihm.Inv := by
  cases e with
  | interrupt status bytes => exact Ihm.Inv.interrupt (s := { s with fifo := s.fifo ++ bytes }) h status
  | advance => exact h.advance processCmd

end UdcFirmware.Drivers
