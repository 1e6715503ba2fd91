/-
Every path on which bytes come in: Ethernet, the two RS485 lines, USB and the
display. Each writes to an array of its own and has its own way of keeping to
its size, or none: the index of Ethernet is compared with a number it cannot
reach, the RS485 handlers compare nothing, and `SeparaDadoUsb` copies as many
bytes as a byte of the message says.

Interrupt handlers come between any two statements of the main loop. Where
those three paths are not given more than their arrays hold, no write is out of
bounds (`receivers_in_bounds`).
-/
import UdcFirmware.Drivers.Ethernet
import UdcFirmware.Drivers.Ihm

namespace UdcFirmware.Drivers

open Bsmp ByteMem Checked Filling

variable {σ : Type} {md5 : Md5}

/-! ## `rs485.c` and `rs485_bkp.c` -/

@[simp] abbrev rs485BufSize : Nat := 20

structure SerialBuffer where
  buffer : Buffer UInt8
  csum : UInt8

/-- `!(lChar & ~0xFF)`: a character without an error bit. -/
def validChar (lChar : UInt32) : Bool := lChar &&& ~~~0xFF == 0

/-- The loop of the handlers, over the characters in the FIFO. -/
def SerialBuffer.receive (b : SerialBuffer) : List UInt32 → Except Fault SerialBuffer
  | [] => .ok b
  | lChar :: cs =>
    if validChar lChar then do
      let buffer ← b.buffer.push Fault.buffer rs485BufSize (lChar &&& 0xFF).toUInt8
      receive ⟨buffer, b.csum + buffer.data b.buffer.index⟩ cs
    else receive b cs

/-- The branches of a handler: receive, or turn the line round. -/
def SerialBuffer.interrupt (b : SerialBuffer) (status : IntStatus) (chars : List UInt32) :
    Except Fault SerialBuffer :=
  if status = .rx ∨ status = .rt then b.receive chars else .ok b

def rs485IntHandler (recvBuffer : SerialBuffer) := recvBuffer.interrupt

def rs485BkpIntHandler (recvBuffer : SerialBuffer) := recvBuffer.interrupt

/-- `ResetBufferRS485`; and what `ReadBufferRS485BKP` does to the buffer it has copied. -/
def SerialBuffer.reset (b : SerialBuffer) : SerialBuffer := ⟨b.buffer.reset, 0⟩

/-! ## `usb_dev_serial.c` and `superv_cmd.c` -/

/-- The sizes of `DadoUsb.buffer_rx` and `MensagemUsb.DADO`. -/
@[simp] abbrev usbRxSize : Nat := 265
@[simp] abbrev usbDadoSize : Nat := 100

/-- `buffer_usb_t`. -/
structure BufferUsb where
  bufferRx : Mem UInt8
  counter : Nat
  ndado : UInt8

/-- `protocolo_usb_t`. -/
structure ProtocoloUsb where
  cmd : UInt8
  ndado : UInt8
  dado : Mem UInt8
  cks : UInt8

/-- Where `MensagUsb` stands. -/
inductive UsbPc
  /-- Outside, or at the test of `NewData`. -/
  | idle
  /-- At the reads of the header in `SeparaDadoUsb`. -/
  | header
  /-- At the test of its loop. -/
  | copying (count : Nat)
  | clear
  /-- At `ProcessCmdUsb`. -/
  | process
  | finish
  deriving DecidableEq

/-- `rx` is what the USB library has received: `g_sRxBuffer`. -/
structure UsbSerial where
  rx : List UInt8
  dado : BufferUsb
  newData : Bool
  mensagem : ProtocoloUsb
  pc : UsbPc

/-- The loop of `USBloop`: each byte, and a 0 behind it. -/
def BufferUsb.receive (b : BufferUsb) : List UInt8 → Except Fault (BufferUsb × List UInt8)
  | [] => .ok (b, [])
  | c :: cs =>
    if b.counter < 100 then do
      let bufferRx ← writeCell Fault.buffer usbRxSize b.bufferRx b.counter c
      let bufferRx ← writeCell Fault.buffer usbRxSize bufferRx (b.counter + 1) 0
      receive { b with bufferRx, counter := b.counter + 1 } cs
    else .ok (b, c :: cs)

def usbLoop (s : UsbSerial) : Except Fault UsbSerial := do
  let (dado, rx) ← ({ s.dado with counter := 0 } : BufferUsb).receive s.rx
  return { s with dado, rx, newData := if dado.counter < 100 then true else s.newData }

/-- The next statement of `MensagUsb`. What `ProcessCmdUsb` does to `MensagemUsb` is a parameter. -/
def UsbSerial.advance (processCmdUsb : ProtocoloUsb → ProtocoloUsb) (s : UsbSerial) :
    Except Fault UsbSerial :=
  match s.pc with
  | .idle => .ok { s with pc := if s.newData then .header else .idle }
  | .header =>
    .ok { s with
      mensagem := { s.mensagem with cmd := s.dado.bufferRx 0, ndado := s.dado.bufferRx 1 }
      pc := .copying 0 }
  | .copying count =>
    if count < s.mensagem.ndado.toNat then do
      let dado ← writeCell Fault.buffer usbDadoSize s.mensagem.dado count (s.dado.bufferRx (count + 2))
      return { s with mensagem := { s.mensagem with dado }, pc := .copying (count + 1) }
    else do
      let dado ← writeCell Fault.buffer usbDadoSize s.mensagem.dado count 0
      return { s with mensagem := { s.mensagem with dado }, pc := .clear }
  | .clear => .ok { s with dado := { s.dado with counter := 0, ndado := 0 }, pc := .process }
  | .process => .ok { s with mensagem := processCmdUsb s.mensagem, pc := .finish }
  | .finish => .ok { s with newData := false, rx := [], pc := .idle }

/-! ## All of them -/

structure Receivers (σ : Type) where
  ethernet : Ethernet σ
  rs485 : SerialBuffer
  rs485Bkp : SerialBuffer
  usb : UsbSerial
  ihm : Ihm

inductive ReceiveEvent
  | ethernet (e : EthernetEvent)
  | rs485 (status : IntStatus) (chars : List UInt32)
  | resetBufferRs485
  | rs485Bkp (status : IntStatus) (chars : List UInt32)
  | readBufferRs485Bkp
  /-- `USB_EVENT_RX_AVAILABLE`. -/
  | usb (bytes : List UInt8)
  /-- A statement of `MensagUsb`. -/
  | mensagUsb
  | ihm (e : DisplayEvent)

def Receivers.step (md5 : Md5) (processCmd : Protocolo → Protocolo)
    (processCmdUsb : ProtocoloUsb → ProtocoloUsb) (s : Receivers σ) :
    ReceiveEvent → Except Fault (Receivers σ)
  | .ethernet e => do
    let ethernet ← s.ethernet.step md5 e
    return { s with ethernet }
  | .rs485 status chars => do
    let rs485 ← rs485IntHandler s.rs485 status chars
    return { s with rs485 }
  | .resetBufferRs485 => .ok { s with rs485 := s.rs485.reset }
  | .rs485Bkp status chars => do
    let rs485Bkp ← rs485BkpIntHandler s.rs485Bkp status chars
    return { s with rs485Bkp }
  | .readBufferRs485Bkp => .ok { s with rs485Bkp := s.rs485Bkp.reset }
  | .usb bytes => do
    let usb ← usbLoop { s.usb with rx := s.usb.rx ++ bytes }
    return { s with usb }
  | .mensagUsb => do
    let usb ← s.usb.advance processCmdUsb
    return { s with usb }
  | .ihm e => do
    let ihm ← s.ihm.step processCmd e
    return { s with ihm }

def Receivers.powerUp (r : Routines σ) (world : World σ) : Receivers σ where
  ethernet := .powerUp r world
  rs485 := ⟨⟨fun _ => 0, 0⟩, 0⟩
  rs485Bkp := ⟨⟨fun _ => 0, 0⟩, 0⟩
  usb := ⟨[], ⟨fun _ => 0, 0, 0⟩, false, ⟨0, 0, fun _ => 0, 0⟩, .idle⟩
  ihm := .powerUp

/-- The characters have room behind those received since the last reset. -/
def SerialBuffer.Room (b : SerialBuffer) (status : IntStatus) (chars : List UInt32) : Prop :=
  status = .other ∨ b.buffer.index + (chars.filter validChar).length ≤ rs485BufSize

/-- A segment has room in `rx_buffer`, characters on an RS485 line have room in
theirs, and the length byte of a USB message that is taken apart is below 100. -/
def Receivers.Room (s : Receivers σ) : ReceiveEvent → Prop
  | .ethernet (.input _ (some bytes)) => s.ethernet.rxBuffer.index + bytes.length ≤ rxBufSize
  | .rs485 status chars => s.rs485.Room status chars
  | .rs485Bkp status chars => s.rs485Bkp.Room status chars
  | .mensagUsb => s.usb.pc = .header → (s.usb.dado.bufferRx 1).toNat < usbDadoSize
  | _ => True

/-! ## Each path on its own -/

/-- What holds of the Ethernet transport whatever it receives. -/
structure Ethernet.Inv (s : Ethernet σ) : Prop where
  sys : FunctionsOnly s.sys
  sendable : s.Sendable
  index : s.rxBuffer.index ≤ rxBufSize

theorem Ethernet.Inv.flushed {s : Ethernet σ} (h : s.Inv) (conn : Connection) : (s.flushed conn).Inv := by
  refine ⟨?_, ?_, ?_⟩
  · unfold Ethernet.flushed
    split
    · exact h.sys
    · exact h.sys
  · intro hd
    rw [flushed_newDataSend] at hd
    cases hd
  · rw [flushed_rxBuffer]
    exact h.index

theorem Ethernet.Inv.process {s : Ethernet σ} (h : s.Inv) (md5 : Md5) :
    Returns (ethernetProcessCmd md5 s) Ethernet.Inv := by
  obtain ⟨s', hproc, hsys, hrecv, -, -, hsendable, -⟩ := ethernetProcessCmd_ok md5 h.sys h.index
  exact ⟨s', hproc, hsys, hsendable, by rw [hrecv]; exact Nat.zero_le _⟩

theorem Ethernet.Inv.step {s : Ethernet σ} (h : s.Inv) (md5 : Md5) {e : EthernetEvent}
    (hroom : ∀ conn bytes, e = .input conn (some bytes) → s.rxBuffer.index + bytes.length ≤ rxBufSize) :
    Returns (s.step md5 e) Ethernet.Inv := by
  have hafter : ∀ s : Ethernet σ, s.Inv →
      Returns (if s.newMessage then ethernetProcessCmd md5 { s with newMessage := false } else pure s)
        Ethernet.Inv := by
    intro s hs
    refine .ite (fun _ => ?_) fun _ => .pure hs
    exact Ethernet.Inv.process (s := { s with newMessage := false }) ⟨hs.sys, hs.sendable, hs.index⟩ md5
  cases e with
  | input conn data =>
    cases data with
    | none => exact .step (httpdAppcall_none h.sendable conn) (hafter _ (h.flushed conn))
    | some bytes =>
      have hin := hroom conn bytes rfl
      have hrecv : (s.received bytes).Inv := ⟨h.sys, h.sendable, hin⟩
      exact .step (httpdAppcall_some h.sendable conn hin) (hafter _ (hrecv.flushed conn))
  | periodic conn => exact ⟨_, httpdAppcall_none h.sendable conn, h.flushed conn⟩

/-- A segment that has no room is written past the end. -/
theorem newdata_overruns {s : Ethernet σ} (hidx : s.rxBuffer.index ≤ rxBufSize) {bytes : List UInt8}
    (h : rxBufSize < s.rxBuffer.index + bytes.length) : s.newdata bytes = .error .buffer := by
  have hne : bytes ≠ [] := by
    rintro rfl
    rw [List.length_nil] at h
    omega
  simp only [Ethernet.newdata, Buffer.pushAll_eq]
  rw [if_pos (by simp only [rxBufSize] at hidx; omega), if_neg (by simp only [hne, or_false]; omega)]
  rfl

/-- The loop of the RS485 handlers, with room for the characters. -/
theorem SerialBuffer.receive_ok (b : SerialBuffer) (chars : List UInt32)
    (h : b.buffer.index + (chars.filter validChar).length ≤ rs485BufSize) :
    Returns (b.receive chars) fun b' => b'.buffer.index ≤ rs485BufSize := by
  induction chars generalizing b with
  | nil =>
    rw [List.filter_nil, List.length_nil] at h
    exact .ok h
  | cons c cs ih =>
    by_cases hc : validChar c = true
    · rw [List.filter_cons_of_pos hc, List.length_cons] at h
      rw [receive, if_pos hc]
      refine .step (by rw [Buffer.push_eq, if_pos (by omega)]) (ih _ ?_)
      simp only [Buffer.index_append, List.length_singleton]
      omega
    · rw [List.filter_cons_of_neg hc] at h
      rw [receive, if_neg hc]
      exact ih b h

/-- Without room one of them is written past the end. -/
theorem SerialBuffer.receive_overruns (b : SerialBuffer) (chars : List UInt32)
    (hidx : b.buffer.index ≤ rs485BufSize)
    (h : rs485BufSize < b.buffer.index + (chars.filter validChar).length) :
    b.receive chars = .error .buffer := by
  induction chars generalizing b with
  | nil =>
    rw [List.filter_nil, List.length_nil] at h
    omega
  | cons c cs ih =>
    by_cases hc : validChar c = true
    · rw [List.filter_cons_of_pos hc, List.length_cons] at h
      rw [receive, if_pos hc, Buffer.push_eq]
      by_cases hfull : b.buffer.index < rs485BufSize
      · rw [if_pos hfull, ok_bind]
        refine ih _ hfull ?_
        simp only [Buffer.index_append, List.length_singleton]
        omega
      · rw [if_neg hfull]
        rfl
    · rw [List.filter_cons_of_neg hc] at h
      rw [receive, if_neg hc]
      exact ih b hidx h

theorem SerialBuffer.interrupt_ok {b : SerialBuffer} {status : IntStatus} {chars : List UInt32}
    (hidx : b.buffer.index ≤ rs485BufSize) (hroom : b.Room status chars) :
    Returns (b.interrupt status chars) fun b' => b'.buffer.index ≤ rs485BufSize := by
  refine .ite (fun hread => ?_) fun _ => .ok hidx
  refine b.receive_ok chars (hroom.resolve_left ?_)
  rintro rfl
  simp at hread

theorem SerialBuffer.interrupt_overruns {b : SerialBuffer} {status : IntStatus} {chars : List UInt32}
    (hidx : b.buffer.index ≤ rs485BufSize) (hroom : ¬ b.Room status chars) :
    b.interrupt status chars = .error .buffer := by
  obtain ⟨hread, hfew⟩ := not_or.mp hroom
  have hread' : status = .rx ∨ status = .rt := by cases status <;> simp_all
  rw [interrupt, if_pos hread']
  exact b.receive_overruns chars hidx (by omega)

/-- While a USB message is copied, its length byte is below 100. -/
def UsbSerial.Inv (s : UsbSerial) : Prop :=
  ∀ count, s.pc = .copying count → s.mensagem.ndado.toNat < usbDadoSize ∧ count ≤ s.mensagem.ndado.toNat

theorem BufferUsb.receive_ok (b : BufferUsb) (cs : List UInt8) :
    ∃ b' rest, b.receive cs = .ok (b', rest) := by
  induction cs generalizing b with
  | nil => exact ⟨b, [], rfl⟩
  | cons c cs ih =>
    by_cases hb : b.counter < 100
    · have hin : b.counter < usbRxSize := Nat.lt_trans hb (by decide)
      have hin' : b.counter + 1 < usbRxSize := by simp only [usbRxSize]; omega
      rw [receive, if_pos hb, writeCell_ok hin, ok_bind, writeCell_ok hin']
      exact ih _
    · rw [receive, if_neg hb]
      exact ⟨b, _, rfl⟩

/-- `USBloop` counts to 100 itself, and touches nothing that `MensagUsb` counts with. -/
theorem UsbSerial.Inv.usbLoop {s : UsbSerial} (h : s.Inv) : Returns (usbLoop s) UsbSerial.Inv := by
  obtain ⟨dado, rx, hrecv⟩ := BufferUsb.receive_ok { s.dado with counter := 0 } s.rx
  exact .step hrecv (.pure h)

theorem UsbSerial.Inv.advance {s : UsbSerial} (h : s.Inv) (processCmdUsb : ProtocoloUsb → ProtocoloUsb)
    (hroom : s.pc = .header → (s.dado.bufferRx 1).toNat < usbDadoSize) :
    Returns (s.advance processCmdUsb) UsbSerial.Inv := by
  have hidle : ∀ s : UsbSerial, (∀ count, s.pc ≠ .copying count) → s.Inv :=
    fun s hs count hpc => absurd hpc (hs count)
  unfold UsbSerial.advance
  split
  · refine .ok (hidle _ fun count => ?_)
    simp only
    split <;> simp
  · next hpc =>
    refine .ok fun count hc => ?_
    cases hc
    exact ⟨hroom hpc, Nat.zero_le _⟩
  · next count hpc =>
    obtain ⟨hshort, hcount⟩ := h count hpc
    split
    · next hlt =>
      refine .step (writeCell_ok (Nat.lt_trans hlt hshort)) (.pure fun count' hc => ?_)
      cases hc
      exact ⟨hshort, hlt⟩
    · exact .step (writeCell_ok (Nat.lt_of_le_of_lt hcount hshort)) (.pure (hidle _ (by simp)))
  · exact .ok (hidle _ (by simp))
  · exact .ok (hidle _ (by simp))
  · exact .ok (hidle _ (by simp))

/-- A length byte of 100 or more: the copying goes past the end. -/
theorem UsbSerial.advance_overruns (processCmdUsb : ProtocoloUsb → ProtocoloUsb) (k : Nat) {s : UsbSerial}
    {count : Nat} (hpc : s.pc = .copying count) (hk : count + k = usbDadoSize)
    (hlong : usbDadoSize ≤ s.mensagem.ndado.toNat) :
    Runs.run (fun s (_ : Unit) => UsbSerial.advance processCmdUsb s) s (List.replicate (k + 1) ()) =
      .error .buffer := by
  induction k generalizing s count with
  | zero =>
    have hfail : ∀ x, writeCell Fault.buffer usbDadoSize s.mensagem.dado count x = .error .buffer :=
      fun x => if_neg (by omega)
    rw [List.replicate_succ, Runs.run_cons]
    simp only [UsbSerial.advance, hpc, hfail]
    split <;> rfl
  | succ k ih =>
    rw [List.replicate_succ, Runs.run_cons]
    simp only [UsbSerial.advance, hpc]
    rw [if_pos (by omega), writeCell_ok (by omega)]
    exact ih (s := { s with
      mensagem := { s.mensagem with
        dado := Function.update s.mensagem.dado count (s.dado.bufferRx (count + 2)) }
      pc := .copying (count + 1) }) rfl (by omega) hlong

/-! ## Any order of events -/

variable {s : Receivers σ} {processCmd : Protocolo → Protocolo} {processCmdUsb : ProtocoloUsb → ProtocoloUsb}

structure Receivers.Inv (s : Receivers σ) : Prop where
  ethernet : s.ethernet.Inv
  rs485 : s.rs485.buffer.index ≤ rs485BufSize
  rs485Bkp : s.rs485Bkp.buffer.index ≤ rs485BufSize
  usb : s.usb.Inv
  ihm : s.ihm.Inv

theorem Receivers.inv_powerUp (r : Routines σ) (world : World σ) : (Receivers.powerUp r world).Inv where
  ethernet := by
    refine ⟨?_, fun hd => Bool.noConfusion hd, Nat.zero_le _⟩
    simp only [powerUp, Ethernet.powerUp]
    exact bsmpInit_functionsOnly r world
  rs485 := Nat.zero_le _
  rs485Bkp := Nat.zero_le _
  usb _ h := UsbPc.noConfusion h
  ihm := Nat.zero_le _

theorem Receivers.Inv.step (h : s.Inv) (md5 : Md5) (processCmd : Protocolo → Protocolo)
    (processCmdUsb : ProtocoloUsb → ProtocoloUsb) {e : ReceiveEvent} (hroom : s.Room e) :
    Returns (s.step md5 processCmd processCmdUsb e) Receivers.Inv := by
  cases e with
  | ethernet e =>
    have hsegment : ∀ conn bytes, e = .input conn (some bytes) →
        s.ethernet.rxBuffer.index + bytes.length ≤ rxBufSize := by
      rintro conn bytes rfl
      exact hroom
    exact .bind (h.ethernet.step md5 hsegment) fun _ _ hx => .pure ⟨hx, h.rs485, h.rs485Bkp, h.usb, h.ihm⟩
  | rs485 status chars =>
    exact .bind (SerialBuffer.interrupt_ok h.rs485 hroom) fun _ _ hx =>
      .pure ⟨h.ethernet, hx, h.rs485Bkp, h.usb, h.ihm⟩
  | resetBufferRs485 => exact .ok ⟨h.ethernet, Nat.zero_le _, h.rs485Bkp, h.usb, h.ihm⟩
  | rs485Bkp status chars =>
    exact .bind (SerialBuffer.interrupt_ok h.rs485Bkp hroom) fun _ _ hx =>
      .pure ⟨h.ethernet, h.rs485, hx, h.usb, h.ihm⟩
  | readBufferRs485Bkp => exact .ok ⟨h.ethernet, h.rs485, Nat.zero_le _, h.usb, h.ihm⟩
  | usb bytes =>
    exact .bind (UsbSerial.Inv.usbLoop (s := { s.usb with rx := s.usb.rx ++ bytes }) h.usb) fun _ _ hx =>
      .pure ⟨h.ethernet, h.rs485, h.rs485Bkp, hx, h.ihm⟩
  | mensagUsb =>
    exact .bind (h.usb.advance processCmdUsb hroom) fun _ _ hx =>
      .pure ⟨h.ethernet, h.rs485, h.rs485Bkp, hx, h.ihm⟩
  | ihm e =>
    exact .bind (h.ihm.step processCmd e) fun _ _ hx => .pure ⟨h.ethernet, h.rs485, h.rs485Bkp, h.usb, hx⟩

/-- **Where receive buffers hold.** Any bytes on any path, in any division into
interrupts, USB events and segments, and any order of these with the statements
of the main loop: if every segment, every run of characters on an RS485 line and
every USB message that is taken apart has room, no write is out of bounds. -/
theorem receivers_in_bounds (md5 : Md5) (processCmd : Protocolo → Protocolo)
    (processCmdUsb : ProtocoloUsb → ProtocoloUsb) (r : Routines σ) (world : World σ) (evs : List ReceiveEvent)
    (h : Runs.Along (Receivers.step md5 processCmd processCmdUsb) Receivers.Room (.powerUp r world) evs) :
    ∃ s, Runs.run (Receivers.step md5 processCmd processCmdUsb) (.powerUp r world) evs = .ok s := by
  obtain ⟨s, hrun, -⟩ := Runs.run_along (fun s e hs he => hs.step md5 processCmd processCmdUsb he) evs
    (Receivers.inv_powerUp r world) h
  exact ⟨s, hrun⟩

theorem run_mensagUsb {n : Nat} {s : Receivers σ} {f : Fault}
    (h : Runs.run (fun s (_ : Unit) => UsbSerial.advance processCmdUsb s) s.usb (List.replicate n ()) =
      .error f) :
    Runs.run (Receivers.step md5 processCmd processCmdUsb) s (List.replicate n .mensagUsb) = .error f := by
  induction n generalizing s with
  | zero => cases h
  | succ n ih =>
    rw [List.replicate_succ, Runs.run_cons] at h ⊢
    simp only [Receivers.step]
    cases hadv : s.usb.advance processCmdUsb with
    | error f' =>
      rw [hadv] at h
      cases h
      rfl
    | ok usb =>
      rw [hadv] at h
      exact ih (s := { s with usb }) h

/-- An event without room always leads out of bounds: at once, or when the USB
message has been copied as far as there is room. -/
theorem Receivers.Inv.overruns (h : s.Inv) (md5 : Md5) {e : ReceiveEvent} (hroom : ¬ s.Room e) :
    ∃ n, Runs.run (Receivers.step md5 processCmd processCmdUsb) s (e :: List.replicate n .mensagUsb) =
      .error .buffer := by
  cases e with
  | ethernet e =>
    cases e with
    | input conn data =>
      cases data with
      | none => exact absurd trivial hroom
      | some bytes =>
        refine ⟨0, ?_⟩
        have hfail := newdata_overruns h.ethernet.index (Nat.lt_of_not_le hroom)
        rw [Runs.run_cons]
        simp only [Receivers.step, Ethernet.step, httpdAppcall, hfail]
        rfl
    | periodic conn => exact absurd trivial hroom
  | rs485 status chars =>
    refine ⟨0, ?_⟩
    rw [Runs.run_cons]
    simp only [Receivers.step, rs485IntHandler, SerialBuffer.interrupt_overruns h.rs485 hroom]
    rfl
  | rs485Bkp status chars =>
    refine ⟨0, ?_⟩
    rw [Runs.run_cons]
    simp only [Receivers.step, rs485BkpIntHandler, SerialBuffer.interrupt_overruns h.rs485Bkp hroom]
    rfl
  | mensagUsb =>
    obtain ⟨hpc, hlong⟩ := Classical.not_imp.mp hroom
    have hfirst : s.usb.advance processCmdUsb = .ok { s.usb with
        mensagem := { s.usb.mensagem with cmd := s.usb.dado.bufferRx 0, ndado := s.usb.dado.bufferRx 1 }
        pc := .copying 0 } := by
      simp only [UsbSerial.advance, hpc]
    have hcopy := UsbSerial.advance_overruns processCmdUsb usbDadoSize
      (s := { s.usb with
        mensagem := { s.usb.mensagem with cmd := s.usb.dado.bufferRx 0, ndado := s.usb.dado.bufferRx 1 }
        pc := .copying 0 })
      rfl (Nat.zero_add _) (Nat.le_of_not_lt hlong)
    refine ⟨usbDadoSize + 1, run_mensagUsb (n := usbDadoSize + 1 + 1) ?_⟩
    rw [List.replicate_succ, Runs.run_cons, hfirst, ok_bind]
    exact hcopy
  | resetBufferRs485 | readBufferRs485Bkp | usb bytes | ihm e => exact absurd trivial hroom

/-- A segment that does not complete a message. -/
theorem step_incomplete {bytes : List UInt8} (conn : Connection) (hwait : s.ethernet.newDataSend = false)
    (hroom : s.ethernet.rxBuffer.index + bytes.length ≤ rxBufSize)
    (hopen : (s.ethernet.received bytes).newMessage = false) :
    s.step md5 processCmd processCmdUsb (.ethernet (.input conn (some bytes))) =
      .ok { s with ethernet := s.ethernet.received bytes } := by
  have hcall : httpdAppcall s.ethernet conn (some bytes) = .ok (s.ethernet.received bytes) := by
    simp only [httpdAppcall, newdata_ok hroom, ok_bind]
    rw [if_neg (by simp [Ethernet.received, hwait])]
    rfl
  simp only [Receivers.step, Ethernet.step, hcall, ok_bind, hopen, Bool.false_eq_true, if_false]
  rfl

/-- A message is being received that declares more than the buffer holds. -/
structure Ethernet.Outgrown (s : Ethernet σ) : Prop where
  newMessage : s.newMessage = false
  newDataSend : s.newDataSend = false
  header : 3 ≤ s.rxBuffer.index
  index : s.rxBuffer.index ≤ rxBufSize
  declared : rxBufSize ≤ (sCarga s.rxBuffer).toNat + 2

/-- Segment after segment of such a message, until one has no room. -/
theorem segments_overrun (bytes : List UInt8) (conn : Connection) (n : Nat) {s : Receivers σ}
    (h : s.ethernet.Outgrown) (hn : rxBufSize < s.ethernet.rxBuffer.index + n * bytes.length) :
    Runs.run (Receivers.step md5 processCmd processCmdUsb) s
      (List.replicate n (.ethernet (.input conn (some bytes)))) = .error .buffer := by
  induction n generalizing s with
  | zero =>
    have := h.index
    omega
  | succ n ih =>
    rw [List.replicate_succ, Runs.run_cons]
    by_cases hroom : s.ethernet.rxBuffer.index + bytes.length ≤ rxBufSize
    · have hsame := sCarga_append h.header bytes
      have hopen : (s.ethernet.received bytes).newMessage = false := by
        rw [← h.newMessage]
        refine if_neg ?_
        rw [hsame, Buffer.index_append]
        have := h.declared
        omega
      rw [step_incomplete conn h.newDataSend hroom hopen, ok_bind]
      refine ih (s := { s with ethernet := s.ethernet.received bytes })
        ⟨hopen, h.newDataSend, Nat.le_add_right_of_le h.header, hroom, ?_⟩ ?_
      · simp only [Ethernet.received, hsame]
        exact h.declared
      · simp only [Ethernet.received, Buffer.index_append]
        rw [Nat.succ_mul] at hn
        omega
    · simp only [Receivers.step, Ethernet.step, httpdAppcall,
        newdata_overruns h.index (Nat.lt_of_not_le hroom)]
      rfl

/-- Six segments of 1400 bytes, the first with a header that declares 65535. -/
def oversizedMessage : List ReceiveEvent :=
  .ethernet (.input 0 (some (0 :: 255 :: 255 :: List.replicate 1397 0))) ::
    List.replicate 5 (.ethernet (.input 0 (some (List.replicate 1400 0))))

theorem oversizedMessage_overruns :
    Runs.run (Receivers.step byteSum id id) (.powerUp idleRoutines { mem := fun _ => 0, app := () })
      oversizedMessage = .error .buffer := by
  have hlen : (0 :: 255 :: 255 :: List.replicate 1397 0 : List UInt8).length = 1400 := by
    simp only [List.length_cons, List.length_replicate]
  have hsize :
      (sCarga (Buffer.append ⟨fun _ => 0, 0⟩ (0 :: 255 :: 255 :: List.replicate 1397 0))).toNat = 65535 :=
    sCarga_fresh
  rw [oversizedMessage, Runs.run_cons]
  generalize (0 :: 255 :: 255 :: List.replicate 1397 0 : List UInt8) = bytes at hlen hsize ⊢
  have hindex : (Buffer.append ⟨fun _ => 0, 0⟩ bytes).index = 1400 := by rw [Buffer.index_append, hlen]
  have hopen : ((Receivers.powerUp idleRoutines { mem := fun _ => 0, app := () }).ethernet.received
      bytes).newMessage = false := by
    refine if_neg ?_
    simp only [Receivers.powerUp, Ethernet.powerUp, hsize, hindex]
    omega
  rw [step_incomplete 0 rfl (by rw [hlen]; decide) hopen, ok_bind]
  refine segments_overrun (List.replicate 1400 0) 0 5 ⟨hopen, rfl, ?_, ?_, ?_⟩ ?_
  · exact (by decide : 3 ≤ 1400).trans hindex.ge
  · exact hindex.le.trans (by decide)
  · simp only [Ethernet.received, Receivers.powerUp, Ethernet.powerUp, hsize]
    decide
  · simp only [Ethernet.received, Receivers.powerUp, Ethernet.powerUp, hindex, List.length_replicate]
    decide

/-- A request in a segment, bytes on the other paths, and the message of the USB host taken apart. -/
theorem fewBytes_in_bounds : ∃ s, Runs.run (Receivers.step byteSum id id)
    (.powerUp idleRoutines { mem := fun _ => 0, app := () })
    [.ethernet (.input 0 (some [0, 0, 0])), .rs485 .rx [7, 8], .usb [1, 1, 5], .mensagUsb, .mensagUsb, .mensagUsb,
      .ihm (.interrupt .rt [1])] = .ok s :=
  receivers_in_bounds byteSum id id idleRoutines _ _ ⟨(by decide : 0 + 3 ≤ rxBufSize), fun s₁ hs₁ => by
    cases hs₁
    refine ⟨.inr (by decide), fun s₂ hs₂ => ?_⟩
    cases hs₂
    refine ⟨trivial, fun s₃ hs₃ => ?_⟩
    cases hs₃
    refine ⟨fun hpc => UsbPc.noConfusion hpc, fun s₄ hs₄ => ?_⟩
    cases hs₄
    refine ⟨fun _ => by decide, fun s₅ hs₅ => ?_⟩
    cases hs₅
    exact ⟨fun hpc => UsbPc.noConfusion hpc, fun _ _ => ⟨trivial, fun _ _ => trivial⟩⟩⟩

end UdcFirmware.Drivers
