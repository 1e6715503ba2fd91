/-
The serial transport, `usb_to_serial.c`. The interrupt handler moves bytes
from the FIFO of the UART into `recv_buffer` and asks for a dispatch once the
buffer holds as many as the header declares; `Usb2SerialProcessData` hands
the buffer to BSMP, transmits the answer and empties the buffer.

`SerialEvent` is what can happen between two invocations. The buffer bound,
the completion test and the oversize test of the handler leave three declared
sizes uncovered: a message of one of them fills the buffer for good
(`serial_jams_iff`).
-/
import UdcFirmware.Lib.Runs
import UdcFirmware.Bsmp.Jig
import UdcFirmware.Drivers.WireMessage
import UdcFirmware.Drivers.SystemTask

namespace UdcFirmware.Drivers

open Bsmp ByteMem Checked Filling

variable {σ : Type}

/-! ## The driver -/

@[simp] abbrev serialHeader : Nat := 1
@[simp] abbrev serialBufSize : Nat := 3 + 3 + 16834

/-- The variables of `usb_to_serial.c`, with the FIFO of the UART, the flags
of the scheduler and the server. `uart` is what was transmitted. No code reads
`calls`: what `recv_packet` held at each call of `BSMPprocess`. -/
structure Usb2Serial (σ : Type) where
  flags : Flags
  fifo : List UInt8
  recvBuffer : Buffer UInt8
  sendBuffer : Buffer UInt8
  recvLen : UInt16
  sendLen : UInt16
  sys : System σ
  uart : List UInt8
  calls : List (List UInt8)

/-- What `UARTIntStatus` reports: `UART_INT_RX` alone, `UART_INT_RT` alone, or
anything else. -/
inductive IntStatus
  | rx | rt | other
  deriving DecidableEq

def usb2SerialIntHandler (s : Usb2Serial σ) (status : IntStatus) : Usb2Serial σ :=
  if status = .rx ∨ status = .rt then
    let (recvBuffer, fifo) := s.recvBuffer.drain serialBufSize s.fifo
    let s := { s with recvBuffer, fifo }
    let s := if s.recvBuffer.index > (sCarga s.recvBuffer).toNat + 2 then
      { s with flags := (taskSetNew s.flags ETask.processUsb2SerialMessage.num).1 } else s
    if (sCarga s.recvBuffer).toNat > serialBufSize then
      { s with recvBuffer := s.recvBuffer.reset, sendBuffer := s.sendBuffer.reset }
    else s
  else s

/-- `recv_packet`: the receive buffer as far as `bsmp_process_packet` can look,
which is the header and `len` bytes. -/
def Usb2Serial.recvPacket (s : Usb2Serial σ) : Request where
  packet :=
    { data := load s.recvBuffer.data ⟨0, max bsmpHeaderSize s.recvLen.toNat⟩, len := s.recvLen }
  header := by simp
  held := by simp

/-- `recv_packet.len = recv_buffer.index`. -/
def Usb2Serial.setRecvLen (s : Usb2Serial σ) : Usb2Serial σ :=
  { s with recvLen := UInt16.ofNat s.recvBuffer.index }

/-- The payload of `send_packet`, before BSMP fills it. -/
def Usb2Serial.area (s : Usb2Serial σ) : Nat → UInt8 := fun i => s.sendBuffer.data (bsmpHeaderSize + i)

/-- `BSMPprocess(&recv_packet, &send_packet)`. -/
def Usb2Serial.bsmpProcess (md5 : Md5) (s : Usb2Serial σ) : Except Fault (Usb2Serial σ) := do
  let (sys, response) ← bsmpProcessPacket md5 s.sys s.recvPacket s.area
  if response.data.length > serialBufSize then .error .buffer
  else return { s with
    sys
    sendBuffer := { s.sendBuffer with data := store s.sendBuffer.data 0 response.data }
    sendLen := response.len
    calls := s.calls ++ [s.recvPacket.packet.data.take s.recvLen.toNat] }

/-- `UARTCharPut(FT230_UART_BASE, send_buffer.data[i])`. -/
def Usb2Serial.charPut (s : Usb2Serial σ) (i : Nat) : Except Fault (Usb2Serial σ) :=
  if i < serialBufSize then .ok { s with uart := s.uart ++ [s.sendBuffer.data i] } else .error .buffer

def usb2SerialTxHandler (s : Usb2Serial σ) : Except Fault (Usb2Serial σ) :=
  (List.range (s.sendLen.toNat + serialHeader)).foldlM Usb2Serial.charPut s

def Usb2Serial.resetBuffers (s : Usb2Serial σ) : Usb2Serial σ :=
  { s with recvBuffer := s.recvBuffer.reset, sendBuffer := s.sendBuffer.reset }

def usb2SerialProcessData (md5 : Md5) (s : Usb2Serial σ) : Except Fault (Usb2Serial σ) := do
  let s ← s.setRecvLen.bsmpProcess md5
  let s ← usb2SerialTxHandler s
  return s.resetBuffers

/-- `TaskCheck` as far as this driver is concerned: the handlers of other tasks
leave its variables alone. -/
def Usb2Serial.taskCheck (md5 : Md5) (s : Usb2Serial σ) : Except Fault (Usb2Serial σ) :=
  let (flags, handler) := Drivers.taskCheck s.flags
  if handler = some .usb2SerialProcessData then usb2SerialProcessData md5 { s with flags }
  else .ok { s with flags }

/-- What happens between two invocations of the interrupt handler. The other
tasks are requested by other interrupt handlers, task handlers and the test
routines. -/
inductive SerialEvent
  /-- Bytes have arrived in the FIFO, and the handler is invoked. -/
  | interrupt (status : IntStatus) (bytes : List UInt8)
  | request (task : ETask) (h : task ≠ .processUsb2SerialMessage)
  | taskCheck

def Usb2Serial.step (md5 : Md5) (s : Usb2Serial σ) : SerialEvent → Except Fault (Usb2Serial σ)
  | .interrupt status bytes => .ok (usb2SerialIntHandler { s with fifo := s.fifo ++ bytes } status)
  | .request task _ => .ok { s with flags := (taskSetNew s.flags task.num).1 }
  | .taskCheck => s.taskCheck md5

/-- The driver and the jig's server at power-up. -/
def Usb2Serial.powerUp (r : Routines σ) (world : World σ) : Usb2Serial σ where
  flags := fun _ => false
  fifo := []
  recvBuffer := ⟨fun _ => 0, 0⟩
  sendBuffer := ⟨fun _ => 0, 0⟩
  recvLen := 0
  sendLen := 0
  sys := bsmpInit r world
  uart := []
  calls := []

/-! ## One invocation of the handler -/

variable {s s' : Usb2Serial σ}

/-- The flag of the dispatch. -/
def Usb2Serial.requested (s : Usb2Serial σ) : Bool := s.flags ETask.processUsb2SerialMessage.flag

/-- The receive buffer with as much of the FIFO as it has room for. -/
def Usb2Serial.received (s : Usb2Serial σ) : Buffer UInt8 :=
  s.recvBuffer.append (s.fifo.take (serialBufSize - s.recvBuffer.index))

theorem received_index (h : s.recvBuffer.index ≤ serialBufSize) :
    s.recvBuffer.index ≤ s.received.index ∧ s.received.index ≤ serialBufSize := by
  simp only [Usb2Serial.received, Buffer.index_append, List.length_take]
  omega

/-- An invocation does nothing, or it moves bytes into the buffer and then
asks for a dispatch, or drops an oversized message, or waits for more. -/
theorem usb2SerialIntHandler_cases (h : s.recvBuffer.index ≤ serialBufSize) (status : IntStatus) :
    (status = .other ∧ usb2SerialIntHandler s status = s) ∨
    (status ≠ .other ∧ (sCarga s.received).toNat + 2 < s.received.index ∧
      usb2SerialIntHandler s status = { s with
        recvBuffer := s.received
        fifo := s.fifo.drop (serialBufSize - s.recvBuffer.index)
        flags := Function.update s.flags ETask.processUsb2SerialMessage.flag true }) ∨
    (status ≠ .other ∧ serialBufSize < (sCarga s.received).toNat ∧
      usb2SerialIntHandler s status = { s with
        recvBuffer := s.received.reset
        sendBuffer := s.sendBuffer.reset
        fifo := s.fifo.drop (serialBufSize - s.recvBuffer.index) }) ∨
    (status ≠ .other ∧ s.received.index ≤ (sCarga s.received).toNat + 2 ∧
      (sCarga s.received).toNat ≤ serialBufSize ∧
      usb2SerialIntHandler s status = { s with
        recvBuffer := s.received
        fifo := s.fifo.drop (serialBufSize - s.recvBuffer.index) }) := by
  have hidx := (received_index h).2
  by_cases hother : status = .other
  · subst hother
    exact .inl ⟨rfl, rfl⟩
  · have hread : status = .rx ∨ status = .rt := by cases status <;> simp_all
    have hdrain : s.recvBuffer.drain serialBufSize s.fifo =
        (s.received, s.fifo.drop (serialBufSize - s.recvBuffer.index)) := Buffer.drain_eq _ _ _
    simp only [usb2SerialIntHandler, hread, if_true, hdrain, taskSetNew_num]
    by_cases hfull : (sCarga s.received).toNat + 2 < s.received.index
    · refine .inr (.inl ⟨hother, hfull, ?_⟩)
      rw [if_pos hfull, if_neg (by simp only; omega)]
    · by_cases hbig : serialBufSize < (sCarga s.received).toNat
      · refine .inr (.inr (.inl ⟨hother, hbig, ?_⟩))
        rw [if_neg hfull, if_pos hbig]
      · refine .inr (.inr (.inr ⟨hother, by omega, by omega, ?_⟩))
        rw [if_neg hfull, if_neg hbig]

/-! ## One dispatch -/

theorem usb2SerialTxHandler_ok (h : s.sendLen.toNat + serialHeader ≤ serialBufSize) :
    usb2SerialTxHandler s =
      .ok { s with uart := s.uart ++ load s.sendBuffer.data ⟨0, s.sendLen.toNat + serialHeader⟩ } := by
  have hloop : ∀ n, n ≤ serialBufSize → (List.range n).foldlM Usb2Serial.charPut s =
      .ok { s with uart := s.uart ++ load s.sendBuffer.data ⟨0, n⟩ } := by
    intro n hn
    induction n with
    | zero => simp [load, pure, Except.pure]
    | succ n ih =>
      rw [List.range_succ, List.foldlM_append, ih (by omega)]
      simp only [ok_bind, List.foldlM_cons, List.foldlM_nil, Usb2Serial.charPut]
      rw [if_pos (by omega)]
      simp [load, List.range_succ, pure, Except.pure]
  exact hloop _ h

/-- What `recv_packet` holds: the bytes received. -/
theorem recvPacket_held (h : s.recvBuffer.index ≤ serialBufSize) :
    s.setRecvLen.recvPacket.packet.data.take s.setRecvLen.recvLen.toNat = s.recvBuffer.held := by
  have hlen : s.setRecvLen.recvLen.toNat = s.recvBuffer.index :=
    UInt16.toNat_ofNat_of_lt (Nat.lt_of_le_of_lt h (by decide))
  simp only [Usb2Serial.recvPacket, hlen, load, Buffer.held]
  rw [← List.map_take, List.take_range, Nat.min_eq_left (Nat.le_max_right _ _)]
  rfl

/-- The driver after BSMP has answered. -/
def Usb2Serial.answered (s : Usb2Serial σ) (sys : System σ) (response : RawPacket) : Usb2Serial σ :=
  { s with
    sys
    sendBuffer := { s.sendBuffer with data := store s.sendBuffer.data 0 response.data }
    sendLen := response.len
    calls := s.calls ++ [s.recvPacket.packet.data.take s.recvLen.toNat] }

theorem bsmpProcess_eq {md5 : Md5} {sys : System σ} {response : RawPacket}
    (hproc : bsmpProcessPacket md5 s.sys s.recvPacket s.area = .ok (sys, response)) :
    s.bsmpProcess md5 =
      if response.data.length > serialBufSize then .error .buffer else .ok (s.answered sys response) := by
  rw [Usb2Serial.bsmpProcess, hproc]
  rfl

/-- The jig's answers fit the buffer, and leave room for the byte after them. -/
theorem bsmpProcess_ok (md5 : Md5) (hsys : FunctionsOnly s.sys) :
    ∃ sys response, s.bsmpProcess md5 = .ok (s.answered sys response) ∧ FunctionsOnly sys ∧
      response.len.toNat = response.data.length ∧ bsmpHeaderSize ≤ response.len.toNat ∧
      response.len.toNat + serialHeader ≤ serialBufSize := by
  obtain ⟨sys, response, hproc, hsys', hlen, hheader, hshort⟩ := hsys.process md5 s.recvPacket s.area
  simp only [bsmpHeaderSize, maxListSize, bsmpMaxCurves, bsmpCurveListInfo] at hshort
  refine ⟨sys, response, ?_, hsys', hlen, by rw [hlen]; exact hheader, ?_⟩
  · rw [bsmpProcess_eq hproc, if_neg (by simp only [serialBufSize]; omega)]
  · simp only [serialBufSize, serialHeader]
    omega

/-- A dispatch hands the bytes held to BSMP, once, and empties the buffer. -/
theorem usb2SerialProcessData_ok (md5 : Md5) (hsys : FunctionsOnly s.sys)
    (hidx : s.recvBuffer.index ≤ serialBufSize) :
    ∃ s', usb2SerialProcessData md5 s = .ok s' ∧ FunctionsOnly s'.sys ∧ s'.flags = s.flags ∧
      s'.fifo = s.fifo ∧ s'.recvBuffer = s.recvBuffer.reset ∧
      s'.calls = s.calls ++ [s.recvBuffer.held] := by
  have hsys₁ : FunctionsOnly s.setRecvLen.sys := hsys
  obtain ⟨sys, response, hcall, hsys', -, -, hroom⟩ := bsmpProcess_ok md5 hsys₁
  let sent : Usb2Serial σ := { s.setRecvLen.answered sys response with
    uart := s.uart ++ load (s.setRecvLen.answered sys response).sendBuffer.data
      ⟨0, response.len.toNat + serialHeader⟩ }
  refine ⟨sent.resetBuffers, ?_, hsys', rfl, rfl, rfl, ?_⟩
  · rw [usb2SerialProcessData, hcall, ok_bind, usb2SerialTxHandler_ok hroom, ok_bind]
    rfl
  · have hheld := recvPacket_held hidx
    exact congrArg (fun held => s.calls ++ [held]) hheld

/-- What `TaskCheck` does here: a dispatch, which clears the flag first, or
something else, which leaves it. -/
theorem Usb2Serial.taskCheck_cases (md5 : Md5) (hsys : FunctionsOnly s.sys)
    (hidx : s.recvBuffer.index ≤ serialBufSize) :
    (s.requested = true ∧ ∃ s', s.taskCheck md5 = .ok s' ∧ FunctionsOnly s'.sys ∧ s'.requested = false ∧
      s'.fifo = s.fifo ∧ s'.recvBuffer = s.recvBuffer.reset ∧ s'.calls = s.calls ++ [s.recvBuffer.held]) ∨
    (∃ flags, flags ETask.processUsb2SerialMessage.flag = s.requested ∧
      s.taskCheck md5 = .ok { s with flags }) := by
  rcases taskCheck_task s.flags .processUsb2SerialMessage with ⟨hset, hcall, hclear⟩ | ⟨hcall, hsame⟩
  · obtain ⟨s', hproc, hsys', hflags, hfifo, hrecv, hcalls⟩ :=
      usb2SerialProcessData_ok md5 (s := { s with flags := (Drivers.taskCheck s.flags).1 }) hsys hidx
    refine .inl ⟨hset, s', ?_, hsys', ?_, hfifo, hrecv, hcalls⟩
    · change (Drivers.taskCheck s.flags).2 = some .usb2SerialProcessData at hcall
      simp only [Usb2Serial.taskCheck, hcall, if_true, hproc]
    · rw [Usb2Serial.requested, hflags]
      exact hclear
  · refine .inr ⟨(Drivers.taskCheck s.flags).1, hsame, ?_⟩
    change (Drivers.taskCheck s.flags).2 ≠ some .usb2SerialProcessData at hcall
    simp only [Usb2Serial.taskCheck, hcall, if_false]

/-! ## The driver between two invocations -/

/-- A dispatch is only asked for with a whole message in the buffer. -/
structure Usb2Serial.Inv (s : Usb2Serial σ) : Prop where
  sys : FunctionsOnly s.sys
  index : s.recvBuffer.index ≤ serialBufSize
  whole : s.requested = true → (sCarga s.recvBuffer).toNat + 2 < s.recvBuffer.index

theorem Usb2Serial.inv_powerUp (r : Routines σ) (world : World σ) : (powerUp r world).Inv where
  sys := by
    simp only [powerUp]
    exact bsmpInit_functionsOnly r world
  index := Nat.zero_le _
  whole h := Bool.noConfusion h

theorem Usb2Serial.Inv.fifo (h : s.Inv) (fifo : List UInt8) : ({ s with fifo } : Usb2Serial σ).Inv :=
  ⟨h.sys, h.index, h.whole⟩

/-- Only the flag of the dispatch matters. -/
theorem Usb2Serial.Inv.flags (h : s.Inv) {flags : Flags}
    (hflag : flags ETask.processUsb2SerialMessage.flag = s.requested) :
    ({ s with flags } : Usb2Serial σ).Inv :=
  ⟨h.sys, h.index, fun hreq => h.whole (hflag.symm.trans hreq)⟩

theorem requested_request (flags : Flags) {task : ETask} (h : task ≠ .processUsb2SerialMessage) :
    (taskSetNew flags task.num).1 ETask.processUsb2SerialMessage.flag =
      flags ETask.processUsb2SerialMessage.flag := by
  rw [taskSetNew_num, update_flag, if_neg h.symm]

/-- With a whole message in the buffer, more bytes do not change its header. -/
theorem Usb2Serial.Inv.sCarga_received (h : s.Inv) (hreq : s.requested = true) :
    sCarga s.received = sCarga s.recvBuffer :=
  sCarga_append (by have := h.whole hreq; omega) _

theorem Usb2Serial.Inv.interrupt (h : s.Inv) (status : IntStatus) : (usb2SerialIntHandler s status).Inv := by
  have hidx := received_index h.index
  rcases usb2SerialIntHandler_cases h.index status with ⟨-, he⟩ | ⟨-, hfull, he⟩ | ⟨-, hbig, he⟩ |
    ⟨-, hopen, hsmall, he⟩
  · rw [he]
    exact h
  · rw [he]
    exact ⟨h.sys, hidx.2, fun _ => hfull⟩
  · rw [he]
    refine ⟨h.sys, Nat.zero_le _, fun hreq => ?_⟩
    have hwhole := h.whole hreq
    rw [← h.sCarga_received hreq] at hwhole
    omega
  · rw [he]
    refine ⟨h.sys, hidx.2, fun hreq => ?_⟩
    have hwhole := h.whole hreq
    rw [← h.sCarga_received hreq] at hwhole
    simp only
    omega

/-- No event stops the driver, and each keeps the invariant. -/
theorem Usb2Serial.Inv.step (md5 : Md5) (h : s.Inv) (e : SerialEvent) :
    ∃ s', s.step md5 e = .ok s' ∧ s'.Inv := by
  cases e with
  | interrupt status bytes =>
    exact ⟨_, rfl, (h.fifo _).interrupt status⟩
  | request task hne => exact ⟨_, rfl, h.flags (requested_request s.flags hne)⟩
  | taskCheck =>
    rcases s.taskCheck_cases md5 h.sys h.index with ⟨-, s', hcheck, hsys, hclear, -, hrecv, -⟩ |
      ⟨flags, hflag, hcheck⟩
    · refine ⟨s', hcheck, hsys, by rw [hrecv]; exact Nat.zero_le _, fun hreq => ?_⟩
      rw [hclear] at hreq
      cases hreq
    · exact ⟨_, hcheck, h.flags hflag⟩

/-! ## The receiver that jams -/

/-- A full buffer and no dispatch asked for. -/
def Usb2Serial.Jammed (s : Usb2Serial σ) : Prop :=
  s.recvBuffer.index = serialBufSize ∧ s.requested = false

/-- The bytes of an invocation fill the buffer with a message whose header
declares too much for it to be complete and too little to be oversized. -/
def FillsUp (s : Usb2Serial σ) : SerialEvent → Prop
  | .interrupt status bytes =>
    let recvBuffer := ({ s with fifo := s.fifo ++ bytes } : Usb2Serial σ).received
    status ≠ .other ∧ recvBuffer.index = serialBufSize ∧
      serialBufSize - 2 ≤ (sCarga recvBuffer).toNat ∧ (sCarga recvBuffer).toNat ≤ serialBufSize
  | _ => False

theorem Usb2Serial.Inv.interrupt_jammed (h : s.Inv) (hfree : ¬ s.Jammed) (status : IntStatus) :
    (usb2SerialIntHandler s status).Jammed ↔
      status ≠ .other ∧ s.received.index = serialBufSize ∧
        serialBufSize - 2 ≤ (sCarga s.received).toNat ∧ (sCarga s.received).toNat ≤ serialBufSize := by
  have hidx := received_index h.index
  rcases usb2SerialIntHandler_cases h.index status with ⟨hst, he⟩ | ⟨-, hfull, he⟩ | ⟨-, hbig, he⟩ |
    ⟨hst, hopen, hsmall, he⟩
  · rw [he]
    exact ⟨fun hj => absurd hj hfree, fun hc => absurd hst hc.1⟩
  · rw [he]
    constructor
    · rintro ⟨-, hreq⟩
      simp [Usb2Serial.requested] at hreq
    · rintro ⟨-, hsize, hlow, -⟩
      omega
  · rw [he]
    constructor
    · rintro ⟨hzero, -⟩
      cases hzero
    · rintro ⟨-, -, -, hle⟩
      omega
  · rw [he]
    constructor
    · rintro ⟨hsize, -⟩
      have hsize' : s.received.index = serialBufSize := hsize
      exact ⟨hst, hsize', by omega, hsmall⟩
    · rintro ⟨-, hsize, -, -⟩
      refine ⟨hsize, ?_⟩
      change s.requested = false
      by_contra hne
      have hreq : s.requested = true := by simpa using hne
      have hwhole := h.whole hreq
      rw [← h.sCarga_received hreq] at hwhole
      omega

theorem Usb2Serial.Inv.step_jammed (md5 : Md5) (h : s.Inv) (hfree : ¬ s.Jammed) (e : SerialEvent) :
    ∃ s', s.step md5 e = .ok s' ∧ s'.Inv ∧ (¬ s'.Jammed ↔ ¬ FillsUp s e) := by
  obtain ⟨s', hstep, hinv⟩ := h.step md5 e
  refine ⟨s', hstep, hinv, not_congr ?_⟩
  cases e with
  | interrupt status bytes =>
    cases hstep
    have hfifo := h.fifo (s.fifo ++ bytes)
    exact hfifo.interrupt_jammed hfree status
  | request task hne =>
    cases hstep
    refine ⟨fun hj => absurd ⟨hj.1, ?_⟩ hfree, False.elim⟩
    exact (requested_request s.flags hne).symm.trans hj.2
  | taskCheck =>
    refine ⟨fun hj => ?_, False.elim⟩
    rcases s.taskCheck_cases md5 h.sys h.index with ⟨-, s₁, hcheck, -, -, -, hrecv, -⟩ |
      ⟨flags, hflag, hcheck⟩
    · cases hcheck.symm.trans hstep
      rw [Usb2Serial.Jammed, hrecv] at hj
      cases hj.1
    · cases hcheck.symm.trans hstep
      exact absurd ⟨hj.1, hflag.symm.trans hj.2⟩ hfree

/-- **When the serial receiver jams.** Whatever bytes arrive, in whatever
invocations: no event stops the driver, and the buffer never holds more than
its size. It is never full without a dispatch asked for, exactly when no
invocation fills it with a message whose declared size is one of the three
that are neither complete by then nor oversized. -/
theorem serial_jams_iff (md5 : Md5) (r : Routines σ) (world : World σ) (evs : List SerialEvent) :
    (∃ s, Runs.run (Usb2Serial.step md5) (.powerUp r world) evs = .ok s ∧
      s.recvBuffer.index ≤ serialBufSize) ∧
    (Runs.Throughout (Usb2Serial.step md5)
        (fun s => ¬ (s.recvBuffer.index = serialBufSize ∧ s.requested = false)) (.powerUp r world) evs ↔
      Runs.Along (Usb2Serial.step md5) (fun s e => ¬ FillsUp s e) (.powerUp r world) evs) := by
  have hinit := Usb2Serial.inv_powerUp r world
  constructor
  · obtain ⟨s, hrun, hinv⟩ := Runs.run_total (fun s e hs => hs.step md5 e) evs hinit
    exact ⟨s, hrun, hinv.index⟩
  · refine Runs.throughout_iff_along (J := Usb2Serial.Inv) (I := fun s => ¬ s.Jammed) ?_ evs hinit ?_
    · intro s e hinv hfree
      exact hinv.step_jammed md5 hfree e
    · rintro ⟨hfull, -⟩
      cases hfull

/-- The jig with routines that do nothing. -/
def idleJig : Usb2Serial Unit := .powerUp idleRoutines { mem := fun _ => 0, app := () }

/-- The first 16840 bytes of a message that declares a payload of 16838. -/
def fillingMessage : List UInt8 := 0 :: 65 :: 198 :: List.replicate 16837 0

theorem fillingMessage_length : fillingMessage.length = serialBufSize := by
  simp only [fillingMessage, List.length_cons, List.length_replicate]

theorem idleJig_inv : idleJig.Inv := Usb2Serial.inv_powerUp _ _

theorem idleJig_received (bytes : List UInt8) (h : bytes.length ≤ serialBufSize) :
    ({ idleJig with fifo := idleJig.fifo ++ bytes } : Usb2Serial Unit).received =
      Buffer.append ⟨fun _ => 0, 0⟩ bytes := by
  simp only [Usb2Serial.received, idleJig, Usb2Serial.powerUp, List.nil_append, Nat.sub_zero]
  rw [List.take_of_length_le h]

/-- One invocation, and the jig is deaf. -/
theorem serial_jams : ∃ s,
    Runs.run (Usb2Serial.step byteSum) idleJig [.interrupt .rx fillingMessage] = .ok s ∧
    s.recvBuffer.index = serialBufSize ∧ s.requested = false := by
  have hrecv := idleJig_received fillingMessage fillingMessage_length.le
  have hsize : (sCarga (Buffer.append ⟨fun _ => 0, 0⟩ fillingMessage)).toNat = 16838 := sCarga_fresh
  have hfifo := idleJig_inv.fifo (idleJig.fifo ++ fillingMessage)
  have hfree : ¬ Usb2Serial.Jammed { idleJig with fifo := idleJig.fifo ++ fillingMessage } := by
    intro hj
    have hfull : 0 = serialBufSize := hj.1
    simp at hfull
  have hfull := (hfifo.interrupt_jammed hfree .rx).mpr
  rw [hrecv, hsize, Buffer.index_append, fillingMessage_length] at hfull
  exact ⟨_, rfl, hfull ⟨by decide, by simp, by simp, by simp⟩⟩

end UdcFirmware.Drivers
