/-
A dispatch of the serial line, statement by statement. `Usb2SerialIntHandler`
may be invoked between any two statements of `TaskCheck` and
`Usb2SerialProcessData`, and it appends to the buffer that the dispatch is
reading (`Interleaved.step`).

The dispatch clears its flag first and empties the buffer last, after the
answer and one byte more have gone out. A host that has its answer may already
have sent the next message by then. Where no invocation falls in between, every
message is passed on (`turns_deliver`).
-/
import UdcFirmware.Drivers.SerialFraming

namespace UdcFirmware.Drivers

open Bsmp ByteMem Checked Filling

variable {σ : Type} {md5 : Md5}

/-! ## The main loop and the host -/

/-- Where the main loop stands. -/
inductive SerialPc
  /-- Outside of `TaskCheck`, or in a handler that is not this driver's. -/
  | idle
  /-- At `PROCESS_USB2SERIAL_MESS = 0`: the flag was found set. -/
  | clear
  /-- At `recv_packet.len = recv_buffer.index`. -/
  | setLen
  /-- At `BSMPprocess`. -/
  | process
  /-- At the test of the loop of `Usb2SerialTxHandler`. -/
  | transmit (i : Nat)
  /-- At `recv_buffer.index = 0`. -/
  | resetRecv
  /-- At `send_buffer.index = 0`. -/
  | resetSend
  deriving DecidableEq

/-- The driver, the main loop and the host. `waiting`: the host has sent a
message and not got all bytes of the answer; `sent` is what it has sent. -/
structure Interleaved (σ : Type) where
  driver : Usb2Serial σ
  pc : SerialPc
  waiting : Bool
  sent : List (List UInt8)

/-- The next statement of the main loop. -/
def Interleaved.advance (md5 : Md5) (s : Interleaved σ) : Except Fault (Interleaved σ) :=
  match s.pc with
  | .idle =>
    let (flags, handler) := Drivers.taskCheck s.driver.flags
    if handler = some .usb2SerialProcessData then .ok { s with pc := .clear }
    else .ok { s with driver := { s.driver with flags } }
  | .clear =>
    .ok { s with
      driver := { s.driver with
        flags := Function.update s.driver.flags ETask.processUsb2SerialMessage.flag false }
      pc := .setLen }
  | .setLen => .ok { s with driver := s.driver.setRecvLen, pc := .process }
  | .process => do
    let driver ← s.driver.bsmpProcess md5
    return { s with driver, pc := .transmit 0 }
  | .transmit i =>
    if i < s.driver.sendLen.toNat + serialHeader then do
      let driver ← s.driver.charPut i
      -- The byte may be the last one of the answer.
      return { s with
        driver
        pc := .transmit (i + 1)
        waiting := s.waiting && i + 1 != s.driver.sendLen.toNat }
    else .ok { s with pc := .resetRecv }
  | .resetRecv =>
    .ok { s with driver := { s.driver with recvBuffer := s.driver.recvBuffer.reset }, pc := .resetSend }
  | .resetSend =>
    .ok { s with driver := { s.driver with sendBuffer := s.driver.sendBuffer.reset }, pc := .idle }

inductive TurnEvent
  /-- The host sends a message, and it arrives whole. -/
  | message (status : IntStatus) (reads : status ≠ .other) (m : SerialMessage)
  /-- An invocation of the handler with nothing new. -/
  | invocation (status : IntStatus)
  | request (task : ETask) (h : task ≠ .processUsb2SerialMessage)
  | advance

def Interleaved.step (md5 : Md5) (s : Interleaved σ) : TurnEvent → Except Fault (Interleaved σ)
  | .message status _ m =>
    .ok { s with
      driver := usb2SerialIntHandler { s.driver with fifo := s.driver.fifo ++ m.bytes } status
      waiting := true
      sent := s.sent ++ [m.bytes] }
  | .invocation status => .ok { s with driver := usb2SerialIntHandler s.driver status }
  | .request task _ =>
    .ok { s with driver := { s.driver with flags := (taskSetNew s.driver.flags task.num).1 } }
  | .advance => s.advance md5

def Interleaved.powerUp (r : Routines σ) (world : World σ) : Interleaved σ where
  driver := .powerUp r world
  pc := .idle
  waiting := false
  sent := []

/-- The host waits for the answer to its last message. -/
def Interleaved.Allows (s : Interleaved σ) : TurnEvent → Prop
  | .message _ _ _ => s.waiting = false
  | _ => True

/-- Between the clearing of the flag and the reset of the receive buffer. -/
def SerialPc.Serving : SerialPc → Prop
  | setLen | process | transmit _ | resetRecv => True
  | _ => False

/-- No invocation that reads the FIFO falls between the clearing of the flag and
the reset of the receive buffer. -/
def Interleaved.Undisturbed (s : Interleaved σ) : TurnEvent → Prop
  | .message _ _ _ => ¬ s.pc.Serving
  | .invocation status => status = .other ∨ ¬ s.pc.Serving
  | _ => True

/-! ## Where a message is -/

variable {s s' : Interleaved σ} {m : SerialMessage}

/-- No message is under way. -/
structure Interleaved.Free (s : Interleaved σ) : Prop where
  ready : ∃ lo, Ready lo s.driver
  calls : s.driver.calls = s.sent
  waiting : s.waiting = false

/-- A message is in the buffer, and its dispatch is asked for. -/
structure Interleaved.Loaded (m : SerialMessage) (s : Interleaved σ) : Prop where
  all : ∃ lo s₀, Ready lo s₀ ∧ Receiving m lo s₀ m.bytes [] s.driver
  sent : s.sent = s.driver.calls ++ [m.bytes]
  waiting : s.waiting = true

/-- The dispatch has begun: its flag is cleared, and the message is in the buffer. -/
structure Interleaved.Serves (m : SerialMessage) (s : Interleaved σ) : Prop where
  sys : FunctionsOnly s.driver.sys
  fifo : s.driver.fifo = []
  held : s.driver.recvBuffer.held = m.bytes
  requested : s.driver.requested = false

/-- What holds at each statement. -/
def Interleaved.Phase (s : Interleaved σ) : Prop :=
  match s.pc with
  | .idle | .resetSend => s.Free ∨ ∃ m, s.Loaded m
  | .clear => ∃ m, s.Loaded m
  | .setLen => ∃ m, s.Serves m ∧ s.sent = s.driver.calls ++ [m.bytes] ∧ s.waiting = true
  | .process => ∃ m, s.Serves m ∧ s.sent = s.driver.calls ++ [m.bytes] ∧ s.waiting = true ∧
      s.driver = s.driver.setRecvLen
  | .transmit i => ∃ m, s.Serves m ∧ s.sent = s.driver.calls ∧ i ≤ s.driver.sendLen.toNat + serialHeader ∧
      s.driver.sendLen.toNat + serialHeader ≤ serialBufSize ∧
      (s.waiting = true ↔ i < s.driver.sendLen.toNat)
  | .resetRecv => ∃ m, s.Serves m ∧ s.sent = s.driver.calls ∧ s.waiting = false

theorem Interleaved.phase_powerUp (r : Routines σ) (world : World σ) :
    (Interleaved.powerUp r world).Phase :=
  .inl ⟨⟨0, Ready.powerUp r world⟩, rfl, rfl⟩

theorem Interleaved.Serves.index (h : s.Serves m) : s.driver.recvBuffer.index ≤ serialBufSize := by
  have hfits := m.fits
  rw [← Buffer.held_length, h.held, m.bytes_length]
  exact hfits

/-- The flags of other tasks may change at any time. -/
theorem Interleaved.Phase.flags (h : s.Phase) {flags : Flags}
    (hflag : flags ETask.processUsb2SerialMessage.flag = s.driver.requested) :
    Interleaved.Phase { s with driver := { s.driver with flags } } := by
  have hfree : s.Free → Interleaved.Free { s with driver := { s.driver with flags } } := by
    rintro ⟨⟨lo, hready⟩, hcalls, hwait⟩
    exact ⟨⟨lo, hready.flags hflag⟩, hcalls, hwait⟩
  have hload : ∀ {m}, s.Loaded m → Interleaved.Loaded m { s with driver := { s.driver with flags } } := by
    rintro m ⟨⟨lo, s₀, hs₀, hall⟩, hsent, hwait⟩
    exact ⟨⟨lo, s₀, hs₀, hall.flags hflag⟩, hsent, hwait⟩
  have hserve : ∀ {m}, s.Serves m → Interleaved.Serves m { s with driver := { s.driver with flags } } :=
    fun hm => ⟨hm.sys, hm.fifo, hm.held, hflag.trans hm.requested⟩
  obtain ⟨driver, pc, waiting, sent⟩ := s
  cases pc with
  | idle => exact h.imp hfree fun ⟨m, hm⟩ => ⟨m, hload hm⟩
  | clear =>
    obtain ⟨m, hm⟩ := h
    exact ⟨m, hload hm⟩
  | setLen =>
    obtain ⟨m, hm, hrest⟩ := h
    exact ⟨m, hserve hm, hrest⟩
  | process =>
    obtain ⟨m, hm, hsent, hwait, hlen⟩ := h
    refine ⟨m, hserve hm, hsent, hwait, ?_⟩
    rw [Usb2Serial.setRecvLen] at hlen ⊢
    exact congrArg (fun d : Usb2Serial σ => { d with flags }) hlen
  | transmit i =>
    obtain ⟨m, hm, hrest⟩ := h
    exact ⟨m, hserve hm, hrest⟩
  | resetRecv =>
    obtain ⟨m, hm, hrest⟩ := h
    exact ⟨m, hserve hm, hrest⟩
  | resetSend => exact h.imp hfree fun ⟨m, hm⟩ => ⟨m, hload hm⟩

/-! ## Invocations of the handler -/

/-- A message that arrives while none is under way. -/
theorem Interleaved.Free.message (h : s.Free) {status : IntStatus} (reads : status ≠ .other)
    (m : SerialMessage) :
    Interleaved.Loaded m { s with
      driver := usb2SerialIntHandler { s.driver with fifo := s.driver.fifo ++ m.bytes } status
      waiting := true
      sent := s.sent ++ [m.bytes] } := by
  obtain ⟨lo, hready⟩ := h.ready
  have hwhole : m.bytes = m.bytes ++ [] := (List.append_nil _).symm
  rcases (Receiving.start (m := m) hready).piece hready reads hwhole with hall | ⟨htwo, -⟩
  · refine ⟨⟨lo, s.driver, hready, hall⟩, ?_, rfl⟩
    change s.sent ++ [m.bytes] = _ ++ [m.bytes]
    rw [hall.calls, h.calls]
  · rw [List.nil_append, m.bytes_length] at htwo
    omega

/-- An invocation with nothing new. -/
theorem Interleaved.Free.invocation (h : s.Free) (status : IntStatus) :
    Interleaved.Free { s with driver := usb2SerialIntHandler s.driver status } := by
  obtain ⟨lo, hready⟩ := h.ready
  by_cases hst : status = .other
  · subst hst
    exact h
  · obtain ⟨s', hstep, hready', hcalls⟩ := hready.step byteSum (a := .piece status hst []) rfl
    have hsame : ({ s.driver with fifo := s.driver.fifo ++ [] } : Usb2Serial σ) = s.driver := by simp
    simp only [Arrival.event, Usb2Serial.step, hsame, Except.ok.injEq] at hstep
    subst hstep
    exact ⟨⟨lo, hready'⟩, hcalls.trans h.calls, h.waiting⟩

theorem Interleaved.Loaded.invocation (h : s.Loaded m) (status : IntStatus) :
    Interleaved.Loaded m { s with driver := usb2SerialIntHandler s.driver status } := by
  obtain ⟨lo, s₀, hs₀, hall⟩ := h.all
  by_cases hst : status = .other
  · subst hst
    exact h
  · have hsame : ({ s.driver with fifo := s.driver.fifo ++ [] } : Usb2Serial σ) = s.driver := by simp
    have hnone : ([] : List UInt8) = [] ++ [] := rfl
    have hpiece := hall.piece hs₀ hst hnone
    rw [hsame, List.append_nil] at hpiece
    rcases hpiece with hall' | ⟨htwo, -⟩
    · exact ⟨⟨lo, s₀, hs₀, hall'⟩, by rw [hall'.calls, ← hall.calls]; exact h.sent, h.waiting⟩
    · rw [m.bytes_length] at htwo
      omega

theorem Interleaved.Phase.message (h : s.Phase) (hallow : s.waiting = false) (hfree : ¬ s.pc.Serving)
    {status : IntStatus} (reads : status ≠ .other) (m : SerialMessage) :
    Interleaved.Phase { s with
      driver := usb2SerialIntHandler { s.driver with fifo := s.driver.fifo ++ m.bytes } status
      waiting := true
      sent := s.sent ++ [m.bytes] } := by
  have hload : ∀ {m}, ¬ s.Loaded m := fun hm => by simpa [hallow] using hm.waiting
  have hfresh : s.Free ∨ (∃ m, s.Loaded m) → s.Free := fun h => h.resolve_right fun ⟨m, hm⟩ => hload hm
  obtain ⟨driver, pc, waiting, sent⟩ := s
  cases pc with
  | idle => exact .inr ⟨m, (hfresh h).message reads m⟩
  | resetSend => exact .inr ⟨m, (hfresh h).message reads m⟩
  | clear =>
    obtain ⟨m', hm'⟩ := h
    exact absurd hm' hload
  | setLen | process | transmit _ | resetRecv => exact absurd trivial hfree

theorem Interleaved.Phase.invocation (h : s.Phase) {status : IntStatus}
    (hfree : status = .other ∨ ¬ s.pc.Serving) :
    Interleaved.Phase { s with driver := usb2SerialIntHandler s.driver status } := by
  rcases hfree with rfl | hfree
  · exact h
  · have hboth : s.Free ∨ (∃ m, s.Loaded m) →
        Interleaved.Free { s with driver := usb2SerialIntHandler s.driver status } ∨
        ∃ m, Interleaved.Loaded m { s with driver := usb2SerialIntHandler s.driver status } :=
      Or.imp (fun h => h.invocation status) fun ⟨m, hm⟩ => ⟨m, hm.invocation status⟩
    obtain ⟨driver, pc, waiting, sent⟩ := s
    cases pc with
    | idle => exact hboth h
    | resetSend => exact hboth h
    | clear =>
      obtain ⟨m, hm⟩ := h
      exact ⟨m, hm.invocation status⟩
    | setLen | process | transmit _ | resetRecv => exact absurd trivial hfree

/-! ## Statements of the main loop -/

theorem Usb2Serial.charPut_ok {d : Usb2Serial σ} {i : Nat} (h : i < serialBufSize) :
    d.charPut i = .ok { d with uart := d.uart ++ [d.sendBuffer.data i] } := if_pos h

/-- A byte of the answer. -/
theorem Interleaved.Phase.transmit {driver : Usb2Serial σ} {i : Nat} {waiting : Bool}
    {sent : List (List UInt8)} (h : Interleaved.Phase ⟨driver, .transmit i, waiting, sent⟩) (md5 : Md5) :
    ∃ s', Interleaved.advance md5 ⟨driver, .transmit i, waiting, sent⟩ = .ok s' ∧ s'.Phase ∧
      s'.sent = sent := by
  obtain ⟨m, hm, hsent, hi, hroom, hwait⟩ := h
  simp only at hsent hi hroom hwait
  by_cases hlt : i < driver.sendLen.toNat + serialHeader
  · refine ⟨⟨{ driver with uart := driver.uart ++ [driver.sendBuffer.data i] }, .transmit (i + 1),
      waiting && i + 1 != driver.sendLen.toNat, sent⟩, ?_, ⟨m, ?_, hsent, hlt, hroom, ?_⟩, rfl⟩
    · simp only [Interleaved.advance, hlt, if_true, Usb2Serial.charPut_ok (Nat.lt_of_lt_of_le hlt hroom)]
      rfl
    · exact ⟨hm.sys, hm.fifo, hm.held, hm.requested⟩
    · simp only [Bool.and_eq_true, bne_iff_ne, hwait]
      omega
  · refine ⟨⟨driver, .resetRecv, waiting, sent⟩, ?_, ⟨m, ⟨hm.sys, hm.fifo, hm.held, hm.requested⟩, hsent, ?_⟩,
      rfl⟩
    · simp only [Interleaved.advance, hlt, if_false]
    · have hnot : ¬ i < driver.sendLen.toNat := by omega
      rw [← hwait, Bool.not_eq_true] at hnot
      exact hnot

/-- A statement never stops, and the host has no part in it. -/
theorem Interleaved.Phase.advance (h : s.Phase) (md5 : Md5) :
    ∃ s', s.advance md5 = .ok s' ∧ s'.Phase ∧ s'.sent = s.sent := by
  obtain ⟨driver, pc, waiting, sent⟩ := s
  cases pc with
  | idle =>
    rcases taskCheck_task driver.flags .processUsb2SerialMessage with ⟨hset, hcall, -⟩ | ⟨hcall, hsame⟩
    · change (Drivers.taskCheck driver.flags).2 = some .usb2SerialProcessData at hcall
      refine ⟨⟨driver, .clear, waiting, sent⟩, ?_, ?_, rfl⟩
      · simp only [Interleaved.advance, hcall, if_true]
      · rcases h with hfree | ⟨m, hload⟩
        · obtain ⟨lo, hready⟩ := hfree.ready
          exact absurd (hready.requested.symm.trans hset) (by simp)
        · exact ⟨m, hload.all, hload.sent, hload.waiting⟩
    · change (Drivers.taskCheck driver.flags).2 ≠ some .usb2SerialProcessData at hcall
      exact ⟨_, by simp only [Interleaved.advance, hcall, if_false], h.flags hsame, rfl⟩
  | clear =>
    obtain ⟨m, ⟨lo, s₀, -, hall⟩, hsent, hwait⟩ := h
    refine ⟨_, rfl, ⟨m, ⟨hall.inv.sys, hall.fifo, hall.held, ?_⟩, hsent, hwait⟩, rfl⟩
    exact Function.update_self ETask.processUsb2SerialMessage.flag false driver.flags
  | setLen =>
    obtain ⟨m, hm, hsent, hwait⟩ := h
    exact ⟨_, rfl, ⟨m, ⟨hm.sys, hm.fifo, hm.held, hm.requested⟩, hsent, hwait, rfl⟩, rfl⟩
  | process =>
    obtain ⟨m, hm, hsent, hwait, hlen⟩ := h
    obtain ⟨sys, response, hcall, hsys, -, hheader, hroom⟩ := bsmpProcess_ok md5 hm.sys
    have hheld := recvPacket_held hm.index
    simp only at hlen hheld hsent hwait hcall
    rw [← hlen, hm.held] at hheld
    refine ⟨⟨driver.answered sys response, .transmit 0, waiting, sent⟩, ?_,
      ⟨m, ⟨hsys, hm.fifo, hm.held, hm.requested⟩, ?_, Nat.zero_le _, hroom, ?_⟩, rfl⟩
    · simp only [Interleaved.advance, hcall, ok_bind]
      rfl
    · change sent = driver.calls ++ [_]
      rw [hheld, hsent]
    · exact iff_of_true hwait (Nat.lt_of_lt_of_le (by decide) hheader)
  | transmit i => exact h.transmit md5
  | resetRecv =>
    obtain ⟨m, hm, hsent, hwait⟩ := h
    have hsplit : m.bytes = m.bytes ++ [] := (List.append_nil _).symm
    have hlong : 3 ≤ m.bytes.length := by rw [m.bytes_length]; omega
    refine ⟨_, rfl, .inl ⟨⟨m.lo, ⟨⟨hm.sys, Nat.zero_le _, fun hreq => ?_⟩, hm.fifo, rfl, hm.requested,
      ?_, ?_⟩⟩, hsent.symm, hwait⟩, rfl⟩
    · exact absurd (hm.requested.symm.trans hreq) (by simp)
    · exact (WireMessage.header_of_held hm.held hsplit).2 hlong
    · have hfits := m.fits
      exact (WireMessage.sCarga_of_held hm.held hsplit hlong).le.trans (by omega)
  | resetSend =>
    refine ⟨_, rfl, ?_, rfl⟩
    rcases h with ⟨⟨lo, hready⟩, hcalls, hwait⟩ | ⟨m, ⟨lo, s₀, hs₀, hall⟩, hsent, hwait⟩
    · refine .inl ⟨⟨lo, ?_⟩, hcalls, hwait⟩
      exact ⟨⟨hready.inv.sys, hready.inv.index, hready.inv.whole⟩, hready.fifo, hready.empty,
        hready.requested, hready.stale, hready.small⟩
    · refine .inr ⟨m, ⟨lo, s₀, hs₀, ?_⟩, hsent, hwait⟩
      exact ⟨⟨hall.inv.sys, hall.inv.index, hall.inv.whole⟩, hall.split, hall.fifo, hall.held, hall.calls,
        hall.stale, hall.small, hall.requested⟩

/-! ## Left alone, the statements are one `TaskCheck` -/

theorem charPut_sendLen {d d' : Usb2Serial σ} {i : Nat} (h : d.charPut i = .ok d') :
    d'.sendLen = d.sendLen := by
  unfold Usb2Serial.charPut at h
  split at h
  · cases h
    rfl
  · cases h

/-- The loop of `Usb2SerialTxHandler`, from its test at `i` on. -/
theorem advance_transmit (md5 : Md5) (k : Nat) {i : Nat} {s : Interleaved σ} {d : Usb2Serial σ}
    (hpc : s.pc = .transmit i)
    (hend : i + k = s.driver.sendLen.toNat + serialHeader)
    (h : (List.range' i k).foldlM Usb2Serial.charPut s.driver = .ok d) :
    ∃ s', Runs.run (Interleaved.step md5) s (List.replicate (k + 1) .advance) = .ok s' ∧ s'.pc = .resetRecv ∧
      s'.driver = d := by
  induction k generalizing i s with
  | zero =>
    cases h
    refine ⟨{ s with pc := .resetRecv }, ?_, rfl, rfl⟩
    rw [List.replicate_succ, Runs.run_cons]
    simp only [Interleaved.step, Interleaved.advance, hpc]
    rw [if_neg (by omega)]
    rfl
  | succ k ih =>
    rw [List.range'_succ, List.foldlM_cons] at h
    obtain ⟨d₁, hput, hrest⟩ := bind_ok_iff.mp h
    have hlen := charPut_sendLen hput
    obtain ⟨s', hrun, hpc', hd⟩ := ih (i := i + 1)
      (s := { s with driver := d₁, pc := .transmit (i + 1),
                     waiting := s.waiting && i + 1 != s.driver.sendLen.toNat })
      rfl (by simp only [hlen]; omega) hrest
    refine ⟨s', ?_, hpc', hd⟩
    rw [List.replicate_succ, Runs.run_cons]
    simp only [Interleaved.step, Interleaved.advance, hpc]
    rw [if_pos (by omega), hput]
    exact hrun

theorem taskCheck_cleared {flags : Flags} (task : ETask)
    (h : (Drivers.taskCheck flags).2 = some task.handler) :
    (Drivers.taskCheck flags).1 = Function.update flags task.flag false := by
  cases hdue : due flags with
  | nil =>
    rw [taskCheck_none hdue] at h
    cases h
  | cons first rest =>
    rw [taskCheck_due hdue] at h ⊢
    rw [ETask.handler_injective (Option.some.inj h)]

/-- The statements that nothing interrupts come to `Usb2Serial.taskCheck`. -/
theorem advance_dispatch {s : Interleaved σ} {d : Usb2Serial σ} (hpc : s.pc = .idle)
    (h : s.driver.taskCheck md5 = .ok d) :
    ∃ n s', Runs.run (Interleaved.step md5) s (List.replicate n .advance) = .ok s' ∧ s'.pc = .idle ∧
      s'.driver = d := by
  obtain ⟨driver, pc, waiting, sent⟩ := s
  cases hpc
  by_cases hcall : (Drivers.taskCheck driver.flags).2 = some .usb2SerialProcessData
  · simp only [Usb2Serial.taskCheck, hcall, if_true] at h
    obtain ⟨d₁, hproc, h₁⟩ := bind_ok_iff.mp h
    obtain ⟨d₂, hsend, h₂⟩ := bind_ok_iff.mp h₁
    cases h₂
    have hclear := taskCheck_cleared .processUsb2SerialMessage hcall
    rw [hclear] at hproc
    rw [usb2SerialTxHandler, List.range_eq_range'] at hsend
    obtain ⟨s', hrun, hpc', hd⟩ := advance_transmit md5 (s := ⟨d₁, .transmit 0, waiting, sent⟩) _ rfl
      (Nat.zero_add _) hsend
    refine ⟨4 + ((d₁.sendLen.toNat + serialHeader + 1) + 2),
      { s' with driver := d₂.resetBuffers, pc := .idle }, ?_, rfl, rfl⟩
    -- The flag, the length and BSMP; the answer; the two indices.
    have hfirst : Runs.run (Interleaved.step md5) ⟨driver, .idle, waiting, sent⟩ (List.replicate 4 .advance) =
        .ok ⟨d₁, .transmit 0, waiting, sent⟩ := by
      simp only [List.replicate_succ, List.replicate_zero, Runs.run, Interleaved.step, Interleaved.advance,
        hcall, if_true, ok_bind, hproc]
      rfl
    have hlast : Runs.run (Interleaved.step md5) s' (List.replicate 2 .advance) =
        .ok { s' with driver := d₂.resetBuffers, pc := .idle } := by
      simp only [List.replicate_succ, List.replicate_zero, Runs.run, Interleaved.step, Interleaved.advance,
        hpc', hd, ok_bind]
      rfl
    rw [List.replicate_add, Runs.run_append, hfirst, ok_bind, List.replicate_add, Runs.run_append, hrun,
      ok_bind, hlast]
  · refine ⟨1, ⟨{ driver with flags := (Drivers.taskCheck driver.flags).1 }, .idle, waiting, sent⟩, ?_,
      rfl, ?_⟩
    · rw [List.replicate_succ, Runs.run_cons]
      simp only [Interleaved.step, Interleaved.advance, hcall, if_false]
      rfl
    · simp only [Usb2Serial.taskCheck, hcall, if_false] at h
      cases h
      rfl

/-- No step that the host and the condition allow stops, or loses track of a message. -/
theorem Interleaved.Phase.step (h : s.Phase) (md5 : Md5) {e : TurnEvent} (hallow : s.Allows e)
    (hquiet : s.Undisturbed e) : ∃ s', s.step md5 e = .ok s' ∧ s'.Phase := by
  cases e with
  | message status reads m => exact ⟨_, rfl, h.message hallow hquiet reads m⟩
  | invocation status => exact ⟨_, rfl, h.invocation hquiet⟩
  | request task hne => exact ⟨_, rfl, h.flags (requested_request _ hne)⟩
  | advance =>
    obtain ⟨s', hs', hphase, -⟩ := h.advance md5
    exact ⟨s', hs', hphase⟩

/-! ## From a message to its dispatch -/

/-- How many statements it takes until a message in the buffer is passed on. -/
def Interleaved.distance (s : Interleaved σ) : Nat :=
  match s.pc with
  | .resetSend => 6
  | .idle => if s.driver.flags .processCanMess = true then 5 else 4
  | .clear => 3
  | .setLen => 2
  | .process => 1
  | .transmit _ | .resetRecv => 0

theorem Interleaved.Phase.calls (h : s.Phase) :
    s.driver.calls = s.sent ∨
      (0 < s.distance ∧ ∃ m : SerialMessage, s.sent = s.driver.calls ++ [m.bytes]) := by
  obtain ⟨driver, pc, waiting, sent⟩ := s
  cases pc with
  | idle =>
    rcases h with hfree | ⟨m, hm⟩
    · exact .inl hfree.calls
    · refine .inr ⟨?_, m, hm.sent⟩
      simp only [Interleaved.distance]
      split <;> omega
  | clear =>
    obtain ⟨m, hm⟩ := h
    exact .inr ⟨by simp [Interleaved.distance], m, hm.sent⟩
  | setLen =>
    obtain ⟨m, -, hsent, -⟩ := h
    exact .inr ⟨by simp [Interleaved.distance], m, hsent⟩
  | process =>
    obtain ⟨m, -, hsent, -⟩ := h
    exact .inr ⟨by simp [Interleaved.distance], m, hsent⟩
  | transmit i =>
    obtain ⟨m, -, hsent, -⟩ := h
    exact .inl hsent.symm
  | resetRecv =>
    obtain ⟨m, -, hsent, -⟩ := h
    exact .inl hsent.symm
  | resetSend =>
    rcases h with hfree | ⟨m, hm⟩
    · exact .inl hfree.calls
    · exact .inr ⟨by simp [Interleaved.distance], m, hm.sent⟩

theorem Interleaved.Phase.progress (h : s.Phase) (hlate : s.driver.calls ≠ s.sent)
    (hs : s.advance md5 = .ok s') : s'.distance < s.distance := by
  have hpos := (h.calls.resolve_left hlate).1
  obtain ⟨driver, pc, waiting, sent⟩ := s
  cases pc with
  | idle =>
    obtain ⟨m, lo, s₀, -, hall⟩ : ∃ m lo s₀, Ready lo s₀ ∧ Receiving m lo s₀ m.bytes [] driver := by
      rcases h with hfree | ⟨m, hm⟩
      · exact absurd hfree.calls hlate
      · exact ⟨m, hm.all⟩
    rcases taskCheck_requested (hall.requested.mpr rfl) with ⟨hcan, hcheck⟩ | ⟨hcan, hcheck⟩
    · simp only [Interleaved.advance, hcheck, Option.some.injEq, reduceCtorEq, if_false] at hs
      cases hs
      simp [Interleaved.distance, hcan]
    · simp only [Interleaved.advance, hcheck, if_true] at hs
      cases hs
      simp [Interleaved.distance, hcan]
  | clear | setLen =>
    cases hs
    simp [Interleaved.distance]
  | process =>
    obtain ⟨driver', -, hs'⟩ := bind_ok_iff.mp hs
    cases hs'
    simp [Interleaved.distance]
  | transmit i | resetRecv => exact absurd hpos (Nat.lt_irrefl 0)
  | resetSend =>
    cases hs
    simp only [Interleaved.distance]
    split <;> omega

/-- Left alone, the main loop passes on what has been sent. -/
theorem Interleaved.Phase.catchesUp (h : s.Phase) (md5 : Md5) :
    ∃ n s', Runs.run (Interleaved.step md5) s (List.replicate n .advance) = .ok s' ∧
      s'.driver.calls = s.sent := by
  induction hd : s.distance using Nat.strong_induction_on generalizing s with
  | _ d ih =>
    by_cases hlate : s.driver.calls = s.sent
    · exact ⟨0, s, rfl, hlate⟩
    · obtain ⟨s₁, hs₁, hphase, hsent⟩ := h.advance md5
      have hless := h.progress hlate hs₁
      obtain ⟨n, s', hrun, hcalls⟩ := ih s₁.distance (hd ▸ hless) hphase rfl
      refine ⟨n + 1, s', ?_, hcalls.trans hsent⟩
      have hstep : s.step md5 .advance = .ok s₁ := hs₁
      rw [List.replicate_succ, Runs.run_cons, hstep]
      exact hrun

/-- **Where no message is lost.** The host sends whole messages, each once it has
all bytes of the answer before. If no invocation of the handler that reads the
FIFO falls between the clearing of the flag and the reset of the receive
buffer, then what has been passed to BSMP so far are the first messages sent,
each once and unmodified, and the main loop will pass on the rest. -/
theorem turns_deliver (md5 : Md5) (r : Routines σ) (world : World σ) (evs : List TurnEvent)
    (h : Runs.Along (Interleaved.step md5) (fun s e => s.Allows e ∧ s.Undisturbed e) (.powerUp r world) evs) :
    ∃ s, Runs.run (Interleaved.step md5) (.powerUp r world) evs = .ok s ∧ s.driver.calls <+: s.sent ∧
      ∃ n s', Runs.run (Interleaved.step md5) s (List.replicate n .advance) = .ok s' ∧
        s'.driver.calls = s.sent := by
  obtain ⟨s, hrun, hphase⟩ := Runs.run_along (fun s e hs he => hs.step md5 he.1 he.2) evs
    (Interleaved.phase_powerUp r world) h
  refine ⟨s, hrun, ?_, hphase.catchesUp md5⟩
  rcases hphase.calls with heq | ⟨-, m, hsent⟩
  · exact heq ▸ List.prefix_rfl
  · rw [hsent]
    exact List.prefix_append _ _

theorem along_advance (n : Nat) (s : Interleaved σ) :
    Runs.Along (Interleaved.step md5) (fun s e => s.Allows e ∧ s.Undisturbed e) s
      (List.replicate n .advance) := by
  induction n generalizing s with
  | zero => trivial
  | succ n ih => exact ⟨⟨trivial, trivial⟩, fun s' _ => ih s'⟩

def emptyMessage : SerialMessage := ⟨⟨0, 0, 0, [], declared_nil⟩, fits_nil⟩

theorem emptyMessage_turn : ∃ s, Runs.run (Interleaved.step byteSum)
      (.powerUp idleRoutines { mem := fun _ => 0, app := () })
      (.message .rx (by decide) emptyMessage :: List.replicate 14 .advance) = .ok s ∧
    s.driver.calls <+: s.sent ∧
    ∃ n s', Runs.run (Interleaved.step byteSum) s (List.replicate n .advance) = .ok s' ∧
      s'.driver.calls = s.sent :=
  turns_deliver byteSum idleRoutines _ _ ⟨⟨rfl, id⟩, fun s' _ => along_advance 14 s'⟩

/-- Two messages, the second one sent when the six bytes of the first answer are out. -/
def lateSession : List TurnEvent :=
  .message .rx rx_ne_other emptyMessage :: List.replicate 10 .advance ++
    .message .rx rx_ne_other emptyMessage :: List.replicate 8 .advance

/-- The second message is lost, and BSMP is called on an empty buffer. -/
theorem lateMessage_lost :
    Runs.Along (Interleaved.step byteSum) Interleaved.Allows
      (.powerUp idleRoutines { mem := fun _ => 0, app := () }) lateSession ∧
    (Runs.run (Interleaved.step byteSum) (.powerUp idleRoutines { mem := fun _ => 0, app := () })
      lateSession).toOption.map (fun s => (s.driver.calls, s.sent)) =
      some ([[0, 0, 0], []], [[0, 0, 0], [0, 0, 0]]) := by
  have hallows : ∀ n (s : Interleaved Unit),
      Runs.Along (Interleaved.step byteSum) Interleaved.Allows s (List.replicate n .advance) := by
    intro n
    induction n with
    | zero => exact fun _ => trivial
    | succ n ih => exact fun s => ⟨trivial, fun s' _ => ih s'⟩
  have hanswered : (Runs.run (Interleaved.step byteSum)
      (.powerUp idleRoutines { mem := fun _ => 0, app := () })
      (.message .rx (by decide) emptyMessage :: List.replicate 10 .advance)).toOption.map (·.waiting) =
      some false := by decide +kernel
  refine ⟨Runs.along_append ⟨rfl, fun s' _ => hallows 10 s'⟩ fun s' hs' => ⟨?_, fun s _ => hallows 8 s⟩, ?_⟩
  · rw [hs'] at hanswered
    exact Option.some.inj hanswered
  · decide +kernel

end UdcFirmware.Drivers
