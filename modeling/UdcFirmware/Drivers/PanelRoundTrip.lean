/-
A message of the panel from `SendDisplay` to `SeparaDado`.

The bytes that `SendDisplay` gives to the UART always sum to 0. Up to 251 data
bytes they fit in what `IHMIntHandler` takes, in any division into interrupts,
and the message is recovered. A longer frame has up to four bytes more. They stay
in the FIFO, the checksum is that of the first 256 bytes, and `SeparaDado` reads
on in cells of `buffer_rx` that nothing ever writes (`Ihm.run_past`).
`Fits` is what such a message must be to be recovered all the same
(`panel_roundTrip`).
-/
import UdcFirmware.Drivers.PanelFrames

namespace UdcFirmware.Drivers

open Bsmp ByteMem Checked Filling

/-! ## What is sent -/

theorem foldl_sub_eq (bs : List UInt8) (a : UInt8) : bs.foldl (· - ·) a = a - bs.sum := by
  induction bs generalizing a with
  | nil => simp
  | cons b bs ih =>
    rw [List.foldl_cons, ih, List.sum_cons]
    grind

namespace Panel

/-- What `SendDisplay` gives to the UART. -/
def transmitted (s : Panel) : List UInt8 := s.sendDisplay.tx.drop s.tx.length

theorem transmitted_eq (s : Panel) : s.transmitted = s.mensagem.bytes ++ [s.sendDisplay.mensagem.cks] := by
  simp [transmitted, sendDisplay, Protocolo.bytes]

/-- The checksum that `SendDisplay` subtracts field by field. -/
theorem sendDisplay_cks (s : Panel) : s.sendDisplay.mensagem.cks = 0 - s.mensagem.bytes.sum := by
  simp only [sendDisplay, foldl_sub_eq, Protocolo.bytes, List.sum_cons, List.sum_append, List.sum_nil]
  grind

theorem transmitted_sum (s : Panel) : s.transmitted.sum = 0 := by
  rw [transmitted_eq, sendDisplay_cks, List.sum_append, List.sum_singleton]
  grind

end Panel

/-! ## What is received -/

namespace BufferT

variable (b : BufferT)

theorem took_took (xs ys : List UInt8) : (b.took xs).took ys = b.took (xs ++ ys) := by
  have happend := Buffer.append_append b.buffer xs ys
  simp only [buffer, Buffer.append, Buffer.mk.injEq] at happend
  simp only [took, happend, List.sum_append, UInt8.add_assoc]

/-- The handler writes none of the cells past the 256th. -/
theorem took_past (cs : List UInt8) {j : Nat} (hj : ihmBufSize ≤ j) :
    (b.took (cs.take (ihmBufSize - b.counter))).bufferRx j = b.bufferRx j := by
  refine store_of_not_mem _ fun hmem => ?_
  simp only [Region.mem_iff, List.length_take] at hmem
  omega

end BufferT

/-- No statement of the display does, and no interrupt. -/
theorem Ihm.step_past {processCmd : Protocolo → Protocolo} {s s' : Ihm} {e : DisplayEvent}
    (h : s.step processCmd e = .ok s') {j : Nat} (hj : ihmBufSize ≤ j) :
    s'.dado.bufferRx j = s.dado.bufferRx j := by
  cases e with
  | interrupt status bytes =>
    by_cases hrt : status = .rt
    · simp only [step, ihmIntHandler, if_pos hrt, BufferT.receive_eq, ok_bind] at h
      cases h
      exact s.dado.took_past _ hj
    · simp only [step, ihmIntHandler, if_neg hrt] at h
      cases h
      rfl
  | advance =>
    cases hpc : s.pc with
    | copying count =>
      simp only [step, advance, hpc] at h
      split at h
      · obtain ⟨dado, -, hs'⟩ := bind_ok_iff.mp h
        cases hs'
        rfl
      · cases h
        rfl
    | idle | header | ack | clear | process | resetCounter | resetCsum =>
      simp only [step, advance, hpc] at h
      cases h
      rfl

/-- So they are 0 for ever. -/
theorem Ihm.run_past {processCmd : Protocolo → Protocolo} {es : List DisplayEvent} {s : Ihm}
    (h : Runs.run (Ihm.step processCmd) .powerUp es = .ok s) :
    ∀ j, ihmBufSize ≤ j → s.dado.bufferRx j = 0 :=
  Runs.run_invariant (I := fun s => ∀ j, ihmBufSize ≤ j → s.dado.bufferRx j = 0)
    (fun _ _ _ hs hstep j hj => (step_past hstep hj).trans (hs j hj)) (fun _ _ => rfl) h

namespace PanelLoop

/-- Bytes that arrive in pieces, each with an interrupt. -/
def reception (s : PanelLoop) (pieces : List (IntStatus × List UInt8)) : Except Fault PanelLoop :=
  Runs.run (fun s piece => s.interrupt piece.1 piece.2) s pieces

/-- The pieces make up the bytes, and the last comes with the time-out. -/
structure Whole (bytes : List UInt8) (pieces : List (IntStatus × List UInt8)) : Prop where
  flatten : pieces.flatMap Prod.snd = bytes
  served : ∃ before last, pieces = before ++ [(.rt, last)]

theorem interrupt_rt (s : PanelLoop) (more : List UInt8) : s.interrupt .rt more =
    .ok { s with
      panel := { s.panel with
        flags := (taskSetNew s.panel.flags ETask.processDisplayMessage.num).1
        dado := s.panel.dado.took ((s.fifo ++ more).take (ihmBufSize - s.panel.dado.counter)) }
      fifo := (s.fifo ++ more).drop (ihmBufSize - s.panel.dado.counter) } := by
  simp only [interrupt, ihmIntHandler, if_true, ihm, BufferT.receive_eq, ok_bind]
  rfl

theorem interrupt_other (s : PanelLoop) {status : IntStatus} (h : status ≠ .rt) (more : List UInt8) :
    s.interrupt status more = .ok { s with fifo := s.fifo ++ more } := by
  simp only [interrupt, ihmIntHandler, if_neg h]
  rfl

variable {receiver : Panel} {bytes : List UInt8} {s : PanelLoop}

/-- Of the bytes that have arrived, the first are in the buffer, and the others in the FIFO. -/
def Arrived (receiver : Panel) (bytes : List UInt8) (s : PanelLoop) : Prop :=
  ∃ flags taken, taken.length ≤ ihmBufSize ∧ taken ++ s.fifo = bytes ∧
    s.panel = { receiver with flags, dado := receiver.dado.took taken } ∧ s.pc = .idle

/-- A time-out takes all that there is room for. -/
theorem Arrived.timeout (h : Arrived receiver bytes s) (hempty : receiver.dado.counter = 0)
    (more : List UInt8) : ∃ s' flags, s.interrupt .rt more = .ok s' ∧ Arrived receiver (bytes ++ more) s' ∧
      s'.panel = { receiver with flags, dado := receiver.dado.took ((bytes ++ more).take ihmBufSize) } := by
  obtain ⟨flags, taken, hlen, rfl, hpanel, hpc⟩ := h
  have hcounter : s.panel.dado.counter = taken.length := by
    rw [hpanel]
    exact (congrArg (· + taken.length) hempty).trans (Nat.zero_add _)
  have hall : (taken ++ s.fifo ++ more).take ihmBufSize =
      taken ++ (s.fifo ++ more).take (ihmBufSize - s.panel.dado.counter) := by
    rw [List.append_assoc, List.take_append, List.take_of_length_le hlen, hcounter]
  have hdado : s.panel.dado.took ((s.fifo ++ more).take (ihmBufSize - s.panel.dado.counter)) =
      receiver.dado.took ((taken ++ s.fifo ++ more).take ihmBufSize) := by
    rw [hall, ← BufferT.took_took, hpanel]
  have hpanel' (flags : Flags) : { s.panel with
        flags
        dado := s.panel.dado.took ((s.fifo ++ more).take (ihmBufSize - s.panel.dado.counter)) } =
      { receiver with flags, dado := receiver.dado.took ((taken ++ s.fifo ++ more).take ihmBufSize) } := by
    rw [hdado, hpanel]
  refine ⟨_, _, interrupt_rt s more, ⟨_, _, List.length_take_le _ _, ?_, hpanel' _, hpc⟩, hpanel' _⟩
  rw [hall, List.append_assoc, List.take_append_drop, List.append_assoc]

theorem Arrived.interrupt (h : Arrived receiver bytes s) (hempty : receiver.dado.counter = 0)
    (status : IntStatus) (more : List UInt8) :
    ∃ s', s.interrupt status more = .ok s' ∧ Arrived receiver (bytes ++ more) s' := by
  by_cases hrt : status = .rt
  · subst hrt
    obtain ⟨s', flags, hs', harrived, -⟩ := h.timeout hempty more
    exact ⟨s', hs', harrived⟩
  · obtain ⟨flags, taken, hlen, rfl, hpanel, hpc⟩ := h
    exact ⟨_, interrupt_other s hrt more, flags, taken, hlen, (List.append_assoc _ _ _).symm, hpanel, hpc⟩

theorem Arrived.reception (h : Arrived receiver bytes s) (hempty : receiver.dado.counter = 0)
    (pieces : List (IntStatus × List UInt8)) :
    ∃ s', s.reception pieces = .ok s' ∧ Arrived receiver (bytes ++ pieces.flatMap Prod.snd) s' := by
  induction pieces generalizing s bytes with
  | nil => exact ⟨s, rfl, by simpa using h⟩
  | cons piece pieces ih =>
    obtain ⟨s₁, hs₁, harrived₁⟩ := h.interrupt hempty piece.1 piece.2
    obtain ⟨s', hs', harrived⟩ := ih harrived₁
    refine ⟨s', ?_, by simpa using harrived⟩
    rw [PanelLoop.reception, Runs.run_cons, hs₁]
    exact hs'

/-- However the bytes are split, the handler has taken the first 256. -/
theorem reception_eq (hempty : receiver.dado.counter = 0) {pieces : List (IntStatus × List UInt8)}
    (h : Whole bytes pieces) : ∃ s flags, reception ⟨receiver, [], .idle⟩ pieces = .ok s ∧
      s.panel = { receiver with flags, dado := receiver.dado.took (bytes.take ihmBufSize) } := by
  obtain ⟨rfl, before, last, rfl⟩ := h
  have hstart : Arrived receiver [] ⟨receiver, [], .idle⟩ :=
    ⟨receiver.flags, [], Nat.zero_le _, rfl, by simp, rfl⟩
  obtain ⟨s₁, hs₁, harrived⟩ := hstart.reception hempty before
  obtain ⟨s, flags, hs, -, hpanel⟩ := harrived.timeout hempty last
  refine ⟨s, flags, ?_, by simpa using hpanel⟩
  rw [reception, Runs.run_append]
  rw [reception] at hs₁
  rw [hs₁, ok_bind, Runs.run_cons, hs]
  rfl

end PanelLoop

/-! ## What is recovered -/

theorem Protocolo.length_bytes (m : Protocolo) : m.bytes.length = m.ndado.toNat + 4 := by
  simp [bytes]

namespace Panel

/-- `DisplayProcessData` accepts what is in the buffer, and `SeparaDado` finds the message there. -/
structure Recovers (s : Panel) (m : Protocolo) : Prop where
  accepted : s.dado.csum = 0
  cmd : s.separaDado.mensagem.cmd = m.cmd
  pdado : s.separaDado.mensagem.pdado = m.pdado
  ndado : s.separaDado.mensagem.ndado = m.ndado
  dado : load s.separaDado.mensagem.dado ⟨0, m.ndado.toNat⟩ = load m.dado ⟨0, m.ndado.toNat⟩
  ack : s.separaDado.mensagem.ack = m.ack

/-- The data bytes are those that follow the header in the buffer. -/
theorem separaDado_dado (s : Panel) :
    load s.separaDado.mensagem.dado ⟨0, (s.dado.bufferRx 2).toNat⟩ =
      load s.dado.bufferRx ⟨3, (s.dado.bufferRx 2).toNat⟩ := by
  have hstored := load_store s.mensagem.dado 0 (load s.dado.bufferRx ⟨3, (s.dado.bufferRx 2).toNat⟩)
  rwa [load_length] at hstored

theorem load_frame (buf : Mem UInt8) (n : Nat) :
    load buf ⟨0, n + 4⟩ = buf 0 :: buf 1 :: buf 2 :: (load buf ⟨3, n⟩ ++ [buf (n + 3)]) := by
  rw [show n + 4 = 3 + (n + 1) by omega, load_append, load_append, Nat.zero_add, Nat.add_comm n 3]
  rfl

/-- A message is recovered from a buffer that begins with its bytes. -/
theorem recovers_iff (s : Panel) (m : Protocolo) :
    s.Recovers m ↔ s.dado.csum = 0 ∧ load s.dado.bufferRx ⟨0, m.bytes.length⟩ = m.bytes := by
  rw [m.length_bytes, load_frame, Protocolo.bytes]
  constructor
  · intro h
    have hndado : s.dado.bufferRx 2 = m.ndado := h.ndado
    have hdado := s.separaDado_dado
    rw [hndado, h.dado] at hdado
    have hack : s.dado.bufferRx (m.ndado.toNat + 3) = m.ack := by
      rw [← hndado]
      exact h.ack
    have hcmd : s.dado.bufferRx 0 = m.cmd := h.cmd
    have hpdado : s.dado.bufferRx 1 = m.pdado := h.pdado
    refine ⟨h.accepted, ?_⟩
    rw [hcmd, hpdado, hndado, hdado, hack]
  · intro h
    obtain ⟨hcsum, hbytes⟩ := h
    obtain ⟨hcmd, hbytes⟩ := List.cons.inj hbytes
    obtain ⟨hpdado, hbytes⟩ := List.cons.inj hbytes
    obtain ⟨hndado, hbytes⟩ := List.cons.inj hbytes
    obtain ⟨hdado, hack⟩ := List.append_inj' hbytes rfl
    have hsep := s.separaDado_dado
    rw [hndado, hdado] at hsep
    refine ⟨hcsum, hcmd, hpdado, hndado, hsep, ?_⟩
    show s.dado.bufferRx ((s.dado.bufferRx 2).toNat + 3) = m.ack
    rw [hndado]
    exact (List.cons.inj hack).1

/-- The dispatch carries its command out. -/
theorem Recovers.dispatched {s : Panel} {m : Protocolo} (h : s.Recovers m) (fifo : List UInt8)
    (r : Readings) : ∃ n, Runs.run PanelLoop.advance ⟨s, fifo, .idle⟩ (List.replicate n r) =
      .ok ⟨(s.separaDado.processCmd r).exit, fifo, .idle⟩ := by
  obtain ⟨n, hn⟩ := PanelLoop.dispatch_run s fifo r
  have haccepted : s.displayProcessData r = (s.separaDado.processCmd r).exit :=
    if_neg (not_not.mpr h.accepted)
  exact ⟨n, haccepted ▸ hn⟩

/-- The first bytes of a message were stored; of the others the cells hold what they held. -/
theorem load_stored_iff (old : Mem UInt8) (bytes : List UInt8) (cks : UInt8) (n : Nat) :
    load (store old 0 ((bytes ++ [cks]).take n)) ⟨0, bytes.length⟩ = bytes ↔
      ∀ j < bytes.length, n ≤ j → old j = bytes.getD j 0 := by
  have hcell (j : Nat) (hj : j < bytes.length) :
      store old 0 ((bytes ++ [cks]).take n) j = if n ≤ j then old j else bytes.getD j 0 := by
    by_cases hn : n ≤ j
    · have hout : j ∉ (⟨0, ((bytes ++ [cks]).take n).length⟩ : Region) := by
        simp only [Region.mem_iff, List.length_take]
        omega
      rw [store_of_not_mem _ hout, if_pos hn]
    · have hin : j < ((bytes ++ [cks]).take n).length := by
        simp only [List.length_take, List.length_append, List.length_singleton]
        omega
      have hstored := store_of_mem old (a := 0) hin
      rw [Nat.zero_add] at hstored
      rw [hstored, if_neg hn, List.getElem_take, List.getElem_append_left hj, List.getD_eq_getElem _ _ hj]
  constructor
  · intro h j hj hn
    have hj' : j < (load (store old 0 ((bytes ++ [cks]).take n)) ⟨0, bytes.length⟩).length := by
      rwa [load_length]
    have he := List.getElem_of_eq h hj'
    rw [load_getElem, Nat.zero_add, hcell j hj, if_pos hn] at he
    rw [he, List.getD_eq_getElem _ _ hj]
  · intro h
    refine List.ext_getElem (load_length _ _) fun j hj hj' => ?_
    rw [load_getElem, Nat.zero_add, hcell j hj', ← List.getD_eq_getElem _ 0 hj']
    split
    · next hn => exact h j hj' hn
    · rfl

/-- Of a message with more than 251 data bytes, the first 256 bytes sum to 0, and the
cells after them in the buffer hold the others by chance. -/
def Fits (b : BufferT) (m : Protocolo) : Prop :=
  251 < m.ndado.toNat → (m.bytes.take ihmBufSize).sum = 0 ∧
    ∀ j < m.bytes.length, ihmBufSize ≤ j → b.bufferRx j = m.bytes.getD j 0

/-- In a buffer as the display leaves it (`Ihm.run_past`) what is missing is taken for 0. -/
theorem fits_iff_zero {b : BufferT} (hpast : ∀ j, ihmBufSize ≤ j → b.bufferRx j = 0) (m : Protocolo) :
    Fits b m ↔ (251 < m.ndado.toNat → (m.bytes.take ihmBufSize).sum = 0 ∧
      ∀ j < m.bytes.length, ihmBufSize ≤ j → m.bytes.getD j 0 = 0) := by
  have hcell (j : Nat) (hj : ihmBufSize ≤ j) :
      b.bufferRx j = m.bytes.getD j 0 ↔ m.bytes.getD j 0 = 0 := by
    rw [hpast j hj]
    exact eq_comm
  unfold Fits
  refine imp_congr_right fun _ => and_congr_right fun _ => ?_
  exact forall₂_congr fun j _ => imp_congr_right fun hn => hcell j hn

/-- What comes of a message whose first 256 bytes were received. -/
theorem recovers_taken_iff (sender receiver : Panel) (hcounter : receiver.dado.counter = 0)
    (hcsum : receiver.dado.csum = 0) (flags : Flags) :
    Recovers { receiver with flags, dado := receiver.dado.took (sender.transmitted.take ihmBufSize) }
      sender.mensagem ↔ Fits receiver.dado sender.mensagem := by
  have hlen := sender.mensagem.length_bytes
  have hsum : (receiver.dado.took (sender.transmitted.take ihmBufSize)).csum =
      (sender.transmitted.take ihmBufSize).sum := by
    rw [BufferT.took, hcsum, UInt8.zero_add]
  rw [recovers_iff, hsum, BufferT.took, hcounter, sender.transmitted_eq]
  simp only [load_stored_iff]
  unfold Fits
  by_cases hlong : 251 < sender.mensagem.ndado.toNat
  · have htake : (sender.mensagem.bytes ++ [sender.sendDisplay.mensagem.cks]).take ihmBufSize =
        sender.mensagem.bytes.take ihmBufSize := by
      refine List.take_append_of_le_length ?_
      simp only [ihmBufSize]
      omega
    rw [htake]
    exact (imp_iff_right hlong).symm
  · have htake : (sender.mensagem.bytes ++ [sender.sendDisplay.mensagem.cks]).take ihmBufSize =
        sender.transmitted := by
      rw [sender.transmitted_eq]
      refine List.take_of_length_le ?_
      simp only [List.length_append, List.length_singleton, ihmBufSize]
      omega
    refine iff_of_true ⟨?_, fun j hj hn => ?_⟩ fun h => absurd h hlong
    · rw [htake, sender.transmitted_sum]
    · simp only [ihmBufSize] at hn
      omega

open PanelLoop in
/-- **Panel frames round trip**, with up to 251 data bytes. The bytes transmitted
sum to 0 for every message. Received whole, in any pieces, from an empty buffer,
they are accepted and the message is recovered exactly where it fits. -/
theorem panel_roundTrip (sender receiver : Panel) (hcounter : receiver.dado.counter = 0)
    (hcsum : receiver.dado.csum = 0) (pieces : List (IntStatus × List UInt8))
    (hwhole : Whole sender.transmitted pieces) :
    sender.transmitted.sum = 0 ∧ ∃ s, reception ⟨receiver, [], .idle⟩ pieces = .ok s ∧
      (s.panel.Recovers sender.mensagem ↔ Fits receiver.dado sender.mensagem) := by
  obtain ⟨s, flags, hs, hpanel⟩ := reception_eq hcounter hwhole
  refine ⟨sender.transmitted_sum, s, hs, ?_⟩
  rw [hpanel]
  exact recovers_taken_iff sender receiver hcounter hcsum flags

/-- A command 0x01 in two pieces, the first of them without a time-out. -/
theorem panel_roundTrip_pieces :
    let sender := { powerUp with mensagem := ⟨0x01, 0, 1, fun _ => 7, 0, 0⟩ }
    sender.transmitted.sum = 0 ∧
      ∃ s, PanelLoop.reception ⟨powerUp, [], .idle⟩ [(.rx, [0x01, 0]), (.rt, [1, 7, 0, 0xF7])] = .ok s ∧
        s.panel.Recovers sender.mensagem := by
  intro sender
  obtain ⟨hsum, s, hs, hiff⟩ := panel_roundTrip sender powerUp rfl rfl
    [(.rx, [0x01, 0]), (.rt, [1, 7, 0, 0xF7])] ⟨by decide +kernel, [(.rx, [0x01, 0])], [1, 7, 0, 0xF7], rfl⟩
  exact ⟨hsum, s, hs, hiff.mpr fun hlong => absurd hlong (by decide)⟩

/-- 255 data bytes, all 0: the checksum is the last byte, and is not received. -/
theorem longest_lost :
    let sender := { powerUp with mensagem := ⟨0, 0, 255, fun _ => 0, 0, 0⟩ }
    sender.transmitted.sum = 0 ∧
      ∃ s, PanelLoop.reception ⟨powerUp, [], .idle⟩ [(.rt, sender.transmitted)] = .ok s ∧
        ¬ s.panel.Recovers sender.mensagem := by
  intro sender
  have hwhole : PanelLoop.Whole sender.transmitted [(.rt, sender.transmitted)] :=
    ⟨List.append_nil _, [], sender.transmitted, rfl⟩
  have hcounter : powerUp.dado.counter = 0 := rfl
  obtain ⟨s, flags, hs, hpanel⟩ := PanelLoop.reception_eq hcounter hwhole
  refine ⟨sender.transmitted_sum, s, hs, fun hrecovers => ?_⟩
  rw [hpanel, recovers_taken_iff sender powerUp rfl rfl] at hrecovers
  have hsum : (sender.mensagem.bytes.take ihmBufSize).sum = 0 := (hrecovers (by decide)).1
  revert hsum
  decide +kernel

end Panel

end UdcFirmware.Drivers
