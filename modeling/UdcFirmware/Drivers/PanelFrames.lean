/-
The frames of the display, and what is executed.

`PanelLoop` is the machine of `Ihm` with `ProcessCmd` of `IhmCommands` in its
place: interrupts between any two statements of a dispatch. Without them it does
what `displayProcessData` does (`dispatch_run`). Beside it stand the bytes
received since the last dispatch, the commands executed, and a `Receiver` that
does what the protocol asks for: it waits for the rest of a frame, however it is
split, and takes each frame once.

A dispatch goes by the running checksum alone. It throws away what has come of a
frame so far, or executes it where that sums to 0. A command may use data bytes
that its frame does not have. Where a dispatch finds one complete frame with what
its command uses, or as many bytes that do not sum to 0, and none come during it,
the commands executed are those of the frames, one for each (`frames_once`).
-/
import UdcFirmware.Lib.Runs
import UdcFirmware.Drivers.IhmCommands

namespace UdcFirmware.Drivers

open Bsmp ByteMem Checked Filling

/-! ## The machine -/

structure PanelLoop where
  panel : Panel
  fifo : List UInt8
  pc : DisplayPc

namespace PanelLoop

variable (s : PanelLoop)

def ihm : Ihm := ⟨s.panel.flags, s.fifo, s.panel.dado, s.panel.mensagem, s.pc⟩

def withIhm (i : Ihm) : PanelLoop :=
  { panel := { s.panel with flags := i.flags, dado := i.dado, mensagem := i.mensagem }
    fifo := i.fifo
    pc := i.pc }

/-- Bytes arrive, and `IHMIntHandler` is invoked. -/
def interrupt (status : IntStatus) (bytes : List UInt8) : Except Fault PanelLoop := do
  let i ← ihmIntHandler { s.ihm with fifo := s.fifo ++ bytes } status
  return s.withIhm i

/-- The next statement of a dispatch. -/
def advance (r : Readings) : Except Fault PanelLoop :=
  match s.pc with
  | .process => .ok { s with panel := s.panel.processCmd r, pc := .resetCounter }
  | _ => do
    let i ← s.ihm.advance id
    return s.withIhm i

/-- The loop of `SeparaDado`. -/
theorem copy_run (r : Readings) (k : Nat) {s : PanelLoop} {count : Nat} (hpc : s.pc = .copying count)
    (hk : count + k = s.panel.mensagem.ndado.toNat) :
    Runs.run advance s (List.replicate k r) = .ok { s with
      panel := { s.panel with mensagem := { s.panel.mensagem with
        dado := store s.panel.mensagem.dado count (load s.panel.dado.bufferRx ⟨count + 3, k⟩) } }
      pc := .copying (count + k) } := by
  induction k generalizing s count with
  | zero =>
    have hload : load s.panel.dado.bufferRx ⟨count + 3, 0⟩ = [] := rfl
    rw [hload, store_nil, Nat.add_zero, ← hpc]
    rfl
  | succ k ih =>
    have hbyte := s.panel.mensagem.ndado.toNat_lt
    have hlt : count < s.panel.mensagem.ndado.toNat := by omega
    have hin : count < ihmDadoSize := by simp only [ihmDadoSize]; omega
    have hstep : s.advance r = .ok { s with
        panel := { s.panel with mensagem := { s.panel.mensagem with
          dado := Function.update s.panel.mensagem.dado count (s.panel.dado.bufferRx (count + 3)) } }
        pc := .copying (count + 1) } := by
      simp only [advance, hpc, Ihm.advance, ihm, if_pos hlt, writeCell_ok hin]
      rfl
    have hload : load s.panel.dado.bufferRx ⟨count + 3, k + 1⟩ =
        s.panel.dado.bufferRx (count + 3) :: load s.panel.dado.bufferRx ⟨count + 1 + 3, k⟩ := by
      rw [Nat.add_comm k 1, load_append, Nat.add_right_comm count 1 3]
      rfl
    rw [List.replicate_succ, Runs.run_cons, hstep, ok_bind, ih rfl (by simp only; omega), hload, store_cons]
    simp only [Nat.add_assoc, Nat.add_comm 1 k]

/-- What comes after it. -/
theorem finish_run (r : Readings) {s : PanelLoop} (hpc : s.pc = .copying s.panel.mensagem.ndado.toNat) :
    Runs.run advance s (List.replicate 6 r) = .ok { s with
      panel := (Panel.processCmd { s.panel with
        mensagem := { s.panel.mensagem with
          ack := s.panel.dado.bufferRx (s.panel.mensagem.ndado.toNat + 3) }
        dado := { s.panel.dado with counter := 0, ndado := 0 } } r).exit
      pc := .idle } := by
  have hstep : s.advance r = .ok { s with pc := .ack s.panel.mensagem.ndado.toNat } := by
    simp only [advance, hpc, Ihm.advance, ihm, if_neg (Nat.lt_irrefl _)]
    rfl
  rw [List.replicate_succ, Runs.run_cons, hstep]
  rfl

/-- The test of the checksum. -/
theorem advance_idle (panel : Panel) (fifo : List UInt8) (r : Readings) : advance ⟨panel, fifo, .idle⟩ r =
    .ok ⟨panel, fifo, if panel.dado.csum ≠ 0 then .resetCounter else .header⟩ := rfl

/-- The statements of a dispatch that nothing interrupts come to `displayProcessData`. -/
theorem dispatch_run (panel : Panel) (fifo : List UInt8) (r : Readings) :
    ∃ n, Runs.run advance ⟨panel, fifo, .idle⟩ (List.replicate n r) =
      .ok ⟨panel.displayProcessData r, fifo, .idle⟩ := by
  unfold Panel.displayProcessData
  by_cases hcsum : panel.dado.csum = 0
  · have hbegin : Runs.run advance ⟨panel, fifo, .idle⟩ (List.replicate 2 r) =
        .ok ⟨{ panel with mensagem := { panel.mensagem with
          cmd := panel.dado.bufferRx 0
          pdado := panel.dado.bufferRx 1
          ndado := panel.dado.bufferRx 2 } }, fifo, .copying 0⟩ := by
      rw [List.replicate_succ, Runs.run_cons, advance_idle, if_neg (not_not.mpr hcsum)]
      rfl
    refine ⟨2 + ((panel.dado.bufferRx 2).toNat + 6), ?_⟩
    rw [if_neg (not_not.mpr hcsum), List.replicate_add, Runs.run_append, hbegin, ok_bind, List.replicate_add,
      Runs.run_append, copy_run r _ rfl (Nat.zero_add _), ok_bind, finish_run r]
    · rfl
    · exact congrArg DisplayPc.copying (Nat.zero_add _)
  · refine ⟨3, ?_⟩
    rw [if_pos hcsum, List.replicate_succ, Runs.run_cons, advance_idle, if_pos hcsum]
    rfl

end PanelLoop

inductive PanelEvent
  | interrupt (status : IntStatus) (bytes : List UInt8)
  | advance (r : Readings)

/-! ## Frames -/

/-- How long a frame that begins with some bytes is: by its `NDADO`, if that is there. -/
def frameLength (bytes : List UInt8) : Nat := (bytes.getD 2 0).toNat + 5

/-- `CMD`, `PDADO`, `NDADO`, as many data bytes, `ACK`, checksum. -/
structure Complete (bytes : List UInt8) : Prop where
  length : bytes.length = frameLength bytes
  sum : bytes.sum = 0

instance (bytes : List UInt8) : Decidable (Complete bytes) :=
  decidable_of_iff (bytes.length = frameLength bytes ∧ bytes.sum = 0)
    ⟨fun h => ⟨h.1, h.2⟩, fun h => ⟨h.1, h.2⟩⟩

/-- A receiver of frames. -/
structure Receiver where
  pending : List UInt8
  frames : List (List UInt8)

def Receiver.receive (v : Receiver) (bytes : List UInt8) : Receiver :=
  { v with pending := v.pending ++ bytes }

/-- A frame is taken, the beginning of one waits, anything else is dropped. -/
def Receiver.dispatch (v : Receiver) : Receiver :=
  if Complete v.pending then ⟨[], v.frames ++ [v.pending]⟩
  else if v.pending.length < frameLength v.pending then v
  else { v with pending := [] }

/-! ## What a command uses -/

/-- How many data bytes a command uses that it does not write itself, in its answer or
otherwise, by `LocRem`. 0x60 and 0x61 answer with what is in `floatNchars`, which no
frame is long enough for. -/
def dadoUsed (locRem : UInt8) : UInt8 → Nat
  | 0x00 => 1
  | 0x04 => 2
  | 0x05 => 2
  | 0x07 => 3
  | 0x08 => 15
  | 0x09 => 8
  | 0x12 => 4
  | 0x20 => if locRem = 0 then 0 else 4
  | 0x21 => if locRem = 0 then 0 else 4
  | 0x22 => if locRem = 0 then 0 else 1
  | 0x23 => if locRem = 0 then 0 else 1
  | 0x24 => 1
  | 0x27 => if locRem = 0 then 0 else 4
  | 0x28 => if locRem = 0 then 0 else 4
  | 0x29 => if locRem = 0 then 0 else 4
  | 0x2A => if locRem = 0 then 0 else 4
  | 0x2B => if locRem = 0 then 0 else 4
  | 0x2C => if locRem = 0 then 0 else 4
  | 0x60 => 256
  | 0x61 => 256
  | 0x71 => 4
  | 0x83 => 1
  | 0x86 => 1
  | 0x92 => 2
  | _ => 0

namespace Panel

/-- With other bytes where earlier messages leave theirs. -/
def withOld (s : Panel) (dado : Mem UInt8) (chars : FloatChars) : Panel :=
  { s with mensagem := { s.mensagem with dado }, floatNchars := chars }

/-- The same, up to such bytes. -/
def SameBut (s s' : Panel) : Prop := s' = s.withOld s'.mensagem.dado s'.floatNchars

/-- What `ProcessCmd` does is the same whatever earlier messages have left. -/
def OwnBytes (s : Panel) (r : Readings) : Prop :=
  ∀ dado chars, (∀ i < s.mensagem.ndado.toNat, dado i = s.mensagem.dado i) →
    SameBut (s.processCmd r) ((s.withOld dado chars).processCmd r)

/-- The first `n` data bytes are all that something uses. The number may depend on `LocRem`. -/
def Uses (n : UInt8 → Nat) (f : Panel → Panel) : Prop :=
  ∀ s dado chars, (∀ i < n s.locRem, dado i = s.mensagem.dado i) → SameBut (f s) (f (s.withOld dado chars))

theorem load_agree {m m' : Mem UInt8} {n : Nat} (h : ∀ i < n, m' i = m i) :
    load m' ⟨0, n⟩ = load m ⟨0, n⟩ := by
  refine load_eq_iff.mpr fun x hx => h x ?_
  have hlt : x < 0 + n := hx.2
  omega

/-- An answer uses the bytes that it sends. -/
theorem uses_answer {n : Nat} (cmd ndado : UInt8) (h : ndado.toNat ≤ n) :
    Uses (fun _ => n) (answer · cmd ndado) := by
  intro s dado chars hagree
  have hload : load dado ⟨0, ndado.toNat⟩ = load s.mensagem.dado ⟨0, ndado.toNat⟩ :=
    load_agree fun i hi => hagree i (Nat.lt_of_lt_of_le hi h)
  unfold SameBut answer sendDisplay withOld
  simp only [hload]

/-- And none that it has written before. -/
theorem uses_putAnswer {n : Nat} (i : Nat) (bytes : Panel → List UInt8) (cmd ndado : UInt8)
    (hbytes : ∀ s dado chars, bytes (s.withOld dado chars) = bytes s) (hi : i ≤ n)
    (h : ∀ s, ndado.toNat ≤ i + (bytes s).length) :
    Uses (fun _ => n) fun s => (s.putDado i (bytes s)).answer cmd ndado := by
  intro s dado chars hagree
  have hload : load (store dado i (bytes s)) ⟨0, ndado.toNat⟩ =
      load (store s.mensagem.dado i (bytes s)) ⟨0, ndado.toNat⟩ := by
    refine load_agree fun j hj => ?_
    by_cases hji : j < i
    · have hout : j ∉ (⟨i, (bytes s).length⟩ : Region) := fun hmem => absurd hmem.1 (Nat.not_le.mpr hji)
      rw [store_of_not_mem _ hout, store_of_not_mem _ hout]
      exact hagree j (Nat.lt_of_lt_of_le hji hi)
    · have hlen := h s
      obtain ⟨k, rfl⟩ := Nat.exists_eq_add_of_le (Nat.not_lt.mp hji)
      have hk : k < (bytes s).length := by omega
      rw [store_of_mem _ hk, store_of_mem _ hk]
  unfold SameBut answer sendDisplay putDado
  simp only [hbytes]
  unfold withOld
  simp only [hload]

/-- A float is written whole. -/
theorem uses_answerFloat {n : UInt8 → Nat} (cmd : UInt8) (v : FloatChars) : Uses n (answerFloat · cmd v) := by
  intro s dado chars _
  exact uses_putAnswer 0 (fun _ => v.toList) cmd 0x04 (fun _ _ _ => rfl) (Nat.le_refl 0)
    (fun _ => by rw [v.length_toList]; decide) { s with floatNchars := v } dado v
    fun i hi => absurd hi (Nat.not_lt_zero i)

/-- What tests `LocRem` uses nothing where that is 0. -/
theorem uses_gated {n : Nat} {acted : Panel → Panel} (h : Uses (fun _ => n) acted) :
    Uses (fun locRem => if locRem = 0 then 0 else n) fun s => if s.locRem ≠ 0 then acted s else s := by
  intro s dado chars hagree
  by_cases hloc : s.locRem = 0
  · have hs : (if s.locRem ≠ 0 then acted s else s) = s := if_neg fun hne => hne hloc
    have hs' : (if (s.withOld dado chars).locRem ≠ 0 then acted (s.withOld dado chars)
        else s.withOld dado chars) = s.withOld dado chars := if_neg fun hne => hne hloc
    simp only [hs, hs']
    rfl
  · have hs : (if s.locRem ≠ 0 then acted s else s) = acted s := if_pos hloc
    have hs' : (if (s.withOld dado chars).locRem ≠ 0 then acted (s.withOld dado chars)
        else s.withOld dado chars) = acted (s.withOld dado chars) := if_pos hloc
    simp only [hs, hs']
    simp only [hloc, if_false] at hagree
    exact h s dado chars hagree

/-- A function of the first data bytes, given to one that has no use for old bytes. -/
theorem uses_write {α : Type} {n : Nat} {arg : Mem UInt8 → α} {w : Panel → α → Panel}
    (harg : ∀ m m' : Mem UInt8, (∀ i < n, m' i = m i) → arg m' = arg m)
    (hw : ∀ s dado chars a, SameBut (w s a) (w (s.withOld dado chars) a)) :
    Uses (fun _ => n) fun s => w s (arg s.mensagem.dado) := by
  intro s dado chars hagree
  have he : arg dado = arg s.mensagem.dado := harg _ _ hagree
  show SameBut (w s (arg s.mensagem.dado)) (w (s.withOld dado chars) (arg dado))
  rw [he]
  exact hw s dado chars _

/-- Four data bytes. -/
def fourBytes (m : Mem UInt8) : Vector UInt8 4 := #v[m 0, m 1, m 2, m 3]

theorem fourBytes_agree (m m' : Mem UInt8) (h : ∀ i < 4, m' i = m i) : fourBytes m' = fourBytes m := by
  unfold fourBytes
  rw [h 0 (by decide), h 1 (by decide), h 2 (by decide), h 3 (by decide)]

/-- A float of the message, written where `LocRem` allows it. -/
theorem uses_gatedFloat {write : Panel → FloatChars → Panel}
    (hwrite : ∀ s dado a, SameBut (write s a) (write (s.withOld dado s.floatNchars) a)) :
    Uses (fun locRem => if locRem = 0 then 0 else 4) (gatedFloat · write) :=
  uses_gated (uses_write (w := fun s a => write { s with floatNchars := a } a) fourBytes_agree
    fun s dado _ a => hwrite { s with floatNchars := a } dado a)

/-- A write tests something, and leaves old bytes as they are. -/
theorem sameBut_iSetpointWrite (r : Readings) (s : Panel) (dado : Mem UInt8) (a : FloatChars) :
    SameBut (s.iSetpointWrite r a) ((s.withOld dado s.floatNchars).iSetpointWrite r a) := by
  unfold SameBut iSetpointWrite
  split <;> rfl

theorem sameBut_kpWrite (r : Readings) (s : Panel) (dado : Mem UInt8) (a : FloatChars) :
    SameBut (s.kpWrite r a) ((s.withOld dado s.floatNchars).kpWrite r a) := by
  unfold SameBut kpWrite
  split <;> rfl

theorem sameBut_kiWrite (r : Readings) (s : Panel) (dado : Mem UInt8) (a : FloatChars) :
    SameBut (s.kiWrite r a) ((s.withOld dado s.floatNchars).kiWrite r a) := by
  unfold SameBut kiWrite
  split <;> rfl

theorem sameBut_ipAddressWrite (s : Panel) (dado : Mem UInt8) (chars : FloatChars) (a : Vector UInt8 4) :
    SameBut (s.ipAddressWrite a) ((s.withOld dado chars).ipAddressWrite a) := by
  unfold SameBut ipAddressWrite
  by_cases h : s.ipAddr = a
  · have h' : (s.withOld dado chars).ipAddr = a := h
    rw [if_neg (not_not.mpr h), if_neg (not_not.mpr h')]
    rfl
  · have h' : (s.withOld dado chars).ipAddr ≠ a := h
    rw [if_pos h, if_pos h']
    rfl

theorem first_agree (m m' : Mem UInt8) (h : ∀ i < 1, m' i = m i) : m' 0 = m 0 := h 0 Nat.one_pos

/-- What every command uses. -/
theorem command_uses (r : Readings) (cmd : UInt8) (h : cmd ≠ 0x60) (h' : cmd ≠ 0x61) :
    Uses (dadoUsed · cmd) (command r cmd) := by
  unfold command
  split <;>
    first
    | exact absurd rfl h
    | exact absurd rfl h'
    | with_reducible exact uses_answerFloat _ _
    | exact uses_answer _ _ (by decide)
    | exact uses_putAnswer _ _ _ _ (fun _ _ _ => rfl) (by decide) (fun _ => by simp [leBytes])
    | exact uses_gatedFloat (sameBut_iSetpointWrite r)
    | exact uses_gatedFloat (sameBut_kpWrite r)
    | exact uses_gatedFloat (sameBut_kiWrite r)
    | exact uses_gated (uses_write (w := outputStsWrite) first_agree fun _ _ _ _ => rfl)
    | exact uses_gated (uses_write (w := ctrlLoopWrite) first_agree fun _ _ _ _ => rfl)
    | exact uses_write (w := fun s a => { s with locRem := a }) first_agree fun _ _ _ _ => rfl
    | exact uses_write (w := ipAddressWrite) fourBytes_agree sameBut_ipAddressWrite
    | exact fun _ _ _ _ => rfl

end Panel

/-! ## What is received, and what is executed -/

namespace BufferT

variable (b : BufferT)

def buffer : Buffer UInt8 := ⟨b.bufferRx, b.counter⟩

/-- With bytes for which there was room. -/
def took (xs : List UInt8) : BufferT :=
  { b with
    bufferRx := store b.bufferRx b.counter xs
    counter := b.counter + xs.length
    csum := b.csum + xs.sum }

@[simp] theorem took_nil : b.took [] = b := by
  simp only [took, store_nil, List.length_nil, Nat.add_zero, List.sum_nil, UInt8.add_zero]

theorem took_cons (c : UInt8) (cs : List UInt8) :
    BufferT.took ⟨Function.update b.bufferRx b.counter c, b.counter + 1, b.ndado, b.csum + c⟩ cs =
      b.took (c :: cs) := by
  simp only [took, store_cons, List.length_cons, List.sum_cons, UInt8.add_assoc, Nat.add_assoc,
    Nat.add_comm 1]

/-- The handler takes as many bytes as there is room for. -/
theorem receive_eq (cs : List UInt8) :
    b.receive cs = .ok (b.took (cs.take (ihmBufSize - b.counter)), cs.drop (ihmBufSize - b.counter)) := by
  induction cs generalizing b with
  | nil => simp [receive]
  | cons c cs ih =>
    by_cases hb : b.counter < ihmBufSize
    · obtain ⟨n, hn⟩ : ∃ n, ihmBufSize - b.counter = n + 1 := ⟨ihmBufSize - b.counter - 1, by omega⟩
      have hn' : ihmBufSize - (b.counter + 1) = n := by omega
      rw [receive, if_pos hb, writeCell_ok (Nat.lt_trans hb (by decide)), ok_bind, ih]
      simp only [Function.update_self, hn, hn', took_cons, List.take_succ_cons, List.drop_succ_cons]
    · have hn : ihmBufSize - b.counter = 0 := by omega
      rw [receive, if_neg hb, hn]
      simp

end BufferT

/-- The bytes that an interrupt takes. -/
def PanelLoop.taken (s : PanelLoop) (status : IntStatus) (bytes : List UInt8) : List UInt8 :=
  if status = .rt then (s.fifo ++ bytes).take (ihmBufSize - s.panel.dado.counter) else []

theorem PanelLoop.interrupt_eq (s : PanelLoop) (status : IntStatus) (bytes : List UInt8) :
    ∃ flags fifo, s.interrupt status bytes =
      .ok { s with
        panel := { s.panel with flags, dado := s.panel.dado.took (s.taken status bytes) }
        fifo } := by
  unfold interrupt ihmIntHandler taken
  by_cases hrt : status = .rt
  · simp only [if_pos hrt, ihm, BufferT.receive_eq, ok_bind]
    exact ⟨_, _, rfl⟩
  · simp only [if_neg hrt, BufferT.took_nil]
    exact ⟨_, _, rfl⟩

/-- A `ProcessCmd`: what it found, and the bytes received from the dispatch before to its own. -/
structure Execution where
  bytes : List UInt8
  panel : Panel
  readings : Readings

/-- The machine, and what went on. -/
structure Observed where
  loop : PanelLoop
  /-- Received since the last dispatch. -/
  since : List UInt8
  /-- What that dispatch has found so. -/
  frame : List UInt8
  executed : List Execution
  receiver : Receiver

def Observed.start (panel : Panel) : Observed := ⟨⟨panel, [], .idle⟩, [], [], [], ⟨[], []⟩⟩

def Observed.step (s : Observed) : PanelEvent → Except Fault Observed
  | .interrupt status bytes => do
    let loop ← s.loop.interrupt status bytes
    let taken := s.loop.taken status bytes
    return { s with loop, since := s.since ++ taken, receiver := s.receiver.receive taken }
  | .advance r => do
    let loop ← s.loop.advance r
    return match s.loop.pc with
      | .idle => { s with loop, since := [], frame := s.since, receiver := s.receiver.dispatch }
      | .process => { s with loop, executed := s.executed ++ [⟨s.frame, s.loop.panel, r⟩] }
      | _ => { s with loop }

/-- A message, but for its checksum. -/
def Protocolo.bytes (m : Protocolo) : List UInt8 :=
  m.cmd :: m.pdado :: m.ndado :: (load m.dado ⟨0, m.ndado.toNat⟩ ++ [m.ack])

/-- Every byte that was used is one of a complete frame. -/
structure Execution.Genuine (e : Execution) : Prop where
  complete : Complete e.bytes
  message : e.panel.mensagem.bytes = e.bytes.dropLast
  own : e.panel.OwnBytes e.readings

/-- What is executed are frames, and outside of a dispatch these are the receiver's. -/
structure Observed.Right (s : Observed) : Prop where
  genuine : ∀ e ∈ s.executed, e.Genuine
  once : s.loop.pc = .idle → s.executed.map (·.bytes) = s.receiver.frames

/-- No bytes are taken during a dispatch. One begins where there is a complete
frame, with the data bytes that its command uses, or what is as long as a frame
and does not sum to 0. -/
def Observed.Whole (s : Observed) : PanelEvent → Prop
  | .interrupt status bytes => s.loop.pc = .idle ∨ s.loop.taken status bytes = []
  | .advance _ => s.loop.pc = .idle →
    Complete s.since ∧ dadoUsed s.loop.panel.locRem (s.since.getD 0 0) ≤ (s.since.getD 2 0).toNat ∨
      frameLength s.since ≤ s.since.length ∧ s.since.sum ≠ 0

/-! ## From frame to frame -/

namespace Observed

variable {s : Observed}

/-- Bytes wait in the buffer. -/
structure Waiting (s : Observed) : Prop where
  held : s.loop.panel.dado.buffer.held = s.since
  csum : s.loop.panel.dado.csum = s.since.sum
  pending : s.receiver.pending = s.since
  frames : s.executed.map (·.bytes) = s.receiver.frames

/-- A frame is in the buffer, and about to be executed. -/
structure Begun (s : Observed) : Prop where
  since : s.since = []
  pending : s.receiver.pending = []
  complete : Complete s.frame
  held : load s.loop.panel.dado.bufferRx ⟨0, s.frame.length⟩ = s.frame
  used : dadoUsed s.loop.panel.locRem (s.frame.getD 0 0) ≤ (s.frame.getD 2 0).toNat
  frames : s.executed.map (·.bytes) ++ [s.frame] = s.receiver.frames

/-- Its header has been taken apart. -/
structure Header (s : Observed) : Prop where
  cmd : s.loop.panel.mensagem.cmd = s.frame.getD 0 0
  pdado : s.loop.panel.mensagem.pdado = s.frame.getD 1 0
  ndado : s.loop.panel.mensagem.ndado = s.frame.getD 2 0

/-- And as many data bytes. -/
structure Copied (s : Observed) (count : Nat) : Prop where
  le : count ≤ s.loop.panel.mensagem.ndado.toNat
  dado : ∀ i < count, s.loop.panel.mensagem.dado i = s.loop.panel.dado.bufferRx (i + 3)

/-- The dispatch is all but over. -/
structure Ending (s : Observed) : Prop where
  since : s.since = []
  pending : s.receiver.pending = []
  frames : s.executed.map (·.bytes) = s.receiver.frames

def Standing (s : Observed) : DisplayPc → Prop
  | .idle => s.Waiting
  | .header => s.Begun
  | .copying count => s.Begun ∧ s.Header ∧ s.Copied count
  | .ack count => s.Begun ∧ s.Header ∧ s.Copied count ∧ count = s.loop.panel.mensagem.ndado.toNat
  | .clear => s.Begun ∧ s.Header ∧ s.loop.panel.mensagem.bytes = s.frame.dropLast
  | .process => s.Begun ∧ s.Header ∧ s.loop.panel.mensagem.bytes = s.frame.dropLast
  | .resetCounter => s.Ending
  | .resetCsum => s.Ending ∧ s.loop.panel.dado.counter = 0

structure Inv (s : Observed) : Prop where
  genuine : ∀ e ∈ s.executed, e.Genuine
  standing : s.Standing s.loop.pc

theorem inv_start {panel : Panel} (hcounter : panel.dado.counter = 0) (hcsum : panel.dado.csum = 0) :
    (start panel).Inv where
  genuine _ he := nomatch he
  standing :=
    { held := List.length_eq_zero_iff.mp ((Buffer.held_length _).trans hcounter)
      csum := hcsum
      pending := rfl
      frames := rfl }

theorem Inv.right (h : s.Inv) : s.Right := by
  refine ⟨h.genuine, fun hpc => ?_⟩
  have hstanding := h.standing
  rw [hpc] at hstanding
  exact hstanding.frames

/-- The dispatch goes on. -/
theorem Begun.moved (h : s.Begun) {loop : PanelLoop}
    (hbuffer : loop.panel.dado.bufferRx = s.loop.panel.dado.bufferRx)
    (hloc : loop.panel.locRem = s.loop.panel.locRem) : Begun { s with loop } :=
  ⟨h.since, h.pending, h.complete, (congrArg (load · _) hbuffer).trans h.held,
    (congrArg (dadoUsed · _) hloc).trans_le h.used, h.frames⟩

theorem Header.moved (h : s.Header) {loop : PanelLoop}
    (hcmd : loop.panel.mensagem.cmd = s.loop.panel.mensagem.cmd)
    (hpdado : loop.panel.mensagem.pdado = s.loop.panel.mensagem.pdado)
    (hndado : loop.panel.mensagem.ndado = s.loop.panel.mensagem.ndado) : Header { s with loop } :=
  ⟨hcmd.trans h.cmd, hpdado.trans h.pdado, hndado.trans h.ndado⟩

/-- Nothing looks at the flags or the FIFO. -/
theorem Standing.flags {pc : DisplayPc} (h : s.Standing pc) (flags : Flags) (fifo : List UInt8) :
    Standing { s with loop := { s.loop with panel := { s.loop.panel with flags }, fifo } } pc := by
  cases pc with
  | idle => exact ⟨h.held, h.csum, h.pending, h.frames⟩
  | header => exact Begun.moved h rfl rfl
  | copying count => exact ⟨h.1.moved rfl rfl, h.2.1.moved rfl rfl rfl, ⟨h.2.2.le, h.2.2.dado⟩⟩
  | ack count =>
    exact ⟨h.1.moved rfl rfl, h.2.1.moved rfl rfl rfl, ⟨h.2.2.1.le, h.2.2.1.dado⟩, h.2.2.2⟩
  | clear | process => exact ⟨h.1.moved rfl rfl, h.2.1.moved rfl rfl rfl, h.2.2⟩
  | resetCounter => exact ⟨h.since, h.pending, h.frames⟩
  | resetCsum => exact ⟨⟨h.1.since, h.1.pending, h.1.frames⟩, h.2⟩

/-- The receiver gets what the handler takes. -/
theorem Waiting.interrupt (h : s.Waiting) (flags : Flags) (fifo taken : List UInt8) :
    Waiting { s with
      loop := { s.loop with panel := { s.loop.panel with flags, dado := s.loop.panel.dado.took taken }, fifo }
      since := s.since ++ taken
      receiver := s.receiver.receive taken } where
  held := by
    show (s.loop.panel.dado.buffer.append taken).held = s.since ++ taken
    rw [Buffer.held_append, h.held]
  csum := by
    show s.loop.panel.dado.csum + taken.sum = (s.since ++ taken).sum
    rw [List.sum_append, h.csum]
  pending := congrArg (· ++ taken) h.pending
  frames := h.frames

theorem Inv.interrupt (h : s.Inv) (status : IntStatus) (bytes : List UInt8)
    (hwhole : s.loop.pc = .idle ∨ s.loop.taken status bytes = []) :
    Returns (s.step (.interrupt status bytes)) Inv := by
  obtain ⟨flags, fifo, he⟩ := s.loop.interrupt_eq status bytes
  refine .step he (.pure ⟨h.genuine, ?_⟩)
  rcases hwhole with hpc | hnone
  · have hwaiting : s.Waiting := by
      have hstanding := h.standing
      rw [hpc] at hstanding
      exact hstanding
    exact (congrArg (Standing _) hpc).mpr (hwaiting.interrupt flags fifo _)
  · simp only [hnone, BufferT.took_nil, List.append_nil, Receiver.receive]
    exact h.standing.flags flags fifo

theorem Begun.byte (h : s.Begun) {i : Nat} (hi : i < s.frame.length) :
    s.loop.panel.dado.bufferRx i = s.frame.getD i 0 := by
  have hin : i < (load s.loop.panel.dado.bufferRx ⟨0, s.frame.length⟩).length := by rwa [load_length]
  have hcell := List.getElem_of_eq h.held hin
  rw [load_getElem, Nat.zero_add] at hcell
  rw [List.getD_eq_getElem _ _ hi, hcell]

/-- The frame, as it is in the buffer. -/
theorem Begun.frame_eq (h : s.Begun) (hheader : s.Header) : s.frame =
    load s.loop.panel.dado.bufferRx ⟨0, 3⟩ ++
      (load s.loop.panel.dado.bufferRx ⟨3, s.loop.panel.mensagem.ndado.toNat⟩ ++
        load s.loop.panel.dado.bufferRx ⟨3 + s.loop.panel.mensagem.ndado.toNat, 2⟩) := by
  have hlen : s.frame.length = 3 + (s.loop.panel.mensagem.ndado.toNat + 2) := by
    rw [h.complete.length, hheader.ndado, frameLength]
    omega
  have hload : s.frame =
      load s.loop.panel.dado.bufferRx ⟨0, 3 + (s.loop.panel.mensagem.ndado.toNat + 2)⟩ := by
    rw [← hlen, h.held]
  rw [load_append, load_append, Nat.zero_add] at hload
  exact hload

/-- A dispatch begins, with a frame or with what the receiver drops. -/
theorem Waiting.dispatch (h : s.Waiting)
    (hwhole : Complete s.since ∧ dadoUsed s.loop.panel.locRem (s.since.getD 0 0) ≤ (s.since.getD 2 0).toNat ∨
      frameLength s.since ≤ s.since.length ∧ s.since.sum ≠ 0) :
    Standing { s with
      loop := { s.loop with pc := if s.loop.panel.dado.csum ≠ 0 then .resetCounter else .header }
      since := []
      frame := s.since
      receiver := s.receiver.dispatch } (if s.loop.panel.dado.csum ≠ 0 then .resetCounter else .header) := by
  rcases hwhole with ⟨hcomplete, hused⟩ | ⟨hlength, hsum⟩
  · have hcsum : s.loop.panel.dado.csum = 0 := h.csum.trans hcomplete.sum
    have hrecv : s.receiver.dispatch = ⟨[], s.receiver.frames ++ [s.since]⟩ := by
      rw [Receiver.dispatch, h.pending, if_pos hcomplete]
    have hcounter : s.since.length = s.loop.panel.dado.counter := by
      rw [← h.held, Buffer.held_length]
      rfl
    rw [if_neg (not_not.mpr hcsum)]
    refine ⟨rfl, ?_, hcomplete, ?_, hused, ?_⟩
    · simp only [hrecv]
    · simp only [hcounter]
      exact h.held
    · simp only [hrecv, h.frames]
  · have hcsum : s.loop.panel.dado.csum ≠ 0 := fun hz => hsum (h.csum.symm.trans hz)
    have hrecv : s.receiver.dispatch = { s.receiver with pending := [] } := by
      rw [Receiver.dispatch, h.pending, if_neg fun hcomplete => hsum hcomplete.sum,
        if_neg (Nat.not_lt.mpr hlength)]
    rw [if_pos hcsum]
    refine ⟨rfl, ?_, ?_⟩
    · simp only [hrecv]
    · simp only [hrecv]
      exact h.frames

/-- A data byte is copied. -/
theorem Copied.next {count : Nat} (h : s.Copied count) (hlt : count < s.loop.panel.mensagem.ndado.toNat) :
    ∀ i < count + 1, Function.update s.loop.panel.mensagem.dado count
      (s.loop.panel.dado.bufferRx (count + 3)) i = s.loop.panel.dado.bufferRx (i + 3) := by
  intro i hi
  rcases Nat.lt_succ_iff_lt_or_eq.mp hi with hbelow | rfl
  · rw [Function.update_of_ne (Nat.ne_of_lt hbelow)]
    exact h.dado i hbelow
  · rw [Function.update_self]

/-- With its `ACK`, the message is the frame. -/
theorem Begun.message (h : s.Begun) (hheader : s.Header)
    (hcopied : s.Copied s.loop.panel.mensagem.ndado.toNat) :
    Protocolo.bytes { s.loop.panel.mensagem with
      ack := s.loop.panel.dado.bufferRx (s.loop.panel.mensagem.ndado.toNat + 3) } = s.frame.dropLast := by
  have hfive : 5 ≤ s.frame.length := by
    rw [h.complete.length]
    exact Nat.le_add_left _ _
  have hdata : load s.loop.panel.mensagem.dado ⟨0, s.loop.panel.mensagem.ndado.toNat⟩ =
      load s.loop.panel.dado.bufferRx ⟨3, s.loop.panel.mensagem.ndado.toNat⟩ := by
    refine List.map_congr_left fun i hi => ?_
    rw [Nat.zero_add, hcopied.dado i (List.mem_range.mp hi), Nat.add_comm]
  have hframe := h.frame_eq hheader
  have hheader₀ : load s.loop.panel.dado.bufferRx ⟨0, 3⟩ =
      [s.loop.panel.mensagem.cmd, s.loop.panel.mensagem.pdado, s.loop.panel.mensagem.ndado] := by
    rw [hheader.cmd, hheader.pdado, hheader.ndado, ← h.byte (by omega), ← h.byte (by omega),
      ← h.byte (by omega)]
    rfl
  rw [hheader₀, ← hdata] at hframe
  have hends : load s.loop.panel.dado.bufferRx ⟨3 + s.loop.panel.mensagem.ndado.toNat, 2⟩ ≠ [] := nofun
  rw [hframe, Protocolo.bytes, Nat.add_comm _ 3, ← List.append_assoc, List.dropLast_append_of_ne_nil hends,
    List.append_assoc]
  rfl

/-- What is executed is a frame, with bytes of its own. -/
theorem Begun.genuine (h : s.Begun) (hheader : s.Header)
    (hmessage : s.loop.panel.mensagem.bytes = s.frame.dropLast) (r : Readings) :
    Execution.Genuine ⟨s.frame, s.loop.panel, r⟩ := by
  have hused : dadoUsed s.loop.panel.locRem s.loop.panel.mensagem.cmd ≤
      s.loop.panel.mensagem.ndado.toNat := by
    rw [hheader.cmd, hheader.ndado]
    exact h.used
  have hbyte := s.loop.panel.mensagem.ndado.toNat_lt
  have hno (cmd : UInt8) (hmany : dadoUsed s.loop.panel.locRem cmd = 256) :
      s.loop.panel.mensagem.cmd ≠ cmd := by
    intro hcmd
    rw [hcmd, hmany] at hused
    omega
  refine ⟨h.complete, hmessage, fun dado chars hagree => ?_⟩
  exact Panel.command_uses r _ (hno 0x60 rfl) (hno 0x61 rfl) s.loop.panel dado chars fun i hi =>
    hagree i (Nat.lt_of_lt_of_le hi hused)

theorem Inv.advance (h : s.Inv) (r : Readings) (hwhole : s.Whole (.advance r)) :
    Returns (s.step (.advance r)) Inv := by
  obtain ⟨hgenuine, hstanding⟩ := h
  unfold step PanelLoop.advance Ihm.advance PanelLoop.ihm
  cases hpc : s.loop.pc with
  | idle =>
    rw [hpc] at hstanding
    exact .ok ⟨hgenuine, hstanding.dispatch (hwhole hpc)⟩
  | header =>
    rw [hpc] at hstanding
    have hbegun : s.Begun := hstanding
    have hlength := hbegun.complete.length
    unfold frameLength at hlength
    refine .ok ⟨hgenuine, hbegun.moved rfl rfl,
      ⟨hbegun.byte ?_, hbegun.byte ?_, hbegun.byte ?_⟩,
      ⟨Nat.zero_le _, fun i hi => absurd hi (Nat.not_lt_zero i)⟩⟩
    all_goals omega
  | copying count =>
    rw [hpc] at hstanding
    obtain ⟨hbegun, hheader, hcopied⟩ := hstanding
    by_cases hlt : count < s.loop.panel.mensagem.ndado.toNat
    · have hbyte := s.loop.panel.mensagem.ndado.toNat_lt
      have hin : count < ihmDadoSize := by simp only [ihmDadoSize]; omega
      simp only [if_pos hlt, writeCell_ok hin]
      exact .ok ⟨hgenuine, hbegun.moved rfl rfl,
        hheader.moved rfl rfl rfl, ⟨hlt, hcopied.next hlt⟩⟩
    · simp only [if_neg hlt]
      exact .ok ⟨hgenuine, hbegun.moved rfl rfl,
        hheader.moved rfl rfl rfl, ⟨hcopied.le, hcopied.dado⟩,
        Nat.le_antisymm hcopied.le (Nat.le_of_not_lt hlt)⟩
  | ack count =>
    rw [hpc] at hstanding
    obtain ⟨hbegun, hheader, hcopied, rfl⟩ := hstanding
    exact .ok ⟨hgenuine, hbegun.moved rfl rfl,
      hheader.moved rfl rfl rfl, hbegun.message hheader hcopied⟩
  | clear =>
    rw [hpc] at hstanding
    obtain ⟨hbegun, hheader, hmessage⟩ := hstanding
    exact .ok ⟨hgenuine, hbegun.moved rfl rfl,
      hheader.moved rfl rfl rfl, hmessage⟩
  | process =>
    rw [hpc] at hstanding
    obtain ⟨hbegun, hheader, hmessage⟩ := hstanding
    refine .ok ⟨fun e he => ?_, hbegun.since, hbegun.pending, ?_⟩
    · rcases List.mem_append.mp he with hold | hnew
      · exact hgenuine e hold
      · cases List.mem_singleton.mp hnew
        exact hbegun.genuine hheader hmessage r
    · simp only [List.map_append, List.map_cons, List.map_nil]
      exact hbegun.frames
  | resetCounter =>
    rw [hpc] at hstanding
    exact .ok ⟨hgenuine, ⟨hstanding.since, hstanding.pending, hstanding.frames⟩, rfl⟩
  | resetCsum =>
    rw [hpc] at hstanding
    obtain ⟨⟨hsince, hpending, hframes⟩, hcounter⟩ := hstanding
    refine .ok ⟨hgenuine, ?_, ?_, ?_, hframes⟩
    · rw [hsince]
      exact List.length_eq_zero_iff.mp ((Buffer.held_length _).trans hcounter)
    · simp only [hsince]
      rfl
    · simp only [hpending, hsince]

theorem Inv.step (h : s.Inv) {e : PanelEvent} (hwhole : s.Whole e) : Returns (s.step e) Inv := by
  cases e with
  | interrupt status bytes => exact h.interrupt status bytes hwhole
  | advance r => exact h.advance r hwhole

/-- **Panel commands come from complete frames.** From every panel with an empty
buffer, for every stream of bytes, every division of it into interrupts and every
order of these with the statements of the dispatches: if no bytes are taken
during a dispatch, and every dispatch finds one complete frame with the data bytes
that its command uses, or what is as long as a frame and does not sum to 0, then
no statement stops, every command executed is one of a complete frame and uses
bytes of that alone, and outside of a dispatch the commands executed are those of
the frames received, one for each. -/
theorem frames_once (panel : Panel) (hcounter : panel.dado.counter = 0) (hcsum : panel.dado.csum = 0)
    (evs : List PanelEvent) (h : Runs.Along Observed.step Whole (start panel) evs) :
    (∃ s, Runs.run Observed.step (start panel) evs = .ok s) ∧
      Runs.Throughout Observed.step Right (start panel) evs := by
  have hstep (s : Observed) (e : PanelEvent) (hs : s.Inv) (he : s.Whole e) : Returns (s.step e) Inv :=
    hs.step he
  have hstart : (start panel).Inv := inv_start hcounter hcsum
  obtain ⟨s, hrun, -⟩ := Runs.run_along hstep evs hstart h
  exact ⟨⟨s, hrun⟩, (Runs.throughout_of_along hstep hstart h).imp fun _ hs => hs.right⟩

instance (s : Observed) (e : PanelEvent) : Decidable (s.Whole e) := by
  cases e <;> unfold Whole <;> infer_instance

/-- A frame that puts the panel in charge, in two pieces, and its dispatch. -/
theorem frames_once_split :
    (∃ s, Runs.run Observed.step (start .powerUp)
      (.interrupt .rt [0x24, 0] :: .interrupt .rt [1, 1, 0, 0xDA] ::
        List.replicate 9 (.advance .zero)) = .ok s) ∧
      Runs.Throughout Observed.step Right (start .powerUp)
        (.interrupt .rt [0x24, 0] :: .interrupt .rt [1, 1, 0, 0xDA] :: List.replicate 9 (.advance .zero)) :=
  frames_once .powerUp rfl rfl _ (by decide +kernel)

/-- A single byte 0 is executed: the command 0x00, with an answer. -/
def zeroByte : List PanelEvent := .interrupt .rt [0] :: List.replicate 6 (.advance .zero)

theorem zeroByte_executed : ¬ Runs.Throughout Observed.step Right (start .powerUp) zeroByte := by
  intro h
  have hexec : (Runs.run Observed.step (start .powerUp) zeroByte).toOption.map
      (fun s => s.executed.map (·.bytes)) = some [[0]] := by decide +kernel
  cases hrun : Runs.run Observed.step (start .powerUp) zeroByte with
  | error f =>
    rw [hrun] at hexec
    cases hexec
  | ok s =>
    rw [hrun] at hexec
    have hbytes : s.executed.map (·.bytes) = [[0]] := Option.some.inj hexec
    obtain ⟨e, he, hzero⟩ : ∃ e ∈ s.executed, e.bytes = [0] :=
      List.mem_map.mp (hbytes ▸ List.mem_singleton_self _)
    have hcomplete := ((h.final hrun).genuine e he).complete
    rw [hzero] at hcomplete
    exact absurd hcomplete (by decide)

end Observed

end UdcFirmware.Drivers
