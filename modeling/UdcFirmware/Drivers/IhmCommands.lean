/-
The commands of the panel: `SeparaDado` and `ProcessCmd` of `ihm.c`, with what
they call of `main_var.c` and `ctrl_law.c`.

A dispatch finds in `Dado` what `IHMIntHandler` has left there, and in the other
modules what these have come to: `Readings`. `Panel` is the rest. `LocRem` is 0
under remote control.

Every command that acts on the power supply tests `LocRem`, and 0x24 sets it
without a test, to `Mensagem.DADO[0]`. A 0x24 without data bytes finds there
what an earlier message or answer has left. Where that is 0, the panel stays
locked (`panel_locked`).
-/
import UdcFirmware.Lib.Traces
import UdcFirmware.Drivers.EepromStore
import UdcFirmware.Drivers.Ihm

namespace UdcFirmware.Drivers

open ByteMem Traces

/-! ## The other modules -/

/-- The flags for the C28. -/
@[simp] abbrev ipcPsOnOff : UInt32 := 0x00000011
@[simp] abbrev openCloseLoop : UInt32 := 0x00000041
@[simp] abbrev slowrefUpdate : UInt32 := 0x00000081
@[simp] abbrev dpmodulesConfig : UInt32 := 0x00000401

/-- `ePSOpMode`. -/
inductive PsOpMode
  | slowRef | fastRef | wfmRef | sigGen
  deriving DecidableEq

/-- `eDPclass`. -/
inductive DpClass
  | elpError | elpSRLim | elpLPF | elpPiDawu | elpIir2P2Z | elpIir3P3Z
  | dclPid | dclPi | dclDf13 | dclDf22 | dcl23
  deriving DecidableEq

namespace FloatChars

/-- The number that four bytes are. -/
def value (v : FloatChars) : Float32 :=
  .ofBits (v[0].toUInt32 ||| v[1].toUInt32 <<< 8 ||| v[2].toUInt32 <<< 16 ||| v[3].toUInt32 <<< 24)

def ofValue (v : Float32) : FloatChars :=
  #v[v.toBits.toUInt8, (v.toBits >>> 8).toUInt8, (v.toBits >>> 16).toUInt8, (v.toBits >>> 24).toUInt8]

end FloatChars

/-- The bytes of a word, the lowest first. -/
def leBytes (v : UInt32) : List UInt8 :=
  [v.toUInt8, (v >>> 8).toUInt8, (v >>> 16).toUInt8, (v >>> 24).toUInt8]

/-- What the panel reads of the other modules. -/
structure Readings where
  /-- Of `IPC_MtoC_Msg.PSModule`. -/
  model : UInt16
  /-- Of `IPC_CtoM_Msg.PSModule`. -/
  opMode : PsOpMode
  iRef : FloatChars
  onOff : UInt8
  openLoop : UInt8
  hardInterlocks : UInt32
  softInterlocks : UInt32
  /-- Of `DP_Framework`. -/
  netSignal1 : FloatChars
  kp : FloatChars
  ki : FloatChars
  freqSample : FloatChars
  umax : FloatChars
  umin : FloatChars
  dataHour : UInt64
  psModuleAlarms : UInt32
  temp1 : UInt8

/-- Of `IPC_MtoC_Msg.PSModule`, what the panel writes. -/
structure PsModule where
  iSlowRef : FloatChars
  onOff : Fin 2 → UInt8
  openLoop : Fin 2 → UInt8

/-- `IPC_MtoC_Msg.DPModule`. -/
structure DpModule where
  id : UInt16
  dpclass : DpClass
  coeffs : Fin 16 → FloatChars

/-- `sent` are the flags given to `SendIpcFlag`, `tx` the bytes given to the UART. -/
structure Panel where
  dado : BufferT
  mensagem : Protocolo
  locRem : UInt8
  floatNchars : FloatChars
  psModule : PsModule
  dpModule : DpModule
  eeprom : Eeprom
  ipAddr : Vector UInt8 4
  flags : Flags
  sent : List UInt32
  tx : List UInt8

namespace Readings

variable (r : Readings)

def powerSupplyModelRead : UInt8 := r.model.toUInt8

def ctrlLoopRead : UInt8 := if r.openLoop = 0 then 1 else 0

def kiRead : FloatChars := .ofValue (r.ki.value * r.freqSample.value)

end Readings

namespace Panel

variable (s : Panel) (r : Readings)

def sendIpcFlag (flag : UInt32) : Panel := { s with sent := s.sent ++ [flag] }

def iSetpointWrite (current : FloatChars) : Panel :=
  if r.opMode = .slowRef then
    { s with psModule := { s.psModule with iSlowRef := current } }.sendIpcFlag slowrefUpdate
  else s

def outputStsWrite (sts : UInt8) : Panel :=
  let onOff := Function.update s.psModule.onOff 0 sts
  { s with psModule := { s.psModule with onOff } }.sendIpcFlag ipcPsOnOff

def ctrlLoopWrite (sts : UInt8) : Panel :=
  let openLoop := Function.update s.psModule.openLoop 0 (if sts = 0 then 1 else 0)
  { s with psModule := { s.psModule with openLoop } }.sendIpcFlag openCloseLoop

/-- The module of the controller, with new gains. -/
def configPi (coeff0 coeff1 : FloatChars) : Panel :=
  { s with
    dpModule :=
      { id := 0
        dpclass := .elpPiDawu
        coeffs := fun i => [coeff0, coeff1, r.freqSample, r.umax, r.umin].getD i (s.dpModule.coeffs i) } }

def kpWrite (kpvar : FloatChars) : Panel :=
  if kpvar.value != r.kp.value then
    let s := s.configPi r kpvar (.ofValue (r.ki.value * r.freqSample.value))
    let s := s.sendIpcFlag dpmodulesConfig
    { s with eeprom := s.eeprom.saveKp1Gain kpvar }
  else s

def kiWrite (kivar : FloatChars) : Panel :=
  if kivar.value != r.ki.value then
    let s := s.configPi r r.kp kivar
    let s := s.sendIpcFlag dpmodulesConfig
    { s with eeprom := s.eeprom.saveKi1Gain kivar }
  else s

def ipAddressWrite (ip : Vector UInt8 4) : Panel :=
  if s.ipAddr ≠ ip then
    let ipvar : UInt32 := ip.toList.foldl (fun acc b => acc <<< 8 ||| b.toUInt32) 0
    { s with ipAddr := ip, eeprom := s.eeprom.saveIpAddress ipvar }
  else s

/-! ## Messages -/

def separaDado : Panel :=
  let ndado := s.dado.bufferRx 2
  { s with
    mensagem := { s.mensagem with
      cmd := s.dado.bufferRx 0
      pdado := s.dado.bufferRx 1
      ndado
      dado := store s.mensagem.dado 0 (load s.dado.bufferRx ⟨3, ndado.toNat⟩)
      ack := s.dado.bufferRx (ndado.toNat + 3) }
    dado := { s.dado with counter := 0, ndado := 0 } }

/-- The transmit FIFO of the UART is taken to have room for the header. -/
def sendDisplay : Panel :=
  let m := s.mensagem
  let data := load m.dado ⟨0, m.ndado.toNat⟩
  let cks := data.foldl (· - ·) (0 - m.cmd - m.pdado - m.ndado - m.ack)
  { s with
    mensagem := { m with cks }
    tx := s.tx ++ m.cmd :: m.pdado :: m.ndado :: (data ++ [m.ack, cks]) }

/-- Bytes of `Mensagem.DADO`, from an index on. -/
def putDado (i : Nat) (bytes : List UInt8) : Panel :=
  { s with mensagem := { s.mensagem with dado := store s.mensagem.dado i bytes } }

/-- An answer, with the data bytes that are there. -/
def answer (cmd ndado : UInt8) : Panel :=
  sendDisplay { s with mensagem := { s.mensagem with cmd, pdado := 0x00, ndado, ack := 0x00 } }

/-- An answer with the bytes of a float. -/
def answerFloat (cmd : UInt8) (v : FloatChars) : Panel :=
  answer { s.putDado 0 v.toList with floatNchars := v } cmd 0x04

/-- The first data bytes of the message, as a float. -/
def takeFloat : Panel :=
  { s with floatNchars := #v[s.mensagem.dado 0, s.mensagem.dado 1, s.mensagem.dado 2, s.mensagem.dado 3] }

/-- `if(LocRem)`, with a float of the message. -/
def gatedFloat (write : Panel → FloatChars → Panel) : Panel :=
  if s.locRem ≠ 0 then write s.takeFloat s.takeFloat.floatNchars else s

/-- The `switch` of `ProcessCmd`. The commands left out have empty cases. -/
def command (r : Readings) : UInt8 → Panel → Panel
  | 0x00 => fun s => s.answer 0x00 0x01
  | 0x01 => fun s => (s.putDado 0 [r.powerSupplyModelRead]).answer 0x01 0x01
  | 0x02 =>
    let v := r.dataHour
    let bytes := [v >>> 48, v >>> 40, v >>> 32, v >>> 16, v >>> 8, v, v >>> 24]
    fun s => (s.putDado 0 (bytes.map (·.toUInt8))).answer 0x02 0x07
  | 0x04 => fun s => s.answer 0x04 0x02
  | 0x05 => fun s => s.answer 0x05 0x02
  | 0x06 => fun s => (s.putDado 0 [s.locRem]).answer 0x06 0x01
  | 0x07 => fun s => s.answer 0x07 0x03
  | 0x08 => fun s => s.answer 0x08 0x0F
  | 0x09 => fun s => s.answer 0x09 0x08
  | 0x10 => fun s => s.answerFloat 0x10 r.netSignal1
  | 0x11 => fun s => (s.putDado 0 [4, 6]).answer 0x11 0x02
  | 0x12 => fun s => s.answer 0x12 0x04
  | 0x13 => fun s => (s.putDado 0 [0x01, 0x55]).answer 0x13 0x02
  | 0x14 => fun s => (s.putDado 0 [r.ctrlLoopRead]).answer 0x14 0x01
  | 0x15 => fun s => (s.putDado 0 [r.onOff]).answer 0x15 0x01
  | 0x16 => fun s => s.answerFloat 0x16 r.iRef
  | 0x17 => fun s => s.answerFloat 0x17 r.kp
  | 0x18 => fun s => s.answerFloat 0x18 r.kiRead
  | 0x19 => fun s => s.answerFloat 0x19 r.iRef
  | 0x1A => fun s => s.answerFloat 0x1A r.kp
  | 0x1B => fun s => s.answerFloat 0x1B r.kiRead
  | 0x1C => fun s => s.answerFloat 0x1C r.kp
  | 0x1D => fun s => s.answerFloat 0x1D r.kiRead
  | 0x20 => fun s => s.gatedFloat (iSetpointWrite · r)
  | 0x21 => fun s => s.gatedFloat (iSetpointWrite · r)
  | 0x22 => fun s => if s.locRem ≠ 0 then s.outputStsWrite (s.mensagem.dado 0) else s
  | 0x23 => fun s => if s.locRem ≠ 0 then s.ctrlLoopWrite (s.mensagem.dado 0) else s
  | 0x24 => fun s => { s with locRem := s.mensagem.dado 0 }
  | 0x27 => fun s => s.gatedFloat (kpWrite · r)
  | 0x28 => fun s => s.gatedFloat (kiWrite · r)
  | 0x29 => fun s => s.gatedFloat (kpWrite · r)
  | 0x2A => fun s => s.gatedFloat (kiWrite · r)
  | 0x2B => fun s => s.gatedFloat (kpWrite · r)
  | 0x2C => fun s => s.gatedFloat (kiWrite · r)
  | 0x60 => fun s => (s.putDado 0 s.floatNchars.toList).answer 0x60 0x04
  | 0x61 => fun s => (s.putDado 0 s.floatNchars.toList).answer 0x61 0x04
  | 0x62 => fun s => (s.putDado 0 [r.temp1]).answer 0x62 0x01
  | 0x70 => fun s => (s.putDado 0 s.ipAddr.toList).answer 0x70 0x04
  | 0x71 => fun s =>
    s.ipAddressWrite #v[s.mensagem.dado 0, s.mensagem.dado 1, s.mensagem.dado 2, s.mensagem.dado 3]
  | 0x83 => fun s => (s.putDado 1 [0, 0]).answer 0x83 0x03
  | 0x86 => fun s => s.answer 0x86 0x01
  | 0x92 => fun s => s.answer 0x92 0x02
  | 0xA0 => fun s => (s.putDado 0 (leBytes r.psModuleAlarms)).answer 0xA0 0x04
  | 0xC0 => fun s => { s with flags := (taskSetNew s.flags ETask.clearItlkAlarm.num).1 }
  | 0xE0 => fun s => (s.putDado 0 (leBytes r.hardInterlocks ++ leBytes r.softInterlocks)).answer 0xE0 0x08
  | _ => id

def processCmd : Panel := command r s.mensagem.cmd s

/-- The label `exit` of `DisplayProcessData`. -/
def exit : Panel := { s with dado := { s.dado with counter := 0, csum := 0 } }

def displayProcessData : Panel := if s.dado.csum ≠ 0 then s.exit else (s.separaDado.processCmd r).exit

end Panel

/-- A dispatch, with what it finds in `Dado` and in the other modules. -/
structure Dispatch where
  dado : BufferT
  readings : Readings

def Panel.step (s : Panel) (e : Dispatch) : Panel := displayProcessData { s with dado := e.dado } e.readings

/-! ## Under remote control -/

/-- What acts on the power supply is as it was, and no flag was sent. -/
structure Untouched (s₀ s : Panel) : Prop where
  psModule : s.psModule = s₀.psModule
  dpModule : s.dpModule = s₀.dpModule
  kp1 : s.eeprom.saved .kp1 = s₀.eeprom.saved .kp1
  ki1 : s.eeprom.saved .ki1 = s₀.eeprom.saved .ki1
  sent : s.sent = s₀.sent

theorem Untouched.refl (s : Panel) : Untouched s s := ⟨rfl, rfl, rfl, rfl, rfl⟩

theorem Untouched.trans {s₀ s s' : Panel} (h : Untouched s₀ s) (h' : Untouched s s') : Untouched s₀ s' :=
  ⟨h'.psModule.trans h.psModule, h'.dpModule.trans h.dpModule, h'.kp1.trans h.kp1, h'.ki1.trans h.ki1,
    h'.sent.trans h.sent⟩

namespace Panel

variable {s : Panel} {r : Readings}

/-- Under remote control, what acts on the power supply is left, and so is `LocRem`. -/
def Keeps (f : Panel → Panel) : Prop := ∀ s, s.locRem = 0 → Untouched s (f s) ∧ (f s).locRem = s.locRem

theorem keeps_id : Keeps id := fun s _ => ⟨.refl s, rfl⟩

/-- An answer is sent, and nothing else is done. -/
theorem keeps_answer (cmd ndado : UInt8) : Keeps (answer · cmd ndado) :=
  fun _ _ => ⟨⟨rfl, rfl, rfl, rfl, rfl⟩, rfl⟩

theorem keeps_putAnswer (i : Nat) (bytes : Panel → List UInt8) (cmd ndado : UInt8) :
    Keeps fun s => (s.putDado i (bytes s)).answer cmd ndado :=
  fun _ _ => ⟨⟨rfl, rfl, rfl, rfl, rfl⟩, rfl⟩

theorem keeps_answerFloat (cmd : UInt8) (v : FloatChars) : Keeps (answerFloat · cmd v) :=
  fun _ _ => ⟨⟨rfl, rfl, rfl, rfl, rfl⟩, rfl⟩

theorem keeps_flags (flags : Panel → Flags) : Keeps fun s => { s with flags := flags s } :=
  fun _ _ => ⟨⟨rfl, rfl, rfl, rfl, rfl⟩, rfl⟩

theorem keeps_ipAddressWrite (ip : Panel → Vector UInt8 4) : Keeps fun s => s.ipAddressWrite (ip s) := by
  intro s _
  show Untouched s (s.ipAddressWrite (ip s)) ∧ (s.ipAddressWrite (ip s)).locRem = s.locRem
  unfold Panel.ipAddressWrite
  split
  · have hkp (v : UInt32) : (s.eeprom.saveIpAddress v).saved .kp1 = s.eeprom.saved .kp1 :=
      Function.update_of_ne (show Param.kp1 ≠ .ip by decide) v s.eeprom.saved
    have hki (v : UInt32) : (s.eeprom.saveIpAddress v).saved .ki1 = s.eeprom.saved .ki1 :=
      Function.update_of_ne (show Param.ki1 ≠ .ip by decide) v s.eeprom.saved
    exact ⟨⟨rfl, rfl, hkp _, hki _, rfl⟩, rfl⟩
  · exact ⟨.refl s, rfl⟩

/-- What tests `LocRem` does nothing. -/
theorem keeps_gated (acted : Panel → Panel) : Keeps fun s => if s.locRem ≠ 0 then acted s else s := by
  intro s h
  have hs : (if s.locRem ≠ 0 then acted s else s) = s := if_neg fun hne => hne h
  show Untouched s (if s.locRem ≠ 0 then acted s else s) ∧ (if s.locRem ≠ 0 then acted s else s).locRem = _
  rw [hs]
  exact ⟨.refl s, rfl⟩

/-- Every command but one keeps all that. -/
theorem command_keeps (r : Readings) (cmd : UInt8) :
    cmd = 0x24 ∧ command r cmd = (fun s => { s with locRem := s.mensagem.dado 0 }) ∨
      Keeps (command r cmd) := by
  by_cases hcmd : cmd = 0x24
  · subst hcmd
    exact .inl ⟨rfl, rfl⟩
  refine .inr ?_
  unfold command
  split <;>
    first
    | exact absurd rfl hcmd
    | exact keeps_answer _ _
    | exact keeps_putAnswer _ _ _ _
    | exact keeps_answerFloat _ _
    | exact keeps_gated _
    | exact keeps_ipAddressWrite _
    | exact keeps_id
    | exact keeps_flags _

end Panel

/-- The message is no command 0x24 with a data byte first that is not 0. -/
def Dispatch.NotLocal (e : Dispatch) : Prop :=
  e.dado.csum = 0 → e.dado.bufferRx 0 = 0x24 → e.dado.bufferRx 2 ≠ 0 → e.dado.bufferRx 3 = 0

/-- A command 0x24 without data bytes finds 0 in `Mensagem.DADO[0]`. -/
def Panel.FindsZero (s : Panel) (e : Dispatch) : Prop :=
  e.dado.csum = 0 → e.dado.bufferRx 0 = 0x24 → e.dado.bufferRx 2 = 0 → s.mensagem.dado 0 = 0

namespace Panel

variable {s : Panel}

/-- The first data byte is the message's, if it has any. -/
theorem separaDado_first (s : Panel) : s.separaDado.mensagem.dado 0 =
    if s.dado.bufferRx 2 = 0 then s.mensagem.dado 0 else s.dado.bufferRx 3 := by
  show store s.mensagem.dado 0 (load s.dado.bufferRx ⟨3, (s.dado.bufferRx 2).toNat⟩) 0 = _
  split
  · next hnone =>
    rw [hnone]
    rfl
  · next hsome =>
    have hpos : 0 < (s.dado.bufferRx 2).toNat :=
      Nat.pos_of_ne_zero fun hz => hsome (UInt8.toNat_inj.mp hz)
    have hlen : 0 < (load s.dado.bufferRx ⟨3, (s.dado.bufferRx 2).toNat⟩).length := by
      rw [load_length]
      exact hpos
    have hcell := store_of_mem s.mensagem.dado (a := 0) hlen
    rw [hcell, load_getElem]

/-- A dispatch acts on nothing, and `LocRem` stays 0. -/
theorem step_locked (h : s.locRem = 0) {e : Dispatch} (hno : e.NotLocal) (hzero : s.FindsZero e) :
    Untouched s (s.step e) ∧ (s.step e).locRem = 0 := by
  have hexit (t : Panel) : Untouched t t.exit := ⟨rfl, rfl, rfl, rfl, rfl⟩
  have harrived : Untouched s { s with dado := e.dado } := ⟨rfl, rfl, rfl, rfl, rfl⟩
  unfold step displayProcessData
  by_cases hcsum : e.dado.csum = 0
  · rw [if_neg (not_not.mpr hcsum)]
    have hsep : Untouched s (separaDado { s with dado := e.dado }) := ⟨rfl, rfl, rfl, rfl, rfl⟩
    unfold processCmd
    rcases command_keeps e.readings (e.dado.bufferRx 0) with ⟨hcmd, heq⟩ | hkept
    · have hset : command e.readings (separaDado { s with dado := e.dado }).mensagem.cmd =
          fun s => { s with locRem := s.mensagem.dado 0 } := heq
      rw [hset]
      refine ⟨hsep.trans ⟨rfl, rfl, rfl, rfl, rfl⟩, ?_⟩
      · refine (separaDado_first { s with dado := e.dado }).trans ?_
        split
        · next hnone => exact hzero hcsum hcmd hnone
        · next hsome => exact hno hcsum hcmd hsome
    · obtain ⟨huntouched, hloc⟩ := hkept (separaDado { s with dado := e.dado }) h
      exact ⟨hsep.trans (huntouched.trans (hexit _)), hloc.trans h⟩
  · rw [if_pos hcsum]
    exact ⟨harrived.trans (hexit _), h⟩

/-- **Remote mode blocks the panel.** From every state under remote control
and for every sequence of dispatches, without a command 0x24 whose first data
byte is not 0, and with no 0x24 without data that finds another byte: nothing
that acts on the power supply is changed, and no flag is sent. -/
theorem panel_locked (s₀ : Panel) (hloc : s₀.locRem = 0) (es : List Dispatch) (hno : ∀ e ∈ es, e.NotLocal)
    (h : Along step FindsZero s₀ es) : Always step (Untouched s₀) s₀ es := by
  have hkeep : Always step (fun s => Untouched s₀ s ∧ s.locRem = 0) s₀ es := by
    refine always_of_along ?_ ⟨.refl s₀, hloc⟩ (h.and_mem hno)
    intro s e hs he
    obtain ⟨hsame, hlocked⟩ := hs
    obtain ⟨hstep, hlocked'⟩ := step_locked hlocked he.2 he.1
    exact ⟨hsame.trans hstep, hlocked'⟩
  exact hkeep.imp fun s hs => hs.1

/-- At power-up, with an erased EEPROM. -/
def powerUp : Panel where
  dado := ⟨fun _ => 0, 0, 0, 0⟩
  mensagem := ⟨0, 0, 0, fun _ => 0, 0, 0⟩
  locRem := 0
  floatNchars := .replicate _ 0
  psModule := ⟨.replicate _ 0, fun _ => 0, fun _ => 0⟩
  dpModule := ⟨0, .elpError, fun _ => .replicate _ 0⟩
  eeprom := .powerUp fun _ => 0xFF
  ipAddr := .replicate _ 0
  flags _ := false
  sent := []
  tx := []

end Panel

/-- Readings that are all 0. -/
def Readings.zero : Readings where
  model := 0
  opMode := .slowRef
  iRef := .replicate _ 0
  onOff := 0
  openLoop := 0
  hardInterlocks := 0
  softInterlocks := 0
  netSignal1 := .replicate _ 0
  kp := .replicate _ 0
  ki := .replicate _ 0
  freqSample := .replicate _ 0
  umax := .replicate _ 0
  umin := .replicate _ 0
  dataHour := 0
  psModuleAlarms := 0
  temp1 := 0

/-- A message in a buffer that was empty. -/
def Dispatch.ofBytes (bytes : List UInt8) : Dispatch :=
  ⟨⟨store (fun _ => 0) 0 bytes, bytes.length, 0, bytes.foldl (· + ·) 0⟩, .zero⟩

instance (e : Dispatch) : Decidable e.NotLocal := by
  unfold Dispatch.NotLocal
  infer_instance

namespace Panel

theorem panel_locked_setpoint : Always step (Untouched powerUp) powerUp
    [.ofBytes [0x24, 0, 1, 0, 0, 0xDB], .ofBytes [0x20, 0, 4, 0, 0, 0, 1, 0, 0xDB]] :=
  panel_locked powerUp rfl _ (by decide +kernel) ⟨fun _ _ _ => rfl, fun _ _ _ => rfl, trivial⟩

/-- The answer to 0x11 leaves 4 in `Mensagem.DADO[0]`, a 0x24 without data makes it
`LocRem`, and 0x22 turns the power supply on. -/
def staleByte : List Dispatch :=
  [.ofBytes [0x11, 0, 0, 0, 0xEF], .ofBytes [0x24, 0, 0, 0, 0xDC], .ofBytes [0x22, 0, 1, 1, 0, 0xDC]]

theorem staleByte_unlocks : powerUp.locRem = 0 ∧ (∀ e ∈ staleByte, e.NotLocal) ∧
    ¬ Always step (Untouched powerUp) powerUp staleByte := by
  refine ⟨rfl, by decide +kernel, fun h => ?_⟩
  have hsent : (staleByte.foldl step powerUp).sent = [] := h.foldl.sent
  revert hsent
  decide +kernel

end Panel

end UdcFirmware.Drivers
