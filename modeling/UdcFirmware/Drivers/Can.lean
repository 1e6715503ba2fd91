/-
The modules of the power supply on the CAN bus: `can_bkp.c`, and
`InterlockAlarmReset` of `main_var.c`.

`InitCanBkp` gives each message object the identifier it receives, by the
model of the power supply. `CanCheck` goes down the objects of the model,
reads the frame of each one whose flag is set, and goes through a block of code
for each alarm and each interlock the frame tells of. The blocks are alike, and
each is a row here with what it tests, the status field it keeps and the bit it
raises. Measurements are left out. A frame has eight bytes, as the objects are
set up for.
-/
import UdcFirmware.Bsmp.Types
import Mathlib.Logic.Function.Basic

namespace UdcFirmware.Drivers

/-! ## Alarm and interlock bits -/

@[simp] abbrev outVoltageAlarm : UInt32 := 0x00000004
@[simp] abbrev inVoltageAlarm : UInt32 := 0x00000008
@[simp] abbrev arm1CurrentAlarm : UInt32 := 0x00000010
@[simp] abbrev arm2CurrentAlarm : UInt32 := 0x00000020
@[simp] abbrev inCurrentAlarm : UInt32 := 0x00000040
@[simp] abbrev out1CurrentAlarm : UInt32 := 0x00000080
@[simp] abbrev out2CurrentAlarm : UInt32 := 0x00000100
@[simp] abbrev out1VoltageAlarm : UInt32 := 0x00000200
@[simp] abbrev out2VoltageAlarm : UInt32 := 0x00000400
@[simp] abbrev leakageCurrentAlarm : UInt32 := 0x00000800
@[simp] abbrev igbt1TempAlarm : UInt32 := 0x00001000
@[simp] abbrev igbt2TempAlarm : UInt32 := 0x00002000
@[simp] abbrev l1TempAlarm : UInt32 := 0x00004000
@[simp] abbrev l2TempAlarm : UInt32 := 0x00008000
@[simp] abbrev heatsinkTempAlarm : UInt32 := 0x00010000
@[simp] abbrev waterTempAlarm : UInt32 := 0x00020000
@[simp] abbrev rectfier1TempAlarm : UInt32 := 0x00040000
@[simp] abbrev rectfier2TempAlarm : UInt32 := 0x00080000
@[simp] abbrev humidityAlarm : UInt32 := 0x00100000

@[simp] abbrev externalInterlock : UInt32 := 0x00000002
@[simp] abbrev acFault : UInt32 := 0x00000004
@[simp] abbrev outOvervoltage : UInt32 := 0x00000200
@[simp] abbrev inOvervoltage : UInt32 := 0x00000400
@[simp] abbrev arm1Overcurrent : UInt32 := 0x00000800
@[simp] abbrev arm2Overcurrent : UInt32 := 0x00001000
@[simp] abbrev inOvercurrent : UInt32 := 0x00002000
@[simp] abbrev driver1Fault : UInt32 := 0x00004000
@[simp] abbrev driver2Fault : UInt32 := 0x00008000
@[simp] abbrev out1Overcurrent : UInt32 := 0x00010000
@[simp] abbrev out2Overcurrent : UInt32 := 0x00020000
@[simp] abbrev out1Overvoltage : UInt32 := 0x00040000
@[simp] abbrev out2Overvoltage : UInt32 := 0x00080000
@[simp] abbrev leakageOvercurrent : UInt32 := 0x00100000
@[simp] abbrev acOvercurrent : UInt32 := 0x00200000
@[simp] abbrev igbt1Overtemp : UInt32 := 0x00000001
@[simp] abbrev igbt2Overtemp : UInt32 := 0x00000002
@[simp] abbrev l1Overtemp : UInt32 := 0x00000004
@[simp] abbrev l2Overtemp : UInt32 := 0x00000008
@[simp] abbrev heatsinkOvertemp : UInt32 := 0x00000010
@[simp] abbrev waterOvertemp : UInt32 := 0x00000020
@[simp] abbrev rectfier1Overtemp : UInt32 := 0x00000040
@[simp] abbrev rectfier2Overtemp : UInt32 := 0x00000080
@[simp] abbrev acTransfOvertemp : UInt32 := 0x00000100
@[simp] abbrev waterFluxFault : UInt32 := 0x00000200
@[simp] abbrev overHumidityFault : UInt32 := 0x00000400

/-- The flags for the C28. -/
@[simp] abbrev softInterlockFlag : UInt32 := 0x00000004
@[simp] abbrev hardInterlockFlag : UInt32 := 0x00000008
@[simp] abbrev resetInterlocks : UInt32 := 0x00001001

/-- A bit of `HardInterlocks` or `SoftInterlocks`. -/
inductive FaultBit
  | hard (bits : UInt32)
  | soft (bits : UInt32)
  deriving DecidableEq

namespace FaultBit

def hardBits : FaultBit → UInt32
  | hard bits => bits
  | soft _ => 0

def softBits : FaultBit → UInt32
  | hard _ => 0
  | soft bits => bits

/-- The flag that is sent with the bit. -/
def flag : FaultBit → UInt32
  | hard _ => hardInterlockFlag
  | soft _ => softInterlockFlag

end FaultBit

/-! ## Status fields -/

/-- The alarm and interlock fields of `Q1Module_t`. `ExtItlk`, which is a measurement
beside `ExtItlkSts`, and `Interlock` are left out. -/
inductive Q1Status
  | voutAlarmSts | vinAlarmSts | ioutA1AlarmSts | ioutA2AlarmSts | iinAlarmSts | tempIGBT1AlarmSts
  | tempIGBT2AlarmSts | tempL1AlarmSts | tempL2AlarmSts | tempHeatSinkAlarmSts | relativeHumidityAlarm
  | voutItlkSts | vinItlkSts | ioutA1ItlkSts | ioutA2ItlkSts | iinItlkSts | tempIGBT1ItlkSts
  | tempIGBT2ItlkSts | tempL1ItlkSts | tempL2ItlkSts | tempHeatSinkItlkSts | extItlkSts | driver1ErrorItlk
  | driver2ErrorItlk | relativeHumidityItlk
  deriving DecidableEq

/-- Those of `RectModule_t`, without `Interlock`. -/
inductive RectStatus
  | ioutRectf1Alarm | ioutRectf2Alarm | voutRectf1Alarm | voutRectf2Alarm | leakageCurrentAlarm
  | tempHeatSinkAlarm | tempWaterAlarm | tempModule1Alarm | tempModule2Alarm | tempL1Alarm | tempL2Alarm
  | relativeHumidityAlarm | ioutRectf1Itlk | ioutRectf2Itlk | voutRectf1Itlk | voutRectf2Itlk
  | leakageCurrentItlk | tempHeatSinkItlk | tempWaterItlk | tempModule1Itlk | tempModule2Itlk | tempL1Itlk
  | tempL2Itlk | acPhaseFaultItlk | acOverCurrentItlk | acTransformerOverTempItlk | waterFluxInterlockItlk
  | relativeHumidityItlk
  deriving DecidableEq

/-- Those of `BuckMudule_t`. `Vin1AlarmSts`, `Vin1ItlkSts`, `Vin2AlarmSts` and
`Vin2ItlkSts`, which no code uses, are left out. -/
inductive BuckStatus
  | iin1AlarmSts | iin2AlarmSts | iout1AlarmSts | iout2AlarmSts | tempL1AlarmSts | tempL2AlarmSts
  | relativeHumidityAlarm | iin1ItlkSts | iin2ItlkSts | iout1ItlkSts | iout2ItlkSts | tempL1ItlkSts
  | tempL2ItlkSts | waterFluxInterlockItlk | acOverCurrentItlk | relativeHumidityItlk
  deriving DecidableEq

/-- Those of `Q4Module_t`. -/
inductive Q4Status
  | ioutAlarmSts | tempIGBT1AlarmSts | tempIGBT2AlarmSts | relativeHumidityAlarm | ioutItlkSts
  | tempIGBT1ItlkSts | tempIGBT2ItlkSts | relativeHumidityItlk
  deriving DecidableEq

inductive Status
  | mod1Q1 (field : Q1Status)
  | mod2Q1 (field : Q1Status)
  | rectifier (field : RectStatus)
  | buck (field : BuckStatus)
  | mod1Q4 (field : Q4Status)
  | mod2Q4 (field : Q4Status)
  deriving DecidableEq

/-! ## The state -/

/-- The models that `InitCanBkp` and `CanCheck` have a case for. -/
inductive CanModel
  | fapDcdc20kHz | fapAcdc | facFullAcdc10kHz | facFullDcdc20kHz
  deriving DecidableEq

structure CanFrame where
  id : UInt32
  data : Fin 8 → UInt8

/-- `filter` and `object` are what a message object receives and what it holds,
`sent` the flags given to `SendIpcFlag`. No code reads `decoded`, the frames
`CanCheck` has read and the objects it read them from. -/
structure Can where
  model : CanModel
  filter : Nat → Option UInt32
  object : Nat → CanFrame
  rxFlag : Nat → Bool
  status : Status → Bool
  psModuleAlarms : UInt32
  hardInterlocks : UInt32
  softInterlocks : UInt32
  sent : List UInt32
  decoded : List (Nat × CanFrame)

/-! ## The blocks of `CanCheck` -/

/-- `if(pui8MsgData[byte] & mask) { field = 1; PSModuleAlarms |= alarm; } else field = otherwise;` -/
structure AlarmBlock where
  byte : Fin 8
  mask : UInt8
  field : Status
  alarm : UInt32
  otherwise : Bool

/-- The same for an interlock, whose `else` branch assigns 0. Where `edge` is set, the
first branch does nothing when the field is 1 already. -/
structure ItlkBlock where
  byte : Fin 8
  mask : UInt8
  field : Status
  fault : FaultBit
  edge : Bool

def AlarmBlock.active (b : AlarmBlock) (data : Fin 8 → UInt8) : Bool := data b.byte &&& b.mask ≠ 0

def ItlkBlock.active (b : ItlkBlock) (data : Fin 8 → UInt8) : Bool := data b.byte &&& b.mask ≠ 0

def AlarmBlock.run (data : Fin 8 → UInt8) (s : Can) (b : AlarmBlock) : Can :=
  if b.active data then
    { s with
      status := Function.update s.status b.field true
      psModuleAlarms := s.psModuleAlarms ||| b.alarm }
  else { s with status := Function.update s.status b.field b.otherwise }

def ItlkBlock.run (data : Fin 8 → UInt8) (s : Can) (b : ItlkBlock) : Can :=
  if b.active data then
    if b.edge ∧ s.status b.field then s
    else
      { s with
        status := Function.update s.status b.field true
        hardInterlocks := s.hardInterlocks ||| b.fault.hardBits
        softInterlocks := s.softInterlocks ||| b.fault.softBits
        sent := s.sent ++ [b.fault.flag] }
  else { s with status := Function.update s.status b.field false }

/-- The alarm blocks of a message object. -/
def alarmBlocks : CanModel → Nat → List AlarmBlock
  | .fapDcdc20kHz, 4 =>
    [⟨0, 0b00000001, .mod1Q1 .voutAlarmSts, outVoltageAlarm, false⟩,
      ⟨0, 0b00000010, .mod1Q1 .vinAlarmSts, inVoltageAlarm, false⟩,
      ⟨0, 0b00000100, .mod1Q1 .ioutA1AlarmSts, arm1CurrentAlarm, false⟩,
      ⟨0, 0b00001000, .mod1Q1 .ioutA2AlarmSts, arm2CurrentAlarm, false⟩,
      ⟨0, 0b00010000, .mod1Q1 .iinAlarmSts, inCurrentAlarm, false⟩,
      ⟨0, 0b00100000, .mod1Q1 .tempIGBT1AlarmSts, igbt1TempAlarm, false⟩,
      ⟨0, 0b01000000, .mod1Q1 .tempIGBT2AlarmSts, igbt2TempAlarm, false⟩,
      ⟨0, 0b10000000, .mod1Q1 .tempL1AlarmSts, l1TempAlarm, false⟩,
      ⟨1, 0b00000001, .mod1Q1 .tempL2AlarmSts, l2TempAlarm, false⟩,
      ⟨1, 0b00000010, .mod1Q1 .tempHeatSinkAlarmSts, heatsinkTempAlarm, false⟩,
      ⟨1, 0b00000100, .mod1Q1 .relativeHumidityAlarm, humidityAlarm, false⟩]
  | .fapAcdc, 5 =>
    [⟨0, 0b00000001, .rectifier .ioutRectf1Alarm, out1CurrentAlarm, false⟩,
      ⟨0, 0b00000010, .rectifier .ioutRectf2Alarm, out2CurrentAlarm, false⟩,
      ⟨0, 0b00000100, .rectifier .voutRectf1Alarm, out1VoltageAlarm, false⟩,
      ⟨0, 0b00001000, .rectifier .voutRectf2Alarm, out2VoltageAlarm, false⟩,
      ⟨0, 0b00010000, .rectifier .leakageCurrentAlarm, leakageCurrentAlarm, false⟩,
      ⟨0, 0b00100000, .rectifier .tempHeatSinkAlarm, heatsinkTempAlarm, false⟩,
      ⟨0, 0b01000000, .rectifier .tempWaterAlarm, waterTempAlarm, false⟩,
      ⟨0, 0b10000000, .rectifier .tempModule1Alarm, rectfier1TempAlarm, false⟩,
      ⟨1, 0b00000001, .rectifier .tempModule2Alarm, rectfier2TempAlarm, false⟩,
      ⟨1, 0b00000010, .rectifier .tempL1Alarm, l1TempAlarm, false⟩,
      ⟨1, 0b00000100, .rectifier .tempL2Alarm, l2TempAlarm, false⟩,
      ⟨1, 0b00001000, .rectifier .relativeHumidityAlarm, humidityAlarm, false⟩]
  | .facFullAcdc10kHz, 4 =>
    [⟨4, 0b00000001, .buck .iin1AlarmSts, inCurrentAlarm, false⟩,
      ⟨4, 0b00000010, .buck .iin2AlarmSts, inCurrentAlarm, false⟩,
      ⟨4, 0b00000100, .buck .iout1AlarmSts, out1CurrentAlarm, false⟩,
      ⟨4, 0b00001000, .buck .iout2AlarmSts, out2CurrentAlarm, false⟩,
      ⟨4, 0b00010000, .buck .tempL1AlarmSts, l1TempAlarm, true⟩,
      ⟨4, 0b00100000, .buck .tempL2AlarmSts, l2TempAlarm, true⟩,
      ⟨4, 0b01000000, .buck .relativeHumidityAlarm, humidityAlarm, false⟩]
  | .facFullDcdc20kHz, 2 =>
    [⟨4, 0b00000001, .mod1Q4 .ioutAlarmSts, out1CurrentAlarm, false⟩,
      ⟨4, 0b00000010, .mod1Q4 .tempIGBT1AlarmSts, igbt1TempAlarm, false⟩,
      ⟨4, 0b00000100, .mod1Q4 .tempIGBT2AlarmSts, igbt2TempAlarm, false⟩,
      ⟨4, 0b00001000, .mod1Q4 .relativeHumidityAlarm, humidityAlarm, false⟩]
  | .facFullDcdc20kHz, 4 =>
    [⟨4, 0b00000001, .mod2Q4 .ioutAlarmSts, out1CurrentAlarm, false⟩,
      ⟨4, 0b00000010, .mod2Q4 .tempIGBT1AlarmSts, igbt1TempAlarm, false⟩,
      ⟨4, 0b00000100, .mod2Q4 .tempIGBT2AlarmSts, igbt2TempAlarm, false⟩,
      ⟨4, 0b00001000, .mod2Q4 .relativeHumidityAlarm, humidityAlarm, false⟩]
  | _, _ => []

/-- The interlock blocks that follow them. -/
def itlkBlocks : CanModel → Nat → List ItlkBlock
  | .fapDcdc20kHz, 4 =>
    [⟨4, 0b00000001, .mod1Q1 .voutItlkSts, .hard outOvervoltage, true⟩,
      ⟨4, 0b00000010, .mod1Q1 .vinItlkSts, .hard inOvervoltage, true⟩,
      ⟨4, 0b00000100, .mod1Q1 .ioutA1ItlkSts, .hard arm1Overcurrent, true⟩,
      ⟨4, 0b00001000, .mod1Q1 .ioutA2ItlkSts, .hard arm2Overcurrent, true⟩,
      ⟨4, 0b00010000, .mod1Q1 .iinItlkSts, .hard inOvercurrent, true⟩,
      ⟨4, 0b00100000, .mod1Q1 .tempIGBT1ItlkSts, .soft igbt1Overtemp, true⟩,
      ⟨4, 0b01000000, .mod1Q1 .tempIGBT2ItlkSts, .soft igbt2Overtemp, true⟩,
      ⟨4, 0b10000000, .mod1Q1 .tempL1ItlkSts, .soft l1Overtemp, true⟩,
      ⟨5, 0b00000001, .mod1Q1 .tempL2ItlkSts, .soft l2Overtemp, true⟩,
      ⟨5, 0b00000010, .mod1Q1 .tempHeatSinkItlkSts, .soft heatsinkOvertemp, true⟩,
      ⟨5, 0b00000100, .mod1Q1 .extItlkSts, .hard externalInterlock, true⟩,
      ⟨5, 0b00001000, .mod1Q1 .driver1ErrorItlk, .hard driver1Fault, true⟩,
      ⟨5, 0b00010000, .mod1Q1 .driver2ErrorItlk, .hard driver2Fault, true⟩,
      ⟨5, 0b00100000, .mod1Q1 .relativeHumidityItlk, .soft overHumidityFault, true⟩]
  | .fapAcdc, 5 =>
    [⟨4, 0b00000001, .rectifier .ioutRectf1Itlk, .hard out1Overcurrent, true⟩,
      ⟨4, 0b00000010, .rectifier .ioutRectf2Itlk, .hard out2Overcurrent, true⟩,
      ⟨4, 0b00000100, .rectifier .voutRectf1Itlk, .hard out1Overvoltage, true⟩,
      ⟨4, 0b00001000, .rectifier .voutRectf2Itlk, .hard out1Overvoltage, true⟩,
      ⟨4, 0b00010000, .rectifier .leakageCurrentItlk, .hard leakageOvercurrent, true⟩,
      ⟨4, 0b00100000, .rectifier .tempHeatSinkItlk, .soft heatsinkOvertemp, true⟩,
      ⟨4, 0b01000000, .rectifier .tempWaterItlk, .soft waterOvertemp, true⟩,
      ⟨4, 0b10000000, .rectifier .tempModule1Itlk, .soft rectfier1Overtemp, true⟩,
      ⟨5, 0b00000001, .rectifier .tempModule2Itlk, .soft rectfier2Overtemp, true⟩,
      ⟨5, 0b00000010, .rectifier .tempL1Itlk, .soft l1Overtemp, true⟩,
      ⟨5, 0b00000100, .rectifier .tempL2Itlk, .soft l2Overtemp, true⟩,
      ⟨5, 0b00001000, .rectifier .acPhaseFaultItlk, .hard acFault, true⟩,
      ⟨5, 0b00010000, .rectifier .acOverCurrentItlk, .hard acOvercurrent, true⟩,
      ⟨5, 0b00100000, .rectifier .acTransformerOverTempItlk, .soft acTransfOvertemp, true⟩,
      ⟨5, 0b01000000, .rectifier .waterFluxInterlockItlk, .soft waterFluxFault, true⟩,
      ⟨5, 0b10000000, .rectifier .relativeHumidityItlk, .soft overHumidityFault, true⟩]
  | .facFullAcdc10kHz, 4 =>
    [⟨6, 0b00000001, .buck .iin1ItlkSts, .hard inOvercurrent, false⟩,
      ⟨6, 0b00000010, .buck .iin2ItlkSts, .hard inOvercurrent, false⟩,
      ⟨6, 0b00000100, .buck .iout1ItlkSts, .hard out1Overcurrent, false⟩,
      ⟨6, 0b00001000, .buck .iout2ItlkSts, .hard out2Overcurrent, false⟩,
      ⟨6, 0b00010000, .buck .tempL1ItlkSts, .soft l1Overtemp, false⟩,
      ⟨6, 0b00100000, .buck .tempL2ItlkSts, .soft l2Overtemp, false⟩,
      ⟨6, 0b01000000, .buck .waterFluxInterlockItlk, .soft waterFluxFault, false⟩,
      ⟨6, 0b10000000, .buck .acOverCurrentItlk, .hard acOvercurrent, false⟩,
      ⟨7, 0b00000001, .buck .relativeHumidityItlk, .soft overHumidityFault, false⟩]
  | .facFullDcdc20kHz, 2 =>
    [⟨5, 0b00000001, .mod1Q4 .ioutItlkSts, .hard out1Overcurrent, true⟩,
      ⟨5, 0b00000010, .mod1Q4 .tempIGBT1ItlkSts, .soft igbt1Overtemp, true⟩,
      ⟨5, 0b00000100, .mod1Q4 .tempIGBT2ItlkSts, .soft igbt2Overtemp, true⟩,
      ⟨5, 0b00001000, .mod1Q4 .relativeHumidityItlk, .soft overHumidityFault, true⟩]
  | .facFullDcdc20kHz, 4 =>
    [⟨5, 0b00000001, .mod2Q4 .ioutItlkSts, .hard out1Overcurrent, true⟩,
      ⟨5, 0b00000010, .mod2Q4 .tempIGBT1ItlkSts, .soft igbt1Overtemp, true⟩,
      ⟨5, 0b00000100, .mod2Q4 .tempIGBT2ItlkSts, .soft igbt2Overtemp, true⟩,
      ⟨5, 0b00001000, .mod2Q4 .relativeHumidityItlk, .soft overHumidityFault, true⟩]
  | _, _ => []

/-- The message objects a case of `CanCheck` reads, in order. -/
def CanModel.objects : CanModel → List Nat
  | fapDcdc20kHz => [1, 2, 3, 4, 5]
  | fapAcdc => [1, 2, 3, 4, 5, 6]
  | facFullAcdc10kHz => [1, 2, 3, 4]
  | facFullDcdc20kHz => [1, 2, 3, 4]

/-! ## The functions -/

namespace Can

variable (s : Can)

/-- `CANMessageGet` and what is made of the frame. -/
def decode (k : Nat) (f : CanFrame) : Can :=
  let s := (alarmBlocks s.model k).foldl (AlarmBlock.run f.data) s
  let s := (itlkBlocks s.model k).foldl (ItlkBlock.run f.data) s
  { s with decoded := s.decoded ++ [(k, f)] }

/-- `if(g_bRXFlagk) { .. g_bRXFlagk = 0; }` -/
def checkObject (k : Nat) : Can :=
  if s.rxFlag k then
    let s := s.decode k (s.object k)
    { s with rxFlag := Function.update s.rxFlag k false }
  else s

def canCheck : Can := s.model.objects.foldl checkObject s

def canMessageSet (k : Nat) (id : UInt32) : Can := { s with filter := Function.update s.filter k (some id) }

end Can

/-- The objects a case of `InitCanBkp` sets, and their identifiers. -/
def CanModel.filters : CanModel → List (Nat × UInt32)
  | fapDcdc20kHz => [(1, 0x010), (2, 0x011), (3, 0x012), (4, 0x013), (5, 0x01F)]
  | fapAcdc => [(1, 0x010), (2, 0x011), (3, 0x012), (4, 0x013), (5, 0x014), (6, 0x01F)]
  | facFullAcdc10kHz => [(1, 0x010), (2, 0x011), (3, 0x012), (4, 0x013)]
  | facFullDcdc20kHz => [(1, 0x010), (2, 0x011), (3, 0x020), (4, 0x021)]

namespace Can

variable (s : Can)

def setFilters (model : CanModel) : Can := model.filters.foldl (fun s kid => s.canMessageSet kid.1 kid.2) s

/-- The case of `FAC_Full_ACDC_10kHz` goes on into the next one. -/
def initCanBkp : Can :=
  match s.model with
  | .facFullAcdc10kHz => (s.setFilters .facFullAcdc10kHz).setFilters .facFullDcdc20kHz
  | model => s.setFilters model

/-- The object that takes a frame: of the 32, the first with its identifier. -/
def accepts (id : UInt32) : Option Nat := (List.range' 1 32).find? fun k => s.filter k = some id

/-- A frame arrives, and `CANIntHandler` notes it. The objects are set up with `MSG_OBJ_FIFO`;
one that takes no frame over another is a run without that frame. -/
def receive (f : CanFrame) : Can :=
  match s.accepts f.id with
  | some k =>
    { s with
      object := Function.update s.object k f
      rxFlag := Function.update s.rxFlag k true }
  | none => s

def sendIpcFlag (flag : UInt32) : Can := { s with sent := s.sent ++ [flag] }

def alarmStatusClear : Can := { s with psModuleAlarms := 0 }

/-- The fields that `InterlockStatusClear` assigns 0. -/
def clearedFields : List Status :=
  [.mod1Q1 .driver1ErrorItlk, .mod1Q1 .driver2ErrorItlk, .mod1Q1 .extItlkSts, .mod1Q1 .iinItlkSts,
    .mod1Q1 .ioutA1ItlkSts, .mod1Q1 .ioutA2ItlkSts, .mod1Q1 .relativeHumidityItlk,
    .mod1Q1 .tempHeatSinkItlkSts, .mod1Q1 .tempIGBT1ItlkSts, .mod1Q1 .tempIGBT2ItlkSts,
    .mod1Q1 .tempL1ItlkSts, .mod1Q1 .tempL2ItlkSts, .mod1Q1 .vinItlkSts, .mod1Q1 .voutItlkSts,
    .mod2Q1 .driver1ErrorItlk, .mod2Q1 .driver2ErrorItlk, .mod2Q1 .extItlkSts, .mod2Q1 .iinItlkSts,
    .mod2Q1 .ioutA1ItlkSts, .mod2Q1 .ioutA2ItlkSts, .mod2Q1 .relativeHumidityItlk,
    .mod2Q1 .tempHeatSinkItlkSts, .mod2Q1 .tempIGBT1ItlkSts, .mod2Q1 .tempIGBT2ItlkSts,
    .mod2Q1 .tempL1ItlkSts, .mod2Q1 .tempL2ItlkSts, .mod2Q1 .vinItlkSts, .mod2Q1 .voutItlkSts,
    .mod1Q4 .ioutAlarmSts, .mod1Q4 .ioutItlkSts, .mod1Q4 .relativeHumidityAlarm,
    .mod1Q4 .relativeHumidityItlk, .mod1Q4 .tempIGBT1AlarmSts, .mod1Q4 .tempIGBT1ItlkSts,
    .mod1Q4 .tempIGBT2AlarmSts, .mod1Q4 .tempIGBT2ItlkSts, .mod2Q4 .ioutAlarmSts, .mod2Q4 .ioutItlkSts,
    .mod2Q4 .relativeHumidityAlarm, .mod2Q4 .relativeHumidityItlk, .mod2Q4 .tempIGBT1AlarmSts,
    .mod2Q4 .tempIGBT1ItlkSts, .mod2Q4 .tempIGBT2AlarmSts, .mod2Q4 .tempIGBT2ItlkSts,
    .buck .acOverCurrentItlk, .buck .iin1AlarmSts, .buck .iin1ItlkSts, .buck .iin2AlarmSts,
    .buck .iin2ItlkSts, .buck .iout1AlarmSts, .buck .iout1ItlkSts, .buck .iout2AlarmSts,
    .buck .iout2ItlkSts, .rectifier .acOverCurrentItlk, .rectifier .acPhaseFaultItlk,
    .rectifier .acTransformerOverTempItlk, .rectifier .ioutRectf1Itlk, .rectifier .ioutRectf2Itlk,
    .rectifier .leakageCurrentItlk, .rectifier .relativeHumidityItlk, .rectifier .tempHeatSinkItlk,
    .rectifier .tempL1Itlk, .rectifier .tempL2Itlk, .rectifier .tempModule1Itlk,
    .rectifier .tempModule2Itlk, .rectifier .tempWaterItlk, .rectifier .voutRectf1Itlk,
    .rectifier .voutRectf2Itlk, .rectifier .waterFluxInterlockItlk]

def interlockStatusClear : Can :=
  { s with status := fun field => if field ∈ clearedFields then false else s.status field }

/-- `InterlockAlarmReset`. The reset message on the bus is left out. -/
def interlockAlarmReset : Can :=
  let s := s.sendIpcFlag resetInterlocks
  let s := { s with softInterlocks := 0, hardInterlocks := 0 }
  s.alarmStatusClear.interlockStatusClear

/-- At power-up, before `InitCanBkp`. -/
def powerUp (model : CanModel) : Can where
  model := model
  filter _ := none
  object _ := ⟨0, fun _ => 0⟩
  rxFlag _ := false
  status _ := false
  psModuleAlarms := 0
  hardInterlocks := 0
  softInterlocks := 0
  sent := []
  decoded := []

end Can

inductive CanEvent
  | frame (f : CanFrame)
  | canCheck
  | interlockAlarmReset
  | alarmStatusClear

def Can.step (s : Can) : CanEvent → Can
  | .frame f => s.receive f
  | .canCheck => s.canCheck
  | .interlockAlarmReset => s.interlockAlarmReset
  | .alarmStatusClear => s.alarmStatusClear

end UdcFirmware.Drivers
