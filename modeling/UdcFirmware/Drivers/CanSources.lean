/-
Alarms and interlocks by name.

A byte of a frame has a bit for each of some status fields, the lowest first
(`alarmSources`, `itlkSources`). `can_bkp.c` and `ipc_lib.h` have a bit for each
quantity, and the names of the fields say which one is theirs (`Status.ownAlarm`,
`Status.ownFault`): the sources are for all fields of the model's modules that are
named after a bit (`alarm_covers`, `itlk_covers`). The blocks of `CanCheck` are
about these sources, and raise these bits but for one alarm and two interlocks
(`own_alarm`, `own_fault`).
-/
import UdcFirmware.Drivers.Can

namespace UdcFirmware.Drivers

/-! ## The bits of the frames -/

/-- A bit of a frame, and the status field it is for. -/
structure Source where
  byte : Fin 8
  mask : UInt8
  field : Status
  deriving DecidableEq

def Source.active (src : Source) (data : Fin 8 → UInt8) : Bool := data src.byte &&& src.mask ≠ 0

/-- The fields that a byte tells of, the lowest bit first. -/
def byteSources (byte : Fin 8) (fields : List Status) : List Source :=
  fields.zipWith (fun field mask => ⟨byte, mask, field⟩)
    [0b00000001, 0b00000010, 0b00000100, 0b00001000, 0b00010000, 0b00100000, 0b01000000, 0b10000000]

def Q4Status.alarms : List Q4Status :=
  [ioutAlarmSts, tempIGBT1AlarmSts, tempIGBT2AlarmSts, relativeHumidityAlarm]

def Q4Status.itlks : List Q4Status :=
  [ioutItlkSts, tempIGBT1ItlkSts, tempIGBT2ItlkSts, relativeHumidityItlk]

/-- The alarms that the frame of an object tells of. -/
def alarmSources : CanModel → Nat → List Source
  | .fapDcdc20kHz, 4 =>
    byteSources 0 [.mod1Q1 .voutAlarmSts, .mod1Q1 .vinAlarmSts, .mod1Q1 .ioutA1AlarmSts,
      .mod1Q1 .ioutA2AlarmSts, .mod1Q1 .iinAlarmSts, .mod1Q1 .tempIGBT1AlarmSts,
      .mod1Q1 .tempIGBT2AlarmSts, .mod1Q1 .tempL1AlarmSts] ++
    byteSources 1 [.mod1Q1 .tempL2AlarmSts, .mod1Q1 .tempHeatSinkAlarmSts, .mod1Q1 .relativeHumidityAlarm]
  | .fapAcdc, 5 =>
    byteSources 0 [.rectifier .ioutRectf1Alarm, .rectifier .ioutRectf2Alarm, .rectifier .voutRectf1Alarm,
      .rectifier .voutRectf2Alarm, .rectifier .leakageCurrentAlarm, .rectifier .tempHeatSinkAlarm,
      .rectifier .tempWaterAlarm, .rectifier .tempModule1Alarm] ++
    byteSources 1 [.rectifier .tempModule2Alarm, .rectifier .tempL1Alarm, .rectifier .tempL2Alarm,
      .rectifier .relativeHumidityAlarm]
  | .facFullAcdc10kHz, 4 =>
    byteSources 4 [.buck .iin1AlarmSts, .buck .iin2AlarmSts, .buck .iout1AlarmSts, .buck .iout2AlarmSts,
      .buck .tempL1AlarmSts, .buck .tempL2AlarmSts, .buck .relativeHumidityAlarm]
  | .facFullDcdc20kHz, 2 => byteSources 4 (Q4Status.alarms.map .mod1Q4)
  | .facFullDcdc20kHz, 4 => byteSources 4 (Q4Status.alarms.map .mod2Q4)
  | _, _ => []

/-- And the interlocks. -/
def itlkSources : CanModel → Nat → List Source
  | .fapDcdc20kHz, 4 =>
    byteSources 4 [.mod1Q1 .voutItlkSts, .mod1Q1 .vinItlkSts, .mod1Q1 .ioutA1ItlkSts, .mod1Q1 .ioutA2ItlkSts,
      .mod1Q1 .iinItlkSts, .mod1Q1 .tempIGBT1ItlkSts, .mod1Q1 .tempIGBT2ItlkSts, .mod1Q1 .tempL1ItlkSts] ++
    byteSources 5 [.mod1Q1 .tempL2ItlkSts, .mod1Q1 .tempHeatSinkItlkSts, .mod1Q1 .extItlkSts,
      .mod1Q1 .driver1ErrorItlk, .mod1Q1 .driver2ErrorItlk, .mod1Q1 .relativeHumidityItlk]
  | .fapAcdc, 5 =>
    byteSources 4 [.rectifier .ioutRectf1Itlk, .rectifier .ioutRectf2Itlk, .rectifier .voutRectf1Itlk,
      .rectifier .voutRectf2Itlk, .rectifier .leakageCurrentItlk, .rectifier .tempHeatSinkItlk,
      .rectifier .tempWaterItlk, .rectifier .tempModule1Itlk] ++
    byteSources 5 [.rectifier .tempModule2Itlk, .rectifier .tempL1Itlk, .rectifier .tempL2Itlk,
      .rectifier .acPhaseFaultItlk, .rectifier .acOverCurrentItlk, .rectifier .acTransformerOverTempItlk,
      .rectifier .waterFluxInterlockItlk, .rectifier .relativeHumidityItlk]
  | .facFullAcdc10kHz, 4 =>
    byteSources 6 [.buck .iin1ItlkSts, .buck .iin2ItlkSts, .buck .iout1ItlkSts, .buck .iout2ItlkSts,
      .buck .tempL1ItlkSts, .buck .tempL2ItlkSts, .buck .waterFluxInterlockItlk, .buck .acOverCurrentItlk] ++
    byteSources 7 [.buck .relativeHumidityItlk]
  | .facFullDcdc20kHz, 2 => byteSources 5 (Q4Status.itlks.map .mod1Q4)
  | .facFullDcdc20kHz, 4 => byteSources 5 (Q4Status.itlks.map .mod2Q4)
  | _, _ => []

def AlarmBlock.source (b : AlarmBlock) : Source := ⟨b.byte, b.mask, b.field⟩

def ItlkBlock.source (b : ItlkBlock) : Source := ⟨b.byte, b.mask, b.field⟩

/-- The blocks of `CanCheck` are about the sources, one each. -/
theorem alarmSources_eq (model : CanModel) (k : Nat) :
    alarmSources model k = (alarmBlocks model k).map AlarmBlock.source := by
  unfold alarmSources
  split
  · rfl
  · rfl
  · rfl
  · rfl
  · rfl
  · unfold alarmBlocks
    split <;> first | rfl | contradiction

theorem itlkSources_eq (model : CanModel) (k : Nat) :
    itlkSources model k = (itlkBlocks model k).map ItlkBlock.source := by
  unfold itlkSources
  split
  · rfl
  · rfl
  · rfl
  · rfl
  · rfl
  · unfold itlkBlocks
    split <;> first | rfl | contradiction

theorem itlkSources_object {model : CanModel} {k : Nat} {src : Source} (h : src ∈ itlkSources model k) :
    k ∈ model.objects := by
  unfold itlkSources at h
  split at h <;> first | decide | cases h

/-! ## What the names say -/

def Q1Status.ownFault : Q1Status → Option FaultBit
  | voutItlkSts => some (.hard outOvervoltage)
  | vinItlkSts => some (.hard inOvervoltage)
  | ioutA1ItlkSts => some (.hard arm1Overcurrent)
  | ioutA2ItlkSts => some (.hard arm2Overcurrent)
  | iinItlkSts => some (.hard inOvercurrent)
  | tempIGBT1ItlkSts => some (.soft igbt1Overtemp)
  | tempIGBT2ItlkSts => some (.soft igbt2Overtemp)
  | tempL1ItlkSts => some (.soft l1Overtemp)
  | tempL2ItlkSts => some (.soft l2Overtemp)
  | tempHeatSinkItlkSts => some (.soft heatsinkOvertemp)
  | extItlkSts => some (.hard externalInterlock)
  | driver1ErrorItlk => some (.hard driver1Fault)
  | driver2ErrorItlk => some (.hard driver2Fault)
  | relativeHumidityItlk => some (.soft overHumidityFault)
  | _ => none

def RectStatus.ownFault : RectStatus → Option FaultBit
  | ioutRectf1Itlk => some (.hard out1Overcurrent)
  | ioutRectf2Itlk => some (.hard out2Overcurrent)
  | voutRectf1Itlk => some (.hard out1Overvoltage)
  | voutRectf2Itlk => some (.hard out2Overvoltage)
  | leakageCurrentItlk => some (.hard leakageOvercurrent)
  | tempHeatSinkItlk => some (.soft heatsinkOvertemp)
  | tempWaterItlk => some (.soft waterOvertemp)
  | tempModule1Itlk => some (.soft rectfier1Overtemp)
  | tempModule2Itlk => some (.soft rectfier2Overtemp)
  | tempL1Itlk => some (.soft l1Overtemp)
  | tempL2Itlk => some (.soft l2Overtemp)
  | acPhaseFaultItlk => some (.hard acFault)
  | acOverCurrentItlk => some (.hard acOvercurrent)
  | acTransformerOverTempItlk => some (.soft acTransfOvertemp)
  | waterFluxInterlockItlk => some (.soft waterFluxFault)
  | relativeHumidityItlk => some (.soft overHumidityFault)
  | _ => none

def BuckStatus.ownFault : BuckStatus → Option FaultBit
  | iin1ItlkSts => some (.hard inOvercurrent)
  | iin2ItlkSts => some (.hard inOvercurrent)
  | iout1ItlkSts => some (.hard out1Overcurrent)
  | iout2ItlkSts => some (.hard out2Overcurrent)
  | tempL1ItlkSts => some (.soft l1Overtemp)
  | tempL2ItlkSts => some (.soft l2Overtemp)
  | waterFluxInterlockItlk => some (.soft waterFluxFault)
  | acOverCurrentItlk => some (.hard acOvercurrent)
  | relativeHumidityItlk => some (.soft overHumidityFault)
  | _ => none

/-- `iout` is the bit of the module's output. -/
def Q4Status.ownFault (iout : UInt32) : Q4Status → Option FaultBit
  | ioutItlkSts => some (.hard iout)
  | tempIGBT1ItlkSts => some (.soft igbt1Overtemp)
  | tempIGBT2ItlkSts => some (.soft igbt2Overtemp)
  | relativeHumidityItlk => some (.soft overHumidityFault)
  | _ => none

/-- The fault bit that an interlock field is named after. -/
def Status.ownFault : Status → Option FaultBit
  | mod1Q1 field => field.ownFault
  | mod2Q1 field => field.ownFault
  | rectifier field => field.ownFault
  | buck field => field.ownFault
  | mod1Q4 field => field.ownFault out1Overcurrent
  | mod2Q4 field => field.ownFault out2Overcurrent

def Q1Status.ownAlarm : Q1Status → Option UInt32
  | voutAlarmSts => some outVoltageAlarm
  | vinAlarmSts => some inVoltageAlarm
  | ioutA1AlarmSts => some arm1CurrentAlarm
  | ioutA2AlarmSts => some arm2CurrentAlarm
  | iinAlarmSts => some inCurrentAlarm
  | tempIGBT1AlarmSts => some igbt1TempAlarm
  | tempIGBT2AlarmSts => some igbt2TempAlarm
  | tempL1AlarmSts => some l1TempAlarm
  | tempL2AlarmSts => some l2TempAlarm
  | tempHeatSinkAlarmSts => some heatsinkTempAlarm
  | relativeHumidityAlarm => some humidityAlarm
  | _ => none

def RectStatus.ownAlarm : RectStatus → Option UInt32
  | ioutRectf1Alarm => some out1CurrentAlarm
  | ioutRectf2Alarm => some out2CurrentAlarm
  | voutRectf1Alarm => some out1VoltageAlarm
  | voutRectf2Alarm => some out2VoltageAlarm
  | leakageCurrentAlarm => some Drivers.leakageCurrentAlarm
  | tempHeatSinkAlarm => some heatsinkTempAlarm
  | tempWaterAlarm => some waterTempAlarm
  | tempModule1Alarm => some rectfier1TempAlarm
  | tempModule2Alarm => some rectfier2TempAlarm
  | tempL1Alarm => some l1TempAlarm
  | tempL2Alarm => some l2TempAlarm
  | relativeHumidityAlarm => some humidityAlarm
  | _ => none

def BuckStatus.ownAlarm : BuckStatus → Option UInt32
  | iin1AlarmSts => some inCurrentAlarm
  | iin2AlarmSts => some inCurrentAlarm
  | iout1AlarmSts => some out1CurrentAlarm
  | iout2AlarmSts => some out2CurrentAlarm
  | tempL1AlarmSts => some l1TempAlarm
  | tempL2AlarmSts => some l2TempAlarm
  | relativeHumidityAlarm => some humidityAlarm
  | _ => none

def Q4Status.ownAlarm (iout : UInt32) : Q4Status → Option UInt32
  | ioutAlarmSts => some iout
  | tempIGBT1AlarmSts => some igbt1TempAlarm
  | tempIGBT2AlarmSts => some igbt2TempAlarm
  | relativeHumidityAlarm => some humidityAlarm
  | _ => none

/-- The bit of `PSModuleAlarms` that an alarm field is named after. -/
def Status.ownAlarm : Status → Option UInt32
  | mod1Q1 field => field.ownAlarm
  | mod2Q1 field => field.ownAlarm
  | rectifier field => field.ownAlarm
  | buck field => field.ownAlarm
  | mod1Q4 field => field.ownAlarm out1CurrentAlarm
  | mod2Q4 field => field.ownAlarm out2CurrentAlarm

/-- The field is one of a module of the model. -/
def CanModel.Has : CanModel → Status → Bool
  | fapDcdc20kHz, .mod1Q1 _ => true
  | fapAcdc, .rectifier _ => true
  | facFullAcdc10kHz, .buck _ => true
  | facFullDcdc20kHz, .mod1Q4 _ => true
  | facFullDcdc20kHz, .mod2Q4 _ => true
  | _, _ => false

/-- The sources are for all fields of the model's modules that are `named` after a bit. -/
def CanModel.Covers (model : CanModel) (sources : CanModel → Nat → List Source) (named : Status → Bool) : Prop :=
  ∀ field, model.Has field ∧ named field ↔ ∃ k ∈ model.objects, ∃ src ∈ sources model k, src.field = field

theorem CanModel.Covers.of_fields {model : CanModel} {sources : CanModel → Nat → List Source}
    {named : Status → Bool}
    (hall : ∀ field, model.Has field → named field → ∃ k ∈ model.objects, ∃ src ∈ sources model k, src.field = field)
    (hown : ∀ k ∈ model.objects, ∀ src ∈ sources model k, model.Has src.field ∧ named src.field) :
    model.Covers sources named := by
  refine fun field => ⟨fun h => hall field h.1 h.2, ?_⟩
  rintro ⟨k, hk, src, hsrc, rfl⟩
  exact hown k hk src hsrc

theorem itlk_covers (model : CanModel) : model.Covers itlkSources (·.ownFault.isSome) := by
  refine .of_fields (fun field hhas hnamed => ?_) (by cases model <;> decide +kernel)
  cases model <;> cases field <;> try contradiction
  all_goals
    next field =>
    cases field <;> first | contradiction | decide

theorem alarm_covers (model : CanModel) : model.Covers alarmSources (·.ownAlarm.isSome) := by
  refine .of_fields (fun field hhas hnamed => ?_) (by cases model <;> decide +kernel)
  cases model <;> cases field <;> try contradiction
  all_goals
    next field =>
    cases field <;> first | contradiction | decide

/-! ## Other bits -/

/-- The interlocks whose blocks raise the bit of another one. -/
def CanModel.misnamed : CanModel → List Status
  | fapAcdc => [.rectifier .voutRectf2Itlk]
  | facFullDcdc20kHz => [.mod2Q4 .ioutItlkSts]
  | _ => []

theorem own_fault (model : CanModel) : ∀ k ∈ model.objects, ∀ b ∈ itlkBlocks model k,
    b.field.ownFault = some b.fault ∨ b.field ∈ model.misnamed := by
  cases model <;> decide +kernel

/-- No block of the model raises the bits that they are named after. -/
theorem misnamed_bits {model : CanModel} {field : Status} (h : field ∈ model.misnamed) :
    ∃ bits, field.ownFault = some (.hard bits) ∧ bits ≠ 0 ∧
      ∀ k ∈ model.objects, ∀ b ∈ itlkBlocks model k, b.fault.hardBits &&& bits = 0 := by
  cases model with
  | fapAcdc =>
    rw [List.mem_singleton.mp h]
    exact ⟨out2Overvoltage, rfl, by decide, by decide +kernel⟩
  | facFullDcdc20kHz =>
    rw [List.mem_singleton.mp h]
    exact ⟨out2Overcurrent, rfl, by decide, by decide +kernel⟩
  | fapDcdc20kHz => cases h
  | facFullAcdc10kHz => cases h

/-- The alarm whose block does. -/
theorem own_alarm (model : CanModel) : ∀ k ∈ model.objects, ∀ b ∈ alarmBlocks model k,
    b.field.ownAlarm = some b.alarm ∨
      (model = .facFullDcdc20kHz ∧ k = 4 ∧ b.source = ⟨4, 0b00000001, .mod2Q4 .ioutAlarmSts⟩) := by
  cases model <;> decide +kernel

end UdcFirmware.Drivers
