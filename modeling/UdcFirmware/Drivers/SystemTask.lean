/-
The cooperative scheduler of `system_task.c`: `TaskSetNew` sets the flag of
a task, and `TaskCheck` goes down its chain of flags, clears the first one
that is set and calls its handler.

`taskCheck` is one call that nothing interrupts. Interrupt handlers call
`TaskSetNew` between any two statements, so `advance` makes the statements
of `TaskCheck` one by one, and a run is any sequence of them and of
requests. A flag is cleared before its handler is called: a request that
comes in between leaves the flag set for another call.
-/
import UdcFirmware.Lib.Since
import Mathlib.Logic.Function.Iterate
import Mathlib.Data.List.Nodup

namespace UdcFirmware.Drivers

open Histories

/-! ## Tasks and flags -/

/-- `eTask`, in its order. -/
inductive ETask
  | sampleRtc | clearItlkAlarm | processDisplayMessage | processEthernetMessage | processCanMessage
  | processRs485Message | processUsb2SerialMessage | processIibMessage | powerTempSample
  | eepromWriteRequestCheck | ledStsTurnOn | ledStsTurnOff | ledItlkTurnOn | ledItlkTurnOff
  | soundItlkTurnOn | soundItlkTurnOff | sampleBoardTemp | rtcTest | exioTest | isoPsTest | loopbackTest
  | adcpTest | rs485Test | flashTest | ramTest | tempSenseTest | bkpI2cTest
  deriving DecidableEq

def ETask.all : List ETask :=
  [.sampleRtc, .clearItlkAlarm, .processDisplayMessage, .processEthernetMessage, .processCanMessage,
    .processRs485Message, .processUsb2SerialMessage, .processIibMessage, .powerTempSample,
    .eepromWriteRequestCheck, .ledStsTurnOn, .ledStsTurnOff, .ledItlkTurnOn, .ledItlkTurnOff,
    .soundItlkTurnOn, .soundItlkTurnOff, .sampleBoardTemp, .rtcTest, .exioTest, .isoPsTest, .loopbackTest,
    .adcpTest, .rs485Test, .flashTest, .ramTest, .tempSenseTest, .bkpI2cTest]

/-- The task of a number. -/
def ETask.ofNum? (taskNum : UInt8) : Option ETask := all[taskNum.toNat]?

def ETask.num (task : ETask) : UInt8 := UInt8.ofNat (all.idxOf task)

/-- The variables that hold a request. -/
inductive Flag
  | readRtc | readIib | itlkAlarmReset | processDispMess | processEthMess | processCanMess
  | processRs485Mess | processUsb2SerialMess | processPowerTempSample | eepromWriteRequest
  | ledStsTurnOnRequest | ledStsTurnOffRequest | ledItlkTurnOnRequest | ledItlkTurnOffRequest
  | soundItlkTurnOnRequest | soundItlkTurnOffRequest | sampleBoardTempRequest | rtcTestRequest
  | exioTestRequest | isoPsTestRequest | loopbackTestRequest | adcpTestRequest | rs485TestRequest
  | flashTestRequest | ramTestRequest | tempSenseTestRequest | bkpI2cTestResquest
  deriving DecidableEq

abbrev Flags := Flag → Bool

/-- The `switch` of `TaskSetNew`. -/
def ETask.flag : ETask → Flag
  | sampleRtc => .readRtc
  | processIibMessage => .readIib
  | clearItlkAlarm => .itlkAlarmReset
  | processDisplayMessage => .processDispMess
  | processEthernetMessage => .processEthMess
  | processCanMessage => .processCanMess
  | processRs485Message => .processRs485Mess
  | processUsb2SerialMessage => .processUsb2SerialMess
  | powerTempSample => .processPowerTempSample
  | eepromWriteRequestCheck => .eepromWriteRequest
  | ledStsTurnOn => .ledStsTurnOnRequest
  | ledStsTurnOff => .ledStsTurnOffRequest
  | ledItlkTurnOn => .ledItlkTurnOnRequest
  | ledItlkTurnOff => .ledItlkTurnOffRequest
  | soundItlkTurnOn => .soundItlkTurnOnRequest
  | soundItlkTurnOff => .soundItlkTurnOffRequest
  | sampleBoardTemp => .sampleBoardTempRequest
  | rtcTest => .rtcTestRequest
  | exioTest => .exioTestRequest
  | isoPsTest => .isoPsTestRequest
  | loopbackTest => .loopbackTestRequest
  | adcpTest => .adcpTestRequest
  | rs485Test => .rs485TestRequest
  | flashTest => .flashTestRequest
  | ramTest => .ramTestRequest
  | tempSenseTest => .tempSenseTestRequest
  | bkpI2cTest => .bkpI2cTestResquest

/-- `TaskSetNew`. Other numbers are ignored, and the result is always 0. -/
def taskSetNew (flags : Flags) (taskNum : UInt8) : Flags × UInt8 :=
  match ETask.ofNum? taskNum with
  | some task => (Function.update flags task.flag true, 0)
  | none => (flags, 0)

/-! ## The chain of `TaskCheck` -/

/-- What a branch of `TaskCheck` does once its flag is cleared. -/
inductive Handler
  | canCheck | usb2SerialProcessData
  /-- The branch of `PROCESS_RS485_MESS` is commented out. -/
  | rs485ProcessData
  /-- The branch of `PROCESS_ETH_MESS` holds a comment only. -/
  | ethernetFunction
  | displayProcessData | rtcReadDataHour
  /-- The call in the branch of `READ_IIB` is commented out. -/
  | rs485BkpTxHandler
  | interlockAlarmReset
  /-- `switch(IPC_MtoC_Msg.PSModule.Model.u16)`. -/
  | powerSupplyTempRead
  | eepromWriteRequestCheck
  | ledStsCtrl (on : Bool) | ledItlkCtrl (on : Bool) | soundSelCtrl (on : Bool)
  | readTemperature | rtcAccessTest | exIoTestRoutine | isoPowerSupplyLoopBackTest | loopBackFunctionTest
  | adcpFunctionTest | rs485Loopbacktest | testFlashRoutine | testRamRoutine | testTempSenseRoutine
  | testI2cBkpRoutine
  deriving DecidableEq

structure Branch where
  tested : Flag
  cleared : Flag
  handler : Handler
  deriving DecidableEq

/-- The `else if` chain. -/
def branches : List Branch :=
  [⟨.processCanMess, .processCanMess, .canCheck⟩,
    ⟨.processUsb2SerialMess, .processUsb2SerialMess, .usb2SerialProcessData⟩,
    ⟨.processEthMess, .processEthMess, .ethernetFunction⟩,
    ⟨.processDispMess, .processDispMess, .displayProcessData⟩,
    ⟨.readRtc, .readRtc, .rtcReadDataHour⟩,
    ⟨.readIib, .readIib, .rs485BkpTxHandler⟩,
    ⟨.itlkAlarmReset, .itlkAlarmReset, .interlockAlarmReset⟩,
    ⟨.processPowerTempSample, .processPowerTempSample, .powerSupplyTempRead⟩,
    ⟨.eepromWriteRequest, .eepromWriteRequest, .eepromWriteRequestCheck⟩,
    ⟨.ledStsTurnOnRequest, .ledStsTurnOnRequest, .ledStsCtrl true⟩,
    ⟨.ledStsTurnOffRequest, .ledStsTurnOffRequest, .ledStsCtrl false⟩,
    ⟨.ledItlkTurnOnRequest, .ledItlkTurnOnRequest, .ledItlkCtrl true⟩,
    ⟨.ledItlkTurnOffRequest, .ledItlkTurnOffRequest, .ledItlkCtrl false⟩,
    ⟨.soundItlkTurnOnRequest, .soundItlkTurnOnRequest, .soundSelCtrl true⟩,
    ⟨.soundItlkTurnOffRequest, .soundItlkTurnOffRequest, .soundSelCtrl false⟩,
    ⟨.sampleBoardTempRequest, .sampleBoardTempRequest, .readTemperature⟩,
    ⟨.rtcTestRequest, .rtcTestRequest, .rtcAccessTest⟩,
    ⟨.exioTestRequest, .exioTestRequest, .exIoTestRoutine⟩,
    ⟨.isoPsTestRequest, .isoPsTestRequest, .isoPowerSupplyLoopBackTest⟩,
    ⟨.loopbackTestRequest, .loopbackTestRequest, .loopBackFunctionTest⟩,
    ⟨.adcpTestRequest, .adcpTestRequest, .adcpFunctionTest⟩,
    ⟨.rs485TestRequest, .rs485TestRequest, .rs485Loopbacktest⟩,
    ⟨.flashTestRequest, .flashTestRequest, .testFlashRoutine⟩,
    ⟨.ramTestRequest, .ramTestRequest, .testRamRoutine⟩,
    ⟨.tempSenseTestRequest, .tempSenseTestRequest, .testTempSenseRoutine⟩,
    ⟨.bkpI2cTestResquest, .bkpI2cTestResquest, .testI2cBkpRoutine⟩]

/-- The rest of the chain: the flags it leaves, and the handler it calls. -/
def checkChain : List Branch → Flags → Flags × Option Handler
  | [], flags => (flags, none)
  | b :: rest, flags =>
    if flags b.tested then (Function.update flags b.cleared false, some b.handler)
    else checkChain rest flags

/-- `TaskCheck` without interruption, up to the call of a handler. -/
def taskCheck (flags : Flags) : Flags × Option Handler := checkChain branches flags

/-! ## Statement by statement -/

/-- Where the main loop stands. -/
inductive Pc
  /-- Outside of `TaskCheck`. -/
  | idle
  /-- At the test of the first of these branches. -/
  | test (rest : List Branch)
  /-- The test held: at the assignment. -/
  | clear (b : Branch)
  /-- At the call. -/
  | call (b : Branch)
  /-- In the handler. -/
  | running (h : Handler)

/-- What has happened. -/
inductive Mark
  | requested (task : ETask)
  | entered
  | tested (flag : Flag) (value : Bool)
  | cleared (flag : Flag)
  | started (h : Handler)
  | returned
  deriving DecidableEq

/-- The flags and the main loop. No code reads `log`, the history, oldest first. -/
structure Scheduler where
  flags : Flags
  pc : Pc
  log : List Mark

/-- The next statement of the main loop. -/
def Scheduler.advance (s : Scheduler) : Scheduler :=
  match s.pc with
  | .idle => { s with pc := .test branches, log := s.log ++ [.entered] }
  | .test [] => { s with pc := .idle, log := s.log ++ [.returned] }
  | .test (b :: rest) =>
    { s with
      pc := if s.flags b.tested then .clear b else .test rest
      log := s.log ++ [.tested b.tested (s.flags b.tested)] }
  | .clear b =>
    { flags := Function.update s.flags b.cleared false, pc := .call b, log := s.log ++ [.cleared b.cleared] }
  | .call b => { s with pc := .running b.handler, log := s.log ++ [.started b.handler] }
  | .running _ => { s with pc := .idle, log := s.log ++ [.returned] }

/-- `TaskSetNew`, called by an interrupt handler or a task handler. -/
def Scheduler.request (s : Scheduler) (taskNum : UInt8) : Scheduler :=
  { s with
    flags := (taskSetNew s.flags taskNum).1
    log := s.log ++ ((ETask.ofNum? taskNum).map Mark.requested).toList }

inductive SchedulerEvent
  | request (taskNum : UInt8)
  | advance

def Scheduler.step (s : Scheduler) : SchedulerEvent → Scheduler
  | .request taskNum => s.request taskNum
  | .advance => s.advance

def Scheduler.init : Scheduler := { flags := fun _ => false, pc := .idle, log := [] }

/-- The scheduler after a sequence of events, from power-up on. -/
def Scheduler.run (evs : List SchedulerEvent) : Scheduler := evs.foldl step init

/-! ## Tasks and their handlers -/

/-- What a task is for. -/
def ETask.handler : ETask → Handler
  | sampleRtc => .rtcReadDataHour
  | clearItlkAlarm => .interlockAlarmReset
  | processDisplayMessage => .displayProcessData
  | processEthernetMessage => .ethernetFunction
  | processCanMessage => .canCheck
  | processRs485Message => .rs485ProcessData
  | processUsb2SerialMessage => .usb2SerialProcessData
  | processIibMessage => .rs485BkpTxHandler
  | powerTempSample => .powerSupplyTempRead
  | eepromWriteRequestCheck => .eepromWriteRequestCheck
  | ledStsTurnOn => .ledStsCtrl true
  | ledStsTurnOff => .ledStsCtrl false
  | ledItlkTurnOn => .ledItlkCtrl true
  | ledItlkTurnOff => .ledItlkCtrl false
  | soundItlkTurnOn => .soundSelCtrl true
  | soundItlkTurnOff => .soundSelCtrl false
  | sampleBoardTemp => .readTemperature
  | rtcTest => .rtcAccessTest
  | exioTest => .exIoTestRoutine
  | isoPsTest => .isoPowerSupplyLoopBackTest
  | loopbackTest => .loopBackFunctionTest
  | adcpTest => .adcpFunctionTest
  | rs485Test => .rs485Loopbacktest
  | flashTest => .testFlashRoutine
  | ramTest => .testRamRoutine
  | tempSenseTest => .testTempSenseRoutine
  | bkpI2cTest => .testI2cBkpRoutine

/-- The tasks that have a handler, the most urgent first. -/
def byPriority : List ETask :=
  [.processCanMessage, .processUsb2SerialMessage, .processEthernetMessage, .processDisplayMessage,
    .sampleRtc, .processIibMessage, .clearItlkAlarm, .powerTempSample, .eepromWriteRequestCheck,
    .ledStsTurnOn, .ledStsTurnOff, .ledItlkTurnOn, .ledItlkTurnOff, .soundItlkTurnOn, .soundItlkTurnOff,
    .sampleBoardTemp, .rtcTest, .exioTest, .isoPsTest, .loopbackTest, .adcpTest, .rs485Test, .flashTest,
    .ramTest, .tempSenseTest, .bkpI2cTest]

/-- The branch a task should have: its flag, cleared, and its handler. -/
def ETask.branch (task : ETask) : Branch := ⟨task.flag, task.flag, task.handler⟩

/-- Every branch of the chain is the right one for its task. -/
theorem branches_eq : branches = byPriority.map ETask.branch := rfl

theorem mem_byPriority (task : ETask) : task ∈ byPriority ↔ task ≠ .processRs485Message := by
  cases task <;> decide

theorem byPriority_nodup : byPriority.Nodup := by decide

theorem ETask.mem_all (task : ETask) : task ∈ all := by cases task <;> decide

theorem ETask.flag_injective : Function.Injective flag := by
  have hall : ∀ a ∈ all, ∀ b ∈ all, flag a = flag b → a = b := by decide
  intro a b h
  exact hall a a.mem_all b b.mem_all h

/-- No two tasks share a flag. -/
theorem update_flag (flags : Flags) (task other : ETask) (v : Bool) :
    Function.update flags task.flag v other.flag = if other = task then v else flags other.flag := by
  by_cases h : other = task
  · subst h
    simp
  · rw [Function.update_of_ne (fun he => h (ETask.flag_injective he)), if_neg h]

theorem ETask.handler_injective : Function.Injective handler := by
  have hall : ∀ a ∈ all, ∀ b ∈ all, handler a = handler b → a = b := by decide
  intro a b h
  exact hall a a.mem_all b b.mem_all h

/-- A task's own number sets its flag. -/
theorem taskSetNew_num (flags : Flags) (task : ETask) :
    (taskSetNew flags task.num).1 = Function.update flags task.flag true := by
  cases task <;> rfl

/-- No flag is cleared by a request. -/
theorem taskSetNew_keeps {flags : Flags} {flag : Flag} (h : flags flag = true) (taskNum : UInt8) :
    (taskSetNew flags taskNum).1 flag = true := by
  unfold taskSetNew
  split
  · next task _ =>
    by_cases hflag : flag = task.flag
    · rw [hflag]
      exact Function.update_self ..
    · exact (Function.update_of_ne hflag ..).trans h
  · exact h

/-! ## The history -/

/-- The task has been requested since its flag was last cleared. -/
def Pending (task : ETask) (log : List Mark) : Prop :=
  Since (· = .requested task) (· = .cleared task.flag) log

/-- What the main loop did, without the requests. -/
def own (log : List Mark) : List Mark :=
  log.filter fun m => match m with
    | .requested _ => false
    | _ => true

@[simp] theorem own_nil : own [] = [] := rfl

@[simp] theorem own_append (l l' : List Mark) : own (l ++ l') = own l ++ own l' := List.filter_append ..

@[simp] theorem own_requested (task : ETask) : own [.requested task] = [] := rfl

/-- Within one `TaskCheck`, the flags of all more urgent tasks were tested and
not set, that of `task` was tested and set, and has been cleared. -/
def Dispatched (task : ETask) (log : List Mark) : Prop :=
  ∃ l seg higher lower, log = l ++ .entered :: seg ∧ byPriority = higher ++ task :: lower ∧
    own seg = higher.map (fun t => .tested t.flag false) ++ [.tested task.flag true, .cleared task.flag]

/-- What the history says of where the main loop stands. -/
def Pc.At (log : List Mark) : Pc → Prop
  | .idle => True
  | .test rest => ∃ l seg higher lower, log = l ++ .entered :: seg ∧ byPriority = higher ++ lower ∧
      rest = lower.map ETask.branch ∧ own seg = higher.map fun t => .tested t.flag false
  | .clear b => ∃ l seg higher task lower, log = l ++ .entered :: seg ∧ byPriority = higher ++ task :: lower ∧
      b = task.branch ∧ own seg = higher.map (fun t => .tested t.flag false) ++ [.tested task.flag true]
  | .call b => ∃ task, b = task.branch ∧ Dispatched task log
  | .running _ => True

/-- What comes after the flag of `task` is cleared, requests apart: first the
start of its handler, and until then the main loop stands at that call. -/
def Served (task : ETask) (pc : Pc) (marks : List Mark) : Prop :=
  own marks = [] ∧ pc = .call task.branch ∨ ∃ rest, own marks = .started task.handler :: rest

structure Scheduler.Inv (s : Scheduler) : Prop where
  flags : ∀ task, s.flags (ETask.flag task) = true ↔ Pending task s.log
  tests : ∀ l₁ (task : ETask) v l₂, s.log = l₁ ++ .tested task.flag v :: l₂ → (v = true ↔ Pending task l₁)
  starts : ∀ l₁ h l₂, s.log = l₁ ++ .started h :: l₂ → ∃ task, ETask.handler task = h ∧ Dispatched task l₁
  clears : ∀ l₁ flag l₂, s.log = l₁ ++ .cleared flag :: l₂ → ∃ task, ETask.flag task = flag ∧ Served task s.pc l₂
  pc : s.pc.At s.log

theorem Scheduler.inv_init : Scheduler.init.Inv where
  flags task := ⟨fun h => Bool.noConfusion h, fun h => absurd h not_since_nil⟩
  tests l₁ task v l₂ h := by simp [init] at h
  starts l₁ h l₂ hl := by simp [init] at hl
  clears l₁ flag l₂ hl := by simp [init] at hl
  pc := trivial

/-- A mark that is neither a request nor a clearing leaves what is pending. -/
theorem pending_concat {log : List Mark} {m : Mark} {task : ETask} (hr : m ≠ .requested task)
    (hc : m ≠ .cleared task.flag) : Pending task (log ++ [m]) ↔ Pending task log := by
  rw [Pending, since_concat]
  simp only [hr, hc, false_or, not_false_eq_true, and_true]
  rfl

/-! ## Every step keeps the invariant -/

/-- The tests in a history that has grown by a mark. -/
theorem Scheduler.Inv.tests_concat {s : Scheduler} (h : s.Inv) {m : Mark}
    (hm : ∀ (task : ETask) v, m = .tested task.flag v → (v = true ↔ Pending task s.log))
    (l₁ : List Mark) (task : ETask) (v : Bool) (l₂ : List Mark)
    (hl : s.log ++ [m] = l₁ ++ .tested task.flag v :: l₂) : v = true ↔ Pending task l₁ := by
  rcases concat_eq_append_cons hl with ⟨l₂', hl', -⟩ | ⟨rfl, he, -⟩
  · exact h.tests l₁ task v l₂' hl'
  · exact hm task v he.symm

/-- The starts in it. -/
theorem Scheduler.Inv.starts_concat {s : Scheduler} (h : s.Inv) {m : Mark}
    (hm : ∀ hd, m = .started hd → ∃ task, ETask.handler task = hd ∧ Dispatched task s.log)
    (l₁ : List Mark) (hd : Handler) (l₂ : List Mark) (hl : s.log ++ [m] = l₁ ++ .started hd :: l₂) :
    ∃ task, ETask.handler task = hd ∧ Dispatched task l₁ := by
  rcases concat_eq_append_cons hl with ⟨l₂', hl', -⟩ | ⟨rfl, he, -⟩
  · exact h.starts l₁ hd l₂' hl'
  · exact hm hd he.symm

theorem Served.request {task : ETask} {pc : Pc} {marks : List Mark} (h : Served task pc marks)
    (other : ETask) : Served task pc (marks ++ [.requested other]) := by
  simpa [Served] using h

/-- A statement of the main loop: at the call it has to be the start. -/
theorem Served.concat {task : ETask} {pc pc' : Pc} {marks : List Mark} {m : Mark} (h : Served task pc marks)
    (hm : pc = .call task.branch → m = .started task.handler) : Served task pc' (marks ++ [m]) := by
  rcases h with ⟨hown, hpc⟩ | ⟨rest, hown⟩
  · rw [hm hpc]
    exact .inr ⟨[], by rw [own_append, hown]; rfl⟩
  · exact .inr ⟨rest ++ own [m], by rw [own_append, hown]; rfl⟩

/-- The clearings in it. -/
theorem Scheduler.Inv.clears_concat {s : Scheduler} (h : s.Inv) {m : Mark} {pc : Pc}
    (hm : ∀ task : ETask, s.pc = .call task.branch → m = .started task.handler)
    (hc : ∀ flag, m = .cleared flag → ∃ task, ETask.flag task = flag ∧ pc = .call task.branch)
    (l₁ : List Mark) (flag : Flag) (l₂ : List Mark) (hl : s.log ++ [m] = l₁ ++ .cleared flag :: l₂) :
    ∃ task, ETask.flag task = flag ∧ Served task pc l₂ := by
  rcases concat_eq_append_cons hl with ⟨l₂, hl', rfl⟩ | ⟨-, he, rfl⟩
  · obtain ⟨task, hf, hserved⟩ := h.clears l₁ flag l₂ hl'
    exact ⟨task, hf, hserved.concat (hm task)⟩
  · obtain ⟨task, hf, hpc⟩ := hc flag he.symm
    exact ⟨task, hf, .inl ⟨rfl, hpc⟩⟩

/-- A statement that changes no flag: its mark has to be right, and what the
history then says of the place. -/
theorem Scheduler.Inv.mark {s : Scheduler} (h : s.Inv) {m : Mark} {pc : Pc}
    (hr : ∀ task, m ≠ .requested task) (hc : ∀ flag, m ≠ .cleared flag)
    (ht : ∀ (task : ETask) v, m = .tested task.flag v → (v = true ↔ Pending task s.log))
    (hs : ∀ hd, m = .started hd → ∃ task, ETask.handler task = hd ∧ Dispatched task s.log)
    (hm : ∀ task : ETask, s.pc = .call task.branch → m = .started task.handler)
    (hpc : pc.At (s.log ++ [m])) : Scheduler.Inv { s with pc, log := s.log ++ [m] } where
  flags task := by rw [h.flags, pending_concat (hr task) (hc task.flag)]
  tests := h.tests_concat ht
  starts := h.starts_concat hs
  clears := h.clears_concat hm fun flag he => absurd he (hc flag)
  pc := hpc

/-- A request leaves the main loop where it is. -/
theorem Pc.At.request {log : List Mark} {pc : Pc} (h : pc.At log) (task : ETask) :
    pc.At (log ++ [.requested task]) := by
  have hown : ∀ seg, own (seg ++ [.requested task]) = own seg := by simp
  cases pc with
  | idle => trivial
  | test rest =>
    obtain ⟨l, seg, higher, lower, hl, hp, hrest, hseg⟩ := h
    exact ⟨l, seg ++ [.requested task], higher, lower, by simp [hl], hp, hrest, by rw [hown, hseg]⟩
  | clear b =>
    obtain ⟨l, seg, higher, t, lower, hl, hp, hb, hseg⟩ := h
    exact ⟨l, seg ++ [.requested task], higher, t, lower, by simp [hl], hp, hb, by rw [hown, hseg]⟩
  | call b =>
    obtain ⟨t, hb, l, seg, higher, lower, hl, hp, hseg⟩ := h
    exact ⟨t, hb, l, seg ++ [.requested task], higher, lower, by simp [hl], hp, by rw [hown, hseg]⟩
  | running hd => trivial

theorem Scheduler.Inv.request {s : Scheduler} (h : s.Inv) (taskNum : UInt8) : (s.request taskNum).Inv := by
  cases hn : ETask.ofNum? taskNum with
  | none =>
    have he : s.request taskNum = s := by simp [Scheduler.request, taskSetNew, hn]
    rw [he]
    exact h
  | some task =>
    have he : s.request taskNum =
        { s with flags := Function.update s.flags task.flag true, log := s.log ++ [.requested task] } := by
      simp [Scheduler.request, taskSetNew, hn]
    rw [he]
    refine ⟨fun other => ?_, h.tests_concat (by simp), h.starts_concat (by simp), fun l₁ flag l₂ hl => ?_,
      h.pc.request task⟩
    case refine_2 =>
      rcases concat_eq_append_cons hl with ⟨l₂, hl', rfl⟩ | ⟨-, he, -⟩
      · obtain ⟨other, hf, hserved⟩ := h.clears l₁ flag l₂ hl'
        exact ⟨other, hf, hserved.request task⟩
      · cases he
    change Function.update s.flags task.flag true other.flag = true ↔ Since _ _ (s.log ++ [_])
    rw [update_flag, since_concat]
    by_cases ho : other = task
    · simp [ho]
    · have hne : Mark.requested task ≠ .requested other := fun hm => ho (Mark.requested.inj hm).symm
      simp only [ho, if_false, h.flags other, hne, false_or, reduceCtorEq, not_false_eq_true, and_true]
      rfl

/-- A test moves the main loop on, to the assignment or to the next test. -/
theorem Pc.At.tested {log : List Mark} {b : Branch} {rest : List Branch} (h : (Pc.test (b :: rest)).At log)
    (flags : Flags) :
    (if flags b.tested then Pc.clear b else .test rest).At (log ++ [.tested b.tested (flags b.tested)]) := by
  obtain ⟨l, seg, higher, lower, hl, hp, hrest, hseg⟩ := h
  obtain ⟨task, lower, rfl, rfl, rfl⟩ := List.map_eq_cons_iff.mp hrest.symm
  change (if flags task.flag then _ else _ : Pc).At (log ++ [.tested task.flag (flags task.flag)])
  split
  · next hset =>
    refine ⟨l, seg ++ [.tested task.flag true], higher, task, lower, by simp [hl, hset], hp, rfl, ?_⟩
    rw [own_append, hseg]
    rfl
  · next hset =>
    have hset' : flags task.flag = false := Bool.eq_false_iff.mpr hset
    refine ⟨l, seg ++ [.tested task.flag false], higher ++ [task], lower, by simp [hl, hset'],
      by simp [hp], rfl, ?_⟩
    rw [own_append, hseg, List.map_append]
    rfl

/-- The assignment: one flag is taken back. -/
theorem Scheduler.Inv.clear {s : Scheduler} (h : s.Inv) {b : Branch} (hpc : s.pc = .clear b) :
    Scheduler.Inv
      { flags := Function.update s.flags b.cleared false, pc := .call b,
        log := s.log ++ [.cleared b.cleared] } := by
  have hat := h.pc
  rw [hpc] at hat
  obtain ⟨l, seg, higher, task, lower, hl, hp, rfl, hseg⟩ := hat
  have hcall : ∀ t : ETask, s.pc = .call t.branch → Mark.cleared task.flag = .started t.handler :=
    fun t ht => by simp [hpc] at ht
  refine ⟨fun other => ?_, h.tests_concat (by simp), h.starts_concat (by simp),
    h.clears_concat hcall fun flag hm => ⟨task, Mark.cleared.inj hm, rfl⟩, task, rfl, l,
    seg ++ [.cleared task.flag], higher, lower, by simp [hl, ETask.branch], hp, ?_⟩
  · simp only [ETask.branch]
    rw [update_flag, Pending, since_concat]
    by_cases ho : other = task
    · simp [ho]
    · have hne : Mark.cleared task.flag ≠ .cleared other.flag :=
        fun hm => ho (ETask.flag_injective (Mark.cleared.inj hm)).symm
      simp only [ho, if_false, h.flags other, hne, reduceCtorEq, false_or, not_false_eq_true, and_true]
      rfl
  · rw [own_append, hseg, List.append_assoc]
    rfl

theorem Scheduler.Inv.advance {s : Scheduler} (h : s.Inv) : s.advance.Inv := by
  have hat := h.pc
  unfold Scheduler.advance
  split
  · next hpc =>
    exact h.mark (by simp) (by simp) (by simp) (by simp) (by simp [hpc])
      ⟨s.log, [], [], byPriority, rfl, rfl, branches_eq, rfl⟩
  · next hpc => exact h.mark (by simp) (by simp) (by simp) (by simp) (by simp [hpc]) trivial
  · next b rest hpc =>
    rw [hpc] at hat
    refine h.mark (by simp) (by simp) (fun task v hm => ?_) (by simp) (by simp [hpc]) (hat.tested s.flags)
    obtain ⟨hf, rfl⟩ := Mark.tested.inj hm
    rw [hf]
    exact h.flags task
  · next b hpc => exact h.clear hpc
  · next b hpc =>
    rw [hpc] at hat
    obtain ⟨task, rfl, hd⟩ := hat
    refine h.mark (by simp) (by simp) (by simp) (fun hd' hm => ?_) (fun t ht => ?_) trivial
    · cases hm
      exact ⟨task, rfl, hd⟩
    · have hb : task.branch = t.branch := Pc.call.inj (hpc.symm.trans ht)
      rw [hb]
      rfl
  · next hpc => exact h.mark (by simp) (by simp) (by simp) (by simp) (by simp [hpc]) trivial

theorem Scheduler.inv_run (evs : List SchedulerEvent) : (run evs).Inv := by
  refine List.foldlRecOn evs step inv_init fun s h e _ => ?_
  cases e with
  | request taskNum => exact h.request taskNum
  | advance => exact h.advance

/-! ## One `TaskCheck` without interruption -/

/-- The handlers started. -/
def startsIn (log : List Mark) : List Handler :=
  log.filterMap fun m => match m with
    | .started h => some h
    | _ => none

/-- The tasks whose flags are set, the most urgent first. -/
def due (flags : Flags) : List ETask := byPriority.filter fun t => flags t.flag

/-- From within the chain the statements come to what `checkChain` says. -/
theorem advance_chain (lower : List ETask) (s : Scheduler) (hpc : s.pc = .test (lower.map ETask.branch)) :
    ∃ n marks, Scheduler.advance^[n] s =
        ⟨(checkChain (lower.map ETask.branch) s.flags).1, .idle, s.log ++ marks⟩ ∧
      marks.count .entered = 0 ∧
      startsIn marks = (checkChain (lower.map ETask.branch) s.flags).2.toList := by
  induction lower generalizing s with
  | nil =>
    obtain ⟨flags, pc, log⟩ := s
    cases hpc
    exact ⟨1, [.returned], rfl, rfl, rfl⟩
  | cons task lower ih =>
    obtain ⟨flags, pc, log⟩ := s
    cases hpc
    cases hset : flags task.flag with
    | true =>
      refine ⟨4, [.tested task.flag true, .cleared task.flag, .started task.handler, .returned], ?_, ?_, ?_⟩
      · simp [Scheduler.advance, ETask.branch, checkChain, hset]
      · simp
      · simp [startsIn, ETask.branch, checkChain, hset]
    | false =>
      obtain ⟨n, marks, hrun, hentered, hstarts⟩ := ih
        ⟨flags, .test (lower.map ETask.branch), log ++ [.tested task.flag false]⟩ rfl
      have hstep : Scheduler.advance ⟨flags, .test ((task :: lower).map ETask.branch), log⟩ =
          ⟨flags, .test (lower.map ETask.branch), log ++ [.tested task.flag false]⟩ := by
        simp [Scheduler.advance, ETask.branch, hset]
      have hchain : checkChain ((task :: lower).map ETask.branch) flags =
          checkChain (lower.map ETask.branch) flags := by
        simp [checkChain, ETask.branch, hset]
      refine ⟨n + 1, .tested task.flag false :: marks, ?_, ?_, ?_⟩
      · rw [Function.iterate_succ_apply, hstep, hrun, hchain]
        simp
      · simpa using hentered
      · rw [hchain, ← hstarts]
        rfl

/-- The statements of a `TaskCheck` that nothing interrupts come to `taskCheck`. -/
theorem advance_taskCheck (s : Scheduler) (hpc : s.pc = .idle) :
    ∃ n marks, Scheduler.advance^[n] s = ⟨(taskCheck s.flags).1, .idle, s.log ++ marks⟩ ∧
      marks.count .entered = 1 ∧ startsIn marks = (taskCheck s.flags).2.toList := by
  obtain ⟨flags, pc, log⟩ := s
  cases hpc
  obtain ⟨n, marks, hrun, hentered, hstarts⟩ := advance_chain byPriority
    ⟨flags, .test branches, log ++ [.entered]⟩ rfl
  refine ⟨n + 1, .entered :: marks, ?_, ?_, ?_⟩
  · rw [Function.iterate_succ_apply]
    refine hrun.trans ?_
    rw [List.append_assoc]
    rfl
  · simpa using hentered
  · exact hstarts

theorem checkChain_due (lower : List ETask) (flags : Flags) :
    checkChain (lower.map ETask.branch) flags =
      match lower.filter fun t => flags t.flag with
      | [] => (flags, none)
      | task :: _ => (Function.update flags task.flag false, some task.handler) := by
  induction lower with
  | nil => rfl
  | cons task lower ih =>
    cases hset : flags task.flag with
    | true => simp [checkChain, ETask.branch, hset]
    | false =>
      rw [List.filter_cons_of_neg (by simp [hset]), ← ih]
      simp [checkChain, ETask.branch, hset]

theorem taskCheck_none {flags : Flags} (h : due flags = []) : taskCheck flags = (flags, none) := by
  rw [taskCheck, branches_eq, checkChain_due]
  simp only [due] at h
  simp only [h]

theorem taskCheck_due {flags : Flags} {task : ETask} {rest : List ETask} (h : due flags = task :: rest) :
    taskCheck flags = (Function.update flags task.flag false, some task.handler) := by
  rw [taskCheck, branches_eq, checkChain_due]
  simp only [due] at h
  simp only [h]

theorem mem_due {flags : Flags} {task : ETask} (h : task ∈ due flags) : flags task.flag = true :=
  (List.mem_filter.mp h).2

/-- `TaskCheck` as one task sees it: its handler is called and its flag, which
was set, is cleared; or its flag stays as it is. -/
theorem taskCheck_task (flags : Flags) (task : ETask) :
    (flags task.flag = true ∧ (taskCheck flags).2 = some task.handler ∧
      (taskCheck flags).1 task.flag = false) ∨
    ((taskCheck flags).2 ≠ some task.handler ∧ (taskCheck flags).1 task.flag = flags task.flag) := by
  cases hdue : due flags with
  | nil =>
    rw [taskCheck_none hdue]
    exact .inr ⟨by simp, rfl⟩
  | cons first rest =>
    rw [taskCheck_due hdue]
    simp only [update_flag]
    by_cases he : task = first
    · subst he
      exact .inl ⟨mem_due (by rw [hdue]; simp), rfl, by simp⟩
    · refine .inr ⟨fun hh => he (ETask.handler_injective (Option.some.inj hh)).symm, by simp [he]⟩

/-- It leaves the other tasks due. -/
theorem due_update {flags : Flags} {task : ETask} {rest : List ETask} (h : due flags = task :: rest) :
    due (Function.update flags task.flag false) = rest := by
  have hnodup : (due flags).Nodup := byPriority_nodup.filter _
  have hfilter : due (Function.update flags task.flag false) = (due flags).filter (· ≠ task) := by
    rw [due, due, List.filter_filter]
    refine List.filter_congr fun t _ => ?_
    rw [update_flag]
    by_cases ht : t = task <;> simp [ht]
  rw [h, List.nodup_cons] at hnodup
  rw [hfilter, h, List.filter_cons_of_neg (by simp), List.filter_eq_self]
  intro t ht
  simpa using ne_of_mem_of_not_mem ht hnodup.1

theorem not_mem_due {flags : Flags} (h : due flags = []) {task : ETask} (ht : task ≠ .processRs485Message) :
    flags task.flag = false := by
  have := List.filter_eq_nil_iff.mp h task ((mem_byPriority task).mpr ht)
  simpa using this

/-- As many calls as flags are set, and no requests. -/
theorem advance_due (k : Nat) (s : Scheduler) (hpc : s.pc = .idle) (hk : (due s.flags).length = k) :
    ∃ n s' marks, Scheduler.advance^[n] s = s' ∧ s'.pc = .idle ∧ s'.log = s.log ++ marks ∧
      marks.count .entered = k ∧ startsIn marks = (due s.flags).map ETask.handler ∧ due s'.flags = [] := by
  induction k generalizing s with
  | zero =>
    have hdue := List.length_eq_zero_iff.mp hk
    exact ⟨0, s, [], rfl, hpc, by simp, rfl, by simp [hdue, startsIn], hdue⟩
  | succ k ih =>
    obtain ⟨task, rest, hdue⟩ := List.exists_cons_of_length_eq_add_one hk
    obtain ⟨n, marks, hrun, hentered, hstarts⟩ := advance_taskCheck s hpc
    rw [taskCheck_due hdue] at hrun hstarts
    have hrest := due_update hdue
    obtain ⟨n', s', marks', hrun', hpc', hlog', hentered', hstarts', hdue'⟩ := ih
      ⟨Function.update s.flags task.flag false, .idle, s.log ++ marks⟩ rfl
      (by rw [hdue] at hk; rw [hrest]; simpa using hk)
    refine ⟨n' + n, s', marks ++ marks', ?_, hpc', ?_, ?_, ?_, hdue'⟩
    · rw [Function.iterate_add_apply, hrun, hrun']
    · rw [hlog', List.append_assoc]
    · rw [List.count_append, hentered, hentered', Nat.add_comm]
    · rw [startsIn, List.filterMap_append, ← startsIn, ← startsIn, hstarts, hstarts', hrest, hdue]
      rfl

/-! ## Runs -/

/-- **The scheduler loses no request.** Whatever comes between the statements
of `TaskCheck`: the flag of a task is set exactly when it was requested after
the flag was last cleared, and the main loop's next statement after a clearing
starts the handler of the task whose flag it was. A handler starts only in a
`TaskCheck` that has found the flag of its task set, so requested since it was
last cleared, after those of all more urgent tasks were found not set; nothing
else has started in that `TaskCheck`. And with no more requests, as many calls
as flags are set start exactly their handlers and leave none set. -/
theorem run_schedules (evs : List SchedulerEvent) :
    (∀ task : ETask, (Scheduler.run evs).flags task.flag = true ↔ Pending task (Scheduler.run evs).log) ∧
    (∀ l₁ flag l₂, (Scheduler.run evs).log = l₁ ++ .cleared flag :: l₂ →
      ∃ task : ETask, task.flag = flag ∧ Served task (Scheduler.run evs).pc l₂) ∧
    (∀ l₁ h l₂, (Scheduler.run evs).log = l₁ ++ .started h :: l₂ →
      ∃ task, task ≠ .processRs485Message ∧ task.handler = h ∧ Dispatched task l₁) ∧
    (∀ l₁ (task : ETask) v l₂, (Scheduler.run evs).log = l₁ ++ .tested task.flag v :: l₂ →
      (v = true ↔ Pending task l₁)) ∧
    ((Scheduler.run evs).pc = .idle → ∃ n s' marks,
      Scheduler.advance^[n] (Scheduler.run evs) = s' ∧ s'.pc = .idle ∧
      s'.log = (Scheduler.run evs).log ++ marks ∧
      marks.count .entered = (due (Scheduler.run evs).flags).length ∧
      startsIn marks = (due (Scheduler.run evs).flags).map ETask.handler ∧
      ∀ task : ETask, task ≠ .processRs485Message → s'.flags task.flag = false) := by
  have hinv := Scheduler.inv_run evs
  refine ⟨hinv.flags, hinv.clears, ?_, hinv.tests, ?_⟩
  · intro l₁ h l₂ hlog
    obtain ⟨task, hh, hd⟩ := hinv.starts l₁ h l₂ hlog
    obtain ⟨l, seg, higher, lower, hl, hp, hseg⟩ := hd
    exact ⟨task, (mem_byPriority task).mp (by simp [hp]), hh, l, seg, higher, lower, hl, hp, hseg⟩
  · intro hpc
    obtain ⟨n, s', marks, hrun, hpc', hlog, hentered, hstarts, hdue⟩ := advance_due _ _ hpc rfl
    exact ⟨n, s', marks, hrun, hpc', hlog, hentered, hstarts, fun task ht => not_mem_due hdue ht⟩

/-- `CAN` is requested and its flag cleared; a second request comes before
`CanCheck` is called. -/
def lateRequest : List SchedulerEvent := [.request 4, .advance, .advance, .advance, .request 4, .advance]

/-- Now the flag is set, although no request has come since `CanCheck` was
started; and it is started once more without one. -/
theorem lateRequest_restarts :
    (Scheduler.run lateRequest).flags .processCanMess = true ∧
    ¬ Since (· = .requested .processCanMessage) (· = .started .canCheck) (Scheduler.run lateRequest).log ∧
    (Scheduler.run (lateRequest ++ List.replicate 5 .advance)).log =
      (Scheduler.run lateRequest).log ++ [.returned, .entered, .tested .processCanMess true,
        .cleared .processCanMess, .started .canCheck] := by
  refine ⟨rfl, ?_, rfl⟩
  have hlog : (Scheduler.run lateRequest).log = [.requested .processCanMessage, .entered,
      .tested .processCanMess true, .cleared .processCanMess, .requested .processCanMessage] ++
      [.started .canCheck] := rfl
  rw [hlog, since_concat]
  simp

end UdcFirmware.Drivers
