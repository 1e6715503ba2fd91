/-
The status LED, the interlock LED and the buzzer between `jiga.c`, the timer and
`TaskCheck`.

`stmts` are the statements on the second IO expander that the main loop has still to
make, each with the indicator its call is for. Requests and the timer's interrupt
come between any two statements of the main loop. `last` is the latest request for an
indicator.

`TaskCheck` tests the turn-on flag of an indicator before its turn-off flag. Of two
requests that wait it serves the turn-off last, unless the turn-on came when it was
already at the turn-off flag (`Pc.atTurnOff`). What an indicator comes to when all
that waits is served is its `outcome`. The main loop keeps it (`Inv.outcome_advance`).
-/
import UdcFirmware.Drivers.Exio
import UdcFirmware.Drivers.JigRequests

namespace UdcFirmware.Drivers

/-! ## `timer.c` -/

/-- `onTime` is `LedStsTime`, `LedItlkTime`, `SoundTime`. -/
structure Timer where
  time : UInt16
  iibSample : UInt8
  onTime : Indicator → UInt8

/-- The task that turns an indicator on, or off. -/
def Indicator.task : Indicator → Bool → ETask
  | ledSts, true => .ledStsTurnOn
  | ledSts, false => .ledStsTurnOff
  | ledItlk, true => .ledItlkTurnOn
  | ledItlk, false => .ledItlkTurnOff
  | sound, true => .soundItlkTurnOn
  | sound, false => .soundItlkTurnOff

namespace Timer

variable (mode : Indicator → Bool)

/-- The seconds that an indicator has been on. -/
def count (t : Timer) (i : Indicator) : Timer × List ETask :=
  if mode i then
    if 5 < t.onTime i then ({ t with onTime := Function.update t.onTime i 0 }, [i.task false])
    else ({ t with onTime := Function.update t.onTime i (t.onTime i + 1) }, [])
  else (t, [])

/-- `GlobalTimerIntHandler`, with the tasks that it gives to `TaskSetNew`, in order. -/
def globalTimerIntHandler (t : Timer) : Timer × List ETask :=
  let t := { t with time := t.time + 1, iibSample := t.iibSample + 1 }
  let (t, iib) :=
    if 100 ≤ t.iibSample then ({ t with iibSample := 0 }, [.eepromWriteRequestCheck]) else (t, [])
  if 1000 ≤ t.time then
    let t := { t with time := 0 }
    let (t, sts) := t.count mode .ledSts
    let (t, itlk) := t.count mode .ledItlk
    let (t, sound) := t.count mode .sound
    (t, iib ++ .sampleBoardTemp :: (sts ++ (itlk ++ sound)))
  else (t, iib)

end Timer

/-! ## The main loop -/

/-- `stmts` go with the indicator that the call is for. No code reads `last`. -/
structure IndicatorLoop where
  scheduler : Scheduler
  exio : Exio
  timer : Timer
  stmts : List (Indicator × ExioStmt)
  last : Indicator → Option Bool

/-- `request` is one call of `TaskSetNew`, by a command or by an interrupt handler other
than the timer's. -/
inductive IndicatorEvent
  | request (task : ETask)
  | timer
  | testLedTurnOff
  | advance

/-- The request that a call of `TaskSetNew` makes. -/
def ETask.turns : ETask → Option (Indicator × Bool)
  | ledStsTurnOn => some (.ledSts, true)
  | ledStsTurnOff => some (.ledSts, false)
  | ledItlkTurnOn => some (.ledItlk, true)
  | ledItlkTurnOff => some (.ledItlk, false)
  | soundItlkTurnOn => some (.sound, true)
  | soundItlkTurnOff => some (.sound, false)
  | _ => none

/-- What a handler of `TaskCheck` does with the indicators. -/
def Handler.stmts : Handler → List (Indicator × ExioStmt)
  | .ledStsCtrl on => callFor .ledSts (Drivers.ledStsCtrl on)
  | .ledItlkCtrl on => callFor .ledItlk (Drivers.ledItlkCtrl on)
  | .soundSelCtrl on => callFor .sound (Drivers.soundSelCtrl on)
  | _ => []

/-- Outside of `TaskCheck`, or in one of its handlers. -/
def Pc.inCode : Pc → Bool
  | .idle | .running _ => true
  | _ => false

namespace IndicatorLoop

variable (s : IndicatorLoop)

/-- The main loop does what a message asks for. -/
def processing : Bool := s.stmts.isEmpty && s.scheduler.pc.inCode

def request (task : ETask) : IndicatorLoop :=
  { s with
    scheduler := s.scheduler.request task.num
    last := match task.turns with
      | some (i, on) => Function.update s.last i (some on)
      | none => s.last }

def timerInterrupt : IndicatorLoop :=
  let (timer, tasks) := s.timer.globalTimerIntHandler s.exio.mode
  tasks.foldl request { s with timer }

/-- `TestLedTurnOff` calls the two functions by itself. -/
def testLedTurnOff : IndicatorLoop :=
  if s.processing then
    { s with
      stmts := callFor .ledSts (ledStsCtrl false) ++ callFor .ledItlk (ledItlkCtrl false)
      last := fun i => if i = .sound then s.last i else some false }
  else s

/-- The next statement of the main loop. -/
def advance : IndicatorLoop :=
  match s.stmts with
  | (_, stmt) :: rest => { s with exio := s.exio.exec stmt, stmts := rest }
  | [] =>
    match s.scheduler.pc with
    | .call b => { s with scheduler := s.scheduler.advance, stmts := b.handler.stmts }
    | _ => { s with scheduler := s.scheduler.advance }

def step : IndicatorEvent → IndicatorLoop
  | .request task => s.request task
  | .timer => s.timerInterrupt
  | .testLedTurnOff => s.testLedTurnOff
  | .advance => s.advance

/-- The commands of `jiga.c` that call `TaskSetNew`. -/
def testLedTurnOn : List IndicatorEvent := [.request .ledStsTurnOn, .request .ledItlkTurnOn]
def testBuzzerTurnOn : List IndicatorEvent := [.request .soundItlkTurnOn]
def testBuzzerTurnOff : List IndicatorEvent := [.request .soundItlkTurnOff]

/-- They set the flags that the jig's do. -/
theorem commands_flags (s : IndicatorLoop) {jig : Jig} (h : s.scheduler.flags = jig.flags) :
    (testLedTurnOn.foldl step s).scheduler.flags = jig.testLedTurnOn.flags ∧
      (testBuzzerTurnOn.foldl step s).scheduler.flags = jig.testBuzzerTurnOn.2.flags := by
  refine ⟨?_, ?_⟩
  · show (taskSetNew (taskSetNew s.scheduler.flags _).1 _).1 = _
    rw [h]
    rfl
  · show (taskSetNew s.scheduler.flags _).1 = _
    rw [h]
    rfl

def boot : IndicatorLoop where
  scheduler := .init
  exio := .boot
  timer := ⟨0, 0, fun _ => 0⟩
  stmts := []
  last _ := none

end IndicatorLoop

/-! ## What an indicator comes to -/

/-- `TaskCheck` has left the turn-on flag of the indicator behind, and is at the
turn-off flag. -/
def Pc.atTurnOff (i : Indicator) : Pc → Bool
  | .test (b :: _) => b = (i.task false).branch
  | .clear b => b = (i.task false).branch
  | _ => false

/-- The call that `TaskCheck` has to make. -/
def Pc.called (i : Indicator) : Pc → Option Bool
  | .call b =>
    if b.handler = (i.task true).handler then some true
    else if b.handler = (i.task false).handler then some false
    else none
  | _ => none

namespace Scheduler

variable (s : Scheduler) (i : Indicator)

/-- The flag of a request is set. -/
def waits (on : Bool) : Bool := s.flags (i.task on).flag

/-- What the flags, and a call that is to be made, make of the mode. -/
def outcome (mode : Bool) : Bool :=
  if s.pc.atTurnOff i then s.waits i true || (!s.waits i false && (s.pc.called i).getD mode)
  else !s.waits i false && (s.waits i true || (s.pc.called i).getD mode)

/-- If the opposite request waits, then it is served first. -/
def Timely (on : Bool) : Prop := s.waits i (!on) = true → s.pc.atTurnOff i = on

end Scheduler

namespace IndicatorLoop

variable (s : IndicatorLoop) (i : Indicator)

/-- A flag is set, or a call is to be made or has still to return. -/
def Pending : Prop :=
  (∃ on, s.scheduler.waits i on = true) ∨ (s.scheduler.pc.called i).isSome ∨ ∃ x ∈ s.stmts, x.1 = i

/-- The last request wins. -/
def LastWins : Prop := ∀ i on, s.last i = some on → ¬ s.Pending i → s.exio.Shows i on

/-- The expander when the call in progress returns. -/
def finish : Exio := s.exio.run (s.stmts.map Prod.snd)

def outcome : Bool := s.scheduler.outcome i (s.finish.mode i)

/-- Every indicator comes to what was requested last. -/
def Kept : Prop := ∀ i on, s.last i = some on → s.outcome i = on

/-- The timer's interrupt asks for the indicator to be turned off. -/
def TimesOut : Prop := 1000 ≤ s.timer.time + 1 ∧ s.exio.mode i = true ∧ 5 < s.timer.onTime i

/-- What is to hold when a request is made. Where the two LEDs are turned off at once, a
turn-on request that waits is to be followed by a turn-off request. -/
def Ordered : IndicatorEvent → Prop
  | .request task => ∀ i on, task = Indicator.task i on → s.scheduler.Timely i on
  | .timer => ∀ i, s.TimesOut i → s.scheduler.Timely i false
  | .testLedTurnOff =>
    s.processing = true → ∀ i, i ≠ .sound → s.scheduler.waits i true = true → s.scheduler.waits i false = true
  | .advance => True

structure Inv : Prop where
  scheduler : s.scheduler.Inv
  clear : ∀ b, s.scheduler.pc = .clear b → s.scheduler.flags b.tested = true
  code : s.stmts ≠ [] → s.scheduler.pc.inCode = true
  steady : ∀ i, s.exio.Steady i s.stmts (s.finish.mode i)

end IndicatorLoop

/-- What a handler turns on or off. -/
theorem handler_stmts (b : Handler) :
    (∃ i set clear on, Exio.Masks i set clear ∧ b = (i.task on).handler ∧
      b.stmts = callFor i (ctrl i set clear on)) ∨
    (∀ i on, b ≠ (Indicator.task i on).handler) ∧ b.stmts = [] := by
  cases b with
  | ledStsCtrl on => exact .inl ⟨.ledSts, _, _, on, Exio.masks_ledSts, by cases on <;> rfl, rfl⟩
  | ledItlkCtrl on => exact .inl ⟨.ledItlk, _, _, on, Exio.masks_ledItlk, by cases on <;> rfl, rfl⟩
  | soundSelCtrl on => exact .inl ⟨.sound, _, _, on, Exio.masks_sound, by cases on <;> rfl, rfl⟩
  | _ => exact .inr ⟨fun i on => by cases i <;> cases on <;> exact nofun, rfl⟩

/-! ## The main loop keeps the outcome -/

theorem Indicator.task_inj {i j : Indicator} {on on' : Bool} (h : i.task on = j.task on') :
    i = j ∧ on = on' := by
  revert h
  cases i <;> cases j <;> cases on <;> cases on' <;> decide

/-- In the chain the turn-off flag of an indicator comes right after its turn-on flag. -/
theorem before_turnOff {higher lower : List ETask} {task : ETask} {i : Indicator}
    (h : byPriority = higher ++ task :: i.task false :: lower) : task = i.task true := by
  have hall : ∀ i : Indicator, ∀ n < byPriority.length, byPriority[n + 1]? = some (i.task false) →
      byPriority[n]? = some (i.task true) := by
    intro i
    cases i <;> decide
  have hlen : higher.length < byPriority.length := by simp [h]
  have htask := hall i higher.length hlen (by simp [h])
  simpa [h] using htask

theorem Indicator.task_ne (i : Indicator) : i.task true ≠ i.task false := by
  cases i <;> decide

theorem Indicator.branch_inj {i : Indicator} {task : ETask} {on : Bool}
    (h : task.branch = (i.task on).branch) : task = i.task on :=
  ETask.flag_injective (congrArg Branch.tested h)

theorem Pc.called_handler {b : Branch} {j : Indicator} {on : Bool} (h : b.handler = (j.task on).handler)
    (i : Indicator) : (Pc.call b).called i = if i = j then some on else none := by
  simp only [Pc.called, h]
  cases i <;> cases j <;> cases on <;> rfl

theorem Pc.called_own (i : Indicator) (on : Bool) : (Pc.call (i.task on).branch).called i = some on :=
  (Pc.called_handler rfl i).trans (if_pos rfl)

theorem Pc.atTurnOff_own (i : Indicator) (on : Bool) : (Pc.clear (i.task on).branch).atTurnOff i = !on := by
  cases i <;> cases on <;> rfl

namespace Scheduler

variable {s s' : Scheduler} {i : Indicator} {mode : Bool}

/-- Where `TaskCheck` is makes no difference unless both flags are set. -/
theorem outcome_congr (hwaits : ∀ on, s'.waits i on = s.waits i on)
    (hcalled : s'.pc.called i = s.pc.called i)
    (hat : s.waits i true = true → s.waits i false = true → s'.pc.atTurnOff i = s.pc.atTurnOff i) :
    s'.outcome i mode = s.outcome i mode := by
  simp only [outcome, hwaits, hcalled]
  cases hon : s.waits i true with
  | false => simp
  | true =>
    cases hoff : s.waits i false with
    | false => simp
    | true => rw [hat hon hoff]

/-- A flag that is not set is passed over. -/
theorem outcome_passed (h : s.Inv) {b : Branch} {rest : List Branch} (hpc : s.pc = .test (b :: rest))
    (hset : s.flags b.tested = false) (i : Indicator) (mode : Bool) :
    s.advance.outcome i mode = s.outcome i mode := by
  have hat := h.pc
  rw [hpc] at hat
  obtain ⟨-, -, higher, lower, -, hp, hrest, -⟩ := hat
  obtain ⟨task, lower, rfl, rfl, rfl⟩ := List.map_eq_cons_iff.mp hrest.symm
  have hadvance : s.advance.pc = .test (lower.map ETask.branch) ∧ s.advance.flags = s.flags := by
    simp [advance, hpc, hset]
  refine outcome_congr (fun on => ?_) ?_ fun hon hoff => ?_
  · rw [waits, waits, hadvance.2]
  · rw [hadvance.1, hpc]
    rfl
  · have hne : ∀ on, s.waits i on = true → task ≠ i.task on := by
      intro on hw he
      rw [he] at hset
      cases hset.symm.trans hw
    have hbefore : s.pc.atTurnOff i = false := by
      rw [hpc]
      exact decide_eq_false fun he => hne false hoff (Indicator.branch_inj he)
    rw [hadvance.1, hbefore]
    cases lower with
    | nil => rfl
    | cons next lower =>
      refine decide_eq_false fun he => hne true hon ?_
      rw [Indicator.branch_inj he] at hp
      exact before_turnOff hp

/-- A flag that is cleared is to be called for. -/
theorem outcome_cleared (h : s.Inv) {b : Branch} (hpc : s.pc = .clear b) (hset : s.flags b.tested = true)
    (i : Indicator) (mode : Bool) : s.advance.outcome i mode = s.outcome i mode := by
  have hat := h.pc
  rw [hpc] at hat
  obtain ⟨-, -, -, task, -, -, -, rfl, -⟩ := hat
  have hpc' : s.advance.pc = .call task.branch := by simp [advance, hpc]
  have hflags : s.advance.flags = Function.update s.flags task.flag false := by
    simp [advance, hpc, ETask.branch]
  have hwaits : ∀ on, s.advance.waits i on = if i.task on = task then false else s.waits i on := by
    intro on
    rw [waits, hflags, update_flag]
    rfl
  by_cases hown : ∃ on, task = i.task on
  · obtain ⟨on, rfl⟩ := hown
    have hset' : s.waits i on = true := hset
    have hafter :
        s.advance.outcome i mode = (!s.advance.waits i false && (s.advance.waits i true || on)) := by
      rw [outcome, hpc', Pc.called_own]
      rfl
    rw [hafter, hwaits, hwaits, outcome, hpc, Pc.atTurnOff_own]
    cases on with
    | true => simp [hset', i.task_ne.symm]
    | false => simp [hset', i.task_ne]
  · have hne : ∀ on, i.task on ≠ task := fun on he => hown ⟨on, he.symm⟩
    have hhandler : ∀ on, task.handler ≠ (i.task on).handler :=
      fun on he => hne on (ETask.handler_injective he).symm
    refine outcome_congr (fun on => ?_) ?_ fun _ _ => ?_
    · rw [hwaits, if_neg (hne on)]
    · rw [hpc', hpc]
      simp [Pc.called, ETask.branch, hhandler]
    · rw [hpc', hpc]
      exact (decide_eq_false fun he => hne false (Indicator.branch_inj he).symm).symm

/-- A statement that only moves on. -/
theorem outcome_moved {pc : Pc} (hadvance : s.advance.pc = pc ∧ s.advance.flags = s.flags)
    (hcalled : pc.called i = s.pc.called i) (hat : pc.atTurnOff i = s.pc.atTurnOff i) :
    s.advance.outcome i mode = s.outcome i mode := by
  refine outcome_congr (fun on => ?_) ?_ fun _ _ => ?_
  · rw [waits, waits, hadvance.2]
  · rw [hadvance.1, hcalled]
  · rw [hadvance.1, hat]

/-- Apart from a call, the statements of `TaskCheck` keep the outcome. -/
theorem outcome_advance (h : s.Inv) (hclear : ∀ b, s.pc = .clear b → s.flags b.tested = true)
    (hcall : ∀ b, s.pc ≠ .call b) (i : Indicator) (mode : Bool) :
    s.advance.outcome i mode = s.outcome i mode := by
  cases hpc : s.pc with
  | idle =>
    have hadvance : s.advance.pc = .test branches ∧ s.advance.flags = s.flags := by simp [advance, hpc]
    exact outcome_moved hadvance (by rw [hpc]; rfl) (by rw [hpc]; cases i <;> rfl)
  | test rest =>
    cases rest with
    | nil =>
      have hadvance : s.advance.pc = .idle ∧ s.advance.flags = s.flags := by simp [advance, hpc]
      exact outcome_moved hadvance (by rw [hpc]; rfl) (by rw [hpc]; rfl)
    | cons b rest =>
      cases hset : s.flags b.tested with
      | false => exact outcome_passed h hpc hset i mode
      | true =>
        have hadvance : s.advance.pc = .clear b ∧ s.advance.flags = s.flags := by simp [advance, hpc, hset]
        exact outcome_moved hadvance (by rw [hpc]; rfl) (by rw [hpc]; rfl)
  | clear b => exact outcome_cleared h hpc (hclear b hpc) i mode
  | call b => exact absurd hpc (hcall b)
  | running b =>
    have hadvance : s.advance.pc = .idle ∧ s.advance.flags = s.flags := by simp [advance, hpc]
    exact outcome_moved hadvance (by rw [hpc]; rfl) (by rw [hpc]; rfl)

/-- A flag is found set before it is cleared. -/
theorem clear_advance (b : Branch) (hpc : s.advance.pc = .clear b) : s.advance.flags b.tested = true := by
  unfold advance at hpc ⊢
  split at hpc
  · cases hpc
  · cases hpc
  · next b' rest hpc' =>
    cases hset : s.flags b'.tested with
    | false => simp [hset] at hpc
    | true =>
      simp only [hset, if_true, Pc.clear.injEq] at hpc
      rw [← hpc]
      exact hset
  · cases hpc
  · cases hpc
  · cases hpc

end Scheduler

namespace IndicatorLoop

variable {s : IndicatorLoop} {i : Indicator}

theorem advance_stmt {x : Indicator × ExioStmt} {rest : List (Indicator × ExioStmt)}
    (hs : s.stmts = x :: rest) : s.advance = { s with exio := s.exio.exec x.2, stmts := rest } := by
  obtain ⟨k, stmt⟩ := x
  simp only [advance, hs]

theorem advance_call (hs : s.stmts = []) {b : Branch} (hpc : s.scheduler.pc = .call b) :
    s.advance = { s with scheduler := s.scheduler.advance, stmts := b.handler.stmts } := by
  simp only [advance, hs, hpc]

theorem advance_check (hs : s.stmts = []) (hpc : ∀ b, s.scheduler.pc ≠ .call b) :
    s.advance = { s with scheduler := s.scheduler.advance } := by
  cases hpc' : s.scheduler.pc with
  | call b => exact absurd hpc' (hpc b)
  | _ => simp only [advance, hs, hpc']

theorem Inv.boot : IndicatorLoop.boot.Inv where
  scheduler := Scheduler.inv_init
  clear _ h := nomatch h
  code h := absurd rfl h
  steady i := Exio.steady_nil (by cases i <;> exact ⟨rfl, rfl, rfl⟩)

/-- Between calls. -/
theorem Inv.holds (h : s.Inv) (hs : s.stmts = []) (i : Indicator) : s.exio.Holds i (s.exio.mode i) := by
  have hsteady := h.steady i
  simp only [finish, hs] at hsteady
  exact hsteady.finish

/-- A call for an indicator comes out as what `TaskCheck` has called it for. -/
theorem call_value (s : Exio) (b : Branch) (i : Indicator) :
    (s.run (b.handler.stmts.map Prod.snd)).mode i = ((Pc.call b).called i).getD (s.mode i) := by
  rcases handler_stmts b.handler with ⟨j, set, clear, on, -, hb, hstmts⟩ | ⟨hb, hstmts⟩
  · rw [hstmts, callFor_snd, Exio.ctrl_mode, Pc.called_handler hb]
    by_cases hi : i = j
    · rw [hi, Function.update_self, if_pos rfl]
      rfl
    · rw [Function.update_of_ne hi, if_neg hi]
      rfl
  · rw [hstmts]
    simp only [Pc.called]
    rw [if_neg (hb i true), if_neg (hb i false)]
    rfl

theorem call_steady {s : Exio} (hs : ∀ i, s.Holds i (s.mode i)) (b : Handler) (i : Indicator) :
    s.Steady i b.stmts ((s.run (b.stmts.map Prod.snd)).mode i) := by
  rcases handler_stmts b with ⟨j, set, clear, on, hmasks, -, hstmts⟩ | ⟨-, hstmts⟩
  · rw [hstmts, callFor_snd, Exio.ctrl_mode]
    exact Exio.ctrl_steady hmasks hs on i
  · rw [hstmts]
    exact Exio.steady_nil (hs i)

theorem Inv.advance (h : s.Inv) : s.advance.Inv := by
  cases hs : s.stmts with
  | cons x rest =>
    have hcode := h.code (by rw [hs]; exact List.cons_ne_nil x rest)
    rw [advance_stmt hs]
    refine ⟨h.scheduler, h.clear, fun _ => hcode, fun i => ?_⟩
    have hsteady := h.steady i
    rw [finish, hs] at hsteady
    exact hsteady.tail
  | nil =>
    by_cases hcall : ∃ b, s.scheduler.pc = .call b
    · obtain ⟨b, hpc⟩ := hcall
      have hpc' : s.scheduler.advance.pc = .running b.handler := by simp [Scheduler.advance, hpc]
      rw [advance_call hs hpc]
      refine ⟨h.scheduler.advance, Scheduler.clear_advance, fun _ => ?_, call_steady (h.holds hs) b.handler⟩
      rw [hpc']
      rfl
    · rw [advance_check hs fun b hb => hcall ⟨b, hb⟩]
      exact ⟨h.scheduler.advance, Scheduler.clear_advance, fun hne => absurd hs hne, h.steady⟩

/-- **The main loop keeps the outcome.** -/
theorem Inv.outcome_advance (h : s.Inv) (i : Indicator) : s.advance.outcome i = s.outcome i := by
  cases hs : s.stmts with
  | cons x rest =>
    rw [advance_stmt hs, IndicatorLoop.outcome, IndicatorLoop.outcome, finish, finish, hs]
    rfl
  | nil =>
    have hfinish : s.finish = s.exio := by simp only [finish, hs]; rfl
    by_cases hcall : ∃ b, s.scheduler.pc = .call b
    · obtain ⟨b, hpc⟩ := hcall
      have hpc' : s.scheduler.advance.pc = .running b.handler ∧
          s.scheduler.advance.flags = s.scheduler.flags := by simp [Scheduler.advance, hpc]
      rw [advance_call hs hpc]
      simp only [IndicatorLoop.outcome, hfinish, Scheduler.outcome, Scheduler.waits, hpc', hpc]
      simp only [finish, call_value]
      rfl
    · have hcall' : ∀ b, s.scheduler.pc ≠ .call b := fun b hb => hcall ⟨b, hb⟩
      rw [advance_check hs hcall']
      exact Scheduler.outcome_advance h.scheduler h.clear hcall' i _

end IndicatorLoop

end UdcFirmware.Drivers
