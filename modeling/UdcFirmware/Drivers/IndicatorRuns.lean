/-
Requests for the indicators in runs of the main loop.

A request that is `Timely` makes the outcome its own, and one that is not does not.
The timer asks for nothing about an indicator but to turn it off (`Timer.task_mem`),
and `TestLedTurnOff` leaves the flags as they are. So the last request wins in the
runs in which every request is timely, and no others keep it (`last_request_wins`).

An indicator that has been on for seven seconds is to be turned off. If it is turned
on again before `TaskCheck` comes to that, it goes off (`buzzerAgain_off`).
-/
import UdcFirmware.Lib.Traces
import UdcFirmware.Drivers.Indicators

namespace UdcFirmware.Drivers

open Traces

namespace IndicatorLoop

variable {s : IndicatorLoop} {i : Indicator}

/-! ## Requests -/

theorem turns_task (i : Indicator) (on : Bool) : (i.task on).turns = some (i, on) := by
  cases i <;> cases on <;> rfl

theorem turns_eq {task : ETask} {on : Bool} (h : task.turns = some (i, on)) : task = i.task on := by
  revert h
  cases task <;> cases i <;> cases on <;> decide

theorem request_waits (s : IndicatorLoop) (task : ETask) (i : Indicator) (on : Bool) :
    (s.request task).scheduler.waits i on = (decide (i.task on = task) || s.scheduler.waits i on) := by
  show (taskSetNew s.scheduler.flags task.num).1 (i.task on).flag = _
  rw [taskSetNew_num, update_flag]
  by_cases h : i.task on = task
  · simp [h]
  · simp [h, Scheduler.waits]

theorem request_own (s : IndicatorLoop) (i : Indicator) (on : Bool) :
    (s.request (i.task on)).last i = some on := by
  simp only [request, turns_task]
  exact Function.update_self ..

theorem request_other (s : IndicatorLoop) {task : ETask} (h : ∀ on, task ≠ i.task on) :
    (s.request task).last i = s.last i := by
  cases hturns : task.turns with
  | none => simp only [request, hturns]
  | some turn =>
    obtain ⟨j, on⟩ := turn
    have hij : i ≠ j := fun hij => h on (hij ▸ turns_eq hturns)
    simp only [request, hturns]
    exact Function.update_of_ne hij ..

/-- Some requests, one after the other, leave all but the flags. -/
theorem requests_frame (s : IndicatorLoop) (tasks : List ETask) :
    (tasks.foldl request s).scheduler.pc = s.scheduler.pc ∧ (tasks.foldl request s).exio = s.exio ∧
      (tasks.foldl request s).timer = s.timer ∧ (tasks.foldl request s).stmts = s.stmts := by
  induction tasks generalizing s with
  | nil => exact ⟨rfl, rfl, rfl, rfl⟩
  | cons task tasks ih => exact ih (s.request task)

theorem requests_finish (s : IndicatorLoop) (tasks : List ETask) :
    (tasks.foldl request s).finish = s.finish := by
  obtain ⟨-, hexio, -, hstmts⟩ := requests_frame s tasks
  simp only [finish, hexio, hstmts]

theorem requests_waits (s : IndicatorLoop) (tasks : List ETask) (i : Indicator) (on : Bool) :
    (tasks.foldl request s).scheduler.waits i on =
      (decide (i.task on ∈ tasks) || s.scheduler.waits i on) := by
  induction tasks generalizing s with
  | nil => simp
  | cons task tasks ih =>
    rw [List.foldl_cons, ih, request_waits]
    by_cases hmem : i.task on ∈ tasks
    · simp [hmem]
    · simp [hmem]

theorem requests_last (s : IndicatorLoop) {tasks : List ETask} {on : Bool} (h : i.task (!on) ∉ tasks) :
    (tasks.foldl request s).last i = if i.task on ∈ tasks then some on else s.last i := by
  induction tasks generalizing s with
  | nil => simp
  | cons task tasks ih =>
    rw [List.mem_cons, not_or] at h
    rw [List.foldl_cons, ih _ h.2]
    by_cases htask : task = i.task on
    · rw [htask, request_own]
      simp
    · rw [request_other s fun v he => ?_]
      · simp [Ne.symm htask]
      · by_cases hv : v = on
        · exact htask (hv ▸ he)
        · rw [Bool.eq_not_of_ne hv] at he
          exact h.1 he.symm

theorem Inv.request (h : s.Inv) (task : ETask) : (s.request task).Inv where
  scheduler := h.scheduler.request task.num
  clear b hpc := taskSetNew_keeps (h.clear b hpc) task.num
  code := h.code
  steady := h.steady

theorem Inv.requests (h : s.Inv) (tasks : List ETask) : (tasks.foldl IndicatorLoop.request s).Inv :=
  List.foldlRecOn tasks _ h fun _ h task _ => h.request task

/-- An indicator comes to what is requested exactly when the request is timely. -/
theorem requests_outcome (s : IndicatorLoop) {tasks : List ETask} {on : Bool} (hon : i.task on ∈ tasks)
    (hopp : i.task (!on) ∉ tasks) :
    (tasks.foldl request s).outcome i = on ↔ s.scheduler.Timely i on := by
  have hwaits := requests_waits s tasks i
  have hpc := (requests_frame s tasks).1
  have hfinish := requests_finish s tasks
  simp only [outcome, Scheduler.outcome, hwaits, hpc, hfinish, Scheduler.Timely]
  cases on with
  | true =>
    rw [Bool.not_true] at hopp ⊢
    cases s.scheduler.pc.atTurnOff i <;> simp [hon, hopp]
  | false =>
    rw [Bool.not_false] at hopp ⊢
    cases s.scheduler.pc.atTurnOff i <;> simp [hon, hopp]

theorem requests_others (s : IndicatorLoop) {tasks : List ETask} (h : ∀ on, i.task on ∉ tasks) :
    (tasks.foldl request s).outcome i = s.outcome i ∧ (tasks.foldl request s).last i = s.last i := by
  have hpc := (requests_frame s tasks).1
  have hfinish := requests_finish s tasks
  refine ⟨?_, ?_⟩
  · have hwaits : ∀ on, (tasks.foldl request s).scheduler.waits i on = s.scheduler.waits i on := by
      intro on
      simp [requests_waits, h]
    simp only [outcome, Scheduler.outcome, hwaits, hpc, hfinish]
  · rw [requests_last s (h !true), if_neg (h true)]

/-- Requests that do not contradict each other. -/
theorem requests_kept (hs : s.Kept) {tasks : List ETask}
    (htasks : ∀ i on, Indicator.task i on ∈ tasks → i.task (!on) ∉ tasks) :
    (tasks.foldl request s).Kept ↔ ∀ i on, Indicator.task i on ∈ tasks → s.scheduler.Timely i on := by
  constructor
  · intro h i on hmem
    have hlast := requests_last s (htasks i on hmem)
    rw [if_pos hmem] at hlast
    exact (requests_outcome s hmem (htasks i on hmem)).mp (h i on hlast)
  · intro h i on hlast
    by_cases hmem : ∃ v, i.task v ∈ tasks
    · obtain ⟨v, hv⟩ := hmem
      rw [requests_last s (htasks i v hv), if_pos hv] at hlast
      cases hlast
      exact (requests_outcome s hv (htasks i _ hv)).mpr (h i _ hv)
    · obtain ⟨houtcome, hlast'⟩ := requests_others s fun v hv => hmem ⟨v, hv⟩
      rw [houtcome]
      exact hs i on (hlast' ▸ hlast)

theorem opposite_not_mem {task : ETask} (on : Bool) (h : i.task on ∈ [task]) : i.task (!on) ∉ [task] := by
  intro hopp
  rw [List.mem_singleton] at h hopp
  have hon := (Indicator.task_inj (hopp.trans h.symm)).2
  cases on <;> cases hon

theorem request_kept (hs : s.Kept) (task : ETask) : (s.request task).Kept ↔ s.Ordered (.request task) := by
  have htask : ∀ i on, Indicator.task i on ∈ [task] → i.task (!on) ∉ [task] :=
    fun _ on hmem => opposite_not_mem on hmem
  refine (requests_kept hs htask).trans ?_
  simp only [List.mem_singleton, eq_comm]
  rfl

end IndicatorLoop

/-! ## The timer -/

namespace Timer

variable {t : Timer}

/-- The indicators that are to be turned off when a second is over. -/
def off (mode : Indicator → Bool) (t : Timer) (i : Indicator) : List ETask :=
  if mode i = true ∧ 5 < t.onTime i then [i.task false] else []

/-- The seconds of an indicator when one more is over. -/
def second (mode : Indicator → Bool) (t : Timer) (i : Indicator) : UInt8 :=
  if mode i then if 5 < t.onTime i then 0 else t.onTime i + 1 else t.onTime i

theorem count_eq (mode : Indicator → Bool) (t : Timer) (i : Indicator) :
    t.count mode i = ({ t with onTime := Function.update t.onTime i (t.second mode i) }, t.off mode i) := by
  by_cases hmode : mode i = true
  · by_cases htime : 5 < t.onTime i
    · simp [count, second, off, hmode, htime]
    · simp [count, second, off, hmode, htime]
  · simp [count, second, off, hmode]

theorem between (mode : Indicator → Bool) (h : ¬ 1000 ≤ t.time + 1) : ∃ iibSample iib,
    t.globalTimerIntHandler mode = ({ t with time := t.time + 1, iibSample }, iib) ∧
      ∀ task ∈ iib, task = .eepromWriteRequestCheck := by
  by_cases hiib : 100 ≤ t.iibSample + 1
  · exact ⟨0, [.eepromWriteRequestCheck], by simp [globalTimerIntHandler, h, hiib], by simp⟩
  · exact ⟨t.iibSample + 1, [], by simp [globalTimerIntHandler, h, hiib], by simp⟩

theorem second_over (mode : Indicator → Bool) (h : 1000 ≤ t.time + 1) : ∃ iibSample iib,
    t.globalTimerIntHandler mode = (⟨0, iibSample, t.second mode⟩,
      iib ++ .sampleBoardTemp :: (t.off mode .ledSts ++ (t.off mode .ledItlk ++ t.off mode .sound))) ∧
      ∀ task ∈ iib, task = .eepromWriteRequestCheck := by
  have honTime : Function.update (Function.update (Function.update t.onTime .ledSts (t.second mode .ledSts))
      .ledItlk (t.second mode .ledItlk)) .sound (t.second mode .sound) = t.second mode := by
    funext i
    cases i <;> rfl
  by_cases hiib : 100 ≤ t.iibSample + 1
  · refine ⟨0, [.eepromWriteRequestCheck], ?_, by simp⟩
    rw [← honTime]
    simp [globalTimerIntHandler, h, hiib, count_eq, second, off]
  · refine ⟨t.iibSample + 1, [], ?_, by simp⟩
    rw [← honTime]
    simp [globalTimerIntHandler, h, hiib, count_eq, second, off]

theorem mem_off (mode : Indicator → Bool) (t : Timer) (i j : Indicator) (on : Bool) :
    i.task on ∈ t.off mode j ↔ i = j ∧ on = false ∧ mode i = true ∧ 5 < t.onTime i := by
  unfold off
  split
  · next hj =>
    rw [List.mem_singleton]
    constructor
    · intro he
      obtain ⟨rfl, rfl⟩ := Indicator.task_inj he
      exact ⟨rfl, rfl, hj⟩
    · rintro ⟨rfl, rfl, -⟩
      rfl
  · next hj =>
    refine ⟨nofun, ?_⟩
    rintro ⟨rfl, -, hi⟩
    exact absurd hi hj

/-- The timer asks for nothing about an indicator but to turn it off. -/
theorem task_mem (mode : Indicator → Bool) (t : Timer) (i : Indicator) (on : Bool) :
    i.task on ∈ (t.globalTimerIntHandler mode).2 ↔
      on = false ∧ 1000 ≤ t.time + 1 ∧ mode i = true ∧ 5 < t.onTime i := by
  have hiib : ∀ {iib : List ETask}, (∀ task ∈ iib, task = .eepromWriteRequestCheck) → i.task on ∉ iib := by
    intro iib h hmem
    have he := h _ hmem
    revert he
    cases i <;> cases on <;> decide
  by_cases h : 1000 ≤ t.time + 1
  · obtain ⟨iibSample, iib, heq, hmem⟩ := second_over mode h
    have htemp : i.task on ≠ .sampleBoardTemp := by cases i <;> cases on <;> decide
    rw [heq]
    simp only [List.mem_append, List.mem_cons, mem_off, hiib hmem, htemp, h, true_and, false_or,
      ← or_and_right]
    exact and_iff_right (by cases i <;> decide)
  · obtain ⟨iibSample, iib, heq, hmem⟩ := between mode h
    rw [heq]
    simp [hiib hmem, h]

end Timer

namespace IndicatorLoop

variable {s : IndicatorLoop} {i : Indicator}

theorem timerInterrupt_eq (s : IndicatorLoop) :
    s.timerInterrupt = (s.timer.globalTimerIntHandler s.exio.mode).2.foldl request
      { s with timer := (s.timer.globalTimerIntHandler s.exio.mode).1 } := rfl

theorem Inv.timerInterrupt (h : s.Inv) : s.timerInterrupt.Inv := by
  have htimer : Inv { s with timer := (s.timer.globalTimerIntHandler s.exio.mode).1 } :=
    ⟨h.scheduler, h.clear, h.code, h.steady⟩
  exact htimer.requests _

theorem timer_kept (hs : s.Kept) : s.timerInterrupt.Kept ↔ s.Ordered .timer := by
  have htasks : ∀ i on, Indicator.task i on ∈ (s.timer.globalTimerIntHandler s.exio.mode).2 →
      i.task (!on) ∉ (s.timer.globalTimerIntHandler s.exio.mode).2 := by
    intro i on hmem hopp
    rw [Timer.task_mem] at hmem hopp
    cases hmem.1
    cases hopp.1
  have htimer : Kept { s with timer := (s.timer.globalTimerIntHandler s.exio.mode).1 } := hs
  refine (requests_kept htimer htasks).trans ?_
  simp only [Timer.task_mem]
  constructor
  · intro h i hi
    exact h i false ⟨rfl, hi⟩
  · rintro h i on ⟨rfl, hi⟩
    exact h i hi

/-! ## `TestLedTurnOff` -/

theorem processing_iff (s : IndicatorLoop) :
    s.processing = true ↔ s.stmts = [] ∧ s.scheduler.pc.inCode = true := by
  simp [processing]

/-- The two calls, one after the other. -/
theorem ledsOff_steady {e : Exio} (h : ∀ i, e.Holds i (e.mode i)) (i : Indicator) :
    e.Steady i (callFor .ledSts (ledStsCtrl false) ++ callFor .ledItlk (ledItlkCtrl false))
      (if i = .sound then e.mode i else false) := by
  have hsts := Exio.ctrl_steady Exio.masks_ledSts h false
  have hmid : ∀ j, (e.run (ledStsCtrl false)).Holds j ((e.run (ledStsCtrl false)).mode j) := by
    intro j
    have hfinish := (hsts j).finish
    rw [callFor_snd] at hfinish
    rw [ledStsCtrl, Exio.ctrl_mode]
    exact hfinish
  have hitlk := Exio.ctrl_steady Exio.masks_ledItlk hmid false i
  rw [ledStsCtrl, Exio.ctrl_mode] at hitlk
  have hboth := (hsts i).append (by rw [callFor_snd]; exact hitlk)
  cases i <;> exact hboth

theorem ledsOff_mode (e : Exio) (i : Indicator) :
    (e.run ((callFor .ledSts (ledStsCtrl false) ++ callFor .ledItlk (ledItlkCtrl false)).map
      Prod.snd)).mode i = if i = .sound then e.mode i else false := by
  cases i <;> rfl

theorem Inv.testLedTurnOff (h : s.Inv) : s.testLedTurnOff.Inv := by
  unfold IndicatorLoop.testLedTurnOff
  split
  · next hp =>
    obtain ⟨hs, hcode⟩ := s.processing_iff.mp hp
    refine ⟨h.scheduler, h.clear, fun _ => hcode, fun i => ?_⟩
    simp only [finish, ledsOff_mode]
    exact ledsOff_steady (h.holds hs) i
  · exact h

/-- In the code of messages and handlers no call is to be made. -/
theorem inCode_pc {pc : Pc} (h : pc.inCode = true) (i : Indicator) :
    pc.atTurnOff i = false ∧ pc.called i = none := by
  cases pc with
  | idle => exact ⟨rfl, rfl⟩
  | running b => exact ⟨rfl, rfl⟩
  | _ => cases h

/-- The two are turned off, unless a turn-on request waits that no turn-off request follows. -/
theorem testLedTurnOff_outcome (hp : s.processing = true) (i : Indicator) :
    s.testLedTurnOff.outcome i =
      if i = .sound then s.outcome i else !s.scheduler.waits i false && s.scheduler.waits i true := by
  obtain ⟨hs, hcode⟩ := s.processing_iff.mp hp
  obtain ⟨hat, hcalled⟩ := inCode_pc hcode i
  have hfinish : s.finish = s.exio := by simp only [finish, hs]; rfl
  have hoff : s.testLedTurnOff.outcome i =
      s.scheduler.outcome i (if i = .sound then s.exio.mode i else false) := by
    rw [← ledsOff_mode, testLedTurnOff, if_pos hp]
    rfl
  rw [hoff]
  split
  · rw [outcome, hfinish]
  · simp [Scheduler.outcome, hat, hcalled]

theorem testLedTurnOff_kept (hs : s.Kept) : s.testLedTurnOff.Kept ↔ s.Ordered .testLedTurnOff := by
  by_cases hp : s.processing = true
  · have hlast : s.testLedTurnOff.last = fun i => if i = .sound then s.last i else some false := by
      rw [testLedTurnOff, if_pos hp]
    constructor
    · intro h _ i hi hon
      have hout := h i false (by rw [hlast]; exact if_neg hi)
      rw [testLedTurnOff_outcome hp, if_neg hi, hon] at hout
      simpa using hout
    · intro h i on hi
      rw [hlast] at hi
      rw [testLedTurnOff_outcome hp]
      split
      · next hsound => exact hs i on (by simpa [hsound] using hi)
      · next hsound =>
        have hon : on = false := by simpa [hsound, eq_comm] using hi
        have hoff := h hp i hsound
        cases hw : s.scheduler.waits i true with
        | false => rw [Bool.and_false, hon]
        | true => rw [hoff hw, hon]; rfl
  · have he : s.testLedTurnOff = s := if_neg hp
    rw [he]
    exact iff_of_true hs fun hp' => absurd hp' hp

/-! ## One step -/

theorem advance_last (s : IndicatorLoop) : s.advance.last = s.last := by
  unfold advance
  split
  · rfl
  · split <;> rfl

theorem Inv.advance_kept (h : s.Inv) : s.advance.Kept ↔ s.Kept := by
  simp only [Kept, advance_last, h.outcome_advance]

theorem Inv.step (h : s.Inv) (e : IndicatorEvent) : (s.step e).Inv := by
  cases e with
  | request task => exact h.request task
  | timer => exact h.timerInterrupt
  | testLedTurnOff => exact h.testLedTurnOff
  | advance => exact h.advance

theorem Inv.step_kept (h : s.Inv) (hs : s.Kept) (e : IndicatorEvent) : (s.step e).Kept ↔ s.Ordered e := by
  cases e with
  | request task => exact request_kept hs task
  | timer => exact timer_kept hs
  | testLedTurnOff => exact testLedTurnOff_kept hs
  | advance => exact iff_of_true (h.advance_kept.mpr hs) trivial

/-- When nothing waits, an indicator shows its outcome. -/
theorem Inv.shows (h : s.Inv) (hi : ¬ s.Pending i) : s.exio.Shows i (s.outcome i) := by
  simp only [Pending, not_or, not_exists, not_and] at hi
  obtain ⟨hwaits, hcalled, hstmts⟩ := hi
  have hnone : s.scheduler.pc.called i = none := Option.not_isSome_iff_eq_none.mp hcalled
  have houtcome : s.outcome i = s.finish.mode i := by
    simp [outcome, Scheduler.outcome, hwaits, hnone]
  rw [houtcome]
  exact ((h.steady i).now hstmts).2

theorem Inv.lastWins (h : s.Inv) (hs : s.Kept) : s.LastWins := by
  intro i on hlast hi
  rw [← hs i on hlast]
  exact h.shows hi

/-! ## What waits is served -/

theorem Inv.advances (h : s.Inv) (n : Nat) : (IndicatorLoop.advance^[n] s).Inv := by
  induction n with
  | zero => exact h
  | succ n ih =>
    rw [Function.iterate_succ_apply']
    exact ih.advance

theorem Inv.advances_outcome (h : s.Inv) (n : Nat) (i : Indicator) :
    (IndicatorLoop.advance^[n] s).outcome i = s.outcome i ∧ (IndicatorLoop.advance^[n] s).last = s.last := by
  induction n with
  | zero => exact ⟨rfl, rfl⟩
  | succ n ih =>
    rw [Function.iterate_succ_apply', (h.advances n).outcome_advance, advance_last]
    exact ih

/-- The call in progress returns. -/
theorem returns (s : IndicatorLoop) : ∃ n, advance^[n] s = { s with exio := s.finish, stmts := [] } := by
  obtain ⟨scheduler, exio, timer, stmts, last⟩ := s
  induction stmts generalizing exio with
  | nil => exact ⟨0, rfl⟩
  | cons x stmts ih =>
    obtain ⟨n, hn⟩ := ih (exio.exec x.2)
    exact ⟨n + 1, hn⟩

theorem advance_scheduler (hs : s.stmts = []) : s.advance.scheduler = s.scheduler.advance := by
  by_cases hcall : ∃ b, s.scheduler.pc = .call b
  · obtain ⟨b, hpc⟩ := hcall
    rw [advance_call hs hpc]
  · rw [advance_check hs fun b hb => hcall ⟨b, hb⟩]

/-- A statement of `TaskCheck`, after what is left of a call. -/
theorem checks (s : IndicatorLoop) : ∃ n, (advance^[n] s).scheduler = s.scheduler.advance := by
  obtain ⟨n, hn⟩ := s.returns
  refine ⟨n + 1, ?_⟩
  rw [Function.iterate_succ_apply', hn]
  exact advance_scheduler rfl

theorem checks_many (s : IndicatorLoop) (k : Nat) :
    ∃ n, (advance^[n] s).scheduler = Scheduler.advance^[k] s.scheduler := by
  induction k generalizing s with
  | zero => exact ⟨0, rfl⟩
  | succ k ih =>
    obtain ⟨n, hn⟩ := s.checks
    obtain ⟨m, hm⟩ := ih (advance^[n] s)
    exact ⟨m + n, by rw [Function.iterate_add_apply, hm, hn, Function.iterate_succ_apply]⟩

end IndicatorLoop

namespace Scheduler

variable {s : Scheduler}

/-- `TaskCheck` returns. -/
theorem Inv.returns (h : s.Inv) : ∃ k, (Scheduler.advance^[k] s).pc = .idle := by
  have hat := h.pc
  cases hpc : s.pc with
  | idle => exact ⟨0, hpc⟩
  | test rest =>
    rw [hpc] at hat
    obtain ⟨-, -, -, lower, -, -, rfl, -⟩ := hat
    obtain ⟨n, marks, hrun, -⟩ := advance_chain lower s hpc
    exact ⟨n, by rw [hrun]⟩
  | clear b => exact ⟨3, by simp [Scheduler.advance, hpc]⟩
  | call b => exact ⟨2, by simp [Scheduler.advance, hpc]⟩
  | running b => exact ⟨1, by simp [Scheduler.advance, hpc]⟩

theorem Inv.drains (h : s.Inv) :
    ∃ k, (Scheduler.advance^[k] s).pc = .idle ∧ due (Scheduler.advance^[k] s).flags = [] := by
  obtain ⟨k, hidle⟩ := h.returns
  obtain ⟨m, s', -, hrun, hidle', -, -, -, hdue⟩ := advance_due _ _ hidle rfl
  refine ⟨m + k, ?_⟩
  rw [Function.iterate_add_apply, hrun]
  exact ⟨hidle', hdue⟩

end Scheduler

namespace IndicatorLoop

variable {s : IndicatorLoop} {i : Indicator}

/-- Without further requests nothing waits in the end. -/
theorem Inv.drains (h : s.Inv) : ∃ n, ∀ i, ¬ (IndicatorLoop.advance^[n] s).Pending i := by
  obtain ⟨k, hidle, hdue⟩ := h.scheduler.drains
  obtain ⟨n, hn⟩ := s.checks_many k
  obtain ⟨m, hm⟩ := (IndicatorLoop.advance^[n] s).returns
  rw [← hn] at hidle hdue
  refine ⟨m + n, fun i => ?_⟩
  have hwaits : ∀ on, (IndicatorLoop.advance^[n] s).scheduler.waits i on = false :=
    fun on => not_mem_due hdue (by cases i <;> cases on <;> decide)
  rw [Function.iterate_add_apply, hm]
  simp [Pending, hwaits, hidle, Pc.called]

/-- The last request wins from now on, if no other comes. -/
def Settles (s : IndicatorLoop) : Prop := ∀ n, (advance^[n] s).LastWins

theorem Inv.settles_iff (h : s.Inv) : s.Settles ↔ s.Kept := by
  constructor
  · intro hs i on hlast
    obtain ⟨n, hn⟩ := h.drains
    obtain ⟨houtcome, hlast'⟩ := h.advances_outcome n i
    have hlast := hs n i on (hlast' ▸ hlast) (hn i)
    have hshows := (h.advances n).shows (hn i)
    rw [← houtcome]
    exact hshows.2.symm.trans hlast.2
  · intro hs n
    refine (h.advances n).lastWins fun i on hlast => ?_
    obtain ⟨houtcome, hlast'⟩ := h.advances_outcome n i
    rw [houtcome]
    exact hs i on (hlast' ▸ hlast)

/-! ## Runs -/

/-- **The last request wins.** For each indicator, in every run of the main loop from
power-up, with requests and the timer's interrupt between any two statements, in which
every request that finds the opposite one waiting comes when that is served first:
always, if nothing waits for the indicator, its bit in the output register last written
and its mode are those of its latest request. The condition is the exact one: if a
request does not meet it and none follows, its indicator ends the other way. -/
theorem last_request_wins (evs : List IndicatorEvent) :
    (Along step Ordered boot evs → Always step LastWins boot evs) ∧
    (Always step Settles boot evs ↔ Along step Ordered boot evs) := by
  have hstep : ∀ s e, Inv s → s.Settles → (s.step e).Inv ∧ ((s.step e).Settles ↔ s.Ordered e) := by
    intro s e h hs
    have hkept : s.Kept := h.settles_iff.mp hs
    exact ⟨h.step e, (h.step e).settles_iff.trans (h.step_kept hkept e)⟩
  have hboot : boot.Settles := Inv.boot.settles_iff.mpr nofun
  have hiff : Always step Settles boot evs ↔ Along step Ordered boot evs :=
    always_iff_along hstep Inv.boot hboot
  exact ⟨fun h => (hiff.mpr h).imp fun s hs => hs 0, hiff⟩

/-- The statements of the main loop ask for nothing. -/
theorem ordered_advances {es : List IndicatorEvent} (n : Nat) (h : Along step Ordered (advance^[n] s) es) :
    Along step Ordered s (List.replicate n .advance ++ es) := by
  induction n generalizing s with
  | zero => exact h
  | succ n ih => exact ⟨trivial, ih h⟩

/-- The buzzer is turned on, and off when it sounds. -/
theorem last_request_wins_buzzer :
    let evs := testBuzzerTurnOn ++
      (List.replicate 23 .advance ++ (testBuzzerTurnOff ++ List.replicate 24 .advance))
    Always step LastWins boot evs ∧ (evs.foldl step boot).exio.Shows .sound false := by
  intro evs
  have hordered : Along step Ordered boot evs := by
    refine ⟨fun i on _ hwaits => ?_, ordered_advances 23 ⟨fun i on htask hwaits => ?_, ?_⟩⟩
    · cases hwaits
    · cases i <;> cases on <;> cases htask
      rfl
    · rw [← List.append_nil (List.replicate 24 _)]
      exact ordered_advances 24 trivial
  have hwins := (last_request_wins evs).1 hordered
  refine ⟨hwins, hwins.foldl .sound false rfl ?_⟩
  rintro (⟨on, hwaits⟩ | hcalled | ⟨x, hx, -⟩)
  · cases on <;> cases hwaits
  · cases hcalled
  · cases hx

end IndicatorLoop

/-! ## A request that loses -/

namespace Timer

variable {mode : Indicator → Bool} {t : Timer} {i : Indicator}

/-- Some milliseconds. -/
def ticks (mode : Indicator → Bool) (n : Nat) (t : Timer) : Timer :=
  (fun t => (t.globalTimerIntHandler mode).1)^[n] t

/-- The milliseconds that an indicator has been on. -/
def elapsed (t : Timer) (i : Indicator) : Nat := 1000 * (t.onTime i).toNat + t.time.toNat

/-- One more, while the indicator stays on. -/
theorem tick_elapsed (hi : mode i = true) (hms : t.time.toNat < 1000) (hon : t.elapsed i + 1 < 7000) :
    (t.globalTimerIntHandler mode).1.elapsed i = t.elapsed i + 1 ∧
      (t.globalTimerIntHandler mode).1.time.toNat < 1000 := by
  have hnext : (t.time + 1).toNat = t.time.toNat + 1 := by
    rw [UInt16.toNat_add]
    exact Nat.mod_eq_of_lt (by simp only [UInt16.reduceToNat]; omega)
  simp only [elapsed] at hon ⊢
  by_cases h : 1000 ≤ t.time + 1
  · obtain ⟨iibSample, iib, heq, -⟩ := second_over mode h
    rw [UInt16.le_iff_toNat_le, hnext] at h
    simp only [UInt16.reduceToNat] at h
    have hlow : ¬ 5 < t.onTime i := by
      rw [UInt8.lt_iff_toNat_lt]
      simp only [UInt8.reduceToNat]
      omega
    have hsecond : (t.onTime i + 1).toNat = (t.onTime i).toNat + 1 := by
      rw [UInt8.toNat_add]
      exact Nat.mod_eq_of_lt (by simp only [UInt8.reduceToNat]; omega)
    rw [heq]
    simp only [second, hi, if_true, hlow, if_false, hsecond, UInt16.toNat_zero]
    omega
  · obtain ⟨iibSample, iib, heq, -⟩ := between mode h
    rw [UInt16.le_iff_toNat_le, hnext] at h
    simp only [UInt16.reduceToNat] at h
    rw [heq]
    simp only [hnext]
    omega

/-- An indicator that stays on. -/
theorem ticks_on (hi : mode i = true) (htime : t.time = 0) (honTime : t.onTime i = 0) {n : Nat}
    (hn : n < 7000) : (ticks mode n t).elapsed i = n ∧ (ticks mode n t).time.toNat < 1000 := by
  induction n with
  | zero =>
    rw [ticks, Function.iterate_zero_apply, elapsed, htime, honTime]
    exact ⟨rfl, by decide⟩
  | succ n ih =>
    obtain ⟨helapsed, hms⟩ := ih (by omega)
    have hon : (ticks mode n t).elapsed i + 1 < 7000 := by rwa [helapsed]
    have htick := tick_elapsed hi hms hon
    rw [ticks, Function.iterate_succ_apply', ← ticks]
    rwa [helapsed] at htick

end Timer

namespace IndicatorLoop

variable {s : IndicatorLoop} {i : Indicator}

theorem timer_frame (s : IndicatorLoop) :
    s.timerInterrupt.timer = (s.timer.globalTimerIntHandler s.exio.mode).1 ∧
      s.timerInterrupt.exio = s.exio ∧ s.timerInterrupt.scheduler.pc = s.scheduler.pc := by
  obtain ⟨hpc, hexio, htimer, -⟩ := requests_frame
    { s with timer := (s.timer.globalTimerIntHandler s.exio.mode).1 }
    (s.timer.globalTimerIntHandler s.exio.mode).2
  rw [timerInterrupt_eq]
  exact ⟨htimer, hexio, hpc⟩

theorem timer_last (s : IndicatorLoop) (n : Nat) : (List.replicate (n + 1) .timer).foldl step s =
    ((List.replicate n .timer).foldl step s).timerInterrupt := by
  rw [List.replicate_succ', List.foldl_append]
  rfl

/-- While the main loop does nothing. -/
theorem timer_ticks (s : IndicatorLoop) (n : Nat) :
    ((List.replicate n .timer).foldl step s).timer = Timer.ticks s.exio.mode n s.timer ∧
      ((List.replicate n .timer).foldl step s).exio = s.exio ∧
      ((List.replicate n .timer).foldl step s).scheduler.pc = s.scheduler.pc := by
  induction n with
  | zero => exact ⟨rfl, rfl, rfl⟩
  | succ n ih =>
    obtain ⟨htimer, hexio, hpc⟩ := ih
    obtain ⟨htimer', hexio', hpc'⟩ := timer_frame ((List.replicate n .timer).foldl step s)
    rw [timer_last]
    refine ⟨htimer'.trans ?_, hexio'.trans hexio, hpc'.trans hpc⟩
    rw [hexio, htimer, Timer.ticks, Timer.ticks, Function.iterate_succ_apply']

theorem timer_off (h : s.TimesOut i) : s.timerInterrupt.scheduler.waits i false = true := by
  have hmem : i.task false ∈ (s.timer.globalTimerIntHandler s.exio.mode).2 :=
    (Timer.task_mem s.exio.mode s.timer i false).mpr ⟨rfl, h⟩
  rw [timerInterrupt_eq, requests_waits, decide_eq_true hmem, Bool.true_or]

/-- An indicator that has been on for seven seconds is to be turned off. -/
theorem seven_seconds (hi : s.exio.mode i = true) (htime : s.timer.time = 0) (honTime : s.timer.onTime i = 0)
    {n : Nat} (hn : n + 1 = 7000) :
    ((List.replicate (n + 1) .timer).foldl step s).scheduler.waits i false = true := by
  obtain ⟨htimer, hexio, -⟩ := timer_ticks s n
  obtain ⟨helapsed, hms⟩ := Timer.ticks_on hi htime honTime (by omega : n < 7000)
  rw [Timer.elapsed] at helapsed
  have htimes : ((List.replicate n .timer).foldl step s).TimesOut i := by
    rw [TimesOut, hexio, htimer]
    refine ⟨?_, hi, ?_⟩
    · rw [UInt16.le_iff_toNat_le, UInt16.toNat_add]
      simp only [UInt16.reduceToNat]
      omega
    · rw [UInt8.lt_iff_toNat_lt]
      simp only [UInt8.reduceToNat]
      omega
  rw [timer_last]
  exact timer_off htimes

/-- The buzzer is turned on, sounds for seven seconds, and is turned on once more before
`TaskCheck` is called. -/
def buzzerAgain : List IndicatorEvent :=
  testBuzzerTurnOn ++ (List.replicate 23 .advance ++ (List.replicate 7000 .timer ++ testBuzzerTurnOn))

theorem foldl_advance (s : IndicatorLoop) (n : Nat) :
    (List.replicate n IndicatorEvent.advance).foldl step s = advance^[n] s := by
  induction n generalizing s with
  | zero => rfl
  | succ n ih => exact ih s.advance

/-- The buzzer sounds. -/
def sounding : IndicatorLoop :=
  (testBuzzerTurnOn ++ List.replicate 23 IndicatorEvent.advance).foldl step boot

theorem sounding_on : sounding.exio.mode .sound = true ∧ sounding.timer.time = 0 ∧
    sounding.timer.onTime .sound = 0 ∧ sounding.scheduler.pc = .idle := ⟨rfl, rfl, rfl, rfl⟩

/-- A request that is not timely loses. -/
theorem Inv.loses (h : s.Inv) {on : Bool} (hlate : ¬ s.scheduler.Timely i on) :
    ¬ (s.request (i.task on)).Settles := by
  intro hs
  have hkept : (s.request (i.task on)).Kept := (h.request _).settles_iff.mp hs
  have hmem : i.task on ∈ [i.task on] := List.mem_singleton_self _
  exact hlate ((requests_outcome s hmem (opposite_not_mem on hmem)).mp (hkept i on (request_own s i on)))

theorem inv_run (evs : List IndicatorEvent) : (evs.foldl step boot).Inv :=
  List.foldlRecOn evs step Inv.boot fun _ h e _ => h.step e

/-- Its last request is to be on, and it goes off. -/
theorem buzzerAgain_off : ∃ n, ¬ Always step LastWins boot (buzzerAgain ++ List.replicate n .advance) := by
  obtain ⟨hon, htime, honTime, hpc⟩ := sounding_on
  have hoff : ((List.replicate 7000 .timer).foldl step sounding).scheduler.waits .sound false = true :=
    seven_seconds hon htime honTime rfl
  have hpc' := (timer_ticks sounding 7000).2.2
  have hinv : ((List.replicate 7000 IndicatorEvent.timer).foldl step sounding).Inv := by
    rw [sounding, ← List.foldl_append]
    exact inv_run _
  have hrun : buzzerAgain.foldl step boot =
      ((List.replicate 7000 IndicatorEvent.timer).foldl step sounding).request
        (Indicator.task .sound true) := by
    rw [buzzerAgain, ← List.append_assoc, List.foldl_append, List.foldl_append]
    rfl
  generalize (List.replicate 7000 IndicatorEvent.timer).foldl step sounding = s at *
  have hlate : ¬ s.scheduler.Timely .sound true := by
    intro htimely
    have hat := htimely hoff
    rw [hpc', hpc] at hat
    cases hat
  obtain ⟨n, hn⟩ := not_forall.mp (hinv.loses hlate)
  refine ⟨n, fun h => hn ?_⟩
  have hend := h.foldl
  rwa [List.foldl_append, foldl_advance, hrun] at hend

end IndicatorLoop

end UdcFirmware.Drivers
