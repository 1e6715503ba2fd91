/-
Starts of the jig's tests, and their runs.

A start sets the flag of its test, and `TaskCheck` runs the routine. For the ADC and
the loopback test it also leaves the channel in the one variable that the routine
looks at, so a start on another channel that comes first takes its place: the flag
is set already, and the routine runs once. Requests are served before tests are run,
so such starts do come together. Where none does, every test is run after its last
start by the time that no flag is set (`starts_served`).
-/
import UdcFirmware.Drivers.JigRequests

namespace UdcFirmware.Drivers

open Histories Traces

/-! ## What is owed -/

/-- The task of a test. -/
def Test.task : Test → ETask
  | ioExp => .exioTest
  | eeprom => .eepromWriteRequestCheck
  | flash => .flashTest
  | ram => .ramTest
  | rtc => .rtcTest
  | tempSense => .tempSenseTest
  | isoPs => .isoPsTest
  | rs485 => .rs485Test
  | adcp _ => .adcpTest
  | loopback _ => .loopbackTest

/-- Its channel is the one that the routine would run on. -/
def Test.Chosen (s : Jig) : Test → Prop
  | adcp channel => s.adcpTestChannel = channel
  | loopback channel => s.testChannel = channel
  | _ => True

namespace Bench

/-- The test was started, and has not been run since. -/
def Owed (s : Bench) (t : Test) : Prop :=
  Since (· = .started t) (fun m => ∃ outcome, m = .ran t outcome) s.log

/-- No flag is set, and no test is owed. -/
def Served (s : Bench) : Prop := (∀ flag, s.jig.flags flag = false) → ∀ t, ¬ s.Owed t

/-- A start on a channel finds that no start of its test is pending, or one on the same channel. -/
def Free (s : Bench) : JigEvent → Prop
  | .request (.testAdcChannels 0 channelNumber) =>
    s.jig.flags .adcpTestRequest = false ∨ s.jig.adcpTestChannel = channelNumber
  | .request (.testLoopback 0 channelNumber) =>
    s.jig.flags .loopbackTestRequest = false ∨ s.jig.testChannel = channelNumber
  | _ => True

/-- What is owed will be run. -/
structure Pending (s : Bench) (t : Test) : Prop where
  eeprom : t ≠ .eeprom
  flag : s.jig.flags t.task.flag = true
  chosen : t.Chosen s.jig

def Inv (s : Bench) : Prop := ∀ t, s.Owed t → s.Pending t

theorem Inv.served {s : Bench} (h : s.Inv) : s.Served := by
  intro hnone t ho
  have hflag := (h t ho).flag
  rw [hnone] at hflag
  cases hflag

end Bench

/-! ## Requests -/

theorem Jig.setNew_sets (s : Jig) (task : ETask) : (s.setNew task).2.flags task.flag = true := by
  have hflags : (s.setNew task).2.flags = Function.update s.flags task.flag true :=
    taskSetNew_num s.flags task
  rw [hflags, Function.update_self]

namespace Bench

variable {s : Bench} {t : Test}

/-- What is started will be run. -/
theorem pending_started {r : Request} (h : r.starts = some t) : (s.step (.request r)).Pending t := by
  have hset (t : Test) := Jig.setNew_sets s.jig t.task
  unfold Request.starts at h
  split at h <;> cases h
  · exact ⟨nofun, hset .ioExp, trivial⟩
  · exact ⟨nofun, hset .flash, trivial⟩
  · exact ⟨nofun, hset .ram, trivial⟩
  · exact ⟨nofun, hset .rtc, trivial⟩
  · exact ⟨nofun, hset .tempSense, trivial⟩
  · exact ⟨nofun, hset .isoPs, trivial⟩
  · next channelNumber =>
    exact ⟨nofun, Jig.setNew_sets { s.jig with adcpTestChannel := channelNumber } .adcpTest, rfl⟩
  · exact ⟨nofun, hset .rs485, trivial⟩
  · next channelNumber =>
    exact ⟨nofun, Jig.setNew_sets { s.jig with testChannel := channelNumber } .loopbackTest, rfl⟩

/-- Nor does a request take the place of what is pending, where it has to find it free. -/
theorem Pending.request (h : s.Pending t) {r : Request} (hfree : s.Free (.request r)) :
    (s.step (.request r)).Pending t := by
  have hrequested := s.jig.requested r
  refine ⟨h.eeprom, hrequested.flags _ h.flag, ?_⟩
  have hchosen := h.chosen
  cases t with
  | adcp channel =>
    by_cases hstart : ∃ channelNumber, r = .testAdcChannels 0 channelNumber
    · obtain ⟨channelNumber, rfl⟩ := hstart
      -- The flag is set, so it is on the same channel.
      have hset : s.jig.flags .adcpTestRequest = true := h.flag
      have hsame : s.jig.adcpTestChannel = channelNumber := hfree.resolve_left (by rw [hset]; nofun)
      exact hsame.symm.trans hchosen
    · exact (hrequested.adcp fun channelNumber he => hstart ⟨channelNumber, he⟩).trans hchosen
  | loopback channel =>
    by_cases hstart : ∃ channelNumber, r = .testLoopback 0 channelNumber
    · obtain ⟨channelNumber, rfl⟩ := hstart
      have hset : s.jig.flags .loopbackTestRequest = true := h.flag
      have hsame : s.jig.testChannel = channelNumber := hfree.resolve_left (by rw [hset]; nofun)
      exact hsame.symm.trans hchosen
    · exact (hrequested.loopback fun channelNumber he => hstart ⟨channelNumber, he⟩).trans hchosen
  | _ => trivial

theorem Inv.request (h : s.Inv) {r : Request} (hfree : s.Free (.request r)) : (s.step (.request r)).Inv := by
  intro t ho
  rcases (since_toList s.log _).mp ho with ⟨m, hm, rfl⟩ | ⟨hbefore, -⟩
  · obtain ⟨t', ht', he⟩ := Option.map_eq_some_iff.mp hm
    cases he
    exact pending_started ht'
  · exact (h t hbefore).request hfree

/-! ## Runs -/

/-- A handler leaves the flags and the channels. -/
theorem handle_leaves (jig : Jig) (hw : Hardware) (h : Handler) :
    (jig.handle hw h).flags = jig.flags ∧ (jig.handle hw h).adcpTestChannel = jig.adcpTestChannel ∧
      (jig.handle hw h).testChannel = jig.testChannel := by
  cases h with
  | eepromWriteRequestCheck =>
    unfold Jig.handle Jig.eepromWriteSerialNumber
    split_ifs <;> exact ⟨rfl, rfl, rfl⟩
  | adcpFunctionTest =>
    unfold Jig.handle Jig.adcpFunctionTest
    simp only
    split_ifs <;> exact ⟨rfl, rfl, rfl⟩
  | loopBackFunctionTest =>
    show (jig.loopBackFunctionTest hw).flags = _ ∧ (jig.loopBackFunctionTest hw).adcpTestChannel = _ ∧
      (jig.loopBackFunctionTest hw).testChannel = _
    by_cases hvalid : (Test.loopback jig.testChannel).Valid
    · by_cases hchannel : jig.testChannel = 15
      · rw [jig.loopBackFunctionTest_fifteen hw hchannel]
        split_ifs <;> exact ⟨rfl, rfl, rfl⟩
      · rw [jig.loopBackFunctionTest_eq hw hvalid hchannel]
        exact ⟨rfl, rfl, rfl⟩
    · rw [jig.loopBackFunctionTest_invalid hw hvalid]
      exact ⟨rfl, rfl, rfl⟩
  | _ => exact ⟨rfl, rfl, rfl⟩

theorem Pending.setFlags (h : s.Pending t) {flags : Flags} (hflag : flags t.task.flag = true) :
    (s.setFlags flags).Pending t := by
  refine ⟨h.eeprom, hflag, ?_⟩
  have hchosen := h.chosen
  cases t <;> exact hchosen

/-- The handler of what is pending runs it. -/
theorem Pending.test (h : s.Pending t) : s.jig.test t.task.handler = some t := by
  have hchosen := h.chosen
  cases t with
  | adcp channel => exact congrArg (some <| Test.adcp ·) hchosen
  | loopback channel => exact congrArg (some <| Test.loopback ·) hchosen
  | eeprom => exact absurd rfl h.eeprom
  | _ => rfl

theorem Pending.call (h : s.Pending t) (hw : Hardware) (handler : Handler) :
    (s.call hw handler).Pending t := by
  obtain ⟨hflags, hadcp, hloopback⟩ := handle_leaves s.jig hw handler
  refine ⟨h.eeprom, ?_, ?_⟩
  · show (s.jig.handle hw handler).flags t.task.flag = true
    rw [hflags]
    exact h.flag
  · have hchosen := h.chosen
    cases t with
    | adcp channel => exact hadcp.trans hchosen
    | loopback channel => exact hloopback.trans hchosen
    | _ => trivial

/-- What is still owed after a call was owed before, and is not what was run. -/
theorem owed_call {hw : Hardware} {handler : Handler} (h : (s.call hw handler).Owed t) :
    s.Owed t ∧ s.jig.test handler ≠ some t := by
  rcases (since_toList s.log _).mp h with ⟨m, hm, rfl⟩ | ⟨hbefore, hran⟩
  · obtain ⟨t', -, he⟩ := Option.map_eq_some_iff.mp hm
    cases he
  · refine ⟨hbefore, ?_⟩
    intro htest
    exact hran _ (Option.map_eq_some_iff.mpr ⟨t, htest, rfl⟩) ⟨_, rfl⟩

theorem Inv.taskCheck (h : s.Inv) (hw : Hardware) : (s.step (.taskCheck hw)).Inv := by
  intro t ho
  unfold step at ho ⊢
  have htask := taskCheck_task s.jig.flags t.task
  generalize Drivers.taskCheck s.jig.flags = checked at ho htask ⊢
  obtain ⟨flags, handler⟩ := checked
  cases handler with
  | none =>
    have hpending := h t ho
    rcases htask with ⟨-, hhandler, -⟩ | ⟨-, hflag⟩
    · cases hhandler
    · exact hpending.setFlags (hflag.trans hpending.flag)
  | some handler =>
    obtain ⟨hbefore, htest⟩ := owed_call ho
    have hpending := h t hbefore
    rcases htask with ⟨-, hhandler, -⟩ | ⟨-, hflag⟩
    · cases hhandler
      exact absurd ((s.test_setFlags flags _).trans hpending.test) htest
    · exact (hpending.setFlags (hflag.trans hpending.flag)).call hw handler

theorem Inv.step (h : s.Inv) {e : JigEvent} (hfree : s.Free e) : (s.step e).Inv := by
  cases e with
  | request r => exact h.request hfree
  | taskSetNew taskNum =>
    intro t ho
    exact (h t ho).setFlags (taskSetNew_keeps (h t ho).flag taskNum)
  | taskCheck hw => exact h.taskCheck hw

/-- **Every started test is run.** From every state of the jig on, for every order of
requests, of other tasks and of calls of `TaskCheck`: if no start of the ADC or the
loopback test comes while one on another channel is pending, then whenever no flag is
set, the routine of each test that was started has run on its channel after the last
start. -/
theorem starts_served (jig : Jig) (evs : List JigEvent) (h : Along step Free ⟨jig, []⟩ evs) :
    Always step Served ⟨jig, []⟩ evs := by
  have hstart : Inv ⟨jig, []⟩ := fun t ho => absurd ho not_since_nil
  exact (always_of_along (fun s e hs he => hs.step he) hstart h).imp fun s hs => hs.served

/-- Two channels, the second started after the first was run. -/
theorem starts_served_inTurn : Always step Served ⟨.powerUp, []⟩
    [.request (.testAdcChannels 0 1), .taskCheck .hot, .request (.testAdcChannels 0 2), .taskCheck .hot] :=
  starts_served .powerUp _ ⟨.inl rfl, trivial, .inl rfl, trivial, trivial⟩

/-- Two channels, both started before a `TaskCheck`: the first is never run. -/
theorem together_lost : ¬ Always step Served ⟨.powerUp, []⟩
    [.request (.testAdcChannels 0 1), .request (.testAdcChannels 0 2), .taskCheck .hot] := by
  intro h
  have hlog : ([.request (.testAdcChannels 0 1), .request (.testAdcChannels 0 2), .taskCheck .hot].foldl step
      ⟨.powerUp, []⟩).log = [.started (.adcp 1), .started (.adcp 2), .ran (.adcp 2) 1] := by decide +kernel
  refine h.foldl ?_ (.adcp 1) ?_
  · intro flag
    cases flag <;> rfl
  · unfold Owed
    rw [hlog]
    exact ⟨[], .started (.adcp 1), [.started (.adcp 2), .ran (.adcp 2) 1], rfl, rfl, by simp⟩

end Bench

end UdcFirmware.Drivers
