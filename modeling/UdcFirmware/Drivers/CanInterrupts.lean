/-
`CANIntHandler` between the statements of `TaskCheck` and `CanCheck`.

`stmts` are the statements that the `CanCheck` in progress has still to make,
`newDat` the message objects that hold a frame which `CANMessageGet` has not
read. A frame that arrives and its interrupt are one event. Without frames in
between, the statements do what `canCheck` does (`check_stmts`).

`CanCheck` clears the flag of an object after it has decoded the frame. A frame
that arrives between `CANMessageGet` and there loses its flag. Without such
frames, each frame that waits has both flags set (`noticed_run`).
-/
import UdcFirmware.Lib.Traces
import UdcFirmware.Drivers.SystemTask
import UdcFirmware.Drivers.CanLatches

namespace UdcFirmware.Drivers

open Traces

/-! ## Statements -/

inductive CanStmt
  /-- `if(g_bRXFlagk)`. -/
  | ifRxFlag (k : Nat)
  | messageGet (k : Nat)
  | alarm (b : AlarmBlock)
  | itlk (b : ItlkBlock)
  /-- `g_bRXFlagk = 0;` -/
  | clearRxFlag (k : Nat)

/-- The body of `CanCheck`. -/
def CanModel.checkStmts (model : CanModel) : List CanStmt := model.objects.map .ifRxFlag

/-- What is done for an object whose flag is set. -/
def CanModel.objectStmts (model : CanModel) (k : Nat) : List CanStmt :=
  .messageGet k :: ((alarmBlocks model k).map .alarm ++ ((itlkBlocks model k).map .itlk ++ [.clearRxFlag k]))

/-- `msgData` is `pui8MsgData`. -/
structure CanLoop where
  scheduler : Scheduler
  can : Can
  msgData : CanFrame
  stmts : List CanStmt
  newDat : Nat → Bool
  errFlag : Bool

namespace CanLoop

def exec (s : CanLoop) (rest : List CanStmt) : CanStmt → CanLoop
  | .ifRxFlag k => { s with stmts := if s.can.rxFlag k then s.can.model.objectStmts k ++ rest else rest }
  | .messageGet k =>
    { s with msgData := s.can.object k, newDat := Function.update s.newDat k false, stmts := rest }
  | .alarm b => { s with can := b.run s.msgData.data s.can, stmts := rest }
  | .itlk b => { s with can := b.run s.msgData.data s.can, stmts := rest }
  | .clearRxFlag k =>
    { s with
      can := { s.can with
        rxFlag := Function.update s.can.rxFlag k false
        decoded := s.can.decoded ++ [(k, s.msgData)] }
      stmts := rest }

/-- The call of a handler. Those of the other tasks do nothing here. -/
def call (s : CanLoop) : Handler → CanLoop
  | .canCheck => { s with stmts := s.can.model.checkStmts }
  | .interlockAlarmReset => { s with can := s.can.interlockAlarmReset }
  | _ => s

/-- The next statement of the main loop. -/
def advance (s : CanLoop) : CanLoop :=
  match s.scheduler.pc with
  | .running .canCheck =>
    match s.stmts with
    | stmt :: rest => s.exec rest stmt
    | [] => { s with scheduler := s.scheduler.advance }
  | .call b => { s.call b.handler with scheduler := s.scheduler.advance }
  | _ => { s with scheduler := s.scheduler.advance }

end CanLoop

/-! ## Interrupts -/

@[simp] abbrev canIntInt0IdStatus : UInt32 := 0x8000

namespace CanLoop

/-- `CANIntHandler`, by the cause that `CANIntStatus` tells. The branches of objects 1 to 9
are alike. -/
def canIntHandler (s : CanLoop) (cause : UInt32) : CanLoop :=
  if cause = canIntInt0IdStatus then { s with errFlag := true }
  else if 1 ≤ cause.toNat ∧ cause.toNat ≤ 9 then
    { s with
      can := { s.can with rxFlag := Function.update s.can.rxFlag cause.toNat true }
      scheduler := s.scheduler.request ETask.processCanMessage.num
      errFlag := false }
  else s

/-- A frame arrives, with its interrupt. -/
def frame (s : CanLoop) (f : CanFrame) : CanLoop :=
  match s.can.accepts f.id with
  | some k =>
    canIntHandler { s with
      can := { s.can with object := Function.update s.can.object k f }
      newDat := Function.update s.newDat k true } (UInt32.ofNat k)
  | none => s

end CanLoop

/-- `interrupt` is an interrupt of the CAN controller without a new frame, `request`
what another interrupt handler or a task asks for. -/
inductive LoopEvent
  | frame (f : CanFrame)
  | interrupt (cause : UInt32)
  | request (taskNum : UInt8)
  | advance

namespace CanLoop

def step (s : CanLoop) : LoopEvent → CanLoop
  | .frame f => s.frame f
  | .interrupt cause => s.canIntHandler cause
  | .request taskNum => { s with scheduler := s.scheduler.request taskNum }
  | .advance => s.advance

/-- After `InitCanBkp`. -/
def boot (model : CanModel) : CanLoop where
  scheduler := .init
  can := .boot model
  msgData := ⟨0, fun _ => 0⟩
  stmts := []
  newDat _ := false
  errFlag := false

variable (s : CanLoop)

/-- `TaskCheck` has cleared its flag for a `CanCheck` that has not returned. -/
def Checking : Prop :=
  s.scheduler.pc = .running .canCheck ∨ ∃ b, s.scheduler.pc = .call b ∧ b.handler = .canCheck

/-- Outside of `CanCheck`, every frame that waits has both flags set. -/
def Noticed : Prop :=
  ¬ s.Checking → ∀ k ∈ s.can.model.objects, s.newDat k = true →
    s.can.rxFlag k = true ∧ s.scheduler.flags .processCanMess = true

/-- The object was read, and its flag has still to be cleared. -/
def InWindow (k : Nat) : Prop := .clearRxFlag k ∈ s.stmts ∧ .messageGet k ∉ s.stmts

/-- No frame arrives in the window of its object. -/
def OutsideWindow : LoopEvent → Prop
  | .frame f => ∀ k, s.can.accepts f.id = some k → ¬ s.InWindow k
  | _ => True

/-! ## The statements do what `canCheck` does -/

variable {s} {k : Nat} {rest : List CanStmt}

/-- One statement of a `CanCheck`. -/
theorem advance_stmt (hpc : s.scheduler.pc = .running .canCheck) {stmt : CanStmt}
    (hs : s.stmts = stmt :: rest) : s.advance = s.exec rest stmt := by
  simp only [advance, hpc, hs]

/-- Some statements of a `CanCheck`, one after the other. -/
def Executes (s s' : CanLoop) : Prop := s'.scheduler = s.scheduler ∧ ∃ n, advance^[n] s = s'

theorem Executes.refl (s : CanLoop) : Executes s s := ⟨rfl, 0, rfl⟩

theorem Executes.head {s' : CanLoop} (hpc : s.scheduler.pc = .running .canCheck) {stmt : CanStmt}
    (hs : s.stmts = stmt :: rest) (h : Executes (s.exec rest stmt) s') : Executes s s' := by
  obtain ⟨hsched, n, hn⟩ := h
  refine ⟨hsched.trans (by cases stmt <;> rfl), n + 1, ?_⟩
  rw [Function.iterate_succ_apply, advance_stmt hpc hs, hn]

theorem Executes.trans {s₁ s₂ : CanLoop} (h : Executes s s₁) (h' : Executes s₁ s₂) : Executes s s₂ := by
  obtain ⟨hsched, n, hn⟩ := h
  obtain ⟨hsched', m, hm⟩ := h'
  exact ⟨hsched'.trans hsched, m + n, by rw [Function.iterate_add_apply, hn, hm]⟩

theorem Executes.pc {s' : CanLoop} (h : Executes s s') (hpc : s.scheduler.pc = .running .canCheck) :
    s'.scheduler.pc = .running .canCheck := by
  rw [h.1, hpc]

/-- A row of blocks, one statement each. -/
theorem executes_blocks {B : Type} {stmt : B → CanStmt} {run : (Fin 8 → UInt8) → Can → B → Can}
    (hexec : ∀ (s : CanLoop) rest b, s.exec rest (stmt b) =
      { s with can := run s.msgData.data s.can b, stmts := rest })
    (l : List B) (hpc : s.scheduler.pc = .running .canCheck) (hs : s.stmts = l.map stmt ++ rest) :
    ∃ s', Executes s s' ∧ s'.msgData = s.msgData ∧ s'.can = l.foldl (run s.msgData.data) s.can ∧
      s'.stmts = rest := by
  induction l generalizing s with
  | nil => exact ⟨s, .refl s, rfl, rfl, hs⟩
  | cons b l ih =>
    have hone := hexec s (l.map stmt ++ rest) b
    obtain ⟨s', hex, hmsg, hcan, hstmts⟩ := ih (s := s.exec (l.map stmt ++ rest) (stmt b))
      (by rw [hone]; exact hpc) (by rw [hone])
    rw [hone] at hmsg hcan
    exact ⟨s', .head hpc hs hex, hmsg, hcan, hstmts⟩

theorem executes_object (hpc : s.scheduler.pc = .running .canCheck) (hs : s.stmts = .ifRxFlag k :: rest) :
    ∃ s', Executes s s' ∧ s'.can = s.can.checkObject k ∧ s'.stmts = rest := by
  cases hrx : s.can.rxFlag k with
  | false =>
    have hcheck : s.can.checkObject k = s.can := if_neg (by rw [hrx]; exact Bool.false_ne_true)
    refine ⟨s.exec rest (.ifRxFlag k), .head hpc hs (.refl _), hcheck.symm, ?_⟩
    simp [exec, hrx]
  | true =>
    let s₁ := s.exec rest (.ifRxFlag k)
    have hs₁ : s₁.stmts = .messageGet k :: ((alarmBlocks s.can.model k).map .alarm ++
        ((itlkBlocks s.can.model k).map .itlk ++ .clearRxFlag k :: rest)) := by
      simp [s₁, exec, hrx, CanModel.objectStmts]
    have hex₁ : Executes s (s₁.exec _ (.messageGet k)) :=
      .head hpc hs (.head hpc hs₁ (.refl _))
    obtain ⟨s₂, hex₂, hmsg₂, hcan₂, hs₂⟩ := executes_blocks (fun _ _ _ => rfl)
      (alarmBlocks s.can.model k) (hex₁.pc hpc) rfl
    obtain ⟨s₃, hex₃, hmsg₃, hcan₃, hs₃⟩ := executes_blocks (fun _ _ _ => rfl)
      (itlkBlocks s.can.model k) ((hex₁.trans hex₂).pc hpc) hs₂
    have hex := (hex₁.trans hex₂).trans hex₃
    refine ⟨s₃.exec rest (.clearRxFlag k), hex.trans (.head (hex.pc hpc) hs₃ (.refl _)), ?_, rfl⟩
    have hmsg : s₃.msgData = s.can.object k := hmsg₃.trans hmsg₂
    have hcheck : s.can.checkObject k = { s.can.decode k (s.can.object k) with
        rxFlag := Function.update (s.can.decode k (s.can.object k)).rxFlag k false } := if_pos hrx
    have hmodel : ((alarmBlocks s.can.model k).foldl (AlarmBlock.run (s.can.object k).data) s.can).model =
        s.can.model := by
      rw [alarms_fold]
    rw [hcheck]
    simp only [exec, hmsg, hcan₃, hcan₂, hmsg₂, Can.decode, hmodel]
    rfl

theorem executes_objects (ks : List Nat) (hpc : s.scheduler.pc = .running .canCheck)
    (hs : s.stmts = ks.map .ifRxFlag) :
    ∃ s', Executes s s' ∧ s'.can = ks.foldl Can.checkObject s.can ∧ s'.stmts = [] := by
  induction ks generalizing s with
  | nil => exact ⟨s, .refl s, rfl, hs⟩
  | cons k ks ih =>
    obtain ⟨s₁, hex₁, hcan₁, hs₁⟩ := executes_object hpc hs
    obtain ⟨s', hex, hcan, hstmts⟩ := ih (hex₁.pc hpc) hs₁
    exact ⟨s', hex₁.trans hex, by rw [hcan, hcan₁]; rfl, hstmts⟩

/-- Without interrupts, a `CanCheck` that is called comes out as `canCheck`. -/
theorem check_stmts (hpc : s.scheduler.pc = .running .canCheck) (hs : s.stmts = s.can.model.checkStmts) :
    ∃ s', Executes s s' ∧ s'.can = s.can.canCheck ∧ s'.stmts = [] :=
  executes_objects _ hpc hs

/-! ## What waits is read -/

/-- `TaskCheck` has to call `CanCheck`. -/
def Due (scheduler : Scheduler) : Prop :=
  scheduler.flags .processCanMess = true ∨ ∃ b, scheduler.pc = .call b ∧ b.handler = .canCheck

/-- The frame of an object will be read: its flag is set, and either `TaskCheck` will call
`CanCheck`, or the one in progress has still to come to it. -/
def Waits (s : CanLoop) (k : Nat) : Prop :=
  s.can.rxFlag k = true ∧ (Due s.scheduler ∨ .ifRxFlag k ∈ s.stmts ∨ .messageGet k ∈ s.stmts)

structure Inv (s : CanLoop) : Prop where
  scheduler : s.scheduler.Inv
  idle : s.scheduler.pc ≠ .running .canCheck → s.stmts = []
  /-- `CANMessageGet` comes right after the test of its object. -/
  head : ∀ k, .messageGet k ∉ s.stmts.tail
  window : ∀ k, s.InWindow k → s.newDat k = false
  waits : ∀ k ∈ s.can.model.objects, s.newDat k = true → s.Waits k

theorem Inv.boot (model : CanModel) : (CanLoop.boot model).Inv where
  scheduler := Scheduler.inv_init
  idle _ := rfl
  head _ := List.not_mem_nil
  window _ _ := rfl
  waits _ _ h := by cases h

/-- Outside of `CanCheck`, that is both flags. -/
theorem Inv.noticed (h : s.Inv) : s.Noticed := by
  intro hcheck k hk hnew
  obtain ⟨hrx, hflag⟩ := h.waits k hk hnew
  have hpc : s.scheduler.pc ≠ .running .canCheck := fun hpc => hcheck (.inl hpc)
  rw [h.idle hpc] at hflag
  rcases hflag with (hflag | hcall) | hmem | hmem
  · exact ⟨hrx, hflag⟩
  · exact absurd (.inr hcall) hcheck
  · cases hmem
  · cases hmem

theorem objectStmts_clear {model : CanModel} {j : Nat} (h : .clearRxFlag j ∈ model.objectStmts k) :
    j = k := by
  simpa [CanModel.objectStmts] using h

theorem objectStmts_tail (model : CanModel) (k j : Nat) : .messageGet j ∉ (model.objectStmts k).tail := by
  simp [CanModel.objectStmts]

/-- A statement that is done with leaves what the others do. -/
theorem Inv.done (h : s.Inv) (hpc : s.scheduler.pc = .running .canCheck) {stmt : CanStmt}
    (hs : s.stmts = stmt :: rest) {can : Can} {msgData : CanFrame} {newDat : Nat → Bool}
    (hmodel : can.model = s.can.model)
    (hwindow : ∀ j, .clearRxFlag j ∈ rest → s.newDat j = false → newDat j = false)
    (hget : ∀ j, stmt = .messageGet j → newDat j = false)
    (hwaits : ∀ j ∈ s.can.model.objects, newDat j = true → s.newDat j = true ∧
      stmt ≠ .ifRxFlag j ∧ (s.can.rxFlag j = true → can.rxFlag j = true)) :
    Inv { s with can := can, msgData := msgData, stmts := rest, newDat := newDat } := by
  have hhead : ∀ j, .messageGet j ∉ rest := fun j => by simpa [hs] using h.head j
  refine ⟨h.scheduler, fun hne => absurd hpc hne, fun j hj => hhead j (List.mem_of_mem_tail hj), ?_, ?_⟩
  · intro j hin
    have hclear := hin.1
    by_cases hj : stmt = .messageGet j
    · exact hget j hj
    · refine hwindow j hclear (h.window j ⟨?_, ?_⟩)
      · rw [hs]
        exact List.mem_cons_of_mem _ hclear
      · rw [hs, List.mem_cons, not_or]
        exact ⟨Ne.symm hj, hhead j⟩
  · intro j hj hnew
    obtain ⟨hold, hne, hrx⟩ := hwaits j (hmodel ▸ hj) hnew
    obtain ⟨hflag, hread⟩ := h.waits j (hmodel ▸ hj) hold
    refine ⟨hrx hflag, hread.imp_right (.imp ?_ ?_)⟩
    · intro hmem
      rw [hs] at hmem
      exact (List.mem_cons.mp hmem).resolve_left hne.symm
    · intro hmem
      rw [hs] at hmem
      refine (List.mem_cons.mp hmem).resolve_left fun he => ?_
      cases (hget j he.symm).symm.trans hnew

/-- An object without a frame is passed over. -/
theorem Inv.skip (h : s.Inv) (hpc : s.scheduler.pc = .running .canCheck)
    (hs : s.stmts = .ifRxFlag k :: rest) (hrx : s.can.rxFlag k = false) : Inv { s with stmts := rest } := by
  refine h.done hpc hs rfl (fun _ _ hj => hj) nofun fun j hj hnew => ⟨hnew, ?_, id⟩
  intro he
  cases he
  cases hrx.symm.trans (h.waits k hj hnew).1

/-- The statements for an object begin with its `CANMessageGet`. -/
theorem Inv.enter (h : s.Inv) (hpc : s.scheduler.pc = .running .canCheck)
    (hs : s.stmts = .ifRxFlag k :: rest) : Inv { s with stmts := s.can.model.objectStmts k ++ rest } := by
  have hhead : ∀ j, .messageGet j ∉ rest := fun j => by simpa [hs] using h.head j
  refine ⟨h.scheduler, fun hne => absurd hpc hne, fun j hj => ?_, fun j hj => ?_, fun j hj hnew => ?_⟩
  · exact (List.mem_append.mp hj).elim (objectStmts_tail _ k j) (hhead j)
  · obtain ⟨hclear, hget⟩ := hj
    rcases List.mem_append.mp hclear with hmem | hmem
    · cases objectStmts_clear hmem
      exact absurd (List.mem_append_left _ List.mem_cons_self) hget
    · refine h.window j ⟨?_, ?_⟩
      · rw [hs]
        exact List.mem_cons_of_mem _ hmem
      · rw [hs, List.mem_cons, not_or]
        exact ⟨nofun, hhead j⟩
  · obtain ⟨hflag, hread⟩ := h.waits j hj hnew
    refine ⟨hflag, hread.imp_right fun hmem => ?_⟩
    rw [hs] at hmem
    rcases hmem with hmem | hmem
    · rcases List.mem_cons.mp hmem with he | hmem
      · cases he
        exact .inr (List.mem_append_left _ List.mem_cons_self)
      · exact .inl (List.mem_append_right _ hmem)
    · exact .inr (List.mem_append_right _ ((List.mem_cons.mp hmem).resolve_left nofun))

theorem Inv.messageGet (h : s.Inv) (hpc : s.scheduler.pc = .running .canCheck)
    (hs : s.stmts = .messageGet k :: rest) : (s.exec rest (.messageGet k)).Inv := by
  refine h.done hpc hs rfl (fun j _ hj => ?_) (fun j he => ?_) fun j _ hnew => ⟨?_, nofun, id⟩
  · by_cases hjk : j = k
    · rw [hjk, Function.update_self]
    · rw [Function.update_of_ne hjk]
      exact hj
  · cases he
    exact Function.update_self ..
  · by_cases hjk : j = k
    · rw [hjk, Function.update_self] at hnew
      cases hnew
    · rw [Function.update_of_ne hjk] at hnew
      exact hnew

/-- The frame that was read is the last one. -/
theorem Inv.clearRxFlag (h : s.Inv) (hpc : s.scheduler.pc = .running .canCheck)
    (hs : s.stmts = .clearRxFlag k :: rest) : (s.exec rest (.clearRxFlag k)).Inv := by
  have hread : s.newDat k = false := by
    refine h.window k ⟨?_, ?_⟩
    · rw [hs]
      exact List.mem_cons_self
    · rw [hs, List.mem_cons, not_or]
      exact ⟨nofun, by simpa [hs] using h.head k⟩
  refine h.done hpc hs rfl (fun _ _ hj => hj) nofun fun j _ hnew => ⟨hnew, nofun, fun hrx => ?_⟩
  have hjk : j ≠ k := by
    intro he
    cases he
    cases hread.symm.trans hnew
  exact (Function.update_of_ne hjk _ _).trans hrx

theorem Inv.exec (h : s.Inv) {stmt : CanStmt} (hpc : s.scheduler.pc = .running .canCheck)
    (hs : s.stmts = stmt :: rest) : (s.exec rest stmt).Inv := by
  cases stmt with
  | ifRxFlag k =>
    simp only [CanLoop.exec]
    cases hrx : s.can.rxFlag k with
    | true => exact h.enter hpc hs
    | false => exact h.skip hpc hs hrx
  | messageGet k => exact h.messageGet hpc hs
  | alarm b =>
    have hrun := b.run_eq s.msgData.data s.can
    refine h.done hpc hs (by rw [hrun]) (fun _ _ hj => hj) nofun fun j _ hnew => ⟨hnew, nofun, ?_⟩
    rw [hrun]
    exact id
  | itlk b =>
    have hrun := b.run_eq s.msgData.data s.can
    refine h.done hpc hs (by rw [hrun]) (fun _ _ hj => hj) nofun fun j _ hnew => ⟨hnew, nofun, ?_⟩
    rw [hrun]
    exact id
  | clearRxFlag k => exact h.clearRxFlag hpc hs

/-- `TaskCheck` clears `PROCESS_CAN_MESS` only to call `CanCheck`. -/
theorem Due.advance {scheduler : Scheduler} (h : scheduler.Inv) (hd : Due scheduler)
    (hcall : ∀ b, scheduler.pc = .call b → b.handler ≠ .canCheck) : Due scheduler.advance := by
  have hflag : scheduler.flags .processCanMess = true := by
    refine hd.resolve_right ?_
    rintro ⟨b, hpc, hb⟩
    exact hcall b hpc hb
  have hat := h.pc
  unfold Scheduler.advance
  split
  · exact .inl hflag
  · exact .inl hflag
  · exact .inl hflag
  · next b hpc =>
    rw [hpc] at hat
    obtain ⟨-, -, -, task, -, -, -, rfl, -⟩ := hat
    by_cases htask : task = .processCanMessage
    · exact .inr ⟨_, rfl, by rw [htask]; rfl⟩
    · refine .inl ?_
      have hother := update_flag scheduler.flags task .processCanMessage false
      rw [if_neg (Ne.symm htask)] at hother
      exact hother.trans hflag
  · exact .inl hflag
  · exact .inl hflag

/-- A statement of the main loop outside of `CanCheck`. -/
theorem Inv.schedule (h : s.Inv) (hs : s.stmts = [])
    (hcall : ∀ b, s.scheduler.pc = .call b → b.handler ≠ .canCheck)
    {can : Can} (hmodel : can.model = s.can.model) (hrx : can.rxFlag = s.can.rxFlag) :
    Inv { s with scheduler := s.scheduler.advance, can := can } := by
  refine ⟨h.scheduler.advance, fun _ => hs, h.head, h.window, fun k hk hnew => ?_⟩
  obtain ⟨hflag, hread⟩ := h.waits k (hmodel ▸ hk) hnew
  rw [hs] at hread
  have hdue : Due s.scheduler := hread.resolve_right (by simp)
  exact ⟨(congrFun hrx k).trans hflag, .inl (hdue.advance h.scheduler hcall)⟩

/-- The `CanCheck` that is called has to come to every object. -/
theorem Inv.callCheck (h : s.Inv) {b : Branch} (hpc : s.scheduler.pc = .call b)
    (hb : b.handler = .canCheck) :
    Inv { s with scheduler := s.scheduler.advance, stmts := s.can.model.checkStmts } := by
  have hpc' : s.scheduler.advance.pc = .running .canCheck := by
    simp only [Scheduler.advance, hpc, hb]
  refine ⟨h.scheduler.advance, fun hne => absurd hpc' hne, fun k hk => ?_, fun k hk => ?_,
    fun k hk hnew => ?_⟩
  · simpa [CanModel.checkStmts] using List.mem_of_mem_tail hk
  · simpa [CanModel.checkStmts] using hk.1
  · exact ⟨(h.waits k hk hnew).1, .inr (.inl (List.mem_map_of_mem hk))⟩

theorem Inv.advance (h : s.Inv) : s.advance.Inv := by
  unfold CanLoop.advance
  split
  · next hpc =>
    split
    · next stmt rest hs => exact h.exec hpc hs
    · next hs =>
      refine h.schedule hs (fun b hb => ?_) rfl rfl
      cases hpc.symm.trans hb
  · next b hpc =>
    have hs : s.stmts = [] := h.idle fun he => by cases hpc.symm.trans he
    have hcall : b.handler ≠ .canCheck → ∀ b', s.scheduler.pc = .call b' → b'.handler ≠ .canCheck := by
      intro hb b' hb'
      cases hpc.symm.trans hb'
      exact hb
    unfold CanLoop.call
    split
    · next hb => exact h.callCheck hpc hb
    · next hb => exact h.schedule hs (hcall (by rw [hb]; exact nofun)) rfl rfl
    · next hb _ => exact h.schedule hs (hcall hb) rfl rfl
  · next hcheck hcall =>
    exact h.schedule (h.idle hcheck) (fun b hb => absurd hb (hcall b)) rfl rfl

theorem Due.request {scheduler : Scheduler} (h : Due scheduler) (taskNum : UInt8) :
    Due (scheduler.request taskNum) :=
  h.imp (fun hflag => taskSetNew_keeps hflag taskNum) id

theorem Inv.request (h : s.Inv) (taskNum : UInt8) :
    Inv { s with scheduler := s.scheduler.request taskNum } := by
  refine ⟨h.scheduler.request taskNum, h.idle, h.head, h.window, fun k hk hnew => ?_⟩
  obtain ⟨hflag, hread⟩ := h.waits k hk hnew
  exact ⟨hflag, hread.imp_left (·.request taskNum)⟩

theorem Inv.canIntHandler (h : s.Inv) (cause : UInt32) : (s.canIntHandler cause).Inv := by
  unfold CanLoop.canIntHandler
  split
  · exact ⟨h.scheduler, h.idle, h.head, h.window, h.waits⟩
  · split
    · have hreq := h.request ETask.processCanMessage.num
      refine ⟨hreq.scheduler, h.idle, h.head, h.window, fun k hk hnew => ?_⟩
      obtain ⟨hflag, hread⟩ := hreq.waits k hk hnew
      refine ⟨?_, hread⟩
      by_cases hc : k = cause.toNat
      · rw [hc]
        exact Function.update_self ..
      · exact (Function.update_of_ne hc _ _).trans hflag
    · exact h

/-- The objects of the models are among those that `CANIntHandler` has a branch for. -/
theorem object_cause (model : CanModel) : ∀ k ∈ model.objects,
    UInt32.ofNat k ≠ canIntInt0IdStatus ∧ (UInt32.ofNat k).toNat = k ∧ 1 ≤ k ∧ k ≤ 9 := by
  cases model <;> decide

theorem Inv.frame (h : s.Inv) {f : CanFrame} (hf : s.OutsideWindow (.frame f)) : (s.frame f).Inv := by
  unfold CanLoop.frame
  split
  · next k hk =>
    have hwindow : ∀ j, s.InWindow j → Function.update s.newDat k true j = false := by
      intro j hj
      have hjk : j ≠ k := fun he => hf k hk (he ▸ hj)
      rw [Function.update_of_ne hjk]
      exact h.window j hj
    by_cases hobject : k ∈ s.can.model.objects
    · obtain ⟨hstatus, hcause, hlow, hhigh⟩ := object_cause s.can.model k hobject
      rw [CanLoop.canIntHandler, if_neg hstatus, hcause, if_pos ⟨hlow, hhigh⟩]
      refine ⟨h.scheduler.request _, h.idle, h.head, hwindow, fun j hj hnew => ⟨?_, .inl (.inl ?_)⟩⟩
      · by_cases hjk : j = k
        · rw [hjk]
          exact Function.update_self ..
        · have hold : s.newDat j = true := (Function.update_of_ne hjk _ _).symm.trans hnew
          exact (Function.update_of_ne hjk _ _).trans (h.waits j hj hold).1
      · show (taskSetNew s.scheduler.flags ETask.processCanMessage.num).1 .processCanMess = true
        rw [taskSetNew_num]
        exact Function.update_self ..
    · have harrived : Inv { s with
          can := { s.can with object := Function.update s.can.object k f }
          newDat := Function.update s.newDat k true } := by
        refine ⟨h.scheduler, h.idle, h.head, hwindow, fun j hj hnew => ?_⟩
        have hjk : j ≠ k := fun he => hobject (he ▸ hj)
        exact h.waits j hj ((Function.update_of_ne hjk _ _).symm.trans hnew)
      exact harrived.canIntHandler _
  · exact h

theorem Inv.step (h : s.Inv) {e : LoopEvent} (he : s.OutsideWindow e) : (s.step e).Inv := by
  cases e with
  | frame f => exact h.frame he
  | interrupt cause => exact h.canIntHandler cause
  | request taskNum => exact h.request taskNum
  | advance => exact h.advance

/-- **No frame is left unread.** For every model, in every run of the main
loop from power-up, with interrupts and frames between any two statements, in
which no frame arrives between the `CANMessageGet` of its object and the
statement that clears its flag: always, outside of `CanCheck`, an object that
holds a frame has its flag set, and `PROCESS_CAN_MESS` is set. -/
theorem noticed_run (model : CanModel) (evs : List LoopEvent)
    (h : Along step OutsideWindow (boot model) evs) : Always step Noticed (boot model) evs :=
  (always_of_along (I := Inv) (fun _ _ hs he => hs.step he) (.boot model) h).imp fun _ hs => hs.noticed

/-- A frame of the first object of `FAP_DCDC_20kHz`. -/
def firstFrame : CanFrame := ⟨0x010, fun _ => 0⟩

/-- One frame, another before it is read, and one after the flag is cleared. -/
theorem noticed_twice :
    Always step Noticed (boot .fapDcdc20kHz)
      ([.frame firstFrame, .advance, .advance, .frame firstFrame] ++ List.replicate 5 .advance ++
        [.frame firstFrame, .advance, .advance, .advance, .advance, .advance]) := by
  refine noticed_run .fapDcdc20kHz _
    ⟨fun _ _ h => (nomatch h.1), trivial, trivial, fun _ _ h => (nomatch h.1), trivial, trivial, trivial,
      trivial, trivial, fun k _ h => ?_, trivial, trivial, trivial, trivial, trivial, trivial⟩
  -- the flag of the first object is cleared
  have hleft : CanStmt.clearRxFlag k ∈ [.ifRxFlag 2, .ifRxFlag 3, .ifRxFlag 4, .ifRxFlag 5] := h.1
  simp at hleft

/-- `CanCheck` has read the frame when the second one arrives, and clears its flag. -/
def lateFrame : List LoopEvent :=
  [.frame firstFrame, .advance, .advance, .advance, .advance, .advance, .advance, .frame firstFrame,
    .advance, .advance, .advance, .advance, .advance, .advance]

theorem lateFrame_unread : ¬ Always step Noticed (boot .fapDcdc20kHz) lateFrame := by
  intro h
  have hpc : (lateFrame.foldl step (boot .fapDcdc20kHz)).scheduler.pc = .idle := rfl
  have hcheck : ¬ Checking (lateFrame.foldl step (boot .fapDcdc20kHz)) := by
    rintro (hrun | ⟨b, hcall, -⟩)
    · cases hpc.symm.trans hrun
    · cases hpc.symm.trans hcall
  have hflag : (lateFrame.foldl step (boot .fapDcdc20kHz)).can.rxFlag 1 = true :=
    (h.foldl hcheck 1 (by decide) rfl).1
  revert hflag
  decide +kernel

end CanLoop

end UdcFirmware.Drivers
