/-
Interlocks that stand.

Most interlocks are raised only when their status field is not set yet. The
fields and the fault words are kept together: a field that is set has the bit of
its block in the words (`Latched`). A reset clears the words, and every one of
these fields (`edge_cleared`). So a frame with the source's bit raises the fault
in any state, and after a reset the first such frame sends the flag again. The
bit that is raised is the source's own, but for the two interlocks whose blocks
raise another one: theirs is never set (`persisting_fault_iff`).
-/
import UdcFirmware.Lib.Traces
import UdcFirmware.Drivers.CanDecoding
import UdcFirmware.Drivers.CanSources

namespace UdcFirmware.Drivers

open Traces Unions

variable {s : Can} {k : Nat}

/-- The bit is in its word. -/
def FaultBit.In (fault : FaultBit) (s : Can) : Prop :=
  Within (· ||| ·) fault.hardBits s.hardInterlocks ∧ Within (· ||| ·) fault.softBits s.softInterlocks

/-- A field of a kind that is raised once, and is set, has its fault bit set. -/
def Latched (s : Can) : Prop :=
  ∀ k ∈ s.model.objects, ∀ b ∈ itlkBlocks s.model k, b.edge → s.status b.field → b.fault.In s

/-- `InterlockStatusClear` has the fields of all interlocks that are raised once. -/
theorem edge_cleared (model : CanModel) :
    ∀ k ∈ model.objects, ∀ b ∈ itlkBlocks model k, b.edge → b.field ∈ Can.clearedFields := by
  cases model <;> decide +kernel

theorem field_mem {model : CanModel} {b : ItlkBlock} (hb : b ∈ itlkBlocks model k) :
    b.field ∈ fields model k :=
  List.mem_append_right _ (List.mem_map_of_mem hb)

/-! ## Frames -/

/-- Bits stay when a frame is decoded. -/
theorem FaultBit.In.decode {fault : FaultBit} (h : fault.In s) (hk : k ∈ s.model.objects) (f : CanFrame) :
    fault.In (s.decode k f) := by
  rw [FaultBit.In, s.decode_eq f hk]
  exact ⟨h.1.gather _, h.2.gather _⟩

theorem raised_in (hk : k ∈ s.model.objects) {f : CanFrame} {b : ItlkBlock} (hb : b ∈ s.raised k f) :
    b.fault.In (s.decode k f) := by
  have hhard : b.fault.hardBits ∈ (s.raised k f).map (·.fault.hardBits) := List.mem_map_of_mem hb
  have hsoft : b.fault.softBits ∈ (s.raised k f).map (·.fault.softBits) := List.mem_map_of_mem hb
  rw [FaultBit.In, s.decode_eq f hk]
  exact ⟨within_gather_of_mem hhard _, within_gather_of_mem hsoft _⟩

/-- A source whose bit is set has its fault bit set afterwards. -/
theorem Latched.active_in (h : Latched s) (hk : k ∈ s.model.objects) {f : CanFrame} {b : ItlkBlock}
    (hb : b ∈ itlkBlocks s.model k) (hact : b.active f.data) : b.fault.In (s.decode k f) := by
  by_cases hset : b.edge ∧ s.status b.field
  · exact (h k hk b hb hset.1 hset.2).decode hk f
  · refine raised_in hk (List.mem_filter.mpr ⟨hb, ?_⟩)
    simp only [ItlkBlock.raises, hact, Bool.true_and, Bool.not_eq_true', Bool.and_eq_false_iff]
    rcases not_and_or.mp hset with he | he
    · exact .inl (Bool.eq_false_iff.mpr he)
    · exact .inr (Bool.eq_false_iff.mpr he)

theorem Latched.decode (h : Latched s) (hk : k ∈ s.model.objects) (f : CanFrame) :
    Latched (s.decode k f) := by
  have hmodel : (s.decode k f).model = s.model := by rw [s.decode_eq f hk]
  intro j hj b hb hedge hset
  rw [hmodel] at hj hb
  by_cases hjk : j = k
  · subst hjk
    rw [Can.decode_itlk hk hb] at hset
    exact h.active_in hk hb hset
  · have hother : b.field ∉ fields s.model k := fields_disjoint s.model j hj k hk hjk _ (field_mem hb)
    rw [Can.decode_other hk hother] at hset
    exact (h j hj b hb hedge hset).decode hk f

/-! ## Frames that wait -/

theorem decode_model (hk : k ∈ s.model.objects) (f : CanFrame) : (s.decode k f).model = s.model := by
  rw [s.decode_eq f hk]

/-- What each frame keeps, a row of frames keeps. -/
theorem decodeAll_keeps {I : Can → Prop} {l : List (Nat × CanFrame)} {model : CanModel}
    (hstep : ∀ s, I s → s.model = model → ∀ kf ∈ l, I (s.decode kf.1 kf.2))
    (hl : ∀ kf ∈ l, kf.1 ∈ model.objects) (hi : I s) (hmodel : s.model = model) : I (s.decodeAll l) := by
  induction l generalizing s with
  | nil => exact hi
  | cons kf l ih =>
    have hk : kf.1 ∈ s.model.objects := hmodel ▸ hl kf List.mem_cons_self
    exact ih (fun s hs hm kf' hkf' => hstep s hs hm kf' (List.mem_cons_of_mem kf hkf'))
      (fun kf' hkf' => hl kf' (List.mem_cons_of_mem kf hkf')) (hstep s hi hmodel kf List.mem_cons_self)
      ((decode_model hk kf.2).trans hmodel)

theorem FaultBit.In.decodeAll {fault : FaultBit} (h : fault.In s) {l : List (Nat × CanFrame)}
    (hl : ∀ kf ∈ l, kf.1 ∈ s.model.objects) : fault.In (s.decodeAll l) :=
  decodeAll_keeps (fun _ hs hm kf hkf => hs.decode (hm ▸ hl kf hkf) kf.2) hl h rfl

theorem Latched.decodeAll (h : Latched s) {l : List (Nat × CanFrame)}
    (hl : ∀ kf ∈ l, kf.1 ∈ s.model.objects) : Latched (s.decodeAll l) :=
  decodeAll_keeps (fun _ hs hm kf hkf => hs.decode (hm ▸ hl kf hkf) kf.2) hl h rfl

/-! ## Runs -/

theorem canCheck_model (s : Can) : s.canCheck.model = s.model := by
  rw [s.canCheck_eq]
  exact (Can.decodeAll_frame (Can.waiting_objects _)).1

theorem receive_model (s : Can) (f : CanFrame) : (s.receive f).model = s.model := by
  unfold Can.receive
  split <;> rfl

theorem step_model (s : Can) (e : CanEvent) : (s.step e).model = s.model := by
  cases e with
  | frame f => exact receive_model s f
  | canCheck => exact canCheck_model s
  | interlockAlarmReset => rfl
  | alarmStatusClear => rfl

/-- A frame that arrives changes its object only. -/
theorem receive_words (s : Can) (f : CanFrame) :
    (s.receive f).status = s.status ∧ (s.receive f).hardInterlocks = s.hardInterlocks ∧
      (s.receive f).softInterlocks = s.softInterlocks := by
  unfold Can.receive
  split <;> exact ⟨rfl, rfl, rfl⟩

theorem Latched.step (h : Latched s) (e : CanEvent) : Latched (s.step e) := by
  cases e with
  | frame f =>
    obtain ⟨hstatus, hhard, hsoft⟩ := receive_words s f
    intro k hk b hb hedge hset
    simp only [Can.step, receive_model, hstatus] at hk hb hset
    have hin := h k hk b hb hedge hset
    unfold FaultBit.In at hin ⊢
    simp only [Can.step, hhard, hsoft]
    exact hin
  | canCheck =>
    simp only [Can.step, s.canCheck_eq]
    exact h.decodeAll (Can.waiting_objects _)
  | interlockAlarmReset =>
    intro k hk b hb hedge hset
    have hclear : (s.step .interlockAlarmReset).status b.field = false :=
      if_pos (edge_cleared s.model k hk b hb hedge)
    rw [hclear] at hset
    cases hset
  | alarmStatusClear => exact h

/-- After `InitCanBkp`. -/
def Can.boot (model : CanModel) : Can := (Can.powerUp model).initCanBkp

theorem boot_eq (model : CanModel) :
    Can.boot model = { Can.powerUp model with filter := (Can.boot model).filter } := by
  cases model <;> rfl

theorem Latched.run (model : CanModel) (evs : List CanEvent) :
    Latched (evs.foldl Can.step (.boot model)) := by
  refine List.foldlRecOn evs _ ?_ fun s hs e _ => hs.step e
  intro k _ b _ _ hset
  rw [boot_eq] at hset
  cases hset

theorem run_model (s : Can) (evs : List CanEvent) : (evs.foldl Can.step s).model = s.model := by
  induction evs generalizing s with
  | nil => rfl
  | cons e evs ih => exact (ih (s.step e)).trans (step_model s e)

theorem boot_model (model : CanModel) (evs : List CanEvent) :
    (evs.foldl Can.step (.boot model)).model = model := by
  rw [run_model, boot_eq]
  rfl

/-- Without a reset, bits stay. -/
theorem FaultBit.In.run {fault : FaultBit} (h : fault.In s) {evs : List CanEvent}
    (hevs : CanEvent.interlockAlarmReset ∉ evs) : fault.In (evs.foldl Can.step s) := by
  refine List.foldlRecOn evs _ h fun s hs e he => ?_
  cases e with
  | frame f =>
    obtain ⟨-, hhard, hsoft⟩ := receive_words s f
    unfold FaultBit.In at hs ⊢
    simp only [Can.step, hhard, hsoft]
    exact hs
  | canCheck =>
    simp only [Can.step, s.canCheck_eq]
    exact hs.decodeAll (Can.waiting_objects _)
  | interlockAlarmReset => exact absurd he hevs
  | alarmStatusClear => exact hs

/-! ## After a reset -/

/-- Frames of other objects leave the fields of this one. -/
theorem decodeAll_other {l : List (Nat × CanFrame)} (hl : ∀ kf ∈ l, kf.1 ∈ s.model.objects ∧ kf.1 ≠ k)
    (hk : k ∈ s.model.objects) {field : Status} (hfield : field ∈ fields s.model k) :
    (s.decodeAll l).status field = s.status field := by
  refine decodeAll_keeps (I := fun s' => s'.status field = s.status field) ?_
    (fun kf hkf => (hl kf hkf).1) rfl rfl
  intro s' hs' hm kf hkf
  obtain ⟨hj, hjk⟩ := hl kf hkf
  rw [Can.decode_other (hm ▸ hj) (hm ▸ fields_disjoint s.model k hk kf.1 hj hjk.symm field hfield)]
  exact hs'

/-- Flags are sent on top of those that were. -/
theorem decodeAll_sent {l : List (Nat × CanFrame)} (hl : ∀ kf ∈ l, kf.1 ∈ s.model.objects) :
    ∃ sent, (s.decodeAll l).sent = s.sent ++ sent := by
  refine decodeAll_keeps (I := fun s' => ∃ sent, s'.sent = s.sent ++ sent) ?_ hl ⟨[], by simp⟩ rfl
  intro s' hs' hm kf hkf
  obtain ⟨sent, hsent⟩ := hs'
  refine ⟨sent ++ (s'.raised kf.1 kf.2).map (·.fault.flag), ?_⟩
  rw [s'.decode_eq kf.2 (hm ▸ hl kf hkf), ← List.append_assoc, ← hsent]

/-- The frame that waits in object `k` has the bit of the source set. -/
def Stands (k : Nat) (src : Source) (s : Can) : Prop :=
  s.rxFlag k = true ∧ src.active (s.object k).data = true

/-- The frame that waits in an object is decoded between frames of other objects. -/
theorem waiting_split (hk : k ∈ s.model.objects) (hrx : s.rxFlag k = true) :
    ∃ l l', s.waiting s.model.objects = l ++ (k, s.object k) :: l' ∧
      (∀ kf ∈ l, kf.1 ∈ s.model.objects ∧ kf.1 ≠ k) ∧ ∀ kf ∈ l', kf.1 ∈ s.model.objects ∧ kf.1 ≠ k := by
  obtain ⟨ks, ks', hks⟩ := List.append_of_mem (List.mem_filter.mpr ⟨hk, hrx⟩)
  have hnodup := (objects_nodup s.model).filter s.rxFlag
  have hmem : ∀ j ∈ s.model.objects.filter s.rxFlag, j ∈ s.model.objects :=
    fun j hj => (List.mem_filter.mp hj).1
  rw [hks] at hnodup hmem
  obtain ⟨-, hnodup', hapart⟩ := List.nodup_append.mp hnodup
  have hnot : k ∉ ks' := (List.nodup_cons.mp hnodup').1
  refine ⟨ks.map fun j => (j, s.object j), ks'.map fun j => (j, s.object j), ?_, ?_, ?_⟩
  · rw [Can.waiting, hks, List.map_append, List.map_cons]
  · intro kf hkf
    obtain ⟨j, hj, rfl⟩ := List.mem_map.mp hkf
    exact ⟨hmem j (List.mem_append_left _ hj), hapart j hj k List.mem_cons_self⟩
  · intro kf hkf
    obtain ⟨j, hj, rfl⟩ := List.mem_map.mp hkf
    exact ⟨hmem j (List.mem_append_right _ (List.mem_cons_of_mem _ hj)), fun he => hnot (he ▸ hj)⟩

/-- Where no frame waits in an object, all are of other objects. -/
theorem waiting_others (hrx : s.rxFlag k = false) :
    ∀ kf ∈ s.waiting s.model.objects, kf.1 ∈ s.model.objects ∧ kf.1 ≠ k := by
  intro kf hkf
  refine ⟨s.waiting_objects kf hkf, ?_⟩
  obtain ⟨j, hj, rfl⟩ := List.mem_map.mp hkf
  intro he
  cases he
  cases hrx.symm.trans (List.mem_filter.mp hj).2

variable {b : ItlkBlock}

theorem Latched.check_in (h : Latched s) (hk : k ∈ s.model.objects) (hb : b ∈ itlkBlocks s.model k)
    (hstands : Stands k b.source s) : b.fault.In s.canCheck := by
  obtain ⟨l, l', hsplit, hl, hl'⟩ := waiting_split hk hstands.1
  have hmodel := (Can.decodeAll_frame fun kf hkf => (hl kf hkf).1).1
  have hmid := (h.decodeAll fun kf hkf => (hl kf hkf).1).active_in (hmodel ▸ hk) (hmodel ▸ hb) hstands.2
  rw [s.canCheck_eq, hsplit]
  show b.fault.In (s.decodeAll (l ++ (k, s.object k) :: l'))
  rw [Can.decodeAll, List.foldl_append]
  exact hmid.decodeAll fun kf hkf => (decode_model (hmodel ▸ hk) _).trans hmodel ▸ (hl' kf hkf).1

/-- A source whose field is clear sends its flag. -/
theorem check_sends (hk : k ∈ s.model.objects) (hb : b ∈ itlkBlocks s.model k)
    (hstands : Stands k b.source s) (hclear : b.edge → s.status b.field = false) :
    ∃ sent, s.canCheck.sent = s.sent ++ sent ∧ b.fault.flag ∈ sent := by
  obtain ⟨hrx, hactive⟩ : s.rxFlag k = true ∧ b.active (s.object k).data = true := hstands
  obtain ⟨l, l', hsplit, hl, hl'⟩ := waiting_split hk hrx
  have hmodel := (Can.decodeAll_frame fun kf hkf => (hl kf hkf).1).1
  have hfield := decodeAll_other hl hk (field_mem hb)
  obtain ⟨before, hbefore⟩ := decodeAll_sent fun kf hkf => (hl kf hkf).1
  have hraised : b ∈ (s.decodeAll l).raised k (s.object k) := by
    refine List.mem_filter.mpr ⟨hmodel ▸ hb, ?_⟩
    simp only [ItlkBlock.raises, hactive, Bool.true_and, hfield, Bool.not_eq_true', Bool.and_eq_false_iff]
    cases hedge : b.edge with
    | true => exact .inr (hclear hedge)
    | false => exact .inl rfl
  have hmid := decode_model (hmodel ▸ hk) (s.object k)
  obtain ⟨after, hafter⟩ := decodeAll_sent fun kf hkf => hmid.trans hmodel ▸ (hl' kf hkf).1
  refine ⟨before ++ (((s.decodeAll l).raised k (s.object k)).map (·.fault.flag) ++ after), ?_,
    List.mem_append_right _ (List.mem_append_left _ (List.mem_map_of_mem hraised))⟩
  rw [s.canCheck_eq, hsplit]
  show (s.decodeAll (l ++ (k, s.object k) :: l')).sent = _
  rw [Can.decodeAll, List.foldl_append]
  refine hafter.trans ?_
  rw [Can.decode_eq _ _ (hmodel ▸ hk)]
  simp only [hbefore, List.append_assoc]

/-- No `CanCheck` of the run reads object `k`. -/
def Unread (k : Nat) (s : Can) (e : CanEvent) : Prop := e = .canCheck → s.rxFlag k = false

/-- Until its object is read, a field that a reset cleared stays clear. -/
theorem clear_run {evs : List CanEvent} (hk : k ∈ s.model.objects) (hb : b ∈ itlkBlocks s.model k)
    (hclear : b.edge → s.status b.field = false) (h : Along Can.step (Unread k) s evs) :
    b.edge → (evs.foldl Can.step s).status b.field = false := by
  have hkeep := always_of_along
    (I := fun s' => s'.model = s.model ∧ (b.edge → s'.status b.field = false)) ?_ ⟨rfl, hclear⟩ h
  · exact hkeep.foldl.2
  intro s' e hkept hunread
  obtain ⟨hm, hs'⟩ := hkept
  refine ⟨(step_model s' e).trans hm, fun hedge => ?_⟩
  cases e with
  | frame f => exact (congrFun (receive_words s' f).1 b.field).trans (hs' hedge)
  | canCheck =>
    rw [Can.step, s'.canCheck_eq]
    have hothers := waiting_others (hunread rfl)
    exact (decodeAll_other hothers (hm ▸ hk) (hm ▸ field_mem hb)).trans (hs' hedge)
  | interlockAlarmReset => exact if_pos (edge_cleared s.model k hk b hb hedge)
  | alarmStatusClear => exact hs' hedge

/-- The state after a run from power-up. -/
def Can.after (model : CanModel) (evs : List CanEvent) : Can := evs.foldl Can.step (.boot model)

theorem Latched.sends (h : Latched s) (hk : k ∈ s.model.objects) (hb : b ∈ itlkBlocks s.model k)
    {evs : List CanEvent} (hunread : Along Can.step (Unread k) s.interlockAlarmReset evs)
    (hstands : Stands k b.source (evs.foldl Can.step s.interlockAlarmReset)) :
    b.fault.In (evs.foldl Can.step s.interlockAlarmReset).canCheck ∧
      ∃ sent, (evs.foldl Can.step s.interlockAlarmReset).canCheck.sent =
        (evs.foldl Can.step s.interlockAlarmReset).sent ++ sent ∧ b.fault.flag ∈ sent := by
  have hclear : b.edge → s.interlockAlarmReset.status b.field = false := fun hedge =>
    if_pos (edge_cleared s.model k hk b hb hedge)
  have hreset : Latched s.interlockAlarmReset := h.step .interlockAlarmReset
  have hend : Latched (evs.foldl Can.step s.interlockAlarmReset) :=
    List.foldlRecOn evs _ hreset fun s' h' e _ => h'.step e
  have hmodel : (evs.foldl Can.step s.interlockAlarmReset).model = s.model := run_model _ evs
  exact ⟨hend.check_in (hmodel ▸ hk) (hmodel ▸ hb) hstands,
    check_sends (hmodel ▸ hk) (hmodel ▸ hb) hstands (clear_run hk hb hclear hunread)⟩

/-! ## The bits of `ipc_lib.h` -/

/-- The bit is set in the word that it is a bit of. -/
def FaultBit.Shown : FaultBit → Can → Prop
  | .hard bits, s => s.hardInterlocks &&& bits = bits
  | .soft bits, s => s.softInterlocks &&& bits = bits

/-- `HARD_INTERLOCK` for the bits of one word, `SOFT_INTERLOCK` for those of the other. -/
def FaultBit.Signalled : FaultBit → List UInt32 → Prop
  | .hard _, sent => hardInterlockFlag ∈ sent
  | .soft _, sent => softInterlockFlag ∈ sent

/-- The next `CanCheck` sets the fault bit and sends its flag. -/
def Raises (fault : FaultBit) (s : Can) : Prop :=
  fault.Shown s.canCheck ∧ ∃ sent, s.canCheck.sent = s.sent ++ sent ∧ fault.Signalled sent

theorem and_of_within {x bits : UInt32} (h : Within (· ||| ·) bits x) : x &&& bits = bits := by
  have hor : x ||| bits = x := h
  rw [← hor]
  refine UInt32.toBitVec_inj.mp ?_
  ext i
  simp +contextual

theorem FaultBit.In.shown {fault : FaultBit} (h : fault.In s) : fault.Shown s := by
  cases fault with
  | hard bits => exact and_of_within h.1
  | soft bits => exact and_of_within h.2

theorem FaultBit.signalled {fault : FaultBit} {sent : List UInt32} (h : fault.flag ∈ sent) :
    fault.Signalled sent := by
  cases fault with
  | hard bits => exact h
  | soft bits => exact h

/-- Bits that no block of the model raises are never set. -/
theorem never_shown {model : CanModel} {bits : UInt32}
    (hbits : ∀ k ∈ model.objects, ∀ b ∈ itlkBlocks model k, b.fault.hardBits &&& bits = 0)
    (evs : List CanEvent) : (Can.after model evs).hardInterlocks &&& bits = 0 := by
  have hrun : (Can.after model evs).model = model ∧ (Can.after model evs).hardInterlocks &&& bits = 0 := by
    refine List.foldlRecOn (motive := fun s => s.model = model ∧ s.hardInterlocks &&& bits = 0) evs _ ?_
      fun s hs e _ => ⟨(step_model s e).trans hs.1, ?_⟩
    · rw [boot_eq]
      exact ⟨rfl, UInt32.zero_and⟩
    cases e with
    | frame f =>
      rw [Can.step, (receive_words s f).2.1]
      exact hs.2
    | canCheck =>
      rw [Can.step, s.canCheck_eq]
      refine decodeAll_keeps (I := fun s' => s'.hardInterlocks &&& bits = 0) ?_
        (hs.1 ▸ s.waiting_objects) hs.2 hs.1
      intro s' hs' hm kf hkf
      have hk : kf.1 ∈ s.model.objects := s.waiting_objects kf hkf
      rw [s'.decode_eq kf.2 (hm.symm ▸ hs.1 ▸ hk)]
      refine orAll_and hs' fun a ha => ?_
      obtain ⟨b, hb, rfl⟩ := List.mem_map.mp ha
      exact hbits kf.1 (hs.1 ▸ hk) b (hm ▸ (List.mem_filter.mp hb).1)
    | interlockAlarmReset => exact UInt32.zero_and
    | alarmStatusClear => exact hs.2
  exact hrun.2

theorem not_shown {model : CanModel} {field : Status} (h : field ∈ model.misnamed) {fault : FaultBit}
    (hown : field.ownFault = some fault) (evs : List CanEvent) : ¬ fault.Shown (Can.after model evs) := by
  obtain ⟨bits, hfault, hne, hbits⟩ := misnamed_bits h
  obtain rfl : fault = .hard bits := Option.some_inj.mp (hown.symm.trans hfault)
  intro hshown
  exact hne (hshown.symm.trans (never_shown hbits evs))

/-- **A persisting fault.** For every model, whose interlocks are all sources,
every source with its own fault bit, and any state that a run from power-up
reaches: after a reset, the first `CanCheck` that reads the source's object, with
its bit set in the frame, sets the fault bit and sends the flag exactly when the
block of the source is not one of the two that raise another bit. And once a
frame with the bit set has been read, the fault bit is set until a reset,
whatever else happens, exactly then. -/
theorem persisting_fault_iff (model : CanModel) (k : Nat) (src : Source) (hsrc : src ∈ itlkSources model k)
    (fault : FaultBit) (hown : src.field.ownFault = some fault) (evs evs' : List CanEvent) :
    model.Covers itlkSources (·.ownFault.isSome) ∧
    (Along Can.step (Unread k) (Can.after model evs).interlockAlarmReset evs' →
      Stands k src (evs'.foldl Can.step (Can.after model evs).interlockAlarmReset) →
        (Raises fault (evs'.foldl Can.step (Can.after model evs).interlockAlarmReset) ↔
          src.field ∉ model.misnamed)) ∧
    (Stands k src (Can.after model evs) → CanEvent.interlockAlarmReset ∉ evs' →
      (fault.Shown (evs'.foldl Can.step (Can.after model evs).canCheck) ↔ src.field ∉ model.misnamed)) := by
  have hk : k ∈ model.objects := itlkSources_object hsrc
  refine ⟨itlk_covers model, ?_⟩
  by_cases hmis : src.field ∈ model.misnamed
  · have hnever := not_shown hmis hown
    refine ⟨fun _ _ => iff_of_false ?_ (not_not_intro hmis), fun _ _ => iff_of_false ?_ (not_not_intro hmis)⟩
    · intro hraises
      refine hnever (evs ++ .interlockAlarmReset :: (evs' ++ [.canCheck])) ?_
      rw [Can.after, List.foldl_append, List.foldl_cons, List.foldl_append]
      exact hraises.1
    · intro hshown
      refine hnever (evs ++ .canCheck :: evs') ?_
      rw [Can.after, List.foldl_append, List.foldl_cons]
      exact hshown
  · rw [itlkSources_eq] at hsrc
    obtain ⟨b, hb, rfl⟩ := List.mem_map.mp hsrc
    have hfault : some b.fault = some fault :=
      ((own_fault model k hk b hb).resolve_right hmis).symm.trans hown
    obtain rfl : b.fault = fault := Option.some_inj.mp hfault
    have hlatched : Latched (Can.after model evs) := Latched.run model evs
    have hmodel : (Can.after model evs).model = model := boot_model model evs
    rw [← hmodel] at hk hb
    refine ⟨fun hunread hstands => iff_of_true ?_ hmis, fun hstands hevs => iff_of_true ?_ hmis⟩
    · obtain ⟨hin, sent, hsent, hflag⟩ := hlatched.sends hk hb hunread hstands
      exact ⟨hin.shown, sent, hsent, FaultBit.signalled hflag⟩
    · exact ((hlatched.check_in hk hb hstands).run hevs).shown

/-- An overvoltage of the first module. -/
def voutItlk : Source := ⟨4, 0b00000001, .mod1Q1 .voutItlkSts⟩

def voutFrame : CanFrame := ⟨0x013, fun i => if i = 4 then 1 else 0⟩

/-- An overcurrent of the second output module. -/
def iout2Frame : CanFrame := ⟨0x021, fun i => if i = 5 then 1 else 0⟩

/-- The overvoltage is raised again and stays; the overcurrent of the second module is
never there. -/
theorem persisting_fault_vout :
    Raises (.hard outOvervoltage) ([CanEvent.frame voutFrame].foldl Can.step
      (Can.after .fapDcdc20kHz [.frame voutFrame, .canCheck]).interlockAlarmReset) ∧
    FaultBit.Shown (.hard outOvervoltage) ([CanEvent.canCheck].foldl Can.step
      (Can.after .fapDcdc20kHz [.frame voutFrame]).canCheck) ∧
    ¬ FaultBit.Shown (.hard out2Overcurrent) ([CanEvent.canCheck].foldl Can.step
      (Can.after .facFullDcdc20kHz [.frame iout2Frame]).canCheck) := by
  have hvout := persisting_fault_iff .fapDcdc20kHz 4 voutItlk (by decide) (.hard outOvervoltage) rfl
  have hiout := persisting_fault_iff .facFullDcdc20kHz 4 ⟨5, 0b00000001, .mod2Q4 .ioutItlkSts⟩ (by decide)
    (.hard out2Overcurrent) rfl
  refine ⟨?_, ?_, ?_⟩
  · refine ((hvout _ [.frame voutFrame]).2.1 ⟨?_, trivial⟩ ⟨rfl, rfl⟩).mpr (by decide)
    intro he
    cases he
  · exact ((hvout _ [.canCheck]).2.2 ⟨rfl, rfl⟩ (by simp)).mpr (by decide)
  · intro hshown
    exact ((hiout _ [.canCheck]).2.2 ⟨rfl, rfl⟩ (by simp)).mp hshown (by decide)

/-- The overvoltage of the second rectifier stands after a reset, and its bit is not set. -/
theorem voutRectf2_unraised :
    let frame : CanFrame := ⟨0x014, fun i => if i = 4 then 0b00001000 else 0⟩
    let src : Source := ⟨4, 0b00001000, .rectifier .voutRectf2Itlk⟩
    let s := (Can.after .fapAcdc [.frame frame, .canCheck]).interlockAlarmReset
    src ∈ itlkSources .fapAcdc 5 ∧ src.field.ownFault = some (.hard out2Overvoltage) ∧
      Along Can.step (Unread 5) s [.frame frame] ∧ Stands 5 src ([CanEvent.frame frame].foldl Can.step s) ∧
      ¬ Raises (.hard out2Overvoltage) ([CanEvent.frame frame].foldl Can.step s) := by
  refine ⟨by decide, rfl, ⟨nofun, trivial⟩, ⟨rfl, rfl⟩, ?_⟩
  rintro ⟨hshown, -⟩
  revert hshown
  unfold FaultBit.Shown
  decide +kernel

end UdcFirmware.Drivers
