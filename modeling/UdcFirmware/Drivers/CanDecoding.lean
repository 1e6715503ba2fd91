/-
What `CanCheck` makes of a frame.

The blocks of a model keep different status fields (`fields_nodup`), so each
field ends up as its own block says, and a word ends up with the bits of the
blocks that are active on top of what it held (`decode_eq`). `canCheck_eq`
says the same of a whole `CanCheck`, for the frames that wait.
-/
import UdcFirmware.Lib.Unions
import UdcFirmware.Drivers.Can

namespace UdcFirmware.Drivers

open Unions

/-- Bits put on top of a word. -/
abbrev orAll (x : UInt32) (l : List UInt32) : UInt32 := gather (· ||| ·) x l

theorem or_and_right (a b mask : UInt32) : (a ||| b) &&& mask = a &&& mask ||| b &&& mask :=
  UInt32.toBitVec_inj.mp BitVec.and_or_distrib_right

/-- A word and values without some bits have none of them together. -/
theorem orAll_and {x mask : UInt32} {l : List UInt32} (hx : x &&& mask = 0) (hl : ∀ a ∈ l, a &&& mask = 0) :
    orAll x l &&& mask = 0 := by
  induction l generalizing x with
  | nil => exact hx
  | cons a l ih =>
    have hxa : (x ||| a) &&& mask = 0 := by
      rw [or_and_right, hx, hl a List.mem_cons_self]
      rfl
    exact ih hxa fun c hc => hl c (List.mem_cons_of_mem a hc)

/-! ## Fields -/

/-- The status fields that the blocks of an object keep. -/
def fields (model : CanModel) (k : Nat) : List Status :=
  (alarmBlocks model k).map (·.field) ++ (itlkBlocks model k).map (·.field)

/-- Each has a block of its own, in the row of its object. -/
theorem fields_nodup (model : CanModel) : ∀ k ∈ model.objects, (fields model k).Nodup := by
  cases model <;> decide +kernel

theorem fields_disjoint (model : CanModel) :
    ∀ k ∈ model.objects, ∀ j ∈ model.objects, k ≠ j → ∀ field ∈ fields model k, field ∉ fields model j := by
  cases model <;> decide +kernel

theorem objects_nodup (model : CanModel) : model.objects.Nodup := by cases model <;> decide

/-! ## The blocks in a row -/

theorem AlarmBlock.run_eq (data : Fin 8 → UInt8) (s : Can) (b : AlarmBlock) :
    b.run data s = { s with
      status := Function.update s.status b.field (b.active data || b.otherwise)
      psModuleAlarms := orAll s.psModuleAlarms (([b].filter (·.active data)).map (·.alarm)) } := by
  unfold AlarmBlock.run
  cases hact : b.active data with
  | true => simp [gather, hact]
  | false => simp [gather, hact]

theorem alarms_fold (data : Fin 8 → UInt8) (l : List AlarmBlock) (s : Can) :
    l.foldl (AlarmBlock.run data) s = { s with
      status := assign (·.field) (fun b => b.active data || b.otherwise) l s.status
      psModuleAlarms := orAll s.psModuleAlarms ((l.filter (·.active data)).map (·.alarm)) } := by
  induction l generalizing s with
  | nil => rfl
  | cons b l ih =>
    have hunion : orAll (orAll s.psModuleAlarms (([b].filter (·.active data)).map (·.alarm)))
        ((l.filter (·.active data)).map (·.alarm)) =
          orAll s.psModuleAlarms (((b :: l).filter (·.active data)).map (·.alarm)) := by
      rw [orAll, ← gather_append, ← List.map_append, ← List.filter_append]
      rfl
    rw [List.foldl_cons, ih, AlarmBlock.run_eq, ← hunion]
    rfl

/-- The interlocks that a frame raises: those that are set, unless the field says they were. -/
def ItlkBlock.raises (data : Fin 8 → UInt8) (status : Status → Bool) (b : ItlkBlock) : Bool :=
  b.active data && !(b.edge && status b.field)

theorem ItlkBlock.run_eq (data : Fin 8 → UInt8) (s : Can) (b : ItlkBlock) :
    b.run data s = { s with
      status := Function.update s.status b.field (b.active data)
      hardInterlocks := orAll s.hardInterlocks (([b].filter (·.raises data s.status)).map (·.fault.hardBits))
      softInterlocks := orAll s.softInterlocks (([b].filter (·.raises data s.status)).map (·.fault.softBits))
      sent := s.sent ++ ([b].filter (·.raises data s.status)).map (·.fault.flag) } := by
  unfold ItlkBlock.run
  cases hact : b.active data with
  | false =>
    simp [gather, raises, hact]
  | true =>
    by_cases hset : b.edge ∧ s.status b.field
    · have hfield : Function.update s.status b.field true = s.status := by
        rw [← hset.2, Function.update_eq_self]
      simp [gather, raises, hset, hfield]
    · have hraise : b.raises data s.status := by
        simp only [raises, hact, Bool.true_and, Bool.not_eq_true', Bool.and_eq_false_iff]
        rcases not_and_or.mp hset with h | h
        · exact .inl (Bool.eq_false_iff.mpr h)
        · exact .inr (Bool.eq_false_iff.mpr h)
      simp [gather, hset, hraise]

theorem itlks_fold {l : List ItlkBlock} (hl : (l.map (·.field)).Nodup) (data : Fin 8 → UInt8) (s : Can) :
    l.foldl (ItlkBlock.run data) s = { s with
      status := assign (·.field) (·.active data) l s.status
      hardInterlocks := orAll s.hardInterlocks ((l.filter (·.raises data s.status)).map (·.fault.hardBits))
      softInterlocks := orAll s.softInterlocks ((l.filter (·.raises data s.status)).map (·.fault.softBits))
      sent := s.sent ++ (l.filter (·.raises data s.status)).map (·.fault.flag) } := by
  induction l generalizing s with
  | nil => simp [gather, assign]
  | cons b l ih =>
    obtain ⟨hb, hl⟩ := List.nodup_cons.mp hl
    -- The later blocks find their fields as they were.
    have hlater : l.filter (·.raises data (b.run data s).status) = l.filter (·.raises data s.status) := by
      refine List.filter_congr fun c hc => ?_
      have hne : c.field ≠ b.field := by
        intro he
        exact hb (List.mem_map.mpr ⟨c, hc, he⟩)
      simp only [ItlkBlock.raises, ItlkBlock.run_eq, Function.update_of_ne hne]
    have hall : (b :: l).filter (·.raises data s.status) =
        [b].filter (·.raises data s.status) ++ l.filter (·.raises data s.status) :=
      List.filter_append [b] l
    rw [List.foldl_cons, ih hl, hlater, hall]
    simp only [ItlkBlock.run_eq, List.map_append, orAll, gather_append, List.append_assoc]
    rfl

/-! ## One frame -/

namespace Can

variable (s : Can) {k : Nat} (f : CanFrame)

/-- The interlocks that a frame in object `k` raises. -/
def raised (k : Nat) (f : CanFrame) : List ItlkBlock :=
  (itlkBlocks s.model k).filter (·.raises f.data s.status)

theorem alarm_not_itlk (hk : k ∈ s.model.objects) {field : Status}
    (ha : field ∈ (alarmBlocks s.model k).map (·.field)) : field ∉ (itlkBlocks s.model k).map (·.field) :=
  fun hi => (List.nodup_append.mp (fields_nodup s.model k hk)).2.2 _ ha _ hi rfl

/-- What a frame does. -/
theorem decode_eq (hk : k ∈ s.model.objects) : s.decode k f = { s with
    status := assign (·.field) (·.active f.data) (itlkBlocks s.model k)
      (assign (·.field) (fun b => b.active f.data || b.otherwise) (alarmBlocks s.model k) s.status)
    psModuleAlarms := orAll s.psModuleAlarms
      (((alarmBlocks s.model k).filter (·.active f.data)).map (·.alarm))
    hardInterlocks := orAll s.hardInterlocks ((s.raised k f).map (·.fault.hardBits))
    softInterlocks := orAll s.softInterlocks ((s.raised k f).map (·.fault.softBits))
    sent := s.sent ++ (s.raised k f).map (·.fault.flag)
    decoded := s.decoded ++ [(k, f)] } := by
  have hitlks := (List.nodup_append.mp (fields_nodup s.model k hk)).2.1
  have hraised : (itlkBlocks s.model k).filter (·.raises f.data
      (assign (·.field) (fun b => b.active f.data || b.otherwise) (alarmBlocks s.model k) s.status)) =
        s.raised k f := by
    refine List.filter_congr fun b hb => ?_
    have hother : b.field ∉ (alarmBlocks s.model k).map (·.field) :=
      fun ha => s.alarm_not_itlk hk ha (List.mem_map_of_mem hb)
    simp only [ItlkBlock.raises, assign_of_not_mem hother]
  unfold decode
  simp only [alarms_fold, itlks_fold hitlks, hraised]

variable {s f}

theorem decode_alarm (hk : k ∈ s.model.objects) {b : AlarmBlock} (hb : b ∈ alarmBlocks s.model k) :
    (s.decode k f).status b.field = (b.active f.data || b.otherwise) := by
  have halarms := (List.nodup_append.mp (fields_nodup s.model k hk)).1
  rw [s.decode_eq f hk]
  show assign _ _ _ _ b.field = _
  rw [assign_of_not_mem (s.alarm_not_itlk hk (List.mem_map_of_mem hb))]
  exact assign_of_mem halarms hb

theorem decode_itlk (hk : k ∈ s.model.objects) {b : ItlkBlock} (hb : b ∈ itlkBlocks s.model k) :
    (s.decode k f).status b.field = b.active f.data := by
  rw [s.decode_eq f hk]
  exact assign_of_mem (List.nodup_append.mp (fields_nodup s.model k hk)).2.1 hb

/-- The fields of the other objects stay. -/
theorem decode_other (hk : k ∈ s.model.objects) {field : Status} (h : field ∉ fields s.model k) :
    (s.decode k f).status field = s.status field := by
  rw [fields, List.mem_append, not_or] at h
  rw [s.decode_eq f hk]
  show assign _ _ _ _ field = _
  rw [assign_of_not_mem h.2, assign_of_not_mem h.1]

/-! ## A `CanCheck` -/

/-- The frames that wait in some objects. -/
def waiting (s : Can) (ks : List Nat) : List (Nat × CanFrame) :=
  (ks.filter s.rxFlag).map fun k => (k, s.object k)

/-- Frames, one after the other. -/
def decodeAll (s : Can) (l : List (Nat × CanFrame)) : Can := l.foldl (fun s kf => s.decode kf.1 kf.2) s

theorem decodeAll_cons (s : Can) (kf : Nat × CanFrame) (l : List (Nat × CanFrame)) :
    s.decodeAll (kf :: l) = (s.decode kf.1 kf.2).decodeAll l := rfl

/-- Decoding does not look at the flags. -/
theorem decode_rxFlag (hk : k ∈ s.model.objects) (rxFlag : Nat → Bool) :
    { s with rxFlag := rxFlag }.decode k f = { s.decode k f with rxFlag := rxFlag } := by
  rw [s.decode_eq f hk, decode_eq { s with rxFlag := rxFlag } f hk]
  rfl

theorem decodeAll_rxFlag {l : List (Nat × CanFrame)} (hl : ∀ kf ∈ l, kf.1 ∈ s.model.objects)
    (rxFlag : Nat → Bool) :
    { s with rxFlag := rxFlag }.decodeAll l = { s.decodeAll l with rxFlag := rxFlag } := by
  induction l generalizing s with
  | nil => rfl
  | cons kf l ih =>
    have hk := hl kf List.mem_cons_self
    have hmodel : (s.decode kf.1 kf.2).model = s.model := by rw [s.decode_eq kf.2 hk]
    rw [decodeAll_cons, decodeAll_cons, decode_rxFlag hk]
    exact ih fun kf' hkf' => hmodel ▸ hl kf' (List.mem_cons_of_mem kf hkf')

/-- The frame of one object is decoded, if it waits. -/
theorem checkObject_eq (hk : k ∈ s.model.objects) :
    s.checkObject k =
      { s.decodeAll (s.waiting [k]) with rxFlag := Function.update s.rxFlag k false } := by
  unfold checkObject
  cases hflag : s.rxFlag k with
  | true => simp [waiting, hflag, decodeAll, s.decode_eq (s.object k) hk]
  | false =>
    have hsame : Function.update s.rxFlag k false = s.rxFlag := by rw [← hflag, Function.update_eq_self]
    simp [waiting, hflag, decodeAll, hsame]

theorem decodeAll_frame {l : List (Nat × CanFrame)} (hl : ∀ kf ∈ l, kf.1 ∈ s.model.objects) :
    (s.decodeAll l).model = s.model ∧ (s.decodeAll l).filter = s.filter ∧ (s.decodeAll l).object = s.object ∧
      (s.decodeAll l).rxFlag = s.rxFlag ∧ (s.decodeAll l).decoded = s.decoded ++ l := by
  induction l generalizing s with
  | nil => exact ⟨rfl, rfl, rfl, rfl, (List.append_nil _).symm⟩
  | cons kf l ih =>
    have hdec := s.decode_eq kf.2 (hl kf List.mem_cons_self)
    have hmodel : (s.decode kf.1 kf.2).model = s.model := by rw [hdec]
    obtain ⟨h₁, h₂, h₃, h₄, h₅⟩ := ih (s := s.decode kf.1 kf.2) fun kf' hkf' =>
      hmodel ▸ hl kf' (List.mem_cons_of_mem kf hkf')
    rw [decodeAll_cons, h₁, h₂, h₃, h₄, h₅, hdec]
    exact ⟨rfl, rfl, rfl, rfl, by simp⟩

theorem waiting_object {ks : List Nat} (hks : ∀ k ∈ ks, k ∈ s.model.objects) :
    ∀ kf ∈ s.waiting ks, kf.1 ∈ s.model.objects := by
  intro kf hkf
  obtain ⟨k, hk, rfl⟩ := List.mem_map.mp hkf
  exact hks k (List.mem_filter.mp hk).1

theorem waiting_objects (s : Can) : ∀ kf ∈ s.waiting s.model.objects, kf.1 ∈ s.model.objects :=
  waiting_object fun _ hk => hk

theorem waiting_congr {s' : Can} {ks : List Nat} (hobject : s'.object = s.object)
    (hrx : ∀ k ∈ ks, s'.rxFlag k = s.rxFlag k) : s'.waiting ks = s.waiting ks := by
  unfold waiting
  rw [List.filter_congr hrx, hobject]

theorem waiting_append (ks ls : List Nat) : s.waiting (ks ++ ls) = s.waiting ks ++ s.waiting ls := by
  unfold waiting
  rw [List.filter_append, List.map_append]

/-- A `CanCheck` of some objects decodes the frames that wait in them. -/
theorem checkObjects_eq {ks : List Nat} (hnodup : ks.Nodup) (hks : ∀ k ∈ ks, k ∈ s.model.objects) :
    ks.foldl checkObject s =
      { s.decodeAll (s.waiting ks) with rxFlag := fun k => if k ∈ ks then false else s.rxFlag k } := by
  induction ks generalizing s with
  | nil => simp [waiting, decodeAll]
  | cons k ks ih =>
    obtain ⟨hk, hnodup⟩ := List.nodup_cons.mp hnodup
    have hone : ∀ j ∈ [k], j ∈ s.model.objects := fun j hj => by
      rw [List.mem_singleton.mp hj]
      exact hks k List.mem_cons_self
    have hrest : ∀ j ∈ ks, j ∈ s.model.objects := fun j hj => hks j (List.mem_cons_of_mem k hj)
    obtain ⟨hmodel, -, hobject, -, -⟩ := decodeAll_frame (waiting_object hone)
    have hcheck := checkObject_eq (hks k List.mem_cons_self)
    have hmodel' : (s.checkObject k).model = s.model := by rw [hcheck, ← hmodel]
    have hobject' : (s.checkObject k).object = s.object := by rw [hcheck, ← hobject]
    -- The other objects wait as before.
    have hwaiting : (s.checkObject k).waiting ks = s.waiting ks := by
      refine waiting_congr hobject' fun j hj => ?_
      have hne : j ≠ k := fun he => hk (he ▸ hj)
      rw [hcheck]
      exact Function.update_of_ne hne _ _
    have hflags : (fun j => if j ∈ ks then false else (s.checkObject k).rxFlag j) =
        fun j => if j ∈ k :: ks then false else s.rxFlag j := by
      funext j
      rw [hcheck]
      by_cases hj : j = k
      · subst hj
        simp [hk]
      · simp [hj]
    have hall : s.waiting (k :: ks) = s.waiting [k] ++ s.waiting ks := waiting_append [k] ks
    rw [List.foldl_cons, ih hnodup (hmodel' ▸ hrest), hwaiting, hall, hflags]
    rw [hcheck, decodeAll_rxFlag (hmodel ▸ waiting_object hrest)]
    simp only [decodeAll, List.foldl_append]

theorem canCheck_eq (s : Can) :
    s.canCheck = { s.decodeAll (s.waiting s.model.objects) with
      rxFlag := fun k => if k ∈ s.model.objects then false else s.rxFlag k } :=
  checkObjects_eq (objects_nodup s.model) fun _ hk => hk

end Can

end UdcFirmware.Drivers
