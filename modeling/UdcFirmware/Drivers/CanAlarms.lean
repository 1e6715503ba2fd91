/-
Alarms as the frames tell them.

The frames that `CanCheck` has read are kept beside a run, and the alarm fields
compared with the latest one of their object: until the next
`InterlockAlarmReset`, which ends what the frames before it told, or for ever
(`Mirrors`). The first fails only where the else branches of `TempL1AlarmSts` and
`TempL2AlarmSts` of the Buck module run, which assign 1. The second also fails
where a reset clears an alarm that is there: `InterlockStatusClear` has some of
the alarm fields. The alarm word has the bits that the fields are named after,
but for the output current of the second module of `FAC_Full_DCDC_20kHz`, whose
block raises the bit of the first (`alarms_mirror_iff`).
-/
import UdcFirmware.Drivers.CanLatches

namespace UdcFirmware.Drivers

open Traces Unions

/-- A run, with the frames read since the last `InterlockAlarmReset`, and since the
last `AlarmStatusClear`, beside it. -/
structure Watched where
  can : Can
  sinceReset : List (Nat × CanFrame)
  sinceClear : List (Nat × CanFrame)

def Watched.boot (model : CanModel) : Watched := ⟨.boot model, [], []⟩

def Watched.step (s : Watched) (e : CanEvent) : Watched :=
  let can := s.can.step e
  let read := can.decoded.drop s.can.decoded.length
  match e with
  | .interlockAlarmReset => ⟨can, [], []⟩
  | .alarmStatusClear => ⟨can, s.sinceReset, []⟩
  | _ => ⟨can, s.sinceReset ++ read, s.sinceClear ++ read⟩

/-- The latest frame of an object. -/
def latest (k : Nat) (l : List (Nat × CanFrame)) : Option CanFrame :=
  ((l.filter (·.1 = k)).getLast?).map (·.2)

/-- The alarm bits of the sources that are active in a frame. -/
def frameAlarms (model : CanModel) (kf : Nat × CanFrame) : List UInt32 :=
  ((alarmSources model kf.1).filter (·.active kf.2.data)).filterMap (·.field.ownAlarm)

/-- Every alarm field is as the latest of some frames says. -/
def Mirrored (l : List (Nat × CanFrame)) (s : Can) : Prop :=
  ∀ k ∈ s.model.objects, ∀ src ∈ alarmSources s.model k, ∀ f, latest k l = some f →
    s.status src.field = src.active f.data

/-- The word has the bits of the sources that were active since `AlarmStatusClear`. -/
def AlarmWord (s : Watched) : Prop :=
  s.can.psModuleAlarms = orAll 0 (s.sinceClear.flatMap (frameAlarms s.can.model))

/-- Both, after the frames that `log` tells. -/
def Mirrors (log : Watched → List (Nat × CanFrame)) (s : Watched) : Prop :=
  Mirrored (log s) s.can ∧ AlarmWord s

/-- A Buck frame that is read has the bits of both inductor temperature alarms set. -/
def ShowsTemps (s : Watched) (e : CanEvent) : Prop :=
  e = .canCheck → s.can.model = .facFullAcdc10kHz → s.can.rxFlag 4 = true →
    (s.can.object 4).data 4 &&& 0b00010000 ≠ 0 ∧ (s.can.object 4).data 4 &&& 0b00100000 ≠ 0

/-- A frame of the second output module that is read has no output current alarm. -/
def HidesIout2 (s : Watched) (e : CanEvent) : Prop :=
  e = .canCheck → s.can.model = .facFullDcdc20kHz → s.can.rxFlag 4 = true →
    (s.can.object 4).data 4 &&& 0b00000001 = 0

/-- A reset clears no alarm that the latest frames tell of. -/
def ClearsNone (s : Watched) (e : CanEvent) : Prop :=
  e = .interlockAlarmReset → ∀ k ∈ s.can.model.objects, ∀ src ∈ alarmSources s.can.model k,
    src.field ∈ Can.clearedFields → ∀ f, latest k s.can.decoded = some f → src.active f.data = false

/-! ## A `CanCheck` -/

section Check

variable {s : Can} {k : Nat} {l : List (Nat × CanFrame)}

theorem alarm_mem {model : CanModel} {b : AlarmBlock} (hb : b ∈ alarmBlocks model k) :
    b.field ∈ fields model k :=
  List.mem_append_left _ (List.mem_map_of_mem hb)

/-- A field is as the frame that waits in its object says, if one does. -/
theorem alarm_check (hk : k ∈ s.model.objects) {b : AlarmBlock} (hb : b ∈ alarmBlocks s.model k) :
    s.canCheck.status b.field =
      if s.rxFlag k then b.active (s.object k).data || b.otherwise else s.status b.field := by
  rw [s.canCheck_eq]
  show (s.decodeAll _).status b.field = _
  cases hrx : s.rxFlag k with
  | false => exact decodeAll_other (waiting_others hrx) hk (alarm_mem hb)
  | true =>
    obtain ⟨l, l', hsplit, hl, hl'⟩ := waiting_split hk hrx
    have hmodel := (Can.decodeAll_frame fun kf hkf => (hl kf hkf).1).1
    have hmid := (decode_model (hmodel ▸ hk) (s.object k)).trans hmodel
    rw [hsplit, Can.decodeAll, List.foldl_append, List.foldl_cons]
    refine (decodeAll_other (hmid.symm ▸ hl') (hmid.symm ▸ hk) (hmid.symm ▸ alarm_mem hb)).trans ?_
    exact Can.decode_alarm (hmodel ▸ hk) (hmodel ▸ hb)

/-- The latest frame of an object is the one that waits in it. -/
theorem latest_waiting (hk : k ∈ s.model.objects) (l : List (Nat × CanFrame)) :
    latest k (l ++ s.waiting s.model.objects) = if s.rxFlag k then some (s.object k) else latest k l := by
  have hapart : ∀ {l : List (Nat × CanFrame)}, (∀ kf ∈ l, kf.1 ∈ s.model.objects ∧ kf.1 ≠ k) →
      l.filter (·.1 = k) = [] := fun hl =>
    List.filter_eq_nil_iff.mpr fun kf hkf he => (hl kf hkf).2 (of_decide_eq_true he)
  cases hrx : s.rxFlag k with
  | false =>
    rw [latest, List.filter_append, hapart (waiting_others hrx), List.append_nil]
    rfl
  | true =>
    obtain ⟨l₁, l₂, hsplit, hl₁, hl₂⟩ := waiting_split hk hrx
    rw [latest, hsplit, List.filter_append, List.filter_append, hapart hl₁, List.filter_cons, hapart hl₂]
    simp

theorem mirrored_iff : Mirrored l s ↔ ∀ k ∈ s.model.objects, ∀ b ∈ alarmBlocks s.model k, ∀ f,
    latest k l = some f → s.status b.field = b.active f.data := by
  simp only [Mirrored, alarmSources_eq, List.forall_mem_map]
  rfl

/-- The fields mirror the frames after a `CanCheck` exactly when no `else` branch that
assigns 1 was run. -/
theorem Mirrored.check_iff (h : Mirrored l s) :
    Mirrored (l ++ s.waiting s.model.objects) s.canCheck ↔
      ∀ k ∈ s.model.objects, s.rxFlag k = true → ∀ b ∈ alarmBlocks s.model k, b.otherwise = true →
        b.active (s.object k).data = true := by
  rw [mirrored_iff] at h ⊢
  rw [canCheck_model]
  constructor
  · intro h' k hk hrx b hb hotherwise
    have hlatest := latest_waiting hk l
    rw [if_pos hrx] at hlatest
    have hfield := h' k hk b hb _ hlatest
    rw [alarm_check hk hb, if_pos hrx, hotherwise, Bool.or_true] at hfield
    exact hfield.symm
  · intro hall k hk b hb f hf
    rw [latest_waiting hk] at hf
    rw [alarm_check hk hb]
    cases hrx : s.rxFlag k with
    | false =>
      rw [hrx] at hf
      exact h k hk b hb f hf
    | true =>
      rw [hrx] at hf
      cases hf
      cases hotherwise : b.otherwise with
      | false => simp
      | true => simp [hall k hk hrx b hb hotherwise]

/-- Two blocks have such a branch. -/
theorem otherwise_block (model : CanModel) :
    ∀ k ∈ model.objects, ∀ b ∈ alarmBlocks model k, b.otherwise = true →
      model = .facFullAcdc10kHz ∧ k = 4 ∧ b.byte = 4 ∧ (b.mask = 0b00010000 ∨ b.mask = 0b00100000) := by
  cases model <;> decide +kernel

theorem otherwise_iff (s : Can) :
    (∀ k ∈ s.model.objects, s.rxFlag k = true → ∀ b ∈ alarmBlocks s.model k, b.otherwise = true →
        b.active (s.object k).data = true) ↔
      (s.model = .facFullAcdc10kHz → s.rxFlag 4 = true →
        (s.object 4).data 4 &&& 0b00010000 ≠ 0 ∧ (s.object 4).data 4 &&& 0b00100000 ≠ 0) := by
  constructor
  · intro hall hmodel hrx
    rw [hmodel] at hall
    have h1 := hall 4 (by decide) hrx ⟨4, 0b00010000, .buck .tempL1AlarmSts, l1TempAlarm, true⟩
      (by simp [alarmBlocks]) rfl
    have h2 := hall 4 (by decide) hrx ⟨4, 0b00100000, .buck .tempL2AlarmSts, l2TempAlarm, true⟩
      (by simp [alarmBlocks]) rfl
    exact ⟨of_decide_eq_true h1, of_decide_eq_true h2⟩
  · intro hbits k hk hrx b hb hotherwise
    obtain ⟨hmodel, rfl, hbyte, hmask⟩ := otherwise_block s.model k hk b hb hotherwise
    obtain ⟨h1, h2⟩ := hbits hmodel hrx
    rw [AlarmBlock.active, hbyte]
    rcases hmask with hmask | hmask
    · rw [hmask]
      exact decide_eq_true h1
    · rw [hmask]
      exact decide_eq_true h2

/-- The alarm bits of the blocks that are active in a frame. -/
def blockAlarms (model : CanModel) (kf : Nat × CanFrame) : List UInt32 :=
  ((alarmBlocks model kf.1).filter (·.active kf.2.data)).map (·.alarm)

/-- Each frame puts the bits of its active blocks on top. -/
theorem decodeAll_alarms (hl : ∀ kf ∈ l, kf.1 ∈ s.model.objects) :
    (s.decodeAll l).psModuleAlarms = orAll s.psModuleAlarms (l.flatMap (blockAlarms s.model)) := by
  induction l generalizing s with
  | nil => rfl
  | cons kf l ih =>
    have hk := hl kf List.mem_cons_self
    have hmodel := decode_model hk kf.2
    have hhead : (s.decode kf.1 kf.2).psModuleAlarms = orAll s.psModuleAlarms (blockAlarms s.model kf) := by
      rw [s.decode_eq kf.2 hk]
      rfl
    rw [Can.decodeAll_cons, ih fun kf' hkf' => hmodel ▸ hl kf' (List.mem_cons_of_mem kf hkf'), hmodel, hhead,
      List.flatMap_cons]
    exact (gather_append ..).symm

/-- They are the sources' own, but for the output current of the second module. -/
theorem frameAlarms_eq {model : CanModel} {kf : Nat × CanFrame} (hk : kf.1 ∈ model.objects)
    (hiout : model = .facFullDcdc20kHz → kf.1 = 4 → kf.2.data 4 &&& 0b00000001 = 0) :
    frameAlarms model kf = blockAlarms model kf := by
  have hown : frameAlarms model kf =
      ((alarmBlocks model kf.1).filter (·.active kf.2.data)).filterMap (·.field.ownAlarm) := by
    rw [frameAlarms, alarmSources_eq, List.filter_map, List.filterMap_map]
    rfl
  rw [hown, blockAlarms, ← List.filterMap_eq_map]
  refine List.filterMap_congr fun b hb => ?_
  obtain ⟨hmem, hactive⟩ := List.mem_filter.mp hb
  refine (own_alarm model kf.1 hk b hmem).resolve_right ?_
  rintro ⟨hmodel, hobject, hsource⟩
  have hsrc : b.source.active kf.2.data = true := hactive
  rw [hsource] at hsrc
  exact of_decide_eq_true hsrc (hiout hmodel hobject)

/-- The bit that the block of this source lacks is raised by no other. -/
theorem out2_unraised (k : Nat) :
    ∀ b ∈ alarmBlocks .facFullDcdc20kHz k, b.alarm &&& out2CurrentAlarm = 0 := by
  unfold alarmBlocks
  split <;> first | contradiction | decide

theorem blockAlarms_out2 {l : List (Nat × CanFrame)} :
    ∀ a ∈ l.flatMap (blockAlarms .facFullDcdc20kHz), a &&& out2CurrentAlarm = 0 := by
  intro a ha
  obtain ⟨kf, -, ha⟩ := List.mem_flatMap.mp ha
  obtain ⟨b, hb, rfl⟩ := List.mem_map.mp ha
  exact out2_unraised kf.1 b (List.mem_filter.mp hb).1

/-- From a word without it, the frames that wait leave the right word exactly when none has it. -/
theorem waiting_alarms_iff (hword : s.model = .facFullDcdc20kHz → s.psModuleAlarms &&& out2CurrentAlarm = 0) :
    orAll s.psModuleAlarms ((s.waiting s.model.objects).flatMap (blockAlarms s.model)) =
        orAll s.psModuleAlarms ((s.waiting s.model.objects).flatMap (frameAlarms s.model)) ↔
      (s.model = .facFullDcdc20kHz → s.rxFlag 4 = true → (s.object 4).data 4 &&& 0b00000001 = 0) := by
  constructor
  · intro heq hmodel hrx
    by_contra hbit
    have hwaits : (4, s.object 4) ∈ s.waiting s.model.objects :=
      List.mem_map_of_mem (List.mem_filter.mpr ⟨by rw [hmodel]; decide, hrx⟩)
    have hsource : ⟨4, 0b00000001, .mod2Q4 .ioutAlarmSts⟩ ∈ alarmSources .facFullDcdc20kHz 4 := by decide
    have hown : out2CurrentAlarm ∈ frameAlarms s.model (4, s.object 4) := by
      rw [hmodel]
      exact List.mem_filterMap.mpr ⟨_, List.mem_filter.mpr ⟨hsource, decide_eq_true hbit⟩, rfl⟩
    have hshown : orAll s.psModuleAlarms ((s.waiting s.model.objects).flatMap (frameAlarms s.model)) &&&
        out2CurrentAlarm = out2CurrentAlarm :=
      and_of_within (within_gather_of_mem (List.mem_flatMap.mpr ⟨_, hwaits, hown⟩) s.psModuleAlarms)
    rw [← heq, hmodel, orAll_and (hword hmodel) blockAlarms_out2] at hshown
    cases hshown
  · intro hiout
    refine congrArg _ (List.flatMap_congr fun kf hkf => (frameAlarms_eq (s.waiting_objects kf hkf) ?_).symm)
    obtain ⟨k, hk, rfl⟩ := List.mem_map.mp hkf
    intro hmodel hk4
    obtain rfl : k = 4 := hk4
    exact hiout hmodel (List.mem_filter.mp hk).2

/-- The frames that a `CanCheck` reads. -/
theorem canCheck_read (s : Can) :
    s.canCheck.decoded = s.decoded ++ s.waiting s.model.objects := by
  rw [s.canCheck_eq]
  exact (Can.decodeAll_frame (Can.waiting_objects _)).2.2.2.2

end Check

/-! ## Runs -/

/-- A frame that arrives changes no alarm field, and no alarm. -/
theorem receive_alarms (s : Can) (f : CanFrame) :
    (s.receive f).psModuleAlarms = s.psModuleAlarms ∧ (s.receive f).decoded = s.decoded := by
  unfold Can.receive
  split <;> exact ⟨rfl, rfl⟩

theorem Watched.check_eq (s : Watched) :
    s.step .canCheck = ⟨s.can.canCheck, s.sinceReset ++ s.can.waiting s.can.model.objects,
      s.sinceClear ++ s.can.waiting s.can.model.objects⟩ := by
  have hread : s.can.canCheck.decoded.drop s.can.decoded.length = s.can.waiting s.can.model.objects := by
    rw [canCheck_read, List.drop_left]
  rw [← hread]
  rfl

theorem Watched.frame_eq (s : Watched) (f : CanFrame) :
    s.step (.frame f) = ⟨s.can.receive f, s.sinceReset, s.sinceClear⟩ := by
  have hread : (s.can.receive f).decoded.drop s.can.decoded.length = [] := by
    rw [(receive_alarms s.can f).2, List.drop_length]
  show Watched.mk (s.can.receive f) (s.sinceReset ++ (s.can.receive f).decoded.drop _)
    (s.sinceClear ++ (s.can.receive f).decoded.drop _) = _
  rw [hread, List.append_nil, List.append_nil]

/-- The word has the bits of the blocks that were active. -/
def BlockWord (s : Watched) : Prop :=
  s.can.psModuleAlarms = orAll 0 (s.sinceClear.flatMap (blockAlarms s.can.model))

theorem BlockWord.step {s : Watched} (h : BlockWord s) (e : CanEvent) : BlockWord (s.step e) := by
  unfold BlockWord at h ⊢
  cases e with
  | frame f =>
    rw [s.frame_eq, receive_model, (receive_alarms s.can f).1]
    exact h
  | canCheck =>
    have hobjects := s.can.waiting_objects
    rw [s.check_eq, canCheck_model, List.flatMap_append, s.can.canCheck_eq]
    refine (decodeAll_alarms hobjects).trans ?_
    rw [h]
    exact (gather_append ..).symm
  | interlockAlarmReset => rfl
  | alarmStatusClear => rfl

theorem Watched.boot_word (model : CanModel) : BlockWord (.boot model) ∧ AlarmWord (.boot model) := by
  rw [BlockWord, AlarmWord, Watched.boot, boot_eq]
  exact ⟨rfl, rfl⟩

/-- The word stays right unless that alarm is read. -/
theorem AlarmWord.step_iff {s : Watched} (h : AlarmWord s) (hblock : BlockWord s) (e : CanEvent) :
    AlarmWord (s.step e) ↔ HidesIout2 s e := by
  have hword : s.can.model = .facFullDcdc20kHz → s.can.psModuleAlarms &&& out2CurrentAlarm = 0 := by
    intro hmodel
    rw [hblock, hmodel]
    exact orAll_and UInt32.zero_and blockAlarms_out2
  unfold AlarmWord at h ⊢
  cases e with
  | frame f =>
    rw [s.frame_eq, receive_model, (receive_alarms s.can f).1]
    exact iff_of_true h nofun
  | canCheck =>
    have hcheck : s.can.canCheck.psModuleAlarms = orAll s.can.psModuleAlarms
        ((s.can.waiting s.can.model.objects).flatMap (blockAlarms s.can.model)) := by
      rw [s.can.canCheck_eq]
      exact decodeAll_alarms s.can.waiting_objects
    have hframes : orAll 0 ((s.sinceClear ++ s.can.waiting s.can.model.objects).flatMap
        (frameAlarms s.can.model)) = orAll s.can.psModuleAlarms
          ((s.can.waiting s.can.model.objects).flatMap (frameAlarms s.can.model)) := by
      rw [List.flatMap_append, h]
      exact gather_append ..
    rw [s.check_eq, canCheck_model, hcheck, hframes]
    refine (waiting_alarms_iff hword).trans ?_
    exact ⟨fun hiout _ => hiout, fun hiout => hiout rfl⟩
  | interlockAlarmReset => exact iff_of_true rfl nofun
  | alarmStatusClear => exact iff_of_true rfl nofun

theorem Mirrored.receive {l : List (Nat × CanFrame)} {s : Can} (h : Mirrored l s) (f : CanFrame) :
    Mirrored l (s.receive f) := by
  unfold Mirrored
  rw [receive_model, (receive_words s f).1]
  exact h

theorem Mirrored.check_temps {l : List (Nat × CanFrame)} {s : Watched} (h : Mirrored l s.can) :
    Mirrored (l ++ s.can.waiting s.can.model.objects) s.can.canCheck ↔ ShowsTemps s .canCheck := by
  rw [h.check_iff, otherwise_iff]
  exact ⟨fun hbits _ => hbits, fun hbits => hbits rfl⟩

/-- Until a reset, the `else` branches are all that can go wrong. -/
theorem mirrors_step {s : Watched} (h : Mirrored s.sinceReset s.can) (e : CanEvent) :
    Mirrored (s.step e).sinceReset (s.step e).can ↔ ShowsTemps s e := by
  cases e with
  | frame f =>
    rw [s.frame_eq]
    exact iff_of_true (h.receive f) nofun
  | canCheck =>
    rw [s.check_eq]
    exact h.check_temps
  | interlockAlarmReset => exact iff_of_true (fun _ _ _ _ _ hf => nomatch hf) nofun
  | alarmStatusClear => exact iff_of_true h nofun

/-- After a reset, the fields that it cleared are those of no active alarm. -/
theorem Mirrored.reset_iff {s : Watched} (h : Mirrored s.can.decoded s.can) :
    Mirrored s.can.decoded s.can.interlockAlarmReset ↔ ClearsNone s .interlockAlarmReset := by
  have hstatus : ∀ field, s.can.interlockAlarmReset.status field =
      if field ∈ Can.clearedFields then false else s.can.status field := fun _ => rfl
  constructor
  · intro h' _ k hk src hsrc hcleared f hf
    have hfield := h' k hk src hsrc f hf
    rw [hstatus, if_pos hcleared] at hfield
    exact hfield.symm
  · intro hnone k hk src hsrc f hf
    rw [hstatus]
    split
    · next hcleared => exact (hnone rfl k hk src hsrc hcleared f hf).symm
    · exact h k hk src hsrc f hf

theorem mirrors_always_step {s : Watched} (h : Mirrored s.can.decoded s.can) (e : CanEvent) :
    Mirrored (s.step e).can.decoded (s.step e).can ↔ ShowsTemps s e ∧ ClearsNone s e := by
  cases e with
  | frame f =>
    rw [s.frame_eq, (receive_alarms s.can f).2]
    exact iff_of_true (h.receive f) ⟨nofun, nofun⟩
  | canCheck =>
    rw [s.check_eq, canCheck_read, h.check_temps]
    exact ⟨fun hbits => ⟨hbits, nofun⟩, fun hbits => hbits.1⟩
  | interlockAlarmReset =>
    refine h.reset_iff.trans ?_
    exact ⟨fun hnone => ⟨nofun, hnone⟩, fun hnone => hnone.2⟩
  | alarmStatusClear => exact iff_of_true h ⟨nofun, nofun⟩

/-- **Alarms mirror the frames.** For every model, whose alarms are all sources,
and every run from power-up: the alarm fields are always as the latest frames
since a reset say, and the alarm word has exactly the bits that the alarms active
since `AlarmStatusClear` are named after, exactly when every Buck frame that is
read has both inductor temperature alarms, and no frame of the second output
module that is read its current alarm. The fields are always as the latest frames
say, resets or not, exactly when moreover no reset clears an active alarm. -/
theorem alarms_mirror_iff (model : CanModel) (evs : List CanEvent) :
    model.Covers alarmSources (·.ownAlarm.isSome) ∧
    (Always Watched.step (Mirrors (·.sinceReset)) (.boot model) evs ↔
      Along Watched.step (fun s e => ShowsTemps s e ∧ HidesIout2 s e) (.boot model) evs) ∧
    (Always Watched.step (Mirrors (·.can.decoded)) (.boot model) evs ↔
      Along Watched.step (fun s e => (ShowsTemps s e ∧ ClearsNone s e) ∧ HidesIout2 s e) (.boot model) evs) := by
  obtain ⟨hblock, hword⟩ := Watched.boot_word model
  refine ⟨alarm_covers model, ?_, ?_⟩
  · refine always_iff_along (J := BlockWord) (fun s e hj hi => ⟨hj.step e, ?_⟩) hblock ⟨?_, hword⟩
    · exact and_congr (mirrors_step hi.1 e) (hi.2.step_iff hj e)
    · intro _ _ _ _ _ hf
      cases hf
  · refine always_iff_along (J := BlockWord) (fun s e hj hi => ⟨hj.step e, ?_⟩) hblock ⟨?_, hword⟩
    · exact and_congr (mirrors_always_step hi.1 e) (hi.2.step_iff hj e)
    · intro _ _ _ _ _ hf
      rw [Watched.boot, boot_eq] at hf
      cases hf

/-- A Buck frame without alarms sets the inductor temperature alarms. -/
theorem tempL1_set :
    ¬ Always Watched.step (Mirrors (·.sinceReset)) (.boot .facFullAcdc10kHz)
      [.frame ⟨0x021, fun _ => 0⟩, .canCheck] := by
  intro h
  have hfield := h.foldl.1 4 (by decide) ⟨4, 0b00010000, .buck .tempL1AlarmSts⟩ (by decide +kernel)
    ⟨0x021, fun _ => 0⟩ rfl
  revert hfield
  decide +kernel

end UdcFirmware.Drivers
