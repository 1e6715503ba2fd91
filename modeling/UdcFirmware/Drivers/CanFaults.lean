/-
The fault bits of the model's own frames.

A `Monitor` follows a run by what the code's names say: the object that the
model's own case of `InitCanBkp` has for an identifier, and the bit of
`ipc_lib.h` that the status field of a source is named after. It reads every frame, in the
order in which `CanCheck` goes down the objects. `Right` says that `CanCheck` has
read the same frames, and that the fault words hold the bits of the sources
active in those read since the last reset.

Three slips are in the way. `CanCheck` raises `OUT1_OVERVOLTAGE` for
`VoutRectf2Itlk`, and `OUT1_OVERCURRENT` for the second module of
`FAC_Full_DCDC_20kHz`. The case of `FAC_Full_ACDC_10kHz` in `InitCanBkp` has no
`break`, so that objects 3 and 4 receive other identifiers. Without frames that
reach them (`Decodes`), all is right in every run (`faults_right`).
-/
import UdcFirmware.Drivers.CanLatches

namespace UdcFirmware.Drivers

open Traces Unions

/-! ## What the names say -/

/-- The object that the model's own case of `InitCanBkp` has for an identifier. -/
def CanModel.ownObject (model : CanModel) (id : UInt32) : Option Nat :=
  (model.filters.find? (·.2 = id)).map (·.1)

/-- Two fields that `ipc_lib.h` has one bit for. -/
def Status.SharedFault : Status → Status → Prop
  | buck field, buck field' => field ∈ [.iin1ItlkSts, .iin2ItlkSts] ∧ field' ∈ [.iin1ItlkSts, .iin2ItlkSts]
  | mod1Q4 field, mod2Q4 field' => field = field' ∧ field ≠ .ioutItlkSts
  | mod2Q4 field, mod1Q4 field' => field = field' ∧ field ≠ .ioutItlkSts
  | _, _ => False

instance (field field' : Status) : Decidable (field.SharedFault field') := by
  unfold Status.SharedFault
  split <;> infer_instance

/-- All other sources of a model have bits of their own. -/
def CanModel.Separate (model : CanModel) : Prop :=
  ∀ k ∈ model.objects, ∀ j ∈ model.objects, ∀ src ∈ itlkSources model k, ∀ src' ∈ itlkSources model j,
    src.field.ownFault = src'.field.ownFault → src.field = src'.field ∨ src.field.SharedFault src'.field

theorem CanModel.separate (model : CanModel) : model.Separate := by
  unfold CanModel.Separate
  cases model <;> decide +kernel

/-! ## The monitor -/

/-- `read` are the frames that have been read, `active` those since the last reset. -/
structure Monitor where
  waiting : Nat → List CanFrame
  read : List (Nat × CanFrame)
  active : List (Nat × CanFrame)

/-- The frames that wait in some objects. -/
def Monitor.frames (m : Monitor) (ks : List Nat) : List (Nat × CanFrame) :=
  ks.flatMap fun k => (m.waiting k).map fun f => (k, f)

def Monitor.step (model : CanModel) (m : Monitor) : CanEvent → Monitor
  | .frame f =>
    match model.ownObject f.id with
    | some k => { m with waiting := Function.update m.waiting k (m.waiting k ++ [f]) }
    | none => m
  | .canCheck =>
    { waiting := fun _ => []
      read := m.read ++ m.frames model.objects
      active := m.active ++ m.frames model.objects }
  | .interlockAlarmReset => { m with active := [] }
  | .alarmStatusClear => m

/-- The fault bits of the sources that are active in a frame. -/
def frameFaults (model : CanModel) (kf : Nat × CanFrame) : List FaultBit :=
  ((itlkSources model kf.1).filter (·.active kf.2.data)).filterMap (·.field.ownFault)

def Monitor.faults (model : CanModel) (m : Monitor) : List FaultBit := m.active.flatMap (frameFaults model)

/-- A run, with the monitor beside it. -/
structure Supervised where
  can : Can
  monitor : Monitor

def Supervised.boot (model : CanModel) : Supervised := ⟨.boot model, fun _ => [], [], []⟩

def Supervised.step (s : Supervised) (e : CanEvent) : Supervised :=
  ⟨s.can.step e, s.monitor.step s.can.model e⟩

/-- The frames of the model's own identifiers were decoded as its own objects', and the
words have the bits of the sources active since the reset. -/
structure Right (s : Supervised) : Prop where
  decoded : s.can.decoded.filter (fun kf => (s.can.model.ownObject kf.2.id).isSome) = s.monitor.read
  hard : s.can.hardInterlocks = orAll 0 ((s.monitor.faults s.can.model).map (·.hardBits))
  soft : s.can.softInterlocks = orAll 0 ((s.monitor.faults s.can.model).map (·.softBits))

/-- Each frame is read before the next one with its identifier arrives. -/
def ReadInTime (s : Supervised) : CanEvent → Prop
  | .frame f => ∀ k, s.can.model.ownObject f.id = some k → s.monitor.waiting k = []
  | _ => True

/-- The frame reaches no slip: `VoutRectf2Itlk`, the objects that receive other identifiers,
`IoutItlkSts` of the second module. -/
def Decodes : CanModel → CanFrame → Prop
  | .fapDcdc20kHz, _ => True
  | .fapAcdc, f => f.id = 0x014 → f.data 4 &&& 0b00001000 = 0
  | .facFullAcdc10kHz, f =>
    f.id ≠ 0x012 ∧ f.id ≠ 0x013 ∧ (f.id = 0x021 → f.data 6 = 0 ∧ f.data 7 &&& 0b00000001 = 0)
  | .facFullDcdc20kHz, f => f.id = 0x021 → f.data 5 &&& 0b00000001 = 0

/-! ## What the objects receive -/

/-- After `InitCanBkp`. -/
def CanModel.received : CanModel → List (Nat × UInt32)
  | facFullAcdc10kHz => facFullDcdc20kHz.filters
  | model => model.filters

theorem accepts_boot (model : CanModel) (id : UInt32) :
    (Can.boot model).accepts id = (model.received.find? (·.2 = id)).map (·.1) := by
  have hsplit : List.range' 1 32 = model.received.map (·.1) ++
      List.range' (model.received.length + 1) (32 - model.received.length) := by
    cases model <;> decide
  have hset : ∀ kid ∈ model.received, (Can.boot model).filter kid.1 = some kid.2 := by
    cases model <;> decide
  have hrest : ∀ k ∈ List.range' (model.received.length + 1) (32 - model.received.length),
      (Can.boot model).filter k = none := by
    cases model <;> decide
  have hnone : (List.range' (model.received.length + 1) (32 - model.received.length)).find?
      (fun k => (Can.boot model).filter k = some id) = none := by
    rw [List.find?_eq_none]
    intro k hk
    simp [hrest k hk]
  have hsame : model.received.find? (fun kid => (Can.boot model).filter kid.1 = some id) =
      model.received.find? (·.2 = id) := by
    rw [← List.head?_filter, ← List.head?_filter, List.filter_congr fun kid hkid => ?_]
    simp [hset kid hkid]
  rw [Can.accepts, hsplit, List.find?_append, hnone, Option.or_none, List.find?_map]
  exact congrArg _ hsame

/-- Where the two interlocks stand that have no block for their own bit. -/
theorem misnamed_source (model : CanModel) :
    ∀ k ∈ model.objects, ∀ b ∈ itlkBlocks model k, b.field ∈ model.misnamed →
      (model = .fapAcdc ∧ k = 5 ∧ b.byte = 4 ∧ b.mask = 0b00001000) ∨
      (model = .facFullDcdc20kHz ∧ k = 4 ∧ b.byte = 5 ∧ b.mask = 0b00000001) := by
  cases model <;> decide +kernel

theorem buck_source : ∀ k ∈ CanModel.facFullAcdc10kHz.objects, ∀ b ∈ itlkBlocks .facFullAcdc10kHz k,
    k = 4 ∧ (b.byte = 6 ∨ b.byte = 7 ∧ b.mask = 0b00000001) := by
  decide +kernel

/-- An active source of the frame is one of the model's own object, and raises its own bit. -/
def Sound (model : CanModel) (kf : Nat × CanFrame) : Prop :=
  ∀ b ∈ itlkBlocks model kf.1, b.active kf.2.data →
    model.ownObject kf.2.id = some kf.1 ∧ b.field.ownFault = some b.fault

theorem find_received {l : List (Nat × UInt32)} {id : UInt32} {k : Nat}
    (h : (l.find? (·.2 = id)).map (·.1) = some k) : (k, id) ∈ l := by
  obtain ⟨kid, hfind, rfl⟩ := Option.map_eq_some_iff.mp h
  have hid : kid.2 = id := by simpa using List.find?_some hfind
  rw [← hid]
  exact List.mem_of_find?_eq_some hfind

/-- An object takes the frames that are its own, and others only where nothing comes of them. -/
theorem Decodes.sound {model : CanModel} {f : CanFrame} (h : Decodes model f) {k : Nat}
    (hk : (Can.boot model).accepts f.id = some k) : k ∈ model.objects ∧ Sound model (k, f) := by
  have hobjects : ∀ kid ∈ model.received, kid.1 ∈ model.objects := by cases model <;> decide
  rw [accepts_boot] at hk
  have hmem := find_received hk
  have hobject : k ∈ model.objects := hobjects _ hmem
  refine ⟨hobject, fun b hb hactive => ?_⟩
  have hsource := (own_fault model k hobject b hb).imp_right (misnamed_source model k hobject b hb)
  cases model with
  | fapDcdc20kHz => exact ⟨hk, by simpa using hsource⟩
  | fapAcdc =>
    refine ⟨hk, hsource.resolve_right ?_⟩
    rintro (⟨-, rfl, hbyte, hmask⟩ | ⟨hmodel, -⟩)
    · have hid : f.id = 0x014 := by simpa [CanModel.received, CanModel.filters] using hmem
      simp [ItlkBlock.active, hbyte, hmask, h hid] at hactive
    · cases hmodel
  | facFullDcdc20kHz =>
    refine ⟨hk, hsource.resolve_right ?_⟩
    rintro (⟨hmodel, -⟩ | ⟨-, rfl, hbyte, hmask⟩)
    · cases hmodel
    · have hid : f.id = 0x021 := by simpa [CanModel.received, CanModel.filters] using hmem
      simp [ItlkBlock.active, hbyte, hmask, h hid] at hactive
  | facFullAcdc10kHz =>
    -- Sources are in object 4 only, which receives another identifier.
    obtain ⟨rfl, hbits⟩ := buck_source k hobject b hb
    have hid : f.id = 0x021 := by simpa [CanModel.received, CanModel.filters] using hmem
    obtain ⟨h6, h7⟩ := h.2.2 hid
    rcases hbits with hbyte | ⟨hbyte, hmask⟩
    · simp [ItlkBlock.active, hbyte, h6] at hactive
    · simp [ItlkBlock.active, hbyte, hmask, h7] at hactive

theorem Decodes.own {model : CanModel} {f : CanFrame} (h : Decodes model f) {k : Nat}
    (hk : model.ownObject f.id = some k) : (Can.boot model).accepts f.id = some k := by
  rw [accepts_boot]
  cases model with
  | facFullAcdc10kHz =>
    have hmem := find_received hk
    obtain ⟨h2, h3, -⟩ := h
    simp only [CanModel.filters, List.mem_cons, Prod.mk.injEq, List.not_mem_nil, or_false] at hmem
    rcases hmem with ⟨rfl, hid⟩ | ⟨rfl, hid⟩ | ⟨-, hid⟩ | ⟨-, hid⟩
    · rw [hid]
      rfl
    · rw [hid]
      rfl
    · exact absurd hid h2
    · exact absurd hid h3
  | fapDcdc20kHz => exact hk
  | fapAcdc => exact hk
  | facFullDcdc20kHz => exact hk

/-! ## What is read -/

variable {s : Can} {model : CanModel} {kf : Nat × CanFrame} {l : List (Nat × CanFrame)}

/-- A frame of the model's own identifiers. -/
abbrev Own (model : CanModel) (kf : Nat × CanFrame) : Bool := (model.ownObject kf.2.id).isSome

theorem frameFaults_eq (model : CanModel) (kf : Nat × CanFrame) : frameFaults model kf =
    ((itlkBlocks model kf.1).filter (·.active kf.2.data)).filterMap (·.field.ownFault) := by
  rw [frameFaults, itlkSources_eq, List.filter_map, List.filterMap_map]
  rfl

/-- The bits that a frame raises, with those that were raised before, are those of its active sources. -/
theorem raised_gather (hs : Sound s.model kf) (bits : FaultBit → UInt32) {x : UInt32}
    (hlatched : ∀ b ∈ itlkBlocks s.model kf.1, b.edge → s.status b.field →
      Within (· ||| ·) (bits b.fault) x) :
    orAll x ((s.raised kf.1 kf.2).map (bits ·.fault)) = orAll x ((frameFaults s.model kf).map bits) := by
  have hraised : s.raised kf.1 kf.2 = ((itlkBlocks s.model kf.1).filter (·.active kf.2.data)).filter
      fun b => !(b.edge && s.status b.field) := by
    rw [List.filter_filter]
    refine List.filter_congr fun b _ => ?_
    rw [ItlkBlock.raises, Bool.and_comm]
  have hfaults : frameFaults s.model kf =
      ((itlkBlocks s.model kf.1).filter (·.active kf.2.data)).map (·.fault) := by
    rw [frameFaults_eq, ← List.filterMap_eq_map]
    refine List.filterMap_congr fun b hb => ?_
    obtain ⟨hmem, hactive⟩ := List.mem_filter.mp hb
    exact (hs b hmem hactive).2
  rw [hraised, hfaults, List.map_map]
  refine gather_filter fun b hb hkept => ?_
  simp only [Bool.not_eq_false', Bool.and_eq_true] at hkept
  exact hlatched b (List.mem_filter.mp hb).1 hkept.1 hkept.2

/-- One frame puts the bits of its active sources on top. -/
theorem Latched.decode_words (h : Latched s) (hk : kf.1 ∈ s.model.objects) (hs : Sound s.model kf) :
    (s.decode kf.1 kf.2).hardInterlocks =
        orAll s.hardInterlocks ((frameFaults s.model kf).map (·.hardBits)) ∧
      (s.decode kf.1 kf.2).softInterlocks =
        orAll s.softInterlocks ((frameFaults s.model kf).map (·.softBits)) := by
  rw [s.decode_eq kf.2 hk]
  exact ⟨raised_gather hs _ fun b hb he hset => (h kf.1 hk b hb he hset).1,
    raised_gather hs _ fun b hb he hset => (h kf.1 hk b hb he hset).2⟩

/-- A frame of another identifier has no active source. -/
theorem Sound.other (hs : Sound model kf) (hown : Own model kf = false) : frameFaults model kf = [] := by
  have hnone : (itlkBlocks model kf.1).filter (·.active kf.2.data) = [] := by
    refine List.filter_eq_nil_iff.mpr fun b hb hactive => ?_
    rw [Own, (hs b hb hactive).1] at hown
    cases hown
  rw [frameFaults_eq, hnone]
  rfl

theorem faults_own (hs : ∀ kf ∈ l, Sound model kf) :
    (l.filter (Own model)).flatMap (frameFaults model) = l.flatMap (frameFaults model) := by
  induction l with
  | nil => rfl
  | cons kf l ih =>
    have hl : ∀ kf' ∈ l, Sound model kf' := fun kf' hkf' => hs kf' (List.mem_cons_of_mem kf hkf')
    cases hown : Own model kf with
    | true => rw [List.filter_cons_of_pos hown, List.flatMap_cons, List.flatMap_cons, ih hl]
    | false =>
      rw [List.filter_cons_of_neg (by rw [hown]; exact Bool.false_ne_true), List.flatMap_cons, ih hl,
        (hs kf List.mem_cons_self).other hown, List.nil_append]

/-- So do frames, one after the other. -/
theorem Latched.decodeAll_words (h : Latched s)
    (hl : ∀ kf ∈ l, kf.1 ∈ s.model.objects ∧ Sound s.model kf) :
    (s.decodeAll l).hardInterlocks =
        orAll s.hardInterlocks ((l.flatMap (frameFaults s.model)).map (·.hardBits)) ∧
      (s.decodeAll l).softInterlocks =
        orAll s.softInterlocks ((l.flatMap (frameFaults s.model)).map (·.softBits)) := by
  induction l generalizing s with
  | nil => exact ⟨rfl, rfl⟩
  | cons kf l ih =>
    obtain ⟨hk, hs⟩ := hl kf List.mem_cons_self
    have hmodel := decode_model hk kf.2
    obtain ⟨hhard, hsoft⟩ := h.decode_words hk hs
    obtain ⟨hhard', hsoft'⟩ := ih (h.decode hk kf.2) fun kf' hkf' =>
      hmodel ▸ hl kf' (List.mem_cons_of_mem kf hkf')
    rw [hmodel] at hhard' hsoft'
    rw [Can.decodeAll_cons, hhard', hsoft', hhard, hsoft, List.flatMap_cons, List.map_append, List.map_append]
    exact ⟨(gather_append ..).symm, (gather_append ..).symm⟩

/-! ## Runs -/

/-- The frame that waits in an object. -/
def Can.held (s : Can) (k : Nat) : List CanFrame := if s.rxFlag k then [s.object k] else []

theorem Can.mem_held {k : Nat} (hrx : s.rxFlag k = true) : s.object k ∈ s.held k := by
  rw [Can.held, if_pos hrx]
  exact List.mem_singleton_self _

/-- In a run whose frames reach no slip, the monitor waits for the frames that the
objects hold. -/
structure Follows (model : CanModel) (s : Supervised) : Prop where
  model_eq : s.can.model = model
  filter_eq : s.can.filter = (Can.boot model).filter
  waiting : ∀ k, s.monitor.waiting k = (s.can.held k).filter fun f => Own model (k, f)
  taken : ∀ k, ∀ f ∈ s.can.held k, (Can.boot model).accepts f.id = some k ∧ Decodes model f
  latched : Latched s.can
  right : Right s

theorem Follows.accepts {s : Supervised} (h : Follows model s) (id : UInt32) :
    s.can.accepts id = (Can.boot model).accepts id := by
  unfold Can.accepts
  rw [h.filter_eq]

/-- An object has one identifier. -/
theorem accepts_inj {id id' : UInt32} {k : Nat} (h : s.accepts id = some k) (h' : s.accepts id' = some k) :
    id = id' := by
  have hid : s.filter k = some id := by simpa using List.find?_some h
  have hid' : s.filter k = some id' := by simpa using List.find?_some h'
  exact Option.some_inj.mp (hid.symm.trans hid')

theorem Follows.boot (model : CanModel) : Follows model (.boot model) where
  model_eq := boot_model model []
  filter_eq := rfl
  waiting k := by rw [Supervised.boot, boot_eq]; rfl
  taken k f hf := by
    rw [Supervised.boot, boot_eq] at hf
    cases hf
  latched := Latched.run model []
  right := by
    rw [Supervised.boot, boot_eq]
    exact ⟨rfl, rfl, rfl⟩

/-- The monitor reads those of the frames that are the model's own. -/
theorem Follows.frames {s : Supervised} (h : Follows model s) (ks : List Nat) :
    s.monitor.frames ks = (s.can.waiting ks).filter (Own model) := by
  induction ks with
  | nil => rfl
  | cons k ks ih =>
    have hhead : (s.monitor.waiting k).map (fun f => (k, f)) = (s.can.waiting [k]).filter (Own model) := by
      rw [h.waiting, Can.held, Can.waiting]
      cases hrx : s.can.rxFlag k with
      | true => cases hown : Own model (k, s.can.object k) <;> simp [hrx, hown]
      | false => simp [hrx]
    have hall : s.can.waiting (k :: ks) = s.can.waiting [k] ++ s.can.waiting ks := Can.waiting_append [k] ks
    rw [hall, List.filter_append, ← ih, ← hhead]
    rfl

theorem receive_held {f : CanFrame} {k : Nat} (hk : s.accepts f.id = some k) (j : Nat) :
    (s.receive f).held j = if j = k then [f] else s.held j := by
  simp only [Can.held, Can.receive, hk]
  by_cases hj : j = k
  · subst hj
    simp
  · simp [hj]

/-- A frame that an object takes waits in it, and for the monitor if it is the model's own. -/
theorem Follows.waiting_frame {s : Supervised} (h : Follows model s) {f : CanFrame}
    (hread : ReadInTime s (.frame f)) (hf : Decodes model f) {k : Nat}
    (hk : (Can.boot model).accepts f.id = some k) (j : Nat) :
    (s.monitor.step model (.frame f)).waiting j =
      (if j = k then [f] else s.can.held j).filter fun f => Own model (j, f) := by
  by_cases hj : j = k
  · subst hj
    rw [if_pos rfl]
    cases hown : model.ownObject f.id with
    | some i =>
      have hi : i = j := Option.some_inj.mp ((hf.own hown).symm.trans hk)
      subst hi
      have hempty : s.monitor.waiting i = [] := hread i (h.model_eq ▸ hown)
      simp [Monitor.step, hown, hempty, Own]
    | none =>
      -- The frame that waited has the same identifier.
      have hbefore : s.monitor.waiting j = [] := by
        rw [h.waiting, List.filter_eq_nil_iff]
        intro g hg
        have hid := accepts_inj (h.taken j g hg).1 hk
        simp [Own, hid, hown]
      simp [Monitor.step, hown, hbefore, Own]
  · rw [if_neg hj, ← h.waiting]
    cases hown : model.ownObject f.id with
    | some i =>
      have hi : i = k := Option.some_inj.mp ((hf.own hown).symm.trans hk)
      subst hi
      simp [Monitor.step, hown, hj]
    | none => simp [Monitor.step, hown]

/-- The monitor reads nothing when a frame arrives. -/
theorem Monitor.step_frame (m : Monitor) (model : CanModel) (f : CanFrame) :
    (m.step model (.frame f)).read = m.read ∧ (m.step model (.frame f)).active = m.active := by
  cases hown : model.ownObject f.id <;> simp [Monitor.step, hown]

/-- A frame that no object takes is not one of the model's own. -/
theorem Follows.ignored {s : Supervised} (h : Follows model s) {f : CanFrame} (hf : Decodes model f)
    (hk : (Can.boot model).accepts f.id = none) : s.step (.frame f) = s := by
  have hown : model.ownObject f.id = none := by
    cases hj : model.ownObject f.id with
    | none => rfl
    | some j => cases (hf.own hj).symm.trans hk
  have hcan : s.can.receive f = s.can := by rw [Can.receive, h.accepts, hk]
  have hsame : s.monitor.step model (.frame f) = s.monitor := by simp [Monitor.step, hown]
  show (⟨s.can.receive f, s.monitor.step s.can.model (.frame f)⟩ : Supervised) = s
  rw [hcan, h.model_eq, hsame]

theorem Follows.frame {s : Supervised} (h : Follows model s) {f : CanFrame} (hread : ReadInTime s (.frame f))
    (hf : Decodes model f) : Follows model (s.step (.frame f)) := by
  cases hk : (Can.boot model).accepts f.id with
  | none =>
    rw [h.ignored hf hk]
    exact h
  | some k =>
    obtain ⟨hreadSame, hactive⟩ := s.monitor.step_frame model f
    have hmon : (s.step (.frame f)).monitor = s.monitor.step model (.frame f) := by
      rw [← h.model_eq]
      rfl
    have hacc := (h.accepts f.id).trans hk
    have hcan : (s.step (.frame f)).can = s.can.receive f := rfl
    have hreceive : s.can.receive f = { s.can with
        object := Function.update s.can.object k f
        rxFlag := Function.update s.can.rxFlag k true } := by rw [Can.receive, hacc]
    refine ⟨(receive_model _ _).trans h.model_eq, ?_, fun j => ?_, fun j g hg => ?_,
      h.latched.step (.frame f), ?_⟩
    · rw [hcan, hreceive]
      exact h.filter_eq
    · rw [hmon, hcan, receive_held hacc]
      exact h.waiting_frame hread hf hk j
    · rw [hcan, receive_held hacc] at hg
      split at hg
      · next hj =>
        rw [List.mem_singleton.mp hg, hj]
        exact ⟨hk, hf⟩
      · exact h.taken j g hg
    · obtain ⟨hdecoded, hhard, hsoft⟩ := h.right
      refine ⟨?_, ?_, ?_⟩ <;> rw [hmon, hcan, hreceive]
      · rw [hreadSame]
        exact hdecoded
      · rw [Monitor.faults, hactive]
        exact hhard
      · rw [Monitor.faults, hactive]
        exact hsoft

/-- What waits is in an object of the model, and reaches no slip. -/
theorem Follows.sound {s : Supervised} (h : Follows model s) {k : Nat} (hrx : s.can.rxFlag k = true) :
    k ∈ s.can.model.objects ∧ Sound s.can.model (k, s.can.object k) := by
  obtain ⟨hacc, hf⟩ := h.taken k _ (Can.mem_held hrx)
  exact h.model_eq.symm ▸ hf.sound hacc

/-- After a `CanCheck` nothing waits. -/
theorem Follows.held_canCheck {s : Supervised} (h : Follows model s) (k : Nat) :
    s.can.canCheck.held k = [] := by
  rw [s.can.canCheck_eq, Can.held]
  refine if_neg ?_
  show ¬ (if k ∈ s.can.model.objects then false else s.can.rxFlag k) = true
  split
  · exact Bool.false_ne_true
  · next hk =>
    intro hrx
    exact hk (h.sound hrx).1

theorem Follows.canCheck {s : Supervised} (h : Follows model s) : Follows model (s.step .canCheck) := by
  obtain ⟨hdecoded, hhard, hsoft⟩ := h.right
  have hsound : ∀ kf ∈ s.can.waiting s.can.model.objects,
      kf.1 ∈ s.can.model.objects ∧ Sound s.can.model kf := by
    intro kf hkf
    obtain ⟨k, hk, rfl⟩ := List.mem_map.mp hkf
    exact h.sound (List.mem_filter.mp hk).2
  obtain ⟨-, hfilter, -, -, hread⟩ := Can.decodeAll_frame s.can.waiting_objects
  obtain ⟨hhard', hsoft'⟩ := h.latched.decodeAll_words hsound
  have hcan : (s.step .canCheck).can = { s.can.decodeAll (s.can.waiting s.can.model.objects) with
      rxFlag := fun k => if k ∈ s.can.model.objects then false else s.can.rxFlag k } := s.can.canCheck_eq
  have hheld : ∀ k, (s.step .canCheck).can.held k = [] := h.held_canCheck
  have hframes : s.monitor.frames s.can.model.objects =
      (s.can.waiting s.can.model.objects).filter (Own s.can.model) := h.model_eq.symm ▸ h.frames _
  have hfaults : (s.monitor.step s.can.model .canCheck).faults s.can.model = s.monitor.faults s.can.model ++
      (s.can.waiting s.can.model.objects).flatMap (frameFaults s.can.model) := by
    rw [← faults_own fun kf hkf => (hsound kf hkf).2, ← hframes]
    exact List.flatMap_append
  refine ⟨(canCheck_model _).trans h.model_eq, ?_, fun k => ?_, fun k f hf => ?_,
    h.latched.step .canCheck, ?_⟩
  · rw [hcan]
    exact hfilter.trans h.filter_eq
  · rw [hheld]
    rfl
  · rw [hheld] at hf
    cases hf
  · have hmodel' : (s.step .canCheck).can.model = s.can.model := canCheck_model _
    refine ⟨?_, ?_, ?_⟩ <;> rw [hmodel', hcan]
    · show (s.can.decodeAll _).decoded.filter _ = s.monitor.read ++ s.monitor.frames _
      rw [hread, List.filter_append, hdecoded, hframes]
    · show (s.can.decodeAll _).hardInterlocks = orAll 0 (((s.monitor.step _ _).faults _).map _)
      rw [hhard', hfaults, hhard, List.map_append]
      exact (gather_append ..).symm
    · show (s.can.decodeAll _).softInterlocks = orAll 0 (((s.monitor.step _ _).faults _).map _)
      rw [hsoft', hfaults, hsoft, List.map_append]
      exact (gather_append ..).symm

theorem Follows.step {s : Supervised} (h : Follows model s) {e : CanEvent} (hread : ReadInTime s e)
    (hf : ∀ f, e = .frame f → Decodes model f) : Follows model (s.step e) := by
  cases e with
  | frame f => exact h.frame hread (hf f rfl)
  | canCheck => exact h.canCheck
  | interlockAlarmReset =>
    exact ⟨h.model_eq, h.filter_eq, h.waiting, h.taken, h.latched.step .interlockAlarmReset,
      h.right.decoded, rfl, rfl⟩
  | alarmStatusClear =>
    exact ⟨h.model_eq, h.filter_eq, h.waiting, h.taken, h.latched,
      h.right.decoded, h.right.hard, h.right.soft⟩

/-- **Every interlock reaches its own bit.** For every model, whose interlocks
are all sources, with separate bits: in every run from power-up in which each
frame is read before the next one with its identifier, and no frame reaches a
slip, `CanCheck` decodes the model's own frames as those of its own objects, and
always the fault words have exactly the own bits of the sources active in the
frames read since the last reset. -/
theorem faults_right (model : CanModel) (evs : List CanEvent)
    (hread : Along Supervised.step ReadInTime (.boot model) evs)
    (hframes : ∀ f, .frame f ∈ evs → Decodes model f) :
    model.Covers itlkSources (·.ownFault.isSome) ∧ model.Separate ∧
      Always Supervised.step Right (.boot model) evs := by
  refine ⟨itlk_covers model, model.separate, ?_⟩
  have hdecodes : ∀ e ∈ evs, ∀ f, e = .frame f → Decodes model f := by
    intro e he f hef
    subst hef
    exact hframes f he
  have hfollows : Always Supervised.step (Follows model) (.boot model) evs :=
    always_of_along (fun s e h hc => h.step hc.1 hc.2) (.boot model) (hread.and_mem hdecodes)
  exact hfollows.imp fun s h => h.right

theorem faults_right_vout :
    CanModel.fapDcdc20kHz.Covers itlkSources (·.ownFault.isSome) ∧ CanModel.fapDcdc20kHz.Separate ∧
      Always Supervised.step Right (.boot .fapDcdc20kHz)
        [.frame voutFrame, .canCheck, .interlockAlarmReset] :=
  faults_right .fapDcdc20kHz _ ⟨fun _ _ => rfl, trivial, trivial, trivial⟩ fun _ _ => trivial

/-- The overvoltage of the second rectifier is raised as that of the first. -/
theorem voutRectf2_misnamed :
    let evs : List CanEvent := [.frame ⟨0x014, fun i => if i = 4 then 0b00001000 else 0⟩, .canCheck]
    Along Supervised.step ReadInTime (.boot .fapAcdc) evs ∧
      ¬ Always Supervised.step Right (.boot .fapAcdc) evs := by
  refine ⟨⟨fun _ _ => rfl, trivial, trivial⟩, fun h => ?_⟩
  have hhard := h.foldl.hard
  revert hhard
  decide +kernel

end UdcFirmware.Drivers
