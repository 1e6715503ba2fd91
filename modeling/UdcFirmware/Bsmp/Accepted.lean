/-
Requests that are carried out: a packet made for a command (`request`), with
a payload of the right length and ids in range, is answered as follows. The
converse of `Outcome`, for the callers who know what they send.
-/
import UdcFirmware.Bsmp.Answers
import Mathlib.Data.List.Perm.Subperm

namespace UdcFirmware.Bsmp

open ByteMem Checked

variable {σ : Type} {md5 : Md5} {area : Nat → UInt8} {s s' : System σ}

/-- The message that carries a command and its payload. -/
def message (cmd : CommandCode) (payload : List UInt8) : Message :=
  ⟨cmd.toByte, UInt16.ofNat payload.length, payload⟩

@[simp] theorem message_payload (cmd : CommandCode) (payload : List UInt8) :
    (message cmd payload).payload = payload := rfl

theorem message_size {cmd : CommandCode} {payload : List UInt8} (h : payload.length ≤ bsmpMaxPayload) :
    (message cmd payload).payloadSize.toNat = payload.length :=
  UInt16.toNat_ofNat_of_lt (Nat.lt_of_le_of_lt h (by decide))

theorem message_whole {cmd : CommandCode} {payload : List UInt8} (h : payload.length ≤ bsmpMaxPayload) :
    (message cmd payload).Whole := (message_size h).symm

/-- A packet made for a command reaches its handler. -/
theorem respond_request {cmd : CommandCode} {payload : List UInt8}
    {handler : System σ → Message → Except Fault (System σ × Message)}
    (hc : command md5 area cmd.toByte = some handler)
    (hlen : payload.length + bsmpHeaderSize ≤ bsmpMaxPayload) :
    respond md5 s (request cmd.toByte payload) area = handler s.clearModified (message cmd payload) := by
  simp only [bsmpHeaderSize, bsmpMaxPayload] at hlen
  have hmsg : (request cmd.toByte payload).message = message cmd payload :=
    request_message cmd.toByte (by simp only [bsmpMaxPayload]; omega)
  have hsize : (message cmd payload).payloadSize.toNat = payload.length :=
    message_size (by simp only [bsmpMaxPayload]; omega)
  have hpacket : (request cmd.toByte payload).packet.len.toNat = payload.length + bsmpHeaderSize :=
    UInt16.toNat_ofNat_of_lt (by simp only [bsmpHeaderSize, UInt16.size]; omega)
  have hguard : ¬ ((request cmd.toByte payload).packet.len.toNat < bsmpHeaderSize ∨
      (request cmd.toByte payload).packet.len.toNat ≠
        (message cmd payload).payloadSize.toNat + bsmpHeaderSize) := by
    rw [hpacket, hsize]
    omega
  have hcode : (message cmd payload).commandCode = cmd.toByte := rfl
  simp only [respond, hmsg, hguard, if_false, hcode, hc]

/-! ## Variables -/

/-- A hook that leaves the world as it is. -/
def HookHarmless (s : System σ) : Prop :=
  ∀ f, s.server.hook = some f → ∀ op list w, (f op list w).2.2 = w

theorem HookHarmless.same (h : HookHarmless s) (hs : s'.server.hook = s.server.hook) : HookHarmless s' := by
  intro f hf
  rw [hs] at hf
  exact h f hf

theorem callHook_harmless {op : BsmpOperation} {entries : List (Option Ptr)}
    (hcall : s.callHook op entries = .ok s') (h : HookHarmless s) : s'.world = s.world := by
  rcases callHook_cases hcall with ⟨-, rfl⟩ | ⟨hook, list, hhook, -, rfl⟩
  · rfl
  · exact h hook hhook op list s.world

/-- The id of a registered variable leads to it. -/
theorem RepInv.varId (h : RepInv s) {p : Ptr} (hp : p ∈ s.server.vars) :
    s.server.vars[(s.objs.var p).info.id.toNat]? = some p := h.vars.getElem?_id hp

theorem RepInv.varRead_ok (h : RepInv s) {p : Ptr} (hp : p ∈ s.server.vars) :
    ∃ s', s.callHook .read [some p, none] = .ok s' ∧
      varRead s (message .varRead [(s.objs.var p).info.id]) =
        .ok (s', reply .varValue (s.objs.var p).info.size.toUInt16 ((s.objs.var p).bytes s'.world.mem)) := by
  have hid := h.vars.id_lt hp
  obtain ⟨s', hhook⟩ := callHook_ok [some p, none] (by simp) s .read
  refine ⟨s', hhook, ?_⟩
  have hbyte : (message .varRead [(s.objs.var p).info.id]).byte 0 = .ok (s.objs.var p).info.id :=
    Message.byte_ok rfl
  rw [varRead, if_neg (by simp [message]), hbyte, ok_bind, if_neg (by omega), varAt_ok (h.varId hp), ok_bind,
    hhook, ok_bind, (callHook_same hhook).objs, h.load hp]
  rfl

theorem RepInv.varWrite_ok (h : RepInv s) {p : Ptr} (hp : p ∈ s.server.vars) {value : List UInt8}
    (hpos : 0 < (s.objs.var p).info.size.toNat) (hlen : value.length = (s.objs.var p).info.size.toNat)
    (hwr : (s.objs.var p).info.writable = true) (hok : (s.objs.var p).accepts s.world value = true) :
    ∃ s', System.callHook { s with world.mem := (s.objs.var p).put s.world.mem value } .write [some p, none] =
        .ok s' ∧
      varWrite s (message .varWrite ((s.objs.var p).info.id :: value)) = .ok (s', answer .ok) := by
  have hid := h.vars.id_lt hp
  have hsize := h.size_le hp
  simp only [bsmpVarMaxSize] at hsize
  let m := message .varWrite ((s.objs.var p).info.id :: value)
  have hm : m.payloadSize.toNat = value.length + 1 :=
    message_size (by simp only [List.length_cons, bsmpMaxPayload]; omega)
  obtain ⟨s', hhook⟩ := callHook_ok [some p, none] (by simp)
    { s with world.mem := (s.objs.var p).put s.world.mem value } .write
  have hbyte : m.byte 0 = .ok (s.objs.var p).info.id := Message.byte_ok rfl
  have hslice : m.slice 1 (s.objs.var p).info.size.toNat = .ok value := Message.slice_rest [_] rfl hlen
  refine ⟨s', hhook, ?_⟩
  change varWrite s m = _
  simp only [varWrite, hbyte, ok_bind, varAt_ok (h.varId hp), hslice, h.store hp, hhook, hok, hwr,
    Bool.not_true, Bool.false_eq_true, if_false]
  rw [if_neg (by omega), if_neg (by omega), if_neg (by omega)]
  rfl

theorem RepInv.varBinOp_ok (h : RepInv s) {p : Ptr} (hp : p ∈ s.server.vars) {operation : UInt8}
    {op : UInt8 → UInt8 → UInt8} (hop : binOp operation = some op) {mask : List UInt8}
    (hpos : 0 < (s.objs.var p).info.size.toNat) (hlen : mask.length = (s.objs.var p).info.size.toNat)
    (hwr : (s.objs.var p).info.writable = true) :
    ∃ s', System.callHook { s with
        world.mem := (s.objs.var p).put s.world.mem ((s.objs.var p).combine op s.world.mem mask) } .write
        [some p, none] = .ok s' ∧
      varBinOp s (message .varBinOp ((s.objs.var p).info.id :: operation :: mask)) =
        .ok (s', answer .ok) := by
  have hid := h.vars.id_lt hp
  have hsize := h.size_le hp
  simp only [bsmpVarMaxSize] at hsize
  let m := message .varBinOp ((s.objs.var p).info.id :: operation :: mask)
  have hm : m.payloadSize.toNat = mask.length + 2 :=
    message_size (by simp only [List.length_cons, bsmpMaxPayload]; omega)
  obtain ⟨s', hhook⟩ := callHook_ok [some p, none] (by simp) { s with
    world.mem := (s.objs.var p).put s.world.mem ((s.objs.var p).combine op s.world.mem mask) } .write
  have hbyte₀ : m.byte 0 = .ok (s.objs.var p).info.id := Message.byte_ok rfl
  have hbyte₁ : m.byte 1 = .ok operation := Message.byte_ok rfl
  have hslice : m.slice 2 (s.objs.var p).info.size.toNat = .ok mask := Message.slice_rest [_, _] rfl hlen
  refine ⟨s', hhook, ?_⟩
  change varBinOp s m = _
  simp only [varBinOp, hbyte₀, hbyte₁, ok_bind, varAt_ok (h.varId hp), hop, hslice, h.applyBinOp hp,
    hhook, hwr, Bool.not_true, Bool.false_eq_true, if_false]
  rw [if_neg (by omega), if_neg (by omega), if_neg (by omega)]
  rfl

/-! ## Groups -/

variable {id : UInt8} {g : Group}

theorem RepInv.groupRead_ok (h : RepInv s) (hid : id.toNat < s.server.groups.count)
    (hg : s.server.groups.at id.toNat = .ok g) :
    ∃ s', s.callHook .read (g.vars.map some ++ [none]) = .ok s' ∧
      groupRead s (message .groupRead [id]) =
        .ok (s', reply .groupValues g.size (valuesOf s.objs s'.world.mem g.vars)) := by
  have hok := h.of_groupAt hid hg
  obtain ⟨s', hhook⟩ := callHook_ok _ (h.modified_fits hok) s .read
  have hsame := callHook_same hhook
  have hloop := (h.same hsame).groupReadLoop g.vars (by rw [hsame.vars]; exact hok.members_mem)
  rw [hsame.objs] at hloop
  have hbyte : (message .groupRead [id]).byte 0 = .ok id := Message.byte_ok rfl
  refine ⟨s', hhook, ?_⟩
  simp only [groupRead, hbyte, ok_bind, hg, h.callGroupHook hok.members_mem, hhook, hloop]
  rw [if_neg (by simp [message]), if_neg (by omega)]
  rfl

theorem RepInv.groupWrite_ok (h : RepInv s) (hid : id.toNat < s.server.groups.count)
    (hg : s.server.groups.at id.toNat = .ok g) (hpos : 0 < g.size.toNat) {values : List UInt8}
    (hlen : values.length = g.size.toNat) (hwr : g.writable = true) :
    ∃ s', System.callHook { s with world := (writeMembers s.objs g.vars values s.world false).1 } .write
        (g.vars.map some ++ [none]) = .ok s' ∧
      groupWrite s (message .groupWrite (id :: values)) =
        .ok (s', answer (if (writeMembers s.objs g.vars values s.world false).2
          then .errInvalidValue else .ok)) := by
  have hok := h.of_groupAt hid hg
  have hsize := h.group_size_le hok
  simp only [bsmpMaxVariables, bsmpVarMaxSize] at hsize
  let m := message .groupWrite (id :: values)
  have hm : m.payloadSize.toNat = values.length + 1 :=
    message_size (by simp only [List.length_cons, bsmpMaxPayload]; omega)
  have hbyte : m.byte 0 = .ok id := Message.byte_ok rfl
  have hloop := h.groupWriteLoop (m := m) g.vars hok.members_mem (i := 1) (by
    rw [sizeSum, ← hok.sums.size]
    simp only [m, message_payload, List.length_cons]
    omega) s.world false
  rw [show m.payload.drop 1 = values from rfl] at hloop
  obtain ⟨s', hhook⟩ := callHook_ok _ (h.modified_fits hok)
    { s with world := (writeMembers s.objs g.vars values s.world false).1 } .write
  have hcall := ((h.same (.world s (writeMembers s.objs g.vars values s.world false).1)).callGroupHook
    hok.members_mem .write).trans hhook
  refine ⟨s', hhook, ?_⟩
  change groupWrite s m = _
  simp only [groupWrite, hbyte, ok_bind, hg, hwr, hloop, Bool.not_true, Bool.false_eq_true, if_false, hcall]
  rw [if_neg (by omega), if_neg (by omega), if_neg (by omega)]
  rfl

theorem RepInv.groupBinOp_ok (h : RepInv s) (hid : id.toNat < s.server.groups.count)
    (hg : s.server.groups.at id.toNat = .ok g) {operation : UInt8} {op : UInt8 → UInt8 → UInt8}
    (hop : binOp operation = some op) {masks : List UInt8} (hlen : masks.length = g.size.toNat)
    (hwr : g.writable = true) :
    ∃ s', System.callHook { s with world.mem := binOpMembers s.objs op g.vars masks s.world.mem } .write
        (g.vars.map some ++ [none]) = .ok s' ∧
      groupBinOp s (message .groupBinOp (id :: operation :: masks)) = .ok (s', answer .ok) := by
  have hok := h.of_groupAt hid hg
  have hsize := h.group_size_le hok
  simp only [bsmpMaxVariables, bsmpVarMaxSize] at hsize
  let m := message .groupBinOp (id :: operation :: masks)
  have hm : m.payloadSize.toNat = masks.length + 2 :=
    message_size (by simp only [List.length_cons, bsmpMaxPayload]; omega)
  have hbyte₀ : m.byte 0 = .ok id := Message.byte_ok rfl
  have hbyte₁ : m.byte 1 = .ok operation := Message.byte_ok rfl
  have hloop := h.groupBinOpLoop (m := m) op g.vars hok.members_mem (i := 2) (by
    rw [sizeSum, ← hok.sums.size]
    simp only [m, message_payload, List.length_cons]
    omega) s.world.mem
  rw [show m.payload.drop 2 = masks from rfl] at hloop
  obtain ⟨s', hhook⟩ := callHook_ok _ (h.modified_fits hok)
    { s with world.mem := binOpMembers s.objs op g.vars masks s.world.mem } .write
  have hsame := SameInstance.world s { s.world with mem := binOpMembers s.objs op g.vars masks s.world.mem }
  refine ⟨s', hhook, ?_⟩
  change groupBinOp s m = _
  simp only [groupBinOp, hbyte₀, hbyte₁, ok_bind, hg, hop, hwr, hloop, Bool.not_true,
    Bool.false_eq_true, if_false, (h.same hsame).callGroupHook hok.members_mem, hhook]
  rw [if_neg (by omega), if_neg (by omega), if_neg (by omega)]
  rfl

/-- The ids in `ids` are taken when they exist and go up from `n` on. -/
theorem groupCreateLoop_done (h : RepInv s) {m : Message} {ids : List UInt8} {i n : Nat}
    (hg : Partial s i n g) (hn0 : i = 0 → n = 0) (hids : m.payload.drop i = ids)
    (hmax : i + ids.length ≤ bsmpMaxVariables) :
    ∃ done g', groupCreateLoop s m ids.length i g = .ok (done, g') ∧
      (done = true ↔
        (∀ id ∈ ids, n ≤ id.toNat ∧ id.toNat < s.server.vars.length) ∧ ids.Pairwise (· < ·)) := by
  induction ids generalizing i n g with
  | nil => exact ⟨true, g, rfl, by simp⟩
  | cons id ids ih =>
    have hbyte : m.byte i = .ok id :=
      Message.byte_ok (by rw [← Nat.add_zero i, ← List.getElem?_drop, hids]; rfl)
    have hrest : m.payload.drop (i + 1) = ids := by rw [← List.drop_drop, hids]; rfl
    rw [List.length_cons] at hmax ⊢
    simp only [groupCreateLoop, hbyte, ok_bind, hg.outOfOrder_eq hn0 id]
    split
    · next hge => exact ⟨false, g, rfl, by simp; omega⟩
    next hlt =>
    split
    · next hlow => exact ⟨false, g, rfl, by simp at hlow ⊢; omega⟩
    next hlow =>
    obtain ⟨p, hp⟩ := exists_getElem? hlt
    obtain ⟨g', hadd, -, hg'⟩ := hg.addVar h hp (by simpa using hlow) (by omega)
    obtain ⟨done, g'', hloop, hdone⟩ := ih hg' (by simp) hrest (by omega)
    refine ⟨done, g'', by rw [varAt_ok hp, ok_bind, hadd, ok_bind, hloop], hdone.trans ?_⟩
    simp only [List.forall_mem_cons, List.pairwise_cons, UInt8.lt_iff_toNat_lt]
    simp only [decide_eq_true_eq, Nat.not_lt] at hlow
    constructor
    · rintro ⟨hall, hsorted⟩
      refine ⟨⟨⟨hlow, Nat.lt_of_not_le hlt⟩, ?_⟩, fun id' hid' => (hall id' hid').1, hsorted⟩
      intro id' hid'
      have := hall id' hid'
      omega
    · rintro ⟨⟨-, hall⟩, habove, hsorted⟩
      exact ⟨fun id' hid' => ⟨habove id' hid', (hall id' hid').2⟩, hsorted⟩

/-- The variables with these ids make a group: they exist and go up, and there is room for it. -/
structure TakesGroup (s : System σ) (ids : List UInt8) : Prop where
  ne_nil : ids ≠ []
  room : s.server.groups.count < bsmpMaxGroups
  exist : ∀ id ∈ ids, id.toNat < s.server.vars.length
  sorted : ids.Pairwise (· < ·)

/-- Ids that go up are no more than there are variables. -/
theorem TakesGroup.length_le {ids : List UInt8} (h : TakesGroup s ids) :
    ids.length ≤ s.server.vars.length := by
  have hnodup : (ids.map UInt8.toNat).Nodup := by
    refine List.pairwise_map.mpr (h.sorted.imp fun hlt => ?_)
    exact Nat.ne_of_lt (UInt8.lt_iff_toNat_lt.mp hlt)
  have hsub : ids.map UInt8.toNat ⊆ List.range s.server.vars.length := by
    intro n hn
    obtain ⟨id, hid, rfl⟩ := List.mem_map.mp hn
    exact List.mem_range.mpr (h.exist id hid)
  simpa using (hnodup.subperm hsub).length_le

/-- A group is created exactly of ids that make one. -/
theorem RepInv.groupCreate_cases (h : RepInv s) {ids : List UInt8} (hlen : ids.length ≤ bsmpMaxPayload) :
    ∃ s' a, groupCreate s (message .groupCreate ids) = .ok (s', a) ∧
      ((TakesGroup s ids ∧ a = answer .ok ∧ s'.server.vars = s.server.vars ∧ s'.objs = s.objs ∧
          s'.server.groups.count = s.server.groups.count + 1) ∨
        (¬ TakesGroup s ids ∧ isErrorByte a.commandCode = true)) := by
  have hm : (message .groupCreate ids).payloadSize.toNat = ids.length := message_size hlen
  have hroom := h.room
  have hcount := h.vars.count
  unfold groupCreate
  rw [hm]
  split
  · next hsize =>
    refine ⟨_, _, rfl, .inr ⟨fun ht => ?_, rfl⟩⟩
    have := ht.length_le
    have := List.length_pos_iff.mpr ht.ne_nil
    omega
  next hsize =>
  split
  · next hfull => exact ⟨_, _, rfl, .inr ⟨fun ht => absurd hfull (Nat.ne_of_lt ht.room), rfl⟩⟩
  next hfull =>
  have hstart : Partial s 0 0 (groupInit (UInt8.ofNat s.server.groups.count)) :=
    ⟨rfl, by simp [groupInit], by simp [groupInit], .init _⟩
  have hids : (message .groupCreate ids).payload.drop 0 = ids := rfl
  obtain ⟨done, g, hloop, hdone⟩ := groupCreateLoop_done h hstart (fun _ => rfl) hids (by omega)
  obtain ⟨i, hi⟩ : ∃ i : Fin bsmpMaxGroups, i.val = s.server.groups.count :=
    ⟨⟨s.server.groups.count, by omega⟩, rfl⟩
  have hset := s.server.groups.set_val i g
  rw [hi] at hset
  simp only [hloop, ok_bind, hset]
  cases done with
  | false =>
    refine ⟨_, _, rfl, .inr ⟨fun ht => ?_, rfl⟩⟩
    exact Bool.false_ne_true (hdone.mpr ⟨fun id hid => ⟨Nat.zero_le _, ht.exist id hid⟩, ht.sorted⟩)
  | true =>
    obtain ⟨hall, hsorted⟩ := hdone.mp rfl
    refine ⟨_, _, rfl, .inl ⟨⟨?_, by omega, fun id hid => (hall id hid).2, hsorted⟩, rfl, rfl, rfl, rfl⟩⟩
    rintro rfl
    exact hsize (.inl (Nat.succ_pos 0))

/-! ## Curves -/

theorem RepInv.curveId (h : RepInv s) {p : Ptr} (hp : p ∈ s.server.curves) :
    s.server.curves[(s.objs.curve p).info.id.toNat]? = some p := h.curves.getElem?_id hp

theorem callReadBlock_eq {p : Ptr} {f : UInt16 → World σ → Bool × List UInt8 × World σ}
    (hf : (s.objs.curve p).readBlock = some f) (block : UInt16) :
    s.callReadBlock p block = .ok ((f block s.world).1, (f block s.world).2.1,
      { s with world := (f block s.world).2.2, trace := s.trace ++ [.readBlock p block] }) := by
  simp only [System.callReadBlock, hf, deref_some, ok_bind]
  rfl

theorem callWriteBlock_eq {p : Ptr} {f : UInt16 → List UInt8 → World σ → Bool × World σ}
    (hf : (s.objs.curve p).writeBlock = some f) (block : UInt16) (data : List UInt8) :
    s.callWriteBlock p block data = .ok ((f block data s.world).1,
      { s with world := (f block data s.world).2, trace := s.trace ++ [.writeBlock p block data] }) := by
  simp only [System.callWriteBlock, hf, deref_some, ok_bind]
  rfl

/-- Three bytes name a block: the curve and the offset. -/
theorem message_block (cmd : CommandCode) (id : UInt8) (offset : UInt16) (data : List UInt8) :
    (message cmd (id :: beBytes offset ++ data)).byte 0 = .ok id ∧
      (message cmd (id :: beBytes offset ++ data)).byte 1 = .ok (offset >>> 8).toUInt8 ∧
      (message cmd (id :: beBytes offset ++ data)).byte 2 = .ok offset.toUInt8 :=
  ⟨Message.byte_ok rfl, Message.byte_ok rfl, Message.byte_ok rfl⟩

theorem RepInv.curveBlockRequest_ok (h : RepInv s) {p : Ptr} (hp : p ∈ s.server.curves) {offset : UInt16}
    {ok : Bool} {data : List UInt8} (hoff : offset.toNat < (s.objs.curve p).info.nblocks.toNat)
    (hread : s.callReadBlock p offset = .ok (ok, data, s')) :
    curveBlockRequest s (message .curveBlockRequest ((s.objs.curve p).info.id :: beBytes offset)) =
      .ok (s', if ok then reply .curveBlock (UInt16.ofNat data.length + UInt16.ofNat bsmpCurveBlockInfo)
        ((s.objs.curve p).info.id :: beBytes offset ++ data) else answer .errResourceBusy) := by
  have hid := h.curves.id_lt hp
  obtain ⟨hbyte₀, hbyte₁, hbyte₂⟩ := message_block .curveBlockRequest (s.objs.curve p).info.id offset []
  simp only [List.append_nil] at hbyte₀ hbyte₁ hbyte₂
  simp only [curveBlockRequest, hbyte₀, hbyte₁, hbyte₂, ok_bind, curveAt_ok (h.curveId hp),
    ofBeBytes_beBytes, hread]
  rw [if_neg (by simp [message, beBytes]), if_neg (by omega), if_neg (by omega)]
  cases ok <;> rfl

theorem RepInv.curveBlockRequest_past (h : RepInv s) {p : Ptr} (hp : p ∈ s.server.curves) {offset : UInt16}
    (hoff : (s.objs.curve p).info.nblocks.toNat ≤ offset.toNat) :
    curveBlockRequest s (message .curveBlockRequest ((s.objs.curve p).info.id :: beBytes offset)) =
      .ok (s, answer .errInvalidValue) := by
  have hid := h.curves.id_lt hp
  obtain ⟨hbyte₀, hbyte₁, hbyte₂⟩ := message_block .curveBlockRequest (s.objs.curve p).info.id offset []
  simp only [List.append_nil] at hbyte₀ hbyte₁ hbyte₂
  simp only [curveBlockRequest, hbyte₀, hbyte₁, hbyte₂, ok_bind, curveAt_ok (h.curveId hp), ofBeBytes_beBytes]
  rw [if_neg (by simp [message, beBytes]), if_neg (by omega), if_pos hoff]
  rfl

theorem RepInv.curveBlock_ok (h : RepInv s) {p : Ptr} (hp : p ∈ s.server.curves) {offset : UInt16} {ok : Bool}
    {data : List UInt8} (hdata : 0 < data.length) (hlen : data.length ≤ (s.objs.curve p).info.blockSize.toNat)
    (hoff : offset.toNat < (s.objs.curve p).info.nblocks.toNat) (hwr : (s.objs.curve p).info.writable = true)
    (hwrite : s.callWriteBlock p offset data = .ok (ok, s')) :
    curveBlock s (message .curveBlock ((s.objs.curve p).info.id :: beBytes offset ++ data)) =
      .ok (if ok then (s'.setChecksum p (Vector.replicate _ 0), answer .ok)
        else (s', answer .errResourceBusy)) := by
  have hid := h.curves.id_lt hp
  have hmax := (curveCheck_success (h.curves.checked p hp)).2.1
  simp only [bsmpCurveBlockMaxSize] at hmax
  let m := message .curveBlock ((s.objs.curve p).info.id :: beBytes offset ++ data)
  have hm : m.payloadSize.toNat = data.length + bsmpCurveBlockInfo := by
    refine (message_size ?_).trans (by simp [beBytes])
    simp only [beBytes, List.length_cons, List.length_append, List.length_nil, bsmpMaxPayload]
    omega
  have hslice : m.slice bsmpCurveBlockInfo (m.payloadSize.toNat - bsmpCurveBlockInfo) = .ok data := by
    rw [hm, Nat.add_sub_cancel]
    exact Message.slice_rest (_ :: beBytes offset) rfl rfl
  obtain ⟨hbyte₀, hbyte₁, hbyte₂⟩ : m.byte 0 = .ok _ ∧ m.byte 1 = .ok _ ∧ m.byte 2 = .ok _ := message_block ..
  change curveBlock s m = _
  simp only [curveBlock, hbyte₀, hbyte₁, hbyte₂, ok_bind, curveAt_ok (h.curveId hp),
    ofBeBytes_beBytes, hwr, hslice, hwrite, Bool.not_true, Bool.false_eq_true, if_false]
  simp only [bsmpCurveBlockInfo] at hm ⊢
  rw [if_neg (by omega), if_neg (by omega), if_neg (by omega), if_neg (by omega)]
  cases ok <;> rfl

/-- A block with no bytes is not accepted. -/
theorem curveBlock_empty (s : System σ) (id : UInt8) (offset : UInt16) :
    curveBlock s (message .curveBlock (id :: beBytes offset)) = .ok (s, answer .errInvalidPayloadSize) := by
  rw [curveBlock, if_pos (by simp [message, beBytes])]
  rfl

end UdcFirmware.Bsmp
