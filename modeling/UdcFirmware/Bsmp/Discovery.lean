/-
Discovery: what `bsmp_client_init` learns from a server over a lossless
channel.

It always succeeds (`init_link`), and the lists it builds are the server's as
the encodings let them through (`Client.seen`). Each encoding has one value it
cannot tell from another: a variable of no bytes reads as one of 128, a curve
of no blocks as one of 65536, and the count of a group of 128 variables is
carried into the flag above it. The server registers all three. So discovery
describes the server exactly when there is none of them
(`init_describes_iff`).
-/
import UdcFirmware.Bsmp.Link

namespace UdcFirmware.Bsmp

open ByteMem Checked Stateful

variable {σ : Type} {md5 : Md5} {area noise : Nat → UInt8}

/-! ## The encodings -/

theorem uint8_forall {P : UInt8 → Prop} (h : ∀ n < 256, P (UInt8.ofNat n)) (b : UInt8) : P b := by
  have hb := h b.toNat b.toNat_lt
  rwa [UInt8.ofNat_toNat] at hb

/-- The variable as it reads at the other end: no size stands for 128. -/
def VarInfo.seen (info : VarInfo) : VarInfo :=
  { info with size := if info.size = 0 then UInt8.ofNat bsmpVarMaxSize else info.size }

theorem VarInfo.listByte_writable (writable : Bool) (size : UInt8) :
    ((size &&& sizeMask) ||| (if writable then 0x80 else 0x00)) &&& writableMask ≠ 0 ↔ writable = true := by
  revert size
  refine uint8_forall ?_
  cases writable <;> decide +kernel

theorem VarInfo.listByte_size (writable : Bool) (size : UInt8) : size.toNat ≤ bsmpVarMaxSize →
    ((size &&& sizeMask) ||| (if writable then 0x80 else 0x00)) &&& sizeMask =
      if size = 128 then 0 else size := by
  revert size
  refine uint8_forall ?_
  cases writable <;> decide +kernel

theorem VarInfo.ofListByte_listByte {info : VarInfo} {i : Nat} (hid : info.id.toNat = i)
    (hsize : info.size.toNat ≤ bsmpVarMaxSize) : VarInfo.ofListByte i info.listByte = info.seen := by
  have hid' : UInt8.ofNat i = info.id := by rw [← hid, UInt8.ofNat_toNat]
  have hw : decide (info.listByte &&& writableMask ≠ 0) = info.writable :=
    Bool.eq_iff_iff.mpr (decide_eq_true_iff.trans (listByte_writable info.writable info.size))
  have hs : info.listByte &&& sizeMask = if info.size = 128 then 0 else info.size :=
    listByte_size info.writable info.size hsize
  unfold ofListByte seen
  rw [hid', hw, hs]
  congr 1
  by_cases h128 : info.size = 128
  · rw [h128]
    decide
  · rw [if_neg h128]

theorem VarInfo.seen_eq_iff (info : VarInfo) : info.seen = info ↔ 0 < info.size.toNat := by
  constructor
  · intro h
    rcases Nat.eq_zero_or_pos info.size.toNat with hz | hp
    · have hz' : info.size = 0 := UInt8.toNat_inj.mp hz
      have hsize := congrArg VarInfo.size h
      rw [seen, hz', if_pos rfl] at hsize
      cases hsize
    · exact hp
  · intro h
    have hz : info.size ≠ 0 := fun hz => by rw [hz] at h; cases h
    rw [seen, if_neg hz]

/-- Up to 127 variables, count and flag of a group come back. -/
theorem Group.listByte_decode (writable : Bool) : ∀ n ≤ 127,
    (((if writable then 0x80 else 0x00) + UInt8.ofNat n) &&& writableMask ≠ 0 ↔ writable = true) ∧
      (((if writable then 0x80 else 0x00) + UInt8.ofNat n) &&& sizeMask).toNat = n := by
  cases writable <;> decide +kernel

/-- With 128, the count reads as none. -/
theorem Group.listByte_full {g : Group} (h : g.vars.length = 128) : (g.listByte &&& sizeMask).toNat = 0 := by
  rw [listByte, h]
  cases g.writable <;> decide

/-- The curve as it reads at the other end: no blocks stand for 65536. -/
def CurveInfo.seen (info : CurveInfo) : CurveInfo :=
  { info with nblocks := if info.nblocks = 0 then UInt32.ofNat bsmpCurveMaxBlocks else info.nblocks }

theorem CurveInfo.nblocks_bytes (n : UInt32) : ofBeBytes (n >>> 8).toUInt8 n.toUInt8 = n.toUInt16 := by
  apply UInt16.toNat_inj.mp
  simp only [ofBeBytes_toNat, UInt32.toNat_toUInt8, UInt32.toNat_shiftRight, Nat.shiftRight_eq_div_pow,
    UInt32.toNat_toUInt16, show UInt32.toNat 8 % 32 = 8 from rfl]
  omega

theorem CurveInfo.nblocks_decode {n : UInt32} (h : n.toNat ≤ bsmpCurveMaxBlocks) :
    (if n.toUInt16 = 0 then UInt32.ofNat bsmpCurveMaxBlocks else n.toUInt16.toUInt32) =
      if n = 0 then UInt32.ofNat bsmpCurveMaxBlocks else n := by
  have hlow : n.toUInt16 = 0 ↔ n.toNat % 65536 = 0 := by
    rw [← UInt16.toNat_inj, UInt32.toNat_toUInt16]
    rfl
  simp only [bsmpCurveMaxBlocks] at h ⊢
  by_cases hz : n.toNat % 65536 = 0
  · rw [if_pos (hlow.mpr hz)]
    by_cases hn : n = 0
    · rw [if_pos hn]
    · have hne : n.toNat ≠ 0 := fun he => hn (UInt32.toNat_inj.mp he)
      rw [if_neg hn]
      apply UInt32.toNat_inj.mp
      simp only [UInt32.reduceOfNat, UInt32.reduceToNat]
      omega
  · have hn : n ≠ 0 := fun he => hz (by rw [he]; rfl)
    rw [if_neg (mt hlow.mp hz), if_neg hn]
    apply UInt32.toNat_inj.mp
    simp only [UInt16.toNat_toUInt32, UInt32.toNat_toUInt16]
    omega

/-- The bytes of a list of curves decode to the curves, but for the checksum. -/
theorem CurveInfo.ofListBytes_listBytes {info : CurveInfo} {i : Nat} (hid : info.id.toNat = i)
    (hn : info.nblocks.toNat ≤ bsmpCurveMaxBlocks) {b : Nat → UInt8}
    (hb : ∀ j x, info.listBytes[j]? = some x → b j = x) :
    CurveInfo.ofListBytes i b = { info.seen with checksum := Vector.replicate _ 0 } := by
  have hid' : UInt8.ofNat i = info.id := by rw [← hid, UInt8.ofNat_toNat]
  have h₀ := hb 0 _ rfl
  have h₁ := hb 1 _ rfl
  have h₂ := hb 2 _ rfl
  have h₃ := hb 3 _ rfl
  have h₄ := hb 4 _ rfl
  have hw : decide ((if info.writable then (1 : UInt8) else 0) ≠ 0) = info.writable := by
    cases info.writable <;> rfl
  simp only [ofListBytes, h₀, h₁, h₂, h₃, h₄, hid', hw, nblocks_bytes, nblocks_decode hn,
    ofBeBytes_beBytes, seen]

theorem CurveInfo.seen_eq_iff (info : CurveInfo) : info.seen = info ↔ 0 < info.nblocks.toNat := by
  constructor
  · intro h
    rcases Nat.eq_zero_or_pos info.nblocks.toNat with hz | hp
    · have hz' : info.nblocks = 0 := UInt32.toNat_inj.mp hz
      have hn := congrArg CurveInfo.nblocks h
      rw [seen, hz', if_pos rfl] at hn
      cases hn
    · exact hp
  · intro h
    have hz : info.nblocks ≠ 0 := fun hz => by rw [hz] at h; cases h
    rw [seen, if_neg hz]

theorem FuncInfo.listByte_decode : ∀ i < 16, ∀ o < 16,
    (((UInt8.ofNat i <<< 4) ||| (UInt8.ofNat o &&& 0x0F)) &&& 0xF0) >>> 4 = UInt8.ofNat i ∧
      ((UInt8.ofNat i <<< 4) ||| (UInt8.ofNat o &&& 0x0F)) &&& 0x0F = UInt8.ofNat o := by
  decide +kernel

theorem FuncInfo.ofListByte_listByte {info : FuncInfo} {i : Nat} (hid : info.id.toNat = i)
    (hin : info.inputSize.toNat ≤ bsmpFuncMaxInput) (hout : info.outputSize.toNat ≤ bsmpFuncMaxOutput) :
    FuncInfo.ofListByte i info.listByte = info := by
  have hid' : UInt8.ofNat i = info.id := by rw [← hid, UInt8.ofNat_toNat]
  have h := listByte_decode info.inputSize.toNat (Nat.lt_succ_of_le hin) info.outputSize.toNat
    (Nat.lt_succ_of_le hout)
  simp only [UInt8.ofNat_toNat] at h
  simp only [ofListByte, listByte, h.1, h.2, hid']

/-! ## The lists, from both ends -/

/-- Group `i` of a server. -/
def GroupList.get (groups : GroupList) (i : Nat) : Group :=
  if h : i < bsmpMaxGroups then groups.list ⟨i, h⟩ else groupInit 0

theorem GroupList.at_get {groups : GroupList} {i : Nat} (h : i < bsmpMaxGroups) :
    groups.at i = .ok (groups.get i) := by
  simp only [GroupList.at, get, h, dite_true]

/-- A group of the server, as a client should hold it. -/
def Group.described (objs : Objects σ) (g : Group) : ClientGroup where
  id := g.id
  writable := g.writable
  size := g.size
  count := g.vars.length
  list := g.vars.map fun q => (objs.var q).info.id.toNat

/-- The client's lists are the server's. -/
structure Describes (c : Client) (s : System σ) : Prop where
  vars : c.vars = s.server.vars.map fun p => (s.objs.var p).info
  groups : c.groups = (List.range s.server.groups.count).map fun i => (s.server.groups.get i).described s.objs
  curves : c.curves = s.server.curves.map fun p => (s.objs.curve p).info
  funcs : c.funcs = s.server.funcs.map fun p => (s.objs.func p).info

/-- A group of the server, as a client with these variables reads it. -/
def Group.seen (vars : List VarInfo) (objs : Objects σ) (i : Nat) (g : Group) : ClientGroup where
  id := UInt8.ofNat i
  writable := g.listByte &&& writableMask ≠ 0
  size := (g.vars.map fun q => (vars.getD (objs.var q).info.id.toNat ⟨0, false, 0⟩).size.toUInt16).sum
  count := (g.listByte &&& sizeMask).toNat
  list := g.vars.map fun q => (objs.var q).info.id.toNat

def System.varsSeen (s : System σ) : List VarInfo := s.server.vars.map fun p => (s.objs.var p).info.seen

def System.groupsSeen (s : System σ) (vars : List VarInfo) : List ClientGroup :=
  (List.range s.server.groups.count).map fun i => (s.server.groups.get i).seen vars s.objs i

def System.curvesSeen (s : System σ) : List CurveInfo :=
  s.server.curves.map fun p => (s.objs.curve p).info.seen

def System.funcsTold (s : System σ) : List FuncInfo := s.server.funcs.map fun p => (s.objs.func p).info

/-! ## Queries -/

section Queries

variable {s : System σ}

theorem RepInv.groupOk_get (h : RepInv s) {i : Nat} (hi : i < s.server.groups.count) :
    GroupOk s.server.vars (fun p => (s.objs.var p).info) i (s.server.groups.get i) := by
  have hi' : i < bsmpMaxGroups := Nat.lt_of_lt_of_le hi h.room
  simp only [GroupList.get, hi', dite_true]
  exact h.group ⟨i, hi'⟩ hi

theorem RepInv.groupQueryList_ok (h : RepInv s) :
    groupQueryList s (message .groupQueryList []) =
      .ok (s, reply .groupList (UInt16.ofNat s.server.groups.count)
        ((List.range s.server.groups.count).map fun i => (s.server.groups.get i).listByte)) := by
  have hloop : (List.range s.server.groups.count).mapM s.server.groups.at =
      .ok ((List.range s.server.groups.count).map s.server.groups.get) :=
    mapM_ok fun i hi => GroupList.at_get (Nat.lt_of_lt_of_le (List.mem_range.mp hi) h.room)
  simp only [groupQueryList, hloop, ok_bind, List.map_map]
  rfl

theorem RepInv.groupQuery_ok (h : RepInv s) {i : Nat} (hi : i < s.server.groups.count) :
    groupQuery s (message .groupQuery [UInt8.ofNat i]) =
      .ok (s, reply .group (UInt16.ofNat (s.server.groups.get i).vars.length)
        ((s.server.groups.get i).vars.map fun q => (s.objs.var q).info.id)) := by
  have hroom := h.room
  have hid : (UInt8.ofNat i).toNat = i :=
    UInt8.toNat_ofNat_of_lt (Nat.lt_of_lt_of_le hi (hroom.trans (by decide)))
  have hbyte : (message .groupQuery [UInt8.ofNat i]).byte 0 = .ok (UInt8.ofNat i) := Message.byte_ok rfl
  have hat : s.server.groups.at i = _ := GroupList.at_get (Nat.lt_of_lt_of_le hi hroom)
  simp only [groupQuery, hbyte, ok_bind, hid, hat]
  rw [if_neg (by simp [message]), if_neg (by omega)]
  rfl

theorem RepInv.curveQueryCsum_ok (h : RepInv s) {i : Nat} {p : Ptr} (hp : s.server.curves[i]? = some p) :
    curveQueryCsum s (message .curveQueryCsum [UInt8.ofNat i]) =
      .ok (s, reply .curveCsum (UInt16.ofNat (s.objs.curve p).info.checksum.toList.length)
        (s.objs.curve p).info.checksum.toList) := by
  have hi := (List.getElem?_eq_some_iff.mp hp).1
  have hcount := h.curves.count
  have hid : (UInt8.ofNat i).toNat = i :=
    UInt8.toNat_ofNat_of_lt (by simp only [bsmpMaxCurves, UInt8.size] at *; omega)
  have hbyte : (message .curveQueryCsum [UInt8.ofNat i]).byte 0 = .ok (UInt8.ofNat i) := Message.byte_ok rfl
  simp only [curveQueryCsum, hbyte, ok_bind, hid, curveAt_ok hp, Vector.length_toList]
  rw [if_neg (by simp [message]), if_neg (by omega)]
  rfl

end Queries

/-! ## One list after the other -/

section Updates

variable {s : Session (Peer σ)} {system : System σ}

theorem range_map_eq {α β : Type} {l : List α} {f : Nat → β} {g : α → β}
    (h : ∀ i a, l[i]? = some a → f i = g a) : (List.range l.length).map f = l.map g := by
  refine List.ext_getElem (by simp) fun i h₁ h₂ => ?_
  have hi : i < l.length := by simpa using h₁
  simp only [List.getElem_map, List.getElem_range]
  exact h i _ (List.getElem?_eq_getElem hi)

/-- A list that fits is filled in. -/
theorem slots_ok {α : Type} {max n : Nat} (h : n ≤ max) (f : Nat → α) :
    (List.range n).mapM (fun i => slot max i (f i)) = .ok ((List.range n).map f) :=
  mapM_ok fun _ hi => if_pos (Nat.lt_of_lt_of_le (List.mem_range.mp hi) h)

variable (md5 area noise)

theorem getVersion_link (hsys : s.chan.system.clearModified = system) :
    ∃ version s', getVersion (link md5 area noise) s = .ok (.success, s') ∧
      s'.client = { s.client with serverVersion := version } ∧ s'.chan.system.clearModified = system := by
  have hc : command md5 area CommandCode.queryVersion.toByte (σ := σ) = some queryVersion := rfl
  have hr : respond md5 s.chan.system (request CommandCode.queryVersion.toByte []) area =
      .ok (system, reply .version 3 [version, subversion, revision]) := by
    rw [respond_request hc (by decide), hsys]
    rfl
  obtain ⟨r, s', hcmd, -, hclient, hsystem⟩ :=
    command_link noise hr (sendable_reply (by decide) (by decide) (by decide))
  have hrun : ∃ version, getVersion (link md5 area noise) s =
      .ok (.success, { s' with client.serverVersion := version }) := by
    rw [getVersion, bind_of hcmd]
    exact ⟨_, rfl⟩
  obtain ⟨version, hrun⟩ := hrun
  refine ⟨version, _, hrun, by rw [hclient], ?_⟩
  show s'.chan.system.clearModified = system
  rw [hsystem, ← hsys, clearModified_clearModified]

theorem updateVarsList_link (h : RepInv system) (hsys : s.chan.system.clearModified = system) :
    ∃ s', updateVarsList (link md5 area noise) s = .ok (.success, s') ∧
      s'.client = { s.client with vars := system.varsSeen } ∧ s'.chan.system.clearModified = system := by
  have hcount := h.vars.count
  have hc : command md5 area CommandCode.varQueryList.toByte (σ := σ) = some varQueryList := rfl
  have hh : varQueryList system (message .varQueryList []) = .ok (system, reply .varList _ _) := rfl
  rw [← List.length_map] at hh
  obtain ⟨r, s', hexp, hsize, hpay, hclient, hsystem⟩ := query_link noise hc (by decide) hsys hh rfl
    (by rw [List.length_map]; exact hcount.trans (by decide))
  rw [List.length_map] at hsize
  have hmap : (List.range r.payloadSize.toNat).mapM (fun i =>
      slot bsmpMaxVariables i (VarInfo.ofListByte i (r.payload i))) = .ok system.varsSeen := by
    rw [hsize, slots_ok hcount]
    refine congrArg Except.ok (range_map_eq fun i p hp => ?_)
    obtain ⟨hi, hget⟩ := List.getElem?_eq_some_iff.mp hp
    have hmem := List.mem_of_getElem? hp
    rw [hpay i _ (by rw [List.getElem?_map, hp]; rfl)]
    exact VarInfo.ofListByte_listByte (by rw [← hget]; exact h.vars.ids i hi) (h.size_le hmem)
  refine ⟨{ s' with client.vars := system.varsSeen }, ?_, by rw [hclient], hsystem⟩
  refine (bind_of hexp).trans ((lift_bind _ _ _).trans ?_)
  rw [hmap]
  rfl

theorem updateFuncsList_link (h : RepInv system) (hsys : s.chan.system.clearModified = system) :
    ∃ s', updateFuncsList (link md5 area noise) s = .ok (.success, s') ∧
      s'.client = { s.client with funcs := system.funcsTold } ∧ s'.chan.system.clearModified = system := by
  have hcount := h.funcs.count
  have hc : command md5 area CommandCode.funcQueryList.toByte (σ := σ) = some funcQueryList := rfl
  have hh : funcQueryList system (message .funcQueryList []) = .ok (system, reply .funcList _ _) := rfl
  rw [← List.length_map] at hh
  obtain ⟨r, s', hexp, hsize, hpay, hclient, hsystem⟩ := query_link noise hc (by decide) hsys hh rfl
    (by rw [List.length_map]; exact hcount.trans (by decide))
  rw [List.length_map] at hsize
  have hmap : (List.range r.payloadSize.toNat).mapM (fun i =>
      slot bsmpMaxFunctions i (FuncInfo.ofListByte i (r.payload i))) = .ok system.funcsTold := by
    rw [hsize, slots_ok hcount]
    refine congrArg Except.ok (range_map_eq fun i p hp => ?_)
    obtain ⟨hi, hget⟩ := List.getElem?_eq_some_iff.mp hp
    obtain ⟨-, hin, hout⟩ := funcCheck_success (h.funcs.checked p (List.mem_of_getElem? hp))
    rw [hpay i _ (by rw [List.getElem?_map, hp]; rfl)]
    exact FuncInfo.ofListByte_listByte (by rw [← hget]; exact h.funcs.ids i hi) hin hout
  refine ⟨{ s' with client.funcs := system.funcsTold }, ?_, by rw [hclient], hsystem⟩
  refine (bind_of hexp).trans ((lift_bind _ _ _).trans ?_)
  rw [hmap]
  rfl

/-- Blocks of `n` entries, one for each element: entry `j` of block `i`. -/
theorem flatMap_getElem? {α β : Type} {n : Nat} {f : α → List β} (hf : ∀ a, (f a).length = n) {j : Nat}
    {b : β} {l : List α} {i : Nat} {a : α} (ha : l[i]? = some a) (hb : (f a)[j]? = some b) :
    (l.flatMap f)[i * n + j]? = some b := by
  induction l generalizing i with
  | nil => cases ha
  | cons a₀ l ih =>
    cases i with
    | zero =>
      cases ha
      have hj := (List.getElem?_eq_some_iff.mp hb).1
      rw [List.flatMap_cons, List.getElem?_append_left (by omega), Nat.zero_mul, Nat.zero_add, hb]
    | succ i =>
      rw [List.flatMap_cons, List.getElem?_append_right (by rw [hf, Nat.succ_mul]; omega), hf, Nat.succ_mul,
        show i * n + n + j - n = i * n + j by omega]
      exact ih ha

theorem updateCurve_link (h : RepInv system) {r : Response} {i : Nat} {p : Ptr}
    (hp : system.server.curves[i]? = some p)
    (hpay : ∀ j x, (system.objs.curve p).info.listBytes[j]? = some x →
      r.payload (i * bsmpCurveListInfo + j) = x)
    (hsys : s.chan.system.clearModified = system) :
    ∃ s', updateCurve (link md5 area noise) r i s = .ok ((system.objs.curve p).info.seen, s') ∧
      s'.client = s.client ∧ s'.chan.system.clearModified = system := by
  obtain ⟨hi, hget⟩ := List.getElem?_eq_some_iff.mp hp
  have hcount := h.curves.count
  have hn := (curveCheck_success (h.curves.checked p (List.mem_of_getElem? hp))).1
  have hid : (system.objs.curve p).info.id.toNat = i := by rw [← hget]; exact h.curves.ids i hi
  have hslot : slot bsmpMaxCurves i (CurveInfo.ofListBytes i fun j => r.payload (i * bsmpCurveListInfo + j)) =
      .ok { (system.objs.curve p).info.seen with checksum := Vector.replicate _ 0 } := by
    rw [CurveInfo.ofListBytes_listBytes hid hn hpay]
    exact if_pos (Nat.lt_of_lt_of_le hi hcount)
  have hc : command md5 area CommandCode.curveQueryCsum.toByte (σ := σ) = some curveQueryCsum := rfl
  obtain ⟨r', s', hexp, -, hpay', hclient, hsystem⟩ :=
    query_link noise hc (by simp) hsys (h.curveQueryCsum_ok hp)
    rfl (by rw [Vector.length_toList]; decide)
  refine ⟨s', ?_, hclient, hsystem⟩
  refine (lift_bind _ _ _).trans ?_
  rw [hslot, ok_bind, bind_of hexp]
  refine congrArg (fun c => Except.ok ({ (system.objs.curve p).info.seen with checksum := c }, s')) ?_
  refine Vector.ext fun j hj => ?_
  rw [Vector.getElem_ofFn]
  exact hpay' j _ (by simp [hj])

theorem updateCurvesList_link (h : RepInv system) (hsys : s.chan.system.clearModified = system) :
    ∃ s', updateCurvesList (link md5 area noise) s = .ok (.success, s') ∧
      s'.client = { s.client with curves := system.curvesSeen } ∧ s'.chan.system.clearModified = system := by
  have hcount := h.curves.count
  have hlen : (system.server.curves.flatMap fun p => (system.objs.curve p).info.listBytes).length =
      system.server.curves.length * bsmpCurveListInfo := by
    simp [List.length_flatMap, CurveInfo.listBytes]
  have hc : command md5 area CommandCode.curveQueryList.toByte (σ := σ) = some curveQueryList := rfl
  have hh : curveQueryList system (message .curveQueryList []) = .ok (system, reply .curveList _ _) := rfl
  rw [← hlen] at hh
  obtain ⟨r, s₁, hexp, hsize, hpay, hclient, hsystem⟩ := query_link noise hc (by decide) hsys hh rfl
    (by rw [hlen]; exact Nat.mul_le_mul_right _ hcount)
  rw [hlen] at hsize
  have hdiv : r.payloadSize.toNat / bsmpCurveListInfo = system.server.curves.length := by
    rw [hsize]
    exact Nat.mul_div_cancel _ (by decide)
  let seen (i : Nat) := (system.objs.curve (system.server.curves.getD i 0)).info.seen
  have hstep : ∀ i ∈ List.range system.server.curves.length, ∀ s₂ : Session (Peer σ),
      s₂.client = s.client ∧ s₂.chan.system.clearModified = system →
      ∃ s₃, updateCurve (link md5 area noise) r i s₂ = .ok (seen i, s₃) ∧
        s₃.client = s.client ∧ s₃.chan.system.clearModified = system := by
    intro i hi s₂ hs₂
    have hp : system.server.curves[i]? = some (system.server.curves.getD i 0) := by
      simp [List.mem_range.mp hi]
    obtain ⟨s₃, hrun, hclient₃, hsystem₃⟩ := updateCurve_link md5 area noise h hp
      (fun j x hx => hpay _ _ (flatMap_getElem? (n := bsmpCurveListInfo) (fun _ => rfl) hp hx)) hs₂.2
    exact ⟨s₃, hrun, hclient₃.trans hs₂.1, hsystem₃⟩
  obtain ⟨s', hloop, hclient', hsystem'⟩ := mapM_of hstep ⟨hclient, hsystem⟩
  have hseen : (List.range system.server.curves.length).map seen = system.curvesSeen :=
    range_map_eq fun i p hp => by simp only [seen, List.getD_eq_getElem?_getD, hp]; rfl
  refine ⟨{ s' with client.curves := system.curvesSeen }, ?_, by rw [hclient'], hsystem'⟩
  refine (bind_of hexp).trans ?_
  show ((List.range (r.payloadSize.toNat / bsmpCurveListInfo)).mapM
    (updateCurve (link md5 area noise) r) >>= _) s₁ = _
  rw [hdiv, bind_of hloop, hseen]
  rfl

theorem groupOf_ok (h : RepInv system) (c : Client) {i : Nat} {g : Group}
    (hg : GroupOk system.server.vars (fun p => (system.objs.var p).info) i g) :
    c.groupOf i g.listByte (g.vars.map fun q => (system.objs.var q).info.id) =
      .ok (g.seen c.vars system.objs i) := by
  have hcount := h.vars.count
  have hlen := hg.members.length_le
  let entry (q : Ptr) : VarInfo := c.vars.getD (system.objs.var q).info.id.toNat ⟨0, false, 0⟩
  have hentry : ∀ q ∈ g.vars, c.varEntry (system.objs.var q).info.id = .ok (entry q) := by
    intro q hq
    exact if_pos (Nat.lt_of_lt_of_le (h.vars.id_lt (hg.members_mem q hq)) hcount)
  have hbody : ∀ j ∈ List.range (g.vars.map fun q => (system.objs.var q).info.id).length,
      (c.varEntry ((g.vars.map fun q => (system.objs.var q).info.id).getD j 0) >>= fun var =>
        slot bsmpMaxVariables j var) = .ok (entry (g.vars.getD j 0)) := by
    intro j hj
    have hj' : j < g.vars.length := by simpa using hj
    have hq : g.vars.getD j 0 ∈ g.vars := by simp [hj']
    have hid : (g.vars.map fun q => (system.objs.var q).info.id).getD j 0 =
        (system.objs.var (g.vars.getD j 0)).info.id := by simp [hj']
    rw [hid, hentry _ hq, ok_bind]
    exact if_pos (by omega)
  have hmap : (List.range g.vars.length).map (fun j => entry (g.vars.getD j 0)) = g.vars.map entry :=
    range_map_eq fun j q hq => by simp only [List.getD_eq_getElem?_getD, hq]; rfl
  rw [Client.groupOf, mapM_ok hbody, ok_bind, List.length_map, hmap, List.map_map, List.map_map]
  rfl

theorem groupQueryList_link (h : RepInv system) (hsys : s.chan.system.clearModified = system) :
    ∃ r s', Session.expect (link md5 area noise) .groupQueryList .groupList [] s = .ok (some r, s') ∧
      r.payloadSize.toNat = system.server.groups.count ∧
      (∀ i < system.server.groups.count, r.payload i = (system.server.groups.get i).listByte) ∧
      s'.client = s.client ∧ s'.chan.system.clearModified = system := by
  have hc : command md5 area CommandCode.groupQueryList.toByte (σ := σ) = some groupQueryList := rfl
  let bytes := (List.range system.server.groups.count).map fun i => (system.server.groups.get i).listByte
  have hlen : bytes.length = system.server.groups.count := by simp [bytes]
  have hh : groupQueryList system (message .groupQueryList []) =
      .ok (system, reply .groupList (UInt16.ofNat bytes.length) bytes) := by
    rw [h.groupQueryList_ok, hlen]
  obtain ⟨r, s', hexp, hsize, hpay, hclient, hsystem⟩ := query_link noise hc (by decide) hsys hh rfl
    (by rw [hlen]; exact h.room.trans (by decide))
  exact ⟨r, s', hexp, hsize.trans hlen, fun i hi => hpay i _ (by simp [bytes, hi]), hclient, hsystem⟩

theorem groupQuery_link (h : RepInv system) {i : Nat} (hi : i < system.server.groups.count)
    (hsys : s.chan.system.clearModified = system) :
    ∃ r s', Session.expect (link md5 area noise) .groupQuery .group [UInt8.ofNat i] s = .ok (some r, s') ∧
      r.slice 0 r.payloadSize.toNat =
        .ok ((system.server.groups.get i).vars.map fun q => (system.objs.var q).info.id) ∧
      s'.client = s.client ∧ s'.chan.system.clearModified = system := by
  have hlen := (h.groupOk_get hi).members.length_le.trans h.vars.count
  have hc : command md5 area CommandCode.groupQuery.toByte (σ := σ) = some groupQuery := rfl
  have hh := h.groupQuery_ok hi
  rw [← List.length_map] at hh
  obtain ⟨r, s', hexp, hsize, hpay, hclient, hsystem⟩ := query_link noise hc (by simp) hsys hh rfl
    (by rw [List.length_map]; exact hlen.trans (by decide))
  refine ⟨r, s', hexp, ?_, hclient, hsystem⟩
  rw [hsize]
  refine Response.slice_eq (fun j b hb => ?_)
    (by rw [List.length_map, Nat.zero_add]; exact hlen.trans (by decide))
  rw [Nat.zero_add]
  exact hpay j b hb

/-- One group: its query is answered, and the loop goes on. -/
theorem updateGroupsLoop_step {τ : Type} {comm : Comm τ} {s s₁ s' : Session τ} (h : RepInv system)
    {r r' : Response} {n i : Nat} {grps : Option (List ClientGroup)}
    (hi : i < system.server.groups.count) (hpay : r.payload i = (system.server.groups.get i).listByte)
    (hexp : Session.expect comm .groupQuery .group [UInt8.ofNat i] s = .ok (some r', s₁))
    (hids : r'.slice 0 r'.payloadSize.toNat =
      .ok ((system.server.groups.get i).vars.map fun q => (system.objs.var q).info.id))
    (hclient : s₁.client = s.client) (hloop : updateGroupsLoop comm r n (i + 1) s₁ = .ok (grps, s')) :
    updateGroupsLoop comm r (n + 1) i s = .ok (grps.map fun grps =>
      (system.server.groups.get i).seen s.client.vars system.objs i :: grps, s') := by
  have hslot : slot bsmpMaxGroups i () = .ok () := if_pos (Nat.lt_of_lt_of_le hi h.room)
  refine (lift_bind _ _ _).trans ?_
  rw [hslot, ok_bind, bind_of hexp]
  refine (lift_bind _ _ _).trans ?_
  rw [hids, ok_bind, get_bind]
  refine (lift_bind _ _ _).trans ?_
  rw [hpay, groupOf_ok h _ (h.groupOk_get hi), ok_bind, bind_of hloop, hclient]
  cases grps <;> rfl

theorem updateGroupsLoop_link (h : RepInv system) {r : Response}
    (hpay : ∀ i < system.server.groups.count, r.payload i = (system.server.groups.get i).listByte)
    {n i : Nat} (hn : i + n = system.server.groups.count) (hsys : s.chan.system.clearModified = system) :
    ∃ s', updateGroupsLoop (link md5 area noise) r n i s = .ok (some ((List.range' i n).map fun k =>
        (system.server.groups.get k).seen s.client.vars system.objs k), s') ∧
      s'.client = s.client ∧ s'.chan.system.clearModified = system := by
  induction n generalizing i s with
  | zero => exact ⟨s, rfl, rfl, hsys⟩
  | succ n ih =>
    have hi : i < system.server.groups.count := by omega
    obtain ⟨r', s₁, hexp, hids, hclient, hsystem⟩ := groupQuery_link md5 area noise h hi hsys
    obtain ⟨s', hloop, hclient', hsystem'⟩ := ih (i := i + 1) (by omega) hsystem
    refine ⟨s', ?_, hclient'.trans hclient, hsystem'⟩
    rw [updateGroupsLoop_step h hi (hpay i hi) hexp hids hclient hloop, hclient]
    rfl

theorem updateGroupsList_link (h : RepInv system) (hsys : s.chan.system.clearModified = system) :
    ∃ s', updateGroupsList (link md5 area noise) s = .ok (.success, s') ∧
      s'.client = { s.client with groups := system.groupsSeen s.client.vars } ∧
      s'.chan.system.clearModified = system := by
  obtain ⟨r, s₁, hexp, hsize, hpay, hclient, hsystem⟩ := groupQueryList_link md5 area noise h hsys
  obtain ⟨s', hloop, hclient', hsystem'⟩ := updateGroupsLoop_link md5 area noise h hpay
    (n := r.payloadSize.toNat) (i := 0) (by rw [hsize, Nat.zero_add]) hsystem
  refine ⟨{ s' with client.groups := system.groupsSeen s.client.vars }, ?_, by rw [hclient', hclient],
    hsystem'⟩
  refine (bind_of hexp).trans ((bind_of hloop).trans ?_)
  rw [hclient, hsize, ← List.range_eq_range']
  rfl

theorem andThen_of {τ : Type} {first second : Action τ BsmpErr} {s s' : Session τ}
    (h : first s = .ok (.success, s')) : andThen first second s = second s' := by
  rw [andThen, bind_of h]
  rfl

/-- What the client holds after discovery. -/
def System.told (system : System σ) (version : Version) : Client where
  serverVersion := version
  vars := system.varsSeen
  groups := system.groupsSeen system.varsSeen
  curves := system.curvesSeen
  funcs := system.funcsTold

/-- Discovery succeeds, whatever the server is. -/
theorem init_link (h : RepInv s.chan.system) :
    ∃ version s', bsmpClientInit (link md5 area noise) s = .ok (.success, s') ∧
      s'.client = s.chan.system.told version := by
  have h' : RepInv s.chan.system.clearModified := h.same (clearModified_same _)
  let s₀ : Session (Peer σ) := { s with client := s.client.zeroLists }
  obtain ⟨version, s₁, hrun₁, hclient₁, hsys₁⟩ := getVersion_link md5 area noise (s := s₀) rfl
  obtain ⟨s₂, hrun₂, hclient₂, hsys₂⟩ := updateVarsList_link md5 area noise h' hsys₁
  obtain ⟨s₃, hrun₃, hclient₃, hsys₃⟩ := updateGroupsList_link md5 area noise h' hsys₂
  obtain ⟨s₄, hrun₄, hclient₄, hsys₄⟩ := updateCurvesList_link md5 area noise h' hsys₃
  obtain ⟨s₅, hrun₅, hclient₅, -⟩ := updateFuncsList_link md5 area noise h' hsys₄
  refine ⟨version, s₅, ?_, ?_⟩
  · rw [bsmpClientInit, modify_bind, andThen_of hrun₁, andThen_of hrun₂, andThen_of hrun₃,
    andThen_of hrun₄, hrun₅]
  · rw [hclient₅, hclient₄, hclient₃, hclient₂, hclient₁]
    rfl

end Updates

/-! ## When the lists are exact -/

section Exact

variable {s : System σ}

theorem sum_toUInt16 (f : Ptr → UInt8) (l : List Ptr) :
    (l.map fun q => (f q).toUInt16).sum.toNat = (l.map fun q => (f q).toNat).sum % 65536 := by
  induction l with
  | nil => rfl
  | cons q l ih =>
    rw [List.map_cons, List.sum_cons, UInt16.toNat_add, ih, List.map_cons, List.sum_cons,
      UInt8.toNat_toUInt16]
    omega

/-- Entry `id` of the client's list is the variable with that id. -/
theorem RepInv.varsSeen_getD (h : RepInv s) {p : Ptr} (hp : p ∈ s.server.vars) :
    s.varsSeen.getD (s.objs.var p).info.id.toNat ⟨0, false, 0⟩ = (s.objs.var p).info.seen := by
  rw [List.getD_eq_getElem?_getD, System.varsSeen, List.getElem?_map, h.varId hp]
  rfl

/-- With the variables as they are, a group is read as it is: up to 127 variables
are counted. -/
theorem RepInv.groupSeen_of (h : RepInv s) {vars : List VarInfo}
    (hvars : ∀ p ∈ s.server.vars,
      vars.getD (s.objs.var p).info.id.toNat ⟨0, false, 0⟩ = (s.objs.var p).info)
    (hlen : s.server.vars.length ≤ 127) {i : Nat} (hi : i < s.server.groups.count) :
    (s.server.groups.get i).seen vars s.objs i = (s.server.groups.get i).described s.objs := by
  have hg := h.groupOk_get hi
  have hcount := hg.members.length_le.trans hlen
  obtain ⟨hwr, hcnt⟩ := Group.listByte_decode (s.server.groups.get i).writable _ hcount
  have hid : UInt8.ofNat i = (s.server.groups.get i).id :=
    (congrArg UInt8.ofNat hg.id).symm.trans UInt8.ofNat_toNat
  have hw : decide ((s.server.groups.get i).listByte &&& writableMask ≠ 0) =
    (s.server.groups.get i).writable :=
    Bool.eq_iff_iff.mpr (decide_eq_true_iff.trans hwr)
  have hbytes : (s.server.groups.get i).vars.map (fun q =>
      (vars.getD (s.objs.var q).info.id.toNat ⟨0, false, 0⟩).size.toUInt16) =
      (s.server.groups.get i).vars.map fun q => (s.objs.var q).info.size.toUInt16 := by
    apply List.map_congr_left
    intro q hq
    rw [hvars q (hg.members_mem q hq)]
  have hsum : ((s.server.groups.get i).vars.map fun q =>
      (vars.getD (s.objs.var q).info.id.toNat ⟨0, false, 0⟩).size.toUInt16).sum =
      (s.server.groups.get i).size := by
    apply UInt16.toNat_inj.mp
    rw [hbytes, sum_toUInt16, ← hg.sums.size]
    exact Nat.mod_eq_of_lt (UInt16.toNat_lt _)
  unfold Group.seen Group.described
  rw [hid, hw, hsum]
  exact congrArg (ClientGroup.mk _ _ _ · _) hcnt

theorem RepInv.groupSeen (h : RepInv s) (hsize : ∀ p ∈ s.server.vars, 0 < (s.objs.var p).info.size.toNat)
    (hlen : s.server.vars.length ≤ 127) {i : Nat} (hi : i < s.server.groups.count) :
    (s.server.groups.get i).seen s.varsSeen s.objs i = (s.server.groups.get i).described s.objs := by
  refine h.groupSeen_of (fun p hp => ?_) hlen hi
  rw [h.varsSeen_getD hp, (VarInfo.seen_eq_iff _).mpr (hsize p hp)]

/-- The group of all variables tells how many there are, up to 127. -/
theorem RepInv.groupSeen_full (h : RepInv s) (vars : List VarInfo) (hlen : ¬ s.server.vars.length ≤ 127) :
    (s.server.groups.get 0).seen vars s.objs 0 ≠ (s.server.groups.get 0).described s.objs := by
  have hcount := h.vars.count
  have h128 : s.server.vars.length = 128 := by simp only [bsmpMaxVariables] at hcount; omega
  have hall : (s.server.groups.get 0).vars = s.server.vars := h.all
  have hnone : ((s.server.groups.get 0).listByte &&& sizeMask).toNat = 0 :=
    Group.listByte_full (by rw [hall, h128])
  intro hg
  replace hg := congrArg ClientGroup.count hg
  simp only [Group.seen, Group.described, hnone, hall, h128] at hg
  cases hg

theorem RepInv.zero_mem_groups (h : RepInv s) : 0 ∈ List.range s.server.groups.count :=
  List.mem_range.mpr (Nat.lt_of_lt_of_le (by decide) h.standard)

/-- What the client is told is the server as it is, save for the three values
that an encoding has no room for. -/
theorem told_describes_iff (h : RepInv s) (version : Version) :
    Describes (s.told version) s ↔
      (∀ p ∈ s.server.vars, 0 < (s.objs.var p).info.size.toNat) ∧
      (∀ p ∈ s.server.curves, 0 < (s.objs.curve p).info.nblocks.toNat) ∧ s.server.vars.length ≤ 127 := by
  constructor
  · intro hd
    refine ⟨?_, ?_, ?_⟩
    · intro p hp
      exact (VarInfo.seen_eq_iff _).mp (List.map_inj_left.mp hd.vars p hp)
    · intro p hp
      exact (CurveInfo.seen_eq_iff _).mp (List.map_inj_left.mp hd.curves p hp)
    · by_contra hlen
      exact h.groupSeen_full _ hlen (List.map_inj_left.mp hd.groups 0 h.zero_mem_groups)
  · rintro ⟨hsize, hnblocks, hlen⟩
    refine ⟨?_, ?_, ?_, rfl⟩
    · exact List.map_inj_left.mpr fun p hp => (VarInfo.seen_eq_iff _).mpr (hsize p hp)
    · exact List.map_inj_left.mpr fun i hi => h.groupSeen hsize hlen (List.mem_range.mp hi)
    · exact List.map_inj_left.mpr fun p hp => (CurveInfo.seen_eq_iff _).mpr (hnblocks p hp)

end Exact

/-- **Discovery.** Over a channel that loses nothing, `bsmp_client_init`
succeeds and its lists describe the server exactly, if and only if every
variable has a byte, every curve has a block, and there are fewer variables
than the largest group can count. -/
theorem init_describes_iff (md5 : Md5) (area noise : Nat → UInt8) (s : Session (Peer σ))
    (hs : Reachable md5 s.chan.system) :
    (∃ s', bsmpClientInit (link md5 area noise) s = .ok (.success, s') ∧ Describes s'.client s.chan.system) ↔
      (∀ p ∈ s.chan.system.server.vars, 0 < (s.chan.system.objs.var p).info.size.toNat) ∧
      (∀ p ∈ s.chan.system.server.curves, 0 < (s.chan.system.objs.curve p).info.nblocks.toNat) ∧
      s.chan.system.server.vars.length ≤ 127 := by
  obtain ⟨version, s₁, hrun, hclient⟩ := init_link md5 area noise hs.repInv
  rw [← told_describes_iff hs.repInv version, ← hclient]
  constructor
  · rintro ⟨s₂, hrun₂, hd⟩
    cases hrun.symm.trans hrun₂
    exact hd
  · intro hd
    exact ⟨s₁, hrun, hd⟩

/-- The plant is described exactly if it has none of the three. -/
theorem init_describes_iff_plant :
    (∃ s', bsmpClientInit (link byteSum (fun _ => 0) fun _ => 0) ⟨blank, ⟨plant, none⟩, []⟩ =
      .ok (.success, s') ∧
        Describes s'.client plant) ↔
      (∀ p ∈ plant.server.vars, 0 < (plant.objs.var p).info.size.toNat) ∧
      (∀ p ∈ plant.server.curves, 0 < (plant.objs.curve p).info.nblocks.toNat) ∧
        plant.server.vars.length ≤ 127 :=
  init_describes_iff byteSum _ _ ⟨blank, ⟨plant, none⟩, []⟩ plant_reachable

/-- One variable, of no bytes. -/
def hollow : System Unit :=
  after byteSum (.ofLists [{ info := ⟨0, true, 0⟩, valueOk := none, data := some 0 }] [] [])
    { mem := fun _ => 0, app := () } (registrations 1 0 0)

/-- The client takes it for a variable of 128 bytes. -/
theorem init_misdescribes_hollow :
    Reachable byteSum hollow ∧ hollow.server.vars = [0] ∧
      ¬ ∃ s', bsmpClientInit (link byteSum (fun _ => 0) fun _ => 0) ⟨blank, ⟨hollow, none⟩, []⟩ =
        .ok (.success, s') ∧ Describes s'.client hollow := by
  have hreach : Reachable byteSum hollow := after_reachable ..
  refine ⟨hreach, rfl, ?_⟩
  rintro ⟨s₁, hrun₁, hd⟩
  obtain ⟨version, s₂, hrun₂, hclient⟩ := init_link byteSum (fun _ => 0) (fun _ => 0)
    (s := ⟨blank, ⟨hollow, none⟩, []⟩) hreach.repInv
  cases hrun₂.symm.trans hrun₁
  rw [hclient, told_describes_iff hreach.repInv] at hd
  exact absurd (hd.1 0 (List.mem_singleton.mpr rfl)) (by decide)

end UdcFirmware.Bsmp
