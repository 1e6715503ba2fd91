/-
The hook, as a request calls it.

A command that reads variables calls it before their data are copied into
the answer, one that writes them after the data are stored, and
`CMD_VAR_WRITE_READ` does both in turn. Every handler puts the variables
into the one `modified_list` of the instance, so what the hook is given is
read off the list as it is at the call (`ModifiedList.Lists`).

`storedBy` is what a request stores, variable by variable, and `readBy` what
it reads. A group write goes on when a checker refuses a slice: it stores
the others, calls the hook on the whole group, and answers with an error.
-/
import UdcFirmware.Bsmp.Protection
import UdcFirmware.Bsmp.Atomicity

namespace UdcFirmware.Bsmp

open ByteMem Checked

variable {σ : Type} {md5 : Md5} {area : Nat → UInt8} {s s' : System σ} {m a : Message}

/-! ## Calls -/

/-- The hook as it was called. -/
structure HookCall (σ : Type) where
  op : BsmpOperation
  list : ModifiedList
  world : World σ

def Call.hook? : Call σ → Option (HookCall σ)
  | .hook op list world => some ⟨op, list, world⟩
  | _ => none

/-- The calls of the hook among the callbacks. -/
def hookCalls (calls : List (Call σ)) : List (HookCall σ) := calls.filterMap Call.hook?

@[simp] theorem hookCalls_nil : hookCalls ([] : List (Call σ)) = [] := rfl

@[simp] theorem hookCalls_hook (op : BsmpOperation) (list : ModifiedList) (world : World σ)
    (calls : List (Call σ)) :
    hookCalls (.hook op list world :: calls) = ⟨op, list, world⟩ :: hookCalls calls :=
  rfl

theorem hookCalls_append (calls calls' : List (Call σ)) :
    hookCalls (calls ++ calls') = hookCalls calls ++ hookCalls calls' := List.filterMap_append

/-- The list names these variables, in this order, and a null pointer ends it. -/
def ModifiedList.Lists (list : ModifiedList) (vars : List Ptr) : Prop :=
  vars.length ≤ bsmpMaxVariables ∧
    ∀ i : Fin (bsmpMaxVariables + 1), i.val ≤ vars.length → list i = vars[i.val]?

/-- Variables in the order of their ids, none twice. -/
def IdOrder (objs : Objects σ) (vars : List Ptr) : Prop :=
  (vars.map fun p => (objs.var p).info.id).Pairwise (· < ·)

/-! ## What a request reads and stores -/

/-- The variables whose data a request reads. -/
def readBy (s : System σ) (m : Message) : List Ptr :=
  match CommandCode.ofByte? m.commandCode, m.payload with
  | some .varRead, id :: _ => s.server.vars[id.toNat]?.toList
  | some .varWriteRead, _ :: id :: _ => s.server.vars[id.toNat]?.toList
  | some .groupRead, id :: _ => groupMembers s id
  | _, _ => []

/-- Each variable's slice of `values`, left out when its checker refuses it. -/
def acceptedSlices (objs : Objects σ) : List Ptr → List UInt8 → World σ → List (Ptr × List UInt8)
  | [], _, _ => []
  | q :: qs, values, w =>
    let var := objs.var q
    let value := values.take var.info.size.toNat
    let rest := values.drop var.info.size.toNat
    if var.accepts w value then
      (q, value) :: acceptedSlices objs qs rest { w with mem := var.put w.mem value }
    else acceptedSlices objs qs rest w

/-- Each variable's data combined with its slice of `masks`. -/
def combinedSlices (objs : Objects σ) (op : UInt8 → UInt8 → UInt8) :
    List Ptr → List UInt8 → Mem UInt8 → List (Ptr × List UInt8)
  | [], _, _ => []
  | q :: qs, masks, mem =>
    let var := objs.var q
    let value := var.combine op mem (masks.take var.info.size.toNat)
    (q, value) :: combinedSlices objs op qs (masks.drop var.info.size.toNat) (var.put mem value)

/-- The data a request stores, variable by variable, once it has passed the
checks of its handler. -/
def storedBy (s : System σ) (m : Message) : List (Ptr × List UInt8) :=
  match CommandCode.ofByte? m.commandCode, m.payload with
  | some .varWrite, _ :: values => acceptedSlices s.objs (addressed s m) values s.world
  | some .varWriteRead, _ :: _ :: values => acceptedSlices s.objs (addressed s m) values s.world
  | some .groupWrite, _ :: values => acceptedSlices s.objs (addressed s m) values s.world
  | some .varBinOp, _ :: operation :: masks =>
    ((binOp operation).map fun op => combinedSlices s.objs op (addressed s m) masks s.world.mem).getD []
  | some .groupBinOp, _ :: operation :: masks =>
    ((binOp operation).map fun op => combinedSlices s.objs op (addressed s m) masks s.world.mem).getD []
  | _, _ => []

/-- Memory after these stores, in order. -/
def putAll (objs : Objects σ) (l : List (Ptr × List UInt8)) (mem : Mem UInt8) : Mem UInt8 :=
  l.foldl (fun mem x => (objs.var x.1).put mem x.2) mem

@[simp] theorem putAll_nil (objs : Objects σ) (mem : Mem UInt8) : putAll objs [] mem = mem := rfl

@[simp] theorem putAll_cons (objs : Objects σ) (x : Ptr × List UInt8) (l : List (Ptr × List UInt8))
    (mem : Mem UInt8) : putAll objs (x :: l) mem = putAll objs l ((objs.var x.1).put mem x.2) := rfl

/-- The world once a request has stored its data. -/
def worldStored (s : System σ) (m : Message) : World σ :=
  { s.world with mem := putAll s.objs (storedBy s m) s.world.mem }

/-- How a command uses variables. -/
inductive Access
  | none | read | write | writeRead

def CommandCode.access : CommandCode → Access
  | varRead | groupRead => .read
  | varWrite | groupWrite | varBinOp | groupBinOp => .write
  | varWriteRead => .writeRead
  | _ => .none

/-- A group write that went through the group, although a checker refused a slice. -/
def RefusedSlice (m a : Message) : Prop :=
  m.commandCode = CommandCode.groupWrite.toByte ∧ a.commandCode = CommandCode.errInvalidValue.toByte

instance (m a : Message) : Decidable (RefusedSlice m a) := inferInstanceAs (Decidable (_ ∧ _))

/-- A call before the variables are read: it finds the world `w`, and the
answer is copied out of the world it leaves. -/
structure ReadCall (hook : Hook σ) (s : System σ) (m : Message) (w : World σ) (s' : System σ) (a : Message)
    (call : HookCall σ) : Prop where
  op : call.op = .read
  world : call.world = w
  list : call.list.Lists (readBy s m)
  order : IdOrder s.objs (readBy s m)
  left : s'.world = (hook call.op call.list call.world).2.2
  answer : a.payload = valuesOf s.objs s'.world.mem (readBy s m)

/-- A call after the data are stored, on the variables they were stored in.
When a slice was refused, the list may name more. -/
structure WriteCall (s : System σ) (m a : Message) (call : HookCall σ) : Prop where
  op : call.op = .write
  world : call.world = worldStored s m
  list : ∃ vars, call.list.Lists vars ∧ IdOrder s.objs vars ∧ ((storedBy s m).map Prod.fst).Sublist vars ∧
    (isErrorByte a.commandCode = false → vars = (storedBy s m).map Prod.fst)

/-- The calls of the hook that a request answered by `a` makes, in order. -/
def HookTrace (hook : Hook σ) (s : System σ) (m : Message) (s' : System σ) (a : Message)
    (calls : List (HookCall σ)) : Prop :=
  match (CommandCode.ofByte? m.commandCode).elim .none CommandCode.access with
  | .none => calls = []
  | .read =>
    if isErrorByte a.commandCode then calls = []
    else ∃ call, calls = [call] ∧ ReadCall hook s m s.world s' a call
  | .write =>
    if isErrorByte a.commandCode ∧ ¬ RefusedSlice m a then calls = []
    else ∃ call, calls = [call] ∧ WriteCall s m a call ∧
      s'.world = (hook call.op call.list call.world).2.2
  | .writeRead =>
    if isErrorByte a.commandCode then calls = []
    else ∃ call call', calls = [call, call'] ∧ WriteCall s m a call ∧
      ReadCall hook s m (hook call.op call.list call.world).2.2 s' a call'

/-! ## The list -/

theorem ModifiedList.write_apply {entries : List (Option Ptr)} {list list' : ModifiedList} {i : Nat}
    (h : write list i entries = .ok list') (j : Fin (bsmpMaxVariables + 1)) :
    list' j = if i ≤ j.val then (entries[j.val - i]?).getD (list j) else list j := by
  induction entries generalizing list i with
  | nil =>
    cases h
    simp
  | cons e entries ih =>
    simp only [write] at h
    split at h
    · next hi =>
      rw [ih h]
      rcases Nat.lt_trichotomy i j.val with hlt | he | hgt
      · have hne : j ≠ ⟨i, hi⟩ := fun hj => by rw [hj] at hlt; exact Nat.lt_irrefl _ hlt
        obtain ⟨k, hk⟩ := Nat.exists_eq_add_of_lt hlt
        rw [if_pos (by omega), if_pos (by omega), Function.update_of_ne hne,
          show j.val - i = j.val - (i + 1) + 1 by omega, List.getElem?_cons_succ]
      · obtain rfl : j = ⟨i, hi⟩ := Fin.ext he.symm
        simp
      · have hne : j ≠ ⟨i, hi⟩ := fun hj => by rw [hj] at hgt; exact Nat.lt_irrefl _ hgt
        rw [if_neg (by omega), if_neg (by omega), Function.update_of_ne hne]
    · cases h

/-- `group_to_mod_list`, and the single variables: the whole list is written. -/
theorem ModifiedList.write_lists {vars : List Ptr} {list list' : ModifiedList}
    (hlen : vars.length ≤ bsmpMaxVariables) (h : write list 0 (vars.map some ++ [none]) = .ok list') :
    list'.Lists vars := by
  refine ⟨hlen, fun i hi => ?_⟩
  rw [write_apply h, if_pos (Nat.zero_le _), Nat.sub_zero]
  rcases Nat.lt_or_eq_of_le hi with hlt | he
  · rw [List.getElem?_append_left (by simpa using hlt), List.getElem?_map, List.getElem?_eq_getElem hlt]
    rfl
  · rw [List.getElem?_append_right (by simp [he])]
    simp [he]

/-- `CMD_VAR_WRITE_READ` puts the variable it reads in the place of the one it wrote. -/
theorem ModifiedList.write_first {p q : Ptr} {list list' : ModifiedList} (hl : list.Lists [p])
    (h : write list 0 [some q] = .ok list') : list'.Lists [q] := by
  refine ⟨hl.1, fun i hi => ?_⟩
  rw [write_apply h, if_pos (Nat.zero_le _), Nat.sub_zero]
  have hi' : i.val = 0 ∨ i.val = 1 := by simp at hi; omega
  rcases hi' with h0 | h1
  · simp [h0]
  · have hend := hl.2 i hi
    simp only [h1] at hend ⊢
    exact hend

theorem IdOrder.single (objs : Objects σ) (p : Ptr) : IdOrder objs [p] := by simp [IdOrder]

theorem RepInv.groupOrder (h : RepInv s) {i : Nat} {g : Group}
    (hg : GroupOk s.server.vars (fun p => (s.objs.var p).info) i g) : IdOrder s.objs g.vars :=
  h.vars.ids_increase hg.members

/-! ## The stores -/

theorem writeMembers_world (objs : Objects σ) (qs : List Ptr) (values : List UInt8) (w : World σ)
    (failed : Bool) : (writeMembers objs qs values w failed).1 =
      { w with mem := putAll objs (acceptedSlices objs qs values w) w.mem } := by
  induction qs generalizing values w failed with
  | nil => rfl
  | cons q qs ih =>
    simp only [writeMembers, acceptedSlices]
    split
    · rw [ih]
      rfl
    · rw [ih]

theorem acceptedSlices_sublist (objs : Objects σ) (qs : List Ptr) (values : List UInt8) (w : World σ) :
    ((acceptedSlices objs qs values w).map Prod.fst).Sublist qs := by
  induction qs generalizing values w with
  | nil => exact .slnil
  | cons q qs ih =>
    simp only [acceptedSlices]
    split
    · exact (ih _ _).cons_cons q
    · exact (ih _ _).cons q

/-- Once a check has failed, the loop remembers it. -/
theorem writeMembers_failed (objs : Objects σ) (qs : List Ptr) (values : List UInt8) (w : World σ) :
    (writeMembers objs qs values w true).2 = true := by
  induction qs generalizing values w with
  | nil => rfl
  | cons q qs ih =>
    simp only [writeMembers]
    split
    · exact ih _ _
    · exact ih _ _

/-- No check failed: every member has been written. -/
theorem acceptedSlices_all {objs : Objects σ} {qs : List Ptr} {values : List UInt8} {w : World σ}
    (h : (writeMembers objs qs values w false).2 = false) :
    (acceptedSlices objs qs values w).map Prod.fst = qs := by
  induction qs generalizing values w with
  | nil => rfl
  | cons q qs ih =>
    simp only [writeMembers] at h
    simp only [acceptedSlices]
    split at h
    · next hok =>
      rw [if_pos hok, List.map_cons, ih h]
    · rw [writeMembers_failed] at h
      cases h

theorem combinedSlices_all (objs : Objects σ) (op : UInt8 → UInt8 → UInt8) (qs : List Ptr)
    (masks : List UInt8) (mem : Mem UInt8) : (combinedSlices objs op qs masks mem).map Prod.fst = qs := by
  induction qs generalizing masks mem with
  | nil => rfl
  | cons q qs ih => simp only [combinedSlices, List.map_cons, ih]

theorem binOpMembers_mem (objs : Objects σ) (op : UInt8 → UInt8 → UInt8) (qs : List Ptr)
    (masks : List UInt8) (mem : Mem UInt8) :
    binOpMembers objs op qs masks mem = putAll objs (combinedSlices objs op qs masks mem) mem := by
  induction qs generalizing masks mem with
  | nil => rfl
  | cons q qs ih => simp only [binOpMembers, combinedSlices, putAll_cons, ih]

/-! ## One variable -/

theorem acceptedSlices_single {objs : Objects σ} {q : Ptr} {value : List UInt8} {w : World σ}
    (hlen : value.length = (objs.var q).info.size.toNat) (hok : (objs.var q).accepts w value = true) :
    acceptedSlices objs [q] value w = [(q, value)] := by
  have htake : value.take (objs.var q).info.size.toNat = value := by rw [← hlen, List.take_length]
  simp [acceptedSlices, htake, hok]

theorem combinedSlices_single {objs : Objects σ} {op : UInt8 → UInt8 → UInt8} {q : Ptr} {mask : List UInt8}
    (hlen : mask.length = (objs.var q).info.size.toNat) (mem : Mem UInt8) :
    combinedSlices objs op [q] mask mem = [(q, (objs.var q).combine op mem mask)] := by
  have htake : mask.take (objs.var q).info.size.toNat = mask := by rw [← hlen, List.take_length]
  simp [combinedSlices, htake]

/-! ## One call -/

/-- With a hook that leaves its list alone, a call is recorded, and the list
is as it was written. -/
theorem callHook_call {hook : Hook σ} {op : BsmpOperation} {entries : List (Option Ptr)}
    (hhook : s.server.hook = some hook) (hkeeps : ∀ op list w, (hook op list w).2.1 = list)
    (h : s.callHook op entries = .ok s') :
    ∃ list, ModifiedList.write s.server.modifiedList 0 entries = .ok list ∧ s'.server.modifiedList = list ∧
      s'.world = (hook op list s.world).2.2 ∧ s'.trace = s.trace ++ [.hook op list s.world] := by
  rcases callHook_cases h with ⟨hnone, -⟩ | ⟨hook', list, hsome, hw, rfl⟩
  · rw [hhook] at hnone
    cases hnone
  · rw [hhook] at hsome
    cases hsome
    exact ⟨list, hw, hkeeps op list s.world, rfl, rfl⟩

/-- The call a reading handler makes. -/
theorem readCall {hook : Hook σ} (vars : List Ptr) (hhook : s.server.hook = some hook)
    (hkeeps : ∀ op list w, (hook op list w).2.1 = list) (hfits : vars.length ≤ bsmpMaxVariables)
    (h : s.callHook .read (vars.map some ++ [none]) = .ok s') (hread : readBy s m = vars)
    (horder : IdOrder s.objs vars) (hpay : a.payload = valuesOf s.objs s'.world.mem vars) :
    ∃ call : HookCall σ, s'.trace = s.trace ++ [.hook call.op call.list call.world] ∧
      ReadCall hook s m s.world s' a call := by
  obtain ⟨list, hw, -, hworld, htrace⟩ := callHook_call hhook hkeeps h
  refine ⟨⟨.read, list, s.world⟩, htrace, rfl, rfl, ?_, ?_, hworld, ?_⟩
  · rw [hread]
    exact ModifiedList.write_lists hfits hw
  · rw [hread]
    exact horder
  · rw [hread]
    exact hpay

/-- The call a writing handler makes, `s₁` being the system with the data stored. -/
theorem writeCall {hook : Hook σ} (vars : List Ptr) (hhook : s.server.hook = some hook)
    (hkeeps : ∀ op list w, (hook op list w).2.1 = list) (hfits : vars.length ≤ bsmpMaxVariables)
    (h : System.callHook { s with world := worldStored s m } .write (vars.map some ++ [none]) = .ok s')
    (horder : IdOrder s.objs vars) (hsub : ((storedBy s m).map Prod.fst).Sublist vars)
    (hall : isErrorByte a.commandCode = false → vars = (storedBy s m).map Prod.fst) :
    ∃ call : HookCall σ, s'.server.modifiedList = call.list ∧ call.list.Lists vars ∧
      s'.trace = s.trace ++ [.hook call.op call.list call.world] ∧ WriteCall s m a call ∧
      s'.world = (hook call.op call.list call.world).2.2 := by
  obtain ⟨list, hw, hlist, hworld, htrace⟩ := callHook_call (s := { s with world := worldStored s m }) hhook
    hkeeps h
  have hlists := ModifiedList.write_lists hfits hw
  exact ⟨⟨.write, list, worldStored s m⟩, hlist, hlists, htrace, ⟨rfl, rfl, vars, hlists, horder, hsub, hall⟩,
    hworld⟩

/-- Data stored in one variable. -/
theorem writeCall_single {hook : Hook σ} (a : Message) (hhook : s.server.hook = some hook)
    (hkeeps : ∀ op list w, (hook op list w).2.1 = list) {p : Ptr} {value : List UInt8}
    (hstored : storedBy s m = [(p, value)])
    (h : System.callHook { s with world.mem := (s.objs.var p).put s.world.mem value } .write
      [some p, none] = .ok s') :
    ∃ call : HookCall σ, s'.server.modifiedList = call.list ∧ call.list.Lists [p] ∧
      s'.trace = s.trace ++ [.hook call.op call.list call.world] ∧ WriteCall s m a call ∧
      s'.world = (hook call.op call.list call.world).2.2 := by
  have hworld : worldStored s m = { s.world with mem := (s.objs.var p).put s.world.mem value } := by
    rw [worldStored, hstored]
    rfl
  rw [← hworld] at h
  refine writeCall [p] hhook hkeeps (by simp) h (.single s.objs p) ?_ fun _ => ?_
  · rw [hstored]
    exact .refl _
  · rw [hstored]
    rfl

/-! ## Requests -/

/-- An error, and no group write that went through its group: no call. -/
theorem HookTrace.rejected {hook : Hook σ} (herr : isErrorByte a.commandCode = true)
    (hgw : ¬ RefusedSlice m a) :
    HookTrace hook s m s' a [] := by
  unfold HookTrace
  split
  · rfl
  · rw [if_pos herr]
  · rw [if_pos ⟨herr, hgw⟩]
  · rw [if_pos herr]

/-- A command that uses no variables calls no hook. -/
theorem HookTrace.unused {hook : Hook σ} {cmd : CommandCode} (hcmd : m.commandCode = cmd.toByte)
    (haccess : cmd.access = .none) {calls : List (Call σ)} (hcalls : hookCalls calls = []) :
    HookTrace hook s m s' a (hookCalls calls) := by
  simp only [HookTrace, hcmd, CommandCode.ofByte?_toByte, Option.elim_some, haccess, hcalls]

theorem HookTrace.read {hook : Hook σ} {cmd : CommandCode} (hcmd : m.commandCode = cmd.toByte)
    (haccess : cmd.access = .read) (hok : isErrorByte a.commandCode = false) {call : HookCall σ}
    (hcall : ReadCall hook s m s.world s' a call) :
    HookTrace hook s m s' a (hookCalls [.hook call.op call.list call.world]) := by
  simp only [HookTrace, hcmd, CommandCode.ofByte?_toByte, Option.elim_some, haccess, hok, Bool.false_eq_true,
    if_false]
  exact ⟨call, rfl, hcall⟩

theorem HookTrace.write {hook : Hook σ} {cmd : CommandCode} (hcmd : m.commandCode = cmd.toByte)
    (haccess : cmd.access = .write) (hok : isErrorByte a.commandCode = false ∨ RefusedSlice m a)
    {call : HookCall σ} (hcall : WriteCall s m a call)
    (hworld : s'.world = (hook call.op call.list call.world).2.2) :
    HookTrace hook s m s' a (hookCalls [.hook call.op call.list call.world]) := by
  have hgo : ¬ (isErrorByte a.commandCode = true ∧ ¬ RefusedSlice m a) := by
    intro hgone
    obtain ⟨herr, hgw⟩ := hgone
    rcases hok with hok | hok
    · rw [hok] at herr
      cases herr
    · exact hgw hok
  have haccess' : (CommandCode.ofByte? m.commandCode).elim Access.none CommandCode.access = .write := by
    rw [hcmd, CommandCode.ofByte?_toByte]
    exact haccess
  simp only [HookTrace, haccess']
  rw [if_neg hgo]
  exact ⟨call, rfl, hcall, hworld⟩

theorem CommandCode.access_query {cmd : CommandCode} (h : cmd.isQuery = true) : cmd.access = .none := by
  cases cmd <;> first | rfl | cases h

/-- The checksum loop reads blocks and calls no hook. -/
theorem curveCsumLoop_noHook {p : Ptr} {n i : Nat} {ctx : md5.Ctx} {r : Option md5.Ctx}
    (h : curveCsumLoop md5 p n i ctx s = .ok (r, s')) :
    ∃ calls, s'.trace = s.trace ++ calls ∧ hookCalls calls = [] := by
  refine curveCsumLoop_keeps (I := fun t => ∃ calls, t.trace = s.trace ++ calls ∧ hookCalls calls = []) ?_
    ⟨[], by simp, rfl⟩ h
  intro s₁ s₂ block ok data hcalled hread
  obtain ⟨calls, htrace, hcalls⟩ := hcalled
  obtain ⟨f, w, -, -, rfl⟩ := callReadBlock_cases hread
  refine ⟨calls ++ [.readBlock p block], ?_, ?_⟩
  · rw [← List.append_assoc, ← htrace]
  · rw [hookCalls_append, hcalls]
    rfl

variable {hook : Hook σ}

theorem Outcome.hooked_groupWrite (h : RepInv s) (hhook : s.server.hook = some hook)
    (hkeeps : ∀ op list w, (hook op list w).2.1 = list) {id : UInt8} {values : List UInt8} {g : Group}
    {w : World σ} {failed : Bool} (hcmd : m.commandCode = CommandCode.groupWrite.toByte)
    (hpay : m.payload = id :: values) (hid : id.toNat < s.server.groups.count)
    (hg : s.server.groups.at id.toNat = .ok g)
    (hw : writeMembers s.objs g.vars values s.world false = (w, failed))
    (hcall : System.callHook { s with world := w } .write (g.vars.map some ++ [none]) = .ok s')
    (ha : a.commandCode = (if failed then CommandCode.errInvalidValue else CommandCode.ok).toByte) :
    ∃ calls, s'.trace = s.trace ++ calls ∧ HookTrace hook s m s' a (hookCalls calls) := by
  have hok := h.of_groupAt hid hg
  have haddr := addressed_group (.inl hcmd) hpay hid hg
  have hstored : storedBy s m = acceptedSlices s.objs g.vars values s.world := by
    simp only [storedBy, hcmd, CommandCode.ofByte?_toByte, hpay]
    rw [haddr]
  have hworld : w = worldStored s m := by
    rw [worldStored, hstored, ← writeMembers_world s.objs g.vars values s.world false, hw]
  rw [hworld] at hcall
  have hall : isErrorByte a.commandCode = false → g.vars = (storedBy s m).map Prod.fst := by
    intro hcode
    cases failed
    · rw [hstored, acceptedSlices_all (by rw [hw])]
    · rw [ha] at hcode
      cases hcode
  obtain ⟨call, -, -, htrace, hwrite, hleft⟩ := writeCall (a := a) g.vars hhook hkeeps
    (hok.members.length_le.trans h.vars.count) hcall (h.groupOrder hok)
    (by rw [hstored]; exact acceptedSlices_sublist _ _ _ _) hall
  refine ⟨_, htrace, .write hcmd rfl ?_ hwrite hleft⟩
  cases failed
  · exact .inl (by rw [ha]; rfl)
  · exact .inr ⟨hcmd, ha⟩

/-- A write with a read after it: two calls. -/
theorem Outcome.hooked_varWriteRead (hhook : s.server.hook = some hook)
    (hkeeps : ∀ op list w, (hook op list w).2.1 = list) {idw idr : UInt8} {value : List UInt8} {pw pr : Ptr}
    {s₁ : System σ} (hcmd : m.commandCode = CommandCode.varWriteRead.toByte)
    (hpay : m.payload = idw :: idr :: value) (hpw : s.server.vars[idw.toNat]? = some pw)
    (hpr : s.server.vars[idr.toNat]? = some pr) (hlen : value.length = (s.objs.var pw).info.size.toNat)
    (hok : (s.objs.var pw).accepts s.world value = true)
    (hcall₁ : System.callHook { s with world.mem := (s.objs.var pw).put s.world.mem value } .write
      [some pw, none] = .ok s₁)
    (hcall₂ : s₁.callHook .read [some pr] = .ok s') :
    ∃ calls, s'.trace = s.trace ++ calls ∧ HookTrace hook s m s'
      (reply .varValue (s.objs.var pr).info.size.toUInt16 ((s.objs.var pr).bytes s'.world.mem))
      (hookCalls calls) := by
  have hstored : storedBy s m = [(pw, value)] := by
    simp only [storedBy, hcmd, CommandCode.ofByte?_toByte, hpay, addressed_var (.inr (.inl hcmd)) hpay hpw]
    exact acceptedSlices_single hlen hok
  have hread : readBy s m = [pr] := by simp [readBy, hcmd, hpay, hpr]
  have hsame := callHook_same hcall₁
  obtain ⟨call, hlist, hlists, htrace, hwrite, hleft⟩ := writeCall_single
    (reply .varValue (s.objs.var pr).info.size.toUInt16 ((s.objs.var pr).bytes s'.world.mem))
    hhook hkeeps hstored hcall₁
  obtain ⟨list, hw, -, hworld', htrace'⟩ := callHook_call (hsame.hook.trans hhook) hkeeps hcall₂
  rw [hlist] at hw
  have hlists' := ModifiedList.write_first hlists hw
  have hcall' : ReadCall hook s m (hook call.op call.list call.world).2.2 s'
      (reply .varValue (s.objs.var pr).info.size.toUInt16 ((s.objs.var pr).bytes s'.world.mem))
      ⟨.read, list, s₁.world⟩ := by
    refine ⟨rfl, hleft, ?_, ?_, hworld', ?_⟩
    · rw [hread]
      exact hlists'
    · rw [hread]
      exact .single s.objs pr
    · rw [hread]
      simp [reply]
  refine ⟨[.hook call.op call.list call.world, .hook .read list s₁.world], ?_, ?_⟩
  · rw [htrace', htrace, List.append_assoc]
    rfl
  · have herr : isErrorByte (reply .varValue (s.objs.var pr).info.size.toUInt16
        ((s.objs.var pr).bytes s'.world.mem)).commandCode = false := rfl
    simp only [HookTrace, hcmd, CommandCode.ofByte?_toByte, Option.elim_some, CommandCode.access, herr,
      Bool.false_eq_true, if_false]
    exact ⟨call, _, rfl, hwrite, hcall'⟩

theorem Outcome.hooked_groupBinOp (h : RepInv s) (hhook : s.server.hook = some hook)
    (hkeeps : ∀ op list w, (hook op list w).2.1 = list) {id operation : UInt8} {masks : List UInt8}
    {g : Group} {op : UInt8 → UInt8 → UInt8} (hcmd : m.commandCode = CommandCode.groupBinOp.toByte)
    (hpay : m.payload = id :: operation :: masks) (hid : id.toNat < s.server.groups.count)
    (hg : s.server.groups.at id.toNat = .ok g) (hop : binOp operation = some op)
    (hcall : System.callHook { s with world.mem := binOpMembers s.objs op g.vars masks s.world.mem } .write
      (g.vars.map some ++ [none]) = .ok s') :
    ∃ calls, s'.trace = s.trace ++ calls ∧ HookTrace hook s m s' (answer .ok) (hookCalls calls) := by
  have hok := h.of_groupAt hid hg
  have hstored : storedBy s m = combinedSlices s.objs op g.vars masks s.world.mem := by
    simp only [storedBy, hcmd, CommandCode.ofByte?_toByte, hpay, hop, Option.map_some, Option.getD_some]
    rw [addressed_group (.inr hcmd) hpay hid hg]
  have hall := combinedSlices_all s.objs op g.vars masks s.world.mem
  have hworld : worldStored s m =
      { s.world with mem := binOpMembers s.objs op g.vars masks s.world.mem } := by
    rw [worldStored, hstored, binOpMembers_mem]
  rw [← hworld] at hcall
  obtain ⟨call, -, -, htrace, hwrite, hleft⟩ := writeCall (a := answer .ok) g.vars hhook hkeeps
    (hok.members.length_le.trans h.vars.count) hcall (h.groupOrder hok) (by rw [hstored, hall])
    (fun _ => by rw [hstored, hall])
  exact ⟨_, htrace, .write hcmd rfl (.inl rfl) hwrite hleft⟩

/-- What an outcome shows the hook, a group write with a refused slice apart. -/
theorem Outcome.hooked (h : RepInv s) (hhook : s.server.hook = some hook)
    (hkeeps : ∀ op list w, (hook op list w).2.1 = list) (ho : Outcome md5 area s m s' a)
    (hgw : ¬ RefusedSlice m a) :
    ∃ calls, s'.trace = s.trace ++ calls ∧ HookTrace hook s m s' a (hookCalls calls) := by
  have hnone : s.trace = s.trace ++ [] := (List.append_nil _).symm
  cases ho with
  | rejected hc => exact ⟨[], hnone, .rejected hc hgw⟩
  | queried bytes hcmd hc hlen hq =>
    exact ⟨[], hnone, .unused hcmd (CommandCode.access_query hq) rfl⟩
  | @varRead id p _ hcmd hpay hp hcall =>
    have hread : readBy s m = [p] := by
      simp [readBy, hcmd, hpay, hp]
    obtain ⟨call, htrace, hcall⟩ := readCall (m := m)
      (a := reply .varValue (s.objs.var p).info.size.toUInt16 ((s.objs.var p).bytes s'.world.mem)) [p] hhook
      hkeeps (by simp) hcall hread (.single s.objs p) (by simp [reply])
    exact ⟨_, htrace, .read hcmd rfl (by rfl) hcall⟩
  | @varWrite id value p _ hcmd hpay hp hlen hwr hok hcall =>
    have hstored : storedBy s m = [(p, value)] := by
      simp only [storedBy, hcmd, CommandCode.ofByte?_toByte, hpay, addressed_var (.inl hcmd) hpay hp]
      exact acceptedSlices_single hlen hok
    obtain ⟨call, -, -, htrace, hwrite, hleft⟩ := writeCall_single (answer .ok) hhook hkeeps hstored hcall
    exact ⟨_, htrace, .write hcmd rfl (.inl rfl) hwrite hleft⟩
  | varWriteRead hcmd hpay hpw hpr hlen hwr hok hcall₁ hcall₂ =>
    exact hooked_varWriteRead hhook hkeeps hcmd hpay hpw hpr hlen hok hcall₁ hcall₂
  | @varBinOp id operation mask p op _ hcmd hpay hp hop hlen hwr hcall =>
    have hstored : storedBy s m = [(p, (s.objs.var p).combine op s.world.mem mask)] := by
      simp only [storedBy, hcmd, CommandCode.ofByte?_toByte, hpay, hop, Option.map_some, Option.getD_some,
        addressed_var (.inr (.inr hcmd)) hpay hp]
      exact combinedSlices_single hlen _
    obtain ⟨call, -, -, htrace, hwrite, hleft⟩ := writeCall_single (answer .ok) hhook hkeeps hstored hcall
    exact ⟨_, htrace, .write hcmd rfl (.inl rfl) hwrite hleft⟩
  | @groupRead id g _ hcmd hpay hid hg hcall =>
    have hok := h.of_groupAt hid hg
    have hread : readBy s m = g.vars := by simp [readBy, hcmd, hpay, groupMembers_eq hid hg]
    obtain ⟨call, htrace, hcall⟩ := readCall (m := m)
      (a := reply .groupValues g.size (valuesOf s.objs s'.world.mem g.vars)) g.vars hhook hkeeps
      (hok.members.length_le.trans h.vars.count) hcall hread (h.groupOrder hok) rfl
    exact ⟨_, htrace, .read hcmd rfl (by rfl) hcall⟩
  | groupWrite hcmd hpay hid hg hlen hwr hw hcall =>
    exact hooked_groupWrite h hhook hkeeps hcmd hpay hid hg hw hcall (by split <;> rfl)
  | groupBinOp hcmd hpay hid hg hop hlen hwr hcall =>
    exact hooked_groupBinOp h hhook hkeeps hcmd hpay hid hg hop hcall
  | groupAbandoned => exact ⟨[], hnone, .rejected rfl hgw⟩
  | groupCreated hcmd => exact ⟨[], hnone, .unused hcmd rfl rfl⟩
  | groupsRemoved hcmd => exact ⟨[], hnone, .unused hcmd rfl rfl⟩
  | blockBusy hcmd hp hread =>
    obtain ⟨f, w, -, -, rfl⟩ := callReadBlock_cases hread
    exact ⟨_, rfl, .unused hcmd rfl rfl⟩
  | blockRead hcmd hpay hp hoff hread =>
    obtain ⟨f, w, -, -, rfl⟩ := callReadBlock_cases hread
    exact ⟨_, rfl, .unused hcmd rfl rfl⟩
  | blockWriteBusy hcmd hp hwr hwrite =>
    obtain ⟨f, w, -, -, rfl⟩ := callWriteBlock_cases hwrite
    exact ⟨_, rfl, .unused hcmd rfl rfl⟩
  | blockWritten hcmd hpay hp hdata hlen hoff hwr hwrite =>
    obtain ⟨f, w, -, -, rfl⟩ := callWriteBlock_cases hwrite
    exact ⟨_, rfl, .unused hcmd rfl rfl⟩
  | customCsum hcmd => exact ⟨_, rfl, .unused hcmd rfl rfl⟩
  | csumBusy hcmd hpay hp hmd5 hloop =>
    obtain ⟨calls, htrace, hcalls⟩ := curveCsumLoop_noHook hloop
    exact ⟨calls, htrace, .unused hcmd rfl hcalls⟩
  | csumComputed hcmd hpay hp hmd5 hloop =>
    obtain ⟨calls, htrace, hcalls⟩ := curveCsumLoop_noHook hloop
    exact ⟨calls, htrace, .unused hcmd rfl hcalls⟩
  | executed hcmd => exact ⟨_, rfl, .unused hcmd rfl rfl⟩

/-- Emptying the list before the handler runs makes no difference. -/
theorem HookTrace.of_clearModified {calls : List (HookCall σ)}
    (h : HookTrace hook s.clearModified m s' a calls) : HookTrace hook s m s' a calls := by
  have hwrite : WriteCall s.clearModified m a = WriteCall s m a := by
    funext call
    exact propext ⟨fun hc => ⟨hc.op, hc.world, hc.list⟩, fun hc => ⟨hc.op, hc.world, hc.list⟩⟩
  have hread : ∀ w, ReadCall hook s.clearModified m w s' a = ReadCall hook s m w s' a := by
    intro w
    funext call
    exact propext ⟨fun hc => ⟨hc.op, hc.world, hc.list, hc.order, hc.left, hc.answer⟩,
      fun hc => ⟨hc.op, hc.world, hc.list, hc.order, hc.left, hc.answer⟩⟩
  simp only [HookTrace, hwrite, hread, clearModified_world] at h ⊢
  exact h

/-- **What the hook sees.** A request that reads variables and is accepted
calls the hook once, before any of their data are copied into the answer;
one that writes variables and is accepted calls it once, after all data are
stored; `CMD_VAR_WRITE_READ` calls it for the write and then for the read. The
list names the variables read or written, each once, by increasing id. A
group write with a refused slice has stored the others and calls the hook
too, on a list with these among its entries. Nothing else calls the hook. -/
theorem bsmpProcessPacket_hooked (hs : Reachable md5 s) (hhook : s.server.hook = some hook)
    (hkeeps : ∀ op list w, (hook op list w).2.1 = list) (req : Request) (area : Nat → UInt8) :
    ∃ s' a calls, bsmpProcessPacket md5 s req area = .ok (s', a.toPacket) ∧
      s'.trace = s.trace ++ calls ∧ HookTrace hook s req.message s' a (hookCalls calls) := by
  obtain ⟨⟨s', a⟩, hresp, ho⟩ := respond_outcome md5 hs.repInv req area
  have hinv := hs.repInv.same (clearModified_same s)
  refine ⟨s', a, ?_⟩
  have hproc : bsmpProcessPacket md5 s req area = .ok (s', a.toPacket) := by
    rw [bsmpProcessPacket, hresp]
    rfl
  by_cases hgw : RefusedSlice req.message a
  · have hcmd : command md5 area req.message.commandCode = some (groupWrite (σ := σ)) := by rw [hgw.1]; rfl
    rcases respond_command hcmd hresp with ⟨-, rfl⟩ | ⟨hwhole, hhandler⟩
    · exact absurd hgw.2 (by decide)
    obtain ⟨id, values, g, w, hpay, hid, hg, hlen, hwr, hw, hcall⟩ :=
      groupWrite_rejected hinv hwhole hhandler hgw.2
    obtain ⟨calls, htrace, hooked⟩ := Outcome.hooked_groupWrite (s := s.clearModified) hinv hhook hkeeps hgw.1
      hpay hid hg hw hcall hgw.2
    exact ⟨calls, hproc, htrace, hooked.of_clearModified⟩
  · obtain ⟨calls, htrace, hooked⟩ := Outcome.hooked (s := s.clearModified) hinv hhook hkeeps ho hgw
    exact ⟨calls, hproc, htrace, hooked.of_clearModified⟩

/-- A hook that only looks. -/
def lookOn : Hook Unit := fun _ list w => (true, list, w)

/-- The two bytes of `guarded`, and a hook. -/
def watched : System Unit := (bsmpRegisterHook guarded (some lookOn)).2

theorem watched_reachable : Reachable byteSum watched :=
  guarded_reachable.step (e := .registerHook (some lookOn)) rfl

/-- 5 and 200 written to the two bytes: the second is refused and not stored,
the answer is an error, and the hook is called on both. -/
theorem groupWrite_refused_hooked :
    Reachable byteSum watched ∧ watched.server.hook = some lookOn ∧
      (∀ op list w, (lookOn op list w).2.1 = list) ∧
      storedBy watched (request CommandCode.groupWrite.toByte [0, 5, 200]).message = [(0, [5])] ∧
      ∃ s' response list w,
        bsmpProcessPacket byteSum watched (request CommandCode.groupWrite.toByte [0, 5, 200]) (fun _ => 0) =
          .ok (s', response) ∧
        response.data = [CommandCode.errInvalidValue.toByte, 0, 0] ∧
        s'.trace = watched.trace ++ [.hook .write list w] ∧ list.Lists [0, 1] := by
  refine ⟨watched_reachable, rfl, fun _ _ _ => rfl, rfl, _, _, _, _, rfl, rfl, rfl, by decide, ?_⟩
  intro i hi
  have hi' : i = 0 ∨ i = 1 ∨ i = 2 := by
    have hle : i.val ≤ 2 := hi
    simp only [Fin.ext_iff]
    change i.val = 0 ∨ i.val = 1 ∨ i.val = 2
    omega
  rcases hi' with rfl | rfl | rfl <;> rfl

theorem bsmpProcessPacket_hooked_watched :
    ∃ s' a calls,
      bsmpProcessPacket byteSum watched (request CommandCode.groupWrite.toByte [0, 5, 6]) (fun _ => 0) =
        .ok (s', a.toPacket) ∧
      s'.trace = watched.trace ++ calls ∧
      HookTrace lookOn watched (request CommandCode.groupWrite.toByte [0, 5, 6]).message s' a
        (hookCalls calls) :=
  bsmpProcessPacket_hooked watched_reachable rfl (fun _ _ _ => rfl) _ _

end UdcFirmware.Bsmp
