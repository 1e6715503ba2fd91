/-
Under the representation invariant no access of a handler misses: ids lead
to registered objects, groups exist, the payload is as long as announced,
and the hook's list has room. So each checked access and each loop of
`Server` comes down to a plain function: `Var.bytes` for what a variable
holds, `writeMembers` and `binOpMembers` for what the group loops store.
-/
import UdcFirmware.Bsmp.Instance

namespace UdcFirmware.Bsmp

open ByteMem Checked

variable {σ : Type} {s s' : System σ} {m : Message}

/-! ## Variables -/

/-- Where a variable's data lie. -/
def Var.region (v : Var σ) : Region := v.info.region (v.data.getD 0)

/-- What a variable holds. -/
def Var.bytes (v : Var σ) (m : Mem UInt8) : List UInt8 := ByteMem.load m v.region

@[simp] theorem Var.region_size (v : Var σ) : v.region.size = v.info.size.toNat := rfl

@[simp] theorem Var.bytes_length (v : Var σ) (m : Mem UInt8) : (v.bytes m).length = v.info.size.toNat := by
  simp [Var.bytes]

/-- Memory with a variable's data replaced. -/
def Var.put (v : Var σ) (m : Mem UInt8) (value : List UInt8) : Mem UInt8 :=
  ByteMem.store m v.region.base value

theorem Var.bytes_put (v : Var σ) (m : Mem UInt8) {value : List UInt8}
    (h : value.length = v.info.size.toNat) : v.bytes (v.put m value) = value := by
  have : v.region = ⟨v.region.base, value.length⟩ := by rw [h]; rfl
  rw [Var.bytes, this]
  exact load_store m _ value

theorem RepInv.load (h : RepInv s) {p : Ptr} (hp : p ∈ s.server.vars) (m : Mem UInt8) :
    (s.objs.var p).load m = .ok ((s.objs.var p).bytes m) := by
  obtain ⟨a, ha⟩ := h.data hp
  simp only [Var.load, Var.bytes, Var.region, ha, deref_some, ok_bind, Option.getD_some]
  rfl

theorem RepInv.store (h : RepInv s) {p : Ptr} (hp : p ∈ s.server.vars) (m : Mem UInt8) (value : List UInt8) :
    (s.objs.var p).store m value = .ok ((s.objs.var p).put m value) := by
  obtain ⟨a, ha⟩ := h.data hp
  simp only [Var.store, Var.put, Var.region, VarInfo.region, ha, deref_some, ok_bind, Option.getD_some]
  rfl

/-- What a binary operation leaves in a variable's data. -/
def Var.combine (v : Var σ) (op : UInt8 → UInt8 → UInt8) (m : Mem UInt8) (mask : List UInt8) : List UInt8 :=
  List.zipWith op (v.bytes m) mask

theorem Var.combine_length (v : Var σ) (op : UInt8 → UInt8 → UInt8) (m : Mem UInt8) {mask : List UInt8}
    (h : mask.length = v.info.size.toNat) : (v.combine op m mask).length = v.info.size.toNat := by
  simp [Var.combine, h]

theorem RepInv.applyBinOp (h : RepInv s) {p : Ptr} (hp : p ∈ s.server.vars) (op : UInt8 → UInt8 → UInt8)
    (m : Mem UInt8) (mask : List UInt8) :
    (s.objs.var p).applyBinOp op m mask =
      .ok ((s.objs.var p).put m ((s.objs.var p).combine op m mask)) := by
  simp only [Var.applyBinOp, h.load hp, ok_bind, h.store hp]
  rfl

/-! ## Lists -/

theorem varAt_ok {i : Nat} {p : Ptr} (h : s.server.vars[i]? = some p) : s.varAt i = .ok p :=
  index_ok_iff.mpr h

theorem curveAt_ok {i : Nat} {p : Ptr} (h : s.server.curves[i]? = some p) : s.curveAt i = .ok p :=
  index_ok_iff.mpr h

theorem funcAt_ok {i : Nat} {p : Ptr} (h : s.server.funcs[i]? = some p) : s.funcAt i = .ok p :=
  index_ok_iff.mpr h

/-- The member of a group resolves to itself. -/
theorem RepInv.member (h : RepInv s) {p : Ptr} (hp : p ∈ s.server.vars) : s.member p = .ok p :=
  varAt_ok (h.vars.getElem?_id hp)

/-- An existing group, by its id. -/
theorem RepInv.groupAt (h : RepInv s) {i : Nat} (hi : i < s.server.groups.count) :
    ∃ g, s.server.groups.at i = .ok g ∧ GroupOk s.server.vars (fun p => (s.objs.var p).info) i g := by
  have hi' : i < bsmpMaxGroups := Nat.lt_of_lt_of_le hi h.room
  exact ⟨s.server.groups.list ⟨i, hi'⟩, by simp only [GroupList.at, hi', dite_true], h.group ⟨i, hi'⟩ hi⟩

/-! ## Payloads -/

/-- The payload is as long as the message says. -/
def Message.Whole (m : Message) : Prop := m.payload.length = m.payloadSize.toNat

theorem Message.byte_ok {i : Nat} {b : UInt8} (h : m.payload[i]? = some b) : m.byte i = .ok b :=
  index_ok_iff.mpr h

theorem Message.slice_ok {i n : Nat} (h : i + n ≤ m.payload.length) :
    m.slice i n = .ok ((m.payload.drop i).take n) := if_pos h

/-- The bytes after the first ones of a payload. -/
theorem Message.slice_rest {n : Nat} {value : List UInt8} (head : List UInt8)
    (hpay : m.payload = head ++ value)
    (hlen : value.length = n) : m.slice head.length n = .ok value := by
  rw [Message.slice_ok (by rw [hpay, List.length_append, hlen]), hpay, List.drop_left, ← hlen,
    List.take_length]

/-- In a whole message they are as many as its size leaves. -/
theorem Message.Whole.rest (hm : m.Whole) {n : Nat} {value : List UInt8} (head : List UInt8)
    (hpay : m.payload = head ++ value) (hsize : m.payloadSize.toNat = head.length + n) :
    value.length = n ∧ m.slice head.length n = .ok value := by
  have hlen : value.length = n := by
    rw [Message.Whole, hpay, List.length_append] at hm
    omega
  exact ⟨hlen, Message.slice_rest head hpay hlen⟩

theorem exists_cons₂ {l : List UInt8} (h : 2 ≤ l.length) : ∃ a b t, l = a :: b :: t := by
  obtain ⟨a, t, rfl⟩ := List.exists_cons_of_length_pos (by omega : 0 < l.length)
  obtain ⟨b, t, rfl⟩ := List.exists_cons_of_length_pos (l := t) (by simp at h; omega)
  exact ⟨a, b, t, rfl⟩

theorem exists_cons₃ {l : List UInt8} (h : 3 ≤ l.length) : ∃ a b c t, l = a :: b :: c :: t := by
  obtain ⟨a, b, t, rfl⟩ := exists_cons₂ (by omega : 2 ≤ l.length)
  obtain ⟨c, t, rfl⟩ := List.exists_cons_of_length_pos (l := t) (by simp at h; omega)
  exact ⟨a, b, c, t, rfl⟩

/-! ## What a handler leaves alone -/

/-- The same instance and the same structures: only the world, the list
handed to the hook and the trace may differ. -/
structure SameInstance (s s' : System σ) : Prop where
  vars : s'.server.vars = s.server.vars
  groups : s'.server.groups = s.server.groups
  curves : s'.server.curves = s.server.curves
  funcs : s'.server.funcs = s.server.funcs
  hook : s'.server.hook = s.server.hook
  customMd5 : s'.server.customMd5 = s.server.customMd5
  objs : s'.objs = s.objs

theorem SameInstance.refl (s : System σ) : SameInstance s s := ⟨rfl, rfl, rfl, rfl, rfl, rfl, rfl⟩

theorem SameInstance.trans {s₁ s₂ s₃ : System σ} (h : SameInstance s₁ s₂) (h' : SameInstance s₂ s₃) :
    SameInstance s₁ s₃ :=
  ⟨h'.vars.trans h.vars, h'.groups.trans h.groups, h'.curves.trans h.curves, h'.funcs.trans h.funcs,
    h'.hook.trans h.hook, h'.customMd5.trans h.customMd5, h'.objs.trans h.objs⟩

theorem SameInstance.symm (h : SameInstance s s') : SameInstance s' s :=
  ⟨h.vars.symm, h.groups.symm, h.curves.symm, h.funcs.symm, h.hook.symm, h.customMd5.symm, h.objs.symm⟩

theorem SameInstance.world (s : System σ) (w : World σ) : SameInstance s { s with world := w } :=
  ⟨rfl, rfl, rfl, rfl, rfl, rfl, rfl⟩

theorem SameInstance.worldTrace (s : System σ) (w : World σ) (t : List (Call σ)) :
    SameInstance s { s with world := w, trace := t } := ⟨rfl, rfl, rfl, rfl, rfl, rfl, rfl⟩

theorem RepInv.same (h : RepInv s) (hs : SameInstance s s') : RepInv s' :=
  h.congr hs.vars hs.groups hs.curves hs.funcs hs.objs

/-! ## The hook -/

theorem ModifiedList.write_ok (entries : List (Option Ptr)) (list : ModifiedList) (i : Nat)
    (h : i + entries.length ≤ bsmpMaxVariables + 1) : ∃ list', write list i entries = .ok list' := by
  induction entries generalizing list i with
  | nil => exact ⟨list, rfl⟩
  | cons e entries ih =>
    rw [List.length_cons] at h
    have hi : i < bsmpMaxVariables + 1 := by omega
    obtain ⟨list', hw⟩ := ih (Function.update list ⟨i, hi⟩ e) (i + 1) (by omega)
    exact ⟨list', by simp only [write, hi, dite_true, hw]⟩

/-- Without a hook nothing happens; with one, it is called on the list. -/
theorem callHook_cases {op : BsmpOperation} {entries : List (Option Ptr)}
    (h : s.callHook op entries = .ok s') :
    (s.server.hook = none ∧ s' = s) ∨
    (∃ hook list, s.server.hook = some hook ∧
      ModifiedList.write s.server.modifiedList 0 entries = .ok list ∧
      s' = { s with
        server.modifiedList := (hook op list s.world).2.1
        world := (hook op list s.world).2.2
        trace := s.trace ++ [.hook op list s.world] }) := by
  unfold System.callHook at h
  split at h
  · next hn => exact .inl ⟨hn, by cases h; rfl⟩
  · next hook hn =>
    obtain ⟨list, hw, hr⟩ := bind_ok_iff.mp h
    exact .inr ⟨hook, list, hn, hw, by cases hr; rfl⟩

theorem callHook_same {op : BsmpOperation} {entries : List (Option Ptr)}
    (h : s.callHook op entries = .ok s') : SameInstance s s' := by
  rcases callHook_cases h with ⟨-, rfl⟩ | ⟨hook, list, -, -, rfl⟩
  · exact .refl s'
  · exact ⟨rfl, rfl, rfl, rfl, rfl, rfl, rfl⟩

theorem callHook_ok (entries : List (Option Ptr)) (h : entries.length ≤ bsmpMaxVariables + 1) (s : System σ)
    (op : BsmpOperation) : ∃ s', s.callHook op entries = .ok s' := by
  unfold System.callHook
  split
  · exact ⟨s, rfl⟩
  · next hook _ =>
    obtain ⟨list, hw⟩ := ModifiedList.write_ok entries s.server.modifiedList 0 (by simpa using h)
    exact ⟨_, bind_ok_iff.mpr ⟨list, hw, rfl⟩⟩

/-- For a group, the hook is given its variables. -/
theorem RepInv.callGroupHook (h : RepInv s) {g : Group} (hg : ∀ q ∈ g.vars, q ∈ s.server.vars)
    (op : BsmpOperation) : s.callGroupHook op g = s.callHook op (g.vars.map some ++ [none]) := by
  unfold System.callGroupHook
  split
  · next hn => simp only [System.callHook, hn]
  · have hm : g.vars.mapM s.member = .ok (g.vars.map id) := mapM_ok fun q hq => h.member (hg q hq)
    rw [hm, List.map_id]
    rfl

theorem GroupOk.members_mem {vars : List Ptr} {info : Ptr → VarInfo} {i : Nat} {g : Group}
    (h : GroupOk vars info i g) : ∀ q ∈ g.vars, q ∈ vars := fun _ hq => h.members.subset hq

/-- A group's list fits the hook's array. -/
theorem RepInv.modified_fits (h : RepInv s) {g : Group} {i : Nat}
    (hg : GroupOk s.server.vars (fun p => (s.objs.var p).info) i g) :
    (g.vars.map some ++ [none]).length ≤ bsmpMaxVariables + 1 := by
  have h₁ := hg.members.length_le
  have h₂ := h.vars.count
  simp only [List.length_append, List.length_map, List.length_cons, List.length_nil]
  omega

/-! ## The loops over a group -/

/-- The sizes of a group's variables, added up. -/
def sizeSum (objs : Objects σ) (qs : List Ptr) : Nat := (qs.map fun q => (objs.var q).info.size.toNat).sum

@[simp] theorem sizeSum_nil (objs : Objects σ) : sizeSum objs [] = 0 := rfl

@[simp] theorem sizeSum_cons (objs : Objects σ) (q : Ptr) (qs : List Ptr) :
    sizeSum objs (q :: qs) = (objs.var q).info.size.toNat + sizeSum objs qs := rfl

/-- What a list of variables holds, one after the other. -/
def valuesOf (objs : Objects σ) (m : Mem UInt8) (qs : List Ptr) : List UInt8 :=
  qs.flatMap fun q => (objs.var q).bytes m

@[simp] theorem valuesOf_nil (objs : Objects σ) (m : Mem UInt8) : valuesOf objs m [] = [] := rfl

@[simp] theorem valuesOf_cons (objs : Objects σ) (m : Mem UInt8) (q : Ptr) (qs : List Ptr) :
    valuesOf objs m (q :: qs) = (objs.var q).bytes m ++ valuesOf objs m qs := rfl

theorem valuesOf_length (objs : Objects σ) (m : Mem UInt8) (qs : List Ptr) :
    (valuesOf objs m qs).length = sizeSum objs qs := by
  induction qs with
  | nil => rfl
  | cons q qs ih => simp [ih]

/-- Store each variable's slice of `values`, unless its checker rejects it. -/
def writeMembers (objs : Objects σ) : List Ptr → List UInt8 → World σ → Bool → World σ × Bool
  | [], _, w, failed => (w, failed)
  | q :: qs, values, w, failed =>
    let var := objs.var q
    let value := values.take var.info.size.toNat
    let rest := values.drop var.info.size.toNat
    if var.accepts w value then writeMembers objs qs rest { w with mem := var.put w.mem value } failed
    else writeMembers objs qs rest w true

/-- Combine each variable's data with its slice of `masks`. -/
def binOpMembers (objs : Objects σ) (op : UInt8 → UInt8 → UInt8) :
    List Ptr → List UInt8 → Mem UInt8 → Mem UInt8
  | [], _, m => m
  | q :: qs, masks, m =>
    let var := objs.var q
    let mask := masks.take var.info.size.toNat
    binOpMembers objs op qs (masks.drop var.info.size.toNat) (var.put m (var.combine op m mask))

theorem RepInv.groupReadLoop (h : RepInv s) (qs : List Ptr) (hq : ∀ q ∈ qs, q ∈ s.server.vars) :
    groupReadLoop s qs = .ok (valuesOf s.objs s.world.mem qs) := by
  induction qs with
  | nil => rfl
  | cons q qs ih =>
    have hq₁ := hq q (by simp)
    have hrest := ih fun q' hq' => hq q' (List.mem_cons_of_mem q hq')
    simp only [Bsmp.groupReadLoop, h.member hq₁, h.load hq₁, ok_bind, hrest]
    rfl

theorem RepInv.groupWriteLoop (h : RepInv s) (qs : List Ptr) (hq : ∀ q ∈ qs, q ∈ s.server.vars) {i : Nat}
    (hlen : i + sizeSum s.objs qs ≤ m.payload.length) (w : World σ) (failed : Bool) :
    groupWriteLoop s m qs i w failed = .ok (writeMembers s.objs qs (m.payload.drop i) w failed) := by
  induction qs generalizing i w failed with
  | nil => rfl
  | cons q qs ih =>
    have hq₁ := hq q (by simp)
    have hqs : ∀ q' ∈ qs, q' ∈ s.server.vars := fun q' hq' => hq q' (List.mem_cons_of_mem q hq')
    rw [sizeSum_cons] at hlen
    have hslice := Message.slice_ok (m := m) (i := i) (n := (s.objs.var q).info.size.toNat) (by omega)
    simp only [Bsmp.groupWriteLoop, writeMembers, h.member hq₁, ok_bind, hslice, List.drop_drop]
    cases (s.objs.var q).accepts w ((m.payload.drop i).take (s.objs.var q).info.size.toNat)
    · exact ih hqs (by omega) _ _
    · simp only [Bool.not_true, Bool.false_eq_true, if_false, if_true, h.store hq₁, ok_bind]
      exact ih hqs (by omega) _ _

theorem RepInv.groupBinOpLoop (h : RepInv s) (op : UInt8 → UInt8 → UInt8) (qs : List Ptr)
    (hq : ∀ q ∈ qs, q ∈ s.server.vars) {i : Nat} (hlen : i + sizeSum s.objs qs ≤ m.payload.length)
    (mem : Mem UInt8) :
    groupBinOpLoop s m op qs i mem = .ok (binOpMembers s.objs op qs (m.payload.drop i) mem) := by
  induction qs generalizing i mem with
  | nil => rfl
  | cons q qs ih =>
    have hq₁ := hq q (by simp)
    have hqs : ∀ q' ∈ qs, q' ∈ s.server.vars := fun q' hq' => hq q' (List.mem_cons_of_mem q hq')
    rw [sizeSum_cons] at hlen
    have hslice := Message.slice_ok (m := m) (i := i) (n := (s.objs.var q).info.size.toNat) (by omega)
    simp only [Bsmp.groupBinOpLoop, binOpMembers, h.member hq₁, ok_bind, hslice, h.applyBinOp hq₁,
      List.drop_drop]
    exact ih hqs (by omega) _

end UdcFirmware.Bsmp
