/-
The lists of registered objects, and the server's groups, as `server.c` and
`server_priv.c` keep them.

`Registered` is what `SERVER_REGISTER` establishes for any of the three
lists: an object's id is its index, so no object occurs twice
(`Registered.nodup`) and an id leads back to its object
(`Registered.getElem?_id`). `GroupOk` is the same for one group: its
variables are registered ones in the order of their ids, and the cached size
and flag are the sum and the conjunction over them. `RepInv` puts both
together for the whole instance.
-/
import UdcFirmware.Bsmp.Server
import Mathlib.Algebra.Order.BigOperators.Group.List
import Mathlib.Algebra.Order.Group.Nat
import Mathlib.Data.List.Nodup

namespace UdcFirmware.Bsmp

open ByteMem Checked

/-! ## Registered objects -/

section Registered

variable {α : Type} {check : Option α → BsmpErr} {getId : α → UInt8} {setId : α → UInt8 → α}
  {max : Nat} {list : List Ptr} {objs : Ptr → α}

/-- The list `SERVER_REGISTER` builds: as many objects as allowed, each with
its own index as its id, each passing its check. -/
structure Registered (check : Option α → BsmpErr) (getId : α → UInt8) (max : Nat) (list : List Ptr)
    (objs : Ptr → α) : Prop where
  count : list.length ≤ max
  ids : ∀ i (h : i < list.length), (getId (objs list[i])).toNat = i
  checked : ∀ p ∈ list, check (some (objs p)) = .success

theorem Registered.nil : Registered check getId max [] objs := ⟨by simp, by simp, by simp⟩

/-- An id leads back to its object. -/
theorem Registered.getElem?_id (h : Registered check getId max list objs) {p : Ptr} (hp : p ∈ list) :
    list[(getId (objs p)).toNat]? = some p := by
  obtain ⟨i, hi, rfl⟩ := List.getElem_of_mem hp
  rw [h.ids i hi, List.getElem?_eq_getElem hi]

theorem Registered.id_lt (h : Registered check getId max list objs) {p : Ptr} (hp : p ∈ list) :
    (getId (objs p)).toNat < list.length :=
  (List.getElem?_eq_some_iff.mp (h.getElem?_id hp)).1

/-- No object is in the list twice. -/
theorem Registered.nodup (h : Registered check getId max list objs) : list.Nodup := by
  refine List.nodup_iff_getElem?_ne_getElem?.mpr fun i j hij hj he => ?_
  rw [List.getElem?_eq_getElem (by omega), List.getElem?_eq_getElem hj, Option.some.injEq] at he
  have hi := h.ids i (by omega)
  rw [he, h.ids j hj] at hi
  omega

/-- Only ids and checks of the listed objects matter. -/
theorem Registered.congr (h : Registered check getId max list objs) {objs' : Ptr → α}
    (hid : ∀ p ∈ list, getId (objs' p) = getId (objs p))
    (hcheck : ∀ p ∈ list, check (some (objs' p)) = .success) : Registered check getId max list objs' :=
  ⟨h.count, fun i hi => by rw [hid _ (List.getElem_mem hi)]; exact h.ids i hi, hcheck⟩

/-- `SERVER_REGISTER` either changes nothing or adds one new object at the end. -/
theorem serverRegister_cases (check : Option α → BsmpErr) (max : Nat) (setId : α → UInt8 → α)
    (list : List Ptr) (objs : Ptr → α) (elem : Option Ptr) (hnull : check none ≠ .success) :
    (∃ err, err ≠ .success ∧ serverRegister check max setId list objs elem = (err, list, objs)) ∨
    (∃ p, elem = some p ∧ p ∉ list ∧ list.length < max ∧ check (some (objs p)) = .success ∧
      serverRegister check max setId list objs elem =
        (.success, list ++ [p], Function.update objs p (setId (objs p) (UInt8.ofNat list.length)))) := by
  cases elem with
  | none => exact .inl ⟨_, hnull, rfl⟩
  | some p =>
    simp only [serverRegister]
    split
    · next hc => exact .inl ⟨_, hc, rfl⟩
    split
    · exact .inl ⟨_, by decide, rfl⟩
    split
    · exact .inl ⟨_, by decide, rfl⟩
    next hc hlen hdup =>
      exact .inr ⟨p, rfl, hdup, by omega, by simpa using hc, rfl⟩

/-- An object added at the end gets the next index as its id. -/
theorem Registered.concat (h : Registered check getId max list objs) (setId : α → UInt8 → α)
    (hmax : max ≤ 256) (hget : ∀ a i, getId (setId a i) = i)
    (hset : ∀ a i, check (some a) = .success → check (some (setId a i)) = .success)
    {p : Ptr} (hp : p ∉ list) (hlen : list.length < max) (hc : check (some (objs p)) = .success) :
    Registered check getId max (list ++ [p])
      (Function.update objs p (setId (objs p) (UInt8.ofNat list.length))) where
  count := by rw [List.length_append]; exact hlen
  ids := by
    intro i hi
    rcases Nat.lt_or_ge i list.length with hlt | hge
    · have hne : list[i] ≠ p := fun he => hp (he ▸ List.getElem_mem hlt)
      rw [List.getElem_append_left hlt, Function.update_of_ne hne]
      exact h.ids i hlt
    · have hi' : i = list.length := by simp at hi; omega
      subst hi'
      simp only [List.getElem_concat_length, Function.update_self, hget]
      exact UInt8.toNat_ofNat_of_lt (by simp only [UInt8.size]; omega)
  checked := by
    intro q hq
    by_cases hqp : q = p
    · subst hqp
      rw [Function.update_self]
      exact hset _ _ hc
    · rw [Function.update_of_ne hqp]
      exact h.checked q (by simpa [hqp] using hq)

/-- Structures the application rewrites, `keep` carrying over the part of a
registered one that it must leave alone. A registered structure that would
no longer pass its check is left as it was. -/
def refill (check : Option α → BsmpErr) (keep : α → α → α) (list : List Ptr) (old new : Ptr → α) :
    Ptr → α := fun p =>
  if p ∈ list then
    if check (some (keep (old p) (new p))) = .success then keep (old p) (new p) else old p
  else new p

theorem refill_of_mem (check : Option α → BsmpErr) (keep : α → α → α) {list : List Ptr} (objs new : Ptr → α)
    {p : Ptr} (hp : p ∈ list) :
    refill check keep list objs new p = keep (objs p) (new p) ∧
        check (some (keep (objs p) (new p))) = .success ∨
      refill check keep list objs new p = objs p := by
  simp only [refill, hp, if_true]
  split
  · next hc => exact .inl ⟨rfl, hc⟩
  · exact .inr rfl

theorem Registered.refill (h : Registered check getId max list objs) (keep : α → α → α)
    (hkeep : ∀ a b, getId (keep a b) = getId a) (new : Ptr → α) :
    Registered check getId max list (refill check keep list objs new) := by
  refine h.congr (fun p hp => ?_) fun p hp => ?_
  · rcases refill_of_mem check keep objs new hp with ⟨he, -⟩ | he
    · rw [he, hkeep]
    · rw [he]
  · rcases refill_of_mem check keep objs new hp with ⟨he, hc⟩ | he
    · rw [he]; exact hc
    · rw [he]; exact h.checked p hp

end Registered

/-! ## Groups -/

section Groups

variable {σ : Type} {vars : List Ptr} {info : Ptr → VarInfo} {g : Group}

/-- The cached size and flag of a group are those of its variables. -/
structure GroupSums (info : Ptr → VarInfo) (g : Group) : Prop where
  size : g.size.toNat = (g.vars.map fun p => (info p).size.toNat).sum
  writable : g.writable = g.vars.all fun p => (info p).writable

/-- Group `i` of a server with these variables. -/
structure GroupOk (vars : List Ptr) (info : Ptr → VarInfo) (i : Nat) (g : Group) : Prop where
  id : g.id.toNat = i
  members : g.vars.Sublist vars
  sums : GroupSums info g

theorem GroupSums.init (id : UInt8) : GroupSums info (groupInit id) := ⟨rfl, rfl⟩

theorem GroupSums.congr {info' : Ptr → VarInfo} (h : GroupSums info g)
    (heq : ∀ p ∈ g.vars, info' p = info p) : GroupSums info' g where
  size := by
    rw [h.size]
    exact congrArg List.sum (List.map_congr_left fun p hp => by rw [heq p hp])
  writable := by
    rw [h.writable, Bool.eq_iff_iff, List.all_eq_true, List.all_eq_true]
    exact ⟨fun ha p hp => by rw [heq p hp]; exact ha p hp, fun ha p hp => by rw [← heq p hp]; exact ha p hp⟩

theorem GroupOk.congr {i : Nat} {info' : Ptr → VarInfo} (h : GroupOk vars info i g)
    (heq : ∀ p ∈ vars, info' p = info p) : GroupOk vars info' i g :=
  ⟨h.id, h.members, h.sums.congr fun p hp => heq p (h.members.subset hp)⟩

/-- A new variable at the end of the server's list concerns no group yet. -/
theorem GroupOk.concat {i : Nat} (h : GroupOk vars info i g) (p : Ptr) : GroupOk (vars ++ [p]) info i g :=
  ⟨h.id, h.members.trans (List.sublist_append_left _ _), h.sums⟩

/-- 128 variables of 128 bytes make no more than 16384 bytes. -/
theorem sum_size_le (info : Ptr → VarInfo) {vars : List Ptr}
    (hsize : ∀ p ∈ vars, (info p).size.toNat ≤ bsmpVarMaxSize) :
    (vars.map fun p => (info p).size.toNat).sum ≤ vars.length * bsmpVarMaxSize := by
  have h := List.sum_le_card_nsmul (vars.map fun p => (info p).size.toNat) bsmpVarMaxSize
    (by simpa using hsize)
  simpa using h

/-- `group_add_var` on a group with room: one more variable, its sums kept,
and the 16-bit size does not wrap around. -/
theorem groupAddVar_ok {objs : Objects σ} {p : Ptr} (h : GroupSums (fun q => (objs.var q).info) g)
    (hlen : g.vars.length < bsmpMaxVariables)
    (hsize : ∀ q ∈ g.vars ++ [p], (objs.var q).info.size.toNat ≤ bsmpVarMaxSize) :
    ∃ g', groupAddVar objs g p = .ok g' ∧ g'.id = g.id ∧ g'.vars = g.vars ++ [p] ∧
      GroupSums (fun q => (objs.var q).info) g' := by
  refine ⟨_, if_pos hlen, rfl, rfl, ?_, ?_⟩
  · have hsum := sum_size_le (fun q => (objs.var q).info) hsize
    simp only [List.map_append, List.map_cons, List.map_nil, List.sum_append, List.sum_cons, List.sum_nil,
      List.length_append, List.length_cons, List.length_nil] at hsum ⊢
    rw [UInt16.toNat_add, UInt8.toNat_toUInt16, h.size,
      Nat.mod_eq_of_lt (by simp only [bsmpMaxVariables, bsmpVarMaxSize] at *; omega)]
    simp
  · simp [h.writable]

end Groups

/-! ## The instance -/

variable {σ : Type} {s : System σ}

/-- The representation invariant of the server. -/
structure RepInv (s : System σ) : Prop where
  vars : Registered varCheck (fun v => v.info.id) bsmpMaxVariables s.server.vars s.objs.var
  curves : Registered curveCheck (fun c => c.info.id) bsmpMaxCurves s.server.curves s.objs.curve
  funcs : Registered funcCheck (fun f => f.info.id) bsmpMaxFunctions s.server.funcs s.objs.func
  standard : groupStandardCount ≤ s.server.groups.count
  room : s.server.groups.count ≤ bsmpMaxGroups
  group : ∀ i : Fin bsmpMaxGroups, i.val < s.server.groups.count →
    GroupOk s.server.vars (fun p => (s.objs.var p).info) i.val (s.server.groups.list i)
  all : (s.server.groups.list 0).vars = s.server.vars
  read : (s.server.groups.list 1).vars = s.server.vars.filter fun p => !(s.objs.var p).info.writable
  write : (s.server.groups.list 2).vars = s.server.vars.filter fun p => (s.objs.var p).info.writable

/-- What `var_check` let through. -/
theorem varCheck_success {v : Var σ} (h : varCheck (some v) = .success) :
    v.info.size.toNat ≤ bsmpVarMaxSize ∧ ∃ a, v.data = some a := by
  simp only [varCheck] at h
  split at h
  · cases h
  split at h
  · cases h
  next hs hd =>
    exact ⟨by omega, Option.ne_none_iff_exists'.mp (by simpa using hd)⟩

theorem RepInv.size_le (h : RepInv s) {p : Ptr} (hp : p ∈ s.server.vars) :
    (s.objs.var p).info.size.toNat ≤ bsmpVarMaxSize :=
  (varCheck_success (h.vars.checked p hp)).1

theorem RepInv.data (h : RepInv s) {p : Ptr} (hp : p ∈ s.server.vars) :
    ∃ a, (s.objs.var p).data = some a :=
  (varCheck_success (h.vars.checked p hp)).2

/-- The invariant reads the lists, the groups and the structures only. -/
theorem RepInv.congr {s' : System σ} (h : RepInv s) (hv : s'.server.vars = s.server.vars)
    (hg : s'.server.groups = s.server.groups) (hc : s'.server.curves = s.server.curves)
    (hf : s'.server.funcs = s.server.funcs) (ho : s'.objs = s.objs) : RepInv s' := by
  obtain ⟨h1, h2, h3, h4, h5, h6, h7, h8, h9⟩ := h
  constructor <;> simp only [hv, hg, hc, hf, ho] <;> assumption

theorem repInv_init (objs : Objects σ) (world : World σ) : RepInv (bsmpServerInit objs world) where
  vars := .nil
  curves := .nil
  funcs := .nil
  standard := Nat.le_refl _
  room := show groupStandardCount ≤ bsmpMaxGroups by decide
  group := by
    intro i hi
    have hi' : i.val < groupStandardCount := hi
    simp only [bsmpServerInit, hi', if_true]
    exact ⟨UInt8.toNat_ofNat_of_lt (Nat.lt_trans hi' (by decide)), List.Sublist.refl _, GroupSums.init _⟩
  all := rfl
  read := rfl
  write := rfl

end UdcFirmware.Bsmp
