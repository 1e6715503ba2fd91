/-
The life of an instance: after `bsmp_server_init`, any order of
registrations, requests, and changes the application makes on its own side.

`step` is one such event and `life` a sequence of them. Here: registrations
never stop and keep `RepInv`; so do the application's own changes, which
leave the info of a registered structure alone. Requests are the subject of
`Requests`.
-/
import UdcFirmware.Lib.Runs
import UdcFirmware.Bsmp.Registry

namespace UdcFirmware.Bsmp

open ByteMem Checked

variable {σ : Type}

/-- What can happen to an instance. -/
inductive Event (σ : Type)
  | registerVariable (var : Option Ptr)
  | registerCurve (curve : Option Ptr)
  | registerFunction (func : Option Ptr)
  | registerHook (hook : Option (Hook σ))
  | registerMd5 (md5 : Option (CustomMd5 σ))
  | processPacket (req : Request) (area : Nat → UInt8)
  /-- The application writes its memory and its structures. -/
  | application (objs : Objects σ) (world : World σ)

def Var.keepInfo (old new : Var σ) : Var σ := { new with info := old.info }
def Curve.keepInfo (old new : Curve σ) : Curve σ := { new with info := old.info }
def Func.keepInfo (old new : Func σ) : Func σ := { new with info := old.info }

/-- The application's structures after it rewrote them: the info of a
registered one is not its to modify. -/
def System.rewrite (s : System σ) (objs : Objects σ) : Objects σ where
  var := refill varCheck Var.keepInfo s.server.vars s.objs.var objs.var
  curve := refill curveCheck Curve.keepInfo s.server.curves s.objs.curve objs.curve
  func := refill funcCheck Func.keepInfo s.server.funcs s.objs.func objs.func

def step (md5 : Md5) (s : System σ) : Event σ → Except Fault (System σ)
  | .registerVariable var => do
    let (_, s) ← bsmpRegisterVariable s var
    return s
  | .registerCurve curve => .ok (bsmpRegisterCurve s curve).2
  | .registerFunction func => .ok (bsmpRegisterFunction s func).2
  | .registerHook hook => .ok (bsmpRegisterHook s hook).2
  | .registerMd5 customMd5 => .ok (bsmpRegisterMd5 s customMd5).2
  | .processPacket req area => do
    let (s, _) ← bsmpProcessPacket md5 s req area
    return s
  | .application objs world => .ok { s with objs := s.rewrite objs, world }

/-- The instance after a sequence of events, from `bsmp_server_init` on. -/
def life (md5 : Md5) (objs : Objects σ) (world : World σ) (evs : List (Event σ)) : Except Fault (System σ) :=
  Runs.run (step md5) (bsmpServerInit objs world) evs

/-- A state some life of an instance reaches. -/
def Reachable (md5 : Md5) (s : System σ) : Prop := ∃ objs world evs, life md5 objs world evs = .ok s

/-- Requests, each with the response buffer it finds. -/
abbrev Requests := List (Request × (Nat → UInt8))

/-- The state after a list of requests. -/
def serve (md5 : Md5) (s : System σ) (reqs : Requests) : Except Fault (System σ) :=
  Runs.run (step md5) s (reqs.map fun r => .processPacket r.1 r.2)

/-- The state at the end of a life. -/
def after (md5 : Md5) (objs : Objects σ) (world : World σ) (evs : List (Event σ)) : System σ :=
  match life md5 objs world evs with
  | .ok s => s
  | .error _ => bsmpServerInit objs world

/-! ## Small applications -/

/-- Structures at the pointers 0, 1, 2 and so on. -/
def Objects.ofLists (vars : List (Var σ)) (curves : List (Curve σ)) (funcs : List (Func σ)) : Objects σ where
  var p := vars.getD p { info := ⟨0, false, 0⟩, valueOk := none, data := none }
  curve p := curves.getD p
    { info := ⟨0, false, 0, 0, Vector.replicate _ 0⟩, readBlock := none, writeBlock := none }
  func p := funcs.getD p { info := ⟨0, 0, 0⟩, funcP := none }

/-- The first structures, registered in order. -/
def registrations (vars curves funcs : Nat) : List (Event σ) :=
  (List.range vars).map (fun p => .registerVariable (some p)) ++
    (List.range curves).map (fun p => .registerCurve (some p)) ++
    (List.range funcs).map fun p => .registerFunction (some p)

/-- A curve whose blocks, and their lengths, are what was last written to them. -/
def blockStore (writable : Bool) (nblocks : UInt32) (blockSize : UInt16) : Curve (UInt16 → List UInt8) where
  info := ⟨0, writable, nblocks, blockSize, Vector.replicate _ 0⟩
  readBlock := some fun block w => (true, (w.app block).take blockSize.toNat, w)
  writeBlock := some fun block data w => (true, { w with app := Function.update w.app block data })

/-- A hash that adds up the bytes. -/
def byteSum : Md5 where
  Ctx := UInt8
  init := 0
  update ctx bs := bs.foldl (· + ·) ctx
  final ctx := Vector.replicate _ ctx

/-- Two bytes to write and one to read, a curve of two blocks, and a function
that doubles its argument. -/
def plant : System (UInt16 → List UInt8) :=
  after byteSum
    (.ofLists
      [{ info := ⟨0, true, 2⟩, valueOk := none, data := some 0 },
        { info := ⟨0, false, 1⟩, valueOk := none, data := some 2 }]
      [blockStore true 2 4]
      [{ info := ⟨0, 1, 1⟩, funcP := some fun input w => (0, (input.map (2 * ·)).take 1, w) }])
    { mem := fun _ => 0, app := fun _ => [] } (registrations 2 1 1)

/-! ## Registrations keep the invariant -/

theorem GroupList.at_val (groups : GroupList) (i : Fin bsmpMaxGroups) :
    groups.at i.val = .ok (groups.list i) := by
  simp [GroupList.at]

theorem GroupList.set_val (groups : GroupList) (i : Fin bsmpMaxGroups) (grp : Group) :
    groups.set i.val grp = .ok { groups with list := Function.update groups.list i grp } := by
  simp [GroupList.set]

variable {s : System σ}

/-- `group_add_var` of a variable that was just put at the end of the list. -/
theorem GroupOk.addVar {objs : Objects σ} {old : List Ptr} {p : Ptr} {i : Nat} {g : Group}
    (h : GroupOk old (fun q => (objs.var q).info) i g) (hlen : old.length < bsmpMaxVariables)
    (hsize : ∀ q ∈ old ++ [p], (objs.var q).info.size.toNat ≤ bsmpVarMaxSize) :
    ∃ g', groupAddVar objs g p = .ok g' ∧ g'.vars = g.vars ++ [p] ∧
      GroupOk (old ++ [p]) (fun q => (objs.var q).info) i g' := by
  have hmem : (g.vars ++ [p]).Sublist (old ++ [p]) := h.members.append (List.Sublist.refl [p])
  obtain ⟨g', hadd, hid, hvars, hsums⟩ := groupAddVar_ok (p := p) h.sums
    (Nat.lt_of_le_of_lt h.members.length_le hlen) fun q hq => hsize q (hmem.subset hq)
  exact ⟨g', hadd, hvars, by rw [hid, h.id], by rw [hvars]; exact hmem, hsums⟩

/-- The group a variable joins besides ALL. -/
theorem exists_besides (writable : Bool) : ∃ i : Fin bsmpMaxGroups,
    (if writable then groupWriteId else groupReadId) = i.val ∧ i ≠ 0 ∧ i.val < groupStandardCount ∧
      (i = 1 ∧ writable = false ∨ i = 2 ∧ writable = true) := by
  cases writable with
  | false => exact ⟨1, rfl, by decide, by decide, .inl ⟨rfl, rfl⟩⟩
  | true => exact ⟨2, rfl, by decide, by decide, .inr ⟨rfl, rfl⟩⟩

/-- The groups follow a variable that was just put at the end of the list. -/
theorem joinGroups_repInv {old : List Ptr} {p : Ptr} (hlist : s.server.vars = old ++ [p])
    (hvars : Registered varCheck (fun v => v.info.id) bsmpMaxVariables s.server.vars s.objs.var)
    (hcurves : Registered curveCheck (fun c => c.info.id) bsmpMaxCurves s.server.curves s.objs.curve)
    (hfuncs : Registered funcCheck (fun f => f.info.id) bsmpMaxFunctions s.server.funcs s.objs.func)
    (hstandard : groupStandardCount ≤ s.server.groups.count) (hroom : s.server.groups.count ≤ bsmpMaxGroups)
    (hgroup : ∀ i : Fin bsmpMaxGroups, i.val < s.server.groups.count →
      GroupOk old (fun q => (s.objs.var q).info) i.val (s.server.groups.list i))
    (hall : (s.server.groups.list 0).vars = old)
    (hread : (s.server.groups.list 1).vars = old.filter fun q => !(s.objs.var q).info.writable)
    (hwrite : (s.server.groups.list 2).vars = old.filter fun q => (s.objs.var q).info.writable) :
    ∃ s', s.joinGroups p = .ok s' ∧ RepInv s' := by
  have hlen : old.length < bsmpMaxVariables := by
    have := hvars.count
    rw [hlist, List.length_append] at this
    exact this
  have hsize : ∀ q ∈ old ++ [p], (s.objs.var q).info.size.toNat ≤ bsmpVarMaxSize := fun q hq =>
    (varCheck_success (hvars.checked q (hlist ▸ hq))).1
  obtain ⟨i, hival, hi0, hi3, hi⟩ := exists_besides (s.objs.var p).info.writable
  obtain ⟨g₀, hadd₀, hvars₀, hok₀⟩ :=
    (hgroup 0 (Nat.lt_of_lt_of_le (by decide) hstandard)).addVar hlen hsize
  obtain ⟨g₁, hadd₁, hvars₁, hok₁⟩ := (hgroup i (Nat.lt_of_lt_of_le hi3 hstandard)).addVar hlen hsize
  let list := Function.update (Function.update s.server.groups.list 0 g₀) i g₁
  have hlist₀ : list 0 = g₀ := by
    simp only [list, Function.update_of_ne (Ne.symm hi0), Function.update_self]
  have hlist₁ : list i = g₁ := Function.update_self ..
  have hlist₂ : ∀ j, j ≠ 0 → j ≠ i → list j = s.server.groups.list j := fun j hj0 hji => by
    simp only [list, Function.update_of_ne hji, Function.update_of_ne hj0]
  refine ⟨{ s with server.groups := { s.server.groups with list := list } }, ?_, ?_⟩
  · have hat : s.server.groups.at groupAllId = .ok (s.server.groups.list 0) := s.server.groups.at_val 0
    have hset : s.server.groups.set groupAllId g₀ = _ := s.server.groups.set_val 0 g₀
    simp only [System.joinGroups, hat, ok_bind, hadd₀, hset, hival, GroupList.at_val, GroupList.set_val,
      Function.update_of_ne hi0, hadd₁]
    rfl
  · refine ⟨hvars, hcurves, hfuncs, hstandard, hroom, fun j hj => ?_, ?_, ?_, ?_⟩
    · show GroupOk s.server.vars _ j.val (list j)
      rw [hlist]
      by_cases hji : j = i
      · subst hji; rw [hlist₁]; exact hok₁
      by_cases hj0 : j = 0
      · subst hj0; rw [hlist₀]; exact hok₀
      rw [hlist₂ j hj0 hji]
      exact (hgroup j hj).concat p
    · show (list 0).vars = s.server.vars
      rw [hlist₀, hvars₀, hall, hlist]
    · show (list 1).vars = s.server.vars.filter _
      rw [hlist, List.filter_append]
      rcases hi with ⟨rfl, hw⟩ | ⟨rfl, hw⟩
      · rw [hlist₁, hvars₁, hread]; simp [hw]
      · rw [hlist₂ 1 (by decide) (by decide), hread]; simp [hw]
    · show (list 2).vars = s.server.vars.filter _
      rw [hlist, List.filter_append]
      rcases hi with ⟨rfl, hw⟩ | ⟨rfl, hw⟩
      · rw [hlist₂ 2 (by decide) (by decide), hwrite]; simp [hw]
      · rw [hlist₁, hvars₁, hwrite]; simp [hw]

theorem registerVariable_repInv (h : RepInv s) (var : Option Ptr) :
    ∃ err s', bsmpRegisterVariable s var = .ok (err, s') ∧ RepInv s' := by
  rcases serverRegister_cases varCheck bsmpMaxVariables Var.setId s.server.vars s.objs.var var
      (by simp [varCheck]) with ⟨err, herr, hreg⟩ | ⟨p, rfl, hnew, hlen, hc, hreg⟩
  · refine ⟨err, s, ?_, h⟩
    simp only [bsmpRegisterVariable, hreg, herr, ne_eq, not_false_eq_true, if_true]
    rfl
  -- The structures once `p` has its id: of the others none has changed.
  let var' := Function.update s.objs.var p ((s.objs.var p).setId (UInt8.ofNat s.server.vars.length))
  have hold : ∀ q ∈ s.server.vars, var' q = s.objs.var q := fun q hq =>
    Function.update_of_ne (ne_of_mem_of_not_mem hq hnew) _ _
  let s₁ : System σ := { s with server.vars := s.server.vars ++ [p], objs.var := var' }
  obtain ⟨s₂, hjoin, hinv⟩ := joinGroups_repInv (s := s₁) (p := p) rfl
    (h.vars.concat Var.setId (by decide) (fun _ _ => rfl) (fun _ _ h => h) hnew hlen hc) h.curves h.funcs
      h.standard h.room
    (fun i hi => (h.group i hi).congr fun q hq => by simp only [s₁, hold q hq]) h.all
    (h.read.trans (List.filter_congr fun q hq => by simp only [s₁, hold q hq]))
    (h.write.trans (List.filter_congr fun q hq => by simp only [s₁, hold q hq]))
  refine ⟨.success, s₂, ?_, hinv⟩
  simp only [bsmpRegisterVariable, hreg, ne_eq, not_true_eq_false, if_false, deref_some, ok_bind]
  exact bind_ok_iff.mpr ⟨s₂, hjoin, rfl⟩

theorem registerCurve_repInv (h : RepInv s) (curve : Option Ptr) : RepInv (bsmpRegisterCurve s curve).2 := by
  rcases serverRegister_cases curveCheck bsmpMaxCurves Curve.setId s.server.curves s.objs.curve curve
      (by simp [curveCheck]) with ⟨err, -, hreg⟩ | ⟨p, -, hnew, hlen, hc, hreg⟩
  · simp only [bsmpRegisterCurve, hreg]
    exact h
  · simp only [bsmpRegisterCurve, hreg]
    exact { h with
      curves := h.curves.concat Curve.setId (by decide) (fun _ _ => rfl) (fun _ _ h => h) hnew hlen hc }

theorem registerFunction_repInv (h : RepInv s) (func : Option Ptr) :
    RepInv (bsmpRegisterFunction s func).2 := by
  rcases serverRegister_cases funcCheck bsmpMaxFunctions Func.setId s.server.funcs s.objs.func func
      (by simp [funcCheck]) with ⟨err, -, hreg⟩ | ⟨p, -, hnew, hlen, hc, hreg⟩
  · simp only [bsmpRegisterFunction, hreg]
    exact h
  · simp only [bsmpRegisterFunction, hreg]
    exact { h with
      funcs := h.funcs.concat Func.setId (by decide) (fun _ _ => rfl) (fun _ _ h => h) hnew hlen hc }

theorem application_repInv (h : RepInv s) (objs : Objects σ) (world : World σ) :
    RepInv { s with objs := s.rewrite objs, world } := by
  have hinfo : ∀ p ∈ s.server.vars, ((s.rewrite objs).var p).info = (s.objs.var p).info := fun p hp => by
    rcases refill_of_mem varCheck Var.keepInfo s.objs.var objs.var hp with ⟨he, -⟩ | he
    · exact (congrArg Var.info he).trans rfl
    · exact congrArg Var.info he
  exact
    { vars := h.vars.refill Var.keepInfo (fun _ _ => rfl) objs.var
      curves := h.curves.refill Curve.keepInfo (fun _ _ => rfl) objs.curve
      funcs := h.funcs.refill Func.keepInfo (fun _ _ => rfl) objs.func
      standard := h.standard
      room := h.room
      group := fun i hi => (h.group i hi).congr hinfo
      all := h.all
      read := h.read.trans (List.filter_congr fun p hp => by simp only [hinfo p hp])
      write := h.write.trans (List.filter_congr fun p hp => by simp only [hinfo p hp]) }

end UdcFirmware.Bsmp
