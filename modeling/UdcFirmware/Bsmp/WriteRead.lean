/-
`CMD_VAR_WRITE_READ` against `CMD_VAR_WRITE` and then `CMD_VAR_READ`.

The handler of the one repeats those of the others, a byte further in the
payload and with the read id checked along with the write id. `writeCheck` are
the checks of `var_write`: `varWrite_eq` and `varWriteRead_eq` say what the two
handlers come to by it.

The hook is called twice on one list. In its second call the handler writes the
first entry only, and finds the null pointer after it where the first call has
left it (`callHook_again`).
-/
import UdcFirmware.Bsmp.Accepted
import UdcFirmware.Bsmp.Hooks

namespace UdcFirmware.Bsmp

open ByteMem Checked

variable {σ : Type} {md5 : Md5} {s s' : System σ}

/-! ## The handlers -/

/-- The checks of `var_write`: an error, or the variable. -/
def writeCheck (s : System σ) (id : UInt8) (data : List UInt8) : Except CommandCode Ptr :=
  if data = [] then .error .errInvalidPayloadSize
  else
    match s.server.vars[id.toNat]? with
    | none => .error .errInvalidId
    | some p =>
      if data.length ≠ (s.objs.var p).info.size.toNat then .error .errInvalidPayloadSize
      else if !(s.objs.var p).info.writable then .error .errReadOnly
      else if !(s.objs.var p).accepts s.world data then .error .errInvalidValue
      else .ok p

/-- The data stored, and the hook called. -/
def System.write (s : System σ) (p : Ptr) (data : List UInt8) : Except Fault (System σ) :=
  System.callHook { s with world.mem := (s.objs.var p).put s.world.mem data } .write [some p, none]

/-- The answer with what a variable holds. -/
def System.varValue (s : System σ) (p : Ptr) : Message :=
  reply .varValue (s.objs.var p).info.size.toUInt16 ((s.objs.var p).bytes s.world.mem)

theorem varWrite_eq (h : RepInv s) {id : UInt8} {data : List UInt8}
    (hfits : data.length + 1 ≤ bsmpMaxPayload) : varWrite s (message .varWrite (id :: data)) =
      match writeCheck s id data with
      | .error code => .ok (s, answer code)
      | .ok p => s.write p data >>= fun s' => .ok (s', answer .ok) := by
  have hm : (message .varWrite (id :: data)).payloadSize.toNat = data.length + 1 :=
    message_size hfits
  have hbyte : (message .varWrite (id :: data)).byte 0 = .ok id := Message.byte_ok rfl
  unfold varWrite writeCheck
  by_cases hnil : data = []
  · have hzero : data.length = 0 := List.length_eq_zero_iff.mpr hnil
    rw [if_pos (by omega), if_pos hnil]
    rfl
  have hpos : 0 < data.length := List.length_pos_iff.mpr hnil
  rw [if_neg (by omega), if_neg hnil, hbyte, ok_bind]
  cases hp : s.server.vars[id.toNat]? with
  | none =>
    rw [if_pos (List.getElem?_eq_none_iff.mp hp)]
    rfl
  | some p =>
    obtain ⟨hid, -⟩ := List.getElem?_eq_some_iff.mp hp
    rw [if_neg (Nat.not_le.mpr hid), varAt_ok hp, ok_bind]
    by_cases hlen : data.length = (s.objs.var p).info.size.toNat
    · have hslice : (message .varWrite (id :: data)).slice 1 (s.objs.var p).info.size.toNat = .ok data :=
        Message.slice_rest [_] rfl hlen
      have hstore := h.store (List.mem_of_getElem? hp) s.world.mem data
      simp only [hslice, ok_bind, hstore]
      rw [if_neg (by omega), if_neg (not_not.mpr hlen)]
      cases (s.objs.var p).info.writable
      · rfl
      · cases (s.objs.var p).accepts s.world data <;> rfl
    · simp only
      rw [if_pos (by omega), if_pos hlen]
      rfl

theorem varRead_eq (h : RepInv s) {id : UInt8} : varRead s (message .varRead [id]) =
    match s.server.vars[id.toNat]? with
    | none => .ok (s, answer .errInvalidId)
    | some p => s.callHook .read [some p, none] >>= fun s' => .ok (s', s'.varValue p) := by
  have hbyte : (message .varRead [id]).byte 0 = .ok id := Message.byte_ok rfl
  unfold varRead
  rw [if_neg (by simp [message]), hbyte, ok_bind]
  cases hp : s.server.vars[id.toNat]? with
  | none =>
    rw [if_pos (List.getElem?_eq_none_iff.mp hp)]
    rfl
  | some p =>
    obtain ⟨hid, -⟩ := List.getElem?_eq_some_iff.mp hp
    obtain ⟨s', hhook⟩ := callHook_ok [some p, none] (by simp) s .read
    have hload : (s'.objs.var p).load s'.world.mem = .ok ((s'.objs.var p).bytes s'.world.mem) := by
      rw [(callHook_same hhook).objs]
      exact h.load (List.mem_of_getElem? hp) s'.world.mem
    rw [if_neg (Nat.not_le.mpr hid), varAt_ok hp, ok_bind, hhook, ok_bind, hload]
    simp only [hhook, ok_bind]
    rfl

/-- A variable is read after a write as it is read before one: neither the store nor
the calls of the hook unregister it. -/
theorem write_load (h : RepInv s) {pr : Ptr} (hpr : pr ∈ s.server.vars) (pw : Ptr) (data : List UInt8) :
    ∃ s₁ s', s.write pw data = .ok s₁ ∧ s₁.callHook .read [some pr] = .ok s' ∧
      (s'.objs.var pr).load s'.world.mem = .ok ((s'.objs.var pr).bytes s'.world.mem) := by
  obtain ⟨s₁, hhook₁⟩ := callHook_ok [some pw, none] (by simp)
    { s with world.mem := (s.objs.var pw).put s.world.mem data } .write
  obtain ⟨s', hhook₂⟩ := callHook_ok [some pr] (by simp) s₁ .read
  refine ⟨s₁, s', hhook₁, hhook₂, ?_⟩
  have hsame : SameInstance s s' :=
    (SameInstance.world s _).trans ((callHook_same hhook₁).trans (callHook_same hhook₂))
  rw [hsame.objs]
  exact h.load hpr s'.world.mem

theorem varWriteRead_eq (h : RepInv s) {idw idr : UInt8} {data : List UInt8}
    (hfits : data.length + 2 ≤ bsmpMaxPayload) :
    varWriteRead s (message .varWriteRead (idw :: idr :: data)) =
      match s.server.vars[idr.toNat]? with
      | none => .ok (s, answer (if data = [] then .errInvalidPayloadSize else .errInvalidId))
      | some pr =>
        match writeCheck s idw data with
        | .error code => .ok (s, answer code)
        | .ok pw => s.write pw data >>= fun s₁ =>
            s₁.callHook .read [some pr] >>= fun s' => .ok (s', s'.varValue pr) := by
  have hm : (message .varWriteRead (idw :: idr :: data)).payloadSize.toNat = data.length + 2 :=
    message_size hfits
  have hbyte₀ : (message .varWriteRead (idw :: idr :: data)).byte 0 = .ok idw := Message.byte_ok rfl
  have hbyte₁ : (message .varWriteRead (idw :: idr :: data)).byte 1 = .ok idr := Message.byte_ok rfl
  unfold varWriteRead writeCheck
  by_cases hnil : data = []
  · have hzero : data.length = 0 := List.length_eq_zero_iff.mpr hnil
    rw [if_pos (by omega), if_pos hnil, if_pos hnil]
    cases s.server.vars[idr.toNat]? <;> rfl
  have hpos : 0 < data.length := List.length_pos_iff.mpr hnil
  rw [if_neg (by omega), if_neg hnil, if_neg hnil, hbyte₀, ok_bind, hbyte₁, ok_bind]
  cases hpr : s.server.vars[idr.toNat]? with
  | none =>
    rw [if_pos (.inr (List.getElem?_eq_none_iff.mp hpr))]
    rfl
  | some pr =>
    obtain ⟨hidr, -⟩ := List.getElem?_eq_some_iff.mp hpr
    cases hpw : s.server.vars[idw.toNat]? with
    | none =>
      rw [if_pos (.inl (List.getElem?_eq_none_iff.mp hpw))]
      rfl
    | some pw =>
      obtain ⟨hidw, -⟩ := List.getElem?_eq_some_iff.mp hpw
      rw [if_neg (by omega), varAt_ok hpw, ok_bind, varAt_ok hpr, ok_bind]
      by_cases hlen : data.length = (s.objs.var pw).info.size.toNat
      · have hslice : (message .varWriteRead (idw :: idr :: data)).slice 2 (s.objs.var pw).info.size.toNat =
            .ok data := Message.slice_rest [_, _] rfl hlen
        have hstore := h.store (List.mem_of_getElem? hpw) s.world.mem data
        simp only [hslice, ok_bind, hstore]
        rw [if_neg (by omega), if_neg (not_not.mpr hlen)]
        cases (s.objs.var pw).info.writable with
        | false => rfl
        | true =>
          cases (s.objs.var pw).accepts s.world data with
          | false => rfl
          | true =>
            obtain ⟨s₁, s', hwrite, hread, hload⟩ := write_load h (List.mem_of_getElem? hpr) pw data
            simp only [System.write] at hwrite
            simp only [Bool.not_true, Bool.false_eq_true, if_false, System.write, hwrite, ok_bind, hread,
              hload]
            rfl
      · simp only
        rw [if_pos (by omega), if_pos hlen]
        rfl

/-! ## The hook's list -/

/-- A hook, if there is one, leaves its list alone. -/
def HookKeepsList (s : System σ) : Prop :=
  ∀ hook, s.server.hook = some hook → ∀ op list w, (hook op list w).2.1 = list

/-- The entry after the first is a null pointer, or there is no hook to see it. -/
def Ended (s : System σ) : Prop :=
  match s.server.hook with
  | none => s.clearModified = s
  | some _ => s.server.modifiedList 1 = none

/-- After a store the list ends with the variable stored. -/
theorem write_ended (hkeeps : HookKeepsList s) {p : Ptr} {data : List UInt8}
    (h : s.clearModified.write p data = .ok s') : Ended s' := by
  rcases callHook_cases h with ⟨hnone, rfl⟩ | ⟨hook, list, hhook, hw, rfl⟩
  · unfold Ended
    rw [hnone]
    simp [System.clearModified]
  · have hwhole : ModifiedList.write s.clearModified.server.modifiedList 0 ([p].map some ++ [none]) =
        .ok list := hw
    have hlists : list.Lists [p] := ModifiedList.write_lists (by simp) hwhole
    have hleft := hkeeps hook hhook .write list { s.world with
      mem := (s.objs.var p).put s.world.mem data }
    unfold Ended
    rw [hhook]
    exact (congrFun hleft 1).trans (hlists.2 1 (Nat.le_refl 1))

theorem ModifiedList.write_again {list : ModifiedList} (h : list 1 = none) (p : Ptr) :
    write list 0 [some p] = write (Function.update list 0 none) 0 [some p, none] := by
  have hsame : Function.update list 0 (some p) =
      Function.update (Function.update (Function.update list 0 none) 0 (some p)) 1 none := by
    rw [Function.update_idem, ← h]
    have hone : Function.update list 0 (some p) 1 = list 1 := Function.update_of_ne (by decide) _ _
    rw [← hone, Function.update_eq_self]
  exact congrArg Except.ok hsame

/-- The first entry alone, or the list begun anew. -/
theorem callHook_again (h : Ended s) (op : BsmpOperation) (p : Ptr) :
    s.callHook op [some p] = s.clearModified.callHook op [some p, none] := by
  unfold Ended at h
  unfold System.callHook
  have hsame : s.clearModified.server.hook = s.server.hook := rfl
  cases hhook : s.server.hook with
  | none =>
    rw [hhook] at h hsame
    rw [hsame]
    exact congrArg Except.ok h.symm
  | some hook =>
    rw [hhook] at h hsame
    have hwrite : ModifiedList.write s.server.modifiedList 0 [some p] =
        ModifiedList.write s.clearModified.server.modifiedList 0 [some p, none] :=
      ModifiedList.write_again h p
    rw [hsame, hwrite]
    rfl

/-! ## The command -/

theorem writeCheck_isError {id : UInt8} {data : List UInt8} {code : CommandCode}
    (h : writeCheck s id data = .error code) : code.isError = true := by
  unfold writeCheck at h
  split at h
  · cases h
    rfl
  · split at h
    · cases h
      rfl
    · split at h
      · cases h
        rfl
      · split at h
        · cases h
          rfl
        · split at h
          · cases h
            rfl
          · cases h

/-- What was asked of `CMD_VAR_WRITE_READ`: where `CMD_VAR_WRITE` is answered with
`CMD_OK` and the read id is registered, what both commands do and answer; and
else nothing, but for the answer. -/
structure WriteRead (s : System σ) (idr : UInt8) (data : List UInt8) (a₁ : Message)
    (s₂ : System σ) (a₂ : Message) (s' : System σ) (a : Message) : Prop where
  both : a₁ = answer .ok → idr.toNat < s.server.vars.length → s' = s₂ ∧ a = a₂
  neither : a₁ ≠ answer .ok ∨ s.server.vars.length ≤ idr.toNat → s' = s.clearModified
  registered : a₁ ≠ answer .ok → idr.toNat < s.server.vars.length →
    isErrorByte a₁.commandCode = true ∧ a = a₁
  unregistered : s.server.vars.length ≤ idr.toNat →
    a = if data = [] then a₁ else answer .errInvalidId

theorem answer_ne_ok {code : CommandCode} (h : code.isError = true) : answer code ≠ answer .ok := by
  intro he
  have hbyte : code.toByte = CommandCode.ok.toByte := congrArg Message.commandCode he
  rw [CommandCode.isError, hbyte] at h
  revert h
  decide

/-- `CMD_VAR_WRITE` refused. -/
theorem writeRead_refused {idw idr : UInt8} {data : List UInt8} {code : CommandCode}
    (hcheck : writeCheck s idw data = .error code) (h : RepInv s.clearModified)
    (hfits : data.length + 2 ≤ bsmpMaxPayload) (s₂ : System σ) (a₂ : Message) :
    ∃ s' a, varWriteRead s.clearModified (message .varWriteRead (idw :: idr :: data)) = .ok (s', a) ∧
      WriteRead s idr data (answer code) s₂ a₂ s' a := by
  have hcheck' : writeCheck s.clearModified idw data = .error code := hcheck
  have herror := writeCheck_isError hcheck
  have hne := answer_ne_ok herror
  rw [varWriteRead_eq h hfits, hcheck']
  cases hpr : s.clearModified.server.vars[idr.toNat]? with
  | none =>
    have hge : s.server.vars.length ≤ idr.toNat := List.getElem?_eq_none_iff.mp hpr
    refine ⟨_, _, rfl, fun hok => absurd hok hne, fun _ => rfl,
      fun _ hlt => absurd hlt (Nat.not_lt.mpr hge), fun _ => ?_⟩
    by_cases hnil : data = []
    · have hcode : code = .errInvalidPayloadSize := by
        rw [writeCheck, if_pos hnil] at hcheck
        exact (Except.error.inj hcheck).symm
      rw [if_pos hnil, if_pos hnil, hcode]
    · rw [if_neg hnil, if_neg hnil]
  | some pr =>
    obtain ⟨hlt, -⟩ := List.getElem?_eq_some_iff.mp hpr
    exact ⟨_, _, rfl, fun hok => absurd hok hne, fun _ => rfl, fun _ _ => ⟨herror, rfl⟩,
      fun hge => absurd hge (Nat.not_le.mpr hlt)⟩

/-- `CMD_VAR_WRITE` carried out. -/
theorem writeRead_done {idw idr : UInt8} {data : List UInt8} {pw : Ptr} {s₁ s₂ : System σ} {a₂ : Message}
    (hkeeps : HookKeepsList s) (hcheck : writeCheck s idw data = .ok pw) (h : RepInv s.clearModified)
    (hfits : data.length + 2 ≤ bsmpMaxPayload) (hwrite : s.clearModified.write pw data = .ok s₁)
    (hread : varRead s₁.clearModified (message .varRead [idr]) = .ok (s₂, a₂)) :
    ∃ s' a, varWriteRead s.clearModified (message .varWriteRead (idw :: idr :: data)) = .ok (s', a) ∧
      WriteRead s idr data (answer .ok) s₂ a₂ s' a := by
  have hcheck' : writeCheck s.clearModified idw data = .ok pw := hcheck
  have hsame : SameInstance s.clearModified s₁ := (SameInstance.world _ _).trans (callHook_same hwrite)
  have hinv : RepInv s₁.clearModified := (h.same hsame).same (clearModified_same s₁)
  have hvars : s₁.clearModified.server.vars = s.clearModified.server.vars := hsame.vars
  rw [varRead_eq hinv, hvars] at hread
  rw [varWriteRead_eq h hfits, hcheck']
  cases hpr : s.clearModified.server.vars[idr.toNat]? with
  | none =>
    have hge : s.server.vars.length ≤ idr.toNat := List.getElem?_eq_none_iff.mp hpr
    have hdata : data ≠ [] := by
      intro hnil
      simp [writeCheck, hnil] at hcheck
    refine ⟨_, _, rfl, fun _ hlt => absurd hlt (Nat.not_lt.mpr hge), fun _ => rfl,
      fun hne => absurd rfl hne, fun _ => ?_⟩
    rw [if_neg hdata, if_neg hdata]
  | some pr =>
    obtain ⟨hlt, -⟩ := List.getElem?_eq_some_iff.mp hpr
    rw [hpr] at hread
    simp only [← callHook_again (write_ended hkeeps hwrite)] at hread
    simp only [hwrite, ok_bind, hread]
    refine ⟨s₂, a₂, rfl, fun _ _ => ⟨rfl, rfl⟩, fun hor => ?_, fun hne => absurd rfl hne,
      fun hge => absurd hge (Nat.not_le.mpr hlt)⟩
    rcases hor with hne | hge
    · exact absurd rfl hne
    · exact absurd hge (Nat.not_le.mpr hlt)

/-- **Write-read equals write then read.** In every reachable state, with any
checkers and no hook or one that leaves its list alone, for all ids and data that
a packet has room for: where `CMD_VAR_WRITE` is answered with `CMD_OK` and the
read id is registered, `CMD_VAR_WRITE_READ` leaves the same system, the calls of
the hook among it, and gives the same answer as the two commands. Otherwise it
does nothing, and answers with the error of `CMD_VAR_WRITE`, or with
`CMD_ERR_INVALID_ID` when the read id is not registered. -/
theorem writeRead_eq (hs : Reachable md5 s) (hkeeps : HookKeepsList s) (idw idr : UInt8) (data : List UInt8)
    (hfits : data.length + 2 + bsmpHeaderSize ≤ bsmpMaxPayload) (area₁ area₂ area : Nat → UInt8) :
    ∃ s₁ a₁ s₂ a₂ s' a,
      respond md5 s (request CommandCode.varWrite.toByte (idw :: data)) area₁ = .ok (s₁, a₁) ∧
      respond md5 s₁ (request CommandCode.varRead.toByte [idr]) area₂ = .ok (s₂, a₂) ∧
      respond md5 s (request CommandCode.varWriteRead.toByte (idw :: idr :: data)) area = .ok (s', a) ∧
      WriteRead s idr data a₁ s₂ a₂ s' a := by
  have hinv : RepInv s.clearModified := hs.repInv.same (clearModified_same s)
  simp only [bsmpHeaderSize, bsmpMaxPayload] at hfits
  rw [respond_request rfl (by simp; omega), respond_request rfl (by simp; omega),
    varWrite_eq hinv (by simp only [bsmpMaxPayload]; omega)]
  have hfits' : data.length + 2 ≤ bsmpMaxPayload := by
    simp only [bsmpMaxPayload]
    omega
  cases hcheck : writeCheck s idw data with
  | error code =>
    obtain ⟨⟨s₂, a₂⟩, hread, -⟩ := respond_outcome md5 hinv (request CommandCode.varRead.toByte [idr]) area₂
    obtain ⟨s', a, hboth, hspec⟩ := writeRead_refused hcheck hinv hfits' s₂ a₂
    have hcheck' : writeCheck s.clearModified idw data = .error code := hcheck
    rw [hcheck']
    exact ⟨s.clearModified, answer code, s₂, a₂, s', a, rfl, hread, hboth, hspec⟩
  | ok pw =>
    obtain ⟨s₁, hwrite⟩ := callHook_ok [some pw, none] (by simp)
      { s.clearModified with world.mem := (s.objs.var pw).put s.world.mem data } .write
    have hsame : SameInstance s.clearModified s₁ := (SameInstance.world _ _).trans (callHook_same hwrite)
    obtain ⟨⟨s₂, a₂⟩, hread, -⟩ := respond_outcome md5 (hinv.same hsame)
      (request CommandCode.varRead.toByte [idr]) area₂
    have hread' : varRead s₁.clearModified (message .varRead [idr]) = .ok (s₂, a₂) :=
      (respond_request rfl (by simp)).symm.trans hread
    obtain ⟨s', a, hboth, hspec⟩ := writeRead_done hkeeps hcheck hinv hfits' hwrite hread'
    have hcheck' : writeCheck s.clearModified idw data = .ok pw := hcheck
    have hwrite' : s.clearModified.write pw data = .ok s₁ := hwrite
    rw [hcheck']
    simp only [hwrite', ok_bind]
    exact ⟨s₁, answer .ok, s₂, a₂, s', a, rfl, hread, hboth, hspec⟩

/-- With a hook, and the variable written read back. -/
theorem writeRead_eq_watched :
    ∃ s₁ a₁ s₂ a₂ s' a,
      respond byteSum watched (request CommandCode.varWrite.toByte [0, 5]) (fun _ => 0) = .ok (s₁, a₁) ∧
      respond byteSum s₁ (request CommandCode.varRead.toByte [0]) (fun _ => 0) = .ok (s₂, a₂) ∧
      respond byteSum watched (request CommandCode.varWriteRead.toByte [0, 0, 5]) (fun _ => 0) =
        .ok (s', a) ∧
      WriteRead watched 0 [5] a₁ s₂ a₂ s' a := by
  have hkeeps : HookKeepsList watched := by
    intro hook hhook op list w
    obtain rfl : lookOn = hook := Option.some.inj hhook
    rfl
  exact writeRead_eq watched_reachable hkeeps 0 0 [5] (by decide) _ _ _

end UdcFirmware.Bsmp
