/-
Communication failures: what the lists of the client are worth when exchanges
fail.

An operation that changes the groups of the server goes on to update the
client's list of them: one exchange for the list, one for each group. Any of
them can fail, the server having processed the request or not (`Fate`). The
update tells when it fails, but the operation does not ask (`followedBy`): it
returns success with the old list when the list query failed, and with no
groups at all when a later query did. `keepsList_iff` says when the list is
the server's all the same.
-/
import UdcFirmware.Bsmp.Verdicts

namespace UdcFirmware.Bsmp

open Checked Stateful

variable {σ : Type} {md5 : Md5} {area noise : Nat → UInt8}

/-! ## A channel that fails -/

/-- What becomes of an exchange. When `send` or `recv` fails, the server has
processed the request or not. -/
inductive Fate
  | delivered
  | sendFails (processed : Bool)
  | recvFails (processed : Bool)
  deriving DecidableEq

/-- The other end of the link, and the number of exchanges begun. -/
structure Lossy (σ : Type) where
  peer : Peer σ
  begun : Nat

/-- The link, when exchange `n` meets with `fates n`. A response that is not
received is lost. -/
def lossy (md5 : Md5) (area noise : Nat → UInt8) (fates : Nat → Fate) : Comm (Lossy σ) where
  send data chan :=
    let (sent, peer) := (link md5 area noise).send data chan.peer
    let begun := chan.begun + 1
    match fates chan.begun with
    | .delivered => (sent, { peer, begun })
    | .sendFails processed => (false, { peer := if processed then peer else chan.peer, begun })
    | .recvFails processed => (true, { peer := if processed then peer else chan.peer, begun })
  recv chan :=
    match fates (chan.begun - 1) with
    | .delivered =>
      let (received, peer) := (link md5 area noise).recv chan.peer
      (received, { chan with peer })
    | _ => (none, { chan with peer.pending := none })
  junk _ := noise

/-- The next `count` exchanges from `n` on are delivered. -/
def Clear (fates : Nat → Fate) (n count : Nat) : Prop := ∀ k < count, fates (n + k) = .delivered

/-! ## One exchange -/

variable {fates : Nat → Fate} {s : Session (Lossy σ)} {system : System σ} {a : Message}

/-- The session as the link sees it. -/
def Session.below (s : Session (Lossy σ)) : Session (Peer σ) := ⟨s.client, s.chan.peer, s.log⟩

/-- A session of the link, after so many exchanges. -/
def Session.above (t : Session (Peer σ)) (begun : Nat) : Session (Lossy σ) :=
  ⟨t.client, ⟨t.chan, begun⟩, t.log⟩

/-- An exchange that is delivered is one of the link. -/
theorem command_delivered {cmd : CommandCode} {payload : List UInt8} {r : Option Response}
    {t : Session (Peer σ)} (hf : fates s.chan.begun = .delivered)
    (h : Session.command (link md5 area noise) cmd payload s.below = .ok (r, t)) :
    Session.command (lossy md5 area noise fates) cmd payload s = .ok (r, t.above (s.chan.begun + 1)) := by
  unfold Session.command at h ⊢
  have hsend : (lossy md5 area noise fates).send (sendBuf cmd payload) s.chan =
      (((link md5 area noise).send (sendBuf cmd payload) s.chan.peer).1,
        ⟨((link md5 area noise).send (sendBuf cmd payload) s.chan.peer).2, s.chan.begun + 1⟩) := by
    simp only [lossy, hf]
  have hrecv : ∀ peer : Peer σ, (lossy md5 area noise fates).recv ⟨peer, s.chan.begun + 1⟩ =
      (((link md5 area noise).recv peer).1, ⟨((link md5 area noise).recv peer).2, s.chan.begun + 1⟩) := by
    intro peer
    simp only [lossy, Nat.add_sub_cancel, hf]
  simp only [Session.below] at h
  rw [hsend]
  rcases hs : (link md5 area noise).send (sendBuf cmd payload) s.chan.peer with ⟨sent, peer⟩
  rw [hs] at h
  cases sent with
  | false =>
    cases h
    rfl
  | true =>
    simp only [hrecv] at h ⊢
    rcases hr : (link md5 area noise).recv peer with ⟨received, peer'⟩
    rw [hr] at h
    cases received with
    | none =>
      cases h
      rfl
    | some recvBuf =>
      simp only at h ⊢
      split at h
      · next hshort =>
        cases h
        rw [if_pos hshort]
        rfl
      next hshort =>
      split at h
      · next hmax =>
        cases h
        rw [if_neg hshort, if_pos hmax]
        rfl
      · cases h

theorem expect_delivered {cmd answer : CommandCode} {payload : List UInt8} {r : Option Response}
    {t : Session (Peer σ)} (hf : fates s.chan.begun = .delivered)
    (h : Session.expect (link md5 area noise) cmd answer payload s.below = .ok (r, t)) :
    Session.expect (lossy md5 area noise fates) cmd answer payload s =
      .ok (r, t.above (s.chan.begun + 1)) := by
  obtain ⟨r₀, t₀, hcmd, hrest⟩ := Stateful.bind_ok_iff.mp h
  rw [Session.expect, bind_of (command_delivered hf hcmd)]
  cases r₀ with
  | none =>
    cases hrest
    rfl
  | some response =>
    cases hrest
    rfl

/-- One that is not yields nothing; the server may have answered. -/
theorem command_lost (noise : Nat → UInt8) {cmd : CommandCode} {payload : List UInt8}
    (hf : fates s.chan.begun ≠ .delivered)
    (hr : respond md5 s.chan.peer.system (request cmd.toByte payload) area = .ok (system, a)) :
    ∃ s', Session.command (lossy md5 area noise fates) cmd payload s = .ok (none, s') ∧
      s'.client = s.client ∧ s'.chan.begun = s.chan.begun + 1 ∧
      (s'.chan.peer.system = s.chan.peer.system ∨ s'.chan.peer.system = system) := by
  have hsend := link_send noise hr
  have hsystem : ∀ processed : Bool,
      (if processed = true then (⟨system, some a.toPacket⟩ : Peer σ) else s.chan.peer).system =
        s.chan.peer.system ∨
      (if processed = true then (⟨system, some a.toPacket⟩ : Peer σ) else s.chan.peer).system = system := by
    intro processed
    cases processed
    · exact .inl rfl
    · exact .inr rfl
  unfold Session.command
  cases hfate : fates s.chan.begun with
  | delivered => exact absurd hfate hf
  | sendFails processed =>
    simp only [lossy, hfate, hsend]
    exact ⟨_, rfl, rfl, rfl, hsystem processed⟩
  | recvFails processed =>
    simp only [lossy, hfate, hsend, Nat.add_sub_cancel]
    exact ⟨_, rfl, rfl, rfl, hsystem processed⟩

theorem expect_lost (noise : Nat → UInt8) {cmd answer : CommandCode} {payload : List UInt8}
    (hf : fates s.chan.begun ≠ .delivered)
    (hr : respond md5 s.chan.peer.system (request cmd.toByte payload) area = .ok (system, a)) :
    ∃ s', Session.expect (lossy md5 area noise fates) cmd answer payload s = .ok (none, s') ∧
      s'.client = s.client ∧ s'.chan.begun = s.chan.begun + 1 ∧
      (s'.chan.peer.system = s.chan.peer.system ∨ s'.chan.peer.system = system) := by
  obtain ⟨s', hcmd, hrest⟩ := command_lost noise hf hr
  refine ⟨s', ?_, hrest⟩
  rw [Session.expect, bind_of hcmd]
  rfl

/-- A response is one to an exchange that was delivered, and it has the code of
the server's answer. -/
theorem command_some {cmd : CommandCode} {payload : List UInt8} {r : Response} {s' : Session (Lossy σ)}
    (hr : respond md5 s.chan.peer.system (request cmd.toByte payload) area = .ok (system, a))
    (h : Session.command (lossy md5 area noise fates) cmd payload s = .ok (some r, s')) :
    fates s.chan.begun = .delivered ∧ r.code = a.commandCode := by
  by_cases hf : fates s.chan.begun = .delivered
  · refine ⟨hf, ?_⟩
    unfold Session.command at h
    simp only [lossy, hf, link_send noise hr, Nat.add_sub_cancel] at h
    simp only [link] at h
    split at h
    · cases h
    split at h
    · cases h
      rfl
    · cases h
  · obtain ⟨s₁, hlost, -⟩ := command_lost noise hf hr
    rw [hlost] at h
    cases h

/-! ## The update of the groups -/

theorem clear_succ {n count : Nat} :
    Clear fates n (count + 1) ↔ fates n = .delivered ∧ Clear fates (n + 1) count := by
  constructor
  · intro h
    refine ⟨h 0 (Nat.succ_pos _), fun k hk => ?_⟩
    rw [Nat.add_assoc, Nat.add_comm 1 k]
    exact h (k + 1) (Nat.succ_lt_succ hk)
  · rintro ⟨hfirst, hrest⟩ k hk
    cases k with
    | zero => exact hfirst
    | succ k =>
      rw [Nat.add_comm k 1, ← Nat.add_assoc]
      exact hrest k (Nat.lt_of_succ_lt_succ hk)

/-- A query that is lost leaves both ends as they are, but for the list for the hook. -/
theorem query_lost (noise : Nat → UInt8) {cmd : CommandCode} (answer : CommandCode) {payload : List UInt8}
    {handler : System σ → Message → Except Fault (System σ × Message)}
    (hc : command md5 area cmd.toByte = some handler)
    (hlen : payload.length + bsmpHeaderSize ≤ bsmpMaxPayload)
    (hsys : s.chan.peer.system.clearModified = system)
    (hh : handler system (message cmd payload) = .ok (system, a)) (hf : fates s.chan.begun ≠ .delivered) :
    ∃ s', Session.expect (lossy md5 area noise fates) cmd answer payload s = .ok (none, s') ∧
      s'.client = s.client ∧ s'.chan.begun = s.chan.begun + 1 ∧
      s'.chan.peer.system.clearModified = system := by
  have hr : respond md5 s.chan.peer.system (request cmd.toByte payload) area = .ok (system, a) := by
    rw [respond_request hc hlen, hsys, hh]
  obtain ⟨s', hexp, hclient, hbegun, hsystem⟩ := expect_lost noise hf hr
  refine ⟨s', hexp, hclient, hbegun, ?_⟩
  rcases hsystem with hsystem | hsystem
  · rw [hsystem, hsys]
  · rw [hsystem, ← hsys, clearModified_clearModified]

variable (md5 area noise fates)

theorem updateGroupsLoop_lossy (h : RepInv system) {r : Response}
    (hpay : ∀ i < system.server.groups.count, r.payload i = (system.server.groups.get i).listByte)
    {n i : Nat} (hn : i + n = system.server.groups.count)
    (hsys : s.chan.peer.system.clearModified = system) :
    ∃ grps s', updateGroupsLoop (lossy md5 area noise fates) r n i s = .ok (grps, s') ∧
      (Clear fates s.chan.begun n → grps = some ((List.range' i n).map fun k =>
        (system.server.groups.get k).seen s.client.vars system.objs k)) ∧
      (¬ Clear fates s.chan.begun n → grps = none) ∧
      s'.client = s.client ∧ s'.chan.peer.system.clearModified = system := by
  induction n generalizing i s with
  | zero =>
    have hclear : Clear fates s.chan.begun 0 := fun k hk => absurd hk (Nat.not_lt_zero k)
    exact ⟨_, s, rfl, fun _ => rfl, fun hf => absurd hclear hf, rfl, hsys⟩
  | succ n ih =>
    have hi : i < system.server.groups.count := by omega
    have hslot : slot bsmpMaxGroups i () = .ok () := if_pos (Nat.lt_of_lt_of_le hi h.room)
    rw [clear_succ]
    by_cases hf : fates s.chan.begun = .delivered
    · obtain ⟨r', t, hexp, hids, hclient, hsystem⟩ :=
        groupQuery_link md5 area noise h hi (s := s.below) hsys
      obtain ⟨grps, s', hloop, hread, hlost, hclient', hsystem'⟩ :=
        ih (s := t.above (s.chan.begun + 1)) (i := i + 1) (by omega) hsystem
      refine ⟨_, s', updateGroupsLoop_step h hi (hpay i hi) (expect_delivered hf hexp) hids hclient hloop,
        ?_, ?_, hclient'.trans hclient, hsystem'⟩
      · rintro ⟨-, hclear⟩
        rw [hread hclear]
        simp only [Session.above, hclient]
        rfl
      · intro hclear
        rw [hlost fun hc => hclear ⟨hf, hc⟩]
        rfl
    · have hc : command md5 area CommandCode.groupQuery.toByte (σ := σ) = some groupQuery := rfl
      obtain ⟨s', hexp, hclient, -, hsystem⟩ :=
        query_lost noise .group hc (by simp) hsys (h.groupQuery_ok hi) hf
      refine ⟨none, s', ?_, fun hclear => absurd hclear.1 hf, fun _ => rfl, hclient, hsystem⟩
      refine (lift_bind _ _ _).trans ?_
      rw [hslot, ok_bind, bind_of hexp]
      rfl

/-- The groups that an update from exchange `n` on leaves in the client. -/
inductive Relisted (fates : Nat → Fate) (n : Nat) (system : System σ) (c : Client) : List ClientGroup → Prop
  | kept (hlist : fates n ≠ .delivered) : Relisted fates n system c c.groups
  | emptied (hlist : fates n = .delivered) (hgroups : ¬ Clear fates (n + 1) system.server.groups.count) :
      Relisted fates n system c []
  | read (hclear : Clear fates n (system.server.groups.count + 1)) :
      Relisted fates n system c (system.groupsSeen c.vars)

theorem updateGroupsList_lossy (h : RepInv system) (hsys : s.chan.peer.system.clearModified = system) :
    ∃ err s', updateGroupsList (lossy md5 area noise fates) s = .ok (err, s') ∧
      Relisted fates s.chan.begun system s.client s'.client.groups ∧
      s'.chan.peer.system.clearModified = system := by
  by_cases hf : fates s.chan.begun = .delivered
  · obtain ⟨r, t, hexp, hsize, hpay, hclient, hsystem⟩ :=
      groupQueryList_link md5 area noise h (s := s.below) hsys
    obtain ⟨grps, s', hloop, hread, hlost, hclient', hsystem'⟩ :=
      updateGroupsLoop_lossy md5 area noise fates h hpay (s := t.above (s.chan.begun + 1))
        (n := r.payloadSize.toNat) (i := 0) (by rw [hsize, Nat.zero_add]) hsystem
    rw [hsize] at hread hlost
    have hrun : updateGroupsList (lossy md5 area noise fates) s = _ :=
      (bind_of (expect_delivered hf hexp)).trans (bind_of hloop)
    by_cases hclear : Clear fates (s.chan.begun + 1) system.server.groups.count
    · obtain rfl := hread hclear
      refine ⟨_, _, hrun, ?_, hsystem'⟩
      have hgroups := Relisted.read (c := s.client) (clear_succ.mpr ⟨hf, hclear⟩)
      rw [System.groupsSeen, List.range_eq_range'] at hgroups
      simp only [Session.above, hclient]
      exact hgroups
    · obtain rfl := hlost hclear
      exact ⟨_, _, hrun, .emptied hf hclear, hsystem'⟩
  · have hc : command md5 area CommandCode.groupQueryList.toByte (σ := σ) = some groupQueryList := rfl
    obtain ⟨s', hexp, hclient, -, hsystem⟩ :=
      query_lost noise .groupList hc (by simp) hsys h.groupQueryList_ok hf
    refine ⟨_, s', bind_of hexp, ?_, hsystem⟩
    rw [hclient]
    exact .kept hf

variable {md5 area noise fates}

/-! ## What an operation leaves on the server -/

def System.groupsDescribed (sys : System σ) : List ClientGroup :=
  (List.range sys.server.groups.count).map fun i => (sys.server.groups.get i).described sys.objs

namespace Operation

/-- The list that the operation brings up to date is the server's. -/
def Current (c : Client) (sys : System σ) : Operation → Prop
  | createGroup _ | removeAllGroups => c.groups = sys.groupsDescribed
  | recalcChecksum _ => c.curves = sys.server.curves.map fun p => (sys.objs.curve p).info
  | _ => True

/-- The operation is one of these, and the server carries it out. -/
def Granted (sys : System σ) : Operation → Prop
  | createGroup (some vars) => vars ≠ [] ∧ sys.server.groups.count < bsmpMaxGroups ∧
      (∀ var ∈ vars, var < sys.server.vars.length) ∧ vars.Pairwise (· < ·)
  | removeAllGroups => True
  | _ => False

/-- How many groups it leaves. -/
def groupsLeft (sys : System σ) : Operation → Nat
  | createGroup _ => sys.server.groups.count + 1
  | removeAllGroups => groupStandardCount
  | _ => sys.server.groups.count

/-- The failures from exchange `n` on do the list no harm: the server was not
asked, or each query was delivered and tells what there is, or the list query
was lost when the old list had as many groups. -/
def Unharmed (fates : Nat → Fate) (n : Nat) (sys : System σ) (op : Operation) : Prop :=
  op.Granted sys → fates n = .delivered →
    sys.server.vars.length ≤ 127 ∧ Clear fates (n + 1) (op.groupsLeft sys + 1) ∨
      fates (n + 1) ≠ .delivered ∧ op.groupsLeft sys = sys.server.groups.count

end Operation

/-- The operation returns success only with the list up to date. -/
def KeepsList (md5 : Md5) (area noise : Nat → UInt8) (fates : Nat → Fate) (s : Session (Lossy σ))
    (op : Operation) : Prop :=
  ∀ s', op.run (lossy md5 area noise fates) s = .ok (.success, s') →
    op.Current s'.client s'.chan.peer.system

/-- Only the groups have changed, and there are `count` of them. -/
structure Regrouped (sys system : System σ) (count : Nat) : Prop where
  repInv : RepInv system
  vars : system.server.vars = sys.server.vars
  objs : system.objs = sys.objs
  count : system.server.groups.count = count
  same : system.server.groups.count = sys.server.groups.count → system.groupsDescribed = sys.groupsDescribed

section Requests

variable {c : Client} {sys : System σ}

/-- The client knows the variables by their ids. -/
theorem Describes.var_id (hd : Describes c sys) (h : RepInv sys) {i : Nat} {info : VarInfo}
    (hi : c.vars[i]? = some info) : info.id = UInt8.ofNat i := by
  rw [hd.vars, List.getElem?_map] at hi
  obtain ⟨p, hp, rfl⟩ := Option.map_eq_some_iff.mp hi
  obtain ⟨hlt, hget⟩ := List.getElem?_eq_some_iff.mp hp
  rw [← UInt8.ofNat_toNat (x := (sys.objs.var p).info.id), ← hget, h.vars.ids i hlt]

theorem Describes.vars_length (hd : Describes c sys) : c.vars.length = sys.server.vars.length := by
  rw [hd.vars, List.length_map]

/-- The ids of variables in the client's list are packed one after the other. -/
theorem createGroupLoop_packs (hid : ∀ {i info}, c.vars[i]? = some info → info.id = UInt8.ofNat i)
    {list : List Nat} {payload : List UInt8} (hmem : ∀ var ∈ list, var < c.vars.length)
    (hne : payload ++ list.map UInt8.ofNat ≠ []) (hmax : payload.length + list.length ≤ bsmpMaxPayload) :
    createGroupLoop c list payload = .ok (.ok (payload ++ list.map UInt8.ofNat)) := by
  induction list generalizing payload with
  | nil =>
    rw [List.map_nil, List.append_nil] at hne ⊢
    exact if_neg hne
  | cons var list ih =>
    obtain ⟨info, hinfo⟩ : ∃ info, c.vars[var]? = some info :=
      ⟨_, List.getElem?_eq_getElem (hmem var (by simp))⟩
    have hvar : c.var? (some var) = some info := hinfo
    rw [List.length_cons] at hmax
    have hrest : createGroupLoop c list (payload ++ [info.id]) =
        .ok (.ok (payload ++ [info.id] ++ list.map UInt8.ofNat)) :=
      ih (fun v hv => hmem v (List.mem_cons_of_mem _ hv)) (by simp)
        (by rw [List.length_append, List.length_singleton]; omega)
    simp only [createGroupLoop, hvar]
    rw [if_pos (by omega), hrest, hid hinfo, List.append_assoc]
    rfl

/-- And nothing else is. -/
theorem createGroupLoop_sent (hid : ∀ {i info}, c.vars[i]? = some info → info.id = UInt8.ofNat i)
    {list : List Nat} {payload payload' : List UInt8}
    (h : createGroupLoop c list payload = .ok (.ok payload')) :
    payload' = payload ++ list.map UInt8.ofNat ∧ (∀ var ∈ list, var < c.vars.length) ∧ payload' ≠ [] := by
  induction list generalizing payload with
  | nil =>
    unfold createGroupLoop at h
    split at h
    · cases h
    · next hne =>
      cases h
      exact ⟨by simp, by simp, hne⟩
  | cons var list ih =>
    unfold createGroupLoop at h
    split at h
    · cases h
    next info hvar =>
    have hinfo : c.vars[var]? = some info := hvar
    split at h
    · obtain ⟨hpay, hmem, hne⟩ := ih h
      refine ⟨?_, List.forall_mem_cons.mpr ⟨(List.getElem?_eq_some_iff.mp hinfo).1, hmem⟩, hne⟩
      rw [hpay, hid hinfo, List.append_assoc]
      rfl
    · cases h

theorem pairwise_ofNat {vars : List Nat} (h : ∀ var ∈ vars, (UInt8.ofNat var).toNat = var) :
    (vars.map UInt8.ofNat).Pairwise (· < ·) ↔ vars.Pairwise (· < ·) := by
  rw [List.pairwise_map]
  refine List.Pairwise.iff_of_mem fun hv hw => ?_
  rw [UInt8.lt_iff_toNat_lt, h _ hv, h _ hw]

/-- The server takes the ids that the client packs exactly when it grants the group. -/
theorem RepInv.takesGroup_iff (h : RepInv sys) {vars : List Nat}
    (hmem : ∀ var ∈ vars, var < sys.server.vars.length) :
    TakesGroup sys (vars.map UInt8.ofNat) ↔ (Operation.createGroup (some vars)).Granted sys := by
  have hcount := h.vars.count
  have hbyte : ∀ var ∈ vars, (UInt8.ofNat var).toNat = var := fun var hv =>
    UInt8.toNat_ofNat_of_lt (Nat.lt_of_lt_of_le (hmem var hv) (hcount.trans (by decide)))
  constructor
  · intro ht
    exact ⟨fun hnil => ht.ne_nil (by rw [hnil]; rfl), ht.room, hmem, (pairwise_ofNat hbyte).mp ht.sorted⟩
  · rintro ⟨hne, hroom, -, hsorted⟩
    refine ⟨mt List.map_eq_nil_iff.mp hne, hroom, fun id hid => ?_, (pairwise_ofNat hbyte).mpr hsorted⟩
    obtain ⟨var, hvar, rfl⟩ := List.mem_map.mp hid
    rw [hbyte var hvar]
    exact hmem var hvar

end Requests

/-! ## The command itself -/

section Command

variable {sys : System σ} {op : Operation}

/-- What the server has done with a command that changes its groups only. -/
theorem RepInv.regrouped (h : RepInv sys) {md5 : Md5} {input : Request} {area : Nat → UInt8}
    {system : System σ} {a : Message} {count : Nat} (hresp : respond md5 sys input area = .ok (system, a))
    (hvars : system.server.vars = sys.server.vars) (hobjs : system.objs = sys.objs)
    (hcount : system.server.groups.count = count)
    (hsame : system.server.groups.count = sys.server.groups.count →
      system.groupsDescribed = sys.groupsDescribed) :
    Regrouped sys system.clearModified count := by
  have hinv := ((respond_outcome md5 h input area).of_ok hresp).repInv (h.same (clearModified_same _))
  exact ⟨hinv.same (clearModified_same _), hvars, hobjs, hcount, hsame⟩

/-- The ids of a group that the server grants are packed, and it creates the group. -/
theorem Operation.Granted.created {c : Client} {vars : List Nat}
    (hg : (Operation.createGroup (some vars)).Granted sys) (h : RepInv sys) (hd : Describes c sys)
    (md5 : Md5) (area : Nat → UInt8) :
    ∃ payload system, (Operation.createGroup (some vars)).prepare c = .ok (.ok payload) ∧
      respond md5 sys (request CommandCode.groupCreate.toByte payload) area = .ok (system, answer .ok) ∧
      Regrouped sys system.clearModified (sys.server.groups.count + 1) := by
  have h' : RepInv sys.clearModified := h.same (clearModified_same _)
  have hcount := h.vars.count
  have hmem : ∀ var ∈ vars, var < c.vars.length := by
    rw [hd.vars_length]
    exact hg.2.2.1
  have htake : TakesGroup sys.clearModified (vars.map UInt8.ofNat) :=
    (h'.takesGroup_iff hg.2.2.1).mpr hg
  have hlen := htake.length_le
  have hlen' : (vars.map UInt8.ofNat).length + bsmpHeaderSize ≤ bsmpMaxPayload :=
    Nat.le_trans (Nat.add_le_add_right (hlen.trans hcount) _) (by decide)
  have hmax : ([] : List UInt8).length + vars.length ≤ bsmpMaxPayload := by
    rw [List.length_map] at hlen'
    exact (Nat.zero_add _).trans_le (Nat.le_of_add_right_le hlen')
  have hprep : (Operation.createGroup (some vars)).prepare c = .ok (.ok (vars.map UInt8.ofNat)) :=
    createGroupLoop_packs (hd.var_id h) hmem htake.ne_nil hmax
  obtain ⟨system, a, hrun, ⟨-, rfl, hvars, hobjs, hgroups⟩ | ⟨hno, -⟩⟩ :=
    h'.groupCreate_cases (Nat.le_of_add_right_le hlen')
  · have hresp : respond md5 sys (request CommandCode.groupCreate.toByte (vars.map UInt8.ofNat)) area =
        .ok (system, answer .ok) := (respond_request rfl hlen').trans hrun
    refine ⟨_, system, hprep, hresp, h.regrouped hresp hvars hobjs hgroups fun hsame => ?_⟩
    exact absurd (hgroups.symm.trans hsame) (Nat.succ_ne_self _)
  · exact absurd htake hno

theorem Operation.Granted.answered {c : Client} (hg : op.Granted sys) (h : RepInv sys) (hd : Describes c sys)
    (md5 : Md5) (area : Nat → UInt8) :
    ∃ payload system, op.prepare c = .ok (.ok payload) ∧
      respond md5 sys (request op.cmd.toByte payload) area = .ok (system, answer .ok) ∧
      Regrouped sys system.clearModified (op.groupsLeft sys) := by
  cases op with
  | createGroup list =>
    obtain _ | vars := list
    · cases hg
    · exact hg.created h hd md5 area
  | removeAllGroups =>
    have hlen : ([] : List UInt8).length + bsmpHeaderSize ≤ bsmpMaxPayload := by decide
    have hresp : respond md5 sys (request Operation.removeAllGroups.cmd.toByte []) area =
        .ok ({ sys.clearModified with server.groups.count := groupStandardCount }, answer .ok) :=
      (respond_request rfl hlen).trans rfl
    have hprep : Operation.removeAllGroups.prepare c = .ok (.ok []) :=
      packed_ok (Nat.le_of_add_right_le hlen)
    refine ⟨[], _, hprep, hresp, h.regrouped hresp rfl rfl rfl fun hsame => ?_⟩
    have hcount : groupStandardCount = sys.server.groups.count := hsame
    simp only [System.groupsDescribed, hcount]
    rfl
  | _ => cases hg

/-- The command of an operation that an update follows. -/
def Operation.commanded {τ : Type} (op : Operation) (comm : Comm τ) : Action τ (BsmpErr × Unit) :=
  operate comm op.cmd op.prepare () fun _ => accepting .ok () fun _ => .ok ()

section Run

variable {τ : Type} (comm : Comm τ)

theorem Operation.run_createGroup (list : Option (List Nat)) : (createGroup list).run comm =
    Prod.fst <$> followedBy ((createGroup list).commanded comm) (updateGroupsList comm) := rfl

theorem Operation.run_removeAllGroups : removeAllGroups.run comm =
    Prod.fst <$> followedBy (removeAllGroups.commanded comm) (updateGroupsList comm) := rfl

theorem Operation.run_recalcChecksum (curve : Option Nat) : (recalcChecksum curve).run comm =
    Prod.fst <$> followedBy ((recalcChecksum curve).commanded comm) (updateCurvesList comm) := rfl

end Run

/-- One that succeeds was answered with `CMD_OK`. -/
theorem followedBy_success {τ : Type} {comm : Comm τ} {s s' : Session τ} {update : Action τ BsmpErr}
    (h : (Prod.fst <$> followedBy (op.commanded comm) update) s = .ok (.success, s')) :
    ∃ payload r s₁, op.prepare s.client = .ok (.ok payload) ∧
      Session.command comm op.cmd payload s = .ok (some r, s₁) ∧ r.code = CommandCode.ok.toByte := by
  rw [map_eq_pure_bind] at h
  obtain ⟨⟨err, ⟨⟩⟩, s₂, hfollow, herr⟩ := Stateful.bind_ok_iff.mp h
  cases herr
  obtain ⟨⟨err, ⟨⟩⟩, s₃, hop, -⟩ := Stateful.bind_ok_iff.mp hfollow
  have hsuccess : err = .success := by
    by_contra hne
    cases hfollow.symm.trans (followedBy_failed hop hne)
    exact hne rfl
  subst hsuccess
  rcases hprep : op.prepare s.client with f | err | payload
  · cases (operate_fault hprep).symm.trans hop
  · cases (operate_reject hprep).symm.trans hop
    exact absurd rfl (op.prepare_refuses _ _ hprep)
  rw [Operation.commanded, operate_send hprep] at hop
  obtain ⟨r, s₁, hcmd, hfin⟩ := Stateful.bind_ok_iff.mp hop
  cases r with
  | none => cases hfin
  | some r =>
    refine ⟨payload, r, s₁, rfl, hcmd, by_contra fun hcode => ?_⟩
    have hcomm : accepting .ok () (fun _ => .ok ()) r = .ok (.comm, ()) := if_neg hcode
    simp only [hcomm] at hfin
    cases hfin

variable {s s' : Session (Lossy σ)} {update : Action (Lossy σ) BsmpErr}

/-- So its answer arrived, and the server said `CMD_OK`. -/
theorem answered_of_success (h : RepInv s.chan.peer.system)
    (hrun : (Prod.fst <$> followedBy (op.commanded (lossy md5 area noise fates)) update) s =
      .ok (.success, s')) :
    fates s.chan.begun = .delivered ∧ ∃ payload system a, op.prepare s.client = .ok (.ok payload) ∧
      respond md5 s.chan.peer.system (request op.cmd.toByte payload) area = .ok (system, a) ∧
      a.commandCode = CommandCode.ok.toByte ∧ Admits op.cmd.toByte a.commandCode := by
  obtain ⟨payload, r, s₁, hprep, hcmd, hok⟩ := followedBy_success hrun
  obtain ⟨⟨system, a⟩, hresp, ho⟩ :=
    respond_outcome md5 h (request op.cmd.toByte payload) area
  obtain ⟨hf, hcode⟩ := command_some hresp hcmd
  exact ⟨hf, payload, system, a, hprep, hresp, hcode.symm.trans hok, ho.code⟩

theorem granted_createGroup {list : Option (List Nat)} (h : RepInv s.chan.peer.system)
    (hd : Describes s.client s.chan.peer.system)
    (hrun : (Operation.createGroup list).run (lossy md5 area noise fates) s = .ok (.success, s')) :
    (Operation.createGroup list).Granted s.chan.peer.system := by
  rw [Operation.run_createGroup] at hrun
  obtain ⟨-, payload, system, a, hprep, hresp, hok, -⟩ := answered_of_success h hrun
  cases list with
  | none => cases hprep
  | some vars =>
    have hprep' : createGroupLoop s.client vars [] = .ok (.ok payload) := hprep
    obtain ⟨rfl, hmem, -⟩ := createGroupLoop_sent (hd.var_id h) hprep'
    rw [hd.vars_length] at hmem
    have hlen := createGroupLoop_length (Nat.zero_le _) hprep'
    rw [List.length_nil, Nat.zero_add, ← List.length_map UInt8.ofNat] at hlen
    have hmsg := request_message CommandCode.groupCreate.toByte hlen
    have hc : command md5 area (request CommandCode.groupCreate.toByte
        (vars.map UInt8.ofNat)).message.commandCode (σ := σ) = some groupCreate := by
      rw [hmsg]
      rfl
    have h' : RepInv s.chan.peer.system.clearModified := h.same (clearModified_same _)
    rcases respond_command hc hresp with ⟨-, rfl⟩ | ⟨-, hrun'⟩
    · cases hok
    rw [hmsg] at hrun'
    obtain ⟨system', a', hcreate, ⟨htake, -⟩ | ⟨-, herr⟩⟩ := h'.groupCreate_cases hlen
    · exact (h'.takesGroup_iff hmem).mp htake
    · cases hrun'.symm.trans hcreate
      rw [hok] at herr
      cases herr

/-- The server has no such answer to `CMD_CURVE_RECALC_CSUM`. -/
theorem not_success_recalcChecksum {curve : Option Nat} (h : RepInv s.chan.peer.system) :
    (Operation.recalcChecksum curve).run (lossy md5 area noise fates) s ≠ .ok (.success, s') := by
  intro hrun
  rw [Operation.run_recalcChecksum] at hrun
  obtain ⟨-, payload, system, a, -, -, hok, herr | ⟨c, d, hc, hd, hcode⟩⟩ := answered_of_success h hrun
  · rw [hok] at herr
    cases herr
  · cases CommandCode.toByte_inj (c := .curveRecalcCsum) hc
    cases List.mem_singleton.mp hd
    rw [hok] at hcode
    cases hcode

/-- A granted operation returns success, and leaves what the update made of the list. -/
theorem Operation.Granted.run (hg : op.Granted s.chan.peer.system) (h : RepInv s.chan.peer.system)
    (hd : Describes s.client s.chan.peer.system) (hf : fates s.chan.begun = .delivered)
    (md5 : Md5) (area noise : Nat → UInt8) :
    ∃ system s', (Prod.fst <$> followedBy (op.commanded (lossy md5 area noise fates))
        (updateGroupsList (lossy md5 area noise fates))) s = .ok (.success, s') ∧
      Regrouped s.chan.peer.system system (op.groupsLeft s.chan.peer.system) ∧
      Relisted fates (s.chan.begun + 1) system s.client s'.client.groups ∧
      s'.chan.peer.system.clearModified = system := by
  obtain ⟨payload, system, hprep, hresp, hleft⟩ := hg.answered h hd md5 area
  obtain ⟨r, t, hcmd, hcarries, hclient, hsystem⟩ :=
    command_link noise (s := s.below) hresp (sendable_answer .ok)
  have hop : op.commanded (lossy md5 area noise fates) s =
      .ok ((.success, ()), t.above (s.chan.begun + 1)) := by
    have haccept : accepting .ok () (fun _ => .ok ()) r = .ok (.success, ()) := if_pos hcarries.code
    rw [Operation.commanded, operate_send hprep, bind_of (command_delivered hf hcmd)]
    simp only [haccept]
    rfl
  obtain ⟨err, s', hupdate, hlist, hsystem'⟩ := updateGroupsList_lossy md5 area noise fates
    hleft.repInv (s := t.above (s.chan.begun + 1)) (congrArg System.clearModified hsystem)
  refine ⟨_, s', map_of (followedBy_done hop hupdate), hleft, ?_, hsystem'⟩
  rw [show (t.above (s.chan.begun + 1)).client = s.client from hclient] at hlist
  exact hlist

/-- The list that is left is the server's when it was read, up to 127 variables,
or when it was kept and nothing has changed. -/
theorem Relisted.described_iff {n count : Nat} {system : System σ} {c : Client} {groups : List ClientGroup}
    (hr : Relisted fates n system c groups) (hg : Regrouped sys system count) (h : RepInv sys)
    (hd : Describes c sys) :
    groups = system.groupsDescribed ↔
      sys.server.vars.length ≤ 127 ∧ Clear fates n (count + 1) ∨
        fates n ≠ .delivered ∧ count = sys.server.groups.count := by
  obtain ⟨hinv, hvars, hobjs, hcount, hsame⟩ := hg
  rw [← hcount]
  cases hr with
  | kept hlist =>
    have hlost : ¬ Clear fates n (system.server.groups.count + 1) := fun hc => hlist (clear_succ.mp hc).1
    constructor
    · intro hgroups
      refine .inr ⟨hlist, ?_⟩
      have hlen := congrArg List.length (hd.groups.symm.trans hgroups)
      simpa [System.groupsDescribed] using hlen.symm
    · rintro (⟨-, hc⟩ | ⟨-, heq⟩)
      · exact absurd hc hlost
      · exact hd.groups.trans (hsame heq).symm
  | emptied hlist hgroups =>
    constructor
    · intro hnone
      have hlen := congrArg List.length hnone
      have hpos := hinv.standard
      simp [System.groupsDescribed] at hlen
      simp only [groupStandardCount] at hpos
      omega
    · rintro (⟨-, hc⟩ | ⟨hlost, -⟩)
      · exact absurd (clear_succ.mp hc).2 hgroups
      · exact absurd hlist hlost
  | read hclear =>
    rw [← hvars]
    constructor
    · intro hgroups
      refine .inl ⟨by_contra fun hlen => ?_, hclear⟩
      exact hinv.groupSeen_full _ hlen (List.map_inj_left.mp hgroups 0 hinv.zero_mem_groups)
    · rintro (⟨hlen, -⟩ | ⟨hlost, -⟩)
      · refine List.map_inj_left.mpr fun i hi =>
          hinv.groupSeen_of (fun p hp => ?_) hlen (List.mem_range.mp hi)
        rw [hvars] at hp
        rw [hobjs, hd.vars, List.getD_eq_getElem?_getD, List.getElem?_map, h.varId hp]
        rfl
      · exact absurd (clear_succ.mp hclear).1 hlost

/-- The two operations on groups. -/
theorem keepsGroups_iff (h : RepInv s.chan.peer.system) (hd : Describes s.client s.chan.peer.system)
    (hrun : op.run (lossy (σ := σ) md5 area noise fates) =
      Prod.fst <$> followedBy (op.commanded (lossy md5 area noise fates))
        (updateGroupsList (lossy md5 area noise fates)))
    (hcurrent : ∀ c (sys : System σ), op.Current c sys ↔ c.groups = sys.groupsDescribed)
    (hgranted : ∀ s', op.run (lossy md5 area noise fates) s = .ok (.success, s') →
      op.Granted s.chan.peer.system) :
    KeepsList md5 area noise fates s op ↔ op.Unharmed fates s.chan.begun s.chan.peer.system := by
  constructor
  · intro hkeeps hg hf
    obtain ⟨_, s', hrun', hleft, hlist, rfl⟩ := hg.run h hd hf md5 area noise
    rw [← hrun] at hrun'
    exact (hlist.described_iff hleft h hd).mp ((hcurrent _ _).mp (hkeeps s' hrun'))
  · intro hunharmed s' hrun'
    have hg := hgranted s' hrun'
    rw [hrun] at hrun'
    have hf := (answered_of_success h hrun').1
    obtain ⟨_, s₁, hrun₁, hleft, hlist, rfl⟩ := hg.run h hd hf md5 area noise
    cases hrun'.symm.trans hrun₁
    exact (hcurrent _ _).mpr ((hlist.described_iff hleft h hd).mpr (hunharmed hg hf))

end Command

/-- **Lists under failures.** A client whose lists are the server's calls an
operation, and each exchange meets with any fate. Success is returned only
with the list up to date if and only if the failures do it no harm: once
`CMD_OK` has arrived for a group created or the groups removed, either all
queries of the update are delivered, with no more variables than a group's
entry can count, or the list query is lost with the number of groups as it
was. `bsmp_recalc_checksum` never returns success. -/
theorem keepsList_iff (md5 : Md5) (area noise : Nat → UInt8) (fates : Nat → Fate) (s : Session (Lossy σ))
    (op : Operation) (hs : Reachable md5 s.chan.peer.system) (hd : Describes s.client s.chan.peer.system) :
    KeepsList md5 area noise fates s op ↔ op.Unharmed fates s.chan.begun s.chan.peer.system := by
  have h := hs.repInv
  cases op with
  | createGroup list =>
    exact keepsGroups_iff h hd (Operation.run_createGroup _ list) (fun _ _ => .rfl)
      fun s' hrun => granted_createGroup h hd hrun
  | removeAllGroups =>
    exact keepsGroups_iff h hd (Operation.run_removeAllGroups _) (fun _ _ => .rfl) fun _ _ => trivial
  | recalcChecksum curve =>
    exact iff_of_true (fun s' hrun => absurd hrun (not_success_recalcChecksum h)) fun hg => hg.elim
  | _ => exact iff_of_true (fun s' hrun => trivial) fun hg => hg.elim

/-- A group is created on the plant, and the query of the last group is lost. -/
theorem keepsList_iff_plant :
    KeepsList byteSum (fun _ => 0) (fun _ => 0) (fun n => if n = 5 then .sendFails false else .delivered)
      ⟨plantClient, ⟨⟨plant, none⟩, 0⟩, []⟩ (.createGroup (some [1])) ↔
      (Operation.createGroup (some [1])).Unharmed
        (fun n => if n = 5 then .sendFails false else .delivered) 0 plant :=
  keepsList_iff byteSum _ _ _ ⟨plantClient, ⟨⟨plant, none⟩, 0⟩, []⟩ _ plant_reachable plantClient_describes

/-- The answer to the list query is lost: the client is told success, and knows
three groups of four. -/
theorem createGroup_outdated :
    Reachable byteSum plant ∧ Describes plantClient plant ∧
      ∃ s', (Operation.createGroup (some [1])).run (lossy byteSum (fun _ => 0) (fun _ => 0)
          fun n => if n = 1 then .recvFails true else .delivered)
          ⟨plantClient, ⟨⟨plant, none⟩, 0⟩, []⟩ = .ok (.success, s') ∧
        s'.client.groups.length = 3 ∧ s'.chan.peer.system.server.groups.count = 4 ∧
        ¬ (Operation.createGroup (some [1])).Current s'.client s'.chan.peer.system := by
  refine ⟨plant_reachable, plantClient_describes, _, rfl, rfl, rfl, fun hcurrent => ?_⟩
  have hlen := congrArg List.length hcurrent
  cases hlen

end UdcFirmware.Bsmp
