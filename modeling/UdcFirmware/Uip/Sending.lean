/-
What uIP sends. A packet is headers alone, or what the application has just
given `uip_send`; the checksums are right either way.
-/
import UdcFirmware.Uip.Connections

namespace UdcFirmware.Uip

open Bsmp ByteMem Checked Drivers

variable {τ : Type} {app : App τ} {s s' : Stack τ} {i : Connection} {p q : Packet} {fuel : Nat}

/-! ## Checksums -/

theorem wordSum_ipHeader {h : IpHeader} (hzero : h.ipchksum = 0) (c : UInt16) :
    wordSum { h with ipchksum := c }.bytes = wordSum h.bytes + c.toNat := by
  have hnone : UInt16.toNat 0 = 0 := rfl
  simp only [IpHeader.bytes, IpAddr.bytes, beBytes, List.cons_append, List.nil_append, wordSum, ofBeBytes_beBytes,
    hzero, hnone]
  omega

theorem wordSum_tcpHeader {h : TcpHeader} (hzero : h.tcpchksum = 0) (c : UInt16) :
    wordSum { h with tcpchksum := c }.bytes = wordSum h.bytes + c.toNat := by
  have hsplit (h : TcpHeader) : wordSum h.bytes = wordSum (beBytes h.srcport ++ beBytes h.destport ++
      beBytes32 h.seqno ++ beBytes32 h.ackno ++ [h.tcpoffset, h.flags] ++ beBytes h.wnd) + h.tcpchksum.toNat +
        h.urgp.toNat := by
    rw [TcpHeader.bytes, wordSum_append (by simp [beBytes, beBytes32]),
      wordSum_append (l := _ ++ beBytes h.wnd) (by simp [beBytes, beBytes32]), wordSum_beBytes, wordSum_beBytes]
  have hnone : UInt16.toNat 0 = 0 := rfl
  rw [hsplit, hsplit h, hzero, hnone]
  dsimp only
  omega

/-- A header with its checksum. -/
theorem uipIpchksum_set {h : IpHeader} (hzero : h.ipchksum = 0) :
    uipIpchksum { h with ipchksum := ~~~ uipIpchksum h } = 0xffff := by
  rw [uipIpchksum, verifies_iff, wordSum_ipHeader hzero, ← Nat.add_assoc]
  exact complement_verifies 0 h.bytes

/-- A segment with its checksum, if it has a whole header. -/
theorem uipTcpchksum_set {p : Packet} (hzero : p.tcpchksum = 0) (hlen : 40 ≤ p.len) :
    uipTcpchksum { p with tcpchksum := ~~~ uipTcpchksum p } = 0xffff := by
  have hbytes : ∃ n, (p.len - 20).toNat = uipTcphLen + n := by
    refine Nat.exists_eq_add_of_le ?_
    rw [UInt16.le_iff_toNat_le] at hlen
    have hlen' : (40 : UInt16).toNat = 40 ∧ (20 : UInt16).toNat = 20 := ⟨rfl, rfl⟩
    rw [UInt16.toNat_sub_of_le]
    · simp only [uipTcphLen]
      omega
    · rw [UInt16.le_iff_toNat_le]
      omega
  obtain ⟨n, hn⟩ := hbytes
  have hcomplete := complement_verifies (chksum (p.len - 20 + uipProtoTcp.toUInt16)
    (p.srcipaddr.bytes ++ p.destipaddr.bytes)) (p.toTcpHeader.bytes ++ bytesOf p.data n)
  have hsum : uipTcpchksum p = settled (chksum (chksum (p.len - 20 + uipProtoTcp.toUInt16)
      (p.srcipaddr.bytes ++ p.destipaddr.bytes)) (p.toTcpHeader.bytes ++ bytesOf p.data n)) := by
    simp only [uipTcpchksum, upperLayerChksum, hn, bytesOf_rest]
  rw [← hsum, wordSum_append (by simp)] at hcomplete
  rw [uipTcpchksum, upperLayerChksum]
  dsimp only
  rw [hn, bytesOf_rest, verifies_iff, wordSum_append (by simp), wordSum_tcpHeader hzero]
  refine Eq.trans (congrArg (· % 65535) ?_) hcomplete
  dsimp only
  omega

/-! ## A packet -/

/-- A packet as `tcp_send_noconn` leaves it. -/
structure Packet.Made (q : Packet) : Prop where
  vhl : q.vhl = 0x45
  ipoffset : q.ipoffset = 0
  proto : q.proto = uipProtoTcp
  ipchksum : uipIpchksum q.toIpHeader = 0xffff
  tcpchksum : 40 ≤ q.len → uipTcpchksum q = 0xffff

/-- The data in a segment. -/
def Packet.payload (q : Packet) : List UInt8 := appdata q 0 q.dataLen

/-- Headers alone, with the option of a SYN or without. -/
def Packet.Bare (q : Packet) : Prop := q.len = 40 ∧ q.tcpoffset = 0x50 ∨ q.len = 44 ∧ q.tcpoffset = 0x60

theorem Packet.Bare.payload (h : q.Bare) : q.payload = [] := by
  have hlen : q.dataLen = 0 := by
    rcases h with ⟨hlen, hoffset⟩ | ⟨hlen, hoffset⟩ <;> rw [Packet.dataLen, hlen, hoffset] <;> decide
  rw [Packet.payload, hlen]
  rfl

/-- What `tcp_send_noconn` sends. -/
theorem tcpSendNoconn_sends (s : Stack τ) (p : Packet) (n : UInt16) (hproto : p.proto = uipProtoTcp) :
    ∃ q, (tcpSendNoconn s p n).2 = some q ∧ q.Made ∧ q.len = n ∧ q.tcpoffset = p.tcpoffset ∧ q.data = p.data := by
  refine ⟨_, rfl, ⟨rfl, rfl, hproto, uipIpchksum_set rfl, fun hlen => ?_⟩, rfl, rfl, rfl⟩
  exact uipTcpchksum_set (p := { p with ttl := uipTtl, len := n, urgp := 0, tcpchksum := 0 }) rfl hlen

/-- What a call of `uip_process` sends. Before it the state of the application is `a`, its calls are `log`, and
connection `i` is `c`, after the acknowledgement in a segment. -/
inductive Emits (app : App τ) (a : τ) (log : List AppCall) (i : Connection) (c : Conn)
    (r : Stack τ × Option Packet) : Prop
  | nothing (h : r.2 = none)
  | bare (q : Packet) (h : r.2 = some q) (hmade : q.Made) (hbare : q.Bare)
  /-- As many bytes as are outstanding after it, from where the application's have been copied to. -/
  | data (q : Packet) (h : r.2 = some q) (hmade : q.Made) (call : AppCall) (hcalls : r.1.calls = log ++ [call])
      (hconn : call.conn = i) (reply : AppReply) (a' : τ) (happ : app call a = .ok (reply, a'))
      (hsend : reply.send ≠ []) (hshort : reply.send.length ≤ uipTcpMss + 2)
      (hlen : q.len = (r.1.conns i).len + 40) (hoffset : q.tcpoffset = 0x50)
      (hdata : bytesOf q.data reply.send.length = reply.send)
      (hcut : c.len = 0 → (r.1.conns i).len.toNat ≤ reply.send.length)

section Emits

variable {a : τ} {log : List AppCall} {slen : UInt16} {c : Conn}

theorem tcpSend_emits (s : Stack τ) (i j : Connection) (p : Packet) (n : UInt16)
    (hbare : n = 40 ∧ p.tcpoffset = 0x50 ∨ n = 44 ∧ p.tcpoffset = 0x60) :
    Emits app a log j c (tcpSend s i p n) := by
  obtain ⟨q, hq, hmade, hlen, hoffset, -⟩ := tcpSendNoconn_sends s
    { p with
      ackno := (s.conns i).rcvNxt, seqno := (s.conns i).sndNxt, proto := uipProtoTcp
      srcport := (s.conns i).lport, destport := (s.conns i).rport, srcipaddr := s.hostaddr
      destipaddr := (s.conns i).ripaddr, wnd := uipReceiveWindow } n rfl
  refine .bare q hq hmade ?_
  rw [Packet.Bare, hlen, hoffset]
  exact hbare

theorem tcpSendNodata_emits (s : Stack τ) (i j : Connection) (p : Packet) :
    Emits app a log j c (tcpSendNodata s i p) := tcpSend_emits s i j _ 40 (.inl ⟨rfl, rfl⟩)

theorem tcpSendSyn_emits (s : Stack τ) (i j : Connection) (p : Packet) :
    Emits app a log j c (tcpSendSyn s i p) := tcpSend_emits s i j _ 44 (.inr ⟨rfl, rfl⟩)

theorem reset_emits (s : Stack τ) (i : Connection) (hproto : p.proto = uipProtoTcp) :
    Emits app a log i c (reset s p) := by
  unfold reset
  split
  · exact .nothing rfl
  · obtain ⟨q, hq, hmade, hlen, hoffset, -⟩ := tcpSendNoconn_sends s
      { p with
        flags := tcpRst ||| tcpAck, tcpoffset := (5 : UInt8) <<< 4, seqno := p.ackno, ackno := p.seqno + 1
        srcport := p.destport, destport := p.srcport, destipaddr := p.srcipaddr
        srcipaddr := s.hostaddr } 40 hproto
    exact .bare q hq hmade (.inl ⟨hlen, hoffset⟩)

/-- What the application has given `uip_send` is in the buffer. -/
structure Replied (app : App τ) (a : τ) (log : List AppCall) (i : Connection) (s : Stack τ) (slen : UInt16)
    (data : Nat → UInt8) : Prop where
  exists_reply : ∃ call reply a', s.calls = log ++ [call] ∧ call.conn = i ∧ app call a = .ok (reply, a') ∧
    reply.send.length ≤ uipTcpMss + 2 ∧ slen = UInt16.ofNat reply.send.length ∧
    bytesOf data reply.send.length = reply.send

theorem bytesOf_store (buf : Nat → UInt8) (bytes : List UInt8) :
    bytesOf (store buf 0 bytes) bytes.length = bytes := by
  have h := load_store buf 0 bytes
  simpa [load, bytesOf] using h

theorem appcall_replied {flags : Flags} {data : List UInt8} {buf : Nat → UInt8}
    {r : Flags × UInt16 × (Nat → UInt8) × Stack τ} (h : s.appcall app i flags data buf = .ok r) :
    Replied app s.app s.calls i r.2.2.2 r.2.1 r.2.2.1 := by
  obtain ⟨⟨reply, a⟩, happ, h⟩ := bind_ok_iff.mp h
  simp only at h
  split at h
  · cases h
  · next hshort =>
    cases h
    exact ⟨_, reply, a, rfl, rfl, happ, Nat.not_lt.mp hshort, rfl, bytesOf_store ..⟩

theorem apprexmit_emits (h : Replied app a log i s slen p.data) {slen' : UInt16} (hslen : slen' > 0 → slen > 0)
    (hcut : c.len = 0 → slen' > 0 → (s.conns i).len ≤ slen) (flags : Flags) :
    Emits app a log i c (apprexmit s i flags slen' p) := by
  obtain ⟨call, reply, a', hcalls, hconn, happ, hshort, hreply, hdata⟩ := h
  unfold apprexmit
  split
  · next hsend =>
    obtain ⟨q, hq, hmade, hlen, hoffset, hsame⟩ := tcpSendNoconn_sends s
      { p with
        flags := tcpAck ||| tcpPsh, tcpoffset := (5 : UInt8) <<< 4
        ackno := (s.conns i).rcvNxt, seqno := (s.conns i).sndNxt, proto := uipProtoTcp
        srcport := (s.conns i).lport, destport := (s.conns i).rport, srcipaddr := s.hostaddr
        destipaddr := (s.conns i).ripaddr, wnd := uipReceiveWindow } ((s.conns i).len + 40) rfl
    have hne : reply.send ≠ [] := by
      rintro hnil
      have hpos := hslen hsend.1
      rw [hreply, hnil] at hpos
      exact absurd hpos (by decide)
    refine .data q hq hmade call hcalls hconn reply a' happ hne hshort hlen hoffset (hsame ▸ hdata) fun hc => ?_
    have hle := UInt16.le_iff_toNat_le.mp (hcut hc hsend.1)
    rw [hreply, UInt16.toNat_ofNat'] at hle
    exact hle.trans (Nat.mod_le _ _)
  · split
    · exact tcpSendNodata_emits s i i _
    · exact .nothing rfl

theorem Conn.appsend_le (hlen : c.len = 0) (flags : Flags) (slen : UInt16) :
    (c.appsend flags slen).1.len ≤ slen := by
  have hacked : (if flags.ackdata then { c with len := 0 } else c).len = 0 := by
    split
    · rfl
    · exact hlen
  have hcut (c : Conn) : (if slen > c.mss then c.mss else slen) ≤ slen := by
    split
    · next hlt => exact UInt16.le_of_lt hlt
    · exact UInt16.le_refl _
  unfold Conn.appsend
  dsimp only
  rw [if_pos hacked]
  exact hcut _

theorem appsend_emits (h : Replied app a log i s slen p.data) (flags : Flags) :
    Emits app a log i (s.conns i) (appsend s i flags slen p) := by
  have hset (c : Conn) : Replied app a log i (s.setConn i c) slen p.data := ⟨h.exists_reply⟩
  unfold appsend
  split
  · exact tcpSendNodata_emits _ i i _
  · split
    · exact tcpSendNodata_emits _ i i _
    · split
      next c slen' hpair =>
      have hpos : slen' > 0 → slen > 0 := by
        intro hpos
        by_contra hnone
        rw [if_neg hnone] at hpair
        cases hpair
        exact hnone hpos
      refine apprexmit_emits (hset _) hpos (fun hlen hsend => ?_) flags
      rw [if_pos (hpos hsend)] at hpair
      have hle := (s.conns i).appsend_le hlen flags slen
      rw [hpair] at hle
      rw [setConn_self]
      exact hle

/-- A call of the application, and `appsend` after it. -/
theorem called_emits {flags : Flags} {data : List UInt8} {buf : Nat → UInt8}
    {r : Flags × UInt16 × (Nat → UInt8) × Stack τ} (h : s.appcall app i flags data buf = .ok r) :
    Emits app s.app s.calls i (s.conns i) (appsend r.2.2.2 i r.1 r.2.1 { p with data := r.2.2.1 }) := by
  rw [← (appcall_ok h).2.conns]
  exact appsend_emits (p := { p with data := r.2.2.1 }) (appcall_replied h) r.1

/-- A call of the application, and `apprexmit`. -/
theorem recalled_emits {flags : Flags} {data : List UInt8} {buf : Nat → UInt8}
    {r : Flags × UInt16 × (Nat → UInt8) × Stack τ} (h : s.appcall app i flags data buf = .ok r) :
    Emits app s.app s.calls i (s.conns i) (apprexmit r.2.2.2 i r.1 r.2.1 { p with data := r.2.2.1 }) := by
  refine apprexmit_emits (p := { p with data := r.2.2.1 }) (appcall_replied h) id (fun hlen _ => ?_) r.1
  rw [(appcall_ok h).2.conns, hlen]
  exact UInt16.zero_le

theorem Emits.of_len {c' : Conn} {r : Stack τ × Option Packet} (h : Emits app a log i c r)
    (hlen : c'.len = 0 → c.len = 0) : Emits app a log i c' r := by
  cases h with
  | nothing h => exact .nothing h
  | bare q h hmade hbare => exact .bare q h hmade hbare
  | data q h hmade call hcalls hconn reply a' happ hsend hshort hqlen hoffset hdata hcut =>
    exact .data q h hmade call hcalls hconn reply a' happ hsend hshort hqlen hoffset hdata fun hc => hcut (hlen hc)

/-! ## A segment -/

variable {r : Stack τ × Option Packet} {flags : Flags} {n : UInt16}

theorem establishedFin_emits (h : establishedFin app s i flags n p = .ok r) :
    Emits app s.app s.calls i (s.conns i) r := by
  unfold establishedFin at h
  split at h
  · cases h
    exact .nothing rfl
  · obtain ⟨a, hcall, h⟩ := bind_ok_iff.mp h
    cases h
    exact tcpSendNodata_emits ..

theorem establishedData_emits (h : establishedData app s i flags n p = .ok r) :
    Emits app s.app s.calls i (s.conns i) r := by
  obtain ⟨skip, hskip⟩ : ∃ skip, skip = if p.has tcpUrg then p.urgp else 0 := ⟨_, rfl⟩
  simp only [establishedData, ← hskip] at h
  split at h
  · obtain ⟨a, hcall, h⟩ := bind_ok_iff.mp h
    cases h
    have hemits := called_emits (p := p) hcall
    rw [setConn_self] at hemits
    refine hemits.of_len fun hlen => ?_
    exact ((s.conns i).received_len (n - skip)).trans hlen
  · cases h
    exact .nothing rfl

theorem finWait1Input_emits (h : finWait1Input app s i flags n p = .ok r) :
    Emits app s.app s.calls i (s.conns i) r := by
  simp only [finWait1Input] at h
  split at h
  · obtain ⟨a, hcall, h⟩ := bind_ok_iff.mp h
    cases h
    exact tcpSendNodata_emits ..
  · split at h
    · cases h
      exact .nothing rfl
    · split at h
      · cases h
        exact tcpSendNodata_emits ..
      · cases h
        exact .nothing rfl

theorem finWait2Input_emits (h : finWait2Input app s i n p = .ok r) : Emits app s.app s.calls i (s.conns i) r := by
  simp only [finWait2Input] at h
  split at h
  · obtain ⟨a, hcall, h⟩ := bind_ok_iff.mp h
    cases h
    exact tcpSendNodata_emits ..
  · split at h
    · cases h
      exact tcpSendNodata_emits ..
    · cases h
      exact .nothing rfl

theorem stateInput_emits (hsent : (s.conns i).state ≠ .synSent)
    (h : stateInput fuel app s i flags n p = .ok r) : Emits app s.app s.calls i (s.conns i) r := by
  unfold stateInput at h
  split at h
  · split at h
    · obtain ⟨a, hcall, h⟩ := bind_ok_iff.mp h
      cases h
      have hemits := called_emits (p := p) hcall
      rw [setConn_self] at hemits
      exact hemits.of_len fun _ => Conn.received_len ..
    · cases h
      exact .nothing rfl
  · next hs => exact absurd hs hsent
  · split at h
    · exact establishedFin_emits h
    · exact establishedData_emits h
  · split at h
    · obtain ⟨a, hcall, h⟩ := bind_ok_iff.mp h
      cases h
      exact .nothing rfl
    · cases h
      exact .nothing rfl
  · exact finWait1Input_emits h
  · exact finWait2Input_emits h
  · cases h
    exact tcpSendNodata_emits ..
  · split at h <;> cases h <;> exact .nothing rfl
  · cases h
    exact .nothing rfl

theorem found_emits (hsent : (s.conns i).state ≠ .synSent) (h : found fuel app s i p = .ok r) :
    Emits app s.app s.calls i ((s.conns i).heard p) r := by
  unfold found at h
  split at h
  · obtain ⟨a, hcall, h⟩ := bind_ok_iff.mp h
    cases h
    exact .nothing rfl
  · split at h
    · cases h
      exact tcpSendNodata_emits ..
    · split at h
      · next hack =>
        have hacked : ((s.setConn i (s.conns i).acked).conns i).state ≠ .synSent := by
          rw [setConn_self, (s.conns i).acked_same.2.1]
          exact hsent
        have hemits := stateInput_emits hacked h
        rw [setConn_self] at hemits
        rw [Conn.heard, if_pos hack]
        exact hemits
      · next hack =>
        rw [Conn.heard, if_neg hack]
        exact stateInput_emits hsent h

theorem tcpInput_emits (hsent : ∀ i, (s.conns i).state ≠ .synSent) (hproto : p.proto = uipProtoTcp)
    (h : tcpInput fuel app s p = .ok r) : ∃ i, Emits app s.app s.calls i ((s.conns i).heard p) r := by
  unfold tcpInput at h
  split at h
  · cases h
    exact ⟨0, .nothing rfl⟩
  · split at h
    · next i _ => exact ⟨i, found_emits (hsent i) h⟩
    · split at h
      · cases h
        exact ⟨0, reset_emits s 0 hproto⟩
      · split at h
        · unfold foundListen at h
          split at h
          · cases h
            exact ⟨0, .nothing rfl⟩
          · next i _ =>
            obtain ⟨c, hc, h⟩ := bind_ok_iff.mp h
            cases h
            exact ⟨i, tcpSendSyn_emits ..⟩
        · cases h
          exact ⟨0, reset_emits s 0 hproto⟩

/-! ## A timer -/

theorem retransmit_emits (h : retransmit app s i p = .ok r) : Emits app s.app s.calls i (s.conns i) r := by
  unfold retransmit at h
  split at h
  · cases h
    exact tcpSendSyn_emits ..
  · cases h
    exact tcpSendSyn_emits ..
  · obtain ⟨a, hcall, h⟩ := bind_ok_iff.mp h
    cases h
    exact recalled_emits hcall
  iterate 3
    · cases h
      exact tcpSendNodata_emits ..
  · cases h
    exact .nothing rfl

theorem connTimer_emits (h : connTimer app s i p = .ok r) : Emits app s.app s.calls i (s.conns i) r := by
  dsimp only [connTimer] at h
  split at h
  · cases h
    exact .nothing rfl
  · split at h
    · split at h
      · split at h
        · split at h
          · obtain ⟨a, hcall, h⟩ := bind_ok_iff.mp h
            cases h
            exact tcpSendNodata_emits ..
          · have hemits := retransmit_emits h
            refine hemits.of_len fun hlen => ?_
            rw [setConn_self, setConn_self]
            exact hlen
        · cases h
          exact .nothing rfl
      · split at h
        · obtain ⟨a, hcall, h⟩ := bind_ok_iff.mp h
          cases h
          exact called_emits hcall
        · cases h
          exact .nothing rfl
    · cases h
      exact .nothing rfl

end Emits

/-! ## A step -/

/-- The connection after the acknowledgement that an event brings. -/
def Stack.heard (s : Stack τ) (e : Event) (i : Connection) : Conn :=
  (s.segment e).elim (s.conns i) (s.conns i).heard

/-- A segment that goes out is sent for a connection, or refuses one that comes in. -/
theorem process_emits {e : Event} {r : Stack τ × Output} (hsent : ∀ i, (s.conns i).state ≠ .synSent)
    (hr : process fuel app s e = .ok r) (hq : r.2 = .tcp q) :
    ∃ i, Emits app s.app s.calls i (s.heard e i) (r.1, some q) := by
  cases e with
  | periodic i p =>
    obtain ⟨⟨s₁, out⟩, htimer, hr⟩ := bind_ok_iff.mp hr
    cases hr
    have hemits := connTimer_emits htimer
    rw [Output.ofTcp_tcp hq] at hemits
    exact ⟨i, hemits⟩
  | input uipLen ip rest =>
    obtain ⟨⟨s₁, datagram⟩, haccept, hr⟩ := bind_ok_iff.mp hr
    obtain ⟨reass, rfl⟩ := ipAccept_same haccept
    dsimp only at hr
    split at hr
    · cases hr
      cases hq
    · next ip' rest' =>
      split at hr
      · next hproto =>
        obtain ⟨⟨s₂, out⟩, hinput, hr⟩ := bind_ok_iff.mp hr
        cases hr
        obtain rfl : out = some q := Output.ofTcp_tcp hq
        have hsum : uipTcpchksum (.ofBuffer ip' rest') = 0xffff := by
          by_contra hwrong
          rw [tcpInput, if_pos hwrong] at hinput
          cases hinput
        have hsegment : s.segment (.input uipLen ip rest) = some (.ofBuffer ip' rest') := by
          simp only [Stack.segment, haccept, hproto, hsum, and_self, if_true]
        obtain ⟨i, hemits⟩ := tcpInput_emits (s := { s with reass }) hsent hproto hinput
        refine ⟨i, ?_⟩
        rw [Stack.heard, hsegment]
        exact hemits
      · split at hr
        · split at hr
          · cases hr
            dsimp only at hq
            split at hq <;> cases hq
          · cases hr
            cases hq
        · cases hr
          cases hq

/-! ## Lengths -/

/-- Not more is outstanding than the application can give `uip_send`. -/
def Conn.Short (c : Conn) : Prop := c.len.toNat ≤ uipTcpMss + 2

section Short

variable {c c' : Conn} {calls : List AppCall}

theorem Conn.Short.of_len (h : c.Short) (hlen : c'.len = c.len ∨ c'.len = 0) : c'.Short := by
  rcases hlen with hlen | hlen
  · rw [Short, hlen]
    exact h
  · rw [Short, hlen]
    exact Nat.zero_le _

theorem Conn.Short.heard (h : c.Short) (p : Packet) : (c.heard p).Short := h.of_len (c.heard_len p)

theorem Answers.slen_le {call : AppCall} {flags : Flags} {slen : UInt16} (h : Answers app call flags slen) :
    slen.toNat ≤ uipTcpMss + 2 := by
  obtain ⟨a, reply, a', -, -, hshort, rfl⟩ := h
  rw [UInt16.toNat_ofNat']
  exact (Nat.mod_le _ _).trans hshort

theorem Conn.Short.appsend (h : c.Short) {slen : UInt16} (hslen : slen.toNat ≤ uipTcpMss + 2) (flags : Flags) :
    (c.appsend flags slen).1.Short := by
  have hcut : (if slen > c.mss then c.mss else slen).toNat ≤ uipTcpMss + 2 := by
    split
    · next hlt => exact (Nat.le_of_lt (UInt16.lt_iff_toNat_lt.mp hlt)).trans hslen
    · exact hslen
  unfold Conn.appsend
  dsimp only
  split
  · split
    · exact hcut
    · exact Nat.zero_le _
  · split
    · exact hcut
    · exact h

theorem Conn.Short.appsent (h : c.Short) {flags : Flags} {slen : UInt16} (hslen : slen.toNat ≤ uipTcpMss + 2) :
    (c.appsent flags slen).Short := by
  have hone : UInt16.toNat 1 ≤ uipTcpMss + 2 := by decide
  unfold Conn.appsent
  split
  · exact h
  · split
    · exact hone
    · split
      · exact h.appsend hslen flags
      · exact h

theorem Turn.short (h : Turn app i p c calls c') (hc : c.Short) : c'.Short := by
  have hone : UInt16.toNat 1 ≤ uipTcpMss + 2 := by decide
  cases h with
  | unexpected | window => exact hc
  | ignored => exact hc.heard p
  | connected hstate hack hnext hanswers =>
    refine Conn.Short.appsent ?_ hanswers.slen_le
    rw [Conn.Short, Conn.received_len]
    exact Nat.zero_le _
  | finished => exact hone
  | data hstate hfin hnext skip hskip hcalls hanswers =>
    refine Conn.Short.appsent ?_ hanswers.slen_le
    refine (hc.heard p).of_len (.inl ?_)
    exact (c.heard p).received_len (p.dataLen - skip)
  | closed => exact hc.heard p
  | ending hstate hcalls hsame hnrtx hlen => exact hc.of_len hlen

theorem Tick.short (h : Tick app i c calls c') (hc : c.Short) : c'.Short := by
  cases h with
  | waited | idle | counted | timedout | resent | rexmit => exact hc
  | polled hstate hlen hanswers => exact hc.appsent hanswers.slen_le

theorem short_step {e : Event} {r : Stack τ × Output} (htable : Table s) (h : ∀ j, (s.conns j).Short)
    (hr : process fuel app s e = .ok r) (j : Connection) : (r.1.conns j).Short := by
  have hserves {i : Connection} {calls : List AppCall} {c : Conn} {out : Option Packet}
      (hserved : Served app s i calls c (r.1, out)) (hc : c.Short) : (r.1.conns j).Short := by
    by_cases hij : j = i
    · subst hij
      have hconn : r.1.conns j = c := hserved.conn
      exact hconn ▸ hc
    · have hother : r.1.conns j = s.conns j := hserved.other hij
      exact hother ▸ h j
  cases process_step (fun k => (htable.sound k).unsent) hr with
  | apart _ hsame => exact hsame.conns ▸ h j
  | aborted hp hfound hrst hserved hout => exact hserves hserved (h _)
  | turn hp hfound hrst hturn hserved hout => exact hserves hserved (hturn.short (h _))
  | opened hp hopened hserved hout =>
    refine hserves hserved ?_
    rw [Conn.Short, hopened.len]
    decide
  | tick he htick hserved hclosed hout => exact hserves hserved (htick.short (h _))

end Short

/-! ## Over runs -/

/-- A segment that is sent has a whole header and the right checksums. -/
theorem Emits.whole {a : τ} {log : List AppCall} {c : Conn} {s' : Stack τ} (h : Emits app a log i c (s', some q))
    (hshort : (s'.conns i).Short) : q.Made ∧ 40 ≤ q.len := by
  cases h with
  | nothing h => cases h
  | bare q h hmade hbare =>
    cases h
    refine ⟨hmade, ?_⟩
    rcases hbare with ⟨hlen, -⟩ | ⟨hlen, -⟩ <;> rw [hlen] <;> decide
  | data q h hmade call hcalls hconn reply a' happ hsend hreply hlen =>
    cases h
    refine ⟨hmade, ?_⟩
    have hforty : (40 : UInt16).toNat = 40 := rfl
    have hbound : (s'.conns i).len.toNat ≤ 1548 := hshort
    rw [hlen, UInt16.le_iff_toNat_le, UInt16.toNat_add, hforty]
    dsimp only
    omega

/-- What has been sent, and what is outstanding. -/
structure Sending (s : Link τ) : Prop where
  table : Table s.stack
  short : ∀ i, (s.stack.conns i).Short
  whole : ∀ q, .tcp q ∈ s.sent → q.Made ∧ 40 ≤ q.len

theorem Sending.step {main : Main τ} {s s' : Link τ} {e : Event} (h : Sending s)
    (hs : s.step fuel app main e = .ok s') : Sending s' := by
  obtain ⟨r, a, hr, rfl⟩ := linkStep_ok hs
  have hshort := short_step h.table h.short hr
  refine ⟨(h.table.step hr).withApp a, hshort, fun q hq => ?_⟩
  rcases List.mem_append.mp hq with hold | hnew
  · exact h.whole q hold
  · have hout := (List.mem_singleton.mp hnew).symm
    obtain ⟨i, hemits⟩ := process_emits (fun k => (h.table.sound k).unsent) hr hout
    exact hemits.whole (hshort i)

theorem sending_run {main : Main τ} {hostaddr : IpAddr} {a : τ} {evs : List Event} {s : Link τ}
    (h : Runs.run (Link.step fuel app main) (.powerUp hostaddr a) evs = .ok s) : Sending s := by
  have hinit : Sending (Link.powerUp hostaddr a) :=
    ⟨table_powerUp hostaddr a, fun _ => Nat.zero_le _, fun q hq => by cases hq⟩
  exact Runs.run_invariant (fun _ _ _ h hs => h.step hs) hinit h

/-- **What uIP sends, uIP takes.** In every run, a host with the address in a segment that has been sent hands
it to its connections as it was sent: its lengths and both checksums are right. -/
theorem sent_is_received {υ : Type} (fuel : Nat) (app : App τ) (main : Main τ) (hostaddr : IpAddr) (a : τ)
    (evs : List Event) (s : Link τ)
    (h : Runs.run (Link.step fuel app main) (.powerUp hostaddr a) evs = .ok s) (q : Packet)
    (hq : .tcp q ∈ s.sent) (t : Stack υ) (ht : t.hostaddr = q.destipaddr) : t.segment q.event = some q := by
  obtain ⟨hmade, hlen⟩ := (sending_run h).whole q hq
  refine segment_event hmade.vhl ?_ ?_ hmade.proto (hmade.tcpchksum hlen)
  · rw [hmade.ipoffset]
    decide
  · rw [Stack.ipCheck, ht, hmade.ipchksum]
    simp

/-- The segment that goes out, if one does. -/
def Output.segment : Output → Option Packet
  | .tcp p => some p
  | .none | .icmp .. => .none

theorem Output.segment_eq_some {out : Output} : out.segment = some q ↔ out = .tcp q := by
  cases out with
  | none => simp [segment]
  | tcp p => simp [segment]
  | icmp ip rest => simp [segment]

/-- The answer to a SYN. -/
theorem sent_is_received_synack : ∃ s : Link Unit, ∃ q, .tcp q ∈ s.sent ∧ q.flags = tcpSyn ||| tcpAck ∧
    ∀ t : Stack Unit, t.hostaddr = q.destipaddr → t.segment q.event = some q := by
  have hrun : (Runs.run (Link.step 41 silentApp idleMain) (.powerUp ⟨0xc0a8, 1⟩ ())
      [(plainSegment 5 0 tcpSyn []).event]).toOption.map (fun s =>
        (s.sent.filterMap Output.segment).map fun q => q.flags) = some [tcpSyn ||| tcpAck] := by decide +kernel
  obtain ⟨s, hs, hflags⟩ := ok_of_toOption_map hrun
  have hmem : tcpSyn ||| tcpAck ∈ (s.sent.filterMap Output.segment).map fun q => q.flags := by rw [hflags]; simp
  obtain ⟨q, hq, hq'⟩ := List.mem_map.mp hmem
  obtain ⟨out, hout, hsome⟩ := List.mem_filterMap.mp hq
  have hsent : .tcp q ∈ s.sent := Output.segment_eq_some.mp hsome ▸ hout
  exact ⟨s, q, hsent, hq', fun t ht => sent_is_received 41 silentApp idleMain _ () _ s hs q hsent t ht⟩

end UdcFirmware.Uip
