/-
The table of connections. Every finished call of `uip_process` serves one
connection, with a turn, a tick or an opening, or leaves them all as they are
(`process_step`).

So no two open connections have the same peer and ports, in any run from
`uip_init` and whatever the application does (`connections_apart`): a segment
belongs to one connection at most, and is handed to that one.
-/
import UdcFirmware.Uip.Turns

namespace UdcFirmware.Uip

open Bsmp ByteMem Checked Drivers

variable {τ : Type} {app : App τ} {s s' : Stack τ} {i : Connection} {p : Packet} {fuel : Nat}

/-! ## A step -/

/-- The segment that an event brings to the connections: the datagram passes the checks of the IP
header, and its own checksum is right. -/
def Stack.segment (s : Stack τ) : Event → Option Packet
  | .input uipLen ip rest =>
    match ipAccept s uipLen ip rest with
    | .ok (_, some (ip, rest)) =>
      let p := Packet.ofBuffer ip rest
      if ip.proto = uipProtoTcp ∧ uipTcpchksum p = 0xffff then some p else none
    | _ => none
  | .periodic .. => none

/-- A packet that is no fragment, for this host and with the right checksums. -/
theorem segment_event (hvhl : p.vhl = 0x45) (hwhole : p.ipoffset &&& 0x3fff = 0)
    (hcheck : s.ipCheck p.toIpHeader) (hproto : p.proto = uipProtoTcp) (hsum : uipTcpchksum p = 0xffff) :
    s.segment p.event = some p := by
  have haccept : ipAccept s p.len p.toIpHeader p.rest = .ok (s, some (p.toIpHeader, p.rest)) := by
    unfold ipAccept
    rw [if_neg (by simp [hvhl]), if_neg (by simp [hwhole]), if_pos hcheck]
    rfl
  simp only [Stack.segment, Packet.event, haccept, ofBuffer_of_rest, hproto, hsum, and_self, if_true]

/-- No connection takes part. What is sent is not a segment, or refuses one that belongs to none. -/
structure Apart (s : Stack τ) (segment : Option Packet) (r : Stack τ × Output) : Prop where
  conns : r.1.conns = s.conns
  hostaddr : r.1.hostaddr = s.hostaddr
  listenports : r.1.listenports = s.listenports
  calls : r.1.calls = s.calls
  app : r.1.app = s.app
  refuses : ∀ q, r.2 = .tcp q → ∃ p, segment = some p ∧ s.found? p = none ∧
    q.srcport = p.destport ∧ q.destport = p.srcport ∧ q.destipaddr = p.srcipaddr

/-- What a call of `uip_process` does, with no connection in `SYN_SENT`. -/
inductive Step (app : App τ) (s : Stack τ) (e : Event) (r : Stack τ × Output) : Prop
  | apart (hinput : ∀ i p, e ≠ .periodic i p) (h : Apart s (s.segment e) r)
  | aborted {p : Packet} {i : Connection} (hp : s.segment e = some p) (hfound : s.found? p = some i)
      (hrst : p.has tcpRst) {data : List UInt8} {out : Option Packet}
      (hserved : Served app s i [⟨i, (s.conns i).lport, { abort := true }, data⟩]
        { s.conns i with state := .closed } (r.1, out)) (hout : r.2 = .ofTcp out)
  | turn {p : Packet} {i : Connection} (hp : s.segment e = some p) (hfound : s.found? p = some i)
      (hrst : ¬ p.has tcpRst) {calls : List AppCall} {c : Conn}
      (hturn : Turn app i p (s.conns i) calls c) {out : Option Packet}
      (hserved : Served app s i calls c (r.1, out)) (hout : r.2 = .ofTcp out)
  | opened {p : Packet} {i : Connection} (hp : s.segment e = some p) {c : Conn} (hopened : Opened s i p c)
      {out : Option Packet} (hserved : Served app s i [] c (r.1, out)) (hout : r.2 = .ofTcp out)
  | tick {i : Connection} {p : Packet} (he : e = .periodic i p) {calls : List AppCall} {c : Conn}
      (htick : Tick app i (s.conns i) calls c) {out : Option Packet} (hserved : Served app s i calls c (r.1, out))
      (hclosed : (s.conns i).state = .closed → out = none) (hout : r.2 = .ofTcp out)

theorem found?_some (h : s.found? p = some i) : (s.conns i).state ≠ .closed ∧ p.destport = (s.conns i).lport ∧
    p.srcport = (s.conns i).rport ∧ p.srcipaddr = (s.conns i).ripaddr := by
  simpa only [decide_eq_true_eq] using List.find?_some h

theorem found?_none (h : s.found? p = none) (hopen : (s.conns i).state ≠ .closed) :
    ¬ (p.destport = (s.conns i).lport ∧ p.srcport = (s.conns i).rport ∧
      p.srcipaddr = (s.conns i).ripaddr) := by
  have hi := List.find?_eq_none.mp h i (List.mem_finRange i)
  simp only [decide_eq_true_eq] at hi
  exact fun hsame => hi ⟨hopen, hsame⟩

theorem ipAccept_same {uipLen : UInt16} {ip : IpHeader} {rest : Nat → UInt8}
    {datagram : Option (IpHeader × (Nat → UInt8))} (h : ipAccept s uipLen ip rest = .ok (s', datagram)) :
    ∃ reass, s' = { s with reass } := by
  unfold ipAccept at h
  split at h
  · cases h
    exact ⟨s.reass, rfl⟩
  · split at h
    · obtain ⟨⟨reass, whole⟩, -, h⟩ := bind_ok_iff.mp h
      cases h
      exact ⟨reass, rfl⟩
    · cases h
      exact ⟨s.reass, rfl⟩

/-- What does not send a segment, and serves no connection. -/
theorem apart_of_same {segment : Option Packet} {r : Stack τ × Output} (hsame : ∃ reass, r.1 = { s with reass })
    (hout : ∀ q, r.2 ≠ .tcp q) : Apart s segment r := by
  obtain ⟨reass, hr⟩ := hsame
  exact ⟨by rw [hr], by rw [hr], by rw [hr], by rw [hr], by rw [hr], fun q hq => absurd hq (hout q)⟩

/-- A segment that belongs to no connection is refused. -/
theorem reset_apart (hfresh : s.found? p = none) :
    Apart s (some p) ((reset s p).1, .ofTcp (reset s p).2) := by
  unfold reset
  split
  · exact ⟨rfl, rfl, rfl, rfl, rfl, fun q hq => by cases hq⟩
  · refine ⟨rfl, rfl, rfl, rfl, rfl, fun q hq => ⟨p, rfl, hfresh, ?_⟩⟩
    cases hq
    exact ⟨rfl, rfl, rfl⟩

/-- Of the stack's own, `ip_accept` changes the reassembly alone. -/
theorem tcpInput_step {reass : Reass} {r : Stack τ × Option Packet} {e : Event}
    (hsent : ∀ i, (s.conns i).state ≠ .synSent) (hinput : ∀ i p, e ≠ .periodic i p)
    (hp : s.segment e = if uipTcpchksum p = 0xffff then some p else none)
    (h : tcpInput fuel app { s with reass } p = .ok r) : Step app s e (r.1, .ofTcp r.2) := by
  have hnone : Step app s e ({ s with reass }, .none) :=
    .apart hinput (apart_of_same ⟨reass, rfl⟩ (fun q hq => by cases hq))
  have hreset (hp : s.segment e = some p) (hfresh : s.found? p = none) :
      Step app s e ((reset { s with reass } p).1, .ofTcp (reset { s with reass } p).2) := by
    obtain ⟨hconns, hhost, hports, hcalls, happ, hrefuses⟩ := reset_apart (s := { s with reass }) hfresh
    exact .apart hinput (hp ▸ ⟨hconns, hhost, hports, hcalls, happ, hrefuses⟩)
  unfold tcpInput at h
  split at h
  · cases h
    exact hnone
  · next hsum =>
    rw [if_pos (not_not.mp hsum)] at hp
    split at h
    · next i hfound =>
      by_cases hrst : p.has tcpRst
      · obtain ⟨data, hserved⟩ := found_rst hrst h
        exact .aborted hp hfound hrst (hserved.of_same rfl rfl rfl rfl rfl) rfl
      · obtain ⟨calls, c, hturn, hserved⟩ := found_turn hrst (found?_some hfound).1 (hsent i) h
        exact .turn hp hfound hrst hturn (hserved.of_same rfl rfl rfl rfl rfl) rfl
    · next hfresh =>
      split at h
      · cases h
        exact hreset hp hfresh
      · next hsyn =>
        split at h
        · next hlistened =>
          rcases foundListen_opened hfresh (not_not.mp hsyn) hlistened h with rfl | ⟨i, c, hopened, hserved⟩
          · exact hnone
          · exact .opened hp ⟨hopened.unused, hopened.fresh, hopened.syn, hopened.listened, hopened.state,
              hopened.lport, hopened.rport, hopened.ripaddr, hopened.rcvNxt, hopened.sndNxt, hopened.len,
              hopened.nrtx⟩ (hserved.of_same rfl rfl rfl rfl rfl) rfl
        · cases h
          exact hreset hp hfresh

/-- **Every call of `uip_process`** that finishes, with no connection in `SYN_SENT`. -/
theorem process_step {e : Event} {r : Stack τ × Output} (hsent : ∀ i, (s.conns i).state ≠ .synSent)
    (h : process fuel app s e = .ok r) : Step app s e r := by
  cases e with
  | periodic i p =>
    obtain ⟨⟨s₁, out⟩, htimer, h⟩ := bind_ok_iff.mp h
    cases h
    obtain ⟨calls, c, htick, hserved, hclosed⟩ := uipTimer_tick (hsent i) htimer
    exact .tick rfl htick hserved hclosed rfl
  | input uipLen ip rest =>
    obtain ⟨⟨s₁, datagram⟩, haccept, h⟩ := bind_ok_iff.mp h
    obtain ⟨reass, rfl⟩ := ipAccept_same haccept
    have hapart {out : Output} (hout : ∀ q, out ≠ .tcp q) :
        Step app s (.input uipLen ip rest) ({ s with reass }, out) :=
      .apart (fun _ _ => nofun) (apart_of_same ⟨reass, rfl⟩ hout)
    cases datagram with
    | none =>
      cases h
      exact hapart fun q hq => by cases hq
    | some datagram =>
      obtain ⟨ip', rest'⟩ := datagram
      dsimp only at h
      split at h
      · next hproto =>
        obtain ⟨⟨s₂, out⟩, htcp, h⟩ := bind_ok_iff.mp h
        cases h
        refine tcpInput_step hsent (fun _ _ => nofun) ?_ htcp
        simp only [Stack.segment, haccept, hproto, true_and]
      · split at h
        · split at h
          · cases h
            exact hapart fun q hq => by split at hq <;> cases hq
          · cases h
            exact hapart fun q hq => by cases hq
        · cases h
          exact hapart fun q hq => by cases hq

/-! ## The table -/

/-- A connection, as far as all connections have it in common. -/
structure Conn.Sound (listenports : List UInt16) (c : Conn) : Prop where
  unsent : c.state ≠ .synSent
  listened : c.state ≠ .closed → c.lport ∈ listenports
  nrtx : c.nrtx ≤ uipMaxrtx
  nrtxSyn : c.state = .synRcvd → c.nrtx ≤ uipMaxsynrtx

/-- Open connections have different peers or ports. -/
structure Table (s : Stack τ) : Prop where
  sound : ∀ i, (s.conns i).Sound s.listenports
  apart : ∀ i j, i ≠ j → (s.conns i).state ≠ .closed → (s.conns j).state ≠ .closed →
    ¬ (s.conns i).SamePeer (s.conns j)

theorem Conn.SamePeer.symm {c c' : Conn} (h : c.SamePeer c') : c'.SamePeer c :=
  ⟨h.ripaddr.symm, h.lport.symm, h.rport.symm⟩

/-- A segment belongs to a connection. -/
structure Packet.BelongsTo (p : Packet) (c : Conn) : Prop where
  destport : p.destport = c.lport
  srcport : p.srcport = c.rport
  srcipaddr : p.srcipaddr = c.ripaddr

theorem Packet.BelongsTo.samePeer {c c' : Conn} (h : p.BelongsTo c) (h' : p.BelongsTo c') : c.SamePeer c' :=
  ⟨h'.srcipaddr.symm.trans h.srcipaddr, h'.destport.symm.trans h.destport, h'.srcport.symm.trans h.srcport⟩

/-- In a sound table a segment is handed to the connection that it belongs to. -/
theorem Table.found?_eq (h : Table s) (hopen : (s.conns i).state ≠ .closed) (hp : p.BelongsTo (s.conns i)) :
    s.found? p = some i := by
  cases hfound : s.found? p with
  | none => exact absurd ⟨hp.destport, hp.srcport, hp.srcipaddr⟩ (found?_none hfound hopen)
  | some j =>
    obtain ⟨hj, hdest, hsrc, hip⟩ := found?_some hfound
    by_cases hij : j = i
    · rw [hij]
    · exact absurd (Packet.BelongsTo.samePeer ⟨hdest, hsrc, hip⟩ hp) (h.apart j i hij hj hopen)

section Sound

variable {c c' : Conn} {calls : List AppCall} {listenports : List UInt16}

theorem Conn.appsent_state (c : Conn) (flags : Flags) (slen : UInt16) :
    (c.appsent flags slen).state = c.state ∨ (c.appsent flags slen).state = .finWait1 ∨
      (c.appsent flags slen).state = .closed := by
  unfold appsent
  split
  · exact .inr (.inr rfl)
  · split
    · exact .inr (.inl rfl)
    · left
      split
      · unfold appsend
        dsimp only
        split <;> split <;> rfl
      · rfl

theorem Conn.appsent_nrtx (c : Conn) (flags : Flags) (slen : UInt16) :
    (c.appsent flags slen).nrtx = c.nrtx ∨ (c.appsent flags slen).nrtx = 0 := by
  unfold appsent
  split
  · exact .inl rfl
  · split <;> exact .inr rfl

/-- What a step leaves of a connection: the same peer, and it is not opened. -/
structure Conn.Goes (c c' : Conn) : Prop where
  samePeer : c.SamePeer c'
  opened : c'.state ≠ .closed → c.state ≠ .closed
  unsent : c'.state ≠ .synSent
  nrtx : c'.nrtx ≤ uipMaxrtx
  nrtxSyn : c'.state = .synRcvd → c'.nrtx ≤ uipMaxsynrtx

theorem Conn.Goes.sound (h : c.Goes c') (hc : c.Sound listenports) : c'.Sound listenports where
  unsent := h.unsent
  listened hopen := h.samePeer.lport ▸ hc.listened (h.opened hopen)
  nrtx := h.nrtx
  nrtxSyn := h.nrtxSyn

/-- A new state that is not `SYN_RCVD`. -/
theorem Conn.Goes.of_state (hc : c.Sound listenports) (hsame : c.SamePeer c') (hopen : c.state ≠ .closed)
    (hstate : c'.state ≠ .synSent ∧ c'.state ≠ .synRcvd) (hnrtx : c'.nrtx = c.nrtx ∨ c'.nrtx = 0) :
    c.Goes c' where
  samePeer := hsame
  opened _ := hopen
  unsent := hstate.1
  nrtx := by
    rcases hnrtx with h | h
    · rw [h]
      exact hc.nrtx
    · rw [h]
      decide
  nrtxSyn h := absurd h hstate.2

/-- The state stays. -/
theorem Conn.Goes.of_same (hc : c.Sound listenports) (hsame : c.SamePeer c') (hstate : c'.state = c.state)
    (hnrtx : c'.nrtx = c.nrtx) : c.Goes c' where
  samePeer := hsame
  opened h := hstate ▸ h
  unsent := hstate ▸ hc.unsent
  nrtx := hnrtx ▸ hc.nrtx
  nrtxSyn h := hnrtx ▸ hc.nrtxSyn (hstate ▸ h)

/-- An established connection, after what the application has sent. -/
theorem Conn.Goes.of_appsent {c₁ : Conn} (hc : c.Sound listenports) (hsame : c.SamePeer c₁)
    (hopen : c.state ≠ .closed) (hstate : c₁.state = .established) (hnrtx : c₁.nrtx = c.nrtx) (flags : Flags)
    (slen : UInt16) : c.Goes (c₁.appsent flags slen) := by
  refine .of_state hc (hsame.trans (c₁.appsent_samePeer flags slen)) hopen ?_ ?_
  · rcases c₁.appsent_state flags slen with h | h | h <;> simp [h, hstate]
  · rw [← hnrtx]
    exact c₁.appsent_nrtx flags slen

theorem Turn.goes (h : Turn app i p c calls c') (hc : c.Sound listenports) (hopen : c.state ≠ .closed) :
    c.Goes c' := by
  have hheard := c.heard_samePeer p
  cases h with
  | unexpected h => exact .of_same hc (.refl c) rfl rfl
  | ignored h => exact .of_same hc hheard (c.heard_state p) (c.heard_nrtx p)
  | connected hstate hack hnext hanswers =>
    have hsame := Conn.received_samePeer { c.heard p with state := .established, len := 0 } p.dataLen
    exact .of_appsent hc (hheard.trans ⟨hsame.ripaddr, hsame.lport, hsame.rport⟩) hopen (by simp) (by simp) _ _
  | finished hstate hfin hnext hlen =>
    exact .of_state hc ⟨hheard.ripaddr, hheard.lport, hheard.rport⟩ hopen ⟨nofun, nofun⟩ (.inr rfl)
  | data hstate hfin hnext skip hskip hcalls hanswers =>
    have hsame := hheard.trans ((c.heard p).received_samePeer (p.dataLen - skip))
    have hwindowed : c.SamePeer (((c.heard p).received (p.dataLen - skip)).windowed p.wnd) :=
      ⟨hsame.ripaddr, hsame.lport, hsame.rport⟩
    refine .of_appsent hc hwindowed hopen ?_ ?_ _ _
    · simp [Conn.windowed, hstate]
    · simp [Conn.windowed]
  | window hstate hfin skip hskip hnone => exact .of_same hc ⟨rfl, rfl, rfl⟩ rfl rfl
  | closed hstate hack data =>
    exact .of_state hc ⟨hheard.ripaddr, hheard.lport, hheard.rport⟩ hopen ⟨nofun, nofun⟩
      (.inl (c.heard_nrtx p))
  | ending hstate hcalls hsame hnrtx hlen hstate' =>
    refine .of_state hc hsame hopen ?_ (.inl hnrtx)
    rcases hstate' with h | h | h | h <;> simp [h]

theorem succ_le {n m : UInt8} (hle : n ≤ m) (hne : n ≠ m) : n + 1 ≤ m := by
  have hlt := UInt8.lt_of_le_of_ne hle hne
  have hm := m.toNat_lt
  rw [UInt8.lt_iff_toNat_lt] at hlt
  rw [UInt8.le_iff_toNat_le, UInt8.toNat_add, UInt8.toNat_one]
  omega

/-- A retransmission counts up to the maximum. -/
theorem Conn.Goes.of_backoff (hc : c.Sound listenports) (hmax : ¬ c.GivesUp) : c.Goes c.backoff where
  samePeer := ⟨rfl, rfl, rfl⟩
  opened h := h
  unsent := hc.unsent
  nrtx := succ_le hc.nrtx fun hn => hmax (.inl hn)
  nrtxSyn h := succ_le (hc.nrtxSyn h) fun hn => hmax (.inr ⟨h, hn⟩)

theorem Tick.goes (h : Tick app i c calls c') (hc : c.Sound listenports) : c.Goes c' := by
  cases h with
  | waited hlingers =>
    have hopen : c.state ≠ .closed := by rcases hlingers with h | h <;> simp [h]
    refine .of_state hc ⟨rfl, rfl, rfl⟩ hopen ?_ (.inl rfl)
    simp only [Conn.waited]
    split
    · exact ⟨nofun, nofun⟩
    · rcases hlingers with h | h <;> simp [h]
  | idle h => exact .of_same hc (.refl c) rfl rfl
  | counted hactive hopen hlen htimer => exact .of_same hc ⟨rfl, rfl, rfl⟩ rfl rfl
  | timedout hfires hmax => exact .of_state hc ⟨rfl, rfl, rfl⟩ hfires.opened ⟨nofun, nofun⟩ (.inl rfl)
  | resent hfires hmax hstate => exact .of_backoff hc hmax
  | rexmit hfires hmax hstate => exact .of_backoff hc hmax
  | polled hstate hlen hanswers =>
    exact .of_appsent hc (.refl c) (by simp [hstate]) hstate rfl _ _

end Sound

/-! ## Over runs -/

variable {c : Conn} {calls : List AppCall} {r : Stack τ × Option Packet}

/-- A connection changes, and no other. -/
theorem Table.served (h : Table s) (hserved : Served app s i calls c r) (hsound : c.Sound s.listenports)
    (hapart : ∀ j, i ≠ j → c.state ≠ .closed → (s.conns j).state ≠ .closed → ¬ c.SamePeer (s.conns j)) :
    Table r.1 where
  sound j := by
    rw [hserved.listenports]
    by_cases hj : j = i
    · rw [hj, hserved.conn]
      exact hsound
    · rw [hserved.other hj]
      exact h.sound j
  apart j k hjk hj hk hsame := by
    by_cases hji : j = i
    · have hki : k ≠ i := fun hki => hjk (hji.trans hki.symm)
      rw [hji, hserved.conn] at hj hsame
      rw [hserved.other hki] at hk hsame
      exact hapart k hki.symm hj hk hsame
    · rw [hserved.other hji] at hj hsame
      by_cases hki : k = i
      · rw [hki, hserved.conn] at hk hsame
        exact hapart j (fun hij => hji hij.symm) hk hj hsame.symm
      · rw [hserved.other hki] at hk hsame
        exact h.apart j k hjk hj hk hsame

theorem Table.goes (h : Table s) (hserved : Served app s i calls c r) (hgoes : (s.conns i).Goes c) : Table r.1 :=
  h.served hserved (hgoes.sound (h.sound i)) fun j hij hopen hj hsame =>
    h.apart i j hij (hgoes.opened hopen) hj (hgoes.samePeer.trans hsame)

theorem Table.opened (h : Table s) (hserved : Served app s i calls c r) (hopened : Opened s i p c) :
    Table r.1 := by
  refine h.served hserved ⟨?_, fun _ => hopened.lport ▸ hopened.listened, ?_, fun _ => ?_⟩ ?_
  · rw [hopened.state]
    nofun
  · rw [hopened.nrtx]
    decide
  · rw [hopened.nrtx]
    decide
  · intro j _ _ hj hsame
    exact found?_none hopened.fresh hj ⟨hopened.lport.symm.trans hsame.lport.symm,
      hopened.rport.symm.trans hsame.rport.symm, hopened.ripaddr.symm.trans hsame.ripaddr.symm⟩

theorem Table.step {e : Event} {r : Stack τ × Output} (h : Table s) (hr : process fuel app s e = .ok r) :
    Table r.1 := by
  cases process_step (fun i => (h.sound i).unsent) hr with
  | apart _ hsame =>
    exact ⟨fun i => hsame.conns ▸ hsame.listenports ▸ h.sound i, by rw [hsame.conns]; exact h.apart⟩
  | aborted hp hfound hrst hserved hout =>
    exact h.goes hserved (.of_state (h.sound _) ⟨rfl, rfl, rfl⟩ (found?_some hfound).1 ⟨nofun, nofun⟩ (.inl rfl))
  | turn hp hfound hrst hturn hserved hout =>
    exact h.goes hserved (hturn.goes (h.sound _) (found?_some hfound).1)
  | opened hp hopened hserved hout => exact h.opened hserved hopened
  | tick he htick hserved hclosed hout => exact h.goes hserved (htick.goes (h.sound _))

/-- The ports that are listened to do not change. -/
theorem process_listenports {e : Event} {r : Stack τ × Output} (h : Table s) (hr : process fuel app s e = .ok r) :
    r.1.listenports = s.listenports := by
  cases process_step (fun i => (h.sound i).unsent) hr with
  | apart _ hsame => exact hsame.listenports
  | aborted _ _ _ hserved _ | turn _ _ _ _ hserved _ | opened _ _ hserved _ | tick _ _ hserved _ _ =>
    exact hserved.listenports

/-- A segment is sent to the peer of a connection. -/
structure Packet.AddressedTo (q : Packet) (c : Conn) : Prop where
  srcport : q.srcport = c.lport
  destport : q.destport = c.rport
  destipaddr : q.destipaddr = c.ripaddr

theorem Speaks.addressedTo {q : Packet} (h : Speaks s i q) : q.AddressedTo (s.conns i) :=
  ⟨h.srcport, h.destport, h.destipaddr⟩

theorem Packet.AddressedTo.samePeer {q : Packet} {c c' : Conn} (h : q.AddressedTo c) (h' : q.AddressedTo c') :
    c.SamePeer c' :=
  ⟨h'.destipaddr.symm.trans h.destipaddr, h'.srcport.symm.trans h.srcport, h'.destport.symm.trans h.destport⟩

/-- What a connection that is served becomes has the same peer, and does not speak for another. -/
theorem Table.speaks_of_served {j : Connection} {q : Packet} (h : Table s) (hopen : (s.conns i).state ≠ .closed)
    (hserved : Served app s j calls c r) (hsame : (s.conns j).SamePeer c) (hj : (s.conns j).state ≠ .closed)
    (hq : r.2 = some q) (hto : q.AddressedTo (s.conns i)) : Speaks r.1 i q := by
  have hspeaks := hserved.speaks q hq
  by_cases hij : i = j
  · rw [hij]
    exact hspeaks
  · have hpeer := hspeaks.addressedTo
    rw [hserved.conn] at hpeer
    exact absurd ((hto.samePeer hpeer).trans hsame.symm) (h.apart i j hij hopen hj)

theorem Output.ofTcp_tcp {out : Option Packet} {q : Packet} (h : Output.ofTcp out = .tcp q) : out = some q := by
  cases out with
  | none => cases h
  | some p =>
    cases h
    rfl

/-- **What is sent to a connection's peer**, from its port, is a segment of the connection. -/
theorem process_speaks {e : Event} {r : Stack τ × Output} {q : Packet} (h : Table s)
    (hopen : (s.conns i).state ≠ .closed ∧ (s.conns i).state ≠ .timeWait) (hr : process fuel app s e = .ok r)
    (hq : r.2 = .tcp q) (hto : q.AddressedTo (s.conns i)) : Speaks r.1 i q := by
  cases process_step (fun i => (h.sound i).unsent) hr with
  | apart _ hsame =>
    obtain ⟨p, -, hfresh, hsrc, hdest, hip⟩ := hsame.refuses q hq
    exact absurd ⟨hsrc.symm.trans hto.srcport, hdest.symm.trans hto.destport, hip.symm.trans hto.destipaddr⟩
      (found?_none hfresh hopen.1)
  | aborted hp hfound hrst hserved hout =>
    exact h.speaks_of_served hopen.1 hserved ⟨rfl, rfl, rfl⟩ (found?_some hfound).1
      (Output.ofTcp_tcp (hout ▸ hq)) hto
  | turn hp hfound hrst hturn hserved hout =>
    have hj := (found?_some hfound).1
    exact h.speaks_of_served hopen.1 hserved (hturn.goes (h.sound _) hj).samePeer hj
      (Output.ofTcp_tcp (hout ▸ hq)) hto
  | @opened p j hp c hopened out hserved hout =>
    have hspeaks := hserved.speaks q (Output.ofTcp_tcp (hout ▸ hq))
    have hpeer := hspeaks.addressedTo
    rw [hserved.conn] at hpeer
    have hsame := hto.samePeer hpeer
    exact absurd ⟨hopened.lport.symm.trans hsame.lport, hopened.rport.symm.trans hsame.rport,
      hopened.ripaddr.symm.trans hsame.ripaddr⟩ (found?_none hopened.fresh hopen.1)
  | tick he htick hserved hclosed hout =>
    have hsome := Output.ofTcp_tcp (hout ▸ hq)
    refine h.speaks_of_served hopen.1 hserved (htick.goes (h.sound _)).samePeer (fun hs => ?_) hsome hto
    rw [hclosed hs] at hsome
    cases hsome

/-- An open connection keeps its peer. -/
theorem process_samePeer {e : Event} {r : Stack τ × Output} (h : Table s)
    (hopen : (s.conns i).state ≠ .closed ∧ (s.conns i).state ≠ .timeWait) (hr : process fuel app s e = .ok r) :
    (s.conns i).SamePeer (r.1.conns i) := by
  have hserves {j : Connection} {calls : List AppCall} {c : Conn} {out : Option Packet}
      (hserved : Served app s j calls c (r.1, out)) (hsame : i = j → (s.conns j).SamePeer c) :
      (s.conns i).SamePeer (r.1.conns i) := by
    by_cases hij : i = j
    · rw [hij]
      exact hserved.conn ▸ hsame hij
    · exact hserved.other hij ▸ .refl _
  cases process_step (fun i => (h.sound i).unsent) hr with
  | apart _ hsame => exact hsame.conns ▸ .refl _
  | aborted hp hfound hrst hserved hout => exact hserves hserved fun _ => ⟨rfl, rfl, rfl⟩
  | turn hp hfound hrst hturn hserved hout =>
    exact hserves hserved fun _ => (hturn.goes (h.sound _) (found?_some hfound).1).samePeer
  | opened hp hopened hserved hout =>
    refine hserves hserved fun hij => ?_
    subst hij
    rcases hopened.unused with hs | hs
    · exact absurd hs hopen.1
    · exact absurd hs hopen.2
  | tick he htick hserved hclosed hout => exact hserves hserved fun _ => (htick.goes (h.sound _)).samePeer

theorem table_powerUp (hostaddr : IpAddr) (a : τ) : Table (Stack.powerUp hostaddr a) where
  sound _ := ⟨nofun, fun h => absurd rfl h, (by decide : (0 : UInt8) ≤ uipMaxrtx), nofun⟩
  apart _ _ _ h _ := absurd rfl h

/-- What the application has does not matter to the table. -/
theorem Table.withApp (h : Table s) (a : τ) : Table { s with app := a } := ⟨h.sound, h.apart⟩

theorem linkStep_ok {main : Main τ} {s s' : Link τ} {e : Event} (h : s.step fuel app main e = .ok s') :
    ∃ r a, process fuel app s.stack e = .ok r ∧ s' = ⟨{ r.1 with app := a }, s.sent ++ [r.2]⟩ := by
  obtain ⟨r, hr, h⟩ := bind_ok_iff.mp h
  obtain ⟨a, -, h⟩ := bind_ok_iff.mp h
  cases h
  exact ⟨r, a, hr, rfl⟩

/-- A stack that has just been switched on. -/
def Link.powerUp (hostaddr : IpAddr) (a : τ) : Link τ := ⟨.powerUp hostaddr a, []⟩

theorem table_run {main : Main τ} {hostaddr : IpAddr} {a : τ} {evs : List Event} {s : Link τ}
    (h : Runs.run (Link.step fuel app main) (.powerUp hostaddr a) evs = .ok s) :
    Table s.stack ∧ s.stack.listenports = [80, 0, 0, 0] := by
  have hstep : ∀ (s : Link τ) e s', Table s.stack ∧ s.stack.listenports = [80, 0, 0, 0] →
      s.step fuel app main e = .ok s' → Table s'.stack ∧ s'.stack.listenports = [80, 0, 0, 0] := by
    rintro s e s' ⟨htable, hports⟩ hs
    obtain ⟨r, a, hr, rfl⟩ := linkStep_ok hs
    exact ⟨(htable.step hr).withApp a, (process_listenports htable hr).trans hports⟩
  exact Runs.run_invariant (I := fun s : Link τ => Table s.stack ∧ s.stack.listenports = [80, 0, 0, 0]) hstep
    ⟨table_powerUp hostaddr a, rfl⟩ h

/-- **A segment is handed to the connection it belongs to.** Whatever packets come in, whenever the timers
fire and whatever the application does, no two open connections have the same peer and ports; an open
connection gets all segments that belong to it. It is one to port 80, or to port 0: a free place of
`uip_listenports` holds 0, and is taken for a port. -/
theorem connections_apart (fuel : Nat) (app : App τ) (main : Main τ) (hostaddr : IpAddr) (a : τ)
    (evs : List Event) (s : Link τ)
    (h : Runs.run (Link.step fuel app main) (.powerUp hostaddr a) evs = .ok s) :
    (∀ i j, i ≠ j → (s.stack.conns i).state ≠ .closed → (s.stack.conns j).state ≠ .closed →
        ¬ (s.stack.conns i).SamePeer (s.stack.conns j)) ∧
      (∀ i p, (s.stack.conns i).state ≠ .closed → p.BelongsTo (s.stack.conns i) →
        s.stack.found? p = some i) ∧
      (∀ i, (s.stack.conns i).state ≠ .closed →
        (s.stack.conns i).lport = 80 ∨ (s.stack.conns i).lport = 0) := by
  obtain ⟨htable, hports⟩ := table_run h
  refine ⟨htable.apart, fun i p hopen hp => htable.found?_eq hopen hp, fun i hopen => ?_⟩
  simpa [hports] using (htable.sound i).listened hopen

/-- The packet with its checksums. -/
def Packet.checked (p : Packet) : Packet :=
  let p := { p with ipchksum := 0, tcpchksum := 0 }
  { p with ipchksum := ~~~ uipIpchksum p.toIpHeader, tcpchksum := ~~~ uipTcpchksum p }

/-- A segment from port 1024 of one machine to port 80 of another. -/
def plainSegment (seqno ackno : UInt32) (flags : UInt8) (data : List UInt8) : Packet :=
  Packet.checked
    { vhl := 0x45, tos := 0, len := 40 + UInt16.ofNat data.length, ipid := 0, ipoffset := 0, ttl := 64
      proto := uipProtoTcp, ipchksum := 0, srcipaddr := ⟨0xc0a8, 2⟩, destipaddr := ⟨0xc0a8, 1⟩
      srcport := 1024, destport := 80, seqno, ackno, tcpoffset := 0x50, flags, wnd := 1000
      tcpchksum := 0, urgp := 0, data := fun k => data.getD k 0 }

/-- An application that never sends, and a main loop that leaves it alone. -/
def silentApp : App Unit := fun call a => .ok (⟨call.flags, []⟩, a)
def idleMain : Main Unit := fun _ a => .ok a

/-- A SYN opens the first connection, one from another port the second. -/
theorem connections_apart_syn :
    ∃ s, Runs.run (Link.step 41 silentApp idleMain) (.powerUp ⟨0xc0a8, 1⟩ ())
        [(plainSegment 5 0 tcpSyn []).event,
          (Packet.checked { plainSegment 5 0 tcpSyn [] with srcport := 1025 }).event] = .ok s ∧
      (s.stack.conns 0).state = .synRcvd ∧ (s.stack.conns 1).state = .synRcvd ∧
      ¬ (s.stack.conns 0).SamePeer (s.stack.conns 1) ∧
      ∀ i p, (s.stack.conns i).state ≠ .closed → p.BelongsTo (s.stack.conns i) → s.stack.found? p = some i := by
  have hrun : (Runs.run (Link.step 41 silentApp idleMain) (.powerUp ⟨0xc0a8, 1⟩ ())
      [(plainSegment 5 0 tcpSyn []).event,
        (Packet.checked { plainSegment 5 0 tcpSyn [] with srcport := 1025 }).event]).toOption.map
          (fun s => ((s.stack.conns 0).state, (s.stack.conns 1).state)) =
      some (.synRcvd, .synRcvd) := by decide +kernel
  obtain ⟨s, hs, hstates⟩ := ok_of_toOption_map hrun
  obtain ⟨h₀, h₁⟩ := Prod.mk.inj hstates
  obtain ⟨hapart, hfound, -⟩ := connections_apart 41 silentApp idleMain _ () _ s hs
  exact ⟨s, hs, h₀, h₁, hapart 0 1 (by decide) (by rw [h₀]; nofun) (by rw [h₁]; nofun), hfound⟩

end UdcFirmware.Uip
