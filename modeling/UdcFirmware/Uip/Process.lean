/-
`uip_process` of `uip.c`: a packet comes in, or the timer of a connection
fires, and at most one packet goes out.

Each label of the source is a function of its own. The application is any
function of what it is called with (`App`); its state is part of the state of
the stack. The buffer is not: what it holds beyond the packet, or when a timer
fires, is an argument. `conns` are the connections, by their numbers.

Left out are what nothing here calls or sets up: `uip_connect`, `uip_stop`, UDP
connections (`udp_input` finds none, and drops the packet), and the counters.
-/
import UdcFirmware.Drivers.Ethernet
import UdcFirmware.Uip.Reass

namespace UdcFirmware.Uip

open Bsmp ByteMem Checked Drivers

/-! ## State -/

@[simp] abbrev uipListenports : Nat := 4
abbrev uipRto : UInt8 := 3
abbrev uipMaxrtx : UInt8 := 8
abbrev uipMaxsynrtx : UInt8 := 5
abbrev uipTimeWaitTimeout : UInt8 := 120
abbrev uipReceiveWindow : UInt16 := 1546

abbrev tcpFin : UInt8 := 0x01
abbrev tcpSyn : UInt8 := 0x02
abbrev tcpRst : UInt8 := 0x04
abbrev tcpPsh : UInt8 := 0x08
abbrev tcpAck : UInt8 := 0x10
abbrev tcpUrg : UInt8 := 0x20
abbrev tcpCtl : UInt8 := 0x3f

abbrev icmpEcho : UInt8 := 8
abbrev icmpEchoReply : UInt8 := 0

/-- `tcpstateflags`. -/
inductive TcpState
  | closed | synRcvd | synSent | established | finWait1 | finWait2 | closing | timeWait | lastAck
  deriving DecidableEq

/-- `struct uip_conn`. -/
structure Conn where
  ripaddr : IpAddr
  lport : UInt16
  rport : UInt16
  rcvNxt : UInt32
  sndNxt : UInt32
  len : UInt16
  mss : UInt16
  initialmss : UInt16
  sa : UInt8
  sv : UInt8
  rto : UInt8
  state : TcpState
  timer : UInt8
  nrtx : UInt8
  deriving DecidableEq

/-- `uip_flags`. -/
structure Flags where
  ackdata : Bool := false
  newdata : Bool := false
  rexmit : Bool := false
  poll : Bool := false
  close : Bool := false
  abort : Bool := false
  connected : Bool := false
  timedout : Bool := false
  deriving DecidableEq

/-- What the application is called with: the connection, `uip_flags`, and the
`uip_len` bytes at `uip_appdata`. -/
structure AppCall where
  conn : Connection
  lport : UInt16
  flags : Flags
  data : List UInt8
  deriving DecidableEq

/-- What the application leaves: `uip_flags`, and what it gave `uip_send`. -/
structure AppReply where
  flags : Flags
  send : List UInt8

/-- `UIP_APPCALL`. -/
abbrev App (τ : Type) := AppCall → τ → Except Fault (AppReply × τ)

/-- The variables of the stack. No code reads `calls`, what the application was called with. -/
structure Stack (τ : Type) where
  hostaddr : IpAddr
  conns : Connection → Conn
  listenports : List UInt16
  iss : UInt32
  ipid : UInt16
  reass : Reass
  app : τ
  calls : List AppCall

variable {τ : Type}

def Stack.setConn (s : Stack τ) (i : Connection) (c : Conn) : Stack τ :=
  { s with conns := Function.update s.conns i c }

def Stack.closeConn (s : Stack τ) (i : Connection) : Stack τ :=
  s.setConn i { s.conns i with state := .closed }

/-- `uip_add_rcv_nxt(n)`. -/
def Conn.addRcvNxt (c : Conn) (n : UInt16) : Conn := { c with rcvNxt := c.rcvNxt + n.toUInt32 }

/-- `if(uip_len > 0) uip_add_rcv_nxt(uip_len)`. -/
def Conn.received (c : Conn) (uipLen : UInt16) : Conn := if uipLen > 0 then c.addRcvNxt uipLen else c

/-- The limit of a segment, by the peer's window. -/
def Conn.windowed (c : Conn) (wnd : UInt16) : Conn :=
  { c with mss := if wnd > c.initialmss ∨ wnd = 0 then c.initialmss else wnd }

/-- A flag of a TCP header. -/
def TcpHeader.has (h : TcpHeader) (flag : UInt8) : Bool := h.flags &&& flag != 0

/-- The call of the application. The bytes that it sends are copied to where
the data of a packet starts; the buffer ends two bytes behind the largest segment. -/
def Stack.appcall (app : App τ) (s : Stack τ) (i : Connection) (flags : Flags) (data : List UInt8)
    (buf : Nat → UInt8) : Except Fault (Flags × UInt16 × (Nat → UInt8) × Stack τ) := do
  let call : AppCall := { conn := i, lport := (s.conns i).lport, flags, data }
  let (reply, a) ← app call s.app
  if reply.send.length > uipTcpMss + 2 then .error .buffer
  return (reply.flags, UInt16.ofNat reply.send.length, store buf 0 reply.send,
    { s with app := a, calls := s.calls ++ [call] })

/-! ## Sending -/

/-- `ip_send_nolen`. -/
def ipSendNolen (s : Stack τ) (p : Packet) : Stack τ × Option Packet :=
  let ipid := s.ipid + 1
  let p := { p with vhl := 0x45, tos := 0, ipoffset := 0, ipid, ipchksum := 0 }
  ({ s with ipid }, some { p with ipchksum := ~~~ uipIpchksum p.toIpHeader })

def tcpSendNoconn (s : Stack τ) (p : Packet) (uipLen : UInt16) : Stack τ × Option Packet :=
  let p := { p with ttl := uipTtl, len := uipLen, urgp := 0, tcpchksum := 0 }
  ipSendNolen s { p with tcpchksum := ~~~ uipTcpchksum p }

def tcpSend (s : Stack τ) (i : Connection) (p : Packet) (uipLen : UInt16) : Stack τ × Option Packet :=
  let c := s.conns i
  tcpSendNoconn s
    { p with
      ackno := c.rcvNxt
      seqno := c.sndNxt
      proto := uipProtoTcp
      srcport := c.lport
      destport := c.rport
      srcipaddr := s.hostaddr
      destipaddr := c.ripaddr
      wnd := uipReceiveWindow } uipLen

def tcpSendNoopts (s : Stack τ) (i : Connection) (p : Packet) (uipLen : UInt16) : Stack τ × Option Packet :=
  tcpSend s i { p with tcpoffset := (5 : UInt8) <<< 4 } uipLen

def tcpSendNodata (s : Stack τ) (i : Connection) (p : Packet) : Stack τ × Option Packet :=
  tcpSendNoopts s i p 40

def tcpSendAck (s : Stack τ) (i : Connection) (p : Packet) : Stack τ × Option Packet :=
  tcpSendNodata s i { p with flags := tcpAck }

def tcpSendFinack (s : Stack τ) (i : Connection) (p : Packet) : Stack τ × Option Packet :=
  tcpSendNodata s i { p with flags := tcpFin ||| tcpAck }

/-- From `tcp_send_syn` on: the flag SYN, and the option of the largest segment. -/
def tcpSendSyn (s : Stack τ) (i : Connection) (p : Packet) : Stack τ × Option Packet :=
  let optdata : List UInt8 := [2, 4, UInt8.ofNat (uipTcpMss / 256), UInt8.ofNat uipTcpMss]
  let data := store p.data 0 optdata
  tcpSend s i { p with flags := p.flags ||| tcpSyn, data, tcpoffset := (6 : UInt8) <<< 4 } 44

def tcpSendSynack (s : Stack τ) (i : Connection) (p : Packet) : Stack τ × Option Packet :=
  tcpSendSyn s i { p with flags := tcpAck }

/-- `reset`: the packet goes back with RST, unless it has it. -/
def reset (s : Stack τ) (p : Packet) : Stack τ × Option Packet :=
  if p.has tcpRst then (s, none)
  else tcpSendNoconn s
    { p with
      flags := tcpRst ||| tcpAck
      tcpoffset := (5 : UInt8) <<< 4
      seqno := p.ackno
      ackno := p.seqno + 1
      srcport := p.destport
      destport := p.srcport
      destipaddr := p.srcipaddr
      srcipaddr := s.hostaddr } 40

/-- `apprexmit`. -/
def apprexmit (s : Stack τ) (i : Connection) (flags : Flags) (slen : UInt16) (p : Packet) :
    Stack τ × Option Packet :=
  if slen > 0 ∧ (s.conns i).len > 0 then
    tcpSendNoopts s i { p with flags := tcpAck ||| tcpPsh } ((s.conns i).len + 40)
  else if flags.newdata then tcpSendNoopts s i { p with flags := tcpAck } 40
  else (s, none)

/-- What `appsend` does with `uip_slen > 0`: the connection, and `uip_slen`. -/
def Conn.appsend (c : Conn) (flags : Flags) (slen : UInt16) : Conn × UInt16 :=
  let c := if flags.ackdata then { c with len := 0 } else c
  if c.len = 0 then
    let slen := if slen > c.mss then c.mss else slen
    ({ c with len := slen }, slen)
  else (c, c.len)

/-- `appsend`. -/
def appsend (s : Stack τ) (i : Connection) (flags : Flags) (slen : UInt16) (p : Packet) :
    Stack τ × Option Packet :=
  if flags.abort then
    tcpSendNodata (s.closeConn i) i { p with flags := tcpRst ||| tcpAck }
  else if flags.close then
    tcpSendNodata (s.setConn i { s.conns i with len := 1, state := .finWait1, nrtx := 0 }) i
      { p with flags := tcpFin ||| tcpAck }
  else
    let (c, slen) := if slen > 0 then (s.conns i).appsend flags slen else (s.conns i, slen)
    apprexmit (s.setConn i { c with nrtx := 0 }) i flags slen p

/-! ## The timer -/

/-- The timer of a connection with outstanding data has fired. -/
def Conn.backoff (c : Conn) : Conn :=
  { c with timer := uipRto <<< (if c.nrtx > 4 then 4 else c.nrtx), nrtx := c.nrtx + 1 }

/-- A retransmission. -/
def retransmit (app : App τ) (s : Stack τ) (i : Connection) (p : Packet) :
    Except Fault (Stack τ × Option Packet) :=
  match (s.conns i).state with
  | .synRcvd => .ok (tcpSendSynack s i p)
  | .synSent => .ok (tcpSendSyn s i { p with flags := 0 })
  | .established => do
    let (flags, slen, data, s) ← s.appcall app i { rexmit := true } [] p.data
    return apprexmit s i flags slen { p with data }
  | .finWait1 | .closing | .lastAck => .ok (tcpSendFinack s i p)
  | _ => .ok (s, none)

/-- The rest of `uip_process(UIP_TIMER)`, about the connection alone. -/
def connTimer (app : App τ) (s : Stack τ) (i : Connection) (p : Packet) :
    Except Fault (Stack τ × Option Packet) := do
  let c := s.conns i
  if c.state = .timeWait ∨ c.state = .finWait2 then
    let c := { c with timer := c.timer + 1 }
    return (s.setConn i (if c.timer = uipTimeWaitTimeout then { c with state := .closed } else c), none)
  else if c.state ≠ .closed then
    if c.len ≠ 0 then
      let s := s.setConn i { c with timer := c.timer - 1 }
      if c.timer = 0 then
        if c.nrtx = uipMaxrtx ∨ ((c.state = .synSent ∨ c.state = .synRcvd) ∧ c.nrtx = uipMaxsynrtx) then
          let (_, _, data, s) ← (s.closeConn i).appcall app i { timedout := true } [] p.data
          return tcpSendNodata s i { p with flags := tcpRst ||| tcpAck, data }
        else retransmit app (s.setConn i (s.conns i).backoff) i p
      else return (s, none)
    else if c.state = .established then
      let (flags, slen, data, s) ← s.appcall app i { poll := true } [] p.data
      return appsend s i flags slen { p with data }
    else return (s, none)
  else return (s, none)

/-- `uip_process(UIP_TIMER)`: `uip_reasstmr` and `iss` first. -/
def uipTimer (app : App τ) (s : Stack τ) (i : Connection) (p : Packet) :
    Except Fault (Stack τ × Option Packet) :=
  let reass := if s.reass.tmr ≠ 0 then { s.reass with tmr := s.reass.tmr - 1 } else s.reass
  connTimer app { s with iss := s.iss + 1, reass } i p

/-! ## TCP input -/

/-- The connection that a segment belongs to. -/
def Stack.found? (s : Stack τ) (p : Packet) : Option Connection :=
  (List.finRange uipConns).find? fun i =>
    (s.conns i).state ≠ .closed ∧ p.destport = (s.conns i).lport ∧ p.srcport = (s.conns i).rport ∧
      p.srcipaddr = (s.conns i).ripaddr

/-- The search of `found_listen`: the first closed connection, or of those in
TIME_WAIT before it the one whose timer has run longest. -/
def Stack.unused (s : Stack τ) : List Connection → Option Connection → Option Connection
  | [], oldest => oldest
  | i :: is, oldest =>
    if (s.conns i).state = .closed then some i
    else if (s.conns i).state = .timeWait then
      match oldest with
      | none => s.unused is (some i)
      | some j => if (s.conns i).timer > (s.conns j).timer then s.unused is (some i) else s.unused is (some j)
    else s.unused is oldest

/-- What the loop over the options finds: nothing, or the MSS option. -/
inductive Options
  | none
  | mss (value : UInt16)
  deriving DecidableEq

/-- The loop over the options of a SYN, from the option at `c` on. -/
def parseOptions (tcpoffset : UInt8) (data : Nat → UInt8) : Nat → UInt8 → Except Fault Options
  | 0, _ => .error .outOfFuel
  | fuel + 1, c =>
    if c.toNat < ((tcpoffset >>> 4).toNat - 5) * 4 then
      let opt := data c.toNat
      if opt = 0 then .ok .none
      else if opt = 1 then parseOptions tcpoffset data fuel (c + 1)
      else if opt = 2 ∧ data (c.toNat + 1) = 4 then
        .ok (.mss (ofBeBytes (data (c.toNat + 2)) (data (c.toNat + 3))))
      else if data (c.toNat + 1) = 0 then .ok .none
      else parseOptions tcpoffset data fuel (c + data (c.toNat + 1))
    else .ok .none

/-- Both limits of a segment from the MSS option, if there is one. -/
def Conn.setMss (c : Conn) : Options → Conn
  | .none => c
  | .mss value =>
    let mss := if value > UInt16.ofNat uipTcpMss then UInt16.ofNat uipTcpMss else value
    { c with initialmss := mss, mss }

/-- The options of a segment, if its header has any. -/
def Conn.readOptions (fuel : Nat) (c : Conn) (p : Packet) : Except Fault Conn :=
  if p.tcpoffset &&& 0xf0 > 0x50 then do
    let options ← parseOptions p.tcpoffset p.data fuel 0
    return c.setMss options
  else .ok c

/-- `found_listen`. -/
def foundListen (fuel : Nat) (s : Stack τ) (p : Packet) : Except Fault (Stack τ × Option Packet) :=
  match s.unused (List.finRange uipConns) none with
  | none => .ok (s, none)
  | some i => do
    let c : Conn :=
      { s.conns i with
        rto := uipRto
        timer := uipRto
        sa := 0
        sv := 4
        nrtx := 0
        lport := p.destport
        rport := p.srcport
        ripaddr := p.srcipaddr
        state := .synRcvd
        sndNxt := s.iss
        len := 1
        rcvNxt := p.seqno + 1 }
    let c ← c.readOptions fuel p
    return tcpSendSynack (s.setConn i c) i p

/-- The estimation of the round-trip time. -/
def Conn.estimate (c : Conn) : Conn :=
  if c.nrtx = 0 then
    let m := c.rto - c.timer - (c.sa >>> 3)
    let sa := c.sa + m
    let m := if m ≥ 0x80 then 0 - m else m
    let sv := c.sv + (m - (c.sv >>> 2))
    { c with sa, sv, rto := (sa >>> 3) + sv }
  else c

/-- Does the segment acknowledge what is outstanding? -/
def Conn.acknowledged (c : Conn) (p : Packet) : Bool :=
  p.has tcpAck && c.len != 0 && p.ackno == c.sndNxt + c.len.toUInt32

/-- The connection after such an acknowledgement. -/
def Conn.acked (c : Conn) : Conn :=
  let sent := { c with sndNxt := c.sndNxt + c.len.toUInt32 }.estimate
  { sent with timer := sent.rto, len := 0 }

/-- The `uip_len` bytes at `uip_appdata`, `skip` bytes behind where data starts. -/
def appdata (p : Packet) (skip : Nat) (uipLen : UInt16) : List UInt8 :=
  (List.range uipLen.toNat).map fun k => p.data (skip + k)

/-- `SYN_RCVD`, with the SYN acknowledged. -/
def synRcvdAcked (app : App τ) (s : Stack τ) (i : Connection) (uipLen : UInt16) (p : Packet) :
    Except Fault (Stack τ × Option Packet) := do
  let c := { s.conns i with state := .established, len := 0 }
  let s := s.setConn i (c.received uipLen)
  let flags : Flags := { connected := true, newdata := decide (uipLen > 0) }
  let (flags, slen, data, s) ← s.appcall app i flags (appdata p 0 uipLen) p.data
  return appsend s i flags slen { p with data }

/-- `SYN_SENT`. -/
def synSentInput (fuel : Nat) (app : App τ) (s : Stack τ) (i : Connection) (flags : Flags) (uipLen : UInt16)
    (p : Packet) : Except Fault (Stack τ × Option Packet) := do
  if flags.ackdata ∧ p.flags &&& tcpCtl = tcpSyn ||| tcpAck then
    let c ← (s.conns i).readOptions fuel p
    let s := s.setConn i { c with state := .established, rcvNxt := p.seqno + 1, len := 0 }
    let (flags, slen, data, s) ← s.appcall app i { connected := true, newdata := true } [] p.data
    return appsend s i flags slen { p with data }
  else
    let (_, _, data, s) ← s.appcall app i { abort := true } (appdata p 0 uipLen) p.data
    return reset (s.closeConn i) { p with data }

/-- `ESTABLISHED`, with the flag FIN. -/
def establishedFin (app : App τ) (s : Stack τ) (i : Connection) (flags : Flags) (uipLen : UInt16)
    (p : Packet) : Except Fault (Stack τ × Option Packet) :=
  if (s.conns i).len ≠ 0 then .ok (s, none)
  else do
    let s := s.setConn i ((s.conns i).addRcvNxt (1 + uipLen))
    let flags := { flags with close := true, newdata := flags.newdata || decide (uipLen > 0) }
    let (_, _, data, s) ← s.appcall app i flags (appdata p 0 uipLen) p.data
    let s := s.setConn i { s.conns i with len := 1, state := .lastAck, nrtx := 0 }
    return tcpSendFinack s i { p with data }

/-- `ESTABLISHED`, without it. -/
def establishedData (app : App τ) (s : Stack τ) (i : Connection) (flags : Flags) (uipLen : UInt16)
    (p : Packet) : Except Fault (Stack τ × Option Packet) := do
  -- urgent data is skipped
  let skip := if p.has tcpUrg then p.urgp else 0
  let uipLen := uipLen - skip
  let flags := { flags with newdata := flags.newdata || decide (uipLen > 0) }
  let s := s.setConn i (((s.conns i).received uipLen).windowed p.wnd)
  if flags.newdata ∨ flags.ackdata then
    let (flags, slen, data, s) ← s.appcall app i flags (appdata p skip.toNat uipLen) p.data
    return appsend s i flags slen { p with data }
  else return (s, none)

/-- `FIN_WAIT_1`. -/
def finWait1Input (app : App τ) (s : Stack τ) (i : Connection) (flags : Flags) (uipLen : UInt16)
    (p : Packet) : Except Fault (Stack τ × Option Packet) := do
  let c := (s.conns i).received uipLen
  if p.has tcpFin then
    let c := if flags.ackdata then { c with state := .timeWait, timer := 0, len := 0 }
      else { c with state := .closing }
    let s := s.setConn i (c.addRcvNxt 1)
    let (_, _, data, s) ← s.appcall app i { close := true } (appdata p 0 uipLen) p.data
    return tcpSendAck s i { p with data }
  else if flags.ackdata then return (s.setConn i { c with state := .finWait2, len := 0 }, none)
  else if uipLen > 0 then return tcpSendAck (s.setConn i c) i p
  else return (s.setConn i c, none)

/-- `FIN_WAIT_2`. -/
def finWait2Input (app : App τ) (s : Stack τ) (i : Connection) (uipLen : UInt16) (p : Packet) :
    Except Fault (Stack τ × Option Packet) := do
  let c := (s.conns i).received uipLen
  if p.has tcpFin then
    let c := { c with state := .timeWait, timer := 0 }
    let s := s.setConn i (c.addRcvNxt 1)
    let (_, _, data, s) ← s.appcall app i { close := true } (appdata p 0 uipLen) p.data
    return tcpSendAck s i { p with data }
  else if uipLen > 0 then return tcpSendAck (s.setConn i c) i p
  else return (s.setConn i c, none)

/-- The `switch` over the state. -/
def stateInput (fuel : Nat) (app : App τ) (s : Stack τ) (i : Connection) (flags : Flags) (uipLen : UInt16)
    (p : Packet) : Except Fault (Stack τ × Option Packet) :=
  match (s.conns i).state with
  | .synRcvd => if flags.ackdata then synRcvdAcked app s i uipLen p else .ok (s, none)
  | .synSent => synSentInput fuel app s i flags uipLen p
  | .established =>
    if p.has tcpFin then establishedFin app s i flags uipLen p else establishedData app s i flags uipLen p
  | .lastAck =>
    if flags.ackdata then do
      let (_, _, _, s) ← (s.closeConn i).appcall app i { close := true } (appdata p 0 uipLen) p.data
      return (s, none)
    else .ok (s, none)
  | .finWait1 => finWait1Input app s i flags uipLen p
  | .finWait2 => finWait2Input app s i uipLen p
  | .timeWait => .ok (tcpSendAck s i p)
  | .closing =>
    if flags.ackdata then .ok (s.setConn i { s.conns i with state := .timeWait, timer := 0 }, none)
    else .ok (s, none)
  | .closed => .ok (s, none)

/-- Is the segment not the next one? -/
def Conn.unexpected (c : Conn) (p : Packet) (uipLen : UInt16) : Bool :=
  !(c.state == .synSent && p.flags &&& tcpCtl == tcpSyn ||| tcpAck) &&
    (decide (uipLen > 0) || p.has (tcpSyn ||| tcpFin)) && p.seqno != c.rcvNxt

/-- The bytes of data in a segment, by its headers. -/
def Packet.dataLen (p : Packet) : UInt16 := p.len - ((p.tcpoffset >>> 4) <<< 2).toUInt16 - 20

/-- `found`. -/
def found (fuel : Nat) (app : App τ) (s : Stack τ) (i : Connection) (p : Packet) :
    Except Fault (Stack τ × Option Packet) := do
  if p.has tcpRst then
    let (_, _, _, s) ← (s.closeConn i).appcall app i { abort := true } (appdata p 0 p.len) p.data
    return (s, none)
  else
    if (s.conns i).unexpected p p.dataLen then return tcpSendAck s i p
    else if (s.conns i).acknowledged p then
      stateInput fuel app (s.setConn i (s.conns i).acked) i { ackdata := true } p.dataLen p
    else stateInput fuel app s i {} p.dataLen p

/-- `tcp_input`. -/
def tcpInput (fuel : Nat) (app : App τ) (s : Stack τ) (p : Packet) : Except Fault (Stack τ × Option Packet) :=
  if uipTcpchksum p ≠ 0xffff then .ok (s, none)
  else
    match s.found? p with
    | some i => found fuel app s i p
    | none =>
      if p.flags &&& tcpCtl ≠ tcpSyn then .ok (reset s p)
      else if p.destport ∈ s.listenports then foundListen fuel s p
      else .ok (reset s p)

/-! ## IP input -/

/-- The reply to an ICMP echo request. The processor reads its checksum field with the low byte first. -/
def icmpInput (s : Stack τ) (ip : IpHeader) (rest : Nat → UInt8) : Option (IpHeader × (Nat → UInt8)) :=
  if rest 0 ≠ icmpEcho then none
  else
    let icmpchksum := ofBeBytes (rest 3) (rest 2)
    let icmpchksum := if icmpchksum ≥ 0xfff7 then icmpchksum + 9 else icmpchksum + 8
    some ({ ip with destipaddr := ip.srcipaddr, srcipaddr := s.hostaddr },
      store rest 0 [icmpEchoReply, rest 1, icmpchksum.toUInt8, (icmpchksum >>> 8).toUInt8])

/-- What goes out. -/
inductive Output
  | none
  | tcp (p : Packet)
  | icmp (ip : IpHeader) (rest : Nat → UInt8)

def Output.ofTcp : Option Packet → Output
  | .none => .none
  | some p => .tcp p

/-- The checks of the destination and of the header's checksum. -/
def Stack.ipCheck (s : Stack τ) (ip : IpHeader) : Bool :=
  (s.hostaddr == ⟨0, 0⟩ || ip.destipaddr == s.hostaddr) && uipIpchksum ip == 0xffff

/-- The start of the input, with `uip_len` bytes received: the datagram that passes the checks, if one
does; of a fragment, the datagram that it completes. -/
def ipAccept (s : Stack τ) (uipLen : UInt16) (ip : IpHeader) (rest : Nat → UInt8) :
    Except Fault (Stack τ × Option (IpHeader × (Nat → UInt8))) := do
  if ip.vhl ≠ 0x45 ∨ ip.len > uipLen then return (s, none)
  else if ip.ipoffset &&& 0x3fff ≠ 0 then
    let (reass, whole) ← uipReass s.reass ip rest
    return ({ s with reass }, whole.filter fun (ip, _) => ip.len != 0 && s.ipCheck ip)
  else return (s, if s.ipCheck ip then some (ip, rest) else none)

/-- `uip_process(UIP_DATA)`. -/
def uipInput (fuel : Nat) (app : App τ) (s : Stack τ) (uipLen : UInt16) (ip : IpHeader) (rest : Nat → UInt8) :
    Except Fault (Stack τ × Output) := do
  let (s, datagram) ← ipAccept s uipLen ip rest
  match datagram with
  | none => return (s, .none)
  | some (ip, rest) =>
    if ip.proto = uipProtoTcp then
      let (s, out) ← tcpInput fuel app s (.ofBuffer ip rest)
      return (s, .ofTcp out)
    else if ip.proto = uipProtoIcmp then
      match icmpInput s ip rest with
      -- `uip_len` is the length of the request
      | some (ip, rest) => return (s, if ip.len = 0 then .none else .icmp ip rest)
      | none => return (s, .none)
    else return (s, .none)

/-! ## Runs -/

/-- A packet that comes in, and the timer of a connection, with what the buffer holds. -/
inductive Event
  | input (uipLen : UInt16) (ip : IpHeader) (rest : Nat → UInt8)
  | periodic (i : Connection) (p : Packet)

/-- A packet that comes in. -/
def Packet.event (p : Packet) : Event := .input p.len p.toIpHeader p.rest

/-- One call of `uip_process`. -/
def process (fuel : Nat) (app : App τ) (s : Stack τ) : Event → Except Fault (Stack τ × Output)
  | .input uipLen ip rest => uipInput fuel app s uipLen ip rest
  | .periodic i p => do
    let (s, out) ← uipTimer app s i p
    return (s, .ofTcp out)

/-- A stack, and what it has sent. -/
structure Link (τ : Type) where
  stack : Stack τ
  sent : List Output

/-- What the main loop does with the application's state after a call of `uip_process`. -/
abbrev Main (τ : Type) := Event → τ → Except Fault τ

def Link.step (fuel : Nat) (app : App τ) (main : Main τ) (s : Link τ) (e : Event) : Except Fault (Link τ) := do
  let (stack, out) ← process fuel app s.stack e
  let a ← main e stack.app
  return { stack := { stack with app := a }, sent := s.sent ++ [out] }

def Conn.unset : Conn :=
  { ripaddr := ⟨0, 0⟩, lport := 0, rport := 0, rcvNxt := 0, sndNxt := 0, len := 0, mss := 0, initialmss := 0,
    sa := 0, sv := 0, rto := 0, state := .closed, timer := 0, nrtx := 0 }

/-- `uip_listen`: the port takes the first free place. -/
def uipListen (port : UInt16) : List UInt16 → List UInt16
  | [] => []
  | listenport :: listenports =>
    if listenport = 0 then port :: listenports else listenport :: uipListen port listenports

/-- After `uip_init` and `httpd_init`, which listens to port 80. -/
def Stack.powerUp (hostaddr : IpAddr) (a : τ) : Stack τ where
  hostaddr := hostaddr
  conns := fun _ => Conn.unset
  listenports := uipListen 80 (List.replicate uipListenports 0)
  iss := 0
  ipid := 0
  reass := { buf := fun _ => 0, bitmap := fun _ => 0, len := 0, lastfrag := false, tmr := 0 }
  app := a
  calls := []

end UdcFirmware.Uip
