/-
The Ethernet transport. uIP calls `httpd_appcall` (`httpd.c`) for the
connection it is serving, with new data or without: the data is appended to
`rx_buffer`, and a response that is waiting is sent. `EthernetProcessData`
(`ethernet_uip.c`) hands the buffer to BSMP as soon as an incoming packet has
completed a message.

There is one buffer and one response for all connections. The response is
sent at the next callback, and its bytes are read only then.
-/
import UdcFirmware.Lib.Runs
import UdcFirmware.Bsmp.Jig
import UdcFirmware.Drivers.WireMessage

namespace UdcFirmware.Drivers

open Bsmp ByteMem Checked Filling

variable {σ : Type}

/-! ## `httpd.c` -/

@[simp] abbrev uipConns : Nat := 2
@[simp] abbrev rxBufSize : Nat := 3 + 3 + 8192
@[simp] abbrev ethSendSize : Nat := 2000

abbrev Connection := Fin uipConns

/-- `response_to_client`. The pointer is an offset into `send_buffer.data`. -/
structure Response where
  responseData : Nat
  length : UInt16

/-- The variables of `httpd.c` and `ethernet_uip.c`, and the server. No code
reads the last two: what `recv_packet` held at each call of `BSMPprocess` and
what was in `send_packet` after it, and what `uip_send` was given on which
connection. -/
structure Ethernet (σ : Type) where
  rxBuffer : Buffer UInt8
  newMessage : Bool
  newDataSend : Bool
  responseToClient : Response
  sendBuffer : Mem UInt8
  recvLen : UInt16
  sendLen : UInt16
  sys : System σ
  calls : List (List UInt8 × List UInt8)
  sends : List (Connection × List UInt8)

/-- The branch of `uip_newdata()`. -/
def Ethernet.newdata (s : Ethernet σ) (bytes : List UInt8) : Except Fault (Ethernet σ) :=
  if s.rxBuffer.index < 65536 then do
    let rxBuffer ← s.rxBuffer.pushAll Fault.buffer rxBufSize bytes
    return { s with
      rxBuffer
      newMessage := if rxBuffer.index > (sCarga rxBuffer).toNat + 2 then true else s.newMessage }
  else .ok s

/-- `uip_send(response_data, length)`, for the connection being served. -/
def Ethernet.uipSend (s : Ethernet σ) (conn : Connection) (r : Response) : Except Fault (Ethernet σ) :=
  if r.length.toNat > 0 then
    if r.responseData + r.length.toNat ≤ ethSendSize then
      .ok { s with sends := s.sends ++ [(conn, load s.sendBuffer ⟨r.responseData, r.length.toNat⟩)] }
    else .error .buffer
  else .ok s

def httpdAppcall (s : Ethernet σ) (conn : Connection) (data : Option (List UInt8)) :
    Except Fault (Ethernet σ) := do
  let s ← match data with
    | some bytes => s.newdata bytes
    | none => .ok s
  if s.newDataSend then do
    let s ← s.uipSend conn s.responseToClient
    return { s with newDataSend := false }
  else return s

def httpdInsertResponse (s : Ethernet σ) (dataLength : UInt16) (data : Nat) : Ethernet σ :=
  { s with responseToClient := ⟨data, dataLength⟩, newDataSend := true }

def Ethernet.bufferClear (s : Ethernet σ) : Ethernet σ := { s with rxBuffer := s.rxBuffer.reset }

/-! ## `ethernet_uip.c` -/

/-- `send_packet.data` is `send_buffer.data + 1`. -/
@[simp] abbrev sendPacketData : Nat := 1

/-- `recv_packet`, as far as `bsmp_process_packet` can look. -/
def Ethernet.recvPacket (s : Ethernet σ) : Request where
  packet := { data := load s.rxBuffer.data ⟨0, max bsmpHeaderSize s.recvLen.toNat⟩, len := s.recvLen }
  header := by simp
  held := by simp

/-- The payload of `send_packet`, before BSMP fills it. -/
def Ethernet.area (s : Ethernet σ) : Nat → UInt8 := fun i =>
  s.sendBuffer (sendPacketData + bsmpHeaderSize + i)

/-- `recv_packet.len = BufferLen()`. -/
def Ethernet.setRecvLen (s : Ethernet σ) : Ethernet σ :=
  { s with recvLen := UInt16.ofNat s.rxBuffer.index }

/-- `BSMPprocess(&recv_packet, &send_packet)`. -/
def Ethernet.bsmpProcess (md5 : Md5) (s : Ethernet σ) : Except Fault (Ethernet σ) := do
  let (sys, response) ← bsmpProcessPacket md5 s.sys s.recvPacket s.area
  if sendPacketData + response.data.length > ethSendSize then .error .buffer
  else return { s with
    sys
    sendBuffer := store s.sendBuffer sendPacketData response.data
    sendLen := response.len
    calls := s.calls ++
      [(s.recvPacket.packet.data.take s.recvLen.toNat, response.data.take response.len.toNat)] }

def ethernetProcessCmd (md5 : Md5) (s : Ethernet σ) : Except Fault (Ethernet σ) := do
  let s ← s.setRecvLen.bsmpProcess md5
  return (httpdInsertResponse s s.sendLen sendPacketData).bufferClear

/-- What `EthernetProcessData` does that reaches a connection: an incoming
packet, and the timer of the connection. -/
inductive EthernetEvent
  | input (conn : Connection) (data : Option (List UInt8))
  | periodic (conn : Connection)

def Ethernet.step (md5 : Md5) (s : Ethernet σ) : EthernetEvent → Except Fault (Ethernet σ)
  | .input conn data => do
    let s ← httpdAppcall s conn data
    if s.newMessage then ethernetProcessCmd md5 { s with newMessage := false } else return s
  | .periodic conn => httpdAppcall s conn none

def Ethernet.powerUp (r : Routines σ) (world : World σ) : Ethernet σ where
  rxBuffer := ⟨fun _ => 0, 0⟩
  newMessage := false
  newDataSend := false
  responseToClient := ⟨0, 0⟩
  sendBuffer := fun _ => 0
  recvLen := 0
  sendLen := 0
  sys := bsmpInit r world
  calls := []
  sends := []

/-! ## One callback -/

variable {s s' : Ethernet σ}

/-- The state after new data. -/
def Ethernet.received (s : Ethernet σ) (bytes : List UInt8) : Ethernet σ :=
  { s with
    rxBuffer := s.rxBuffer.append bytes
    newMessage := if (sCarga (s.rxBuffer.append bytes)).toNat + 2 < (s.rxBuffer.append bytes).index then true
      else s.newMessage }

theorem newdata_ok {bytes : List UInt8} (h : s.rxBuffer.index + bytes.length ≤ rxBufSize) :
    s.newdata bytes = .ok (s.received bytes) := by
  simp only [Ethernet.newdata, Buffer.pushAll_eq]
  rw [if_pos (by simp only [rxBufSize] at h; omega), if_pos (.inl h)]
  rfl

/-- The response that is waiting. -/
def Ethernet.pending (s : Ethernet σ) : List UInt8 :=
  load s.sendBuffer ⟨s.responseToClient.responseData, s.responseToClient.length.toNat⟩

/-- The state after the response, if there is one, has been sent. -/
def Ethernet.flushed (s : Ethernet σ) (conn : Connection) : Ethernet σ :=
  if s.newDataSend then { s with newDataSend := false, sends := s.sends ++ [(conn, s.pending)] } else s

@[simp] theorem flushed_rxBuffer (s : Ethernet σ) (conn : Connection) :
    (s.flushed conn).rxBuffer = s.rxBuffer := by
  unfold Ethernet.flushed
  split <;> rfl

@[simp] theorem flushed_newMessage (s : Ethernet σ) (conn : Connection) :
    (s.flushed conn).newMessage = s.newMessage := by
  unfold Ethernet.flushed
  split <;> rfl

@[simp] theorem flushed_newDataSend (s : Ethernet σ) (conn : Connection) :
    (s.flushed conn).newDataSend = false := by
  unfold Ethernet.flushed
  split
  · rfl
  · next h => simpa using h

/-- A response that is waiting is not empty, and within the buffer. -/
def Ethernet.Sendable (s : Ethernet σ) : Prop :=
  s.newDataSend = true → 0 < s.responseToClient.length.toNat ∧
    s.responseToClient.responseData + s.responseToClient.length.toNat ≤ ethSendSize

theorem httpdAppcall_none (h : s.Sendable) (conn : Connection) :
    httpdAppcall s conn none = .ok (s.flushed conn) := by
  simp only [httpdAppcall, ok_bind, Ethernet.flushed]
  cases hd : s.newDataSend with
  | false => rfl
  | true =>
    obtain ⟨hpos, hin⟩ := h hd
    simp only [Ethernet.uipSend, hpos, hin, if_true, ok_bind]
    rfl

theorem httpdAppcall_some (h : s.Sendable) (conn : Connection) {bytes : List UInt8}
    (hroom : s.rxBuffer.index + bytes.length ≤ rxBufSize) :
    httpdAppcall s conn (some bytes) = .ok ((s.received bytes).flushed conn) := by
  rw [← httpdAppcall_none (s := s.received bytes) h conn]
  simp only [httpdAppcall, newdata_ok hroom, ok_bind]

/-! ## One request -/

theorem Ethernet.recvPacket_held (h : s.rxBuffer.index ≤ rxBufSize) :
    s.setRecvLen.recvPacket.packet.data.take s.setRecvLen.recvLen.toNat = s.rxBuffer.held := by
  have hlen : s.setRecvLen.recvLen.toNat = s.rxBuffer.index :=
    UInt16.toNat_ofNat_of_lt (Nat.lt_of_le_of_lt h (by decide))
  simp only [Ethernet.recvPacket, hlen, load, Buffer.held]
  rw [← List.map_take, List.take_range, Nat.min_eq_left (Nat.le_max_right _ _)]
  rfl

/-- The state after BSMP has answered. -/
def Ethernet.answered (s : Ethernet σ) (sys : System σ) (response : RawPacket) : Ethernet σ :=
  { s with
    sys
    sendBuffer := store s.sendBuffer sendPacketData response.data
    sendLen := response.len
    calls := s.calls ++
      [(s.recvPacket.packet.data.take s.recvLen.toNat, response.data.take response.len.toNat)] }

theorem ethernetProcessCmd_eq {md5 : Md5} {sys : System σ} {response : RawPacket}
    (hproc : bsmpProcessPacket md5 s.sys s.setRecvLen.recvPacket s.area = .ok (sys, response))
    (hroom : sendPacketData + response.data.length ≤ ethSendSize) :
    ethernetProcessCmd md5 s =
      .ok (httpdInsertResponse (s.setRecvLen.answered sys response) response.len
        sendPacketData).bufferClear := by
  have hproc' : bsmpProcessPacket md5 s.setRecvLen.sys s.setRecvLen.recvPacket s.setRecvLen.area =
      .ok (sys, response) := hproc
  simp only [ethernetProcessCmd, Ethernet.bsmpProcess, hproc', ok_bind]
  rw [if_neg (by omega)]
  rfl

/-- What the connection is to be sent: the response. -/
theorem pending_answered (sys : System σ) {response : RawPacket}
    (hlen : response.len.toNat = response.data.length) :
    (httpdInsertResponse (s.answered sys response) response.len sendPacketData).pending = response.data := by
  simp only [Ethernet.pending, httpdInsertResponse, Ethernet.answered, hlen, load_store]

/-- A request is handed to BSMP as it is in the buffer, the answer waits, and
the buffer is empty. -/
theorem ethernetProcessCmd_ok (md5 : Md5) (hsys : FunctionsOnly s.sys) (hidx : s.rxBuffer.index ≤ rxBufSize) :
    ∃ s', ethernetProcessCmd md5 s = .ok s' ∧ FunctionsOnly s'.sys ∧ s'.rxBuffer = s.rxBuffer.reset ∧
      s'.newMessage = s.newMessage ∧ s'.newDataSend = true ∧ s'.Sendable ∧ s'.sends = s.sends ∧
      s'.calls = s.calls ++ [(s.rxBuffer.held, s'.pending)] := by
  obtain ⟨sys, response, hproc, hsys', hlen, hheader, hshort⟩ :=
    hsys.process md5 s.setRecvLen.recvPacket s.area
  simp only [bsmpHeaderSize, maxListSize, bsmpMaxCurves, bsmpCurveListInfo] at hheader hshort
  refine ⟨_, ethernetProcessCmd_eq hproc (by simp only [sendPacketData, ethSendSize]; omega), hsys', rfl, rfl,
    rfl, fun _ => ⟨?_, ?_⟩, rfl, ?_⟩
  · change 0 < response.len.toNat
    omega
  · change sendPacketData + response.len.toNat ≤ ethSendSize
    simp only [sendPacketData, ethSendSize]
    omega
  · have hheld := Ethernet.recvPacket_held hidx
    have hanswer : response.data.take response.len.toNat =
        (httpdInsertResponse (s.setRecvLen.answered sys response) response.len sendPacketData).pending := by
      rw [pending_answered sys hlen, hlen, List.take_length]
    exact congrArg (fun call => s.calls ++ [call]) (Prod.ext hheld hanswer)

end UdcFirmware.Drivers
