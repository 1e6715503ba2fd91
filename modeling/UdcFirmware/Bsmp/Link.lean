/-
A client and a server, joined by a channel that loses nothing.

`link` hands what the client sends to `bsmp_process_packet` and the response
back. The server answers with messages that can be sent (`Answers`), so the
client takes each of them whole: `command_link` says that `command` is one
`respond`, and that the response it fills in carries the answer.
-/
import UdcFirmware.Bsmp.Accepted
import UdcFirmware.Bsmp.ClientSafety

namespace UdcFirmware.Bsmp

open ByteMem Checked Stateful

variable {σ : Type} {md5 : Md5} {area : Nat → UInt8}

/-- The server at the other end, and the response on its way back. -/
structure Peer (σ : Type) where
  system : System σ
  pending : Option RawPacket

/-- A packet as the server receives it: `len` has 16 bits. -/
def received (data : List UInt8) (h : bsmpHeaderSize ≤ data.length) : Request where
  packet := { data, len := UInt16.ofNat data.length }
  header := h
  held := by
    rw [UInt16.toNat_ofNat']
    exact Nat.mod_le _ _

/-- `area` is what the response buffer of the server holds before, `noise` what
the buffers of the client do. -/
def link (md5 : Md5) (area noise : Nat → UInt8) : Comm (Peer σ) where
  send data peer :=
    if h : bsmpHeaderSize ≤ data.length then
      match bsmpProcessPacket md5 peer.system (received data h) area with
      | .ok (system, response) => (true, { system, pending := some response })
      | .error _ => (false, peer)
    else (false, peer)
  recv peer :=
    match peer.pending with
    | none => (none, peer)
    | some response => (some
        { data := fun i => response.data.getD i (noise i)
          size := response.len.toNat
          bound := by
            have := response.len.toNat_lt
            simp only [bsmpMaxMessage, bsmpHeaderSize, bsmpMaxPayload]
            omega },
        { peer with pending := none })
  junk _ := noise

/-! ## One command -/

/-- The response holds what the message says. -/
structure Response.Carries (r : Response) (a : Message) : Prop where
  code : r.code = a.commandCode
  payloadSize : r.payloadSize = a.payloadSize
  payload : ∀ i b, a.payload[i]? = some b → r.payload i = b

theorem Response.slice_eq {r : Response} {i : Nat} {bytes : List UInt8}
    (h : ∀ j b, bytes[j]? = some b → r.payload (i + j) = b) (hmax : i + bytes.length ≤ bsmpMaxPayload) :
    r.slice i bytes.length = .ok bytes := by
  rw [Response.slice, if_pos hmax]
  refine congrArg Except.ok (List.ext_getElem (by simp) fun j h₁ h₂ => ?_)
  rw [List.getElem_map, List.getElem_range]
  exact h j _ (List.getElem?_eq_getElem h₂)

theorem Message.Sendable.length_le {a : Message} (h : a.Sendable) :
    a.payload.length + bsmpHeaderSize ≤ bsmpMaxPayload := by
  rw [h.whole]
  exact h.fits

theorem received_sendBuf (cmd : CommandCode) (payload : List UInt8)
    (h : bsmpHeaderSize ≤ (sendBuf cmd payload).length) :
    received (sendBuf cmd payload) h = request cmd.toByte payload := by
  have hlen : (sendBuf cmd payload).length = payload.length + bsmpHeaderSize := by simp [sendBuf, beBytes]
  simp only [received, request, hlen]
  rfl

variable {s : Session (Peer σ)} {system : System σ} {a : Message}

theorem command_of {τ : Type} {comm : Comm τ} {s : Session τ} {cmd : CommandCode} {payload : List UInt8}
    {chan chan' : τ} {recvBuf : Received} (hsend : comm.send (sendBuf cmd payload) s.chan = (true, chan))
    (hrecv : comm.recv chan = (some recvBuf, chan')) (hmin : 2 ≤ recvBuf.size)
    (hmax : recvBuf.size ≤ bsmpMaxPayload) :
    ∃ log, Session.command comm cmd payload s =
      .ok (some (recvBuf.response (comm.junk chan')), ⟨s.client, chan', log⟩) := by
  unfold Session.command
  simp only [hsend, hrecv, show ¬ recvBuf.size < 2 by omega, if_false, hmax, if_true]
  exact ⟨_, rfl⟩

/-- What is sent is answered at once, and the answer waits to be received. -/
theorem link_send {cmd : CommandCode} {payload : List UInt8} (noise : Nat → UInt8) {peer : Peer σ}
    (hr : respond md5 peer.system (request cmd.toByte payload) area = .ok (system, a)) :
    (link md5 area noise).send (sendBuf cmd payload) peer = (true, ⟨system, some a.toPacket⟩) := by
  have hhead : bsmpHeaderSize ≤ (sendBuf cmd payload).length := by simp [sendBuf, beBytes]
  simp only [link, hhead, dite_true, received_sendBuf, bsmpProcessPacket, hr, ok_bind]
  rfl

/-- A command over the link is one answer of the server. -/
theorem command_link {cmd : CommandCode} {payload : List UInt8} (noise : Nat → UInt8)
    (hr : respond md5 s.chan.system (request cmd.toByte payload) area = .ok (system, a)) (ha : a.Sendable) :
    ∃ r s', Session.command (link md5 area noise) cmd payload s = .ok (some r, s') ∧ r.Carries a ∧
      s'.client = s.client ∧ s'.chan.system = system := by
  have hsend := link_send noise hr
  have hsize : a.toPacket.len.toNat = a.payload.length + bsmpHeaderSize := by
    rw [ha.toPacket_len, ha.whole]
  have hfits := ha.length_le
  have hmin : 2 ≤ a.toPacket.len.toNat := by simp only [hsize, bsmpHeaderSize]; omega
  obtain ⟨log, hcmd⟩ := command_of hsend rfl hmin (hsize.trans_le hfits)
  refine ⟨_, _, hcmd, ⟨rfl, ofBeBytes_beBytes _, fun i b hb => ?_⟩, rfl, rfl⟩
  have hi : i < a.payload.length := (List.getElem?_eq_some_iff.mp hb).1
  have hdata : a.toPacket.data[bsmpHeaderSize + i]? = some b := by
    rw [← hb, Nat.add_comm]
    rfl
  simp only [Received.response, hsize]
  rw [if_pos (by omega), List.getD_eq_getElem?_getD, hdata]
  rfl

theorem clearModified_clearModified (s : System σ) : s.clearModified.clearModified = s.clearModified := by
  simp [System.clearModified]

/-- A query leaves the server as it is, but for the list for the hook. -/
theorem query_link {cmd answer : CommandCode} {payload bytes : List UInt8}
    {handler : System σ → Message → Except Fault (System σ × Message)} (noise : Nat → UInt8)
    (hc : Bsmp.command md5 area cmd.toByte = some handler)
    (hlen : payload.length + bsmpHeaderSize ≤ bsmpMaxPayload)
    (hsys : s.chan.system.clearModified = system)
    (hh : handler system (message cmd payload) = .ok (system, reply answer (UInt16.ofNat bytes.length) bytes))
    (herr : answer.isError = false) (hbytes : bytes.length ≤ maxListSize) :
    ∃ r s', Session.expect (link md5 area noise) cmd answer payload s = .ok (some r, s') ∧
      r.payloadSize.toNat = bytes.length ∧ (∀ i b, bytes[i]? = some b → r.payload i = b) ∧
      s'.client = s.client ∧ s'.chan.system.clearModified = system := by
  simp only [maxListSize, bsmpMaxCurves, bsmpCurveListInfo] at hbytes
  have hsize : (UInt16.ofNat bytes.length).toNat = bytes.length :=
    UInt16.toNat_ofNat_of_lt (Nat.lt_of_le_of_lt hbytes (by decide))
  have ha : (reply answer (UInt16.ofNat bytes.length) bytes).Sendable :=
    sendable_reply herr hsize (by simp only [bsmpHeaderSize, bsmpMaxPayload]; omega)
  have hr : respond md5 s.chan.system (request cmd.toByte payload) area =
      .ok (system, reply answer (UInt16.ofNat bytes.length) bytes) := by
    rw [respond_request hc hlen, hsys, hh]
  obtain ⟨r, s', hcmd, hcarries, hclient, hsystem⟩ := command_link noise hr ha
  refine ⟨r, s', ?_, ?_, hcarries.payload, hclient, ?_⟩
  · have hcode : r.code = answer.toByte := hcarries.code
    rw [Session.expect, bind_of hcmd]
    show Except.ok (if r.code = answer.toByte then some r else none, s') = _
    rw [if_pos hcode]
  · rw [hcarries.payloadSize]
    exact hsize
  · rw [hsystem, ← hsys, clearModified_clearModified]

end UdcFirmware.Bsmp
