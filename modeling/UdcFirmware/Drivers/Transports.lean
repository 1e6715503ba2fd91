/-
What the two transports send of an answer. `EthernetProcessCMD` hands on the
pointer and the length of `send_packet`, which is the answer
(`ethernet_answer`). `Usb2SerialTxHandler` counts to `send_packet.len` plus
the size of a header that the packets no longer have, so one byte of the
buffer follows every answer (`serial_answer`, `transports_never_agree`).
-/
import UdcFirmware.Drivers.UsbToSerial
import UdcFirmware.Drivers.Ethernet

namespace UdcFirmware.Drivers

open Bsmp ByteMem Checked Filling

variable {σ : Type} {md5 : Md5} {s s' : Usb2Serial σ} {e e' : Ethernet σ}

/-! ## The serial line -/

/-- What the loop of `Usb2SerialTxHandler` has transmitted after `n` rounds. -/
theorem charPuts_uart {n : Nat} (h : (List.range n).foldlM Usb2Serial.charPut s = .ok s') :
    s'.uart = s.uart ++ load s.sendBuffer.data ⟨0, n⟩ ∧ s'.sendBuffer = s.sendBuffer := by
  induction n generalizing s' with
  | zero =>
    cases h
    exact ⟨by simp [load], rfl⟩
  | succ n ih =>
    rw [List.range_succ, List.foldlM_append] at h
    obtain ⟨s₁, hloop, hlast⟩ := bind_ok_iff.mp h
    obtain ⟨huart, hsame⟩ := ih hloop
    rw [List.foldlM_cons] at hlast
    obtain ⟨s₂, hput, hs₂⟩ := bind_ok_iff.mp hlast
    cases hs₂
    unfold Usb2Serial.charPut at hput
    split at hput
    · cases hput
      refine ⟨?_, hsame⟩
      simp only [huart, hsame, List.append_assoc]
      simp [load, List.range_succ]
    · cases hput

/-- A dispatch that returns has transmitted the answer and the byte behind it. -/
theorem serial_answer (h : usb2SerialProcessData md5 s = .ok s') :
    ∃ sys response, bsmpProcessPacket md5 s.sys s.setRecvLen.recvPacket s.area = .ok (sys, response) ∧
      s'.uart = s.uart ++
        load (store s.sendBuffer.data 0 response.data) ⟨0, response.len.toNat + serialHeader⟩ := by
  obtain ⟨s₁, hcall, hrest⟩ := bind_ok_iff.mp h
  obtain ⟨⟨sys, response⟩, hproc, hanswered⟩ := bind_ok_iff.mp hcall
  refine ⟨sys, response, hproc, ?_⟩
  obtain ⟨s₂, hloop, hreset⟩ := bind_ok_iff.mp hrest
  cases hreset
  simp only at hanswered
  split at hanswered
  · cases hanswered
  · cases hanswered
    exact (charPuts_uart hloop).1

/-! ## Ethernet -/

/-- What is handed to `httpd_insert_response` is the answer. -/
theorem ethernet_answer {sys : System σ} {response : RawPacket}
    (hproc : bsmpProcessPacket md5 e.sys e.setRecvLen.recvPacket e.area = .ok (sys, response))
    (hlen : response.len.toNat = response.data.length)
    (hroom : sendPacketData + response.data.length ≤ ethSendSize) :
    ∃ e', ethernetProcessCmd md5 e = .ok e' ∧ e'.newDataSend = true ∧ e'.pending = response.data := by
  refine ⟨_, ethernetProcessCmd_eq hproc hroom, rfl, ?_⟩
  exact pending_answered (s := e.setRecvLen) sys hlen

theorem ethernet_pending_length (h : ethernetProcessCmd md5 e = .ok e') :
    ∃ sys response, bsmpProcessPacket md5 e.sys e.setRecvLen.recvPacket e.area = .ok (sys, response) ∧
      e'.pending.length = response.len.toNat := by
  obtain ⟨e₁, hcall, hrest⟩ := bind_ok_iff.mp h
  obtain ⟨⟨sys, response⟩, hproc, hanswered⟩ := bind_ok_iff.mp hcall
  refine ⟨sys, response, hproc, ?_⟩
  cases hrest
  simp only at hanswered
  split at hanswered
  · cases hanswered
  · cases hanswered
    exact load_length _ _

/-! ## Both -/

/-- The same request in the same state: of the server, and of what is left in
the payload of the buffer for the answer. -/
structure SameRequest (s : Usb2Serial σ) (e : Ethernet σ) : Prop where
  sys : s.sys = e.sys
  request : s.setRecvLen.recvPacket = e.setRecvLen.recvPacket
  area : s.area = e.area

/-- **The serial line never sends exactly the answer.** In every state of the
server, and whatever the request: what goes out on the UART is not the answer
of `bsmp_process_packet`, nor what Ethernet would send for the same request in
the same state. -/
theorem transports_never_agree (md5 : Md5) (s : Usb2Serial σ) :
    (¬ ∃ sys response s', bsmpProcessPacket md5 s.sys s.setRecvLen.recvPacket s.area = .ok (sys, response) ∧
      usb2SerialProcessData md5 s = .ok s' ∧
      s'.uart = s.uart ++ response.data.take response.len.toNat) ∧
    ¬ ∃ (e : Ethernet σ) (s' : Usb2Serial σ) (e' : Ethernet σ), SameRequest s e ∧
      usb2SerialProcessData md5 s = .ok s' ∧ ethernetProcessCmd md5 e = .ok e' ∧
      s'.uart = s.uart ++ e'.pending := by
  constructor
  · rintro ⟨sys, response, s', hproc, hsend, huart⟩
    obtain ⟨sys', response', hproc', huart'⟩ := serial_answer hsend
    cases hproc.symm.trans hproc'
    have hlen := congrArg List.length (List.append_cancel_left (huart.symm.trans huart'))
    simp only [List.length_take, load_length, serialHeader] at hlen
    omega
  · rintro ⟨e, s', e', hsame, hsend, hcmd, huart⟩
    obtain ⟨sys, response, hproc, huart'⟩ := serial_answer hsend
    obtain ⟨sys', response', hproc', hpending⟩ := ethernet_pending_length hcmd
    rw [hsame.sys, hsame.request, hsame.area, hproc'] at hproc
    cases hproc
    have hlen := congrArg List.length (List.append_cancel_left (huart.symm.trans huart'))
    simp only [hpending, load_length, serialHeader] at hlen
    omega

/-- The shortest request, in the buffers of both transports. -/
def versionRequest : Buffer UInt8 := Buffer.append ⟨fun _ => 0, 0⟩ [0, 0, 0]

/-- A byte follows the six of the answer. -/
theorem versionRequest_answers :
    (usb2SerialProcessData byteSum { idleJig with recvBuffer := versionRequest }).toOption.map
      (fun s => (s.uart, s.sendLen)) = some ([1, 0, 3, 2, 20, 0, 0], 6) ∧
    (ethernetProcessCmd byteSum
        { Ethernet.powerUp idleRoutines { mem := fun _ => 0, app := () } with
          rxBuffer := versionRequest }).toOption.map (fun s => s.pending) =
      some [1, 0, 3, 2, 20, 0] := by
  constructor <;> decide +kernel

end UdcFirmware.Drivers
