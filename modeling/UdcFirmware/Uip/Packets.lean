/-
The packets of uIP, as `uip.h` lays them out in `uip_buf`.

A field of several bytes is the number that its bytes stand for, the high byte
first; what follows the headers is the rest of the buffer, byte after byte, of
which `uip_len` says how much belongs to the packet. A packet is read with the
fields of a TCP header (`Packet.ofBuffer`); its bytes are those of the buffer
again (`ofBuffer_rest`, `ofBuffer_of_rest`).
-/
import UdcFirmware.Bsmp.Types

namespace UdcFirmware.Uip

open Bsmp

@[simp] abbrev uipBufsize : Nat := 1600
@[simp] abbrev uipLlhLen : Nat := 14
@[simp] abbrev uipIphLen : Nat := 20
@[simp] abbrev uipTcphLen : Nat := 20
@[simp] abbrev uipTcpipHlen : Nat := uipIphLen + uipTcphLen
@[simp] abbrev uipTcpMss : Nat := uipBufsize - uipLlhLen - uipTcpipHlen

abbrev uipProtoIcmp : UInt8 := 1
abbrev uipProtoTcp : UInt8 := 6
abbrev uipTtl : UInt8 := 64

/-- `uip_ipaddr_t`. -/
structure IpAddr where
  addr0 : UInt16
  addr1 : UInt16
  deriving DecidableEq

/-- The IP header of `struct uip_tcpip_hdr`. -/
structure IpHeader where
  vhl : UInt8
  tos : UInt8
  len : UInt16
  ipid : UInt16
  ipoffset : UInt16
  ttl : UInt8
  proto : UInt8
  ipchksum : UInt16
  srcipaddr : IpAddr
  destipaddr : IpAddr
  deriving DecidableEq

/-- The TCP header of `struct uip_tcpip_hdr`. -/
@[ext] structure TcpHeader where
  srcport : UInt16
  destport : UInt16
  seqno : UInt32
  ackno : UInt32
  tcpoffset : UInt8
  flags : UInt8
  wnd : UInt16
  tcpchksum : UInt16
  urgp : UInt16
  deriving DecidableEq

/-- `BUF`, and the buffer behind the headers. -/
structure Packet extends IpHeader, TcpHeader where
  data : Nat → UInt8

/-! ## Bytes -/

/-- Four bytes, the most significant first. -/
def beBytes32 (n : UInt32) : List UInt8 := beBytes (n >>> 16).toUInt16 ++ beBytes n.toUInt16

def ofBeBytes32 (b0 b1 b2 b3 : UInt8) : UInt32 :=
  ((ofBeBytes b0 b1).toUInt32 <<< 16) + (ofBeBytes b2 b3).toUInt32

def IpAddr.bytes (a : IpAddr) : List UInt8 := beBytes a.addr0 ++ beBytes a.addr1

def IpHeader.bytes (h : IpHeader) : List UInt8 :=
  [h.vhl, h.tos] ++ beBytes h.len ++ beBytes h.ipid ++ beBytes h.ipoffset ++ [h.ttl, h.proto] ++
    beBytes h.ipchksum ++ h.srcipaddr.bytes ++ h.destipaddr.bytes

def TcpHeader.bytes (h : TcpHeader) : List UInt8 :=
  beBytes h.srcport ++ beBytes h.destport ++ beBytes32 h.seqno ++ beBytes32 h.ackno ++
    [h.tcpoffset, h.flags] ++ beBytes h.wnd ++ beBytes h.tcpchksum ++ beBytes h.urgp

/-- The buffer behind the IP header. -/
def Packet.rest (p : Packet) : Nat → UInt8 := fun i =>
  if i < uipTcphLen then p.toTcpHeader.bytes.getD i 0 else p.data (i - uipTcphLen)

/-- The first `n` bytes behind the IP header. -/
def bytesOf (rest : Nat → UInt8) (n : Nat) : List UInt8 := (List.range n).map rest

/-- The TCP header that starts at `rest`. -/
def TcpHeader.ofBytes (rest : Nat → UInt8) : TcpHeader where
  srcport := ofBeBytes (rest 0) (rest 1)
  destport := ofBeBytes (rest 2) (rest 3)
  seqno := ofBeBytes32 (rest 4) (rest 5) (rest 6) (rest 7)
  ackno := ofBeBytes32 (rest 8) (rest 9) (rest 10) (rest 11)
  tcpoffset := rest 12
  flags := rest 13
  wnd := ofBeBytes (rest 14) (rest 15)
  tcpchksum := ofBeBytes (rest 16) (rest 17)
  urgp := ofBeBytes (rest 18) (rest 19)

/-- `BUF` of a buffer with an IP header. -/
def Packet.ofBuffer (ip : IpHeader) (rest : Nat → UInt8) : Packet :=
  { ip, TcpHeader.ofBytes rest with data := fun i => rest (uipTcphLen + i) }

theorem beBytes_ofBeBytes (hi lo : UInt8) : beBytes (ofBeBytes hi lo) = [hi, lo] := by
  have hhi := hi.toNat_lt
  have hlo := lo.toNat_lt
  have hnat := ofBeBytes_toNat hi lo
  have hshift : UInt16.toNat 8 % 16 = 8 := rfl
  have hhigh : (ofBeBytes hi lo >>> 8).toUInt8 = hi := by
    apply UInt8.toNat_inj.mp
    rw [UInt16.toNat_toUInt8, UInt16.toNat_shiftRight, hnat, Nat.shiftRight_eq_div_pow, hshift]
    omega
  have hlow : (ofBeBytes hi lo).toUInt8 = lo := by
    apply UInt8.toNat_inj.mp
    rw [UInt16.toNat_toUInt8, hnat]
    omega
  rw [beBytes, hhigh, hlow]

theorem beBytes32_ofBeBytes32 (b0 b1 b2 b3 : UInt8) :
    beBytes32 (ofBeBytes32 b0 b1 b2 b3) = [b0, b1, b2, b3] := by
  have hhi := (ofBeBytes b0 b1).toNat_lt
  have hlo := (ofBeBytes b2 b3).toNat_lt
  have hshift : UInt32.toNat 16 % 32 = 16 := rfl
  have hnat : (ofBeBytes32 b0 b1 b2 b3).toNat =
      (ofBeBytes b0 b1).toNat * 65536 + (ofBeBytes b2 b3).toNat := by
    rw [ofBeBytes32, UInt32.toNat_add, UInt32.toNat_shiftLeft, UInt16.toNat_toUInt32, UInt16.toNat_toUInt32,
      Nat.shiftLeft_eq, hshift]
    omega
  have hhigh : (ofBeBytes32 b0 b1 b2 b3 >>> 16).toUInt16 = ofBeBytes b0 b1 := by
    apply UInt16.toNat_inj.mp
    rw [UInt32.toNat_toUInt16, UInt32.toNat_shiftRight, hnat, Nat.shiftRight_eq_div_pow, hshift]
    omega
  have hlow : (ofBeBytes32 b0 b1 b2 b3).toUInt16 = ofBeBytes b2 b3 := by
    apply UInt16.toNat_inj.mp
    rw [UInt32.toNat_toUInt16, hnat]
    omega
  rw [beBytes32, hhigh, hlow, beBytes_ofBeBytes, beBytes_ofBeBytes]
  rfl

theorem ofBeBytes32_beBytes32 (n : UInt32) :
    ofBeBytes32 ((n >>> 16).toUInt16 >>> 8).toUInt8 (n >>> 16).toUInt16.toUInt8 (n.toUInt16 >>> 8).toUInt8
      n.toUInt16.toUInt8 = n := by
  have hn := n.toNat_lt
  have hshift : UInt32.toNat 16 % 32 = 16 := rfl
  rw [ofBeBytes32, ofBeBytes_beBytes, ofBeBytes_beBytes]
  apply UInt32.toNat_inj.mp
  rw [UInt32.toNat_add, UInt32.toNat_shiftLeft, UInt16.toNat_toUInt32, UInt16.toNat_toUInt32,
    UInt32.toNat_toUInt16, UInt32.toNat_toUInt16, UInt32.toNat_shiftRight, Nat.shiftLeft_eq,
    Nat.shiftRight_eq_div_pow, hshift]
  omega

@[simp] theorem length_tcpHeader_bytes (h : TcpHeader) : h.bytes.length = uipTcphLen := rfl

@[simp] theorem length_ipHeader_bytes (h : IpHeader) : h.bytes.length = uipIphLen := rfl

theorem bytes_ofBytes (rest : Nat → UInt8) : (TcpHeader.ofBytes rest).bytes = bytesOf rest uipTcphLen := by
  simp only [TcpHeader.bytes, TcpHeader.ofBytes, beBytes_ofBeBytes, beBytes32_ofBeBytes32]
  rfl

/-- A packet has the bytes that it was read from. -/
theorem ofBuffer_rest (ip : IpHeader) (rest : Nat → UInt8) : (Packet.ofBuffer ip rest).rest = rest := by
  funext i
  by_cases hi : i < uipTcphLen
  · have hbytes : (Packet.ofBuffer ip rest).toTcpHeader.bytes = bytesOf rest uipTcphLen := bytes_ofBytes rest
    rw [Packet.rest, if_pos hi, hbytes]
    simp [bytesOf, hi]
  · rw [Packet.rest, if_neg hi]
    exact congrArg rest (Nat.add_sub_of_le (Nat.not_lt.mp hi))

/-- A packet is read from its bytes. -/
theorem ofBuffer_of_rest (p : Packet) : Packet.ofBuffer p.toIpHeader p.rest = p := by
  have hheader : TcpHeader.ofBytes p.rest = p.toTcpHeader :=
    TcpHeader.ext (ofBeBytes_beBytes _) (ofBeBytes_beBytes _) (ofBeBytes32_beBytes32 _) (ofBeBytes32_beBytes32 _)
      rfl rfl (ofBeBytes_beBytes _) (ofBeBytes_beBytes _) (ofBeBytes_beBytes _)
  have hdata : (fun i => p.rest (uipTcphLen + i)) = p.data := by
    funext i
    simp [Packet.rest]
  rw [Packet.ofBuffer, hheader, hdata]

/-- The bytes behind the IP header: the TCP header, and what follows it. -/
theorem bytesOf_rest (p : Packet) (n : Nat) :
    bytesOf p.rest (uipTcphLen + n) = p.toTcpHeader.bytes ++ bytesOf p.data n := by
  have hheader : (List.range uipTcphLen).map p.rest = p.toTcpHeader.bytes := rfl
  rw [bytesOf, List.range_add, List.map_append, hheader, List.map_map]
  refine congrArg _ (List.map_congr_left fun i _ => ?_)
  simp [Packet.rest]

end UdcFirmware.Uip
