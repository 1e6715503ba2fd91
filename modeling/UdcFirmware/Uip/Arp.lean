/-
`uip_arp.c`: the table of Ethernet addresses, what ARP packets write into it,
how its entries age, and which Ethernet header a datagram goes out with.

A host whose address has a zero half is never taken for one already in the
table, so each of its packets takes another entry; the others have at most one
entry each. `uip_arp_init` is not called: the table starts with zeros.
-/
import UdcFirmware.Lib.Traces
import UdcFirmware.Uip.Packets

namespace UdcFirmware.Uip

/-! ## Frames -/

@[simp] abbrev uipArptabSize : Nat := 8
@[simp] abbrev uipArpMaxage : Nat := 120

abbrev uipEthtypeArp : UInt16 := 0x0806
abbrev uipEthtypeIp : UInt16 := 0x0800
abbrev arpRequest : UInt16 := 1
abbrev arpReply : UInt16 := 2
abbrev arpHwtypeEth : UInt16 := 1

/-- `struct uip_eth_addr`. -/
structure EthAddr where
  addr : Vector UInt8 6
  deriving DecidableEq

abbrev EthAddr.zero : EthAddr := ⟨.replicate 6 0⟩
abbrev broadcastEthaddr : EthAddr := ⟨.replicate 6 0xff⟩
abbrev broadcastIpaddr : IpAddr := ⟨0xffff, 0xffff⟩

/-- `struct uip_eth_hdr`. -/
structure EthHdr where
  dest : EthAddr
  src : EthAddr
  type : UInt16
  deriving DecidableEq

/-- `struct arp_hdr`. -/
structure ArpHdr where
  ethhdr : EthHdr
  hwtype : UInt16
  protocol : UInt16
  hwlen : UInt8
  protolen : UInt8
  opcode : UInt16
  shwaddr : EthAddr
  sipaddr : IpAddr
  dhwaddr : EthAddr
  dipaddr : IpAddr
  deriving DecidableEq

/-- `sizeof(struct arp_hdr)`. -/
abbrev arpHdrSize : UInt16 := 42

/-- A frame: an ARP packet, or `uip_len` bytes with an IP datagram. -/
inductive Frame
  | arp (h : ArpHdr)
  | ip (ethhdr : EthHdr) (uipLen : UInt16) (ip : IpHeader) (rest : Nat → UInt8)

/-- `uip_hostaddr`, `uip_netmask`, `uip_draddr` and `uip_ethaddr`. -/
structure Addresses where
  hostaddr : IpAddr
  netmask : IpAddr
  draddr : IpAddr
  ethaddr : EthAddr

/-- `uip_ipaddr_maskcmp`. -/
def uipIpaddrMaskcmp (addr1 addr2 mask : IpAddr) : Bool :=
  addr1.addr0 &&& mask.addr0 == addr2.addr0 &&& mask.addr0 &&
    addr1.addr1 &&& mask.addr1 == addr2.addr1 &&& mask.addr1

/-! ## The table -/

/-- `struct arp_entry`. -/
structure ArpEntry where
  ipaddr : IpAddr
  ethaddr : EthAddr
  time : UInt8
  deriving DecidableEq

/-- `arp_table` and `arptime`. -/
structure Arp where
  arpTable : Fin uipArptabSize → ArpEntry
  arptime : UInt8

def Arp.powerUp : Arp := ⟨fun _ => ⟨⟨0, 0⟩, .zero, 0⟩, 0⟩

def Arp.set (a : Arp) (i : Fin uipArptabSize) (e : ArpEntry) : Arp :=
  { a with arpTable := Function.update a.arpTable i e }

/-- The test of `uip_arp_update` for entries in use. -/
def IpAddr.InUse (ip : IpAddr) : Prop := ip.addr0 ≠ 0 ∧ ip.addr1 ≠ 0

instance IpAddr.InUse.decidable (ip : IpAddr) : Decidable ip.InUse := inferInstanceAs (Decidable (_ ∧ _))

def uipArpTimer (a : Arp) : Arp :=
  let arptime := a.arptime + 1
  { arptime
    arpTable := fun i =>
      let tabptr := a.arpTable i
      if tabptr.ipaddr.addr0 ||| tabptr.ipaddr.addr1 ≠ 0 ∧
        (arptime.toNat : Int) - tabptr.time.toNat ≥ uipArpMaxage
      then { tabptr with ipaddr := ⟨0, 0⟩ } else tabptr }

/-- One round of the search for the oldest entry: `tmpage` and `c`. -/
def Arp.older (a : Arp) (s : UInt8 × Fin uipArptabSize) (i : Fin uipArptabSize) : UInt8 × Fin uipArptabSize :=
  if (a.arptime.toNat : Int) - (a.arpTable i).time.toNat > s.1.toNat then (a.arptime - (a.arpTable i).time, i)
  else s

/-- The entry that `uip_arp_update` throws away, when none is unused. An entry
from before `arptime` last wrapped may look younger than it is. -/
def Arp.oldest (a : Arp) : Fin uipArptabSize := ((List.finRange uipArptabSize).foldl a.older (0, 0)).2

/-- The entry that `uip_arp_update` fills: the host's own, the first unused one, or the oldest. -/
def Arp.place (a : Arp) (ipaddr : IpAddr) : Fin uipArptabSize :=
  let known := (List.finRange uipArptabSize).find? fun i =>
    (a.arpTable i).ipaddr.InUse ∧ ipaddr = (a.arpTable i).ipaddr
  let unused := (List.finRange uipArptabSize).find? fun i => (a.arpTable i).ipaddr = ⟨0, 0⟩
  (known.or unused).getD a.oldest

def uipArpUpdate (a : Arp) (ipaddr : IpAddr) (ethaddr : EthAddr) : Arp :=
  a.set (a.place ipaddr) ⟨ipaddr, ethaddr, a.arptime⟩

/-- What an ARP packet of `uip_len` bytes writes into the table of its destination. -/
def ArpHdr.announces (n : Addresses) (uipLen : UInt16) (h : ArpHdr) : Bool :=
  decide (arpHdrSize ≤ uipLen) && (h.opcode == arpRequest || h.opcode == arpReply) && h.dipaddr == n.hostaddr

/-- The answer to a request. -/
def ArpHdr.reply (n : Addresses) (h : ArpHdr) : ArpHdr :=
  { h with
    opcode := arpReply
    dhwaddr := h.shwaddr
    shwaddr := n.ethaddr
    ethhdr := ⟨h.shwaddr, n.ethaddr, uipEthtypeArp⟩
    dipaddr := h.sipaddr
    sipaddr := n.hostaddr }

/-- `uip_arp_arpin`, with the packet to be sent, if there is one. -/
def uipArpArpin (n : Addresses) (a : Arp) (uipLen : UInt16) (h : ArpHdr) : Arp × Option ArpHdr :=
  if uipLen < arpHdrSize then (a, none)
  else if h.opcode = arpRequest then
    if h.dipaddr = n.hostaddr then (uipArpUpdate a h.sipaddr h.shwaddr, some (h.reply n)) else (a, none)
  else if h.opcode = arpReply then
    if h.dipaddr = n.hostaddr then (uipArpUpdate a h.sipaddr h.shwaddr, none) else (a, none)
  else (a, none)

/-- The search of `uip_arp_out`. -/
def Arp.lookup (a : Arp) (ipaddr : IpAddr) : Option EthAddr :=
  ((List.finRange uipArptabSize).find? fun i => ipaddr = (a.arpTable i).ipaddr).map fun i =>
    (a.arpTable i).ethaddr

/-- The request for an address. -/
def Addresses.request (n : Addresses) (ipaddr : IpAddr) : ArpHdr where
  ethhdr := ⟨broadcastEthaddr, n.ethaddr, uipEthtypeArp⟩
  hwtype := arpHwtypeEth
  protocol := uipEthtypeIp
  hwlen := 6
  protolen := 4
  opcode := arpRequest
  shwaddr := n.ethaddr
  sipaddr := n.hostaddr
  dhwaddr := .zero
  dipaddr := ipaddr

/-- `uip_arp_out`, for the datagram of `uip_len` bytes in the buffer. -/
def uipArpOut (n : Addresses) (a : Arp) (uipLen : UInt16) (ip : IpHeader) (rest : Nat → UInt8) : Frame :=
  if ip.destipaddr = broadcastIpaddr then .ip ⟨broadcastEthaddr, n.ethaddr, uipEthtypeIp⟩ (uipLen + 14) ip rest
  else
    let ipaddr := if uipIpaddrMaskcmp ip.destipaddr n.hostaddr n.netmask then ip.destipaddr else n.draddr
    match a.lookup ipaddr with
    | none => .arp (n.request ipaddr)
    | some ethaddr => .ip ⟨ethaddr, n.ethaddr, uipEthtypeIp⟩ (uipLen + 14) ip rest

end UdcFirmware.Uip
