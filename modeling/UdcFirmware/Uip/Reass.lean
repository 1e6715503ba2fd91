/-
Reassembly of IP fragments: `uip_reass` of `uip.c`.

One datagram at a time is put together in `uip_reassbuf`. The bitmap has a bit
for every eight bytes. Writes into both are checked against their sizes.
-/
import UdcFirmware.Lib.Checked
import UdcFirmware.Uip.Checksum

namespace UdcFirmware.Uip

open Bsmp ByteMem Checked

@[simp] abbrev uipReassBufsize : Nat := uipBufsize - uipLlhLen
@[simp] abbrev uipReassBitmapSize : Nat := uipReassBufsize / (8 * 8)
abbrev uipReassMaxage : UInt8 := 40

/-- `IP_MF` in the field of flags and offset. -/
abbrev ipMf : UInt16 := 0x2000

/-- `bitmap_bits`: the bits of a byte from the `i`-th on. -/
def bitmapBits (i : Nat) : UInt8 := [0xff, 0x7f, 0x3f, 0x1f, 0x0f, 0x07, 0x03, 0x01].getD i 0

/-- The variables of the reassembly. -/
structure Reass where
  buf : Mem UInt8
  bitmap : Nat → UInt8
  len : UInt16
  lastfrag : Bool
  tmr : UInt8

/-- What the bytes from `buf` on are as an IP header. -/
def IpHeader.ofBytes (buf : Nat → UInt8) : IpHeader where
  vhl := buf 0
  tos := buf 1
  len := ofBeBytes (buf 2) (buf 3)
  ipid := ofBeBytes (buf 4) (buf 5)
  ipoffset := ofBeBytes (buf 6) (buf 7)
  ttl := buf 8
  proto := buf 9
  ipchksum := ofBeBytes (buf 10) (buf 11)
  srcipaddr := { addr0 := ofBeBytes (buf 12) (buf 13), addr1 := ofBeBytes (buf 14) (buf 15) }
  destipaddr := { addr0 := ofBeBytes (buf 16) (buf 17), addr1 := ofBeBytes (buf 18) (buf 19) }

/-- `FBUF`. -/
def Reass.fbuf (r : Reass) : IpHeader := IpHeader.ofBytes r.buf

/-- A datagram is begun if none is in the buffer. -/
def Reass.begun (r : Reass) (ip : IpHeader) : Reass :=
  if r.tmr = 0 then
    { r with buf := store r.buf 0 ip.bytes, tmr := uipReassMaxage, lastfrag := false, bitmap := fun _ => 0 }
  else r

/-- `uip_reassbitmap[i] |= bits`. -/
def Reass.mark (r : Reass) (i : Nat) (bits : UInt8) : Except Fault Reass :=
  if i < uipReassBitmapSize then .ok { r with bitmap := Function.update r.bitmap i (r.bitmap i ||| bits) }
  else .error .buffer

/-- `uip_reassbitmap[i] = 0xff` for `n` bytes from `i` on. -/
def Reass.fill (r : Reass) : Nat → Nat → Except Fault Reass
  | _, 0 => .ok r
  | i, n + 1 => do
    let r ← r.mark i 0xff
    r.fill (i + 1) n

/-- The copy of a fragment, and its bits. -/
def Reass.add (r : Reass) (rest : Nat → UInt8) (offset len : Nat) : Except Fault Reass := do
  if uipIphLen + offset + len > uipReassBufsize then .error .buffer
  let r := { r with buf := store r.buf (uipIphLen + offset) (bytesOf rest len) }
  if offset / 64 = (offset + len) / 64 then
    r.mark (offset / 64) (bitmapBits (offset / 8 % 8) &&& ~~~ bitmapBits ((offset + len) / 8 % 8))
  else
    let r ← r.mark (offset / 64) (bitmapBits (offset / 8 % 8))
    let r ← r.fill (1 + offset / 64) ((offset + len) / 64 - (1 + offset / 64))
    r.mark ((offset + len) / 64) (~~~ bitmapBits ((offset + len) / 8 % 8))

/-- The bytes of the bitmap that are checked are full. -/
def Reass.complete (r : Reass) : Bool :=
  (List.range (r.len.toNat / 64 - 1)).all (fun i => r.bitmap i == 0xff) &&
    r.bitmap (r.len.toNat / 64) == ~~~ bitmapBits (r.len.toNat / 8 % 8)

/-- The packet is copied back to the buffer. -/
def Reass.delivered (r : Reass) (ip : IpHeader) (rest : Nat → UInt8) : IpHeader × (Nat → UInt8) :=
  let ip := IpHeader.ofBytes fun i => if i < r.len.toNat then r.buf i else ip.bytes.getD i 0
  let ip := { ip with ipoffset := 0, len := r.len, ipchksum := 0 }
  ({ ip with ipchksum := ~~~ uipIpchksum ip },
    fun i => if uipIphLen + i < r.len.toNat then r.buf (uipIphLen + i) else rest i)

/-- `uip_reass`: the state after it, and the packet if it is complete. -/
def uipReass (r : Reass) (ip : IpHeader) (rest : Nat → UInt8) :
    Except Fault (Reass × Option (IpHeader × (Nat → UInt8))) := do
  let r := r.begun ip
  if ip.srcipaddr = r.fbuf.srcipaddr ∧ ip.destipaddr = r.fbuf.destipaddr ∧ ip.ipid = r.fbuf.ipid then
    let len := (ip.len - (ip.vhl &&& 0x0f).toUInt16 * 4).toNat
    let offset := ((ip.ipoffset &&& 0x3fff) * 8).toNat
    if offset > uipReassBufsize ∨ offset + len > uipReassBufsize then return ({ r with tmr := 0 }, none)
    let r ← r.add rest offset len
    let r := if ip.ipoffset &&& ipMf = 0 then { r with lastfrag := true, len := UInt16.ofNat (offset + len) }
      else r
    if r.lastfrag ∧ r.complete then return ({ r with tmr := 0 }, some (r.delivered ip rest))
    return (r, none)
  return (r, none)

end UdcFirmware.Uip
