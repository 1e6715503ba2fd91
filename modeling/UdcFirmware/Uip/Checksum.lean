/-
The checksums of `uip.c`.

`chksum` adds the words of a range of bytes with end-around carry, the last
byte of an odd number as the high byte of a word. So it depends on the plain
sum of the words only (`chksum_toNat`), and a checksum verifies exactly if that
sum is a multiple of 65535 (`verifies_iff`). Whatever the other bytes are, the
complement of the sum in the checksum field makes it one (`complement_verifies`).
-/
import UdcFirmware.Lib.OnesComplement
import UdcFirmware.Uip.Packets

namespace UdcFirmware.Uip

open Bsmp OnesComplement

/-! ## The loop -/

/-- `sum += t; if(sum < t) sum++`. -/
def addCarry (sum t : UInt16) : UInt16 := if sum + t < t then sum + t + 1 else sum + t

def chksum (sum : UInt16) : List UInt8 → UInt16
  | hi :: lo :: data => chksum (addCarry sum (ofBeBytes hi lo)) data
  | [hi] => addCarry sum (ofBeBytes hi 0)
  | [] => sum

/-- The plain sum of the words. -/
def wordSum : List UInt8 → Nat
  | hi :: lo :: data => (ofBeBytes hi lo).toNat + wordSum data
  | [hi] => (ofBeBytes hi 0).toNat
  | [] => 0

theorem addCarry_toNat (sum t : UInt16) : (addCarry sum t).toNat = fold 65535 (sum.toNat + t.toNat) := by
  have hsum := sum.toNat_lt
  have ht := t.toNat_lt
  have hone : UInt16.toNat 1 = 1 := rfl
  unfold addCarry
  split
  · next hcarry =>
    rw [UInt16.lt_iff_toNat_lt, UInt16.toNat_add] at hcarry
    rw [UInt16.toNat_add, UInt16.toNat_add, hone, fold_pos (by omega)]
    omega
  · next hnone =>
    rw [UInt16.lt_iff_toNat_lt, UInt16.toNat_add] at hnone
    rw [UInt16.toNat_add, Nat.mod_eq_of_lt (by omega), fold_of_le (by omega)]

/-- The words come in through their plain sum. -/
theorem chksum_toNat (sum : UInt16) (data : List UInt8) :
    (chksum sum data).toNat = fold 65535 (sum.toNat + wordSum data) := by
  induction sum, data using chksum.induct with
  | case1 sum hi lo data ih => rw [chksum, ih, addCarry_toNat, fold_add, wordSum, Nat.add_assoc]
  | case2 sum hi => rw [chksum, addCarry_toNat, wordSum]
  | case3 sum =>
    rw [chksum, wordSum, Nat.add_zero, fold_of_le]
    have hsum := sum.toNat_lt
    omega

theorem wordSum_append {l : List UInt8} (h : l.length % 2 = 0) (m : List UInt8) :
    wordSum (l ++ m) = wordSum l + wordSum m := by
  induction l using wordSum.induct with
  | case1 hi lo l ih =>
    rw [List.length_cons, List.length_cons] at h
    rw [List.cons_append, List.cons_append, wordSum, wordSum, ih (by omega), Nat.add_assoc]
  | case2 hi => exact absurd h (by simp)
  | case3 => rw [wordSum, Nat.zero_add, List.nil_append]

@[simp] theorem wordSum_beBytes (n : UInt16) : wordSum (beBytes n) = n.toNat := by
  rw [beBytes, wordSum, ofBeBytes_beBytes]
  rfl

/-! ## The checksums -/

/-- `(sum == 0) ? 0xffff : htons(sum)`. -/
def settled (sum : UInt16) : UInt16 := if sum = 0 then 0xffff else sum

def uipIpchksum (p : IpHeader) : UInt16 := settled (chksum 0 p.bytes)

/-- `upper_layer_chksum(proto)` of a packet whose bytes behind the IP header are `rest`. -/
def upperLayerChksum (ip : IpHeader) (rest : Nat → UInt8) (proto : UInt8) : UInt16 :=
  let upperLayerLen := ip.len - 20
  let sum := upperLayerLen + proto.toUInt16
  let sum := chksum sum (ip.srcipaddr.bytes ++ ip.destipaddr.bytes)
  settled (chksum sum (bytesOf rest upperLayerLen.toNat))

def uipTcpchksum (p : Packet) : UInt16 := upperLayerChksum p.toIpHeader p.rest uipProtoTcp

/-- A sum with the right checksum in it. -/
theorem settled_eq_iff (sum : UInt16) : settled sum = 0xffff ↔ sum.toNat ≡ 0 [MOD 65535] := by
  have hlt := sum.toNat_lt
  have hones : UInt16.toNat 0xffff = 65535 := rfl
  have hzero : UInt16.toNat 0 = 0 := rfl
  unfold settled
  rw [Nat.modEq_zero_iff_dvd]
  split
  · next h => simp [h]
  · next h =>
    rw [← UInt16.toNat_inj, hzero] at h
    rw [← UInt16.toNat_inj, hones]
    constructor
    · intro heq
      rw [heq]
    · rintro ⟨k, hk⟩
      omega

/-- The checksum verifies exactly if the words come to a multiple of 65535. -/
theorem verifies_iff (sum : UInt16) (data : List UInt8) :
    settled (chksum sum data) = 0xffff ↔ sum.toNat + wordSum data ≡ 0 [MOD 65535] := by
  rw [settled_eq_iff, chksum_toNat]
  exact ⟨(fold_modEq _).symm.trans, (fold_modEq _).trans⟩

/-- The complement of a sum completes it. -/
theorem complement_verifies (sum : UInt16) (data : List UInt8) :
    sum.toNat + wordSum data + (~~~ settled (chksum sum data)).toNat ≡ 0 [MOD 65535] := by
  have hsum : (chksum sum data).toNat ≡ sum.toNat + wordSum data [MOD 65535] := by
    rw [chksum_toNat]
    exact fold_modEq _
  have hcomplement (v : UInt16) : (~~~ v).toNat = 65535 - v.toNat := by
    rw [UInt16.toNat_not]
    rfl
  have hlt := (chksum sum data).toNat_lt
  have hones : UInt16.toNat 0xffff = 65535 := rfl
  have hzero : UInt16.toNat 0 = 0 := rfl
  refine (hsum.symm.add_right _).trans ?_
  rw [hcomplement]
  unfold settled
  split
  · next h => rw [h]; rfl
  · rw [Nat.add_sub_of_le (by omega)]
    rfl

end UdcFirmware.Uip
