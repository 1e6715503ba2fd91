/-
The EEPROM as a store of parameters.

Every parameter has a range of its own (`Param.region`), inside a page and
apart from the others; what it holds is `Param.stored`. A write of new data
puts it there and nowhere else (`Written.write`), a read finds what is
there (`Param.read_eq`), and so a request check flushes what waits
(`writeAll_flushed`).

`Settings` is the store as it is meant: for each parameter a value that waits
and the value last flushed, and the byte at the end of the memory. It runs
beside the code (`Board`). The parameters always read as the store says. The
byte at the end is written to 0x1FFF and read from 0x1F60, so it reads right
as long as what is written happens to be there (`board_faithful_iff`).
-/
import UdcFirmware.Lib.Traces
import UdcFirmware.Drivers.Eeprom

namespace UdcFirmware.Drivers

open Bsmp ByteMem Traces

/-! ## Where a parameter is -/

namespace Param

def region : Param → Region
  | serialNumber => ⟨0x0000, 10⟩
  | psModel => ⟨0x0100, 1⟩
  | ip => ⟨0x0140, 4⟩
  | ipMask => ⟨0x0144, 4⟩
  | rs485Add => ⟨0x0160, 1⟩
  | rs485Baud => ⟨0x0161, 4⟩
  | kp1 => ⟨0x0200, 4⟩
  | ki1 => ⟨0x0204, 4⟩
  | kd1 => ⟨0x0208, 4⟩
  | kp2 => ⟨0x0210, 4⟩
  | ki2 => ⟨0x0214, 4⟩
  | kd2 => ⟨0x0218, 4⟩
  | kp3 => ⟨0x0220, 4⟩
  | ki3 => ⟨0x0224, 4⟩
  | kd3 => ⟨0x0228, 4⟩
  | kp4 => ⟨0x0230, 4⟩
  | ki4 => ⟨0x0234, 4⟩
  | kd4 => ⟨0x0238, 4⟩

theorem mem_all (p : Param) : p ∈ all := by cases p <;> decide

theorem all_nodup : all.Nodup := by decide

theorem region_page (p : Param) : p.region.base % pageSize + p.region.size ≤ pageSize := by
  cases p <;> decide

theorem region_end (p : Param) : p.region.base + p.region.size ≤ 0x1F60 := by cases p <;> decide

/-- One of two parameters is before the other. -/
theorem region_sorted : ∀ p ∈ all, ∀ q ∈ all, p ≠ q →
    p.region.base + p.region.size ≤ q.region.base ∨ q.region.base + q.region.size ≤ p.region.base := by
  decide +kernel

theorem region_apart {p q : Param} (h : p ≠ q) : p.region.Apart q.region := by
  intro x hp hq
  rw [Region.mem_iff] at hp hq
  have := region_sorted p p.mem_all q q.mem_all h
  omega

/-- The bytes of a value, as they are written. -/
def bytes : (p : Param) → p.Value → List UInt8
  | serialNumber, v => v.toList
  | ip, v | ipMask, v | rs485Baud, v => Eeprom.wordBytes v
  | rs485Add, v | psModel, v => [v]
  | kp1, v | ki1, v | kd1, v | kp2, v | ki2, v | kd2, v
  | kp3, v | ki3, v | kd3, v | kp4, v | ki4, v | kd4, v =>
    v.toList

/-- The value of bytes, as they are read. -/
def ofBytes : (p : Param) → List UInt8 → p.Value
  | serialNumber, l => Vector.ofFn fun i => l.getD i 0
  | ip, l | ipMask, l | rs485Baud, l =>
    Eeprom.ofWordBytes (l.getD 0 0) (l.getD 1 0) (l.getD 2 0) (l.getD 3 0)
  | rs485Add, l | psModel, l => l.getD 0 0
  | kp1, l | ki1, l | kd1, l | kp2, l | ki2, l | kd2, l
  | kp3, l | ki3, l | kd3, l | kp4, l | ki4, l | kd4, l =>
    #v[l.getD 0 0, l.getD 1 0, l.getD 2 0, l.getD 3 0]

/-- What the memory holds for a parameter. -/
def stored (p : Param) (m : Mem UInt8) : p.Value := p.ofBytes (load m p.region)

end Param

/-! ## Bytes and values -/

theorem shiftLeft_or_toNat {x : UInt32} (h : x.toNat < 16777216) (b : UInt8) :
    (x <<< 8 ||| b.toUInt32).toNat = x.toNat * 256 + b.toNat := by
  have hshift : (x <<< 8).toNat = x.toNat <<< 8 := by
    rw [UInt32.toNat_shiftLeft, show (8 : UInt32).toNat % 32 = 8 from rfl, Nat.mod_eq_of_lt]
    rw [Nat.shiftLeft_eq]
    omega
  rw [UInt32.toNat_or, hshift, UInt8.toNat_toUInt32, ← Nat.shiftLeft_add_eq_or_of_lt b.toNat_lt,
    Nat.shiftLeft_eq]

theorem ofWordBytes_toNat (b₀ b₁ b₂ b₃ : UInt8) :
    (Eeprom.ofWordBytes b₀ b₁ b₂ b₃).toNat =
      ((b₀.toNat * 256 + b₁.toNat) * 256 + b₂.toNat) * 256 + b₃.toNat := by
  have h₀ := b₀.toNat_lt
  have h₁ := b₁.toNat_lt
  have h₂ := b₂.toNat_lt
  have hs₀ : b₀.toUInt32.toNat = b₀.toNat := UInt8.toNat_toUInt32 b₀
  have hs₁ := shiftLeft_or_toNat (x := b₀.toUInt32) (by omega) b₁
  have hs₂ := shiftLeft_or_toNat (x := b₀.toUInt32 <<< 8 ||| b₁.toUInt32) (by omega) b₂
  unfold Eeprom.ofWordBytes
  rw [shiftLeft_or_toNat (by omega), hs₂, hs₁, hs₀]

theorem ofWordBytes_wordBytes (v : UInt32) :
    Eeprom.ofWordBytes (v >>> 24).toUInt8 (v >>> 16).toUInt8 (v >>> 8).toUInt8 v.toUInt8 = v := by
  have hv := v.toNat_lt
  apply UInt32.toNat_inj.mp
  simp only [ofWordBytes_toNat, UInt32.toNat_toUInt8, UInt32.toNat_shiftRight, Nat.shiftRight_eq_div_pow,
    UInt32.reduceToNat, Nat.reduceMod, Nat.reducePow]
  omega

namespace Param

theorem chars_toList (v : FloatChars) :
    #v[v.toList.getD 0 0, v.toList.getD 1 0, v.toList.getD 2 0, v.toList.getD 3 0] = v := by
  refine Vector.ext fun i hi => ?_
  match i with
  | 0 | 1 | 2 | 3 => simp
  | i + 4 => omega

theorem ofBytes_bytes (p : Param) (v : p.Value) : p.ofBytes (p.bytes v) = v := by
  cases p with
  | serialNumber =>
    refine Vector.ext fun i hi => ?_
    simp [ofBytes, bytes]
  | ip | ipMask | rs485Baud => exact ofWordBytes_wordBytes v
  | rs485Add | psModel => rfl
  | _ => exact chars_toList v

theorem bytes_length (p : Param) (v : p.Value) : (p.bytes v).length = p.region.size := by
  cases p with
  | ip | ipMask | rs485Baud | rs485Add | psModel => rfl
  | _ => exact v.length_toList

variable {p q : Param} {m m' : Mem UInt8}

theorem stored_agree (h : Agree p.region m m') : p.stored m' = p.stored m := congrArg p.ofBytes h.load

theorem stored_store (p : Param) (v : p.Value) (m : Mem UInt8) :
    p.stored (store m p.region.base (p.bytes v)) = v := by
  have hload : load (store m p.region.base (p.bytes v)) p.region = p.bytes v := by
    conv_lhs => rw [show p.region = ⟨p.region.base, (p.bytes v).length⟩ by rw [bytes_length]]
    exact load_store m _ _
  rw [stored, hload, ofBytes_bytes]

/-- Writing one parameter leaves what the others hold. -/
theorem stored_store_other (h : q ≠ p) (v : p.Value) (m : Mem UInt8) :
    q.stored (store m p.region.base (p.bytes v)) = q.stored m := by
  refine stored_agree (Agree.store m ?_)
  rw [bytes_length]
  exact region_apart h

/-- Nothing but the end of the memory is past 0x1F60. -/
theorem store_end (p : Param) (v : p.Value) (m : Mem UInt8) {a : Nat} (ha : 0x1F60 ≤ a) :
    store m p.region.base (p.bytes v) a = m a := by
  refine store_of_not_mem m fun hmem => ?_
  rw [bytes_length] at hmem
  have hlt : a < p.region.base + p.region.size := hmem.2
  have := p.region_end
  omega

end Param

/-! ## One write, one read -/

theorem writePage_eq (m : Mem UInt8) (addr : Nat) (bytes : List UInt8)
    (h : addr % pageSize + bytes.length ≤ pageSize) : writePage m addr bytes = store m addr bytes := by
  simp only [pageSize] at h
  induction bytes generalizing m addr with
  | nil => exact (store_nil m addr).symm
  | cons b bs ih =>
    rw [writePage, store_cons]
    cases bs with
    | nil => exact (store_nil _ _).symm
    | cons b' bs =>
      rw [List.length_cons, List.length_cons] at h
      have hnext : addr / pageSize * pageSize + (addr + 1) % pageSize = addr + 1 := by
        simp only [pageSize]
        omega
      rw [hnext]
      refine ih _ _ ?_
      rw [List.length_cons]
      omega

namespace Eeprom

variable (s : Eeprom) {addr : UInt16} {n : UInt8} {i : Nat}

theorem wordAddress_beBytes (h : addr.toNat < chipSize) :
    wordAddress (addr >>> 8).toUInt8 addr.toUInt8 = addr.toNat := by
  rw [wordAddress, ofBeBytes_beBytes, Nat.mod_eq_of_lt h]

/-- A read leaves the bytes from the address on in the buffer. -/
theorem readI2C_data (hi : i < n.toNat) :
    (s.readI2C n).dataEeprom i =
      s.chip.mem ((wordAddress (s.dataEeprom 0) (s.dataEeprom 1) + i) % chipSize) := by
  have hlen : i < (s.chip.send (s.dataEeprom 0) (s.dataEeprom 1) n.toNat).length := by simpa [At24c64.send]
  have hcell := store_of_mem s.dataEeprom (a := 0) hlen
  rw [Nat.zero_add] at hcell
  refine hcell.trans ?_
  simp only [At24c64.send, List.getElem_map, List.getElem_range]

theorem readAt_data (haddr : addr.toNat + n.toNat ≤ chipSize) (hi : i < n.toNat) :
    (s.readAt addr n).dataEeprom i = s.chip.mem (addr.toNat + i) := by
  refine (readI2C_data _ hi).trans ?_
  show s.chip.mem ((wordAddress (addr >>> 8).toUInt8 addr.toUInt8 + i) % chipSize) = _
  rw [wordAddress_beBytes (by omega), Nat.mod_eq_of_lt (by omega)]

theorem readByte_eq (haddr : addr.toNat + 2 ≤ chipSize) : (s.readByte addr).1 = s.chip.mem addr.toNat :=
  s.readAt_data (n := 0x02) haddr (i := 0) (by decide)

theorem readAt_four (haddr : addr.toNat + 4 ≤ chipSize) (hi : i < 4) :
    (s.readAt addr 0x04).dataEeprom i = s.chip.mem (addr.toNat + i) := s.readAt_data (n := 0x04) haddr hi

theorem readWord_eq (haddr : addr.toNat + 4 ≤ chipSize) :
    (s.readWord addr).1 = ofWordBytes (s.chip.mem addr.toNat) (s.chip.mem (addr.toNat + 1))
      (s.chip.mem (addr.toNat + 2)) (s.chip.mem (addr.toNat + 3)) := by
  simp only [readWord, s.readAt_four haddr, Nat.reduceLT, Nat.add_zero]

theorem readFloat_eq (haddr : addr.toNat + 4 ≤ chipSize) :
    (s.readFloat addr).1 = #v[s.chip.mem addr.toNat, s.chip.mem (addr.toNat + 1),
      s.chip.mem (addr.toNat + 2), s.chip.mem (addr.toNat + 3)] := by
  simp only [readFloat, s.readAt_four haddr, Nat.reduceLT, Nat.add_zero]

theorem eepromReadSerialNumber_eq :
    s.eepromReadSerialNumber.boardSerialNumber = Param.serialNumber.stored s.chip.mem := by
  refine Vector.ext fun i hi => ?_
  have hdata : (s.readAt serialNumberAddr 0x0B).dataEeprom i = s.chip.mem (0 + i) :=
    s.readAt_data (by decide) (show i < 0x0B by omega)
  simp [eepromReadSerialNumber, Param.stored, Param.ofBytes, Param.region, load, hdata]

/-- The two bytes of the address are those of different addresses. -/
theorem eepromReadEndMemory_eq : s.eepromReadEndMemory.1 = s.chip.mem 0x1F60 :=
  readI2C_data { s with dataEeprom := store s.dataEeprom 0 [0x1F, 0x60] } (n := 0x02) (i := 0) (by decide)

/-- A write puts its bytes at its address. -/
theorem writeAt_mem {bytes : List UInt8} (hn : n.toNat = 2 + bytes.length) (haddr : addr.toNat < chipSize)
    (hpage : addr.toNat % pageSize + bytes.length ≤ pageSize) :
    (s.writeAt addr n bytes).chip.mem = store s.chip.mem addr.toNat bytes := by
  have hsent : load (store s.dataEeprom 0 (beBytes addr ++ bytes)) ⟨0, n.toNat⟩ = beBytes addr ++ bytes := by
    rw [show n.toNat = (beBytes addr ++ bytes).length by
      rw [hn, List.length_append]
      rfl]
    exact load_store _ _ _
  simp only [writeAt, gpioPinWrite, writeI2C]
  rw [hsent]
  simp only [beBytes, List.cons_append, List.nil_append, At24c64.receive, Bool.false_eq_true, if_false]
  rw [wordAddress_beBytes haddr, writePage_eq _ _ _ hpage]

end Eeprom

/-- New data is in the memory, and nothing waits. -/
structure Written (p : Param) (s s' : Eeprom) : Prop where
  mem : s'.chip.mem = if s.newData p then store s.chip.mem p.region.base (p.bytes (s.saved p)) else s.chip.mem
  saved : s'.saved = s.saved
  newData : s'.newData = Function.update s.newData p false

namespace Written

variable {p : Param} (s : Eeprom) {addr : UInt16}

theorem writeNew {write : Eeprom → Eeprom}
    (hmem : (write s).chip.mem = store s.chip.mem p.region.base (p.bytes (s.saved p)))
    (hsaved : (write s).saved = s.saved) (hnew : (write s).newData = s.newData) :
    Written p s (s.writeNew p write) := by
  unfold Eeprom.writeNew
  cases hp : s.newData p with
  | true =>
    refine ⟨?_, hsaved, ?_⟩
    · rw [if_pos rfl, hp, if_pos rfl]
      exact hmem
    · rw [if_pos rfl, ← hnew]
  | false =>
    refine ⟨by rw [if_neg Bool.false_ne_true, hp, if_neg Bool.false_ne_true], rfl, ?_⟩
    rw [if_neg Bool.false_ne_true, ← hp, Function.update_eq_self]

/-- A write of new data to the range of the parameter. -/
theorem writeNewAt {n : UInt8} {write : Eeprom → Eeprom} (s' : Eeprom) {bytes : List UInt8}
    (hwrite : write s = s'.writeAt addr n bytes) (haddr : addr.toNat = p.region.base)
    (hbytes : p.bytes (s.saved p) = bytes) (hn : n.toNat = 2 + bytes.length) (hmem : s'.chip.mem = s.chip.mem)
    (hsaved : s'.saved = s.saved) (hnew : s'.newData = s.newData) : Written p s (s.writeNew p write) := by
  have hlen := p.bytes_length (s.saved p)
  have hend := p.region_end
  have hpage := p.region_page
  rw [hbytes] at hlen
  refine writeNew s ?_ (by rw [hwrite]; exact hsaved) (by rw [hwrite]; exact hnew)
  rw [hwrite, hbytes, ← hmem, ← haddr]
  refine s'.writeAt_mem hn ?_ ?_
  · simp only [chipSize]
    omega
  · rw [haddr, hlen]
    exact hpage

theorem writeByte {v : UInt8} (haddr : addr.toNat = p.region.base) (hv : p.bytes (s.saved p) = [v]) :
    Written p s (s.writeByte p addr v) := writeNewAt s s rfl haddr hv rfl rfl rfl rfl

theorem writeWord {v : UInt32} (haddr : addr.toNat = p.region.base)
    (hv : p.bytes (s.saved p) = Eeprom.wordBytes v) : Written p s (s.writeWord p addr v) :=
  writeNewAt s s rfl haddr hv rfl rfl rfl rfl

theorem writeFloat {v : FloatChars} (haddr : addr.toNat = p.region.base)
    (hv : p.bytes (s.saved p) = v.toList) : Written p s (s.writeFloat p addr v) :=
  writeNewAt s { s with floatNchars := v } rfl haddr hv (by rw [v.length_toList]; rfl) rfl rfl rfl

theorem writeSerialNumber : Written .serialNumber s s.eepromWriteSerialNumber := by
  have hw : Written .serialNumber s (s.writeNew .serialNumber fun s =>
      s.writeAt serialNumberAddr 0x0C (s.saved .serialNumber : SerialNumber).toList) :=
    writeNewAt s s rfl (by decide) rfl (by rw [Vector.length_toList]; rfl) rfl rfl rfl
  unfold Eeprom.eepromWriteSerialNumber
  split
  · exact ⟨hw.mem, hw.saved, hw.newData⟩
  · next hnew =>
    rwa [Eeprom.writeNew, if_neg hnew] at hw

/-- Every write is like that. -/
theorem write (p : Param) (s : Eeprom) : Written p s (p.write s) := by
  cases p with
  | serialNumber => exact writeSerialNumber s
  | ip | ipMask | rs485Baud => exact writeWord s (by decide) rfl
  | rs485Add | psModel => exact writeByte s (by decide) rfl
  | _ => exact writeFloat s (by decide) rfl

end Written

/-- What a read returns, and what it leaves alone. -/
theorem Param.read_eq (p : Param) (s : Eeprom) :
    (p.read s).1 = p.stored s.chip.mem ∧ (p.read s).2.chip = s.chip ∧ (p.read s).2.saved = s.saved ∧
      (p.read s).2.newData = s.newData := by
  refine ⟨?_, ?_⟩
  · cases p with
    | serialNumber => exact s.eepromReadSerialNumber_eq
    | ip | ipMask | rs485Baud => exact s.readWord_eq (by decide)
    | rs485Add | psModel => exact s.readByte_eq (by decide)
    | _ => exact s.readFloat_eq (by decide)
  · cases p <;> exact ⟨rfl, rfl, rfl⟩

/-! ## A request check -/

/-- Writes of several parameters: what was new is stored, the rest stays. -/
theorem writeAll_flushed {l : List Param} (hl : l.Nodup) (s : Eeprom) :
    (∀ p, p.stored (l.foldl (fun s p => p.write s) s).chip.mem =
        if p ∈ l ∧ s.newData p then s.saved p else p.stored s.chip.mem) ∧
      (∀ a, 0x1F60 ≤ a → (l.foldl (fun s p => p.write s) s).chip.mem a = s.chip.mem a) ∧
      ∀ p, (l.foldl (fun s p => p.write s) s).newData p = (s.newData p && p ∉ l) := by
  induction l generalizing s with
  | nil => exact ⟨fun p => by simp, fun _ _ => rfl, fun p => by simp⟩
  | cons q l ih =>
    obtain ⟨hq, hl⟩ := List.nodup_cons.mp hl
    obtain ⟨hstored, hend, hnew⟩ := ih hl (q.write s)
    have hw := Written.write q s
    refine ⟨fun p => ?_, fun a ha => ?_, fun p => ?_⟩
    · rw [List.foldl_cons, hstored, hw.saved, hw.newData, hw.mem]
      by_cases hpq : p = q
      · -- It is written first, and not again.
        subst hpq
        rw [if_neg fun h => hq h.1]
        cases hp : s.newData p with
        | true => simp [Param.stored_store]
        | false => simp
      · rw [Function.update_of_ne hpq]
        have hother : p.stored (if s.newData q then store s.chip.mem q.region.base (q.bytes (s.saved q))
            else s.chip.mem) = p.stored s.chip.mem := by
          split
          · exact Param.stored_store_other hpq _ _
          · rfl
        rw [hother]
        simp [hpq]
    · rw [List.foldl_cons, hend a ha, hw.mem]
      split
      · exact q.store_end _ _ ha
      · rfl
    · rw [List.foldl_cons, hnew, hw.newData]
      by_cases hpq : p = q
      · subst hpq
        simp
      · simp [hpq]

theorem eepromWriteRequestCheck_spec (s : Eeprom) :
    (∀ p : Param, p.stored s.eepromWriteRequestCheck.chip.mem =
        if s.newData p then s.saved p else p.stored s.chip.mem) ∧
      s.eepromWriteRequestCheck.chip.mem 0x1F60 = s.chip.mem 0x1F60 ∧
      ∀ p, s.eepromWriteRequestCheck.newData p = false := by
  rw [Eeprom.eepromWriteRequestCheck_eq]
  obtain ⟨hstored, hend, hnew⟩ := writeAll_flushed Param.all_nodup s
  refine ⟨fun p => ?_, hend _ (Nat.le_refl _), fun p => ?_⟩
  · rw [hstored]
    simp [p.mem_all]
  · rw [hnew]
    simp [p.mem_all]

/-- The end of the memory is apart from every parameter, and from where it is read. -/
theorem eepromWriteEndMemory_spec (s : Eeprom) (b : UInt8) :
    (∀ p : Param, p.stored (s.eepromWriteEndMemory b).chip.mem = p.stored s.chip.mem) ∧
      (s.eepromWriteEndMemory b).chip.mem 0x1F60 = s.chip.mem 0x1F60 := by
  have haddr : endMemory.toNat < chipSize := by decide
  have hn : (0x03 : UInt8).toNat = 2 + [b].length := rfl
  have hmem : (s.eepromWriteEndMemory b).chip.mem = store s.chip.mem 0x1FFF [b] :=
    s.writeAt_mem hn haddr (Nat.le_refl pageSize)
  rw [hmem]
  have hbefore : ¬ 0x1FFF ≤ 0x1F60 := by decide
  refine ⟨fun p => Param.stored_agree (Agree.store _ fun x hx hmem => ?_),
    store_of_not_mem _ fun hmem => hbefore hmem.1⟩
  have hlt : x < p.region.base + p.region.size := hx.2
  have hge : 0x1FFF ≤ x := hmem.1
  have := p.region_end
  omega

/-! ## The store as it is meant -/

/-- A value that waits and the value last flushed of each parameter, and the
byte last written to the end of the memory. -/
structure Settings where
  pending : (p : Param) → Option p.Value
  flushed : (p : Param) → p.Value
  endMemory : UInt8

inductive StoreEvent
  | save (p : Param) (v : p.Arg)
  | writeRequestCheck
  | writeEndMemory (dataEndMemory : UInt8)
  | read (p : Param)
  | readEndMemory

def Settings.step (a : Settings) : StoreEvent → Settings
  | .save p v => { a with pending := Function.update a.pending p (some (p.ofArg v)) }
  | .writeRequestCheck =>
    { a with
      pending := fun _ => none
      flushed := fun p => (a.pending p).getD (a.flushed p) }
  | .writeEndMemory b => { a with endMemory := b }
  | .read _ => a
  | .readEndMemory => a

def Eeprom.step (s : Eeprom) : StoreEvent → Eeprom
  | .save p v => p.save v s
  | .writeRequestCheck => s.eepromWriteRequestCheck
  | .writeEndMemory b => s.eepromWriteEndMemory b
  | .read p => (p.read s).2
  | .readEndMemory => s.eepromReadEndMemory.2

/-- The code, and the store it should be. -/
structure Board where
  eeprom : Eeprom
  settings : Settings

def Board.step (t : Board) (e : StoreEvent) : Board := ⟨t.eeprom.step e, t.settings.step e⟩

/-- The variables at power-up, with what the chip holds. -/
def Eeprom.powerUp (mem : Mem UInt8) : Eeprom where
  chip := ⟨mem, true⟩
  dataEeprom := fun _ => 0
  floatNchars := .replicate _ 0
  boardSerialNumber := .replicate _ 0
  eepromSts := 0
  saved p := p.ofBytes []
  newData _ := false

/-- At first the store is what the chip reads as. -/
def Board.powerUp (mem : Mem UInt8) : Board where
  eeprom := .powerUp mem
  settings :=
    { pending := fun _ => none
      flushed := fun p => (p.read (.powerUp mem)).1
      endMemory := (Eeprom.powerUp mem).eepromReadEndMemory.1 }

/-- Every read function returns what was last flushed. -/
def Board.Faithful (t : Board) : Prop :=
  (∀ p : Param, (p.read t.eeprom).1 = t.settings.flushed p) ∧
    t.eeprom.eepromReadEndMemory.1 = t.settings.endMemory

/-- What waits and what is stored, as the store has it. -/
structure Board.Refines (t : Board) : Prop where
  pending : ∀ p, t.settings.pending p = if t.eeprom.newData p then some (t.eeprom.saved p) else none
  flushed : ∀ p : Param, t.settings.flushed p = p.stored t.eeprom.chip.mem

namespace Board

variable {t : Board}

theorem Refines.powerUp (mem : Mem UInt8) : (Board.powerUp mem).Refines :=
  ⟨fun _ => rfl, fun p => (p.read_eq _).1⟩

theorem Refines.read (h : t.Refines) (p : Param) : (p.read t.eeprom).1 = t.settings.flushed p :=
  (p.read_eq t.eeprom).1.trans (h.flushed p).symm

theorem Param.save_eq (p : Param) (v : p.Arg) (s : Eeprom) : p.save v s = s.save p (p.ofArg v) := by
  cases p <;> rfl

/-- The code does what the store does, and the byte at 0x1F60 stays. -/
theorem Refines.step (h : t.Refines) (e : StoreEvent) :
    (t.step e).Refines ∧ (t.step e).eeprom.chip.mem 0x1F60 = t.eeprom.chip.mem 0x1F60 := by
  cases e with
  | save p v =>
    have hs : (t.step (.save p v)).eeprom = t.eeprom.save p (p.ofArg v) := Param.save_eq p v t.eeprom
    refine ⟨⟨fun q => ?_, fun q => ?_⟩, by rw [hs]; rfl⟩
    · rw [hs]
      by_cases hq : q = p
      · subst hq
        simp [Board.step, Settings.step, Eeprom.save]
      · simp [Board.step, Settings.step, Eeprom.save, Function.update_of_ne hq, h.pending]
    · rw [hs]
      exact h.flushed q
  | writeRequestCheck =>
    obtain ⟨hstored, hend, hnew⟩ := eepromWriteRequestCheck_spec t.eeprom
    refine ⟨⟨fun p => ?_, fun p => ?_⟩, hend⟩
    · show none = if t.eeprom.eepromWriteRequestCheck.newData p then _ else none
      rw [hnew, if_neg Bool.false_ne_true]
    · show (t.settings.pending p).getD (t.settings.flushed p) =
        p.stored t.eeprom.eepromWriteRequestCheck.chip.mem
      rw [hstored, h.pending, h.flushed]
      split <;> rfl
  | writeEndMemory b =>
    obtain ⟨hstored, hend⟩ := eepromWriteEndMemory_spec t.eeprom b
    exact ⟨⟨h.pending, fun p => (h.flushed p).trans (hstored p).symm⟩, hend⟩
  | read p =>
    obtain ⟨-, hchip, hsaved, hnew⟩ := p.read_eq t.eeprom
    refine ⟨⟨fun q => ?_, fun q => ?_⟩, congrArg (fun c => At24c64.mem c 0x1F60) hchip⟩
    · show t.settings.pending q =
        if (p.read t.eeprom).2.newData q then some ((p.read t.eeprom).2.saved q) else none
      rw [hsaved, hnew]
      exact h.pending q
    · show t.settings.flushed q = q.stored (p.read t.eeprom).2.chip.mem
      rw [hchip]
      exact h.flushed q
  | readEndMemory => exact ⟨⟨h.pending, h.flushed⟩, rfl⟩

/-- The byte that is written to the end of the memory is the one at 0x1F60. -/
def EndAgrees (t : Board) (e : StoreEvent) : Prop :=
  ∀ b, e = .writeEndMemory b → b = t.eeprom.chip.mem 0x1F60

end Board

/-- **The EEPROM is a store of parameters.** From power-up on, over any saves,
request checks, writes of the end of the memory and reads in any order, every
read function always returns what was last flushed, if and only if each byte
that is written to the end of the memory is the one the chip holds at
0x1F60. -/
theorem board_faithful_iff (mem : Mem UInt8) (evs : List StoreEvent) :
    Always Board.step Board.Faithful (Board.powerUp mem) evs ↔
      Along Board.step Board.EndAgrees (Board.powerUp mem) evs := by
  refine always_iff_along (J := Board.Refines) (fun t e hj hi => ?_) (.powerUp mem)
    ⟨fun p => (Board.Refines.powerUp mem).read p, rfl⟩
  obtain ⟨hj', hend⟩ := hj.step e
  refine ⟨hj', ?_⟩
  have hread : (t.step e).Faithful ↔ t.eeprom.chip.mem 0x1F60 = (t.settings.step e).endMemory := by
    rw [Board.Faithful, Eeprom.eepromReadEndMemory_eq, hend]
    exact ⟨fun h => h.2, fun h => ⟨hj'.read, h⟩⟩
  have hbefore : t.eeprom.chip.mem 0x1F60 = t.settings.endMemory :=
    (Eeprom.eepromReadEndMemory_eq t.eeprom).symm.trans hi.2
  rw [hread]
  cases e with
  | writeEndMemory b => exact ⟨fun h c hc => by cases hc; exact h.symm, fun h => (h b rfl).symm⟩
  | _ => exact iff_of_true hbefore fun _ hb => by cases hb

/-- On an erased chip, 0 is written to the end of the memory and 255 read. -/
theorem endMemory_misread :
    ¬ Always Board.step Board.Faithful (Board.powerUp fun _ => 0xFF) [.writeEndMemory 0] := by
  intro h
  have hread := h.foldl.2
  rw [Eeprom.eepromReadEndMemory_eq] at hread
  have hend := (eepromWriteEndMemory_spec (Eeprom.powerUp fun _ => 0xFF) 0).2
  cases hend.symm.trans hread

end UdcFirmware.Drivers
