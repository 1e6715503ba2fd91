/-
The loops over the members of a group, member by member: what a group write
or operation does to one member (`writeMembers_bytes`, `binOpMembers_bytes`),
to anything else (`writeMembers_agree`, `binOpMembers_agree`), and, where the
members lie apart, to the memory as a whole: one store for each member, of
its own slice (`writeMembers_stores`, `binOpMembers_stores`).
-/
import UdcFirmware.Bsmp.Answers

namespace UdcFirmware.Bsmp

open ByteMem Checked

variable {σ : Type} {objs : Objects σ}

/-- The first member's slice, and the slices of the others. -/
theorem slice_lengths {q : Ptr} {qs : List Ptr} {bytes : List UInt8}
    (hlen : bytes.length = sizeSum objs (q :: qs)) :
    (bytes.take (objs.var q).info.size.toNat).length = (objs.var q).info.size.toNat ∧
      (bytes.drop (objs.var q).info.size.toNat).length = sizeSum objs qs := by
  rw [sizeSum_cons] at hlen
  rw [List.length_take, List.length_drop]
  omega

/-! ## Everything else -/

theorem Var.put_agree {r : Region} (v : Var σ) (mem : Mem UInt8) {value : List UInt8}
    (hlen : value.length = v.info.size.toNat) (h : r.Apart v.region) : Agree r mem (v.put mem value) := by
  refine .store mem ?_
  rw [hlen]
  exact h

theorem writeMembers_agree {r : Region} {qs : List Ptr} {values : List UInt8} (w : World σ) (failed : Bool)
    (hlen : values.length = sizeSum objs qs) (hr : ∀ q ∈ qs, r.Apart (objs.var q).region) :
    Agree r w.mem (writeMembers objs qs values w failed).1.mem := by
  induction qs generalizing values w failed with
  | nil => exact .refl r w.mem
  | cons q qs ih =>
    obtain ⟨hslice, hrest⟩ := slice_lengths hlen
    have hqs : ∀ q' ∈ qs, r.Apart (objs.var q').region := fun q' hq' => hr q' (List.mem_cons_of_mem q hq')
    simp only [writeMembers]
    split
    · exact Agree.trans ((objs.var q).put_agree w.mem hslice (hr q (by simp))) (ih _ _ hrest hqs)
    · exact ih _ _ hrest hqs

theorem binOpMembers_agree {r : Region} {op : UInt8 → UInt8 → UInt8} {qs : List Ptr} {masks : List UInt8}
    (mem : Mem UInt8) (hlen : masks.length = sizeSum objs qs) (hr : ∀ q ∈ qs, r.Apart (objs.var q).region) :
    Agree r mem (binOpMembers objs op qs masks mem) := by
  induction qs generalizing masks mem with
  | nil => exact .refl r mem
  | cons q qs ih =>
    obtain ⟨hslice, hrest⟩ := slice_lengths hlen
    have hput := (objs.var q).put_agree mem ((objs.var q).combine_length op mem hslice) (hr q (by simp))
    exact hput.trans (ih _ hrest fun q' hq' => hr q' (List.mem_cons_of_mem q hq'))

/-- The members of a writable group are writable. -/
theorem GroupOk.member_writable {vars : List Ptr} {info : Ptr → VarInfo} {i : Nat} {g : Group}
    (h : GroupOk vars info i g) (hwr : g.writable = true) : ∀ q ∈ g.vars, (info q).writable = true := by
  rw [h.sums.writable, List.all_eq_true] at hwr
  exact hwr

/-! ## A member's own slice -/

/-- The slice of `bytes` that belongs to `p`, the slices of `qs` following one another. -/
def sliceOf (objs : Objects σ) : List Ptr → Ptr → List UInt8 → List UInt8
  | [], _, _ => []
  | q :: qs, p, bytes =>
    if q = p then bytes.take (objs.var q).info.size.toNat
    else sliceOf objs qs p (bytes.drop (objs.var q).info.size.toNat)

theorem sliceOf_length {p : Ptr} {qs : List Ptr} {bytes : List UInt8} (hp : p ∈ qs)
    (hlen : bytes.length = sizeSum objs qs) :
    (sliceOf objs qs p bytes).length = (objs.var p).info.size.toNat := by
  induction qs generalizing bytes with
  | nil => cases hp
  | cons q qs ih =>
    obtain ⟨hslice, hrest⟩ := slice_lengths hlen
    by_cases hq : q = p
    · subst hq
      simp only [sliceOf, if_true]
      exact hslice
    · simp only [sliceOf, hq, if_false]
      rcases List.mem_cons.mp hp with he | hp
      · exact absurd he.symm hq
      · exact ih hp hrest

/-- A group write gives a member its slice, or leaves it as it was. -/
theorem writeMembers_bytes {p : Ptr} {qs : List Ptr} {values : List UInt8} (w : World σ) (failed : Bool)
    (hnodup : qs.Nodup) (hp : p ∈ qs)
    (hapart : ∀ q ∈ qs, q ≠ p → (objs.var p).region.Apart (objs.var q).region)
    (hlen : values.length = sizeSum objs qs) :
    ∃ w', (objs.var p).bytes (writeMembers objs qs values w failed).1.mem =
      if (objs.var p).accepts w' (sliceOf objs qs p values) then sliceOf objs qs p values
      else (objs.var p).bytes w.mem := by
  induction qs generalizing values w failed with
  | nil => cases hp
  | cons q qs ih =>
    obtain ⟨hslice, hrest⟩ := slice_lengths hlen
    obtain ⟨hnew, hnodup⟩ := List.nodup_cons.mp hnodup
    by_cases hq : q = p
    · -- It is `p`'s turn, and no later store touches it.
      subst hq
      have hlater : ∀ q' ∈ qs, (objs.var q).region.Apart (objs.var q').region := by
        intro q' hq'
        exact hapart q' (List.mem_cons_of_mem q hq') (ne_of_mem_of_not_mem hq' hnew)
      refine ⟨w, ?_⟩
      simp only [writeMembers, sliceOf, if_true]
      split
      · have hagree := writeMembers_agree
          { w with mem := (objs.var q).put w.mem (values.take (objs.var q).info.size.toNat) }
            failed hrest hlater
        exact hagree.load.trans ((objs.var q).bytes_put w.mem hslice)
      · exact (writeMembers_agree w true hrest hlater).load
    · have hp' : p ∈ qs := (List.mem_cons.mp hp).resolve_left fun he => hq he.symm
      have hlater : ∀ q' ∈ qs, q' ≠ p → (objs.var p).region.Apart (objs.var q').region := fun q' hq' =>
        hapart q' (List.mem_cons_of_mem q hq')
      simp only [writeMembers, sliceOf, hq, if_false]
      split
      · obtain ⟨w', hw'⟩ := ih
          { w with mem := (objs.var q).put w.mem (values.take (objs.var q).info.size.toNat) }
          failed hnodup hp' hlater hrest
        refine ⟨w', ?_⟩
        rw [hw', show (objs.var p).bytes ((objs.var q).put w.mem _) = (objs.var p).bytes w.mem from
          ((objs.var q).put_agree w.mem hslice (hapart q (by simp) hq)).load]
      · exact ih w true hnodup hp' hlater hrest

/-- A group operation combines a member with its slice. -/
theorem binOpMembers_bytes {op : UInt8 → UInt8 → UInt8} {p : Ptr} {qs : List Ptr} {masks : List UInt8}
    (mem : Mem UInt8) (hnodup : qs.Nodup) (hp : p ∈ qs)
    (hapart : ∀ q ∈ qs, q ≠ p → (objs.var p).region.Apart (objs.var q).region)
    (hlen : masks.length = sizeSum objs qs) :
    (objs.var p).bytes (binOpMembers objs op qs masks mem) =
      (objs.var p).combine op mem (sliceOf objs qs p masks) := by
  induction qs generalizing masks mem with
  | nil => cases hp
  | cons q qs ih =>
    obtain ⟨hmask, hrest⟩ := slice_lengths hlen
    obtain ⟨hnew, hnodup⟩ := List.nodup_cons.mp hnodup
    have hslice := (objs.var q).combine_length op mem hmask
    by_cases hq : q = p
    · subst hq
      have hlater : ∀ q' ∈ qs, (objs.var q).region.Apart (objs.var q').region := by
        intro q' hq'
        exact hapart q' (List.mem_cons_of_mem q hq') (ne_of_mem_of_not_mem hq' hnew)
      simp only [binOpMembers, sliceOf, if_true]
      exact (binOpMembers_agree _ hrest hlater).load.trans ((objs.var q).bytes_put mem hslice)
    · have hp' : p ∈ qs := (List.mem_cons.mp hp).resolve_left fun he => hq he.symm
      have hbefore : (objs.var p).bytes ((objs.var q).put mem ((objs.var q).combine op mem
          (masks.take (objs.var q).info.size.toNat))) = (objs.var p).bytes mem :=
        ((objs.var q).put_agree mem hslice (hapart q (by simp) hq)).load
      simp only [binOpMembers, sliceOf, hq, if_false]
      rw [ih _ hnodup hp' (fun q' hq' => hapart q' (List.mem_cons_of_mem q hq')) hrest, Var.combine, hbefore]
      rfl

/-! ## The memory as a whole -/

theorem sliceOf_self (q : Ptr) (qs : List Ptr) (bytes : List UInt8) :
    sliceOf objs (q :: qs) q bytes = bytes.take (objs.var q).info.size.toNat := by
  simp [sliceOf]

theorem sliceOf_of_ne {p q : Ptr} (h : q ≠ p) (qs : List Ptr) (bytes : List UInt8) :
    sliceOf objs (q :: qs) p bytes = sliceOf objs qs p (bytes.drop (objs.var q).info.size.toNat) := by
  simp [sliceOf, h]

/-- The slices make up the whole. -/
theorem sliceOf_flatMap {qs : List Ptr} {bytes : List UInt8} (hnodup : qs.Nodup)
    (hlen : bytes.length = sizeSum objs qs) : qs.flatMap (fun q => sliceOf objs qs q bytes) = bytes := by
  induction qs generalizing bytes with
  | nil =>
    rw [sizeSum_nil, List.length_eq_zero_iff] at hlen
    rw [hlen]
    rfl
  | cons q qs ih =>
    obtain ⟨-, hrest⟩ := slice_lengths hlen
    obtain ⟨hnew, hnodup⟩ := List.nodup_cons.mp hnodup
    have htail : qs.flatMap (fun q' => sliceOf objs (q :: qs) q' bytes) =
        qs.flatMap fun q' => sliceOf objs qs q' (bytes.drop (objs.var q).info.size.toNat) :=
      List.flatMap_congr fun q' hq' => sliceOf_of_ne (ne_of_mem_of_not_mem hq' hnew).symm qs bytes
    rw [List.flatMap_cons, htail, sliceOf_self, ih hnodup hrest, List.take_append_drop]

/-- One store for each variable. -/
def stores (objs : Objects σ) (value : Ptr → List UInt8) (qs : List Ptr) : List (Nat × List UInt8) :=
  qs.map fun q => ((objs.var q).region.base, value q)

theorem stores_congr {value value' : Ptr → List UInt8} {qs : List Ptr} (h : ∀ q ∈ qs, value q = value' q) :
    stores objs value qs = stores objs value' qs := List.map_congr_left fun q hq => by rw [h q hq]

/-- A group write that no checker rejects. -/
theorem writeMembers_stores {qs : List Ptr} {values : List UInt8} (w : World σ) (failed : Bool)
    (hnodup : qs.Nodup)
    (hok : ∀ q ∈ qs, ∀ w, (objs.var q).accepts w (sliceOf objs qs q values) = true) :
    writeMembers objs qs values w failed =
      ({ w with mem := storeAll w.mem (stores objs (fun q => sliceOf objs qs q values) qs) }, failed) := by
  induction qs generalizing values w failed with
  | nil => rfl
  | cons q qs ih =>
    obtain ⟨hnew, hnodup⟩ := List.nodup_cons.mp hnodup
    have htail : ∀ q' ∈ qs, sliceOf objs (q :: qs) q' values =
        sliceOf objs qs q' (values.drop (objs.var q).info.size.toNat) := by
      intro q' hq'
      exact sliceOf_of_ne (ne_of_mem_of_not_mem hq' hnew).symm qs values
    have hfirst := hok q (by simp) w
    rw [sliceOf_self] at hfirst
    have hrest : ∀ q' ∈ qs, ∀ w, (objs.var q').accepts w
        (sliceOf objs qs q' (values.drop (objs.var q).info.size.toNat)) = true := by
      intro q' hq' w'
      rw [← htail q' hq']
      exact hok q' (List.mem_cons_of_mem q hq') w'
    simp only [writeMembers, hfirst, if_true, ih _ failed hnodup hrest]
    rw [← stores_congr htail]
    simp only [stores, List.map_cons, storeAll, sliceOf_self]
    rfl

/-- A group operation on members that lie apart: each is combined as it was. -/
theorem binOpMembers_stores {op : UInt8 → UInt8 → UInt8} {qs : List Ptr} {masks : List UInt8}
    (mem : Mem UInt8)
    (hnodup : qs.Nodup) (hapart : qs.Pairwise fun p q => (objs.var p).region.Apart (objs.var q).region)
    (hlen : masks.length = sizeSum objs qs) :
    binOpMembers objs op qs masks mem =
      storeAll mem (stores objs (fun q => (objs.var q).combine op mem (sliceOf objs qs q masks)) qs) := by
  induction qs generalizing masks mem with
  | nil => rfl
  | cons q qs ih =>
    obtain ⟨hmask, hrest⟩ := slice_lengths hlen
    obtain ⟨hnew, hnodup⟩ := List.nodup_cons.mp hnodup
    obtain ⟨hq, hapart⟩ := List.pairwise_cons.mp hapart
    have hslice := (objs.var q).combine_length op mem hmask
    have htail : ∀ q' ∈ qs, (objs.var q').combine op mem (sliceOf objs (q :: qs) q' masks) =
        (objs.var q').combine op ((objs.var q).put mem ((objs.var q).combine op mem
          (masks.take (objs.var q).info.size.toNat)))
            (sliceOf objs qs q' (masks.drop (objs.var q).info.size.toNat)) := by
      intro q' hq'
      have hsame := ((objs.var q).put_agree mem hslice (hq q' hq').symm).load
      rw [sliceOf_of_ne (ne_of_mem_of_not_mem hq' hnew).symm, Var.combine, Var.combine,
        show (objs.var q').bytes ((objs.var q).put mem _) = (objs.var q').bytes mem from hsame]
    rw [binOpMembers, ih _ hnodup hapart hrest, ← stores_congr htail]
    simp only [stores, List.map_cons, storeAll, sliceOf_self]
    rfl

/-- In any order. -/
theorem stores_perm {value : Ptr → List UInt8} {qs qs' : List Ptr} (hperm : qs'.Perm qs)
    (hapart : qs.Pairwise (fun p q => (objs.var p).region.Apart (objs.var q).region))
    (hlen : ∀ q ∈ qs, (value q).length = (objs.var q).info.size.toNat) (mem : Mem UInt8) :
    storeAll mem (stores objs value qs') = storeAll mem (stores objs value qs) := by
  refine (storeAll_perm (hperm.symm.map _) ?_ mem).symm
  rw [List.pairwise_map]
  have hregion : ∀ q ∈ qs, target ((objs.var q).region.base, value q) = (objs.var q).region := by
    intro q hq
    rw [target, hlen q hq]
    rfl
  refine hapart.imp_of_mem ?_
  intro p q hp hq h
  rw [hregion p hp, hregion q hq]
  exact h

end UdcFirmware.Bsmp
