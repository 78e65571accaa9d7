import ZeroOS.Vmm.FrameAllocator

/-!
What each operation of the frame allocator does to the set of free frames, with one
lemma for each operation.
-/

namespace ZeroOS.FrameAllocator

open Bitmap Or

-- Where the frame of an index begins.
def address (allocator : FrameAllocator) (frameIdx : Nat) : Nat :=
  allocator.baseAddr.toNat + frameIdx * 4096

def free (allocator : FrameAllocator) : List Nat := Bitmap.positions allocator.bitmap

structure WellFormed (allocator : FrameAllocator) : Prop where
  length : allocator.bitmap.length = 0 ∨ allocator.bitmap.length = 4096
  counted : allocator.freeFrames = Bitmap.ones allocator.bitmap
  next : allocator.nextFrame ≤ allocator.bitmap.length * 64
  aligned : allocator.bitmap.length ≠ 0 → allocator.baseAddr.toNat % 4096 = 0
  above : allocator.bitmap.length ≠ 0 → 0x100000 ≤ allocator.baseAddr.toNat
  below : allocator.baseAddr.toNat ≤ 2 ^ 63

structure SameRange (before after : FrameAllocator) : Prop where
  length : after.bitmap.length = before.bitmap.length
  base : after.baseAddr = before.baseAddr

lemma SameRange.refl (allocator : FrameAllocator) : SameRange allocator allocator := ⟨rfl, rfl⟩

lemma SameRange.trans (h : SameRange first second) (h' : SameRange second third) :
    SameRange first third :=
  ⟨h'.length.trans h.length, h'.base.trans h.base⟩

lemma SameRange.address (h : SameRange before after) (frameIdx : Nat) :
    after.address frameIdx = before.address frameIdx := by
  rw [FrameAllocator.address, FrameAllocator.address, h.base]

lemma WellFormed.of_sameRange (hwf : before.WellFormed) (hr : SameRange before after)
    (hc : after.freeFrames = ones after.bitmap)
    (hn : after.nextFrame ≤ after.bitmap.length * 64) : after.WellFormed where
  length := hr.length ▸ hwf.length
  counted := hc
  next := hn
  aligned := by rw [hr.length, hr.base]; exact hwf.aligned
  above := by rw [hr.length, hr.base]; exact hwf.above
  below := by rw [hr.base]; exact hwf.below

lemma WellFormed.lt_maxFrames {allocator : FrameAllocator} (hwf : allocator.WellFormed)
    (hm : i ∈ allocator.free) : i < 262144 ∧ allocator.bitmap.length ≠ 0 := by
  have ht := lt_of_member (mem_positions.mp hm)
  have hl := hwf.length
  omega

section Regions

lemma toNat_saturatingSub : (saturatingSub a b).toNat = a.toNat - b.toNat := by
  unfold saturatingSub
  by_cases hl : a < b
  · have hn : a.toNat < b.toNat := UInt64.lt_iff_toNat_lt.mp hl
    rw [if_pos hl, UInt64.toNat_zero]
    omega
  · have he : b ≤ a := UInt64.not_lt.mp hl
    rw [if_neg hl, UInt64.toNat_sub_of_le _ _ he]

lemma toNat_safeStart : (safeStart start).toNat = max start.toNat 0x100000 := by
  unfold safeStart
  by_cases hl : start < 0x100000
  · have hn : start.toNat < 0x100000 := UInt64.lt_iff_toNat_lt.mp hl
    rw [if_pos hl, Nat.max_eq_right (by omega)]
    rfl
  · have hn : 0x100000 ≤ start.toNat := UInt64.le_iff_toNat_le.mp (UInt64.not_lt.mp hl)
    rw [if_neg hl, Nat.max_eq_left hn]

lemma toNat_safeSize : (safeSize start size).toNat = size.toNat - (0x100000 - start.toNat) := by
  unfold safeSize
  by_cases hl : start < 0x100000
  · have hs : (0x100000 - start).toNat = 0x100000 - start.toNat :=
      UInt64.toNat_sub_of_le _ _ (UInt64.le_of_lt hl)
    rw [if_pos hl, toNat_saturatingSub, hs]
  · have hn : 0x100000 ≤ start.toNat := UInt64.le_iff_toNat_le.mp (UInt64.not_lt.mp hl)
    rw [if_neg hl]
    omega

lemma toNat_alignedStart (ht : start.toNat ≤ 2 ^ 63) :
    (alignedStart start).toNat = (max start.toNat 0x100000 + 4095) / 4096 * 4096 := by
  have ha : (safeStart start + pageSize - 1).toNat = max start.toNat 0x100000 + 4095 := by
    have hs : (safeStart start + pageSize).toNat = max start.toNat 0x100000 + 4096 := by
      rw [UInt64.toNat_add, toNat_safeStart]
      exact Nat.mod_eq_of_lt (by simp only [pageSize, UInt64.reduceToNat]; omega)
    have ho : (1 : UInt64) ≤ safeStart start + pageSize := by
      rw [UInt64.le_iff_toNat_le, hs]
      simp
    rw [UInt64.toNat_sub_of_le _ _ ho, hs]
    rfl
  rw [alignedStart, alignDown_toNat, ha]

lemma region_covers (hr : start.toNat + size.toNat ≤ 2 ^ 63) (hk : k < numFrames start size) :
    start.toNat ≤ (alignedStart start).toNat + k * 4096 ∧
      (alignedStart start).toNat + k * 4096 + 4096 ≤ start.toNat + size.toNat := by
  have hb : start.toNat ≤ 2 ^ 63 := by omega
  have hs := toNat_alignedStart hb
  have hl : safeStart start ≤ alignedStart start := by
    rw [UInt64.le_iff_toNat_le, toNat_safeStart]
    omega
  rw [numFrames, UInt64.toNat_div, toNat_saturatingSub, UInt64.toNat_sub_of_le _ _ hl,
    toNat_safeSize, toNat_safeStart] at hk
  have hp : pageSize.toNat = 4096 := rfl
  rw [hp] at hk
  omega

end Regions

section Bits

lemma ones_set (hl : i < words.length * 64) (ho : member words i = false) :
    (positions (set words (i / 64) (i % 64))).Perm (i :: positions words) := by
  refine positions_perm_cons ho ?_
  intro j
  rw [member_set (by omega) (by omega)]
  have hi : i / 64 * 64 + i % 64 = i := by omega
  rw [hi]

lemma markFree_spec (allocator : FrameAllocator) (i : Nat) (hwf : allocator.WellFormed) :
    (allocator.markFree i).WellFormed ∧ SameRange allocator (allocator.markFree i) ∧
      ∀ j ∈ (allocator.markFree i).free, j ∈ allocator.free ∨ j = i := by
  unfold markFree
  by_cases hw : i / 64 < allocator.bitmap.length
  · by_cases ho : test allocator.bitmap (i / 64) (i % 64) = false
    · rw [if_pos hw, if_pos ho]
      have hp := ones_set (by omega) ho
      have hr : SameRange allocator
          { allocator with
            bitmap := set allocator.bitmap (i / 64) (i % 64)
            totalFrames := allocator.totalFrames + 1
            freeFrames := allocator.freeFrames + 1 } := ⟨length_set .., rfl⟩
      refine ⟨hwf.of_sameRange hr ?_ ?_, hr, ?_⟩
      · rw [hwf.counted]
        exact hp.length_eq.symm
      · rw [hr.length]
        exact hwf.next
      · intro j hj
        rcases List.mem_cons.mp (hp.mem_iff.mp hj) with rfl | hl
        · exact inr rfl
        · exact inl hl
    · rw [if_pos hw, if_neg ho]
      exact ⟨hwf, .refl _, fun j hj => inl hj⟩
  · rw [if_neg hw]
    exact ⟨hwf, .refl _, fun j hj => inl hj⟩

lemma foldl_markFree_spec (frames : List Nat) (allocator : FrameAllocator)
    (hwf : allocator.WellFormed) :
    (frames.foldl markFree allocator).WellFormed ∧
      SameRange allocator (frames.foldl markFree allocator) ∧
      ∀ j ∈ (frames.foldl markFree allocator).free, j ∈ allocator.free ∨ j ∈ frames := by
  induction frames generalizing allocator with
  | nil => exact ⟨hwf, .refl _, fun j hj => inl hj⟩
  | cons i _ ih =>
    obtain ⟨hm, hr, hf⟩ := markFree_spec allocator i hwf
    obtain ⟨he, hr', hf'⟩ := ih (allocator.markFree i) hm
    refine ⟨he, hr.trans hr', ?_⟩
    intro j hj
    rcases hf' j hj with ho | hl
    · rcases hf j ho with hd | rfl
      · exact inl hd
      · exact inr List.mem_cons_self
    · exact inr (List.mem_cons_of_mem _ hl)

lemma release_spec (hwf : allocator.WellFormed) (hl : i < allocator.bitmap.length * 64)
    (hu : i ∉ allocator.free) :
    (allocator.release i).WellFormed ∧ SameRange allocator (allocator.release i) ∧
      (allocator.release i).free.Perm (i :: allocator.free) := by
  have ho : member allocator.bitmap i = false := by
    rw [← Bool.not_eq_true]
    exact fun hn => hu (mem_positions.mpr hn)
  have hw : i / 64 < allocator.bitmap.length := by omega
  have he : allocator.release i =
      { allocator with
        bitmap := set allocator.bitmap (i / 64) (i % 64)
        freeFrames := allocator.freeFrames + 1 } := if_pos ⟨hw, ho⟩
  have hp := ones_set hl ho
  have hr : SameRange allocator (allocator.release i) := by
    rw [he]
    exact ⟨length_set .., rfl⟩
  refine ⟨hwf.of_sameRange hr ?_ ?_, hr, ?_⟩
  · rw [he]
    exact (congrArg (· + 1) hwf.counted).trans hp.length_eq.symm
  · rw [hr.length, he]
    exact hwf.next
  · rw [he]
    exact hp

lemma foldl_release_spec {frames : List Nat} (hwf : allocator.WellFormed) (hn : frames.Nodup)
    (hl : ∀ i ∈ frames, i < allocator.bitmap.length * 64) (hu : ∀ i ∈ frames, i ∉ allocator.free) :
    (frames.foldl release allocator).WellFormed ∧
      SameRange allocator (frames.foldl release allocator) ∧
      (frames.foldl release allocator).free.Perm (frames ++ allocator.free) := by
  induction frames generalizing allocator with
  | nil => exact ⟨hwf, .refl _, List.Perm.refl _⟩
  | cons i rest ih =>
    obtain ⟨he, hn⟩ := List.nodup_cons.mp hn
    obtain ⟨ho, hr, hf⟩ := release_spec hwf (hl i List.mem_cons_self) (hu i List.mem_cons_self)
    have hs : ∀ j ∈ rest, j ∉ (allocator.release i).free := by
      intro j hj hm
      rcases List.mem_cons.mp (hf.mem_iff.mp hm) with rfl | hd
      · exact he hj
      · exact hu j (List.mem_cons_of_mem _ hj) hd
    have hb : ∀ j ∈ rest, j < (allocator.release i).bitmap.length * 64 := by
      intro j hj
      rw [hr.length]
      exact hl j (List.mem_cons_of_mem _ hj)
    obtain ⟨hre, hr', hf'⟩ := ih ho hn hb hs
    refine ⟨hre, hr.trans hr', hf'.trans ?_⟩
    exact (hf.append_left _).trans List.perm_middle

end Bits

section Frames

lemma toNat_address {allocator : FrameAllocator} (hb : allocator.baseAddr.toNat ≤ 2 ^ 63)
    (hi : i < 262144) :
    (allocator.baseAddr + UInt64.ofNat i * pageSize).toNat = allocator.address i := by
  have ho : (UInt64.ofNat i * pageSize).toNat = i * 4096 := by
    rw [UInt64.toNat_mul, UInt64.toNat_ofNat', Nat.mod_eq_of_lt (a := i) (by omega)]
    exact Nat.mod_eq_of_lt (by simp only [pageSize, UInt64.reduceToNat]; omega)
  rw [UInt64.toNat_add, ho]
  exact Nat.mod_eq_of_lt (by omega)

lemma frameAt_spec {x86 : X86} {allocator : FrameAllocator} (hx : x86.Lawful limit)
    (hb : allocator.baseAddr.toNat ≤ 2 ^ 63) (hl : allocator.baseAddr.toNat % 4096 = 0)
    (hi : i < 262144) :
    (∃ frame, allocator.frameAt x86 i = .ok frame ∧
        (x86.startAddress frame).toNat = allocator.address i) ∨
      (∃ panic, allocator.frameAt x86 i = .error panic) ∧ limit ≤ allocator.address i := by
  have ha := toNat_address hb hi
  unfold frameAt
  by_cases hv : (allocator.baseAddr + UInt64.ofNat i * pageSize).toNat < limit
  · obtain ⟨physAddr, hn, hs⟩ := hx.new_below _ hv
    refine inl ⟨x86.containingAddress physAddr, ?_, ?_⟩
    · rw [hn]
      rfl
    · rw [hs, ha, address]
      omega
  · obtain ⟨panic, hp⟩ := hx.new_above _ (Nat.le_of_not_lt hv)
    refine inr ⟨⟨panic, ?_⟩, by omega⟩
    rw [hp]
    rfl

lemma index_of_address {allocator : FrameAllocator} {addr : UInt64}
    (ha : addr.toNat = allocator.address i) :
    ¬ addr < allocator.baseAddr ∧ ((addr - allocator.baseAddr) / pageSize).toNat = i := by
  have hl : allocator.baseAddr ≤ addr := by
    rw [UInt64.le_iff_toNat_le, ha, address]
    omega
  refine ⟨UInt64.not_lt.mpr hl, ?_⟩
  have hp : pageSize.toNat = 4096 := rfl
  rw [UInt64.toNat_div, UInt64.toNat_sub_of_le _ _ hl, ha, address, hp]
  omega

end Frames

-- Whether `count` consecutive frames from the given one are free.
def IsRun (allocator : FrameAllocator) (start count : Nat) : Prop :=
  ∀ k < count, start + k ∈ allocator.free

-- What an allocation of `count` frames can come to.
inductive Allocated (x86 : X86) (limit : Nat) (allocator : FrameAllocator) (count : Nat) :
    Except Panic (FrameAllocator × Option x86.PhysFrame) → Prop
  | Refused (hnone : count = 0 ∨ ¬ ∃ start, allocator.IsRun start count) :
      Allocated x86 limit allocator count (.ok (allocator, none))
  | Taken (start : Nat) (after : FrameAllocator) (frame : x86.PhysFrame) (hcount : 0 < count)
      (hwf : after.WellFormed) (hrange : SameRange allocator after)
      (hfree : allocator.free.Perm (List.range' start count ++ after.free))
      (hframe : (x86.startAddress frame).toNat = allocator.address start) :
      Allocated x86 limit allocator count (.ok (after, some frame))
  | Panicked (panic : Panic) (start : Nat) (hrun : allocator.IsRun start count)
      (hcount : 0 < count) (hlimit : limit ≤ allocator.address start) :
      Allocated x86 limit allocator count (.error panic)

section Allocation

variable {x86 : X86} {limit : Nat}

lemma allocated_of_taken (hx : x86.Lawful limit) (hwf : allocator.WellFormed) (hc : 0 < count)
    (hr : SameRange allocator after)
    (he : allocator.free.Perm (List.range' start count ++ after.free))
    (hco : after.freeFrames = allocator.freeFrames - count)
    (hn : after.nextFrame ≤ after.bitmap.length * 64) :
    Allocated x86 limit allocator count
      ((allocator.frameAt x86 start).map (fun frame => (after, some frame))) := by
  have hd : allocator.IsRun start count := by
    intro k hk
    refine he.mem_iff.mpr (List.mem_append_left _ ?_)
    exact List.mem_range'_1.mpr ⟨by omega, by omega⟩
  have hf : start ∈ allocator.free := hd 0 hc
  obtain ⟨hl, hs⟩ := hwf.lt_maxFrames hf
  have ho : after.freeFrames = ones after.bitmap := by
    have hb : allocator.freeFrames = allocator.free.length := hwf.counted
    have hu := he.length_eq
    rw [List.length_append, List.length_range'] at hu
    show after.freeFrames = after.free.length
    omega
  rcases frameAt_spec hx hwf.below (hwf.aligned hs) hl with
    ⟨frame, hm, ha⟩ | ⟨⟨panic, hp⟩, hi⟩
  · rw [hm]
    exact .Taken start after frame hc (hwf.of_sameRange hr ho hn) hr he ha
  · rw [hp]
    exact .Panicked panic start hd hc hi

lemma takeLowest_spec (hx : x86.Lawful limit) (hwf : allocator.WellFormed)
    (hn : allocator.bitmap.getD wordIdx 0 ≠ 0) :
    Allocated x86 limit allocator 1 (allocator.takeLowest x86 wordIdx) := by
  have hb := (trailingZeros_spec hn).1
  have ho := member_trailingZeros hn
  unfold takeLowest
  dsimp only
  generalize hi : wordIdx * 64 + trailingZeros (allocator.bitmap.getD wordIdx 0) = i at ho ⊢
  have hbo := lt_of_member ho
  have hw : wordIdx < allocator.bitmap.length := by omega
  have hm := member_clear hw hb
  rw [hi] at hm
  refine allocated_of_taken hx hwf (by decide) ⟨length_clear .., rfl⟩ ?_ rfl ?_
  · -- The bit that was cleared is the one position less.
    refine positions_perm_cons ?_ ?_
    · rw [← Bool.not_eq_true, hm]
      simp
    · intro j
      rw [hm]
      by_cases he : j = i
      · simp [he, ho]
      · simp [he]
  · show i + 1 ≤ (clear allocator.bitmap wordIdx _).length * 64
    rw [length_clear]
    exact hbo

lemma not_exists_run_one {allocator : FrameAllocator} (he : allocator.free = [])
    (hc : 0 < count) : ¬ ∃ start, allocator.IsRun start count := by
  rintro ⟨start, hr⟩
  have hm := hr 0 hc
  rw [he] at hm
  exact List.not_mem_nil hm

lemma allocateFrame_spec (hx : x86.Lawful limit) (hwf : allocator.WellFormed) :
    Allocated x86 limit allocator 1 (allocator.allocateFrame x86) := by
  unfold allocateFrame
  dsimp only
  split
  case isTrue hz =>
      have he : allocator.free = [] := List.eq_nil_of_length_eq_zero (hwf.counted.symm.trans hz)
      exact .Refused (inr (not_exists_run_one he (by decide)))
  case isFalse hs =>
      split
      case h_1 wordIdx hf =>
          have hn : allocator.bitmap.getD wordIdx 0 ≠ 0 := by simpa using List.find?_some hf
          exact takeLowest_spec hx hwf hn
      case h_2 hl =>
          split
          case h_1 wordIdx hf =>
              have hn : allocator.bitmap.getD wordIdx 0 ≠ 0 := by simpa using List.find?_some hf
              exact takeLowest_spec hx hwf hn
          case h_2 ha =>
              -- No word of either part has a bit, so no frame is free.
              refine .Refused (inr (not_exists_run_one ?_ (by decide)))
              rw [List.eq_nil_iff_forall_not_mem]
              intro i hi
              have ho := mem_positions.mp hi
              have ht := lt_of_member ho
              have hn := word_ne_zero_of_member ho
              by_cases hp : i / 64 < allocator.nextFrame / 64
              · have hw := List.find?_eq_none.mp ha (i / 64)
                  (List.mem_range'_1.mpr ⟨by omega, by omega⟩)
                exact hn (by simpa using hw)
              · have hw := List.find?_eq_none.mp hl (i / 64)
                  (List.mem_range'_1.mpr ⟨by omega, by omega⟩)
                exact hn (by simpa using hw)

-- The loop keeps the longest run of free frames that ends where it is, and has passed no run
-- of the wanted length.
lemma findRun_spec {bitmap : List UInt64}
    (hle : frameIdx + left = bitmap.length * 64) (hlo : consecutive ≤ frameIdx)
    (hsh : consecutive < count)
    (hst : startFrame = if consecutive = 0 then none else some (frameIdx - consecutive))
    (hr : ∀ k < consecutive, member bitmap (frameIdx - consecutive + k) = true)
    (hed : consecutive = frameIdx ∨ member bitmap (frameIdx - consecutive - 1) = false)
    (hpa : ∀ s, s + count ≤ frameIdx → ∃ k < count, member bitmap (s + k) = false) :
    match findRun bitmap count left frameIdx startFrame consecutive with
    | some start => ∀ k < count, member bitmap (start + k) = true
    | none => ∀ s, s + count ≤ bitmap.length * 64 →
        ∃ k < count, member bitmap (s + k) = false := by
  induction left generalizing frameIdx consecutive startFrame with
  | zero =>
    intro s hs
    exact hpa s (by omega)
  | succ _ ih =>
    have hwo : ¬ frameIdx / 64 ≥ bitmap.length := by omega
    simp only [findRun, if_neg hwo]
    by_cases hon : test bitmap (frameIdx / 64) (frameIdx % 64) = true
    · rw [if_pos hon]
      have hbe : startFrame.getD frameIdx = frameIdx - consecutive := by
        rw [hst]
        by_cases hze : consecutive = 0
        · simp [hze]
        · simp [hze]
      have hmo : ∀ k < consecutive + 1, member bitmap (frameIdx - consecutive + k) = true := by
        intro k hk
        by_cases hla : k = consecutive
        · have hth : frameIdx - consecutive + k = frameIdx := by omega
          rw [hth]
          exact hon
        · exact hr k (by omega)
      rw [hbe]
      by_cases hdo : consecutive + 1 = count
      · rw [if_pos hdo]
        rw [← hdo]
        exact hmo
      · rw [if_neg hdo]
        have hba : frameIdx + 1 - (consecutive + 1) = frameIdx - consecutive := by omega
        refine ih (by omega) (by omega) (by omega) ?_ ?_ ?_ ?_
        · rw [hba]
          simp
        · rw [hba]
          exact hmo
        · rw [hba]
          rcases hed with ha | hed
          · exact inl (by omega)
          · exact inr hed
        · intro s hs
          by_cases hea : s + count ≤ frameIdx
          · exact hpa s hea
          · -- A run that ends here would reach over the frame before the current run.
            rcases hed with ha | hed
            · omega
            · refine ⟨frameIdx - consecutive - 1 - s, by omega, ?_⟩
              have hth : s + (frameIdx - consecutive - 1 - s) = frameIdx - consecutive - 1 := by
                omega
              rw [hth]
              exact hed
    · rw [if_neg hon]
      have hof : member bitmap frameIdx = false := Bool.eq_false_iff.mpr hon
      refine ih (by omega) (by omega) (by omega) rfl ?_ ?_ ?_
      · intro k hk
        omega
      · exact inr (by simpa using hof)
      · intro s hs
        by_cases hea : s + count ≤ frameIdx
        · exact hpa s hea
        · refine ⟨frameIdx - s, by omega, ?_⟩
          have hth : s + (frameIdx - s) = frameIdx := by omega
          rw [hth]
          exact hof

lemma findRun_all (bitmap : List UInt64) (hc : 0 < count) :
    match findRun bitmap count (bitmap.length * 64) 0 none 0 with
    | some start => ∀ k < count, member bitmap (start + k) = true
    | none => ∀ s, s + count ≤ bitmap.length * 64 →
        ∃ k < count, member bitmap (s + k) = false :=
  findRun_spec (by omega) (by omega) hc rfl (by omega) (inl rfl) (by omega)

lemma foldl_clearFrame_spec {frames : List Nat} {bitmap : List UInt64}
    (hl : ∀ i ∈ frames, i < bitmap.length * 64) :
    (frames.foldl clearFrame bitmap).length = bitmap.length ∧
      ∀ j, member (frames.foldl clearFrame bitmap) j = true ↔
        j ∉ frames ∧ member bitmap j = true := by
  induction frames generalizing bitmap with
  | nil => simp
  | cons i rest ih =>
    have hi := hl i List.mem_cons_self
    have hc : ∀ j, member (clearFrame bitmap i) j = true ↔ j ≠ i ∧ member bitmap j = true := by
      intro j
      rw [clearFrame, member_clear (by omega) (by omega)]
      have hd : i / 64 * 64 + i % 64 = i := by omega
      rw [hd]
    have he : (clearFrame bitmap i).length = bitmap.length := length_clear ..
    have hb : ∀ j ∈ rest, j < (clearFrame bitmap i).length * 64 := by
      intro j hj
      rw [he]
      exact hl j (List.mem_cons_of_mem _ hj)
    obtain ⟨hn, hm⟩ := ih hb
    refine ⟨hn.trans he, ?_⟩
    intro j
    rw [List.foldl_cons, hm, hc, List.mem_cons]
    tauto

lemma takeRun_spec (hx : x86.Lawful limit) (hwf : allocator.WellFormed) (hc : 0 < count)
    (hr : allocator.IsRun start count) :
    Allocated x86 limit allocator count ((allocator.frameAt x86 start).map (fun frame =>
      ({ allocator with
          bitmap := (List.range' start count).foldl clearFrame allocator.bitmap
          freeFrames := allocator.freeFrames - count }, some frame))) := by
  have hmm : ∀ i ∈ List.range' start count, i ∈ allocator.free := by
    intro i hi
    obtain ⟨k, hk, rfl⟩ := List.mem_range'.mp hi
    simpa using hr k hk
  obtain ⟨hl, hm⟩ := foldl_clearFrame_spec (fun i hi => lt_of_member (mem_positions.mp (hmm i hi)))
  generalize (List.range' start count).foldl clearFrame allocator.bitmap = cleared at hl hm ⊢
  have hn : (List.range' start count ++ positions cleared).Nodup := by
    refine List.nodup_append.mpr ⟨List.nodup_range', nodup_positions, ?_⟩
    rintro i hi j hj rfl
    exact ((hm i).mp (mem_positions.mp hj)).1 hi
  refine allocated_of_taken hx hwf hc ⟨hl, rfl⟩ ?_ rfl ?_
  · refine (List.perm_ext_iff_of_nodup nodup_positions hn).mpr ?_
    intro i
    rw [List.mem_append, mem_positions, mem_positions, hm]
    have hin : i ∈ List.range' start count → member allocator.bitmap i = true :=
      fun hi => mem_positions.mp (hmm i hi)
    tauto
  · rw [hl]
    exact hwf.next

lemma allocateFrames_spec (hx : x86.Lawful limit) (hwf : allocator.WellFormed) :
    Allocated x86 limit allocator count (allocator.allocateFrames x86 count) := by
  unfold allocateFrames
  split
  case isTrue he =>
      refine .Refused ?_
      rcases he with hz | hm
      · exact inl hz
      · -- A run is made of free _, and there are fewer of them.
        right
        rintro ⟨start, hr⟩
        have hu : List.range' start count ⊆ allocator.free := by
          intro i hi
          obtain ⟨k, hk, rfl⟩ := List.mem_range'.mp hi
          simpa using hr k hk
        have hl := (List.subperm_of_subset List.nodup_range' hu).length_le
        rw [List.length_range'] at hl
        have hc : allocator.freeFrames = allocator.free.length := hwf.counted
        omega
  case isFalse hgo =>
      obtain ⟨hp, -⟩ := not_or.mp hgo
      split
      case isTrue ho =>
          subst ho
          exact allocateFrame_spec hx hwf
      case isFalse hm =>
          have hs := findRun_all allocator.bitmap (Nat.pos_of_ne_zero hp)
          split
          case h_1 start hg =>
              rw [hg] at hs
              have hr : allocator.IsRun start count := fun k hk => mem_positions.mpr (hs k hk)
              exact takeRun_spec hx hwf (Nat.pos_of_ne_zero hp) hr
          case h_2 hg =>
              rw [hg] at hs
              refine .Refused (inr ?_)
              rintro ⟨start, hr⟩
              have ha := hr (count - 1) (by omega)
              have ht := lt_of_member (mem_positions.mp ha)
              obtain ⟨k, hk, hf⟩ := hs start (by omega)
              have hn := mem_positions.mp (hr k hk)
              rw [hf] at hn
              exact Bool.false_ne_true hn

end Allocation

end ZeroOS.FrameAllocator
