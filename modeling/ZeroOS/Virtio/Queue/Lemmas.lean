import Mathlib.Data.List.Nodup
import ZeroOS.Virtio.Queue

/-!
What the operations of a virtqueue do to its descriptor table.
-/

namespace ZeroOS.Virtqueue

open Links False

def descFor (buffer : Buffer) (next : Option UInt16) : VirtqDesc where
  addr := buffer.1
  len := buffer.2.1
  flags := writeFlag buffer.2.2 ||| (if next.isSome then DescFlags.NEXT else 0)
  next := next.getD 0

def Stored (desc : UInt16 → VirtqDesc) : List UInt16 → List Buffer → Prop
  | [], [] => True
  | idx :: rest, buffer :: buffers => desc idx = descFor buffer rest.head? ∧ Stored desc rest buffers
  | _, _ => False

-- Nothing but descriptors and the free list has changed.
structure SameRings (before after : Virtqueue) : Prop where
  size : after.size = before.size
  table : after.descTable.length = before.descTable.length
  lastUsedIdx : after.lastUsedIdx = before.lastUsedIdx
  availIdx : after.availIdx = before.availIdx
  availRing : after.availRing = before.availRing
  usedIdx : after.usedIdx = before.usedIdx
  usedRing : after.usedRing = before.usedRing

lemma SameRings.refl (queue : Virtqueue) : SameRings queue queue := ⟨rfl, rfl, rfl, rfl, rfl, rfl, rfl⟩

lemma SameRings.trans (h : SameRings first second) (h' : SameRings second third) :
    SameRings first third :=
  ⟨h'.size.trans h.size, h'.table.trans h.table, h'.lastUsedIdx.trans h.lastUsedIdx,
    h'.availIdx.trans h.availIdx, h'.availRing.trans h.availRing, h'.usedIdx.trans h.usedIdx,
    h'.usedRing.trans h.usedRing⟩

section Table

variable {queue : Virtqueue} {idx : UInt16}

lemma desc_setDesc (hi : idx.toNat < queue.descTable.length) (value : VirtqDesc) (other : UInt16) :
    (queue.setDesc idx value).desc other = if other = idx then value else queue.desc other := by
  simp only [desc, setDesc]
  by_cases he : other = idx
  · subst he
    simp [hi]
  · have hn : idx.toNat ≠ other.toNat := fun h => he (UInt16.toNat_inj.mp h).symm
    simp [he, hn]

lemma setDesc_desc : queue.setDesc idx (queue.desc idx) = queue := by
  have ht : queue.descTable.set idx.toNat (queue.descTable.getD idx.toNat default) =
      queue.descTable := by
    apply List.ext_getElem?
    grind
  simp only [setDesc, desc, ht]

end Table

section Chains

lemma flags_next :
    (writeFlag writeOnly ||| (if linked then DescFlags.NEXT else 0)) &&& DescFlags.NEXT = 0 ↔
      linked = false := by
  cases writeOnly <;> cases linked <;> decide

lemma flags_write {writeOnly linked : Bool} :
    ((writeFlag writeOnly ||| (if linked then DescFlags.NEXT else 0)) &&& DescFlags.WRITE != 0) =
      writeOnly := by
  cases writeOnly <;> cases linked <;> decide

@[simp] lemma nextIdx_descFor : (descFor buffer next).nextIdx = next := by
  rw [VirtqDesc.nextIdx, descFor]
  simp only [flags_next]
  cases next with
  | none | some => rfl

lemma Stored.congr {desc changed : UInt16 → VirtqDesc} (hstored : Stored desc chain buffers)
    (hs : ∀ idx ∈ chain, changed idx = desc idx) : Stored changed chain buffers := by
  induction chain generalizing buffers with
  | nil =>
    cases buffers with
    | nil => trivial
    | cons => exact elim hstored
  | cons idx _ ih =>
    cases buffers with
    | nil => exact elim hstored
    | cons =>
      refine ⟨?_, ih hstored.2 (fun i hi => hs i (List.mem_cons_of_mem _ hi))⟩
      rw [hs idx List.mem_cons_self]
      exact hstored.1

section

variable {queue : Virtqueue} (hstored : Stored queue.desc chain buffers)

include hstored

lemma Stored.chained : Links.Chained (fun idx => (queue.desc idx).nextIdx) chain := by
  induction chain generalizing buffers with
  | nil => trivial
  | cons idx rest ih =>
    cases buffers with
    | nil => exact elim hstored
    | cons =>
      refine ⟨?_, ih hstored.2⟩
      show (queue.desc idx).nextIdx = rest.head?
      rw [hstored.1, nextIdx_descFor]

lemma Stored.chainFrom (hh : chain.head? = some head)
    (hl : chain.length ≤ queue.size.toNat) : queue.chainFrom head = chain :=
  walk_of_chained hstored.chained hh hl

lemma Stored.readBuffers : chain.map queue.readBuffer = buffers := by
  induction chain generalizing buffers with
  | nil =>
    cases buffers with
    | nil => rfl
    | cons => exact elim hstored
  | cons _ _ ih =>
    cases buffers with
    | nil => exact elim hstored
    | cons =>
      rw [List.map_cons, ih hstored.2, readBuffer, hstored.1]
      simp only [descFor, flags_write]

end

end Chains

section Taking

def takeDesc (queue : Virtqueue) (value : VirtqDesc) : Virtqueue :=
  { queue with
    freeHead := (queue.desc queue.freeHead).next
    numFree := queue.numFree - 1 }.setDesc queue.freeHead value

variable {queue : Virtqueue} {idx : UInt16} {rest : List UInt16}

lemma numFree_of_freeList (hl : queue.freeList = list) : queue.numFree.toNat = list.length := by
  rw [← hl, freeList, length_follow]

lemma freeList_cons (hl : queue.freeList = idx :: rest) :
    queue.freeHead = idx ∧ (queue.numFree - 1).toNat = rest.length ∧
      follow (fun idx => (queue.desc idx).next) rest.length (queue.desc idx).next = rest := by
  have hc := numFree_of_freeList hl
  rw [List.length_cons] at hc
  rw [freeList, hc, follow, List.cons.injEq] at hl
  obtain ⟨hh, ht⟩ := hl
  refine ⟨hh, ?_, ?_⟩
  · have ho : (1 : UInt16) ≤ queue.numFree := by
      rw [UInt16.le_iff_toNat_le, hc]
      exact Nat.le_add_left 1 _
    rw [UInt16.toNat_sub_of_le _ _ ho, hc]
    rfl
  · rw [← hh]
    exact ht

lemma desc_takeDesc (hh : queue.freeHead = idx)
    (hi : idx.toNat < queue.descTable.length) (value : VirtqDesc) (other : UInt16) :
    (queue.takeDesc value).desc other = if other = idx then value else queue.desc other := by
  rw [takeDesc, desc_setDesc (by rw [hh]; exact hi), hh]
  rfl

lemma freeList_takeDesc (hl : queue.freeList = idx :: rest) (hn : idx ∉ rest)
    (hi : idx.toNat < queue.descTable.length) : (queue.takeDesc value).freeList = rest := by
  obtain ⟨hh, hc, hf⟩ := freeList_cons hl
  show follow (fun other => ((queue.takeDesc value).desc other).next)
    (queue.numFree - 1).toNat (queue.desc queue.freeHead).next = rest
  have hs : follow (fun other => ((queue.takeDesc value).desc other).next) rest.length
      (queue.desc idx).next =
      follow (fun other => (queue.desc other).next) rest.length (queue.desc idx).next := by
    apply follow_congr
    intro other ho
    rw [hf] at ho
    have he : other ≠ idx := fun hq => hn (hq ▸ ho)
    rw [desc_takeDesc hh hi, if_neg he]
  rw [hc, hh, hs, hf]

lemma sameRings_takeDesc (queue : Virtqueue) (value : VirtqDesc) :
    SameRings queue (queue.takeDesc value) :=
  ⟨rfl, List.length_set, rfl, rfl, rfl, rfl, rfl⟩

lemma takeDesc_setDesc (queue : Virtqueue) (first second : VirtqDesc) :
    (queue.takeDesc first).setDesc queue.freeHead second = queue.takeDesc second := by
  simp only [takeDesc, setDesc, List.set_set]

lemma linkPrev_of_linked (hp : ∀ prev, prevIdx = some prev →
      (queue.desc prev).flags ||| DescFlags.NEXT = (queue.desc prev).flags ∧
      (queue.desc prev).next = idx) : queue.linkPrev idx prevIdx = queue := by
  cases prevIdx with
  | none => rfl
  | some prev =>
    obtain ⟨hf, hn⟩ := hp prev rfl
    have hd : { queue.desc prev with
        flags := (queue.desc prev).flags ||| DescFlags.NEXT, next := idx } = queue.desc prev := by
      rw [hf, ← hn]
    rw [linkPrev, hd, setDesc_desc]

lemma linkBuffers_cons (hl : queue.freeList = idx :: rest)
    (hi : idx.toNat < queue.descTable.length) (hp : ∀ prev, prevIdx = some prev → prev ≠ idx ∧
      (queue.desc prev).flags ||| DescFlags.NEXT = (queue.desc prev).flags ∧
      (queue.desc prev).next = idx) (buffer : Buffer) (buffers : List Buffer) :
    queue.linkBuffers prevIdx (buffer :: buffers) =
      (queue.takeDesc (descFor buffer
        (if buffers.isEmpty then none else some (queue.desc idx).next))).linkBuffers
          (some idx) buffers := by
  obtain ⟨rfl, -, -⟩ := freeList_cons hl
  let filled : VirtqDesc := { queue.desc queue.freeHead with
    addr := buffer.1, len := buffer.2.1, flags := writeFlag buffer.2.2 }
  have ht := desc_takeDesc rfl hi filled
  have hn : (queue.takeDesc filled).linkPrev queue.freeHead prevIdx = queue.takeDesc filled := by
    apply linkPrev_of_linked
    intro prev he
    obtain ⟨hne, ha⟩ := hp prev he
    rw [ht, if_neg hne]
    exact ha
  have hm : (queue.takeDesc filled).markEnd queue.freeHead (!buffers.isEmpty) =
      queue.takeDesc (descFor buffer
        (if buffers.isEmpty then none else some (queue.desc queue.freeHead).next)) := by
    have hs := takeDesc_setDesc queue filled
    cases buffers with
    | nil =>
      rw [markEnd, ht]
      refine (hs _).trans (congrArg _ ?_)
      simp [descFor, filled]
    | cons =>
      rw [markEnd, ht, if_pos rfl]
      exact hs _
  rw [← hm]
  conv_rhs => rw [← hn]
  rfl

end Taking

section Loops

lemma linkBuffers_spec (hli : queue.freeList = chain ++ rest)
    (hle : chain.length = buffers.length) (hnd : (chain ++ rest).Nodup)
    (hin : ∀ idx ∈ chain, idx.toNat < queue.descTable.length)
    (hpr : ∀ prev, prevIdx = some prev → buffers ≠ [] → prev ∉ chain ∧
      (queue.desc prev).flags ||| DescFlags.NEXT = (queue.desc prev).flags ∧
      (queue.desc prev).next = queue.freeHead) :
    SameRings queue (queue.linkBuffers prevIdx buffers) ∧
      (queue.linkBuffers prevIdx buffers).freeList = rest ∧
      Stored (queue.linkBuffers prevIdx buffers).desc chain buffers ∧
      ∀ idx, idx ∉ chain → (queue.linkBuffers prevIdx buffers).desc idx = queue.desc idx := by
  induction buffers generalizing queue prevIdx chain with
  | nil =>
    obtain rfl : chain = [] := List.eq_nil_of_length_eq_zero hle
    exact ⟨.refl _, hli, trivial, fun idx _ => rfl⟩
  | cons buffer buffers ih =>
    cases chain with
    | nil => simp at hle
    | cons idx later =>
      rw [List.cons_append] at hli hnd
      have hid := hin idx List.mem_cons_self
      obtain ⟨hnw, hnd⟩ := List.nodup_cons.mp hnd
      obtain ⟨hhe, -, hfo⟩ := freeList_cons hli
      have hla : later.length = buffers.length := by simpa using hle
      have hl : ∀ prev, prevIdx = some prev → prev ≠ idx ∧
          (queue.desc prev).flags ||| DescFlags.NEXT = (queue.desc prev).flags ∧
          (queue.desc prev).next = idx := by
        intro prev heq
        obtain ⟨hou, hfl, hnx⟩ := hpr prev heq (List.cons_ne_nil _ _)
        exact ⟨fun h => hou (h ▸ List.mem_cons_self), hfl, hnx.trans hhe⟩
      -- The link that the descriptor keeps is the one to the next descriptor of the chain.
      have hln : (if buffers.isEmpty then none else some (queue.desc idx).next) = later.head? := by
        cases later with
        | nil =>
          have hno : buffers = [] := List.eq_nil_of_length_eq_zero hla.symm
          rw [hno]
          rfl
        | cons =>
          have hso : buffers ≠ [] := by
            rintro rfl
            simp at hla
          rw [List.cons_append, List.length_cons, follow, List.cons.injEq] at hfo
          rw [if_neg (by simpa using hso), hfo.1]
          rfl
      rw [linkBuffers_cons hli hid hl, hln]
      have hta := (sameRings_takeDesc queue (descFor buffer later.head?)).table
      have hde := desc_takeDesc hhe hid (descFor buffer later.head?)
      have hin' : ∀ i ∈ later,
          i.toNat < (queue.takeDesc (descFor buffer later.head?)).descTable.length := by
        intro i hi
        rw [hta]
        exact hin i (List.mem_cons_of_mem _ hi)
      have hpr' : ∀ prev, some idx = some prev → buffers ≠ [] → prev ∉ later ∧
          ((queue.takeDesc (descFor buffer later.head?)).desc prev).flags ||| DescFlags.NEXT =
            ((queue.takeDesc (descFor buffer later.head?)).desc prev).flags ∧
          ((queue.takeDesc (descFor buffer later.head?)).desc prev).next =
            (queue.takeDesc (descFor buffer later.head?)).freeHead := by
        intro prev heq hmo
        obtain rfl : idx = prev := by simpa using heq
        refine ⟨fun h => hnw (List.mem_append_left _ h), ?_⟩
        rw [hde, if_pos rfl]
        have hnx : later.head? = some (queue.desc idx).next := by
          rw [← hln, if_neg (by simpa using hmo)]
        rw [hnx]
        refine ⟨?_, ?_⟩
        · cases buffer.2.2 <;> simp [descFor, UInt16.or_assoc]
        · show (queue.desc idx).next = (queue.desc queue.freeHead).next
          rw [hhe]
      obtain ⟨hri, hfr, hstored, hsa⟩ := ih (freeList_takeDesc hli hnw hid) hla hnd hin' hpr'
      refine ⟨(sameRings_takeDesc _ _).trans hri, hfr, ⟨?_, hstored⟩, ?_⟩
      · rw [hsa idx (fun h => hnw (List.mem_append_left _ h)), hde, if_pos rfl]
      · intro other hot
        obtain ⟨hne, hou⟩ := not_or.mp (fun h => hot (List.mem_cons.mpr h))
        rw [hsa other hou, hde, if_neg hne]

-- A descriptor goes back to the front of the free list.
def giveDesc (queue : Virtqueue) (idx : UInt16) : Virtqueue :=
  { queue.setDesc idx { queue.desc idx with next := queue.freeHead } with
    freeHead := idx
    numFree := queue.numFree + 1 }

lemma giveDesc_spec (hi : idx.toNat < queue.descTable.length) (hw : idx ∉ queue.freeList)
    (hr : queue.freeList.length + 1 < 65536) :
    SameRings queue (queue.giveDesc idx) ∧ (queue.giveDesc idx).freeList = idx :: queue.freeList ∧
      ∀ other, other ≠ idx → (queue.giveDesc idx).desc other = queue.desc other := by
  have hd : ∀ other, (queue.giveDesc idx).desc other =
      if other = idx then { queue.desc idx with next := queue.freeHead } else queue.desc other :=
    desc_setDesc hi _
  have hc : (queue.numFree + 1).toNat = queue.freeList.length + 1 := by
    rw [UInt16.toNat_add, numFree_of_freeList rfl]
    exact Nat.mod_eq_of_lt hr
  refine ⟨⟨rfl, List.length_set, rfl, rfl, rfl, rfl, rfl⟩, ?_, ?_⟩
  · rw [freeList]
    show follow (fun other => ((queue.giveDesc idx).desc other).next)
      (queue.numFree + 1).toNat idx = idx :: queue.freeList
    have hs : follow (fun other => ((queue.giveDesc idx).desc other).next)
        queue.numFree.toNat queue.freeHead = queue.freeList := by
      apply follow_congr
      intro other ho
      have hn : other ≠ idx := fun he => hw (he ▸ ho)
      rw [hd, if_neg hn]
    rw [hc, follow, hd, if_pos rfl, ← numFree_of_freeList rfl, hs]
  · intro other hn
    rw [hd, if_neg hn]

lemma freeDescriptorChain_succ (queue : Virtqueue) (fuel : Nat) :
    queue.freeDescriptorChain (fuel + 1) idx =
      match (queue.desc idx).nextIdx with
      | none => some (queue.giveDesc idx)
      | some after => (queue.giveDesc idx).freeDescriptorChain fuel after := by
  rw [freeDescriptorChain, VirtqDesc.nextIdx]
  by_cases he : (queue.desc idx).flags &&& DescFlags.NEXT = 0
  · simp only [he]
    rfl
  · simp only [he]
    rfl

lemma freeDescriptorChain_spec (hh : chain.head? = some head)
    (hstored : Stored queue.desc chain buffers) (hf : chain.length ≤ fuel)
    (hn : (chain ++ queue.freeList).Nodup) (hin : ∀ idx ∈ chain, idx.toNat < queue.descTable.length)
    (hro : (chain ++ queue.freeList).length < 65536) :
    ∃ after, queue.freeDescriptorChain fuel head = some after ∧ SameRings queue after ∧
      after.freeList = chain.reverse ++ queue.freeList ∧
      ∀ idx, idx ∉ chain → after.desc idx = queue.desc idx := by
  induction chain generalizing queue head fuel buffers with
  | nil => simp at hh
  | cons idx rest ih =>
    obtain rfl : idx = head := by simpa using hh
    cases buffers with
    | nil => exact elim hstored
    | cons _ buffers =>
      cases fuel with
      | zero => simp at hf
      | succ =>
        obtain ⟨hw, hn⟩ := List.nodup_cons.mp hn
        have hfr : idx ∉ queue.freeList := fun h => hw (List.mem_append_right _ h)
        have hu : idx ∉ rest := fun h => hw (List.mem_append_left _ h)
        rw [List.cons_append, List.length_cons, List.length_append] at hro
        obtain ⟨hr, hl, hs⟩ := giveDesc_spec (hin idx List.mem_cons_self) hfr (by omega)
        have hx : (queue.desc idx).nextIdx = rest.head? := by
          rw [hstored.1, nextIdx_descFor]
        rw [freeDescriptorChain_succ, hx]
        cases rest with
        | nil =>
          refine ⟨_, rfl, hr, hl, ?_⟩
          intro other ho
          exact hs _ (fun he => ho (he ▸ List.mem_cons_self))
        | cons after later =>
          have hs' : Stored (queue.giveDesc idx).desc (after :: later) buffers := by
            refine hstored.2.congr ?_
            intro other ho
            exact hs _ (fun he => hu (he ▸ ho))
          have hn' : (after :: later ++ (queue.giveDesc idx).freeList).Nodup := by
            rw [hl]
            exact (List.perm_middle.nodup_iff).mpr (List.nodup_cons.mpr ⟨hw, hn⟩)
          have hi' : ∀ i ∈ after :: later, i.toNat < (queue.giveDesc idx).descTable.length := by
            intro i hi
            rw [hr.table]
            exact hin i (List.mem_cons_of_mem _ hi)
          have hr' : (after :: later ++ (queue.giveDesc idx).freeList).length < 65536 := by
            rw [hl, List.length_append]
            omega
          obtain ⟨done, hd, hri', hl', ha'⟩ := ih rfl hs' (by simpa using hf) hn' hi' hr'
          refine ⟨done, hd, hr.trans hri', ?_, ?_⟩
          · rw [hl', hl]
            simp
          · intro other ho
            obtain ⟨hne, ho'⟩ := not_or.mp (fun h => ho (List.mem_cons.mpr h))
            rw [ha' other ho', hs other hne]

end Loops

end ZeroOS.Virtqueue
