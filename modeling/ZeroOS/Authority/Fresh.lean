import ZeroOS.Kernel.Effect.Lemmas
import ZeroOS.Lib.Counter
import ZeroOS.Lib.Run

/-!
The counters give out fresh values until they wrap.
-/

namespace ZeroOS

open CommitType BTreeMap Run
open KernelView

-- Endpoint ids count from one. Zero is the last of them, after the counter has come round.
structure Numbered (count : Nat) (view : KernelView) : Prop where
  next : view.nextEndpointId.toNat = (count + 1) % 2 ^ 64
  bound : count < 2 ^ 64 → ∀ eid ∈ view.endpoints, 1 ≤ eid.toNat ∧ eid.toNat ≤ count

lemma numbered_iff :
    Numbered count view ↔
      Counter.Counted count view.nextEndpointId (fun eid => eid ∈ view.endpoints) := by
  constructor
  · exact fun hn => ⟨hn.next, hn.bound⟩
  · exact fun hcounted => ⟨hcounted.next, hcounted.bound⟩

lemma Numbered.fresh (hn : Numbered count view) (hc : count < 2 ^ 64) :
    view.nextEndpointId ∉ view.endpoints :=
  (numbered_iff.mp hn).fresh hc

lemma mem_setQueue {view : KernelView} :
    key ∈ (view.setQueue eid queue).endpoints ↔ key ∈ view.endpoints := by
  simp only [mem_iff, setQueue, get_modify]
  by_cases he : eid = key
  · simp [he]
  · simp [he]

lemma Effect.endpointIds (hf : Effect view commits view') :
    (view'.nextEndpointId = view.nextEndpointId ∧ ∀ eid ∈ view'.endpoints, eid ∈ view.endpoints) ∨
      (view'.nextEndpointId = view.nextEndpointId + 1 ∧
        ∀ eid ∈ view'.endpoints, eid = view.nextEndpointId ∨ eid ∈ view.endpoints) := by
  cases hf with
  | Idle | Register | Exit | BurnId | InsertEndpointCap | InsertDerived | Remove =>
    exact .inl ⟨rfl, fun _ h => h⟩
  | Drop =>
    refine .inl ⟨rfl, ?_⟩
    intro eid hm
    simp only [dropProcess, mem_iff, get_filter] at hm ⊢
    obtain ⟨ep, hg⟩ := hm
    exact ⟨ep, Option.eq_some_of_filter_eq_some hg⟩
  | FailEndpoint =>
    refine .inr ⟨rfl, ?_⟩
    intro eid hm
    simp only [burnCapId, failEndpoint, Std.ExtTreeMap.mem_erase] at hm
    exact .inr hm.2
  | OpenEndpoint =>
    refine .inr ⟨rfl, ?_⟩
    intro eid hm
    simp only [burnCapId, addEndpoint, putSpace, mem_iff, get_insert] at hm ⊢
    split_ifs at hm with he
    · exact .inl he.symm
    · exact .inr hm
  | Push | PushCaps | Pop | PopCaps => exact .inl ⟨rfl, fun _ hm => mem_setQueue.mp hm⟩

lemma Numbered.step (hn : Numbered count view) (he : Effect view commits view') :
    Numbered (if view'.nextEndpointId = view.nextEndpointId then count else count + 1) view' := by
  exact numbered_iff.mpr ((numbered_iff.mp hn).step he.endpointIds)

-- A space into which `count` capabilities have been put.
structure CapabilitySpace.Counted (count : Nat) (cspace : CapabilitySpace) : Prop where
  next : cspace.nextSlot.toNat = count % 2 ^ 32
  bound : count < 2 ^ 32 → ∀ slot cap, cspace.get slot = some cap → slot.toNat < count

namespace CapabilitySpace.Counted

variable {count : Nat} {cspace : CapabilitySpace}

lemma fresh (hcounted : cspace.Counted count) (hc : count < 2 ^ 32) :
    cspace.get cspace.nextSlot = none := by
  have hn := hcounted.next
  cases hg : cspace.get cspace.nextSlot with
  | none => rfl
  | some cap =>
    have hb := hcounted.bound hc _ cap hg
    omega

lemma new : CapabilitySpace.new.Counted 0 where
  next := by decide
  bound := by
    intro _ slot cap hg
    simp [CapabilitySpace.new, CapabilitySpace.get] at hg

lemma insert (hcounted : cspace.Counted count) (cap : Capability) :
    (cspace.insert cap).2.Counted (count + 1) where
  next := by
    have hn := hcounted.next
    simp only [CapabilitySpace.insert, UInt32.toNat_add, UInt32.toNat_one]
    omega
  bound := by
    intro hc slot held hg
    rw [get_insert] at hg
    split_ifs at hg with he
    · rw [← he, hcounted.next]
      omega
    · have hb := hcounted.bound (by omega) slot held hg
      omega

lemma shrink {smaller : CapabilitySpace} (hcounted : cspace.Counted count)
    (hn : smaller.nextSlot = cspace.nextSlot)
    (hs : ∀ slot cap, smaller.get slot = some cap → cspace.get slot = some cap) :
    smaller.Counted count where
  next := by rw [hn]; exact hcounted.next
  bound := fun hc slot cap hg => hcounted.bound hc _ cap (hs _ cap hg)

end CapabilitySpace.Counted

lemma CapabilitySpace.nextSlot_takeAll (cspace : CapabilitySpace) {slots : List CapSlot} :
    (cspace.takeAll slots).1.nextSlot = cspace.nextSlot := by
  induction slots generalizing cspace with
  | nil => rfl
  | cons slot _ ih =>
    have hr := ih (cspace.remove slot).2
    unfold takeAll
    cases cspace.get slot with
    | none | some => exact hr

lemma insertsInto_append :
    insertsInto pid (seen ++ commits) = commits.foldl (countInsert pid) (insertsInto pid seen) :=
  List.foldl_append

lemma countInsert_ofInsert (pid into : ProcessId) (count : Nat) (slot : CapSlot) :
    countInsert pid count (.ofInsert into slot cap) =
      if into = pid then count + 1 else count := rfl

lemma foldl_countInsert_of_neutral {commits : List CommitType}
    (hn : ∀ commit ∈ commits, ∀ count, countInsert pid count commit = count) :
    commits.foldl (countInsert pid) count = count := by
  induction commits with
  | nil => rfl
  | cons commit _ ih =>
    rw [List.foldl_cons, hn commit List.mem_cons_self]
    exact ih fun other hm => hn _ (List.mem_cons_of_mem _ hm)

lemma foldl_countInsert_removed (pid fromPid : ProcessId) (taken : List (CapSlot × Capability))
    (count : Nat) :
    (taken.map fun (slot, _) => CommitType.CapRemoved fromPid slot).foldl
      (countInsert pid) count = count := by
  refine foldl_countInsert_of_neutral ?_
  intro commit hm count
  obtain ⟨_, -, rfl⟩ := List.mem_map.mp hm
  rfl

lemma foldl_countInsert_insertAll_ne (hn : into ≠ pid) (slots : List CapSlot)
    (caps : List Capability) (count : Nat) :
    (List.zipWith (ofInsert into) slots caps).foldl (countInsert pid) count =
      count := by
  induction slots generalizing caps with
  | nil => rfl
  | cons _ _ ih =>
    cases caps with
    | nil => rfl
    | cons _ more =>
      rw [List.zipWith_cons_cons, List.foldl_cons, countInsert_ofInsert, if_neg hn]
      exact ih more

lemma CapabilitySpace.Counted.insertAll {cspace : CapabilitySpace}
    (hcounted : cspace.Counted count) (pid : ProcessId) (caps : List Capability) :
    (cspace.insertAll caps).1.Counted
      ((List.zipWith (ofInsert pid) (cspace.insertAll caps).2 caps).foldl
        (countInsert pid) count) := by
  induction caps generalizing cspace count with
  | nil => exact hcounted
  | cons cap _ ih =>
    have hr := ih (hcounted.insert cap)
    simp only [CapabilitySpace.insertAll, List.zipWith_cons_cons, List.foldl_cons,
      countInsert_ofInsert]
    exact hr

def SlotsCounted (commits : List CommitType) (view : KernelView) : Prop :=
  ∀ (pid : ProcessId) (cspace : CapabilitySpace),
    view.capSpaces[pid]? = some cspace → cspace.Counted (insertsInto pid commits)

namespace SlotsCounted

variable {seen commits : List CommitType} {view : KernelView}

section

variable (hcounted : SlotsCounted seen view)

include hcounted

lemma neutral (hc : ∀ (pid : ProcessId) (cspace : CapabilitySpace),
      view'.capSpaces[pid]? = some cspace → view.capSpaces[pid]? = some cspace)
    (hn : ∀ pid, ∀ commit ∈ commits, ∀ count, countInsert pid count commit = count) :
    SlotsCounted (seen ++ commits) view' := by
  intro pid cspace hs
  rw [insertsInto_append, foldl_countInsert_of_neutral (hn pid)]
  exact hcounted pid _ (hc pid _ hs)

lemma putSpace (hn : new.Counted (commits.foldl (countInsert pid) (insertsInto pid seen)))
    (ho : ∀ other, pid ≠ other → ∀ count, commits.foldl (countInsert other) count = count) :
    SlotsCounted (seen ++ commits) (view.putSpace pid new) := by
  intro other cspace hc
  rw [insertsInto_append]
  simp only [KernelView.putSpace, get_insert] at hc
  split_ifs at hc with he
  · subst he
    cases hc
    exact hn
  · rw [ho other he]
    exact hcounted _ _ hc

lemma insert (hc : view.capSpaces[pid]? = some cspace) (slot : CapSlot) (cap : Capability)
    (hn : ∀ other count, commits.foldl (countInsert other) count = count) :
    SlotsCounted (seen ++ (commits ++ [.ofInsert pid slot cap]))
      (view.putSpace pid (cspace.insert cap).2) := by
  refine hcounted.putSpace ?_ ?_
  · simp only [List.foldl_append, hn, List.foldl_cons, countInsert_ofInsert]
    exact (hcounted pid _ hc).insert cap
  · intro other he count
    simp only [List.foldl_append, hn, List.foldl_cons, List.foldl_nil, countInsert_ofInsert,
      he, ite_false]

lemma register (pid parent : ProcessId) (name : String) (nextPid : UInt64) :
    SlotsCounted (seen ++ [.ProcessCreated pid parent name]) (view.addProcess pid name nextPid) := by
  intro other cspace hc
  rw [insertsInto_append]
  simp only [addProcess, get_insert] at hc
  split_ifs at hc with he
  · cases hc
    simp only [List.foldl_cons, countInsert, he]
    exact CapabilitySpace.Counted.new
  · simp only [List.foldl_cons, countInsert, he]
    exact hcounted _ _ hc

lemma step (hf : Effect view commits view') : SlotsCounted (seen ++ commits) view' := by
  have hs : ∀ (pid : ProcessId) (cspace : CapabilitySpace),
      view.capSpaces[pid]? = some cspace → view.capSpaces[pid]? = some cspace := fun _ _ h => h
  cases hf with
  | Idle | BurnId | FailEndpoint | Pop => exact hcounted.neutral hs (by simp)
  | Exit | Push => exact hcounted.neutral hs (by simp [countInsert])
  | Register pid => exact hcounted.register pid _ _ _
  | Drop _ _ _ _ he =>
    refine hcounted.neutral ?_ ?_
    · intro other cspace hc
      simp only [dropProcess, get_erase] at hc
      split_ifs at hc
      exact hc
    · intro other commit hm count
      rcases List.mem_append.mp hm with hn | ho
      · rcases he commit hn with ⟨_, rfl⟩ | ⟨_, _, rfl⟩
        · rfl
        · rfl
      · obtain ⟨eid, -, rfl⟩ := List.mem_map.mp ho
        rfl
  | OpenEndpoint owner _ _ hc =>
    have hp : SlotsCounted seen (view.addEndpoint owner).burnCapId := hcounted
    have hw : ∀ other count, [CommitType.EndpointCreated view.nextEndpointId owner].foldl
        (countInsert other) count = count := fun _ _ => rfl
    exact hp.insert hc _ _ hw
  | InsertEndpointCap _ _ _ _ hc =>
    have hb : SlotsCounted seen view.burnCapId := hcounted
    have hno : ∀ other count, [].foldl (countInsert other) count = count := fun _ _ => rfl
    exact hb.insert hc _ _ hno
  | InsertDerived _ _ _ _ _ hc _ hr =>
    have hb : SlotsCounted seen view.burnCapId := hcounted
    refine hb.insert hc _ _ ?_
    intro other count
    rcases hr with rfl | ⟨_, _, rfl⟩
    · rfl
    · rfl
  | Remove pid _ _ hc =>
    refine hcounted.putSpace ?_ (fun _ _ _ => rfl)
    exact (hcounted pid _ hc).shrink rfl fun _ _ => CapabilitySpace.get_of_get_remove
  | PushCaps _ _ _ _ _ cspace _ _ hc =>
    refine hcounted.putSpace ?_ fun other _ => foldl_countInsert_removed _ _ _
    rw [foldl_countInsert_removed]
    exact (hcounted _ _ hc).shrink cspace.nextSlot_takeAll
      fun _ _ => CapabilitySpace.get_of_get_takeAll
  | PopCaps eid _ msg rest pid _ _ _ hc =>
    have hpo : SlotsCounted seen (view.setQueue eid rest) := hcounted
    refine hpo.putSpace ?_ ?_
    · exact (hcounted pid _ hc).insertAll pid msg.caps
    · exact fun other hne => foldl_countInsert_insertAll_ne hne _ _

end

end SlotsCounted

namespace KernelCore

lemma numbered_run (ops : List (UInt64 × Op)) :
    Numbered (observed exec allocatedEndpointIds new ops).length (run exec new ops).view := by
  refine run_observed_invariant _ (fun _ _ => True) allocatedEndpointIds
    (fun seen kernel => Numbered seen.length kernel.view) ?_
    ⟨by decide, fun _ eid hm => absurd hm (by simp)⟩
    (along_of_forall _ (fun _ _ => trivial) new)
  intro seen kernel timed hn _
  have ht := hn.step (kernel.perform_effect timed.1 timed.2)
  have hl : (seen ++ kernel.allocatedEndpointIds timed).length =
      if (kernel.exec timed).view.nextEndpointId = kernel.view.nextEndpointId
        then seen.length else seen.length + 1 := by
    simp only [allocatedEndpointIds]
    by_cases hs : (kernel.exec timed).nextEndpointId = kernel.nextEndpointId
    · simp [hs]
    · simp [hs]
  rw [hl]
  exact ht

lemma slotsCounted_run :
    SlotsCounted (observed exec commitsOf new ops) (run exec new ops).view := by
  refine run_observed_invariant _ (fun _ _ => True) commitsOf
    (fun seen kernel => SlotsCounted seen kernel.view) ?_ ?_
    (along_of_forall _ (fun _ _ => trivial) new)
  · intro seen kernel timed hcounted _
    exact hcounted.step (kernel.perform_effect ..)
  · intro pid cspace hc
    simp [new] at hc

end KernelCore

end ZeroOS
