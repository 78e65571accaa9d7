import ZeroOS.Kernel.Effect.Lemmas
import ZeroOS.Lib.MapSum
import ZeroOS.Lib.Run

/-!
Capabilities are linear.
-/

namespace ZeroOS

open BTreeMap Run UInt64 Permissions CommitType CapabilitySpace

namespace CapabilitySpace

variable (cspace : CapabilitySpace)

def ids : Multiset UInt64 :=
  BTreeMap.sum cspace.slots fun cap => {cap.id}

lemma ids_insert_le (cap : Capability) : (cspace.insert cap).2.ids ≤ {cap.id} + cspace.ids :=
  sum_insert_le _ _ _ _

lemma ids_remove_le : (cspace.remove slot).2.ids ≤ cspace.ids := sum_erase_le _ _

lemma ids_of_get {cspace : CapabilitySpace} (hg : cspace.get slot = some cap) :
    cspace.ids = {cap.id} + (cspace.remove slot).2.ids :=
  sum_of_get _ hg

-- What is taken and what is left are no more than what was there, even when a slot is named
-- more than once.
lemma ids_takeAll_le (slots : List CapSlot) :
    (cspace.takeAll slots).1.ids + ((cspace.takeAll slots).2.map fun moved => moved.2.id :
      List UInt64) ≤ cspace.ids := by
  induction slots generalizing cspace with
  | nil => simp [takeAll]
  | cons slot _ ih =>
    have hr := ih (cspace.remove slot).2
    unfold takeAll
    cases hg : cspace.get slot with
    | none => exact hr.trans cspace.ids_remove_le
    | some =>
      rw [ids_of_get hg]
      simp only [List.map_cons, ← Multiset.cons_coe, Multiset.add_cons]
      exact Multiset.cons_le_cons _ hr

lemma ids_insertAll_le (caps : List Capability) :
    (cspace.insertAll caps).1.ids ≤ (caps.map Capability.id : List UInt64) + cspace.ids := by
  induction caps generalizing cspace with
  | nil => simp [insertAll]
  | cons cap rest ih =>
    have hr := ih (cspace.insert cap).2
    have hf := Multiset.add_le_add_left (cspace.ids_insert_le cap)
      (s := (rest.map Capability.id : List UInt64))
    refine hr.trans (hf.trans (le_of_eq ?_))
    simp only [List.map_cons, ← Multiset.cons_coe, Multiset.cons_add, Multiset.singleton_add,
      Multiset.add_cons]

end CapabilitySpace

def Message.ids (msg : Message) : Multiset UInt64 := (msg.caps.map Capability.id : List UInt64)

def queueIds (queue : List Message) : Multiset UInt64 := (queue.map Message.ids).sum

lemma queueIds_concat : queueIds (queue ++ [msg]) = queueIds queue + msg.ids := by
  simp [queueIds]

lemma queueIds_cons : queueIds (msg :: rest) = msg.ids + queueIds rest := by
  simp [queueIds]

lemma mem_queueIds {id : UInt64} : id ∈ queueIds queue ↔ ∃ msg ∈ queue, id ∈ msg.ids := by
  induction queue with
  | nil => simp [queueIds]
  | cons _ _ ih => simp [queueIds_cons, ih]

namespace KernelView

variable (view : KernelView)

-- The ids in the slots of all spaces, each as often as it occurs.
def spaceIds : Multiset UInt64 := BTreeMap.sum view.capSpaces CapabilitySpace.ids

def queuedIds : Multiset UInt64 :=
  BTreeMap.sum view.endpoints fun endpoint => queueIds endpoint.queue

def capIds : Multiset UInt64 := view.spaceIds + view.queuedIds

variable {view}

lemma id_mem_spaceIds (h : view.InSpace cap) : cap.id ∈ view.spaceIds := by
  obtain ⟨pid, slot, hh⟩ := h
  obtain ⟨cspace, hc, hg⟩ := CapSpaces.capAt_eq_some_iff.mp hh
  refine (mem_sum ..).mpr ⟨pid, cspace, hc, ?_⟩
  exact (mem_sum ..).mpr ⟨slot, cap, hg, Multiset.mem_singleton_self _⟩

lemma id_mem_queuedIds (h : view.Queued cap) : cap.id ∈ view.queuedIds := by
  obtain ⟨eid, ep, msg, hg, hm, hc⟩ := h
  refine (mem_sum ..).mpr ⟨eid, ep, hg, ?_⟩
  exact mem_queueIds.mpr ⟨msg, hm, Multiset.mem_coe.mpr (List.mem_map_of_mem hc)⟩

lemma capIds_putSpace (new : CapabilitySpace) (hc : view.capSpaces[pid]? = some cspace) :
    (view.putSpace pid new).capIds + cspace.ids = view.capIds + new.ids := by
  have hs := sum_insert_add view.capSpaces ids hc new
  simp only [capIds, spaceIds, queuedIds, putSpace]
  rw [add_right_comm, hs, add_right_comm]

lemma capIds_setQueue (queue : List Message) (hg : view.endpoints[eid]? = some ep) :
    (view.setQueue eid queue).capIds + queueIds ep.queue = view.capIds + queueIds queue := by
  have hs := sum_modify_add view.endpoints
    (fun ep : EndpointView => queueIds ep.queue) hg fun ep =>
      { ep with queue }
  simp only [capIds, spaceIds, queuedIds, setQueue]
  rw [add_assoc, hs, add_assoc]

lemma capIds_insert_le (cap : Capability) (hc : view.capSpaces[pid]? = some cspace) :
    (view.putSpace pid (cspace.insert cap).2).capIds ≤ {cap.id} + view.capIds := by
  have hp := capIds_putSpace (cspace.insert cap).2 hc
  have hi := cspace.ids_insert_le cap
  refine le_of_add_le_add_right (a := cspace.ids) ?_
  calc (view.putSpace pid (cspace.insert cap).2).capIds + cspace.ids
      = view.capIds + (cspace.insert cap).2.ids := hp
    _ ≤ view.capIds + ({cap.id} + cspace.ids) := add_le_add_right hi _
    _ = {cap.id} + view.capIds + cspace.ids := by ac_rfl

lemma capIds_shrink_le (hc : view.capSpaces[pid]? = some cspace)
    (hl : smaller.ids ≤ cspace.ids) : (view.putSpace pid smaller).capIds ≤ view.capIds := by
  have hp := capIds_putSpace smaller hc
  refine le_of_add_le_add_right (a := cspace.ids) ?_
  rw [hp]
  exact add_le_add_right hl _

section

variable {eid : EndpointId} (hg : view.endpoints[eid]? = some ep)

include hg

lemma capIds_pop (hq : ep.queue = msg :: rest) :
    (view.setQueue eid rest).capIds + msg.ids = view.capIds := by
  have hs := capIds_setQueue rest hg
  rw [hq, queueIds_cons, ← add_assoc] at hs
  exact add_right_cancel hs

lemma capIds_push :
    (view.setQueue eid (ep.queue ++ [⟨fromPid, tag, data, []⟩])).capIds = view.capIds := by
  have hs := capIds_setQueue (ep.queue ++ [⟨fromPid, tag, data, []⟩]) hg
  have hn : Message.ids ⟨fromPid, tag, data, []⟩ = 0 := rfl
  rw [queueIds_concat, hn, add_zero] at hs
  exact add_right_cancel hs

lemma capIds_pushCaps_le (hc : view.capSpaces[fromPid]? = some cspace) {slots : List CapSlot} :
    ((view.putSpace fromPid (cspace.takeAll slots).1).setQueue eid (ep.queue ++
      [⟨fromPid, tag, data, inFlight (cspace.takeAll slots).2⟩])).capIds ≤ view.capIds := by
  let msg : Message := ⟨fromPid, tag, data, inFlight (cspace.takeAll slots).2⟩
  have hs := @capIds_setQueue (view.putSpace fromPid (cspace.takeAll slots).1) eid ep
    (ep.queue ++ [msg]) hg
  have hp := capIds_putSpace (cspace.takeAll slots).1 hc
  have ht := cspace.ids_takeAll_le slots
  have hm : msg.ids = ((cspace.takeAll slots).2.map fun moved => moved.2.id : List UInt64) := by
    simp [msg, Message.ids, Message.caps, Function.comp_def]
  rw [queueIds_concat, add_comm (queueIds _), ← add_assoc] at hs
  have hs := add_right_cancel hs
  refine le_of_add_le_add_right (a := cspace.ids) ?_
  rw [hs, hm, add_right_comm, hp, add_assoc]
  exact add_le_add_right ht _

lemma capIds_popCaps_le (hq : ep.queue = msg :: rest) (hc : view.capSpaces[pid]? = some cspace) :
    ((view.setQueue eid rest).putSpace pid (cspace.insertAll msg.caps).1).capIds ≤ view.capIds := by
  have hp := capIds_pop hg hq
  have hu := @capIds_putSpace (view.setQueue eid rest) pid cspace (cspace.insertAll msg.caps).1 hc
  have hi := cspace.ids_insertAll_le msg.caps
  refine le_of_add_le_add_right (a := cspace.ids) ?_
  rw [hu, ← hp, add_assoc]
  exact add_le_add_right hi _

end

lemma capIds_addEndpoint_le : (view.addEndpoint owner).capIds ≤ view.capIds := by
  refine add_le_add_right ?_ _
  have hl := sum_insert_le view.endpoints (fun ep => queueIds ep.queue)
    view.nextEndpointId ⟨view.nextEndpointId, owner, []⟩
  exact hl.trans (le_of_eq (zero_add _))

lemma capIds_failEndpoint_le : view.failEndpoint.capIds ≤ view.capIds :=
  add_le_add_right (sum_erase_le _ _) _

lemma capIds_addProcess_le {nextPid : UInt64} :
    (view.addProcess pid name nextPid).capIds ≤ view.capIds := by
  refine add_le_add_left ?_ _
  have hl := sum_insert_le view.capSpaces ids pid new
  exact hl.trans (le_of_eq (zero_add _))

lemma capIds_dropProcess_le : (view.dropProcess pid).capIds ≤ view.capIds :=
  add_le_add (sum_erase_le _ _) (sum_filter_le _ _)

end KernelView

open KernelView

lemma Effect.capIds_le (he : Effect view commits view') :
    (view'.nextCapId = view.nextCapId ∧ view'.capIds ≤ view.capIds) ∨
      (view'.nextCapId = view.nextCapId + 1 ∧ view'.capIds ≤ {view.nextCapId} + view.capIds) := by
  cases he with
  | Idle | Exit => exact .inl ⟨rfl, le_rfl⟩
  | Register => exact .inl ⟨rfl, capIds_addProcess_le⟩
  | Drop pid => exact .inl ⟨rfl, capIds_dropProcess_le⟩
  | BurnId => exact .inr ⟨rfl, Multiset.le_add_left _ _⟩
  | FailEndpoint => exact .inr ⟨rfl, capIds_failEndpoint_le.trans (Multiset.le_add_left _ _)⟩
  | OpenEndpoint owner cspace _ hc =>
    refine .inr ⟨rfl, ?_⟩
    have hi := @capIds_insert_le (view.addEndpoint owner).burnCapId owner cspace
      (.endpoint view.nextCapId view.nextEndpointId full) hc
    exact hi.trans (add_le_add_right capIds_addEndpoint_le _)
  | InsertEndpointCap pid cspace _ _ hc | InsertDerived pid cspace _ _ _ hc =>
    exact .inr ⟨rfl, @capIds_insert_le view.burnCapId pid cspace _ hc⟩
  | Remove _ _ cspace hc => exact .inl ⟨rfl, capIds_shrink_le hc cspace.ids_remove_le⟩
  | Push _ _ _ _ _ hg => exact .inl ⟨rfl, le_of_eq (capIds_push hg)⟩
  | PushCaps _ _ _ _ _ _ _ hg hc => exact .inl ⟨rfl, capIds_pushCaps_le hg hc⟩
  | Pop _ _ _ _ hg hq =>
    refine .inl ⟨rfl, ?_⟩
    rw [← capIds_pop hg hq]
    exact Multiset.le_add_right _ _
  | PopCaps _ _ _ _ _ _ hg hq hc => exact .inl ⟨rfl, capIds_popCaps_le hg hq hc⟩

-- After `count` ids have been handed out, those in use are distinct and among the first `count`.
structure Linear (count : Nat) (view : KernelView) : Prop where
  next : view.nextCapId.toNat = (count + 1) % 2 ^ 64
  nodup : count < 2 ^ 64 → view.capIds.Nodup
  bound : count < 2 ^ 64 → ∀ id ∈ view.capIds, id.toNat ≤ count

lemma linear_new : Linear 0 KernelCore.new.view where
  next := by decide
  nodup := fun _ => Multiset.nodup_zero
  bound := fun _ id hm => absurd hm (Multiset.notMem_zero id)

lemma Linear.shrink (hl : Linear count view) (hn : view'.nextCapId = view.nextCapId)
    (he : view'.capIds ≤ view.capIds) :
    Linear count view' where
  next := by rw [hn]; exact hl.next
  nodup := fun hc => Multiset.nodup_of_le he (hl.nodup hc)
  bound := fun hc id hm => hl.bound hc id (Multiset.mem_of_le he hm)

lemma Linear.allocate (hl : Linear count view) (hn : view'.nextCapId = view.nextCapId + 1)
    (he : view'.capIds ≤ {view.nextCapId} + view.capIds) : Linear (count + 1) view' := by
  have ho := hl.next
  have hf : count + 1 < 2 ^ 64 → view.nextCapId.toNat = count + 1 := by
    intro hc
    rw [ho, Nat.mod_eq_of_lt hc]
  refine ⟨?_, ?_, ?_⟩
  · rw [hn, UInt64.toNat_add, UInt64.toNat_one]
    omega
  · intro hc
    refine Multiset.nodup_of_le he ?_
    rw [Multiset.singleton_add, Multiset.nodup_cons]
    refine ⟨?_, hl.nodup (by omega)⟩
    intro hm
    have hb := hl.bound (by omega) _ hm
    omega
  · intro hc id hm
    rcases Multiset.mem_add.mp (Multiset.mem_of_le he hm) with hw | holdId
    · rw [Multiset.mem_singleton.mp hw, hf hc]
    · have hb := hl.bound (by omega) id holdId
      omega

namespace KernelCore

lemma linear_exec {kernel : KernelCore} (hl : Linear seen.length kernel.view) :
    Linear (seen ++ kernel.allocatedCapIds timed).length (kernel.exec timed).view := by
  rcases (kernel.perform_effect timed.1 timed.2).capIds_le with ⟨hs, he⟩ | ⟨hm, he⟩
  · have hn : kernel.allocatedCapIds timed = [] := if_pos hs
    rw [hn, List.append_nil]
    exact hl.shrink hs he
  · have hm : (kernel.exec timed).nextCapId = kernel.nextCapId + 1 := hm
    have ho : kernel.allocatedCapIds timed = [kernel.nextCapId] := by
      rw [allocatedCapIds, if_neg (by rw [hm]; simp)]
    rw [ho, List.length_append]
    exact hl.allocate hm he

lemma linear_run (ops : List (UInt64 × Op)) :
    Linear (observed exec allocatedCapIds new ops).length (run exec new ops).view := by
  exact run_observed_invariant _ (fun _ _ => True) allocatedCapIds
    (fun seen kernel => Linear seen.length kernel.view)
    (fun _ _ timed hl _ => linear_exec hl) linear_new
    (along_of_forall _ (fun _ _ => trivial) new)

-- With fewer than 2^64 ids handed out, no id is in two places; as long as the counter has not
-- come round to zero, every id in use is below it.
theorem capIds_of_run (ops : List (UInt64 × Op))
    (hids : (Run.observed exec allocatedCapIds new ops).length < 2 ^ 64) :
    (Run.run exec new ops).view.capIds.Nodup ∧
    (∀ cap moved, (Run.run exec new ops).view.InSpace cap →
      (Run.run exec new ops).view.Queued moved → cap.id ≠ moved.id) ∧
    ((Run.observed exec allocatedCapIds new ops).length + 1 < 2 ^ 64 →
      ∀ id ∈ (Run.run exec new ops).view.capIds, id < (Run.run exec new ops).nextCapId) := by
  have hl := linear_run ops
  have hn := hl.nodup hids
  refine ⟨hn, ?_, ?_⟩
  · intro cap moved hc hq he
    have hd := (Multiset.nodup_add.mp hn).2.2
    exact Multiset.disjoint_left.mp hd (id_mem_spaceIds hc)
      (he ▸ id_mem_queuedIds hq)
  · intro hw id hm
    have hb := hl.bound hids id hm
    have hne := hl.next
    rw [view_nextCapId] at hne
    rw [lt_iff_toNat_lt]
    omega

-- Init with one endpoint. A grant of its capability to a process that does not exist fails and
-- uses up an id.
def oneEndpoint : List (UInt64 × Op) := [(0, .RegisterProcess "init"), (0, .CreateEndpoint 1)]

def failedGrant : UInt64 × Op := (0, .GrantCapability 1 0 99 Permissions.full)

theorem capIds_of_oneEndpoint :
    (Run.run exec new (oneEndpoint ++ [failedGrant])).view.capIds.Nodup :=
  (capIds_of_run (oneEndpoint ++ [failedGrant]) (by decide +kernel)).1

lemma perform_failedGrant {kernel : KernelCore} (hs : kernel.validateGrantSource 1 0 0 = .ok source)
    (hn : kernel.capSpaces[(99 : ProcessId)]? = none) :
    kernel.perform failedGrant.1 failedGrant.2 =
      ({ kernel with nextCapId := kernel.nextCapId + 1 }, []) := by
  simp only [failedGrant, perform, grantCapability, hs, createDerivedCap_eq, hn]
  rfl

lemma run_failedGrant (n : Nat) (hs : kernel.validateGrantSource 1 0 0 = .ok source)
    (hn : kernel.capSpaces[(99 : ProcessId)]? = none) :
    run exec kernel (List.replicate n failedGrant) =
        { kernel with nextCapId := kernel.nextCapId + ofNat n } ∧
      observed exec commitsOf kernel (List.replicate n failedGrant) = [] ∧
      (observed exec allocatedCapIds kernel (List.replicate n failedGrant)).length = n := by
  induction n generalizing kernel with
  | zero => simp [observed]
  | succ n ih =>
    have hp := perform_failedGrant hs hn
    have he : kernel.exec failedGrant = { kernel with nextCapId := kernel.nextCapId + 1 } := by
      rw [exec, hp]
    obtain ⟨hr, hc, hi⟩ := @ih { kernel with nextCapId := kernel.nextCapId + 1 } hs hn
    have ho : kernel.allocatedCapIds failedGrant = [kernel.nextCapId] := by
      rw [allocatedCapIds, he, if_neg (by simp)]
    refine ⟨?_, ?_, ?_⟩
    · rw [List.replicate_succ, run_cons, he, hr]
      have ha : kernel.nextCapId + 1 + ofNat n = kernel.nextCapId + ofNat (n + 1) := by
        rw [UInt64.ofNat_add, UInt64.add_assoc, UInt64.add_comm 1]
        rfl
      simp only [ha]
    · rw [List.replicate_succ, observed, he, hc, commitsOf, hp]
      rfl
    · rw [List.replicate_succ, observed, he, List.length_append, hi, ho,
        List.length_singleton, Nat.add_comm]

lemma exists_capIds_at_wrap (n : Nat) (hn : n + 2 = 2 ^ 64) :
    ∃ ops : List (UInt64 × Op), (observed exec allocatedCapIds new ops).length < 2 ^ 64 ∧
      (∀ pid, insertsInto pid (observed exec commitsOf new ops) < 2 ^ 32) ∧
      ∃ id ∈ (run exec new ops).view.capIds, ¬ id < (run exec new ops).nextCapId := by
  obtain ⟨start, hs⟩ : ∃ kernel, run exec new oneEndpoint = kernel := ⟨_, rfl⟩
  have hr : start.validateGrantSource 1 0 0 = .ok (.endpoint 1 1 full) := by
    rw [← hs]
    decide +kernel
  have ho : start.capSpaces[(99 : ProcessId)]? = none := by
    rw [← hs]
    decide +kernel
  have hne : start.nextCapId = 2 := by
    rw [← hs]
    decide +kernel
  have hh := ((validateGrantSource_ok_iff ..).mp hr).1
  have hc : start.view.InSpace (.endpoint 1 1 full) := ⟨1, 0, hh⟩
  have hm := id_mem_spaceIds hc
  obtain ⟨hu, hco, hi⟩ := run_failedGrant n hr ho
  refine ⟨oneEndpoint ++ List.replicate n failedGrant, ?_, ?_, 1, ?_, ?_⟩
  · have hf : (observed exec allocatedCapIds new oneEndpoint).length = 1 := by
      decide +kernel
    rw [observed_append, List.length_append, hs]
    omega
  · intro pid
    have hf : observed exec commitsOf new oneEndpoint =
        [.ProcessCreated 1 0 "init", .EndpointCreated 1 1,
          .ofInsert 1 0 (.endpoint 1 1 full)] := by decide +kernel
    rw [observed_append, hs, hco, hf]
    by_cases he : (1 : ProcessId) = pid
    · simp [insertsInto, countInsert, ofInsert, he]
    · simp [insertsInto, countInsert, ofInsert, he]
  · rw [run_append, hs, hu]
    exact Multiset.mem_add.mpr (.inl hm)
  · rw [run_append, hs, hu, hne]
    have hz : (2 : UInt64) + ofNat n = 0 := by
      rw [← UInt64.toNat_inj]
      change (2 + n % 2 ^ 64) % 2 ^ 64 = 0
      omega
    rw [hz]
    exact UInt64.not_lt_zero

-- After exactly 2^64 - 1 ids the counter is zero, and the first id is not below it.
theorem capIds_at_wrap :
    ∃ ops : List (UInt64 × Op),
      (Run.observed exec allocatedCapIds new ops).length < 2 ^ 64 ∧
      (∀ pid, insertsInto pid (Run.observed exec commitsOf new ops) < 2 ^ 32) ∧
      ∃ id ∈ (Run.run exec new ops).view.capIds, ¬ id < (Run.run exec new ops).nextCapId :=
  exists_capIds_at_wrap (2 ^ 64 - 2) (by decide)

end KernelCore

end ZeroOS
