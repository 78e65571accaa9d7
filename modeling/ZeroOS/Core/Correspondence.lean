import ZeroOS.Core.Run
import ZeroOS.Kernel.Syscall.Lemmas

/-!
The pure core beside the kernel.
-/

namespace ZeroOS

open BTreeMap KernelView CapSpaces Capability

def Capability.ungenerated (cap : Capability) : Capability := { cap with generation := 0 }

def EndpointView.summary (endpoint : EndpointView) :
    ProcessId × List (ProcessId × UInt32 × List UInt8) :=
  (endpoint.owner, endpoint.queue.map fun msg => (msg.fromPid, msg.tag, msg.data))

def KernelView.Alive (view : KernelView) (pid : ProcessId) : Prop :=
  ∃ process, view.processes[pid]? = some process ∧ process.state ≠ .Zombie

namespace Core

def Endpoint.summary (endpoint : Endpoint) : ProcessId × List (ProcessId × UInt32 × List UInt8) :=
  (endpoint.owner, endpoint.pendingMessages.map fun msg => (msg.sender, msg.tag, msg.data))

structure Matches (core : StateView) (kernel : KernelView) : Prop where
  liveness : ∀ pid, core.Alive pid ↔ kernel.Alive pid
  endpoints : ∀ eid : EndpointId,
    core.endpoints[eid]?.map Endpoint.summary = kernel.endpoints[eid]?.map EndpointView.summary
  spaces : ∀ pid slot, (core.capSpaces.capAt pid slot).map Capability.ungenerated =
    (kernel.capSpaces.capAt pid slot).map Capability.ungenerated

-- The relation that calls keep. The core never forgets a process; the kernel has dropped those
-- that were killed.
structure Corresponds (core : StateView) (kernel : KernelView) : Prop where
  states : ∀ (pid : ProcessId) process, kernel.processes[pid]? = some process →
    ∃ entry, core.processes[pid]? = some entry ∧ entry.state = process.state
  gone : ∀ (pid : ProcessId) entry, core.processes[pid]? = some entry → pid ∉ kernel.processes →
    entry.state = .Zombie
  spaced : ∀ pid ∈ kernel.processes, ∃ own other, core.capSpaces[pid]? = some own ∧
    kernel.capSpaces[pid]? = some other ∧ own.nextSlot = other.nextSlot
  spaceless : ∀ pid ∉ kernel.processes, kernel.capSpaces[pid]? = none
  spaces : ∀ pid slot, (core.capSpaces.capAt pid slot).map Capability.ungenerated =
    (kernel.capSpaces.capAt pid slot).map Capability.ungenerated
  lasting : ∀ pid slot cap, core.capSpaces.capAt pid slot = some cap → cap.expiresAt = 0
  endpoints : ∀ eid : EndpointId,
    core.endpoints[eid]?.map Endpoint.summary = kernel.endpoints[eid]?.map EndpointView.summary
  nextEndpointId : core.nextEndpointId = kernel.nextEndpointId
  nextCapId : core.nextCapId = kernel.nextCapId

lemma eq_of_ungenerated {cap other : Capability} (hs : cap.ungenerated = other.ungenerated) :
    cap = { other with generation := cap.generation } := by
  cases cap
  simpa [ungenerated] using hs

namespace Corresponds

variable {core : StateView} {kernel : KernelView}

section

variable (h : Corresponds core kernel)

include h

lemma alive_iff (pid : ProcessId) : core.Alive pid ↔ kernel.Alive pid := by
  constructor
  · rintro ⟨entry, he, hs⟩
    by_cases hm : pid ∈ kernel.processes
    · obtain ⟨process, hg⟩ := (mem_iff ..).mp hm
      obtain ⟨_, ho, ha⟩ := h.states pid process hg
      rw [he] at ho
      rw [← Option.some.inj ho] at ha
      exact ⟨process, hg, ha ▸ hs⟩
    · exact absurd (h.gone pid _ he hm) hs
  · rintro ⟨process, hg, hs⟩
    obtain ⟨entry, he, ha⟩ := h.states pid process hg
    exact ⟨entry, he, ha ▸ hs⟩

lemma toMatches : Matches core kernel := ⟨h.alive_iff, h.endpoints, h.spaces⟩

-- The same slots are filled, with capabilities that differ in their generation at most.

lemma held (hh : core.capSpaces.capAt pid slot = some cap) :
    ∃ generation, kernel.capSpaces.capAt pid slot = some { cap with generation } := by
  have hs := h.spaces pid slot
  rw [hh] at hs
  obtain ⟨other, ho, he⟩ := Option.map_eq_some_iff.mp hs.symm
  exact ⟨other.generation, ho.trans (congrArg some (eq_of_ungenerated he))⟩

lemma heldBy (hh : kernel.capSpaces.capAt pid slot = some other) :
    ∃ generation, core.capSpaces.capAt pid slot = some { other with generation } := by
  have hs := h.spaces pid slot
  rw [hh] at hs
  obtain ⟨cap, hc, he⟩ := Option.map_eq_some_iff.mp hs
  exact ⟨cap.generation, hc.trans (congrArg some (eq_of_ungenerated he))⟩

lemma found {eid : EndpointId} (hg : kernel.endpoints[eid]? = some ep) :
    ∃ own, core.endpoints[eid]? = some own ∧ own.summary = ep.summary := by
  have hs := h.endpoints eid
  rw [hg] at hs
  exact Option.map_eq_some_iff.mp hs

lemma foundBy {eid : EndpointId} (hg : core.endpoints[eid]? = some own) :
    ∃ ep, kernel.endpoints[eid]? = some ep ∧ own.summary = ep.summary := by
  have hs := h.endpoints eid
  rw [hg] at hs
  obtain ⟨ep, ho, he⟩ := Option.map_eq_some_iff.mp hs.symm
  exact ⟨ep, ho, he.symm⟩

lemma register (name : String) (nextPid : UInt64) :
    Corresponds (core.addProcess name) (kernel.addProcess core.nextPid name nextPid) := by
  have hm : ∀ pid, pid ∈ (kernel.addProcess core.nextPid name nextPid).processes ↔
      pid = core.nextPid ∨ pid ∈ kernel.processes := fun pid => mem_insert ..
  refine { h with
    states := ?_, gone := ?_, spaced := ?_, spaceless := ?_, spaces := ?_, lasting := ?_ }
  · intro pid process hg
    simp only [StateView.addProcess, addProcess, get_insert] at hg ⊢
    split_ifs at hg ⊢
    · rw [← Option.some.inj hg]
      exact ⟨_, rfl, rfl⟩
    · exact h.states pid _ hg
  · intro pid entry hg hn
    obtain ⟨hne, ho⟩ := not_or.mp (mt (hm pid).mpr hn)
    simp only [StateView.addProcess, get_insert, if_neg (Ne.symm hne)] at hg
    exact h.gone pid _ hg ho
  · intro pid hp
    simp only [StateView.addProcess, addProcess, get_insert]
    split_ifs with he
    · exact ⟨_, _, rfl, rfl, rfl⟩
    · exact h.spaced pid (((hm pid).mp hp).resolve_left (Ne.symm he))
  · intro pid hn
    obtain ⟨hne, ho⟩ := not_or.mp (mt (hm pid).mpr hn)
    simp only [addProcess, get_insert, if_neg (Ne.symm hne)]
    exact h.spaceless pid ho
  · intro pid slot
    simp only [StateView.addProcess, addProcess, capAt_insert]
    split_ifs
    · rfl
    · exact h.spaces ..
  · intro pid slot cap hh
    simp only [StateView.addProcess, capAt_insert] at hh
    split_ifs at hh
    · simp [CapabilitySpace.new, CapabilitySpace.get] at hh
    · exact h.lasting pid _ cap hh

lemma exit : Corresponds (core.markZombie pid) (kernel.exitProcess pid) := by
  have hm : ∀ other, other ∈ (kernel.exitProcess pid).processes ↔ other ∈ kernel.processes :=
    fun other => mem_modify
  refine { h with states := ?_, gone := ?_, spaced := ?_, spaceless := ?_ }
  · intro other process hg
    simp only [exitProcess, StateView.markZombie, get_modify] at hg ⊢
    split_ifs at hg ⊢ with he
    · obtain ⟨old, hl, rfl⟩ := Option.map_eq_some_iff.mp hg
      obtain ⟨entry, hen, -⟩ := h.states other old hl
      exact ⟨{ entry with state := .Zombie }, by rw [hen]; rfl, rfl⟩
    · exact h.states _ _ hg
  · intro other entry hg hn
    rw [hm] at hn
    simp only [StateView.markZombie, get_modify] at hg
    split_ifs at hg
    · obtain ⟨old, -, rfl⟩ := Option.map_eq_some_iff.mp hg
      rfl
    · exact h.gone _ _ hg hn
  · exact fun other ho => h.spaced _ ((hm _).mp ho)
  · exact fun other ho => h.spaceless _ fun hl => ho ((hm _).mpr hl)

lemma kill (hno : ∀ slot, core.capSpaces.capAt target slot = none)
    (how : ∀ (eid : EndpointId) ep, core.endpoints[eid]? = some ep → ep.owner ≠ target) :
    Corresponds (core.markZombie target) (kernel.dropProcess target) := by
  have hg : ∀ other : ProcessId, (kernel.dropProcess target).processes[other]? =
      if target = other then none else kernel.processes[other]? :=
    fun other => get_erase ..
  have hc : ∀ other : ProcessId, (kernel.dropProcess target).capSpaces[other]? =
      if target = other then none else kernel.capSpaces[other]? :=
    fun other => get_erase ..
  refine { h with
    states := ?_, gone := ?_, spaced := ?_, spaceless := ?_, spaces := ?_, endpoints := ?_ }
  · intro other process hp
    rw [hg] at hp
    split_ifs at hp with he
    obtain ⟨entry, hn, hs⟩ := h.states other process hp
    refine ⟨entry, ?_, hs⟩
    rw [StateView.markZombie, get_modify, if_neg he, hn]
  · intro other entry hn hnt
    rw [StateView.markZombie, get_modify] at hn
    split_ifs at hn with he
    · obtain ⟨_, -, rfl⟩ := Option.map_eq_some_iff.mp hn
      rfl
    · refine h.gone _ _ hn ?_
      rw [not_mem_iff, hg, if_neg he] at hnt
      exact not_mem_iff.mpr hnt
  · intro other ht
    obtain ⟨process, hp⟩ := (mem_iff ..).mp ht
    rw [hg] at hp
    split_ifs at hp with he
    rw [hc, if_neg he]
    exact h.spaced _ ((mem_iff ..).mpr ⟨process, hp⟩)
  · intro other ht
    rw [hc]
    split_ifs with he
    · rfl
    · refine h.spaceless _ ?_
      rw [not_mem_iff, hg, if_neg he] at ht
      exact not_mem_iff.mpr ht
  · intro other slot
    rw [show (kernel.dropProcess target).capSpaces.capAt other slot = _ from capAt_erase]
    split_ifs with he
    · rw [← he, show (core.markZombie target).capSpaces.capAt target slot = none from hno slot]
    · exact h.spaces ..
  · intro eid
    rw [show (core.markZombie target).endpoints[eid]? = core.endpoints[eid]? from rfl,
      dropProcess, get_filter]
    cases hgo : kernel.endpoints[eid]? with
    | none => rw [h.endpoints eid, hgo, Option.filter_none]
    | some ep =>
      obtain ⟨own, ho, hs⟩ := h.found hgo
      have hw : ep.owner ≠ target := by
        rw [← show own.owner = ep.owner from congrArg Prod.fst hs]
        exact how eid own ho
      rw [h.endpoints eid, hgo, Option.filter_some_pos (by simpa using hw)]

lemma burnCapId : Corresponds core.burnCapId kernel.burnCapId :=
  { h with nextCapId := congrArg (· + 1) h.nextCapId }

lemma addEndpoint : Corresponds (core.addEndpoint owner) (kernel.addEndpoint owner) := by
  refine { h with endpoints := ?_, nextEndpointId := congrArg (· + 1) h.nextEndpointId }
  intro eid
  rw [StateView.addEndpoint, KernelView.addEndpoint, get_insert, get_insert, h.nextEndpointId]
  split_ifs
  · rfl
  · exact h.endpoints eid

lemma putSpace (hm : pid ∈ kernel.processes) (hn : own.nextSlot = other.nextSlot)
    (hs : ∀ slot, (own.get slot).map ungenerated = (other.get slot).map ungenerated)
    (hl : ∀ slot cap, own.get slot = some cap → cap.expiresAt = 0) :
    Corresponds (core.putSpace pid own) (kernel.putSpace pid other) := by
  refine { h with spaced := ?_, spaceless := ?_, spaces := ?_, lasting := ?_ }
  · intro process hp
    simp only [StateView.putSpace, KernelView.putSpace, get_insert]
    split_ifs
    · exact ⟨own, other, rfl, rfl, hn⟩
    · exact h.spaced _ hp
  · intro process hp
    have hne : pid ≠ process := fun he => hp (he ▸ hm)
    rw [KernelView.putSpace, get_insert, if_neg hne]
    exact h.spaceless _ hp
  · intro process slot
    simp only [StateView.putSpace, KernelView.putSpace, capAt_insert]
    split_ifs
    · exact hs _
    · exact h.spaces ..
  · intro process slot cap hh
    simp only [StateView.putSpace, capAt_insert] at hh
    split_ifs at hh
    · exact hl _ cap hh
    · exact h.lasting _ _ cap hh

lemma insertCap (hw : core.capSpaces[pid]? = some own)
    (ho : kernel.capSpaces[pid]? = some other) (hc : cap.ungenerated = new.ungenerated)
    (hz : cap.expiresAt = 0) :
    Corresponds (core.putSpace pid (own.insert cap).2) (kernel.putSpace pid (other.insert new).2) ∧
      own.nextSlot = other.nextSlot := by
  have hm : pid ∈ kernel.processes := by
    by_contra hno
    rw [h.spaceless pid hno] at ho
    cases ho
  have hn : own.nextSlot = other.nextSlot := by
    obtain ⟨first, _, hf, hs, hl⟩ := h.spaced pid hm
    rw [hw] at hf
    rw [ho] at hs
    rw [Option.some.inj hf, Option.some.inj hs, hl]
  refine ⟨h.putSpace hm (congrArg (· + 1) hn) ?_ ?_, hn⟩
  · intro slot
    rw [CapabilitySpace.get_insert, CapabilitySpace.get_insert, hn]
    split_ifs
    · exact congrArg some hc
    · have ha := h.spaces pid slot
      rwa [capAt_of_get hw, capAt_of_get ho] at ha
  · intro slot held hg
    rw [CapabilitySpace.get_insert] at hg
    split_ifs at hg
    · rw [← Option.some.inj hg]
      exact hz
    · exact h.lasting pid _ _ ((capAt_of_get hw _).trans hg)

lemma removeCap (hw : core.capSpaces[pid]? = some own) (ho : kernel.capSpaces[pid]? = some other) :
    Corresponds (core.putSpace pid (own.remove slot).2)
      (kernel.putSpace pid (other.remove slot).2) := by
  have hm : pid ∈ kernel.processes := by
    by_contra hn
    rw [h.spaceless pid hn] at ho
    cases ho
  obtain ⟨first, _, hf, hs, hl⟩ := h.spaced pid hm
  rw [hw] at hf
  rw [ho] at hs
  refine h.putSpace hm ?_ ?_ ?_
  · rw [← Option.some.inj hf, ← Option.some.inj hs] at hl
    exact hl
  · intro filled
    rw [CapabilitySpace.get_remove, CapabilitySpace.get_remove]
    split_ifs
    · rfl
    · have ha := h.spaces pid filled
      rwa [capAt_of_get hw, capAt_of_get ho] at ha
  · intro filled held hg
    rw [CapabilitySpace.get_remove] at hg
    split_ifs at hg
    exact h.lasting pid _ _ ((capAt_of_get hw ..).trans hg)

lemma setQueue (hg : kernel.endpoints[eid]? = some ep)
    (hs : own.summary = { ep with queue }.summary) :
    Corresponds (core.putEndpoint eid own) (kernel.setQueue eid queue) := by
  refine { h with endpoints := ?_ }
  intro other
  rw [StateView.putEndpoint, KernelView.setQueue, get_insert, get_modify]
  split_ifs with he
  · rw [← he, hg]
    exact congrArg some hs
  · exact h.endpoints _

lemma rewriteEndpoint (hg : core.endpoints[eid]? = some own) (hs : new.summary = own.summary) :
    Corresponds (core.putEndpoint eid new) kernel := by
  refine { h with endpoints := ?_ }
  intro other
  rw [StateView.putEndpoint, get_insert]
  split_ifs with he
  · rw [← h.endpoints other, ← he, hg]
    exact congrArg some hs
  · exact h.endpoints _

end

end Corresponds

end Core

end ZeroOS
