import ZeroOS.Kernel.Syscall.Lemmas

/-!
Where capabilities are.
-/

namespace ZeroOS

open List CapSpaces BTreeMap

namespace CapabilitySpace

variable {cs : CapabilitySpace} {slots : List CapSlot}

lemma get_of_get_remove (h : (cs.remove slot).2.get other = some cap) :
    cs.get other = some cap := by
  rw [get_remove] at h
  split_ifs at h
  exact h

lemma eq_or_get_of_get_insert {new cap : Capability}
    (h : (cs.insert new).2.get slot = some cap) : cap = new ∨ cs.get slot = some cap := by
  rw [get_insert] at h
  split_ifs at h
  · exact .inl (Option.some.inj h).symm
  · exact .inr h

lemma get_of_get_takeAll (h : (cs.takeAll slots).1.get slot = some cap) :
    cs.get slot = some cap := by
  induction slots generalizing cs with
  | nil => exact h
  | cons first rest ih =>
    have hr : ((cs.remove first).2.takeAll rest).1.get slot = some cap := by
      unfold takeAll at h
      cases hg : cs.get first with
      | none | some => simpa only [hg] using h
    exact get_of_get_remove (ih hr)

lemma get_of_mem_takeAll (h : moved ∈ (cs.takeAll slots).2) : cs.get moved.1 = some moved.2 := by
  induction slots generalizing cs with
  | nil => simp [takeAll] at h
  | cons first _ ih =>
    unfold takeAll at h
    cases hg : cs.get first with
    | none =>
      rw [hg] at h
      exact get_of_get_remove (ih h)
    | some =>
      rw [hg] at h
      rcases mem_cons.mp h with rfl | ht
      · exact hg
      · exact get_of_get_remove (ih ht)

lemma mem_takeAll_of_removed (hge : cs.get slot = some cap)
    (hg : (cs.takeAll slots).1.get slot = none) : (slot, cap) ∈ (cs.takeAll slots).2 := by
  induction slots generalizing cs with
  | nil =>
    rw [takeAll, hge] at hg
    cases hg
  | cons first _ ih =>
    unfold takeAll at hg ⊢
    by_cases he : first = slot
    · subst he
      simp only [hge]
      exact mem_cons_self
    · have hk : (cs.remove first).2.get slot = some cap := by
        rw [get_remove, if_neg he, hge]
      cases hf : cs.get first with
      | none =>
        rw [hf] at hg
        exact ih hk hg
      | some =>
        rw [hf] at hg
        exact mem_cons_of_mem _ (ih hk hg)

lemma mem_or_get_of_get_insertAll (h : (cs.insertAll caps).1.get slot = some cap) :
    cap ∈ caps ∨ cs.get slot = some cap := by
  induction caps generalizing cs with
  | nil => exact .inr h
  | cons _ _ ih =>
    rcases ih h with hm | hg
    · exact .inl (mem_cons_of_mem _ hm)
    · rcases eq_or_get_of_get_insert hg with rfl | ho
      · exact .inl mem_cons_self
      · exact .inr ho

end CapabilitySpace

namespace KernelView

variable {view : KernelView} {cap : Capability}

def InSpace (view : KernelView) (cap : Capability) : Prop :=
  ∃ pid slot, view.capSpaces.capAt pid slot = some cap

def Queued (view : KernelView) (cap : Capability) : Prop :=
  ∃ (eid : EndpointId) (endpoint : EndpointView) (msg : Message),
    view.endpoints[eid]? = some endpoint ∧ msg ∈ endpoint.queue ∧ cap ∈ msg.caps

-- The capability exists somewhere.
def Holds (view : KernelView) (cap : Capability) : Prop := view.InSpace cap ∨ view.Queued cap

lemma holds_of_get {pid : ProcessId} (hc : view.capSpaces[pid]? = some cs)
    (hg : cs.get slot = some cap) : view.Holds cap :=
  .inl ⟨pid, slot, (capAt_of_get hc _).trans hg⟩

lemma holds_of_capAt (h : view.capSpaces.capAt pid slot = some cap) :
    view.Holds cap := .inl ⟨pid, slot, h⟩

lemma holds_of_queue {eid : EndpointId} (hg : view.endpoints[eid]? = some ep)
    (hm : msg ∈ ep.queue) (hc : cap ∈ msg.caps) : view.Holds cap := .inr ⟨eid, ep, msg, hg, hm, hc⟩

-- For each change of a view: a capability that exists afterwards existed before, or is one
-- that the change brought in.

lemma holds_putSpace (h : (view.putSpace pid cs).Holds cap) :
    (∃ slot, cs.get slot = some cap) ∨ view.Holds cap := by
  rcases h with ⟨_, slot, hh⟩ | hq
  · simp only [putSpace, capAt_insert] at hh
    split_ifs at hh
    · exact .inl ⟨slot, hh⟩
    · exact .inr (holds_of_capAt hh)
  · exact .inr (.inr hq)

lemma holds_setQueue (h : (view.setQueue eid queue).Holds cap) :
    (∃ msg ∈ queue, cap ∈ msg.caps) ∨ view.Holds cap := by
  rcases h with hs | ⟨_, _, msg, hg, hm, hc⟩
  · exact .inr (.inl hs)
  · simp only [setQueue, get_modify] at hg
    split_ifs at hg
    · obtain ⟨_, -, rfl⟩ := Option.map_eq_some_iff.mp hg
      exact .inl ⟨msg, hm, hc⟩
    · exact .inr (holds_of_queue hg hm hc)

lemma holds_addEndpoint (h : (view.addEndpoint owner).Holds cap) : view.Holds cap := by
  rcases h with hs | ⟨_, _, _, hg, hm, hc⟩
  · exact .inl hs
  · simp only [addEndpoint, get_insert] at hg
    split_ifs at hg
    · cases hg
      cases hm
    · exact holds_of_queue hg hm hc

lemma holds_failEndpoint (h : view.failEndpoint.Holds cap) : view.Holds cap := by
  rcases h with hs | ⟨_, _, _, hg, hm, hc⟩
  · exact .inl hs
  · simp only [failEndpoint, get_erase] at hg
    split_ifs at hg
    exact holds_of_queue hg hm hc

lemma holds_addProcess {nextPid : UInt64} (h : (view.addProcess pid name nextPid).Holds cap) :
    view.Holds cap := by
  rcases h with ⟨_, _, hh⟩ | hq
  · simp only [addProcess, capAt_insert] at hh
    split_ifs at hh
    · simp [CapabilitySpace.new, CapabilitySpace.get] at hh
    · exact holds_of_capAt hh
  · exact .inr hq

lemma holds_dropProcess (h : (view.dropProcess pid).Holds cap) : view.Holds cap := by
  rcases h with ⟨_, _, hh⟩ | ⟨_, _, _, hg, hm, hc⟩
  · simp only [dropProcess, capAt_erase] at hh
    split_ifs at hh
    exact holds_of_capAt hh
  · simp only [dropProcess, get_filter] at hg
    exact holds_of_queue (Option.eq_some_of_filter_eq_some hg) hm hc

-- A queue that lost its front message or gained one at the back.

lemma holds_of_mem_rest {eid : EndpointId} (hg : view.endpoints[eid]? = some ep)
    (hq : ep.queue = msg :: rest) (h : ∃ other ∈ rest, cap ∈ other.caps) : view.Holds cap := by
  obtain ⟨other, hm, hc⟩ := h
  exact holds_of_queue hg (hq ▸ mem_cons_of_mem _ hm) hc

lemma holds_of_mem_concat {eid : EndpointId} (hg : view.endpoints[eid]? = some ep)
    (h : ∃ msg ∈ ep.queue ++ [new], cap ∈ msg.caps) : cap ∈ new.caps ∨ view.Holds cap := by
  obtain ⟨msg, hm, hc⟩ := h
  rcases mem_append.mp hm with ho | hn
  · exact .inr (holds_of_queue hg ho hc)
  · rw [mem_singleton.mp hn] at hc
    exact .inl hc

-- The changes that the operations of the kernel make to a space or a queue.

lemma holds_of_insert (h : (view.putSpace pid (cs.insert new).2).Holds cap)
    (hc : view.capSpaces[pid]? = some cs) : cap = new ∨ view.Holds cap := by
  rcases holds_putSpace h with ⟨_, hg⟩ | hr
  · rcases CapabilitySpace.eq_or_get_of_get_insert hg with hn | ho
    · exact .inl hn
    · exact .inr (holds_of_get hc ho)
  · exact .inr hr

lemma holds_of_remove (hc : view.capSpaces[pid]? = some cs)
    (h : (view.putSpace pid (cs.remove slot).2).Holds cap) : view.Holds cap := by
  rcases holds_putSpace h with ⟨_, hg⟩ | hr
  · exact holds_of_get hc (CapabilitySpace.get_of_get_remove hg)
  · exact hr

section

variable {eid : EndpointId} (hg : view.endpoints[eid]? = some ep)

include hg

lemma holds_of_push (h : (view.setQueue eid (ep.queue ++ [msg])).Holds cap) :
    cap ∈ msg.caps ∨ view.Holds cap := by
  rcases holds_setQueue h with hm | hr
  · exact holds_of_mem_concat hg hm
  · exact .inr hr

lemma holds_of_pushCaps (hc : view.capSpaces[pid]? = some cs)
    (h : ((view.putSpace pid (cs.takeAll capSlots).1).setQueue eid (ep.queue ++
      [⟨pid, tag, data, inFlight (cs.takeAll capSlots).2⟩])).Holds cap) : view.Holds cap := by
  rcases holds_setQueue h with hm | hr
  · rcases holds_of_mem_concat hg hm with hn | hd
    · simp only [Message.caps, map_capability_inFlight, mem_map] at hn
      obtain ⟨_, ho, rfl⟩ := hn
      exact holds_of_get hc (CapabilitySpace.get_of_mem_takeAll ho)
    · exact hd
  · rcases holds_putSpace hr with ⟨_, hl⟩ | hd
    · exact holds_of_get hc (CapabilitySpace.get_of_get_takeAll hl)
    · exact hd

lemma holds_of_pop (hq : ep.queue = msg :: rest) (h : (view.setQueue eid rest).Holds cap) :
    view.Holds cap := by
  rcases holds_setQueue h with hm | hr
  · exact holds_of_mem_rest hg hq hm
  · exact hr

lemma holds_of_popCaps (hq : ep.queue = msg :: rest) (hc : view.capSpaces[pid]? = some cs)
    (h : ((view.setQueue eid rest).putSpace pid (cs.insertAll msg.caps).1).Holds cap) :
    view.Holds cap := by
  rcases holds_putSpace h with ⟨_, hi⟩ | hp
  · rcases CapabilitySpace.mem_or_get_of_get_insertAll hi with hm | ho
    · exact holds_of_queue hg (hq ▸ mem_cons_self) hm
    · exact holds_of_get hc ho
  · exact holds_of_pop hg hq hp

end

end KernelView

end ZeroOS
