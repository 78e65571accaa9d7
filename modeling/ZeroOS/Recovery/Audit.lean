import Mathlib.Data.List.Induction
import ZeroOS.Kernel.System.Run

/-!
The commits of a raw syscall as an account of what it does to the capability
spaces.
-/

namespace ZeroOS

open BTreeMap Permissions CapSpaces Capability

-- What every space holds, slot by slot.
abbrev Contents := BTreeMap ProcessId (BTreeMap CapSlot Capability)

def CapSpaces.contents (spaces : CapSpaces) : Contents := spaces.map fun _ cspace => cspace.slots

-- The account that a commit gives: an insertion fills a slot with the capability that the
-- commit describes.
def Contents.record (contents : Contents) : CommitType → Contents
  | .CapInserted pid slot capId objectType objectId perms =>
    match ObjectType.fromU8 objectType with
    | none => contents
    | some objectType => contents.modify pid fun slots => slots.insert slot
        ⟨capId, objectType, objectId, Permissions.fromByte perms, 0, 0⟩
  | .CapRemoved pid slot => contents.modify pid fun slots => slots.erase slot
  | .ProcessCreated pid _ _ => contents.insert pid ∅
  | .ProcessExited pid _ => contents.erase pid
  | _ => contents

-- The commits account for the whole difference between two states.
def Complete (before : CapSpaces) (commits : List CommitType) (after : CapSpaces) : Prop :=
  commits.foldl Contents.record before.contents = after.contents

instance (before : CapSpaces) (commits : List CommitType) (after : CapSpaces) :
    Decidable (Complete before commits after) :=
  inferInstanceAs (Decidable (_ = _))

namespace CapabilitySpace

variable (cspace : CapabilitySpace)

lemma insertAll_concat :
    (cspace.insertAll (caps ++ [cap])).1 = ((cspace.insertAll caps).1.insert cap).2 := by
  induction caps generalizing cspace with
  | nil => rfl
  | cons first _ ih => exact ih (cspace.insert first).2

lemma nextSlot_insertAll :
    (cspace.insertAll caps).1.nextSlot = cspace.nextSlot + UInt32.ofNat caps.length := by
  induction caps generalizing cspace with
  | nil => simp [insertAll]
  | cons first rest ih =>
    have hr := ih (cspace.insert first).2
    have hn : (cspace.insert first).2.nextSlot = cspace.nextSlot + 1 := rfl
    simp only [insertAll]
    rw [hr, hn, List.length_cons, Nat.add_comm rest.length 1, UInt32.ofNat_add, UInt32.add_assoc]
    rfl

end CapabilitySpace

lemma slot_ne_of_lt (hl : i < j) (hn : j < i + 2 ^ 32) :
    base + UInt32.ofNat j ≠ base + UInt32.ofNat i := by
  intro he
  have hs : UInt32.ofNat j = UInt32.ofNat i := by grind
  have hm := congrArg UInt32.toNat hs
  simp only [UInt32.toNat_ofNat'] at hm
  omega

namespace CapabilitySpace

variable (cspace : CapabilitySpace)

lemma get_insertAll_of_near (hg : caps[i]? = some cap) (hn : caps.length ≤ i + 2 ^ 32) :
    (cspace.insertAll caps).1.get (cspace.nextSlot + UInt32.ofNat i) = some cap := by
  induction caps using List.reverseRecOn with
  | nil => simp at hg
  | append_singleton init _ ih =>
    rw [List.length_append, List.length_singleton] at hn
    rw [insertAll_concat, get_insert, nextSlot_insertAll]
    by_cases ha : i = init.length
    · subst ha
      rw [List.getElem?_concat_length] at hg
      rw [if_pos rfl, hg]
    · have hl : i < init.length := by
        have := (List.getElem?_eq_some_iff.mp hg).1
        rw [List.length_append, List.length_singleton] at this
        omega
      rw [if_neg (slot_ne_of_lt hl (by omega))]
      rw [List.getElem?_append_left hl] at hg
      exact ih hg (by omega)

lemma get_insertAll_of_untouched
    (hs : ∀ i < caps.length, caps.length ≤ i + 2 ^ 32 → slot ≠ cspace.nextSlot + UInt32.ofNat i) :
    (cspace.insertAll caps).1.get slot = cspace.get slot := by
  induction caps using List.reverseRecOn with
  | nil => rfl
  | append_singleton init _ ih =>
    simp only [List.length_append, List.length_singleton] at hs
    have hl := hs init.length (by omega) (by omega)
    rw [insertAll_concat, get_insert, nextSlot_insertAll, if_neg hl.symm]
    apply ih
    intro i ht hn he
    by_cases hr : init.length = i + 2 ^ 32
    · -- The counter has come round once since: both are the slot filled last.
      apply hl
      have ha : UInt32.ofNat init.length = UInt32.ofNat i := by
        apply UInt32.toNat_inj.mp
        simp
        omega
      rw [he, ha]
    · exact hs i (by omega) (by omega) he

lemma slots_insertAll_recorded_iff (caps : List Capability) :
    (cspace.insertAll (caps.map recorded)).1.slots = (cspace.insertAll caps).1.slots ↔
      ∀ cap ∈ caps.drop (caps.length - 2 ^ 32), cap.Plain := by
  constructor
  · intro he cap hca
    obtain ⟨k, hk⟩ := List.mem_iff_getElem?.mp hca
    rw [List.getElem?_drop] at hk
    have hr : (caps.map recorded)[caps.length - 2 ^ 32 + k]? =
        some cap.recorded := by rw [List.getElem?_map, hk, Option.map_some]
    have ha := cspace.get_insertAll_of_near hk (by omega)
    have hc := cspace.get_insertAll_of_near hr (by rw [List.length_map]; omega)
    rw [get, he] at hc
    rw [get, hc, Option.some.injEq] at ha
    exact (recorded_eq_self_iff cap).mp ha
  · intro hp
    apply ext_get
    intro slot
    by_cases ht : ∃ i < caps.length, caps.length ≤ i + 2 ^ 32 ∧
        slot = cspace.nextSlot + UInt32.ofNat i
    · obtain ⟨i, hl, hn, rfl⟩ := ht
      have hg : caps[i]? = some caps[i] := List.getElem?_eq_getElem hl
      have hm : caps[i] ∈ caps.drop (caps.length - 2 ^ 32) := by
        rw [List.mem_iff_getElem?]
        refine ⟨i - (caps.length - 2 ^ 32), ?_⟩
        rw [List.getElem?_drop, Nat.add_sub_of_le (by omega), hg]
      have hr : (caps.map recorded)[i]? = some caps[i] := by
        rw [List.getElem?_map, hg, Option.map_some, (recorded_eq_self_iff _[i]).mpr (hp _ hm)]
      exact (cspace.get_insertAll_of_near hr (by rwa [List.length_map])).trans
        (cspace.get_insertAll_of_near hg hn).symm
    · have hu : ∀ i < caps.length, caps.length ≤ i + 2 ^ 32 →
          slot ≠ cspace.nextSlot + UInt32.ofNat i :=
        fun i hl hn he => ht ⟨i, hl, hn, he⟩
      refine (cspace.get_insertAll_of_untouched ?_).trans
        (cspace.get_insertAll_of_untouched hu).symm
      rwa [List.length_map]

end CapabilitySpace

namespace Contents

lemma record_ofInsert {contents : Contents} :
    contents.record (.ofInsert pid slot cap) =
      contents.modify pid fun slots => slots.insert slot cap.recorded := by
  simp only [record, CommitType.ofInsert, ObjectType.fromU8_toU8, fromByte_toByte]
  rfl

lemma foldl_record_destroyed {contents : Contents} {owned : List EndpointId} :
    (owned.map CommitType.EndpointDestroyed).foldl record contents = contents := by
  induction owned with
  | nil => rfl
  | cons _ _ ih => exact ih

lemma foldl_record_insertAll (caps : List Capability) {cspace account : CapabilitySpace}
    {contents : Contents} (hn : account.nextSlot = cspace.nextSlot)
    (hg : contents[pid]? = some account.slots) :
    (List.zipWith (.ofInsert pid) (cspace.insertAll caps).2 caps).foldl record contents =
      contents.insert pid (account.insertAll (caps.map recorded)).1.slots := by
  induction caps generalizing cspace account contents with
  | nil => exact (insert_of_get hg).symm
  | cons cap _ ih =>
    have hf : contents.record (.ofInsert pid cspace.nextSlot cap) =
        contents.insert pid (account.insert cap.recorded).2.slots := by
      rw [record_ofInsert, ← hn]
      exact (insert_eq_modify _ pid
        (fun slots => slots.insert account.nextSlot cap.recorded) hg).symm
    simp only [CapabilitySpace.insertAll, List.zipWith_cons_cons, List.foldl_cons, hf,
      List.map_cons]
    rw [@ih (cspace.insert cap).2 (account.insert cap.recorded).2 _
      (by simp only [CapabilitySpace.insert, hn]) (by simp), insert_insert]

end Contents

namespace KernelCore

variable (kernel : KernelCore)

lemma contents_insert (spaces : CapSpaces) (pid : ProcessId) (cspace : CapabilitySpace) :
    contents (spaces.insert pid cspace) = spaces.contents.insert pid cspace.slots :=
  map_insert spaces _ pid cspace

lemma contents_erase {spaces : CapSpaces} :
    contents (spaces.erase pid) = spaces.contents.erase pid :=
  map_erase spaces _

lemma contents_get {spaces : CapSpaces} {pid : ProcessId} (hc : spaces[pid]? = some cspace) :
    spaces.contents[pid]? = some cspace.slots := by
  rw [contents, get_map, hc, Option.map_some]

lemma complete_insert_iff (cap : Capability) (hc : spaces[pid]? = some cspace) :
    Complete spaces [.ofInsert pid cspace.nextSlot cap] (spaces.insert pid (cspace.insert cap).2) ↔
      cap.Plain := by
  simp only [Complete, List.foldl_cons, List.foldl_nil, Contents.record_ofInsert, contents_insert]
  rw [← insert_eq_modify _ pid
    (fun slots => slots.insert cspace.nextSlot cap.recorded) (contents_get hc)]
  rw [← recorded_eq_self_iff]
  constructor
  · intro he
    have hp := congrArg (fun contents => contents[pid]?) he
    simp only [get_insert, ite_true, Option.some.injEq] at hp
    have hs := congrArg (fun slots => slots[cspace.nextSlot]?) hp
    simpa [CapabilitySpace.insert] using hs
  · intro hl
    rw [hl]
    rfl

section

variable (pid : ProcessId) (slot : CapSlot) (now : UInt64)

lemma complete_killProcess_iff :
    Complete kernel.capSpaces (kernel.perform now (.KillProcess pid)).2
        (kernel.perform now (.KillProcess pid)).1.capSpaces ↔
      (pid ∈ kernel.capSpaces → pid ∈ kernel.processes) := by
  have hc : (kernel.perform now (.KillProcess pid)).1.capSpaces =
      kernel.capSpaces.erase pid := congrArg KernelView.capSpaces (kernel.view_killProcess ..)
  have ho : (kernel.perform now (.KillProcess pid)).2 =
      (if pid ∈ kernel.processes then [.ProcessExited pid (-1)] else []) ++
        (kernel.ownedEndpoints pid).map .EndpointDestroyed := by
    simp only [perform, commitTypesOf, killProcess_commits, List.map_append, List.map_map]
    split_ifs <;> rfl
  rw [hc, ho, Complete, List.foldl_append, Contents.foldl_record_destroyed, contents_erase]
  by_cases hm : pid ∈ kernel.processes
  · simp [hm, Contents.record]
  · simp only [hm, ite_false, List.foldl_nil]
    constructor
    · intro he hs
      obtain ⟨_, hg⟩ := (mem_iff ..).mp hs
      have ha := congrArg (fun contents => contents[pid]?) he
      simp [contents_get hg] at ha
    · intro hn
      refine (erase_of_get_none ?_).symm
      rw [contents, get_map, not_mem_iff.mp hn, Option.map_none]

lemma complete_kill (now : UInt64) :
    Complete kernel.capSpaces (kernel.perform now (.KillProcessWithCapCheck caller target)).2
      (kernel.perform now (.KillProcessWithCapCheck caller target)).1.capSpaces := by
  simp only [perform]
  rcases kernel.killProcessWithCapCheck_cases caller target now with ⟨e, -, he⟩ | ⟨hm, -, he⟩
  · rw [he]
    rfl
  · rw [he]
    exact (kernel.complete_killProcess_iff ..).mpr fun _ => hm

lemma complete_register (now : UInt64) :
    Complete kernel.capSpaces (kernel.perform now (.RegisterProcess name)).2
      (kernel.perform now (.RegisterProcess name)).1.capSpaces :=
  (contents_insert kernel.capSpaces kernel.nextPid CapabilitySpace.new).symm

lemma complete_createEndpoint (owner : ProcessId) (now : UInt64) :
    Complete kernel.capSpaces (kernel.perform now (.CreateEndpoint owner)).2
      (kernel.perform now (.CreateEndpoint owner)).1.capSpaces := by
  simp only [perform]
  rcases kernel.createEndpoint_cases owner now with
    ⟨-, he⟩ | ⟨-, -, kernel', he, hv⟩ | ⟨_, -, hc, he⟩
  · rw [he]
    rfl
  · have hs : kernel'.capSpaces = kernel.capSpaces := congrArg KernelView.capSpaces hv
    rw [he]
    simp only [hs]
    rfl
  · rw [he]
    exact (complete_insert_iff (.endpoint kernel.nextCapId kernel.nextEndpointId full)
      hc).mpr ⟨rfl, rfl⟩

lemma complete_grant_iff (toPid : ProcessId) (fromSlot : CapSlot) (now : UInt64) :
    Complete kernel.capSpaces (kernel.perform now (.GrantCapability fromPid fromSlot toPid perms)).2
        (kernel.perform now (.GrantCapability fromPid fromSlot toPid perms)).1.capSpaces ↔
      ∀ source, kernel.validateGrantSource fromPid fromSlot now = .ok source →
        toPid ∈ kernel.capSpaces → source.Plain := by
  simp only [perform]
  rcases kernel.grantCapability_cases fromPid fromSlot toPid perms now with
    ⟨e, hr, he⟩ | ⟨source, hv, hn, he⟩ | ⟨source, cspace, hv, hc, he⟩
  · rw [he]
    refine iff_of_true rfl ?_
    intro source hv
    rw [hr] at hv
    cases hv
  · rw [he]
    refine iff_of_true rfl ?_
    intro _ _ hm
    exact absurd hm (not_mem_iff.mpr hn)
  · rw [he]
    have hi := complete_insert_iff (source.derived kernel.nextCapId
      (attenuatePermissions source.permissions perms)) hc
    refine Iff.trans hi ?_
    constructor
    · intro hp other ho _
      rw [hv] at ho
      cases ho
      exact hp
    · intro ha
      exact ha source hv ((mem_iff ..).mpr ⟨cspace, hc⟩)

lemma complete_delete :
    Complete kernel.capSpaces (kernel.perform now (.DeleteCapability pid slot)).2
      (kernel.perform now (.DeleteCapability pid slot)).1.capSpaces := by
  simp only [perform]
  rcases kernel.deleteCapability_cases pid slot now with
    ⟨e, -, he⟩ | ⟨_, cspace, hc, -, he⟩
  · rw [he]
    rfl
  · rw [he]
    refine Eq.trans ?_ (contents_insert kernel.capSpaces pid (cspace.remove slot).2).symm
    exact (insert_eq_modify kernel.capSpaces.contents pid
      (fun slots => slots.erase slot) (contents_get hc)).symm

lemma complete_send (tag : UInt32) (data : List UInt8) :
    Complete kernel.capSpaces (kernel.perform now (.IpcSend pid slot tag data)).2
      (kernel.perform now (.IpcSend pid slot tag data)).1.capSpaces := by
  simp only [perform]
  rcases kernel.ipcSend_cases pid slot tag data now with
    ⟨e, -, he⟩ | ⟨_, _, kernel', _, _, he, hv⟩
  · rw [he]
    rfl
  · have hc : kernel'.capSpaces = kernel.capSpaces := congrArg KernelView.capSpaces hv
    rw [he]
    simp only [hc]
    rfl

lemma complete_receiveWithCaps_iff :
    Complete kernel.capSpaces (kernel.perform now (.IpcReceiveWithCaps pid slot)).2
        (kernel.perform now (.IpcReceiveWithCaps pid slot)).1.capSpaces ↔
      ∀ msg rest, kernel.receivable pid slot now = msg :: rest →
        ∀ cap ∈ msg.caps.drop (msg.caps.length - 2 ^ 32), cap.Plain := by
  simp only [perform]
  rcases kernel.ipcReceiveWithCaps_cases pid slot now with
    ⟨e, hn, he⟩ | ⟨eid, endpoint, hv, hg, hq, he⟩ |
    ⟨eid, endpoint, cspace, msg, rest, kernel', hv, hg, hc, hq, he, hi⟩
  · rw [he, hn]
    exact iff_of_true rfl (by rintro _ _ ⟨⟩)
  · rw [he, kernel.receivable_of_valid hv hg, hq]
    exact iff_of_true rfl (by rintro _ _ ⟨⟩)
  · have hs : kernel'.capSpaces = kernel.capSpaces.insert pid (cspace.insertAll msg.caps).1 :=
      congrArg KernelView.capSpaces hi
    rw [he, kernel.receivable_of_valid hv hg, hq]
    simp only [hs, commitTypesOf, List.map_zipWith, Complete, contents_insert]
    have ha := Contents.foldl_record_insertAll msg.caps (rfl : cspace.nextSlot = _)
      (contents_get hc)
    refine Iff.trans (Eq.congr ha rfl) ?_
    refine Iff.trans ?_ ((cspace.slots_insertAll_recorded_iff msg.caps).trans ?_)
    · constructor
      · intro hsa
        have hp := congrArg (fun contents => contents[pid]?) hsa
        simpa using hp
      · intro hl
        rw [hl]
    · constructor
      · rintro hpl other _ ho
        cases ho
        exact hpl
      · intro hb
        exact hb msg rest rfl

lemma complete_performReceive_iff :
    Complete kernel.capSpaces (kernel.performReceive now pid slot).2
        (kernel.performReceive now pid slot).1.capSpaces ↔
      ∀ first second rest, kernel.receivable pid slot now = first :: second :: rest →
        ∀ cap ∈ second.caps.drop (second.caps.length - 2 ^ 32), cap.Plain := by
  unfold performReceive
  rcases kernel.ipcReceive_cases pid slot now with
    ⟨e, hn, he⟩ | ⟨eid, endpoint, hv, hg, hq, he⟩ |
    ⟨eid, endpoint, msg, rest, popped, hv, hg, hq, he, hi⟩
  · rw [he, hn]
    exact iff_of_true rfl (by rintro _ _ _ ⟨⟩)
  · rw [he, kernel.receivable_of_valid hv hg, hq]
    exact iff_of_true rfl (by rintro _ _ _ ⟨⟩)
  · have hs : popped.capSpaces = kernel.capSpaces := congrArg KernelView.capSpaces hi
    have hp := popped.complete_receiveWithCaps_iff pid slot now
    rw [kernel.receivable_of_setQueue hv hg hi, hs] at hp
    rw [he, kernel.receivable_of_valid hv hg, hq]
    refine hp.trans ?_
    constructor
    · intro hl first second others hc
      exact hl _ _ (List.cons.inj hc).2
    · intro ha second others hc
      exact ha msg second others (by rw [hc])

end

lemma contents_insert_self_iff {spaces : CapSpaces} (hc : spaces[pid]? = some cspace) :
    spaces.contents = contents (spaces.insert pid (cspace.insert cap).2) ↔
      cspace.get cspace.nextSlot = some cap := by
  rw [contents_insert]
  constructor
  · intro he
    have hp := congrArg (fun contents => contents[pid]?) he
    simp only [contents_get hc, get_insert, ite_true, Option.some.injEq] at hp
    rw [CapabilitySpace.get, hp]
    simp [CapabilitySpace.insert]
  · intro hg
    have hs : (cspace.insert cap).2.slots = cspace.slots := insert_of_get hg
    rw [hs, insert_of_get (contents_get hc)]

-- Init is given a capability that is not yet in the slot it goes to. When the endpoint is its
-- own, the capability of the owner takes a slot first.
def InitGains (kernel : KernelCore) (target : ProcessId) : Prop :=
  target ∈ kernel.processes ∧ target ∈ kernel.capSpaces ∧
    ∃ initSpace, kernel.capSpaces[(1 : ProcessId)]? = some initSpace ∧
      initSpace.get (initSpace.nextSlot + if target = 1 then 1 else 0) ≠
        some (.endpoint (kernel.nextCapId + 1) kernel.nextEndpointId Permissions.full)

lemma grantToInit_cases :
    let opened := (kernel.openEndpoint target).installCap target cspace
      (.endpoint kernel.nextCapId kernel.nextEndpointId full)
    (opened.grantCapabilityToEndpoint target kernel.nextEndpointId 1 full now).kernel.capSpaces =
      match opened.capSpaces[(1 : ProcessId)]? with
      | none => opened.capSpaces
      | some initSpace => opened.capSpaces.insert 1 (initSpace.insert
          (.endpoint (kernel.nextCapId + 1) kernel.nextEndpointId full)).2 := by
  intro opened
  have hg : opened.endpoints[kernel.nextEndpointId]? =
      some ⟨kernel.nextEndpointId, target, [], {}⟩ := by
    simp [opened, installCap, openEndpoint]
  rcases opened.grantCapabilityToEndpoint_cases target kernel.nextEndpointId 1 full now
    with ⟨e, ho, -⟩ | ⟨_, _, _, hn, he⟩ | ⟨_, initSpace, _, _, hc, he⟩
  · exact absurd rfl (ho _ hg)
  · rw [he, hn]
  · rw [he, hc]
    rfl

lemma complete_performFor_iff :
    Complete kernel.capSpaces (kernel.performFor now target).2
        (kernel.performFor now target).1.capSpaces ↔ ¬ kernel.InitGains target := by
  have hn := kernel.complete_createEndpoint target now
  simp only [perform] at hn
  unfold performFor
  rcases kernel.createEndpoint_cases target now with
    ⟨ho, he⟩ | ⟨-, hnn, _, he, -⟩ | ⟨cspace, hr, hc, he⟩
  · rw [he] at hn ⊢
    exact iff_of_true hn fun hg => ho hg.1
  · rw [he] at hn ⊢
    exact iff_of_true hn fun hg => not_mem_iff.mpr hnn hg.2.1
  · rw [he] at hn ⊢
    rw [Complete, hn, kernel.grantToInit_cases]
    generalize ha : endpoint (kernel.nextCapId + 1) kernel.nextEndpointId full = cap
    have hm : target ∈ kernel.capSpaces := (mem_iff ..).mpr ⟨cspace, hc⟩
    simp only [InitGains, ha, hr, hm, true_and, installCap, openEndpoint]
    by_cases hi : target = 1
    · subst hi
      simp only [get_insert, ite_true, hc, Option.some.injEq, exists_eq_left']
      rw [contents_insert_self_iff (by simp), not_not]
      have hs : (cspace.insert (.endpoint kernel.nextCapId kernel.nextEndpointId
          full)).2.nextSlot = cspace.nextSlot + 1 := rfl
      have hne : cspace.nextSlot ≠ cspace.nextSlot + 1 := by simp
      rw [hs, CapabilitySpace.get_insert, if_neg hne]
    · simp only [get_insert, hi, ite_false, UInt32.add_zero]
      cases hon : kernel.capSpaces[(1 : ProcessId)]? with
      | none => simp
      | some =>
        simp only [Option.some.injEq, exists_eq_left']
        rw [contents_insert_self_iff (by rw [get_insert, if_neg hi, hon]), not_not]

end KernelCore

namespace System

-- The changes to capability spaces that a raw syscall makes and no commit accounts for: an exit
-- of an unregistered process that still has a space, the capability that Init is given, and
-- generations and expiries of granted and of received capabilities.
def Unaccounted (kernel : KernelCore) (sender : ProcessId) (syscallNum : UInt32)
    (args : SyscallArgs) (now : UInt64) : Prop :=
  (syscallNum = 0x11 ∧ sender ∈ kernel.capSpaces ∧ sender ∉ kernel.processes) ∨
  (syscallNum = 0x15 ∧ sender = 1 ∧ kernel.InitGains args.word0.toUInt64) ∨
  (syscallNum = 0x30 ∧ ∃ source, kernel.validateGrantSource sender args.word0 now = .ok source ∧
    args.word1.toUInt64 ∈ kernel.capSpaces ∧ ¬ source.Plain) ∨
  (syscallNum = 0x41 ∧ ∃ first second rest,
    kernel.receivable sender args.word0 now = first :: second :: rest ∧
    ∃ cap ∈ second.caps.drop (second.caps.length - 2 ^ 32), ¬ cap.Plain)

lemma complete_performRaw_iff {kernel : KernelCore} :
    Complete kernel.capSpaces (kernel.performRaw now sender (.decode sender syscallNum args data)).2
        (kernel.performRaw now sender (.decode sender syscallNum args data)).1.capSpaces ↔
      ¬ Unaccounted kernel sender syscallNum args now := by
  have hd := RawCall.decodes sender syscallNum args data
  generalize RawCall.decode sender syscallNum args data = call at hd ⊢
  cases hd with
  | Exit =>
    refine (kernel.complete_killProcess_iff ..).trans ?_
    simp [Unaccounted]
  | EndpointFor hi =>
    refine (kernel.complete_performFor_iff).trans ?_
    simp [Unaccounted, hi]
  | NoEndpointFor hi => exact iff_of_true rfl (by simp [Unaccounted, hi])
  | Grant =>
    refine (kernel.complete_grant_iff args.word1.toUInt64 args.word0 now).trans ?_
    simp [Unaccounted]
  | Receive =>
    refine (kernel.complete_performReceive_iff ..).trans ?_
    simp [Unaccounted]
  | Kill => exact iff_of_true (kernel.complete_kill now) (by simp [Unaccounted])
  | Register | Spawn => exact iff_of_true (kernel.complete_register now) (by simp [Unaccounted])
  | Delete => exact iff_of_true (kernel.complete_delete _ _ now) (by simp [Unaccounted])
  | CreateEndpoint => exact iff_of_true (kernel.complete_createEndpoint ..) (by simp [Unaccounted])
  | Send => exact iff_of_true (kernel.complete_send _ _ _ ..) (by simp [Unaccounted])
  | NoRegister | NoSpawn => exact iff_of_true rfl (by simp [Unaccounted])
  | Other _ ho =>
    simp only [RawCall.numbers, List.mem_cons, not_or] at ho
    exact iff_of_true rfl (by simp [Unaccounted, ho])

def appended (system : System) (hal : Hal) (sender : ProcessId) (syscallNum : UInt32)
    (args : SyscallArgs) (data : List UInt8) : List CommitType :=
  (system.kernel.rawSyscall hal syscallNum sender args data (system.uptimeNanos hal)).2

-- The commits appended by a raw syscall account for every change that it makes to the
-- capability spaces exactly when none of the unaccounted changes is made.
theorem complete_iff (system : System) (hal : Hal) (sender : ProcessId) (syscallNum : UInt32)
    (args : SyscallArgs) (data : List UInt8) :
    (system.processSyscall hal sender syscallNum args data).1.commitlog =
        (system.gateway.appendAll (system.appended hal sender syscallNum args data)
          (system.uptimeNanos hal)).commitlog ∧
    (Complete system.kernel.capSpaces (system.appended hal sender syscallNum args data)
        (system.processSyscall hal sender syscallNum args data).1.kernel.capSpaces ↔
      ¬ Unaccounted system.kernel sender syscallNum args (system.uptimeNanos hal)) := by
  refine ⟨system.processSyscall_commitlog .., ?_⟩
  obtain ⟨hv, hc⟩ := system.kernel.rawSyscall_eq hal syscallNum sender args data
    (system.uptimeNanos hal)
  have hs := congrArg KernelView.capSpaces hv
  rw [← complete_performRaw_iff,
    ← hc]
  exact Eq.congr rfl (congrArg contents hs)

def initAndService : System :=
  let booted := Hal.unsupported 0
  ["init", "service"].foldl (fun system name => (system.registerProcess booted name).1)
    (System.new booted)

-- Slot 0 of Init is filled and no commit says so.
theorem not_complete_createEndpointFor :
    ¬ Complete initAndService.kernel.capSpaces
        (initAndService.appended (Hal.unsupported 0) 1 0x15 #v[2, 0, 0, 0] [])
        (initAndService.processSyscall (Hal.unsupported 0) 1 0x15 #v[2, 0, 0, 0]
          []).1.kernel.capSpaces := by
  decide +kernel

end System

end ZeroOS
