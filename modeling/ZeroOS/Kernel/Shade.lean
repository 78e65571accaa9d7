import ZeroOS.Kernel.System.Run

/-!
Kernels that look alike to everyone who is not shown what some messages say.
-/

namespace ZeroOS

open KernelView BTreeMap

-- Messages whose contents are hidden, and what is left of one of them.
structure Veil where
  hides : Message → Bool
  cover : Message → Message
  hides_cover : ∀ msg, hides msg = true → hides (cover msg) = true
  fromPid_cover : ∀ msg, (cover msg).fromPid = msg.fromPid
  transferredCaps_cover : ∀ msg, (cover msg).transferredCaps = msg.transferredCaps

def Message.veil (hidden : Veil) (msg : Message) : Message :=
  if hidden.hides msg then hidden.cover msg else msg

namespace Message

variable {hidden : Veil} {first second : Message}

lemma fromPid_veil (msg : Message) : (msg.veil hidden).fromPid = msg.fromPid := by
  unfold veil
  split_ifs
  · exact hidden.fromPid_cover msg
  · rfl

lemma eq_or_hidden (hv : first.veil hidden = second.veil hidden) :
    first = second ∨ hidden.hides first = true ∧ hidden.hides second = true ∧
      second.fromPid = first.fromPid := by
  have hp : second.fromPid = first.fromPid := by
    rw [← fromPid_veil first, hv, fromPid_veil]
  unfold veil at hv
  split_ifs at hv with hf hs hs
  · exact .inr ⟨hf, hs, hp⟩
  · exact .inr ⟨hf, hv ▸ hidden.hides_cover _ hf, hp⟩
  · exact .inr ⟨hv ▸ hidden.hides_cover _ hs, hs, hp⟩
  · exact .inl hv

lemma transferredCaps_of_veil (hv : first.veil hidden = second.veil hidden) :
    second.transferredCaps = first.transferredCaps := by
  have hk (msg : Message) : (msg.veil hidden).transferredCaps = msg.transferredCaps := by
    unfold veil
    split_ifs
    · exact hidden.transferredCaps_cover msg
    · rfl
  rw [← hk first, ← hk second, hv]

end Message

def EndpointView.veil (hidden : Veil) (endpoint : EndpointView) : EndpointView :=
  { endpoint with queue := endpoint.queue.map (Message.veil hidden) }

namespace KernelView

def veil (hidden : Veil) (view : KernelView) : KernelView :=
  { view with endpoints := view.endpoints.map fun _ endpoint => endpoint.veil hidden }

variable (hidden : Veil) (view : KernelView)

lemma veil_dropProcess :
    (view.dropProcess pid).veil hidden = (view.veil hidden).dropProcess pid := by
  simp only [veil, dropProcess]
  rw [map_filter (fun _ ep => ep.owner != pid)]
  exact fun _ _ => rfl

lemma veil_addEndpoint :
    (view.addEndpoint owner).veil hidden = (view.veil hidden).addEndpoint owner := by
  simp only [veil, addEndpoint, map_insert]
  rfl

lemma veil_failEndpoint : view.failEndpoint.veil hidden = (view.veil hidden).failEndpoint := by
  simp only [veil, failEndpoint, map_erase]

lemma veil_setQueue :
    (view.setQueue eid queue).veil hidden =
      (view.veil hidden).setQueue eid (queue.map (Message.veil hidden)) := by
  simp only [veil, setQueue]
  rw [map_modify (fun ep => { ep with queue := queue.map (Message.veil hidden) })]
  exact fun _ => rfl

end KernelView

namespace KernelCore

def SameShade (hidden : Veil) (first second : KernelCore) : Prop :=
  first.view.veil hidden = second.view.veil hidden

end KernelCore

def Outcome.Alike {α : Type} (hidden : Veil) (first second : Outcome α) : Prop :=
  second.result = first.result ∧ KernelCore.SameShade hidden first.kernel second.kernel

namespace KernelCore.SameShade

variable {hidden : Veil} {first second : KernelCore}

section

variable (hsh : SameShade hidden first second)

include hsh

lemma capSpaces : second.capSpaces = first.capSpaces := (congrArg KernelView.capSpaces hsh).symm

lemma nextPid : second.nextPid = first.nextPid := (congrArg KernelView.nextPid hsh).symm

lemma nextEndpointId : second.nextEndpointId = first.nextEndpointId :=
  (congrArg KernelView.nextEndpointId hsh).symm

lemma nextCapId : second.nextCapId = first.nextCapId := (congrArg KernelView.nextCapId hsh).symm

lemma view_processes : second.view.processes = first.view.processes :=
  (congrArg KernelView.processes hsh).symm

section

variable (pid caller fromPid : ProcessId) (eid : EndpointId) (name : String) (slot : CapSlot)
  (target toPid : ProcessId) (perms : Permissions) (now : UInt64)

lemma mem_processes : pid ∈ second.processes ↔ pid ∈ first.processes := by
  rw [← mem_view_processes, ← mem_view_processes, hsh.view_processes]

lemma endpoints_cases :
    (first.endpoints[eid]? = none ∧ second.endpoints[eid]? = none) ∨
      ∃ ep other, first.endpoints[eid]? = some ep ∧
        second.endpoints[eid]? = some other ∧ other.owner = ep.owner ∧
        other.pendingMessages.map (Message.veil hidden) =
          ep.pendingMessages.map (Message.veil hidden) := by
  have hg (kernel : KernelCore) : (kernel.view.veil hidden).endpoints[eid]? =
      kernel.endpoints[eid]?.map fun ep => ep.view.veil hidden := by
    rw [veil, get_map, view_endpoints_get, Option.map_map]
    rfl
  have hs := (hg first).symm.trans ((congrArg (·.endpoints[eid]?) hsh).trans (hg second))
  cases hf : first.endpoints[eid]? with
  | none =>
    rw [hf] at hs
    exact .inl ⟨rfl, Option.map_eq_none_iff.mp hs.symm⟩
  | some ep =>
    rw [hf] at hs
    obtain ⟨other, ho, hv⟩ := Option.map_eq_some_iff.mp hs.symm
    exact .inr ⟨ep, other, rfl, ho, congrArg EndpointView.owner hv, congrArg EndpointView.queue hv⟩

lemma change {f : KernelView → KernelView}
    (hv : ∀ view, (f view).veil hidden = f (view.veil hidden)) (ha : after.view = f first.view)
    (ha' : after'.view = f second.view) : SameShade hidden after after' := by
  unfold SameShade
  rw [ha, ha', hv, hv, hsh]

lemma setQueue (eid : EndpointId)
    (hq : queue'.map (Message.veil hidden) = queue.map (Message.veil hidden))
    (ha : after.view = first.view.setQueue eid queue)
    (ha' : after'.view = second.view.setQueue eid queue') : SameShade hidden after after' := by
  unfold SameShade
  rw [ha, ha', veil_setQueue, veil_setQueue, hq, hsh]

lemma burnCapId :
    SameShade hidden { first with nextCapId := first.nextCapId + 1 }
      { second with nextCapId := second.nextCapId + 1 } :=
  hsh.change (f := KernelView.burnCapId) (fun _ => rfl) rfl rfl

lemma installCap (pid : ProcessId) (cs : CapabilitySpace) (hc : cap' = cap) :
    SameShade hidden (first.installCap pid cs cap) (second.installCap pid cs cap') :=
  hsh.change (f := fun view => view.burnCapId.putSpace pid (cs.insert cap).2)
    (fun _ => rfl) rfl (by rw [hc]; rfl)

lemma putSpace (pid : ProcessId) (cs : CapabilitySpace) :
    SameShade hidden { first with capSpaces := first.capSpaces.insert pid cs }
      { second with capSpaces := second.capSpaces.insert pid cs } :=
  hsh.change (f := fun view => view.putSpace pid cs) (fun _ => rfl) rfl rfl

-- The checks look at capability spaces alone.

lemma validateGrantSource :
    second.validateGrantSource pid slot now = first.validateGrantSource pid slot now := by
  simp only [KernelCore.validateGrantSource, hsh.capSpaces]

lemma validateDeriveSource :
    second.validateDeriveSource pid slot now = first.validateDeriveSource pid slot now := by
  simp only [KernelCore.validateDeriveSource, hsh.capSpaces]

lemma validateRevokePermission :
    second.validateRevokePermission pid slot now =
      first.validateRevokePermission pid slot now := by
  simp only [KernelCore.validateRevokePermission, hsh.capSpaces]

lemma validateSendCap :
    second.validateSendCap pid slot now = first.validateSendCap pid slot now := by
  simp only [KernelCore.validateSendCap, hsh.capSpaces]

lemma hasKillPermission :
    second.hasKillPermission caller target = first.hasKillPermission caller target := by
  simp only [KernelCore.hasKillPermission, hsh.capSpaces]

-- Capabilities.

lemma getSpace {pid : ProcessId} (hc : first.capSpaces[pid]? = found) :
    second.capSpaces[pid]? = found := by
  rw [hsh.capSpaces, hc]

lemma createDerivedCap (source : Capability) (perms : Permissions) (now : UInt64) :
    ∃ result after after', first.createDerivedCap toPid source perms now = (after, result) ∧
      second.createDerivedCap toPid source perms now = (after', result) ∧
      SameShade hidden after after' := by
  cases hc : first.capSpaces[toPid]? with
  | none =>
    simp only [createDerivedCap_eq, hc, hsh.getSpace hc]
    exact ⟨_, _, _, rfl, rfl, hsh.burnCapId⟩
  | some =>
    simp only [createDerivedCap_eq, hc, hsh.getSpace hc, hsh.nextCapId]
    exact ⟨_, _, _, rfl, rfl, hsh.installCap _ _ rfl⟩

lemma grantCapability (fromSlot : CapSlot) (toPid : ProcessId) (perms : Permissions)
    (now : UInt64) :
    Outcome.Alike hidden (first.grantCapability fromPid fromSlot toPid perms now)
      (second.grantCapability fromPid fromSlot toPid perms now) := by
  unfold KernelCore.grantCapability
  rw [hsh.validateGrantSource]
  cases first.validateGrantSource fromPid fromSlot now with
  | error => exact ⟨rfl, hsh⟩
  | ok source =>
    obtain ⟨result, _, _, hf, hs, ha⟩ := hsh.createDerivedCap toPid
      source (attenuatePermissions source.permissions perms) now
    simp only [hf, hs]
    cases result with
    | error | ok => exact ⟨rfl, ha⟩

lemma deriveCapability :
    Outcome.Alike hidden (first.deriveCapability pid slot perms now)
      (second.deriveCapability pid slot perms now) := by
  unfold KernelCore.deriveCapability
  rw [hsh.validateDeriveSource]
  cases first.validateDeriveSource pid slot now with
  | error => exact ⟨rfl, hsh⟩
  | ok source =>
    obtain ⟨result, _, _, hf, hs, ha⟩ := hsh.createDerivedCap pid
      source (attenuatePermissions source.permissions perms) now
    simp only [hf, hs]
    cases result with
    | error | ok => exact ⟨rfl, ha⟩

lemma grantCapabilityToEndpoint (ownerPid : ProcessId) (eid : EndpointId) (toPid : ProcessId)
    (perms : Permissions) (now : UInt64) :
    Outcome.Alike hidden (first.grantCapabilityToEndpoint ownerPid eid toPid perms now)
      (second.grantCapabilityToEndpoint ownerPid eid toPid perms now) := by
  unfold KernelCore.grantCapabilityToEndpoint takeNextCapId
  obtain ⟨hf, hs⟩ | ⟨ep, _, hf, hs, ho, -⟩ := hsh.endpoints_cases eid
  · rw [hf, hs]
    exact ⟨rfl, hsh⟩
  rw [hf, hs]
  dsimp only
  rw [ho]
  by_cases hm : ep.owner = ownerPid
  · rw [if_neg (not_not_intro hm), if_neg (not_not_intro hm)]
    cases hc : first.capSpaces[toPid]? with
    | none =>
      simp only [hsh.getSpace hc]
      exact ⟨rfl, hsh.burnCapId⟩
    | some =>
      simp only [hsh.getSpace hc]
      exact ⟨rfl, hsh.installCap _ _ (congrArg (Capability.endpoint · eid perms) hsh.nextCapId)⟩
  · rw [if_pos hm, if_pos hm]
    exact ⟨rfl, hsh⟩

lemma removeSlot :
    Outcome.Alike hidden (first.removeSlot pid slot now) (second.removeSlot pid slot now) := by
  unfold KernelCore.removeSlot
  cases hc : first.capSpaces[pid]? with
  | none =>
    rw [hsh.getSpace hc]
    exact ⟨rfl, hsh⟩
  | some cs =>
    rw [hsh.getSpace hc]
    exact ⟨rfl, hsh.putSpace pid (cs.remove slot).2⟩

lemma revokeCapability :
    Outcome.Alike hidden (first.revokeCapability pid slot now)
      (second.revokeCapability pid slot now) := by
  unfold KernelCore.revokeCapability
  rw [hsh.validateRevokePermission]
  cases first.validateRevokePermission pid slot now with
  | error => exact ⟨rfl, hsh⟩
  | ok => exact hsh.removeSlot ..

lemma deleteCapability :
    Outcome.Alike hidden (first.deleteCapability pid slot now)
      (second.deleteCapability pid slot now) := by
  unfold KernelCore.deleteCapability
  rw [hsh.capSpaces]
  cases first.capSpaces[pid]? with
  | none => exact ⟨rfl, hsh⟩
  | some cs =>
    dsimp only
    cases cs.get slot with
    | none => exact ⟨rfl, hsh⟩
    | some => exact hsh.removeSlot ..

-- Processes and endpoints.

lemma registerProcessWithParent (parent : ProcessId) (now : UInt64) :
    (second.registerProcessWithParent name parent now).2.1 =
        (first.registerProcessWithParent name parent now).2.1 ∧
      SameShade hidden (first.registerProcessWithParent name parent now).1
        (second.registerProcessWithParent name parent now).1 := by
  refine ⟨hsh.nextPid, hsh.change
    (f := fun view => view.addProcess first.nextPid name (first.nextPid + 1)) (fun _ => rfl)
    (first.view_registerProcessWithParent ..) ?_⟩
  rw [view_registerProcessWithParent, hsh.nextPid]

lemma registerProcessWithPid :
    SameShade hidden (first.registerProcessWithPid pid name now).1
      (second.registerProcessWithPid pid name now).1 := by
  obtain ⟨hm, he⟩ | ⟨hm, _, he, hv⟩ := first.registerProcessWithPid_cases pid name now
  · have hm' := (hsh.mem_processes pid).mpr hm
    rw [he, KernelCore.registerProcessWithPid, if_pos hm']
    exact hsh
  · obtain ⟨hm', -⟩ | ⟨-, _, he', hv'⟩ := second.registerProcessWithPid_cases pid name now
    · exact absurd ((hsh.mem_processes pid).mp hm') hm
    · rw [he, he']
      rw [hsh.nextPid] at hv'
      exact hsh.change (f := fun view => view.addProcess pid name
        (if pid ≥ first.nextPid then pid + 1 else first.nextPid)) (fun _ => rfl) hv hv'

lemma killProcess : SameShade hidden (first.killProcess pid now).1 (second.killProcess pid now).1 :=
  hsh.change (f := fun view => view.dropProcess pid)
    (fun view => view.veil_dropProcess ..) (first.view_killProcess ..)
    (second.view_killProcess ..)

lemma killProcessWithCapCheck :
    Outcome.Alike hidden (first.killProcessWithCapCheck caller target now)
      (second.killProcessWithCapCheck caller target now) := by
  unfold KernelCore.killProcessWithCapCheck
  simp only [hsh.mem_processes, hsh.hasKillPermission]
  split_ifs
  · exact ⟨rfl, hsh.killProcess ..⟩
  · exact ⟨rfl, hsh⟩
  · exact ⟨rfl, hsh.killProcess ..⟩
  · exact ⟨rfl, hsh⟩

lemma createEndpoint (owner : ProcessId) (now : UInt64) :
    Outcome.Alike hidden (first.createEndpoint owner now) (second.createEndpoint owner now) := by
  obtain ⟨hm, he⟩ | ⟨hm, hc, _, he, hv⟩ | ⟨cs, hm, hc, he⟩ := first.createEndpoint_cases owner now
  · have hm' : owner ∉ second.processes := (hsh.mem_processes _).not.mpr hm
    rw [he, KernelCore.createEndpoint, if_pos hm']
    exact ⟨rfl, hsh⟩
  · obtain ⟨hm', -⟩ | ⟨-, -, _, he', hv'⟩ | ⟨cs, -, hs', -⟩ := second.createEndpoint_cases owner now
    · exact absurd ((hsh.mem_processes _).mpr hm) hm'
    · rw [he, he']
      exact ⟨rfl, hsh.change (f := fun view => view.failEndpoint.burnCapId)
        (fun view => congrArg KernelView.burnCapId (view.veil_failEndpoint ..)) hv hv'⟩
    · cases (hsh.getSpace hc).symm.trans hs'
  · obtain ⟨hm', -⟩ | ⟨-, hs', -⟩ | ⟨_, -, hs', he'⟩ := second.createEndpoint_cases owner now
    · exact absurd ((hsh.mem_processes _).mpr hm) hm'
    · cases (hsh.getSpace hc).symm.trans hs'
    · cases (hsh.getSpace hc).symm.trans hs'
      have ho : SameShade hidden (first.openEndpoint owner) (second.openEndpoint owner) :=
        hsh.change (f := fun view => view.addEndpoint owner)
          (fun view => view.veil_addEndpoint ..) first.view_openEndpoint
          second.view_openEndpoint
      rw [he, he', hsh.nextCapId, hsh.nextEndpointId]
      exact ⟨rfl, ho.installCap _ _ rfl⟩

-- Messages. What a message says may differ if it is hidden.

lemma ipcSend (fromPid : ProcessId) (slot : CapSlot) (now : UInt64)
    (hm : Message.veil hidden ⟨fromPid, tag', data', []⟩ =
      Message.veil hidden ⟨fromPid, tag, data, []⟩) :
    (second.ipcSend fromPid slot tag' data' now).2.1 =
        (first.ipcSend fromPid slot tag data now).2.1 ∧
      SameShade hidden (first.ipcSend fromPid slot tag data now).1
        (second.ipcSend fromPid slot tag' data' now).1 := by
  unfold KernelCore.ipcSend
  rw [hsh.validateSendCap]
  cases first.validateSendCap fromPid slot now with
  | error => exact ⟨rfl, hsh⟩
  | ok eid =>
    obtain ⟨hf, hs⟩ | ⟨_, _, hf, hs, -, hq⟩ := hsh.endpoints_cases eid
    · simp only [queueMessage, hf, hs]
      exact ⟨trivial, hsh⟩
    · obtain ⟨after, haf, hv⟩ := first.queueMessage_of_get hf ⟨fromPid, tag, data, []⟩
      obtain ⟨after', ha', hv'⟩ := second.queueMessage_of_get hs ⟨fromPid, tag', data', []⟩
      simp only [haf, ha']
      refine ⟨trivial, hsh.setQueue eid ?_ ((after.view_updateSendMetrics ..).trans hv)
        ((after'.view_updateSendMetrics ..).trans hv')⟩
      rw [List.map_append, List.map_append, hq, List.map_singleton, List.map_singleton, hm]

lemma ipcSendWithCaps (tag : UInt32) (data : List UInt8) (slots : List CapSlot) (now : UInt64) :
    SameShade hidden (first.ipcSendWithCaps fromPid slot tag data slots now).kernel
      (second.ipcSendWithCaps fromPid slot tag data slots now).kernel := by
  have hb : second.validateSendCapBasic fromPid slot =
      first.validateSendCapBasic fromPid slot := by
    simp only [validateSendCapBasic, hsh.capSpaces]
  have hx : second.validateCapsExist fromPid slots =
      first.validateCapsExist fromPid slots := by
    simp only [validateCapsExist, hsh.capSpaces]
  obtain ⟨e, he⟩ | ⟨eid, ep, cs, after, hl, hv, hg, hc, ha, he, hi⟩ :=
    first.ipcSendWithCaps_cases fromPid slot tag data slots now
  · obtain ⟨_, he'⟩ | ⟨eid, other, cs, after', hl, hv, hg', hc, ha, he', -⟩ :=
      second.ipcSendWithCaps_cases fromPid slot tag data slots now
    · rw [he, he']
      exact hsh
    · -- Whatever lets the send through on one side lets it through on the other.
      obtain ⟨-, hn⟩ | ⟨ep, _, hg, -⟩ := hsh.endpoints_cases eid
      · cases hn.symm.trans hg'
      · obtain ⟨after, ho, -⟩ := first.ipcSendWithCaps_of_valid tag now hl
          (hb.symm.trans hv) hg (hsh.capSpaces ▸ hc) (hx.symm.trans ha)
        cases (congrArg Outcome.result he).symm.trans (congrArg Outcome.result ho)
  · obtain ⟨hn, -⟩ | ⟨_, other, hget₁, hg', -, hq⟩ := hsh.endpoints_cases eid
    · cases hn.symm.trans hg
    cases hget₁.symm.trans hg
    obtain ⟨after', he', hv'⟩ := second.ipcSendWithCaps_of_valid tag now hl
      (hb.trans hv) hg' (hsh.getSpace hc) (hx.trans ha)
    have hp := hsh.putSpace fromPid (cs.takeAll slots).1
    rw [he, he']
    refine hp.setQueue eid ?_ hi hv'
    rw [List.map_append, List.map_append, hq]

lemma ipcReceive_cases :
    (∃ e, first.ipcReceive pid slot now = (first, .error e) ∧
      second.ipcReceive pid slot now = (second, .error e)) ∨
    (first.ipcReceive pid slot now = (first, .ok none) ∧
      second.ipcReceive pid slot now = (second, .ok none)) ∨
    ∃ msg msg' after after', first.ipcReceive pid slot now = (after, .ok (some msg)) ∧
      second.ipcReceive pid slot now = (after', .ok (some msg')) ∧
      msg.veil hidden = msg'.veil hidden ∧ SameShade hidden after after' := by
  have hv := validateReceiveCap_of_capSpaces hsh.capSpaces pid slot now
  unfold ipcReceive
  rw [hv]
  cases first.validateReceiveCap pid slot now with
  | error e => exact .inl ⟨e, rfl, rfl⟩
  | ok eid =>
    obtain ⟨hf, hs⟩ | ⟨ep, _, hf, hs, -, hq⟩ := hsh.endpoints_cases eid
    · exact .inl ⟨.EndpointNotFound, by simp only [hf], by simp only [hs]⟩
    · refine .inr ?_
      simp only [hf, hs]
      cases hp : ep.pendingMessages with
      | nil =>
        rw [hp, List.map_nil, List.map_eq_nil_iff] at hq
        rw [hq]
        exact .inl ⟨rfl, rfl⟩
      | cons msg =>
        rw [hp] at hq
        obtain ⟨msg', _, hp', hm, hr⟩ := List.map_eq_cons_iff.mp hq
        rw [hp']
        refine .inr ⟨msg, msg', _, _, rfl, rfl, hm.symm, hsh.setQueue eid hr ?_ ?_⟩
        · rw [view_updateReceiveMetrics]
          exact view_putEndpoint _ _ _ _ _ hf rfl
        · rw [view_updateReceiveMetrics]
          exact view_putEndpoint _ _ _ _ _ hs rfl

lemma installTransferredCaps (tcaps : List TransferredCap) (now : UInt64) :
    ∃ result after after', first.installTransferredCaps pid tcaps now = (after, result) ∧
      second.installTransferredCaps pid tcaps now = (after', result) ∧
      SameShade hidden after after' := by
  unfold KernelCore.installTransferredCaps
  cases hc : first.capSpaces[pid]? with
  | none =>
    simp only [hsh.getSpace hc]
    exact ⟨_, _, _, rfl, rfl, hsh⟩
  | some =>
    simp only [hsh.getSpace hc]
    exact ⟨_, _, _, rfl, rfl, hsh.putSpace pid _⟩

lemma ipcReceiveWithCaps :
    SameShade hidden (first.ipcReceiveWithCaps pid slot now).kernel
      (second.ipcReceiveWithCaps pid slot now).kernel := by
  unfold KernelCore.ipcReceiveWithCaps
  obtain ⟨e, hf, hs⟩ | ⟨hf, hs⟩ |
    ⟨msg, _, _, _, hf, hs, hm, hr⟩ := hsh.ipcReceive_cases pid slot now
  · rw [hf, hs]
    exact hsh
  · rw [hf, hs]
    exact hsh
  · rw [hf, hs]
    dsimp only
    rw [Message.transferredCaps_of_veil hm]
    by_cases hc : msg.transferredCaps = []
    · rw [if_pos hc, if_pos hc]
      exact hr
    · rw [if_neg hc, if_neg hc]
      obtain ⟨result, _, _, ha, ha', hi⟩ := hr.installTransferredCaps pid msg.transferredCaps now
      rw [ha, ha']
      cases result with
      | error | ok => exact hi

lemma of_views (ha : after.view = first.view) (ha' : after'.view = second.view) :
    SameShade hidden after after' :=
  hsh.change (f := id) (fun _ => rfl) ha ha'

lemma updateSyscallMetrics :
    SameShade hidden (first.updateSyscallMetrics pid now) (second.updateSyscallMetrics pid now) :=
  hsh.of_views (view_updateSyscallMetrics ..) (view_updateSyscallMetrics ..)

lemma ipcReceive :
    SameShade hidden (first.ipcReceive pid slot now).1 (second.ipcReceive pid slot now).1 := by
  obtain ⟨e, hf, hs⟩ | ⟨hf, hs⟩ | ⟨_, _, _, _, hf, hs, -, hr⟩ := hsh.ipcReceive_cases pid slot now
  · rw [hf, hs]
    exact hsh
  · rw [hf, hs]
    exact hsh
  · rw [hf, hs]
    exact hr

lemma handleExit :
    SameShade hidden (first.handleExit pid code now).kernel
      (second.handleExit pid code now).kernel :=
  hsh.change (f := fun view => view.exitProcess pid) (fun _ => rfl)
    (first.view_handleExit ..) (second.view_handleExit ..)

lemma dispatchSyscall (syscall : Syscall) (now : UInt64) :
    SameShade hidden (first.dispatchSyscall pid syscall now).kernel
      (second.dispatchSyscall pid syscall now).kernel := by
  cases syscall with
  | CreateEndpoint => exact (hsh.createEndpoint ..).2
  | Send | Call => exact (hsh.ipcSend pid _ now rfl).2
  | Receive => exact hsh.ipcReceive ..
  | SendWithCaps => exact hsh.ipcSendWithCaps ..
  | CapGrant => exact (hsh.grantCapability ..).2
  | CapRevoke => exact (hsh.revokeCapability ..).2
  | CapDelete => exact (hsh.deleteCapability ..).2
  | CapDerive => exact (hsh.deriveCapability ..).2
  | Exit => exact hsh.handleExit ..
  | Kill => exact (hsh.killProcessWithCapCheck ..).2
  | _ => exact hsh

lemma perform : SameShade hidden (first.perform now op).1 (second.perform now op).1 := by
  cases op with
  | RegisterProcess => exact (hsh.registerProcessWithParent _ 0 now).2
  | RegisterProcessWithParent _ parent => exact (hsh.registerProcessWithParent _ parent now).2
  | RegisterProcessWithPid => exact hsh.registerProcessWithPid ..
  | KillProcess | FaultProcess => exact hsh.killProcess ..
  | KillProcessWithCapCheck => exact (hsh.killProcessWithCapCheck ..).2
  | CreateEndpoint => exact (hsh.createEndpoint ..).2
  | GrantCapability => exact (hsh.grantCapability ..).2
  | GrantCapabilityToEndpoint => exact (hsh.grantCapabilityToEndpoint ..).2
  | RevokeCapability => exact (hsh.revokeCapability ..).2
  | DeleteCapability => exact (hsh.deleteCapability ..).2
  | DeriveCapability => exact (hsh.deriveCapability ..).2
  | IpcSend => exact (hsh.ipcSend _ _ now rfl).2
  | IpcSendWithCaps => exact hsh.ipcSendWithCaps ..
  | IpcReceive => exact hsh.ipcReceive ..
  | IpcReceiveWithCaps => exact hsh.ipcReceiveWithCaps ..
  | HandleSyscall pid syscall =>
    exact (hsh.updateSyscallMetrics ..).dispatchSyscall pid syscall now
  | AllocateMemory =>
    exact hsh.of_views (first.view_allocateMemory ..) (second.view_allocateMemory ..)
  | FreeMemory => exact hsh.of_views (first.view_freeMemory ..) (second.view_freeMemory ..)
  | UpdateProcessMemory =>
    exact hsh.of_views (first.view_updateProcessMemory ..) (second.view_updateProcessMemory ..)

end

lemma initEndpoint_cases :
    (first.initEndpoint = none ∧ second.initEndpoint = none) ∨
      ∃ eid ep other, first.initEndpoint = some (eid, ep) ∧
        second.initEndpoint = some (eid, other) := by
  have he (kernel : KernelCore) : kernel.initEndpoint.map Prod.fst =
      ((kernel.view.veil hidden).endpoints.toList.find?
        fun (_, ep) => ep.owner == 1).map Prod.fst := by
    simp only [veil, KernelCore.view, Std.ExtTreeMap.toList_map, List.find?_map, Option.map_map]
    rfl
  have hs := (he first).trans ((congrArg (fun view : KernelView =>
    (view.endpoints.toList.find? fun (_, ep) => ep.owner == 1).map Prod.fst)
      hsh).trans (he ..).symm)
  cases hf : first.initEndpoint with
  | none =>
    rw [hf] at hs
    exact .inl ⟨rfl, Option.map_eq_none_iff.mp hs.symm⟩
  | some entry =>
    rw [hf] at hs
    obtain ⟨⟨eid, other⟩, hc, hi⟩ := Option.map_eq_some_iff.mp hs.symm
    exact .inr ⟨entry.1, entry.2, other, rfl, hi ▸ hc⟩

lemma inject : SameShade hidden (first.inject tag data).1 (second.inject tag data).1 := by
  unfold KernelCore.inject
  obtain ⟨hf, hs⟩ | ⟨eid, _, _, hf, hs⟩ := hsh.initEndpoint_cases
  · rw [hf, hs]
    exact hsh
  · have hg := (initEndpoint_some hf).1
    have hg' := (initEndpoint_some hs).1
    obtain ⟨hn, -⟩ | ⟨_, _, ho, hf', -, hq⟩ := hsh.endpoints_cases eid
    · cases hn.symm.trans hg
    cases ho.symm.trans hg
    cases hf'.symm.trans hg'
    rw [hf, hs]
    refine hsh.setQueue eid ?_ (view_putEndpoint _ _ _ _ _ hg rfl)
      (view_putEndpoint _ _ _ _ _ hg' rfl)
    rw [List.map_append, List.map_append, hq]

end

end KernelCore.SameShade

end ZeroOS
