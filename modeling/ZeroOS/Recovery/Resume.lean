import ZeroOS.Recovery.Faithful

/-!
Going on after a replay.
-/

namespace ZeroOS

open CapabilitySpace Option Run
open KernelView

inductive Request where
  | RegisterProcess (name : String)
  | RegisterProcessWithPid (pid : ProcessId) (name : String)
  | CreateEndpoint (owner : ProcessId)
  | GrantCapability (fromPid : ProcessId) (fromSlot : CapSlot) (toPid : ProcessId)
      (perms : Permissions)
  | GrantCapabilityToEndpoint (ownerPid : ProcessId) (eid : EndpointId) (toPid : ProcessId)
      (perms : Permissions)
  | DeriveCapability (pid : ProcessId) (slot : CapSlot) (perms : Permissions)
  | DeleteCapability (pid : ProcessId) (slot : CapSlot)

inductive Allocation where
  | Process (pid : ProcessId)
  | Endpoint (result : Except KernelError (EndpointId × CapSlot))
  | Slot (result : Except KernelError CapSlot)
  | Deleted (result : Except KernelError Unit)

def System.serve (system : System) (hal : Hal) : Request → System × Allocation
  | .RegisterProcess name =>
    let (system, pid) := system.registerProcess hal name
    (system, .Process pid)
  | .RegisterProcessWithPid pid name =>
    let (system, pid) := system.registerProcessWithPid hal pid name
    (system, .Process pid)
  | .CreateEndpoint owner =>
    let (system, result) := system.createEndpoint hal owner
    (system, .Endpoint result)
  | .GrantCapability fromPid fromSlot toPid perms =>
    let (system, result) := system.grantCapability hal fromPid fromSlot toPid perms
    (system, .Slot result)
  | .GrantCapabilityToEndpoint ownerPid eid toPid perms =>
    let (system, result) := system.grantCapabilityToEndpoint hal ownerPid eid toPid perms
    (system, .Slot result)
  | .DeriveCapability pid slot perms =>
    let (system, result) := system.deriveCapability hal pid slot perms
    (system, .Slot result)
  | .DeleteCapability pid slot =>
    let (system, result) := system.deleteCapability hal pid slot
    (system, .Deleted result)

def KernelCore.serve (kernel : KernelCore) (now : UInt64) : Request → KernelCore × Allocation
  | .RegisterProcess name =>
    let (kernel, pid, _) := kernel.registerProcess name now
    (kernel, .Process pid)
  | .RegisterProcessWithPid pid name =>
    let (kernel, pid, _) := kernel.registerProcessWithPid pid name now
    (kernel, .Process pid)
  | .CreateEndpoint owner =>
    let outcome := kernel.createEndpoint owner now
    (outcome.kernel, .Endpoint outcome.result)
  | .GrantCapability fromPid fromSlot toPid perms =>
    let outcome := kernel.grantCapability fromPid fromSlot toPid perms now
    (outcome.kernel, .Slot outcome.result)
  | .GrantCapabilityToEndpoint ownerPid eid toPid perms =>
    let outcome := kernel.grantCapabilityToEndpoint ownerPid eid toPid perms now
    (outcome.kernel, .Slot outcome.result)
  | .DeriveCapability pid slot perms =>
    let outcome := kernel.deriveCapability pid slot perms now
    (outcome.kernel, .Slot outcome.result)
  | .DeleteCapability pid slot =>
    let outcome := kernel.deleteCapability pid slot now
    (outcome.kernel, .Deleted outcome.result)

lemma System.serve_eq (system : System) (hal : Hal) (req : Request) :
    (system.serve hal req).1.kernel = (system.kernel.serve (system.uptimeNanos hal) req).1 ∧
      (system.serve hal req).2 = (system.kernel.serve (system.uptimeNanos hal) req).2 := by
  cases req <;> exact ⟨rfl, rfl⟩

def Capability.anonymous (cap : Capability) : Capability := { cap with id := 0 }

def CapabilitySpace.anonymous (cspace : CapabilitySpace) : CapabilitySpace :=
  { cspace with slots := cspace.slots.map fun _ cap => cap.anonymous }

def Ledger.anonymous (ledger : Ledger) : Ledger :=
  { ledger with capSpaces := ledger.capSpaces.map fun _ cspace => cspace.anonymous }

namespace Ledger

variable (ledger : Ledger)

-- The allocator. It has no clock: capabilities that never expire are all it meets.

def check (pid : ProcessId) (slot : CapSlot) (required : Permissions) :
    Except KernelError Capability :=
  match ledger.capSpaces[pid]? with
  | none => .error .ProcessNotFound
  | some cspace => (axiomCheck cspace slot required none 0).mapError mapAxiomError

def install (pid : ProcessId) (cap : Capability) : Ledger × Except KernelError CapSlot :=
  match ledger.capSpaces[pid]? with
  | none => (ledger, .error .ProcessNotFound)
  | some cspace => (ledger.putSpace pid (cspace.insert cap).2, .ok cspace.nextSlot)

def openEndpoint (owner : ProcessId) : Ledger × Except KernelError (EndpointId × CapSlot) :=
  if owner ∉ ledger.processes then (ledger, .error .ProcessNotFound)
  else
    let id := ledger.nextEndpointId
    let nextEndpointId := ledger.nextEndpointId + 1
    match ledger.capSpaces[owner]? with
    | none => ({ ledger with nextEndpointId, endpoints := ledger.endpoints.erase id },
        .error .ProcessNotFound)
    | some cspace =>
      ({ ledger with nextEndpointId, endpoints := ledger.endpoints.insert id (id, owner) }.putSpace
        owner (cspace.insert (.endpoint 0 id Permissions.full)).2, .ok (id, cspace.nextSlot))

def derive (fromPid : ProcessId) (fromSlot : CapSlot) (required : Permissions) (toPid : ProcessId)
    (perms : Permissions) : Ledger × Except KernelError CapSlot :=
  match ledger.check fromPid fromSlot required with
  | .error e => (ledger, .error e)
  | .ok source =>
    ledger.install toPid (source.derived 0 (attenuatePermissions source.permissions perms))

def grantToEndpoint (ownerPid : ProcessId) (eid : EndpointId) (toPid : ProcessId)
    (perms : Permissions) : Ledger × Except KernelError CapSlot :=
  match ledger.endpoints[eid]? with
  | none => (ledger, .error .EndpointNotFound)
  | some (_, owner) =>
    if owner ≠ ownerPid then (ledger, .error .PermissionDenied)
    else ledger.install toPid (.endpoint 0 eid perms)

def delete (pid : ProcessId) (slot : CapSlot) : Ledger × Except KernelError Unit :=
  match ledger.capSpaces[pid]? with
  | none => (ledger, .error .ProcessNotFound)
  | some cspace =>
    match cspace.get slot with
    | none => (ledger, .error .InvalidCapability)
    | some _ => (ledger.putSpace pid (cspace.remove slot).2, .ok ())

def serve : Request → Ledger × Allocation
  | .RegisterProcess name => (ledger.createProcess ledger.nextPid name, .Process ledger.nextPid)
  | .RegisterProcessWithPid pid name =>
    (if pid ∈ ledger.processes then ledger else ledger.createProcess pid name, .Process pid)
  | .CreateEndpoint owner => (ledger.openEndpoint owner).map id .Endpoint
  | .GrantCapability fromPid fromSlot toPid perms =>
    (ledger.derive fromPid fromSlot KernelCore.grantPerms toPid perms).map id .Slot
  | .GrantCapabilityToEndpoint ownerPid eid toPid perms =>
    (ledger.grantToEndpoint ownerPid eid toPid perms).map id .Slot
  | .DeriveCapability pid slot perms =>
    (ledger.derive pid slot Permissions.default pid perms).map id .Slot
  | .DeleteCapability pid slot => (ledger.delete pid slot).map id .Deleted

end Ledger

namespace CapabilitySpace

variable (cspace : CapabilitySpace)

lemma anonymous_insert :
    (cspace.insert cap).2.anonymous = (cspace.anonymous.insert cap.anonymous).2 := by
  simp only [anonymous, insert, BTreeMap.map_insert]

lemma anonymous_remove : (cspace.remove slot).2.anonymous = (cspace.anonymous.remove slot).2 := by
  simp only [anonymous, remove, BTreeMap.map_erase]

lemma get_anonymous : cspace.anonymous.get slot = (cspace.get slot).map Capability.anonymous :=
  BTreeMap.get_map _ _ _

lemma axiomCheck_anonymous (hpl : ∀ cap, cspace.get slot = some cap → cap.Plain) :
    axiomCheck cspace.anonymous slot required none 0 =
      (axiomCheck cspace slot required none now).map Capability.anonymous := by
  unfold axiomCheck
  rw [get_anonymous]
  cases hg : cspace.get slot with
  | none => rfl
  | some cap =>
    have he := (hpl cap hg).2
    have hl : cap.isExpired now = false := by simp [Capability.isExpired, he]
    have hl' : cap.anonymous.isExpired 0 = false := by
      simp [Capability.isExpired]
    have hp : cap.anonymous.permissions = cap.permissions := rfl
    simp only [map_some, hl, hl', any_none, hp, Bool.false_eq_true, ite_false]
    split_ifs
    · rfl
    · rfl

end CapabilitySpace

namespace CapSpaces

def Plain (spaces : CapSpaces) : Prop :=
  ∀ pid slot cap, spaces.capAt pid slot = some cap → cap.Plain

variable {spaces : CapSpaces} {pid : ProcessId} {cspace : CapabilitySpace}

lemma Plain.insert (hpl : spaces.Plain) (hs : spaces[pid]? = some cspace)
    (hc : cap.Plain) : Plain (spaces.insert pid (cspace.insert cap).2) := by
  intro other slot held hh
  rw [capAt_insert] at hh
  split_ifs at hh
  · rcases eq_or_get_of_get_insert hh with rfl | ho
    · exact hc
    · exact hpl pid _ _ ((capAt_of_get hs _).trans ho)
  · exact hpl _ _ _ hh

lemma Plain.remove (hpl : spaces.Plain) (hc : spaces[pid]? = some cspace) :
    Plain (spaces.insert pid (cspace.remove slot).2) := by
  intro other slot' held hh
  rw [capAt_insert] at hh
  split_ifs at hh
  · exact hpl pid _ _ ((capAt_of_get hc _).trans (get_of_get_remove hh))
  · exact hpl _ _ _ hh

lemma Plain.register (hpl : spaces.Plain) (pid : ProcessId) : Plain (spaces.insert pid new) := by
  intro other slot held hh
  rw [capAt_insert] at hh
  split_ifs at hh
  · simp [CapabilitySpace.new, CapabilitySpace.get] at hh
  · exact hpl _ _ _ hh

end CapSpaces

namespace Ledger

variable (ledger : Ledger)

lemma capSpaces_anonymous {pid : ProcessId} :
    ledger.anonymous.capSpaces[pid]? = ledger.capSpaces[pid]?.map CapabilitySpace.anonymous :=
  BTreeMap.get_map _ _ _

lemma anonymous_putSpace :
    (ledger.putSpace pid cspace).anonymous = ledger.anonymous.putSpace pid cspace.anonymous := by
  simp only [anonymous, putSpace, BTreeMap.map_insert]

lemma anonymous_createProcess :
    (ledger.createProcess pid name).anonymous = ledger.anonymous.createProcess pid name := by
  have hn : new.anonymous = new := rfl
  simp only [anonymous, createProcess, BTreeMap.map_insert, hn]

lemma check_anonymous (hpl : ledger.capSpaces.Plain) :
    ledger.anonymous.check pid slot required =
      (match ledger.capSpaces[pid]? with
        | none => Except.error KernelError.ProcessNotFound
        | some cspace => (axiomCheck cspace slot required none now).mapError mapAxiomError).map
          Capability.anonymous := by
  unfold check
  rw [capSpaces_anonymous]
  cases hc : ledger.capSpaces[pid]? with
  | none => rfl
  | some cspace =>
    simp only [map_some]
    rw [cspace.axiomCheck_anonymous fun cap hg =>
      hpl pid slot cap ((CapSpaces.capAt_of_get hc _).trans hg)]
    cases axiomCheck cspace slot required none now with
    | error | ok => rfl

lemma install_anonymous (pid : ProcessId) (cap : Capability) :
    ledger.anonymous.install pid cap.anonymous =
      match ledger.capSpaces[pid]? with
      | none => (ledger.anonymous, .error .ProcessNotFound)
      | some cspace => ((ledger.putSpace pid (cspace.insert cap).2).anonymous, .ok cspace.nextSlot) := by
  unfold install
  rw [capSpaces_anonymous]
  cases ledger.capSpaces[pid]? with
  | none => rfl
  | some =>
    dsimp only
    rw [anonymous_putSpace, anonymous_insert]
    rfl

lemma derive_anonymous {source : Capability}
    (hc : ledger.anonymous.check fromPid fromSlot required = .ok source.anonymous)
    (toPid : ProcessId) (perms : Permissions) (id : UInt64) :
    ledger.anonymous.derive fromPid fromSlot required toPid perms =
      match ledger.capSpaces[toPid]? with
      | none => (ledger.anonymous, .error .ProcessNotFound)
      | some cspace => ((ledger.putSpace toPid (cspace.insert (source.derived id
          (attenuatePermissions source.permissions perms))).2).anonymous, .ok cspace.nextSlot) := by
  unfold derive
  rw [hc]
  exact ledger.install_anonymous _
    (source.derived id (attenuatePermissions source.permissions perms))

end Ledger

namespace KernelCore

variable (kernel : KernelCore)

def ServedAs (now : UInt64) (request : Request) : Prop :=
  kernel.view.ledger.anonymous.serve request =
      ((kernel.serve now request).1.view.ledger.anonymous, (kernel.serve now request).2) ∧
    (kernel.serve now request).1.capSpaces.Plain

variable {kernel}

section

variable (hpl : kernel.capSpaces.Plain)

include hpl

lemma servedAs_registerProcess : kernel.ServedAs now (.RegisterProcess name) := by
  refine ⟨?_, hpl.register kernel.nextPid⟩
  simp only [serve, registerProcess, view_registerProcessWithParent]
  rw [← bumpPast_self]
  exact Prod.ext (Ledger.anonymous_createProcess ..).symm rfl

lemma servedAs_registerProcessWithPid : kernel.ServedAs now (.RegisterProcessWithPid pid name) := by
  unfold ServedAs
  simp only [serve, Ledger.serve]
  have hm : pid ∈ kernel.view.ledger.anonymous.processes ↔ pid ∈ kernel.processes :=
    kernel.mem_view_processes pid
  rcases kernel.registerProcessWithPid_cases pid name now with
    ⟨hr, he⟩ | ⟨hn, kernel', he, hv⟩
  · rw [he, if_pos (hm.mpr hr)]
    exact ⟨rfl, hpl⟩
  · have hc : kernel'.capSpaces = kernel.capSpaces.insert pid CapabilitySpace.new :=
      congrArg KernelView.capSpaces hv
    rw [he, if_neg (fun h => hn (hm.mp h))]
    rw [hv, hc]
    exact ⟨Prod.ext (Ledger.anonymous_createProcess ..).symm rfl, hpl.register pid⟩

lemma servedAs_createEndpoint {owner : ProcessId} :
    kernel.ServedAs now (.CreateEndpoint owner) := by
  unfold ServedAs
  simp only [serve, Ledger.serve, Ledger.openEndpoint]
  have hm : owner ∈ kernel.view.ledger.anonymous.processes ↔ owner ∈ kernel.processes :=
    kernel.mem_view_processes owner
  rw [Ledger.capSpaces_anonymous]
  have hs : kernel.view.ledger.capSpaces = kernel.capSpaces := rfl
  rw [hs]
  rcases kernel.createEndpoint_cases owner now with
    ⟨hn, he⟩ | ⟨hr, hnn, kernel', he, hv⟩ | ⟨_, hr, hc, he⟩
  · rw [he, if_pos (fun h => hn (hm.mp h))]
    exact ⟨rfl, hpl⟩
  · have hk : kernel'.capSpaces = kernel.capSpaces := congrArg KernelView.capSpaces hv
    rw [he, if_neg (not_not.mpr (hm.mpr hr)), hnn]
    refine ⟨Prod.ext ?_ rfl, hk ▸ hpl⟩
    simp only [hv, ledger, failEndpoint, burnCapId, BTreeMap.map_erase]
    rfl
  · rw [he, if_neg (not_not.mpr (hm.mpr hr)), hc]
    refine ⟨Prod.ext ?_ rfl, hpl.insert hc ⟨rfl, rfl⟩⟩
    simp only [view_installCap, view_openEndpoint, ledger, Ledger.anonymous, addEndpoint, burnCapId,
      putSpace, BTreeMap.map_insert, anonymous_insert]
    rfl

lemma servedAs_grantCapability :
    kernel.ServedAs now (.GrantCapability fromPid fromSlot toPid perms) := by
  have hc : kernel.view.ledger.anonymous.check fromPid fromSlot grantPerms =
      (kernel.validateGrantSource fromPid fromSlot now).map Capability.anonymous :=
    kernel.view.ledger.check_anonymous hpl
  have hs : kernel.view.ledger.capSpaces = kernel.capSpaces := rfl
  unfold ServedAs
  simp only [serve, Ledger.serve]
  rcases kernel.grantCapability_cases fromPid fromSlot toPid perms now with
    ⟨e, hr, he⟩ | ⟨source, hv, hn, he⟩ | ⟨source, _, hv, hcs, he⟩
  · rw [he, Ledger.derive, hc, hr]
    exact ⟨rfl, hpl⟩
  · rw [hv] at hc
    rw [he, Ledger.derive_anonymous _ hc toPid perms kernel.nextCapId, hs, hn]
    exact ⟨rfl, hpl⟩
  · rw [hv] at hc
    rw [he, Ledger.derive_anonymous _ hc toPid perms kernel.nextCapId, hs, hcs]
    have hh := ((kernel.validateGrantSource_ok_iff ..).mp hv).1
    exact ⟨rfl, hpl.insert hcs (hpl _ _ source hh)⟩

lemma servedAs_deriveCapability : kernel.ServedAs now (.DeriveCapability pid slot perms) := by
  have hc : kernel.view.ledger.anonymous.check pid slot Permissions.default =
      (kernel.validateDeriveSource pid slot now).map Capability.anonymous :=
    kernel.view.ledger.check_anonymous hpl
  have hcs : kernel.view.ledger.capSpaces = kernel.capSpaces := rfl
  unfold ServedAs
  simp only [serve, Ledger.serve]
  rcases kernel.deriveCapability_cases pid slot perms now with
    ⟨e, hr, he⟩ | ⟨source, _, hv, hs, he⟩
  · rw [he, Ledger.derive, hc, hr]
    exact ⟨rfl, hpl⟩
  · rw [hv] at hc
    rw [he, Ledger.derive_anonymous _ hc pid perms kernel.nextCapId, hcs, hs]
    have hh := ((kernel.validateDeriveSource_ok_iff ..).mp hv).1
    exact ⟨rfl, hpl.insert hs (hpl pid _ source hh)⟩

lemma servedAs_grantCapabilityToEndpoint :
    kernel.ServedAs now (.GrantCapabilityToEndpoint ownerPid eid toPid perms) := by
  have hg : kernel.view.ledger.anonymous.endpoints[eid]? =
      kernel.endpoints[eid]?.map fun ep => (ep.id, ep.owner) := by
    simp only [Ledger.anonymous, ledger, BTreeMap.get_map, view_endpoints_get, map_map]
    rfl
  have hi := kernel.view.ledger.install_anonymous toPid (.endpoint kernel.nextCapId eid perms)
  have hs : kernel.view.ledger.capSpaces = kernel.capSpaces := rfl
  unfold ServedAs
  simp only [serve, Ledger.serve, Ledger.grantToEndpoint, hg, grantCapabilityToEndpoint]
  cases he : kernel.endpoints[eid]? with
  | none => exact ⟨rfl, hpl⟩
  | some ep =>
    by_cases ho : ep.owner = ownerPid
    · simp only [map_some, ho, ne_eq, takeNextCapId]
      cases hc : kernel.capSpaces[toPid]? with
      | none =>
        rw [hs, hc] at hi
        exact ⟨congrArg (Prod.map id Allocation.Slot) hi, hpl⟩
      | some =>
        rw [hs, hc] at hi
        exact ⟨congrArg (Prod.map id Allocation.Slot) hi, hpl.insert hc ⟨rfl, rfl⟩⟩
    · simp only [map_some, ho, ne_eq]
      exact ⟨rfl, hpl⟩

lemma servedAs_deleteCapability : kernel.ServedAs now (.DeleteCapability pid slot) := by
  have hs : kernel.view.ledger.capSpaces = kernel.capSpaces := rfl
  unfold ServedAs
  simp only [serve, Ledger.serve, Ledger.delete, Ledger.capSpaces_anonymous, hs, deleteCapability]
  cases hc : kernel.capSpaces[pid]? with
  | none => exact ⟨rfl, hpl⟩
  | some cspace =>
    simp only [map_some, CapabilitySpace.get_anonymous]
    cases hg : cspace.get slot with
    | none => exact ⟨rfl, hpl⟩
    | some =>
      simp only [kernel.removeSlot_of_get hc]
      refine ⟨?_, hpl.remove hc⟩
      rw [← CapabilitySpace.anonymous_remove, ← Ledger.anonymous_putSpace]
      rfl

lemma servedAs (now : UInt64) (req : Request) : kernel.ServedAs now req := by
  cases req with
  | RegisterProcess => exact servedAs_registerProcess hpl
  | RegisterProcessWithPid => exact servedAs_registerProcessWithPid hpl
  | CreateEndpoint => exact servedAs_createEndpoint hpl
  | GrantCapability => exact servedAs_grantCapability hpl
  | GrantCapabilityToEndpoint => exact servedAs_grantCapabilityToEndpoint hpl
  | DeriveCapability => exact servedAs_deriveCapability hpl
  | DeleteCapability => exact servedAs_deleteCapability hpl

end

end KernelCore

namespace System

def serveStep (system : System) (input : Hal × Request) : System :=
  (system.serve input.1 input.2).1

def allocation (system : System) (input : Hal × Request) : List Allocation :=
  [(system.serve input.1 input.2).2]

-- Two systems that agree on the ledger, up to the ids of capabilities, allocate alike, whatever
-- their clocks show.
lemma allocations_eq (hf : first.kernel.capSpaces.Plain) (he : second.kernel.capSpaces.Plain)
    (hl : first.ledger.anonymous = second.ledger.anonymous)
    {requests : List (Hal × Hal × Request)} :
    observed serveStep allocation first (requests.map fun (hal, _, req) => (hal, req)) =
      observed serveStep allocation second (requests.map fun (_, hal, req) => (hal, req)) := by
  induction requests generalizing first second with
  | nil => rfl
  | cons entry _ ih =>
    obtain ⟨firstHal, secondHal, req⟩ := entry
    obtain ⟨hr, hpl⟩ := KernelCore.servedAs hf (first.uptimeNanos firstHal) req
    obtain ⟨hs', hp'⟩ := KernelCore.servedAs he (second.uptimeNanos secondHal) req
    have hs := hr.symm.trans ((congrArg (·.serve req) hl).trans hs')
    obtain ⟨hk, ha⟩ := first.serve_eq firstHal req
    obtain ⟨hk', ha'⟩ := second.serve_eq secondHal req
    rw [← hk, ← hk', ← ha, ← ha', Prod.mk.injEq] at hs
    rw [← hk] at hpl
    rw [← hk'] at hp'
    have hre := ih hpl hp' hs.1
    simp only [List.map_cons, observed, allocation, hs.2]
    exact congrArg (List.append _) hre

def Typed (system : System) (input : Hal × SystemOp) : Prop :=
  match input.2 with
  | .RegisterProcess _ => True
  | .CreateEndpoint _ => True
  | .HandleSyscall pid syscall => pid ∈ system.kernel.processes ∧ ∀ target, syscall ≠ .Kill target
  | _ => False

lemma logsFully_of_typed (system : System) (input : Hal × SystemOp) (ht : system.Typed input) :
    system.LogsFully input := by
  obtain ⟨_, op⟩ := input
  cases op with
  | RegisterProcess | CreateEndpoint => trivial
  | HandleSyscall _ syscall =>
    cases syscall with
    | Exit => exact ht.1
    | Kill => exact absurd rfl (ht.2 _)
    | _ => trivial
  | _ => exact ht.elim

-- The log of a typed run recovers the tables and the counters, and the recovered system goes on
-- allocating as the original would.
theorem resumes_of_run (boot : Hal) (inputs : List (Hal × SystemOp))
    (htyped : Run.Along step Typed (System.new boot) inputs)
    (hlen : (Run.run step (System.new boot) inputs).commitlog.commits.length <
      MAX_COMMITLOG_ENTRIES) :
    ∃ replayed,
      replay newForReplay (Run.run step (System.new boot) inputs).commitlog.commits =
        .ok replayed ∧
      replayed.SameTables (Run.run step (System.new boot) inputs) ∧
      replayed.kernel.nextPid = (Run.run step (System.new boot) inputs).kernel.nextPid ∧
      replayed.kernel.nextEndpointId =
        (Run.run step (System.new boot) inputs).kernel.nextEndpointId ∧
      (∀ pid : ProcessId, replayed.kernel.capSpaces[pid]?.map CapabilitySpace.nextSlot =
        (Run.run step (System.new boot) inputs).kernel.capSpaces[pid]?.map
          CapabilitySpace.nextSlot) ∧
      ∀ requests : List (Hal × Hal × Request),
        Run.observed serveStep allocation (Run.run step (System.new boot) inputs)
            (requests.map fun (hal, _, request) => (hal, request)) =
          Run.observed serveStep allocation replayed
            (requests.map fun (_, hal, request) => (hal, request)) := by
  have ho := Run.Along.mono step logsFully_of_typed htyped
  obtain ⟨replayed, hr, hl⟩ := ledger_of_run ho hlen
  have hc : replayed.kernel.capSpaces =
      (run step (System.new boot) inputs).kernel.capSpaces :=
    congrArg Ledger.capSpaces hl
  have hpl : (run step (System.new boot) inputs).kernel.capSpaces.Plain :=
    fun _ _ cap hh => (followed_of_run ho).1.plain cap (holds_of_capAt hh)
  refine ⟨replayed, hr, sameTables_of_ledger hl, congrArg Ledger.nextPid hl,
    congrArg Ledger.nextEndpointId hl, ?_, ?_⟩
  · intro pid
    rw [hc]
  · intro requests
    refine allocations_eq hpl ?_ (by rw [hl])
    rw [hc]
    exact hpl

def typedRun : List (Hal × SystemOp) :=
  let hal := Hal.unsupported 0
  [(hal, .RegisterProcess "first"), (hal, .RegisterProcess "second"), (hal, .CreateEndpoint 1),
    (hal, .HandleSyscall 1 (.CapGrant 0 2 Permissions.full)), (hal, .HandleSyscall 2 (.CapDelete 0)),
    (hal, .HandleSyscall 1 (.Exit 0))]

lemma typed_typedRun : Run.Along step Typed (System.new (Hal.unsupported 0)) typedRun :=
  ⟨trivial, trivial, trivial, ⟨by decide +kernel, nofun⟩, ⟨by decide +kernel, nofun⟩,
    ⟨by decide +kernel, nofun⟩, trivial⟩

theorem resumes_typedRun :
    ∃ replayed,
      replay newForReplay (Run.run step (System.new (Hal.unsupported 0)) typedRun).commitlog.commits =
        .ok replayed ∧ replayed.kernel.nextPid = 3 ∧ replayed.kernel.nextEndpointId = 2 := by
  obtain ⟨replayed, hr, -, hp, he, -⟩ :=
    resumes_of_run (Hal.unsupported 0) typedRun typed_typedRun (by decide +kernel)
  exact ⟨replayed, hr, hp.trans (by decide +kernel), he.trans (by decide +kernel)⟩

end System

end ZeroOS
