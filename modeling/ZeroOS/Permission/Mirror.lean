import Mathlib.Data.Bool.AllAny
import ZeroOS.Lib.Run
import ZeroOS.Permission.World

/-!
The table of the permission service over whole runs.
-/

namespace ZeroOS.Permission

open PermissionService List

open Vfs (AppMessage)

-- What a handler leaves behind.
structure Left where
  service : PermissionService
  ledger : Ledger
  sent : List (UInt32 × List UInt8)

def left (fault : Option UInt32) (machine : Machine) (handler : Handler) : Left :=
  let (machine, service, _) := Program.run (answer fault) machine handler
  ⟨service, machine.ledger, machine.sent⟩

section Handlers

variable (machine : Machine) (fault : Option UInt32) (service : PermissionService)

lemma left_sendResponse :
    left fault machine (service.sendResponse uiEndpoint resp) =
      ⟨service, machine.ledger,
        machine.sent ++ uiEndpoint.toList.map fun _ => (MSG_CAPABILITY_RESPONSE, resp)⟩ := by
  cases uiEndpoint with
  | none => simp [sendResponse, left, Program.run]
  | some slot =>
    obtain ⟨hl, hs⟩ := answer_send machine fault slot MSG_CAPABILITY_RESPONSE resp
    simp only [sendResponse, left, Program.run, Option.toList_some, map_cons, map_nil]
    rw [← hl, ← hs]
    split <;> rfl

lemma left_done :
    left fault machine (.done (service, result)) = ⟨service, machine.ledger, machine.sent⟩ := rfl

lemma left_call {next : Reply → Handler} :
    left fault machine (.call req next) =
      left fault (answer fault machine req).1 (next (answer fault machine req).2) := rfl

lemma left_signal_sendResponse :
    left fault machine (.call (.Debug (signal channel fields)) fun _ =>
        service.sendResponse uiEndpoint resp) =
      ⟨service, machine.ledger,
        machine.sent ++ uiEndpoint.toList.map fun _ => (MSG_CAPABILITY_RESPONSE, resp)⟩ := by
  obtain ⟨hl, hs⟩ := answer_signal machine fault channel fields
  rw [left_call, left_sendResponse, hl, hs]

lemma left_grant (uiEndpoint : Option UInt32) (pid : UInt32) (req : CapRequest)
    (fromSlot : UInt32) : let answered := answer fault machine (.CapGrant fromSlot pid
      (Permissions.fromByte req.permissions))
    let slot := answered.2.toOption.getD fromSlot
    left fault machine (service.grant uiEndpoint pid req fromSlot) =
      ⟨service.recordGrant pid req.objectType slot req.permissions req.reason,
        answered.1.ledger, answered.1.sent ++
          uiEndpoint.toList.map fun _ => (MSG_CAPABILITY_RESPONSE, successResponse slot)⟩ := by
  intro answered slot
  cases hr : answered.2 with
  | ok newSlot =>
    have hs : slot = newSlot := by simp [slot, hr, Except.toOption]
    have ha : (answer fault machine (.CapGrant fromSlot pid
        (Permissions.fromByte req.permissions))).2 = .ok newSlot := hr
    rw [grant, left_call, ha]
    dsimp only
    rw [sendSuccessResponse, left_sendResponse, hs]
  | error code =>
    have hs : slot = fromSlot := by simp [slot, hr, Except.toOption]
    have ha : (answer fault machine (.CapGrant fromSlot pid
        (Permissions.fromByte req.permissions))).2 = .error code := hr
    rw [grant, left_call, ha]
    dsimp only [sendSuccessResponse]
    rw [left_signal_sendResponse, hs]

def Left.Faithful (after : Left) (msg : AppMessage) : Prop :=
  Mirrors after.service after.ledger ∧ TrueAnswers msg after.ledger after.sent

lemma not_affirms_error {uiEndpoint : Option UInt32} :
    ¬ Affirms (uiEndpoint.toList.map fun _ => (MSG_CAPABILITY_RESPONSE, errorResponse error))
      slot := by
  rintro hm
  obtain ⟨_, -, he⟩ := mem_map.mp hm
  simp [errorResponse, successResponse] at he

variable {msg : AppMessage} {req : CapRequest} {ledger : Ledger} {machine : Machine}
  {service : PermissionService} {slot : UInt32}

lemma eq_of_affirms_success {uiEndpoint : Option UInt32}
    (hm : Affirms (uiEndpoint.toList.map fun _ =>
      (MSG_CAPABILITY_RESPONSE, successResponse slot)) other) : other = slot := by
  obtain ⟨_, -, he⟩ := mem_map.mp hm
  have hb : (leBytes32 slot).toList = (leBytes32 other).toList := by
    simpa [successResponse] using he
  have hw := leWord32_leBytes32 other []
  rw [← hb, leWord32_leBytes32] at hw
  exact hw.symm

lemma faithful_sendErrorResponse (hm : Mirrors service machine.ledger) (hs : machine.sent = []) :
    (left fault machine (service.sendErrorResponse uiEndpoint error)).Faithful msg := by
  rw [sendErrorResponse, left_sendResponse, hs, nil_append]
  refine ⟨hm, ?_, ?_⟩
  · exact fun _ slot ha => (not_affirms_error ha).elim
  · exact fun _ slot ha => (not_affirms_error ha).elim

lemma trueAnswers_of_records (ht : msg.tag = MSG_REQUEST_CAPABILITY)
    (hp : parseCapRequest msg.data = .ok req) (hm : Mirrors service ledger)
    (hr : service.Records msg.fromPid req.objectType.toU8 slot permissions)
    (uiEndpoint : Option UInt32) :
    TrueAnswers msg ledger
      (uiEndpoint.toList.map fun _ => (MSG_CAPABILITY_RESPONSE, successResponse slot)) := by
  refine ⟨?_, ?_⟩
  · intro _ other ha
    rw [eq_of_affirms_success ha]
    exact ⟨req, permissions, hp, (hm ..).mp hr⟩
  · intro ho
    rw [ht] at ho
    exact absurd ho (by decide)

lemma grant_faithful_iff (hm : Mirrors service machine.ledger) (hse : machine.sent = [])
    (ht : msg.tag = MSG_REQUEST_CAPABILITY) (hp : parseCapRequest msg.data = .ok req)
    (hge : service.getGrant msg.fromPid req.objectType = none)
    (hpo : fromSlot &&& 0x80000000 = 0) (uiEndpoint : Option UInt32) :
    (left fault machine (service.grant uiEndpoint msg.fromPid req fromSlot)).Faithful msg ↔
      ∃ source cs, GrantsExactly machine.kernel machine.time service fault fromSlot
        msg.fromPid req source cs := by
  have hlf := left_grant machine fault service uiEndpoint msg.fromPid req fromSlot
  rw [hlf]
  obtain ⟨hrf, hl, ha, _, hr⟩ | ⟨source, cs, hg, hl, ha,
    hr⟩ := answer_grant_cases machine fault fromSlot msg.fromPid
      (Permissions.fromByte req.permissions)
  · simp only [hr, hl, Except.toOption, Option.getD_none]
    refine iff_of_false (fun hf => ?_) ?_
    · exact hm.not_recordGrant hge id hf.1
    · rintro ⟨source, cs, he⟩
      exact hrf ⟨source, cs, he.toGrants⟩
  · have hu {other : Capability} {space : CapabilitySpace}
        (ho : Grants machine.kernel machine.time fault fromSlot msg.fromPid other space) :
        other = source ∧ space = cs := by
      have hv := hg.valid.symm.trans ho.valid
      have hc := hg.space.symm.trans ho.space
      cases hv
      cases hc
      exact ⟨rfl, rfl⟩
    rw [slotReply_slot] at hr
    by_cases hs : cs.nextSlot &&& 0x80000000 = 0
    · rw [if_pos hs] at hr
      simp only [hr, hl, ha, hse, Except.toOption, Option.getD_some, nil_append]
      have hi := hm.recordGrant_install_iff hge hg.space
        (source.derived machine.kernel.nextCapId (attenuatePermissions source.permissions
          (Permissions.fromByte req.permissions))) req.permissions req.reason
      constructor
      · intro hf
        obtain ⟨hy, hpe, hfr⟩ := hi.mp hf.1
        exact ⟨source, cs, hg, hs, hy, hpe, hfr⟩
      · rintro ⟨other, space, he⟩
        obtain ⟨rfl, rfl⟩ := hu he.toGrants
        have haf := hi.mpr ⟨he.objectType, he.permissions, he.free⟩
        exact ⟨haf, trueAnswers_of_records ht hp haf (records_recordGrant_self ..) uiEndpoint⟩
    · rw [if_neg hs] at hr
      simp only [hr, hl, Except.toOption, Option.getD_none]
      refine iff_of_false (fun hf => ?_) ?_
      · refine hm.not_recordGrant hge ?_ hf.1
        rw [Ledger.holds_install hg.space, if_neg]
        · exact id
        · rintro ⟨-, hsm⟩
          exact hs (hsm ▸ hpo)
      · rintro ⟨other, space, he⟩
        obtain ⟨rfl, rfl⟩ := hu he.toGrants
        exact hs he.positive

def Rooted (service : PermissionService) : Prop :=
  service.consoleCapSlot = some 0 ∧ service.spawnCapSlot = some 2 ∧
    service.endpointCapSlot = some 1

lemma Rooted.positive (hroot : Rooted service)
    (hs : service.sourceSlot objectType = .ok slot) : slot &&& 0x80000000 = 0 := by
  obtain ⟨hc, hp, he⟩ := hroot
  simp only [sourceSlot, hc, hp, he] at hs
  cases objectType <;> cases hs <;> rfl

lemma handleCapRequest_faithful_iff (hroot : Rooted service)
    (hm : Mirrors service machine.ledger) (hs : machine.sent = [])
    (ht : msg.tag = MSG_REQUEST_CAPABILITY) (uiEndpoint : Option UInt32) :
    (left fault machine (service.handleCapRequest uiEndpoint msg)).Faithful msg ↔
      RequestKept machine.kernel machine.time service fault msg := by
  unfold handleCapRequest RequestKept
  cases hp : parseCapRequest msg.data with
  | error => exact iff_of_true (faithful_sendErrorResponse _ hm hs) nofun
  | ok req =>
    dsimp only
    cases hg : service.getGrant msg.fromPid req.objectType with
    | some =>
      dsimp only [sendSuccessResponse]
      rw [left_sendResponse, hs, nil_append]
      refine iff_of_true ⟨hm, ?_⟩ ?_
      · exact trueAnswers_of_records ht hp hm (records_of_get hg) uiEndpoint
      · rintro _ _ ⟨⟩ hn
        rw [hg] at hn
        cases hn
    | none =>
      dsimp only
      cases hl : service.sourceSlot req.objectType with
      | error =>
        refine iff_of_true (faithful_sendErrorResponse _ hm hs) ?_
        rintro _ _ ⟨⟩ _ ho
        rw [hl] at ho
        cases ho
      | ok =>
        dsimp only
        rw [grant_faithful_iff fault hm hs ht hp hg (hroot.positive hl) uiEndpoint]
        constructor
        · rintro hr _ _ ⟨⟩ _ ho
          rw [hl] at ho
          cases ho
          exact hr
        · intro hk
          exact hk _ _ rfl hg hl

lemma foundType_cases (hm : Mirrors service ledger) :
    ((∀ kind m, ¬ service.Records pid kind slot m) ∧ service.foundType pid slot = none) ∨
      ∃ objectType m, service.Records pid objectType.toU8 slot m ∧
        service.foundType pid slot = some objectType := by
  unfold foundType
  obtain ⟨hn, hf⟩ | ⟨⟨p, kind⟩, grant, hg, ht, hf⟩ :=
    service.grantedCaps.firstEntry_cases fun key grant => key.1 = pid ∧ grant.slot = slot
  · refine .inl ⟨?_, by rw [hf]; rfl⟩
    rintro kind m ⟨_, hg⟩
    exact hn (pid, kind) _ hg (by simp)
  · obtain ⟨rfl, rfl⟩ := of_decide_eq_true ht
    have hr := records_of_get hg
    have hk : ∀ kind ∈ trackedTypes,
        (Ipc.ObjectType.fromU8 kind).isSome = true := all_iff_forall_prop.mp (by decide)
    obtain ⟨objectType, ho⟩ := Option.isSome_iff_exists.mp (hk _ (hm.kind_tracked hr))
    refine .inr ⟨objectType, grant.permissions, ?_, ?_⟩
    · rw [Ipc.ObjectType.toU8_of_fromU8 ho]
      exact hr
    · rw [hf]
      exact ho

lemma handleCapRevoke_faithful_iff (hm : Mirrors service machine.ledger)
    (he : machine.sent = []) (msg : AppMessage) (uiEndpoint : Option UInt32) :
    (left fault machine (service.handleCapRevoke uiEndpoint msg)).Faithful msg ↔
      RevocationKept service msg := by
  unfold handleCapRevoke RevocationKept
  by_cases hs : msg.data.length < 4
  · rw [if_pos hs]
    refine iff_of_true (faithful_sendErrorResponse _ hm he) fun hl => ?_
    omega
  · rw [if_neg hs]
    dsimp only
    obtain ⟨hn, hg⟩ | ⟨_, m, hr, hg⟩ := foundType_cases hm
    · rw [hg]
      exact iff_of_true (faithful_sendErrorResponse _ hm he) fun _ => hn
    · rw [hg]
      dsimp only [sendSuccessResponse]
      rw [left_signal_sendResponse]
      refine iff_of_false (fun hf => ?_) fun hk => ?_
      · exact hm.not_erase hr hf.1
      · exact hk (Nat.le_of_not_lt hs) _ m hr

lemma trueAnswers_of_other (hr : msg.tag ≠ MSG_REQUEST_CAPABILITY)
    (he : msg.tag ≠ MSG_REVOKE_CAPABILITY) (ledger : Ledger)
    (sent : List (UInt32 × List UInt8)) : TrueAnswers msg ledger sent :=
  ⟨fun ht => absurd ht hr, fun ht => absurd ht he⟩

lemma mirrors_handleListCaps (hm : Mirrors service machine.ledger) (msg : AppMessage)
    (uiEndpoint : Option UInt32) :
    Mirrors (left fault machine (service.handleListCaps uiEndpoint msg)).service
      (left fault machine (service.handleListCaps uiEndpoint msg)).ledger := by
  unfold handleListCaps
  rw [left_call]
  cases uiEndpoint with
  | none =>
    dsimp only
    rw [left_done, (answer_signal ..).1]
    exact hm
  | some =>
    dsimp only
    rw [left_call, left_done, (answer_send ..).1, (answer_signal ..).1]
    exact hm

lemma mirrors_handleSupervisorRevoke (hm : Mirrors service machine.ledger) (msg : AppMessage) :
    Mirrors (left fault machine (service.handleSupervisorRevoke msg)).service
      (left fault machine (service.handleSupervisorRevoke msg)).ledger := by
  unfold handleSupervisorRevoke
  split_ifs
  · exact hm
  · rw [left_call]
    obtain ⟨hl, _, hr⟩ | ⟨_, hc, hl, hr⟩ := answer_revoke_cases machine fault (leWord32 msg.data)
    · rw [hr]
      dsimp only
      rw [left_done, hl]
      exact hm
    · rw [hr]
      dsimp only
      rw [left_call, left_done, (answer_signal ..).1, hl]
      exact hm.untrack_remove hc

section

variable (hroot : Rooted service)

include hroot

lemma Rooted.sendResponse :
    (service.sendResponse uiEndpoint resp).Ends fun returned => Rooted returned.1 := by
  cases uiEndpoint with
  | none => exact hroot
  | some =>
    rintro (e | value)
    · exact hroot
    · exact hroot

lemma Rooted.handleCapRequest :
    (service.handleCapRequest uiEndpoint msg).Ends fun returned => Rooted returned.1 := by
  unfold PermissionService.handleCapRequest
  split
  · exact hroot.sendResponse
  · split
    · exact hroot.sendResponse
    · split
      · exact hroot.sendResponse
      · rintro (e | newSlot)
        · exact fun _ => Rooted.sendResponse (by exact hroot)
        · exact Rooted.sendResponse (by exact hroot)

lemma Rooted.handleCapRevoke :
    (service.handleCapRevoke uiEndpoint msg).Ends fun returned => Rooted returned.1 := by
  unfold PermissionService.handleCapRevoke
  split_ifs
  · exact hroot.sendResponse
  · dsimp only
    split
    · exact fun _ => Rooted.sendResponse (by exact hroot)
    · exact hroot.sendResponse

lemma Rooted.handleListCaps :
    (service.handleListCaps uiEndpoint msg).Ends fun returned => Rooted returned.1 := by
  cases uiEndpoint with
  | none => exact fun _ => hroot
  | some => exact fun _ _ => hroot

lemma Rooted.handleSupervisorRevoke :
    (service.handleSupervisorRevoke msg).Ends fun returned => Rooted returned.1 := by
  unfold PermissionService.handleSupervisorRevoke
  split_ifs
  · exact hroot
  · rintro (e | value)
    · exact hroot
    · intro _
      unfold untrack
      split
      · exact hroot
      · exact hroot

lemma Rooted.onMessage :
    (service.onMessage uiEndpoint msg).Ends fun returned => Rooted returned.1 := by
  unfold PermissionService.onMessage
  split_ifs
  · exact hroot.handleCapRequest
  · exact hroot.handleCapRevoke
  · exact hroot.handleListCaps
  · exact hroot.handleSupervisorRevoke
  · exact hroot

lemma onMessage_faithful_iff (hm : Mirrors service machine.ledger)
    (hs : machine.sent = []) (msg : AppMessage) (uiEndpoint : Option UInt32) :
    (left fault machine (service.onMessage uiEndpoint msg)).Faithful msg ↔
      (msg.tag = MSG_REQUEST_CAPABILITY →
        RequestKept machine.kernel machine.time service fault msg) ∧
      (msg.tag = MSG_REVOKE_CAPABILITY → RevocationKept service msg) := by
  unfold onMessage
  by_cases hr : msg.tag = MSG_REQUEST_CAPABILITY
  · have hv : ¬ msg.tag = MSG_REVOKE_CAPABILITY := by rw [hr]; decide
    rw [if_pos hr, handleCapRequest_faithful_iff fault hroot hm hs hr]
    exact ⟨fun hk => ⟨fun _ => hk, fun h => absurd h hv⟩, fun h => h.1 hr⟩
  rw [if_neg hr]
  by_cases hv : msg.tag = MSG_REVOKE_CAPABILITY
  · rw [if_pos hv, handleCapRevoke_faithful_iff fault hm hs]
    exact ⟨fun hk => ⟨fun h => absurd h hr, fun _ => hk⟩, fun h => h.2 hv⟩
  rw [if_neg hv]
  have ha := trueAnswers_of_other hr hv
  simp only [hr, hv, false_implies, and_self, iff_true]
  refine ⟨?_, ha _ _⟩
  split_ifs
  · exact mirrors_handleListCaps _ hm msg _
  · exact mirrors_handleSupervisorRevoke _ hm msg
  · exact hm

end

end Handlers

namespace World

def Sound (world : World) : Prop := Rooted world.service ∧ Mirrors world.service world.ledger

lemma ledger_ended {world : World} : (world.step (.Ended pid)).ledger = world.ledger.drop pid := by
  have hc : (world.kernel.killProcess pid world.time).1.capSpaces =
      world.kernel.capSpaces.erase pid :=
    congrArg KernelView.capSpaces (world.kernel.view_killProcess ..)
  exact congrArg (Ledger.mk · _) hc

lemma step_faithful_iff {world : World} (hs : world.Sound)
    (hl : world.Lawful event) : world.Faithful event ↔ world.Kept event := by
  obtain ⟨hroot, hm⟩ := hs
  cases event with
  | Message msg uiEndpoint fault =>
    have hi := @onMessage_faithful_iff fault { world.toMachine with sent := [] } world.service
      hroot hm rfl msg uiEndpoint
    exact hi
  | Ended pid =>
    unfold Faithful
    rw [ledger_ended, and_true]
    exact hm.drop_iff
  | Elsewhere => exact iff_of_true ⟨hm.of_same_made hl, trivial⟩ trivial

lemma step_rooted {world : World} (hroot : Rooted world.service) :
    Rooted (world.step event).service := by
  cases event with
  | Message _ _ fault =>
    exact (hroot.onMessage).run (answer fault) { world.toMachine with sent := [] }
  | Ended | Elsewhere => exact hroot

lemma started_not_records : ¬ started.Records pid kind slot permissions := by
  have he : started.grantedCaps[(pid, kind)]? = none := by
    simp [started]
  exact not_records_of_get he

lemma start_sound (supervisor : SupervisorState) : (start supervisor).Sound := by
  refine ⟨⟨rfl, rfl, rfl⟩, ?_⟩
  intro pid kind slot permissions
  exact iff_of_false started_not_records fun hh => nomatch hh.1

-- The table is a mirror of the kernel and the answers are true, all along a run, exactly when
-- every event of the run is of the kind that keeps them so.
theorem run_faithful_iff (supervisor : SupervisorState) {events : List Event}
    (hlawful : Run.Along step Lawful (start supervisor) events) :
    Run.Along step Faithful (start supervisor) events ↔
      Run.Along step Kept (start supervisor) events := by
  refine Run.along_iff_along_of_lawful _ ?_ ?_ (start_sound ..) hlawful
  · intro world event hs hf
    exact ⟨step_rooted hs.1, hf.1⟩
  · intro world event hs he
    exact step_faithful_iff hs he

-- The service has two endpoints, and an application has nothing.
def officeSystem : System :=
  let hal := Hal.unsupported 0
  let (system, _) := (System.new hal).registerProcessWithPid hal 2 "permission"
  let (system, _) := system.createEndpoint hal 2
  let (system, _) := system.createEndpoint hal 2
  (system.registerProcessWithPid hal 5 "app").1

def office : SupervisorState where
  system := officeSystem
  hal := Hal.unsupported 0
  initEndpointSlot := none
  pendingStorageRequests := ∅
  workers := ∅
  consoleCallbacks := ∅
  spawnCallback := none
  ipcResponseCallback := none
  terminalEndpointSlots := ∅
  consoleBuffer := []
  pingpongTest := .Idle
  calls := []
  sent := []

-- The application asks for a type, with every permission and without a reason.
def asked (kind : UInt8) : Event :=
  .Message ⟨MSG_REQUEST_CAPABILITY, 5, [], [kind, 7, 0, 0]⟩ (some 0) none

def secondEndpoint : Capability := ⟨2, .Endpoint, 2, ⟨true, true, true⟩, 0, 0⟩

theorem run_faithful_iff_endpoint : Run.Along step Lawful (start office) [asked 1] ∧
    Run.Along step Faithful (start office) [asked 1] := by
  have hl : Run.Along step Lawful (start office) [asked 1] := ⟨trivial, trivial⟩
  refine ⟨hl, (run_faithful_iff _ hl).mpr ⟨⟨fun _ => ?_, nofun⟩, trivial⟩⟩
  rintro req fromSlot ⟨⟩ - ⟨⟩
  refine ⟨secondEndpoint, .new, ⟨rfl, ?_, ?_, ?_⟩, rfl, rfl, rfl, ?_⟩
  · decide +kernel
  · rw [KernelCore.validateGrantSource_ok_iff]
    decide +kernel
  · decide +kernel
  · exact fun kind m => started_not_records

-- The kernel refuses the grant, since the service has nothing in its slot 2. The service answers
-- that the application has the capability in that slot.
theorem refused_grant_recorded :
    ((start office).step (asked 2)).service.grantedCaps[((5, 2) : CapKey)]? = some ⟨2, 7, ""⟩ ∧
      ((start office).step (asked 2)).kernel.capSpaces.capAt 5 2 = none ∧
      ((start office).step (asked 2)).sent = [(MSG_CAPABILITY_RESPONSE, [1, 2, 0, 0, 0])] ∧
      ¬ (start office).Faithful (asked 2) := by
  have hr : ((start office).step (asked 2)).service.grantedCaps[((5, 2) : CapKey)]? =
      some ⟨2, 7, ""⟩ := by decide +kernel
  have hn : ((start office).step (asked 2)).kernel.capSpaces.capAt 5 2 = none := by
    decide +kernel
  refine ⟨hr, hn, by decide +kernel, fun hf => ?_⟩
  obtain ⟨-, _, hc, -⟩ := (hf.1 ..).mp (records_of_get hr)
  rw [Machine.kernel] at hn
  exact absurd (hc.symm.trans hn) (by simp)

end World

end ZeroOS.Permission
