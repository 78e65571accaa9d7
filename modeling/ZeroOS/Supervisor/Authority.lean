import ZeroOS.Kernel.Ipc.Lemmas
import ZeroOS.Supervisor.Debug

/-!
What the text of a debug syscall can do.
-/

namespace ZeroOS

open BTreeMap ZeroOS.System

namespace KernelCore

structure SameTables (before after : KernelCore) : Prop where
  capSpaces : after.capSpaces = before.capSpaces
  processes : after.processes = before.processes
  endpoints : after.endpoints = before.endpoints

variable {kernel : KernelCore}

lemma SameTables.refl (kernel : KernelCore) : SameTables kernel kernel := ⟨rfl, rfl, rfl⟩

lemma capSpaces_installCap_ne (hc : kernel.capSpaces[pid]? = some cs) :
    (kernel.installCap pid cs cap).capSpaces ≠ kernel.capSpaces := by
  intro hs
  have hg : (kernel.installCap pid cs cap).capSpaces[pid]? = some (cs.insert cap).2 := by
    simp [installCap]
  rw [hs, hc] at hg
  have hn : cs.nextSlot = cs.nextSlot + 1 := congrArg CapabilitySpace.nextSlot (Option.some.inj hg)
  exact absurd (UInt32.left_eq_add.mp hn) (by decide)

lemma grantCapability_sameTables_iff :
    SameTables kernel (kernel.grantCapability fromPid slot pid perms now).kernel ↔
      ¬ (pid ∈ kernel.capSpaces ∧
        ∃ source, kernel.validateGrantSource fromPid slot now = .ok source) := by
  obtain ⟨e, hr, h⟩ | ⟨source, hv, hc, h⟩ | ⟨source, cs, hv, hc, h⟩ :=
    kernel.grantCapability_cases fromPid slot pid perms now
  · rw [h]
    refine iff_of_true (.refl kernel) ?_
    rintro ⟨_, source, hv⟩
    rw [hr] at hv
    cases hv
  · rw [h]
    exact iff_of_true ⟨rfl, rfl, rfl⟩ fun ha => not_mem_iff.mpr hc ha.1
  · rw [h]
    refine iff_of_false (fun hs => capSpaces_installCap_ne hc hs.capSpaces) (not_not_intro ?_)
    exact ⟨(mem_iff _).mpr ⟨cs, hc⟩, source, hv⟩

lemma deleteCapability_sameTables_iff :
    SameTables kernel (kernel.deleteCapability pid slot now).kernel ↔
      ¬ ∃ cap, kernel.capSpaces.capAt pid slot = some cap := by
  obtain ⟨e, hn, h⟩ | ⟨cap, cs, hc, he, h⟩ := kernel.deleteCapability_cases pid slot now
  · rw [h, hn]
    exact iff_of_true (.refl kernel) (by simp)
  · have hh : kernel.capSpaces.capAt pid slot = some cap :=
      CapSpaces.capAt_eq_some_iff.mpr ⟨cs, hc, he⟩
    rw [h]
    refine iff_of_false (fun hs => ?_) (not_not_intro ⟨cap, hh⟩)
    have hg := CapSpaces.capAt_insert kernel.capSpaces pid pid (cs.remove slot).2 slot
    rw [show kernel.capSpaces.insert pid (cs.remove slot).2 = kernel.capSpaces from
      hs.capSpaces, hh, if_pos rfl, CapabilitySpace.get_remove, if_pos rfl] at hg
    cases hg

-- The number of messages that wait at an endpoint.
def queued (kernel : KernelCore) (eid : EndpointId) : Nat :=
  match kernel.view.endpoints[eid]? with
  | none => 0
  | some endpoint => endpoint.queue.length

lemma SameTables.queued_eq (hs : SameTables kernel after) (eid : EndpointId) :
    after.queued eid = kernel.queued eid := by
  simp only [queued, view, hs.endpoints]

lemma ipcSend_queued (fromPid : ProcessId) (slot : CapSlot) (tag : UInt32) (data : List UInt8)
    (now : UInt64) :
    ((∀ eid, kernel.validateSendCap fromPid slot now = .ok eid → eid ∉ kernel.endpoints) ∧
      (kernel.ipcSend fromPid slot tag data now).1 = kernel) ∨
    ∃ eid, kernel.validateSendCap fromPid slot now = .ok eid ∧ eid ∈ kernel.endpoints ∧
      (kernel.ipcSend fromPid slot tag data now).1.capSpaces = kernel.capSpaces ∧
      (kernel.ipcSend fromPid slot tag data now).1.queued eid = kernel.queued eid + 1 ∧
      ∀ other ≠ eid, (kernel.ipcSend fromPid slot tag data now).1.queued other =
        kernel.queued other := by
  obtain ⟨e, hr, h⟩ | ⟨eid, ep, _, hv, hg, h, hi⟩ := kernel.ipcSend_cases fromPid slot tag data now
  · refine .inl ⟨fun eid hv => ?_, by rw [h]⟩
    exact not_mem_iff.mpr (hr eid hv)
  · rw [h]
    have ho := kernel.view_endpoints_of_get hg
    refine .inr ⟨eid, hv, (mem_iff _).mpr ⟨ep, hg⟩, ?_, ?_, ?_⟩
    · exact congrArg KernelView.capSpaces hi
    · simp only [queued, hi, KernelView.setQueue, get_modify, ho]
      simp [Endpoint.view]
    · intro other hn
      simp only [queued, hi, KernelView.setQueue, get_modify, if_neg hn.symm]

end KernelCore

namespace SupervisorState

structure Unaltered (before after : SupervisorState) : Prop where
  kernel : before.system.kernel.SameTables after.system.kernel
  workers : after.workers = before.workers

def time (state : SupervisorState) : UInt64 := state.system.uptimeNanos state.hal

-- The clock is read without anything else happening.
def tick (state : SupervisorState) : SupervisorState := { state with hal := state.hal.later }

def ticks : Nat → SupervisorState → SupervisorState
  | 0, state => state
  | n + 1, state => ticks n state.tick

section

variable (state : SupervisorState) (text : List Char)

-- A message of the supervisor gets into Init's queue.
def ReachesInit : Prop :=
  ∃ slot eid, state.initEndpointSlot = some slot ∧
    state.system.kernel.validateSendCap 0 slot state.time = .ok eid ∧
    eid ∈ state.system.kernel.endpoints

-- The texts that the supervisor acts on, in the states in which it does.

def Grants : Prop :=
  match parseGrant text with
  | none => False
  | some (pid, slot, _) => pid ∈ state.system.kernel.capSpaces ∧
      ∃ source, state.system.kernel.validateGrantSource 1 slot state.time = .ok source

def Revokes : Prop :=
  match parseRevoke text with
  | none => False
  | some (pid, slot) => ∃ cap, state.system.kernel.capSpaces.capAt pid slot = some cap

def Kills : Prop :=
  match Text.parseU64 text with
  | none => False
  | some pid => pid ∈ state.workers

def Delivers : Prop :=
  match parseResponse text with
  | .error _ => False
  | .ok _ => ReachesInit state

def Regrants : Prop :=
  match parseDeliveryFailed text with
  | none => False
  | some pid => pid.toUInt64 ∈ state.system.kernel.processes ∧
      (1 : ProcessId) ∈ state.system.kernel.capSpaces ∧
      ∃ cap endpoint,
        state.system.kernel.capSpaces.capAt pid.toUInt64 SERVICE_INPUT_SLOT = some cap ∧
        state.system.kernel.endpoints[cap.objectId]? = some endpoint ∧
        endpoint.owner = pid.toUInt64

end

section

variable (state : SupervisorState) (pid : ProcessId) (msg : String)

-- The sender is the pinger of a test that is running. The end of the test is four messages.
def Finishes (pid : UInt64) : Prop :=
  ∃ iterations pongerPid startTime,
    state.pingpongTest = .Running iterations pid pongerPid startTime ∧
    ∃ n < 4, ReachesInit (ticks n state)

def EndsTest : Prop :=
  ruler <:+: msg.toList ∧ Finishes state pid

def Acts : Prop :=
  let text := (DebugChannel.ofText msg.toList).rest msg.toList
  match DebugChannel.ofText msg.toList with
  | .InitGrant => Grants state text
  | .InitRevoke => Revokes state text
  | .InitKillOk => Kills state text
  | .VfsResponse | .KeystoreResponse => Delivers state text
  | .DeliveryFailed => Regrants state text
  | .AgentLog | .Console => EndsTest state pid msg
  | .InitSpawn | .InitKillFail | .InitPermResponse | .InitPermList | .InitLog
  | .ServiceResponse | .SpawnResponse | .EndpointResponse | .CapResponse => False

end

variable {state : SupervisorState}

lemma Unaltered.refl (state : SupervisorState) : Unaltered state state := ⟨.refl _, rfl⟩

lemma unaltered_after_iff :
    Unaltered state (state.after (state.system.commitOutcome now outcome)).1 ↔
      state.system.kernel.SameTables outcome.kernel :=
  ⟨fun h => h.kernel, fun h => ⟨h, rfl⟩⟩

lemma handleInitGrant_unaltered_iff :
    Unaltered state (state.handleInitGrant text) ↔ ¬ Grants state text := by
  unfold handleInitGrant Grants
  match parseGrant text with
  | none => exact iff_of_true (.refl state) not_false
  | some (pid, _, perms) =>
    exact unaltered_after_iff.trans KernelCore.grantCapability_sameTables_iff

lemma handleInitRevoke_unaltered_iff :
    Unaltered state (state.handleInitRevoke text) ↔ ¬ Revokes state text := by
  unfold handleInitRevoke Revokes
  match parseRevoke text with
  | none => exact iff_of_true (.refl state) not_false
  | some (pid, slot) =>
    exact unaltered_after_iff.trans KernelCore.deleteCapability_sameTables_iff

lemma handleInitKillOk_unaltered_iff :
    Unaltered state (state.handleInitKillOk text) ↔ ¬ Kills state text := by
  unfold handleInitKillOk Kills
  cases Text.parseU64 text with
  | none => exact iff_of_true (.refl state) not_false
  | some pid =>
    constructor
    · intro hs hm
      have hw : state.workers.erase pid = state.workers := hs.workers
      rw [← hw] at hm
      exact absurd hm (by simp)
    · intro hn
      refine ⟨.refl _, ?_⟩
      exact erase_of_get_none (not_mem_iff.mp hn)

-- Two states that a message to Init finds the same.
structure Alike (left right : SupervisorState) : Prop where
  kernel : right.system.kernel = left.system.kernel
  bootTime : right.system.bootTime = left.system.bootTime
  hal : right.hal = left.hal
  initEndpointSlot : right.initEndpointSlot = left.initEndpointSlot
  workers : right.workers = left.workers

lemma Alike.reachesInit_iff (hl : Alike left right) : ReachesInit right ↔ ReachesInit left := by
  have ht : right.time = left.time := by
    simp only [time, uptimeNanos, hl.hal, hl.bootTime]
  simp only [ReachesInit, hl.kernel, hl.initEndpointSlot, ht]

lemma Alike.ticks (hl : Alike left right) (n : Nat) : Alike (ticks n left) (ticks n right) := by
  induction n generalizing left right with
  | zero => exact hl
  | succ n ih =>
    refine ih ⟨hl.kernel, hl.bootTime, ?_, hl.initEndpointSlot, hl.workers⟩
    simp only [tick, hl.hal]

lemma Alike.unaltered (hl : Alike left right) : Unaltered right next ↔ Unaltered left next := by
  constructor
  · rintro ⟨hk, hw⟩
    exact ⟨hl.kernel ▸ hk, hw.trans hl.workers⟩
  · rintro ⟨hk, hw⟩
    exact ⟨hl.kernel ▸ hk, hw.trans hl.workers.symm⟩

lemma ticks_initEndpointSlot : (ticks n state).initEndpointSlot = state.initEndpointSlot := by
  induction n generalizing state with
  | zero => rfl
  | succ n ih => exact ih

def sendAll (state : SupervisorState) (messages : List (UInt32 × List UInt8)) : SupervisorState :=
  messages.foldl (fun state message => state.sendToInit message.1 message.2) state

section

variable (tag : UInt32) (messages : List (UInt32 × List UInt8)) (text : List Char) (pid : ProcessId)
  (payload : List UInt8) (msg : String)

lemma sendToInit_cases :
    (¬ ReachesInit state ∧ ((state.initEndpointSlot = none ∧ state.sendToInit tag payload = state) ∨
        Alike state.tick (state.sendToInit tag payload))) ∨
      ReachesInit state ∧
        (state.sendToInit tag payload).system.kernel.capSpaces = state.system.kernel.capSpaces ∧
        ∃ eid, (state.sendToInit tag payload).system.kernel.queued eid =
            state.system.kernel.queued eid + 1 ∧
          ∀ other ≠ eid, (state.sendToInit tag payload).system.kernel.queued other =
            state.system.kernel.queued other := by
  unfold sendToInit
  cases hl : state.initEndpointSlot with
  | none =>
    refine .inl ⟨?_, .inl ⟨rfl, rfl⟩⟩
    rintro ⟨slot, _, hs, _⟩
    rw [hl] at hs
    cases hs
  | some slot =>
    obtain ⟨hn, h⟩ | ⟨eid, hv, hm, hc, hq, ho⟩ :=
      state.system.kernel.ipcSend_queued 0 slot tag payload state.time
    · refine .inl ⟨?_, .inr ⟨h, rfl, rfl, rfl, rfl⟩⟩
      rintro ⟨other, eid, hs, hv, hm⟩
      rw [hl] at hs
      cases hs
      exact hn eid hv hm
    · exact .inr ⟨⟨slot, eid, hl, hv, hm⟩, hc, eid, hq, ho⟩

lemma sendToInit_capSpaces :
    (state.sendToInit tag payload).system.kernel.capSpaces = state.system.kernel.capSpaces := by
  obtain ⟨_, ⟨_, h⟩ | hl⟩ | ⟨_, hc, _⟩ := @sendToInit_cases state tag payload
  · rw [h]
  · rw [hl.kernel]
    rfl
  · exact hc

lemma queued_le_sendToInit :
    state.system.kernel.queued eid ≤ (state.sendToInit tag payload).system.kernel.queued eid := by
  obtain ⟨_, ⟨_, h⟩ | hl⟩ | ⟨_, _, target, hq, ho⟩ := @sendToInit_cases state tag payload
  · rw [h]
  · rw [hl.kernel]
    rfl
  · by_cases he : eid = target
    · rw [he, hq]
      exact Nat.le_succ _
    · rw [ho eid he]

lemma queued_le_sendAll (eid : EndpointId) :
    state.system.kernel.queued eid ≤ (state.sendAll messages).system.kernel.queued eid := by
  induction messages generalizing state with
  | nil => exact Nat.le_refl _
  | cons _ _ ih => exact Nat.le_trans (queued_le_sendToInit ..) ih

-- The messages alter nothing exactly when none of them gets through. Each is judged at its own
-- reading of the clock.
lemma sendAll_unaltered_iff :
    Unaltered state (state.sendAll messages) ↔
      ∀ n < messages.length, ¬ ReachesInit (ticks n state) := by
  induction messages generalizing state with
  | nil => exact iff_of_true (.refl state) (fun _ h => absurd h (Nat.not_lt_zero _))
  | cons message rest ih =>
    have hb : (∀ n < (message :: rest).length, ¬ ReachesInit (ticks n state)) ↔
        ¬ ReachesInit state ∧ ∀ n < rest.length, ¬ ReachesInit (ticks n state.tick) := by
      constructor
      · exact fun h => ⟨h 0 (Nat.succ_pos _), fun n hn => h (n + 1) (Nat.succ_lt_succ hn)⟩
      · rintro ⟨hz, hu⟩ n hn
        cases n with
        | zero => exact hz
        | succ n => exact hu n (Nat.lt_of_succ_lt_succ hn)
    rw [hb]
    show Unaltered state ((state.sendToInit message.1 message.2).sendAll rest) ↔ _
    obtain ⟨ho, ⟨hs, h⟩ | hl⟩ | ⟨hr, _, eid, hq, _⟩ := @sendToInit_cases state message.1 message.2
    · have he : ∀ n other, other.initEndpointSlot = none → ¬ ReachesInit (ticks n other) := by
        rintro n other hnn ⟨_, _, hso, _⟩
        rw [ticks_initEndpointSlot, hnn] at hso
        cases hso
      rw [h, ih]
      exact iff_of_true (fun n _ => he n _ hs) ⟨ho, fun n _ => he n state.tick hs⟩
    · have hi := @ih (state.sendToInit message.1 message.2)
      simp only [(hl.ticks _).reachesInit_iff] at hi
      rw [hl.unaltered] at hi
      exact ⟨fun h => ⟨ho, hi.mp ⟨h.kernel, h.workers⟩⟩,
        fun h => ⟨(hi.mpr h.2).kernel, (hi.mpr h.2).workers⟩⟩
    · refine iff_of_false (fun ha => ?_) (fun h => h.1 hr)
      have heq := ha.kernel.queued_eq eid
      have hg := @queued_le_sendAll (state.sendToInit message.1 message.2) rest eid
      omega

lemma sendToInit_unaltered_iff :
    Unaltered state (state.sendToInit tag payload) ↔ ¬ ReachesInit state := by
  have ho := @sendAll_unaltered_iff state [(tag, payload)]
  refine ho.trans ⟨fun h => h 0 Nat.one_pos, fun h n hn => ?_⟩
  obtain rfl := Nat.lt_one_iff.mp hn
  exact h

lemma handleDebugResponse_unaltered_iff :
    Unaltered state (state.handleDebugResponse text).1 ↔ ¬ Delivers state text := by
  unfold handleDebugResponse Delivers
  match parseResponse text with
  | .error (.InvalidHex (.Panicked _)) | .error (.InvalidHex .InvalidLength)
  | .error (.InvalidHex .InvalidCharacter) | .error .Malformed | .error .InvalidPid
  | .error .InvalidTag => exact iff_of_true (.refl state) not_false
  | .ok (toPid, _, data) => exact sendToInit_unaltered_iff ..

lemma regrant_unaltered_iff :
    Unaltered state (state.regrantInitCapabilityToService servicePid) ↔
      ¬ ((1 : ProcessId) ∈ state.system.kernel.capSpaces ∧ ∃ cap ep,
        state.system.kernel.capSpaces.capAt servicePid SERVICE_INPUT_SLOT = some cap ∧
        state.system.kernel.endpoints[cap.objectId]? = some ep ∧
        ep.owner = servicePid) := by
  unfold regrantInitCapabilityToService grantInitCapabilityToServiceInner
  cases hca : state.system.kernel.capSpaces.capAt servicePid SERVICE_INPUT_SLOT with
  | none =>
    refine iff_of_true (.refl state) ?_
    rintro ⟨_, cap, _, hso, _⟩
    cases hso
  | some cap =>
    simp only [grantCapabilityToEndpoint, after, commitOutcome]
    obtain ⟨e, hr, h⟩ | ⟨ep, hg, ho, hc, h⟩ | ⟨ep, cs, hg, ho, hc, h⟩ :=
      state.system.kernel.grantCapabilityToEndpoint_cases servicePid cap.objectId 1
        Permissions.writeOnly (state.system.uptimeNanos state.hal)
    · simp only [h]
      refine iff_of_true ⟨⟨rfl, rfl, rfl⟩, rfl⟩ ?_
      rintro ⟨_, _, ep, ⟨⟩, hg, ho⟩
      exact hr _ hg ho
    · simp only [h]
      exact iff_of_true ⟨⟨rfl, rfl, rfl⟩, rfl⟩ fun ha => not_mem_iff.mpr hc ha.1
    · simp only [h]
      refine iff_of_false (fun hsa => ?_) (not_not_intro ?_)
      · have hs := hsa.kernel.capSpaces
        rw [notifyInitServiceCapWithRetry, sendToInit_capSpaces] at hs
        exact KernelCore.capSpaces_installCap_ne hc hs
      · exact ⟨(mem_iff _).mpr ⟨cs, hc⟩, cap, ep, rfl, hg, ho⟩

lemma handleIpcDeliveryFailed_unaltered_iff :
    Unaltered state (state.handleIpcDeliveryFailed text) ↔ ¬ Regrants state text := by
  unfold handleIpcDeliveryFailed Regrants
  cases parseDeliveryFailed text with
  | none => exact iff_of_true (.refl state) not_false
  | some pid =>
    dsimp only
    by_cases hm : pid.toUInt64 ∈ state.system.kernel.processes
    · rw [if_pos hm, regrant_unaltered_iff]
      exact not_congr (and_iff_right hm).symm
    · rw [if_neg hm]
      exact iff_of_true (.refl state) fun ha => hm ha.1

lemma progressPingpongTest_cleanup (ht : state.pingpongTest = .Cleanup pingerPid pongerPid) :
    state.progressPingpongTest =
      { state.sendAll
          [(MSG_SUPERVISOR_IPC_DELIVERY, deliveryPayload pingerPid 0 PingPong.CMD_EXIT []),
            (MSG_SUPERVISOR_IPC_DELIVERY, deliveryPayload pongerPid 0 PingPong.CMD_EXIT []),
            (MSG_SUPERVISOR_KILL_PROCESS, (leBytes32 pingerPid.toUInt32).toList),
            (MSG_SUPERVISOR_KILL_PROCESS, (leBytes32 pongerPid.toUInt32).toList)] with
        pingpongTest := .Idle } := by
  simp only [progressPingpongTest, ht]
  rfl

lemma sendAll_sent :
    ∃ extra, (state.sendAll messages).sent = state.sent ++ extra ∧ extra ⊆ messages := by
  induction messages generalizing state with
  | nil => exact ⟨[], (List.append_nil _).symm, List.nil_subset _⟩
  | cons message _ ih =>
    have ho : ∃ extra, (state.sendToInit message.1 message.2).sent = state.sent ++ extra ∧
        extra ⊆ [message] := by
      unfold sendToInit
      cases state.initEndpointSlot with
      | none => exact ⟨[], (List.append_nil _).symm, List.nil_subset _⟩
      | some =>
        refine ⟨_, rfl, ?_⟩
        split_ifs
        · exact List.Subset.refl _
        · exact List.nil_subset _
    obtain ⟨first, hf, hs⟩ := ho
    obtain ⟨later, hl, hr⟩ := @ih (state.sendToInit message.1 message.2)
    refine ⟨first ++ later, ?_, List.append_subset.mpr ⟨?_, ?_⟩⟩
    · rw [← List.append_assoc, ← hf]
      exact hl
    · exact fun m hm => List.mem_cons.mpr (.inl (List.mem_singleton.mp (hs hm)))
    · exact fun m hm => List.mem_cons_of_mem _ (hr hm)

def EndsProcess (message : UInt32 × List UInt8) : Prop :=
  message.1 = MSG_SUPERVISOR_KILL_PROCESS ∨ ∃ target, message =
    (MSG_SUPERVISOR_IPC_DELIVERY, deliveryPayload target 0 PingPong.CMD_EXIT [])

lemma checkPingpongComplete_sent (pid : UInt64) :
    ∃ extra, (state.checkPingpongComplete pid).sent = state.sent ++ extra ∧
      ∀ message ∈ extra, EndsProcess message := by
  have hn : ∃ extra, state.sent = state.sent ++ extra ∧ ∀ message ∈ extra, EndsProcess message :=
    ⟨[], (List.append_nil _).symm, fun _ hm => absurd hm List.not_mem_nil⟩
  unfold checkPingpongComplete
  split
  · split_ifs
    · rw [progressPingpongTest_cleanup rfl]
      obtain ⟨extra, hs, hu⟩ := sendAll_sent _
      refine ⟨extra, hs, fun message he => ?_⟩
      have ha := hu he
      simp only [List.mem_cons, List.not_mem_nil, or_false] at ha
      obtain rfl | rfl | rfl | rfl := ha
      · exact .inr ⟨_, rfl⟩
      · exact .inr ⟨_, rfl⟩
      · exact .inl rfl
      · exact .inl rfl
    · exact hn
  · exact hn

lemma handleDebugConsoleOutput_sent :
    ∃ extra, (state.handleDebugConsoleOutput pid msg).sent = state.sent ++ extra ∧
      ∀ message ∈ extra, EndsProcess message := by
  unfold handleDebugConsoleOutput
  split_ifs
  · exact checkPingpongComplete_sent pid
  · exact ⟨[], (List.append_nil _).symm, fun _ hm => absurd hm List.not_mem_nil⟩

lemma checkPingpongComplete_unaltered_iff :
    Unaltered state (state.checkPingpongComplete pid) ↔ ¬ Finishes state pid := by
  have ho : (∀ iterations pongerPid startTime,
      state.pingpongTest ≠ .Running iterations pid pongerPid startTime) → ¬ Finishes state pid := by
    rintro hn ⟨iterations, pongerPid, startTime, hu, _⟩
    exact hn _ _ _ hu
  unfold checkPingpongComplete
  match ht : state.pingpongTest with
  | .Idle | .WaitingForPinger _ | .WaitingForPonger _ _ | .SettingUpCaps _ _ _
  | .StartingTest _ _ _ | .Cleanup _ _ =>
    exact iff_of_true (.refl state) (ho fun _ _ _ h => nomatch ht.symm.trans h)
  | .Running iterations pingerPid pongerPid startTime =>
    by_cases hp : pid = pingerPid
    swap
    · simp only [if_neg hp]
      refine iff_of_true (.refl state) (ho fun _ _ _ h => hp ?_)
      cases ht.symm.trans h
      rfl
    subst hp
    have hf : Finishes state pid ↔ ∃ n < 4, ReachesInit (ticks n state) := by
      constructor
      · rintro ⟨_, _, _, _, hr⟩
        exact hr
      · exact fun hr => ⟨iterations, pongerPid, startTime, ht, hr⟩
    have hc : Alike state { state with pingpongTest := .Cleanup pid pongerPid } :=
      ⟨rfl, rfl, rfl, rfl, rfl⟩
    simp only [if_true]
    rw [progressPingpongTest_cleanup rfl, hf]
    refine Iff.trans ⟨fun h => ⟨h.kernel, h.workers⟩, fun h => ⟨h.kernel, h.workers⟩⟩
      ((sendAll_unaltered_iff _).trans ?_)
    simp only [(hc.ticks _).reachesInit_iff]
    push Not
    rfl

lemma handleDebugConsoleOutput_unaltered_iff :
    Unaltered state (state.handleDebugConsoleOutput pid msg) ↔ ¬ EndsTest state pid msg := by
  unfold handleDebugConsoleOutput EndsTest
  have hw : Alike state (state.writeConsole s!"[P{pid}] {msg}\n") := ⟨rfl, rfl, rfl, rfl, rfl⟩
  by_cases hr : ruler <:+: msg.toList
  · rw [if_pos hr, and_iff_right hr, ← hw.unaltered, checkPingpongComplete_unaltered_iff]
    unfold Finishes
    simp only [(hw.ticks _).reachesInit_iff]
    rfl
  · rw [if_neg hr]
    exact iff_of_true ⟨.refl _, rfl⟩ fun he => hr he.1

lemma decodeAndLog_unaltered : Unaltered state (state.decodeAndLog text).1 := by
  unfold decodeAndLog
  split <;> exact .refl state

lemma handleDebugServiceResponse_unaltered :
    Unaltered state (state.handleDebugServiceResponse text).1 := by
  unfold handleDebugServiceResponse
  split
  · split
    · exact .refl state
    · exact .refl state
    · split
      · exact .refl state
      · exact ⟨.refl _, rfl⟩
  · exact .refl state

lemma handleDebugSpawn_unaltered : Unaltered state (state.handleDebugSpawn name) := by
  unfold handleDebugSpawn requestSpawn
  split <;> exact ⟨.refl _, rfl⟩

lemma dispatchDebugMessage_unaltered_iff :
    Unaltered state (state.dispatchDebugMessage pid msg).1 ↔ ¬ Acts state pid msg := by
  unfold dispatchDebugMessage Acts
  cases DebugChannel.ofText msg.toList with
  | InitSpawn => exact iff_of_true handleDebugSpawn_unaltered not_false
  | InitGrant => exact handleInitGrant_unaltered_iff
  | InitRevoke => exact handleInitRevoke_unaltered_iff
  | InitKillOk => exact handleInitKillOk_unaltered_iff
  | InitKillFail | InitPermResponse | InitPermList | InitLog =>
    exact iff_of_true (.refl state) not_false
  | ServiceResponse => exact iff_of_true (handleDebugServiceResponse_unaltered _) not_false
  | VfsResponse | KeystoreResponse => exact handleDebugResponse_unaltered_iff _
  | SpawnResponse | EndpointResponse | CapResponse =>
    exact iff_of_true (decodeAndLog_unaltered _) not_false
  | DeliveryFailed => exact handleIpcDeliveryFailed_unaltered_iff _
  | AgentLog | Console => exact handleDebugConsoleOutput_unaltered_iff ..

lemma Alike.acts_iff (hl : Alike left right) (ht : right.pingpongTest = left.pingpongTest)
    (pid : ProcessId) (msg : String) : Acts right pid msg ↔ Acts left pid msg := by
  have hi : right.time = left.time := by
    simp only [time, uptimeNanos, hl.hal, hl.bootTime]
  simp only [Acts, Grants, Revokes, Kills, Delivers, Regrants, EndsTest, Finishes, hl.kernel,
    hi, hl.workers, ht, hl.reachesInit_iff, (hl.ticks _).reachesInit_iff]

end

-- A debug text leaves every table as it is exactly when the supervisor does not act on it.
theorem debug_unaltered_iff (state : SupervisorState) (pid : ProcessId) (args : Vector UInt32 3)
    (data : List UInt8) :
    Unaltered state (state.processSyscallInternal pid SYS_DEBUG args data).1 ↔
      ¬ (pid ∈ state.system.kernel.processes ∧
        ∃ msg, fromUtf8 data = some msg ∧ Acts state.tick pid msg) := by
  unfold processSyscallInternal handleSysDebug
  by_cases hm : pid ∈ state.system.kernel.processes
  swap
  · rw [if_pos hm]
    exact iff_of_true (.refl state) fun ha => hm ha.1
  have hl : Alike state.tick (state.gatewayCall pid SYS_DEBUG .zero data).1 :=
    ⟨rfl, rfl, rfl, rfl, rfl⟩
  have ht : (state.gatewayCall pid SYS_DEBUG .zero data).1.pingpongTest =
      state.pingpongTest := rfl
  rw [if_neg (not_not_intro hm), and_iff_right hm]
  cases hu : fromUtf8 data with
  | none =>
    refine iff_of_true ⟨?_, ?_⟩ (by simp)
    · exact hl.kernel ▸ .refl _
    · exact hl.workers
  | some msg =>
    have hd := @dispatchDebugMessage_unaltered_iff
      (state.gatewayCall pid SYS_DEBUG .zero data).1 pid msg
    rw [hl.acts_iff ht, hl.unaltered] at hd
    refine Iff.trans ⟨fun h => ⟨h.kernel, h.workers⟩, fun h => ⟨h.kernel, h.workers⟩⟩
      (hd.trans (not_congr ?_))
    simp

def bootedSystem : System :=
  let hal := Hal.unsupported 0
  let (system, _) := (System.new hal).registerProcess hal "init"
  let (system, _) := system.createEndpoint hal 1
  (system.registerProcessWithPid hal 10 "app").1

def booted : SupervisorState where
  system := bootedSystem
  hal := Hal.unsupported 0
  initEndpointSlot := none
  pendingStorageRequests := ∅
  workers := ∅
  consoleCallbacks := ∅
  spawnCallback := none
  ipcResponseCallback := none
  terminalEndpointSlots := ∅
  consoleBuffer := []
  pingpongTest := .Idle
  calls := []
  sent := []

def grantText : List UInt8 := utf8Bytes "INIT:GRANT:10:0:7"

theorem debug_text_grants :
    booted.system.kernel.capSpaces.capAt 10 0 = none ∧
      ((booted.processSyscallInternal 10 SYS_DEBUG #v[0, 0, 0] grantText).1.system.kernel.capSpaces.capAt
        10 0).map (fun cap => (cap.objectType, cap.objectId, cap.permissions)) =
          some (.Endpoint, 1, ⟨true, true, true⟩) ∧
      ¬ Unaltered booted (booted.processSyscallInternal 10 SYS_DEBUG #v[0, 0, 0] grantText).1 := by
  have hb : booted.system.kernel.capSpaces.capAt 10 0 = none := by decide +kernel
  have ha : ((booted.processSyscallInternal 10 SYS_DEBUG #v[0, 0, 0]
      grantText).1.system.kernel.capSpaces.capAt 10 0).map
        (fun cap => (cap.objectType, cap.objectId, cap.permissions)) =
      some (.Endpoint, 1, ⟨true, true, true⟩) := by decide +kernel
  refine ⟨hb, ha, fun hs => ?_⟩
  rw [hs.kernel.capSpaces] at ha
  cases ha

end SupervisorState

end ZeroOS
