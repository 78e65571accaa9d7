import ZeroOS.Recovery.Simulation

/-!
Replaying the commit log of a run gives back the tables of the system, unless a
call of the run took a registered process out of the table or gave Init a
capability that was not logged.
-/

namespace ZeroOS

open List Run Hal
open KernelView

namespace KernelCore

variable (kernel : KernelCore)

-- The check that a kill has to pass.
def MayKill (caller target : ProcessId) : Prop :=
  target ∈ kernel.processes ∧ (caller = 1 ∨ kernel.hasKillPermission caller target = true)

-- Replay keeps an exited process in the table, so no registered process may be killed; and it
-- does not know an unregistered one.
def OpLogsFully : Op → Prop
  | .KillProcess pid => pid ∉ kernel.processes
  | .FaultProcess pid _ _ => pid ∉ kernel.processes
  | .KillProcessWithCapCheck caller target => ¬ kernel.MayKill caller target
  | .HandleSyscall pid (.Exit _) => pid ∈ kernel.processes
  | .HandleSyscall pid (.Kill target) => ¬ kernel.MayKill pid target
  | _ => True

def LogsFully : Work → Prop
  | .Core op => kernel.OpLogsFully op
  | .Inject _ _ => True
  | .Raw sender syscallNum args _ =>
    (syscallNum = 0x11 → sender ∉ kernel.processes) ∧
    (syscallNum = 0x13 → ¬ kernel.MayKill sender args.word0.toUInt64) ∧
    (syscallNum = 0x15 → sender = 1 →
      ¬ (args.word0.toUInt64 ∈ kernel.processes ∧ (1 : ProcessId) ∈ kernel.processes))

end KernelCore

lemma SyscallStep.settled (hs : SyscallStep pid now view syscall result commits view')
    (he : ∀ code, syscall = .Exit code → pid ∈ view.processes)
    (hk : ∀ target, syscall = .Kill target →
      ¬ (target ∈ view.processes ∧ (pid = 1 ∨ view.HoldsProcess pid target))) :
    view.Settled commits view' := by
  cases hs with
  | Refused | Query | Empty | FailEndpoint | Receive | BurnId => exact .of_quiet fun _ h => h
  | CreateEndpoint | Send | CapGrant | CapDerive | CapRemove =>
    exact ⟨fun _ h => h, by simp [CommitType.ofInsert]⟩
  | SendWithCaps => exact ⟨fun _ h => h, by simp⟩
  | Exit code =>
    refine ⟨fun other h => BTreeMap.mem_modify.mpr h, ?_⟩
    intro other code' hm
    rw [mem_singleton, CommitType.ProcessExited.injEq] at hm
    exact hm.1 ▸ he code rfl
  | Kill _ _ hm hp => exact absurd ⟨hm, hp⟩ (hk _ rfl)

namespace KernelCore

variable (kernel : KernelCore)

lemma not_holdsProcess_of_not_mayKill (hk : ¬ kernel.MayKill caller target) :
    ¬ (target ∈ kernel.view.processes ∧ (caller = 1 ∨ kernel.view.HoldsProcess caller target)) := by
  rintro ⟨hm, hp⟩
  refine hk ⟨(kernel.mem_view_processes ..).mp hm, ?_⟩
  rcases hp with hi | hh
  · exact .inl hi
  · exact .inr ((kernel.hasKillPermission_iff ..).mpr hh)

lemma settled_of_typed (ht : op.typed = some (pid, syscall))
    (he : ∀ code, syscall = .Exit code → pid ∈ kernel.processes)
    (hk : ∀ target, syscall = .Kill target → ¬ kernel.MayKill pid target) :
    kernel.view.Settled (kernel.perform now op).2 (kernel.perform now op).1.view := by
  obtain ⟨_, hs⟩ := kernel.perform_step now ht
  refine hs.settled ?_ ?_
  · exact fun code hc => (kernel.mem_view_processes pid).mpr (he _ hc)
  · exact fun target hg => kernel.not_holdsProcess_of_not_mayKill (hk _ hg)

lemma settled_dropProcess (hn : pid ∉ kernel.processes) {owned : List EndpointId} :
    kernel.view.Settled (owned.map .EndpointDestroyed) (kernel.view.dropProcess pid) := by
  refine ⟨?_, by simp⟩
  intro other ho
  have he : pid ≠ other := by
    rintro rfl
    exact hn ((kernel.mem_view_processes pid).mp ho)
  simpa [dropProcess, he] using ho

lemma settled_addProcess {nextPid : UInt64} :
    kernel.view.Settled [.ProcessCreated pid parent name]
      (kernel.view.addProcess pid name nextPid) := by
  refine ⟨?_, by simp⟩
  intro other ho
  simp [addProcess, ho]

lemma exited_not_mem_inserted :
    CommitType.ProcessExited other code ∉ zipWith (.ofInsert pid) slots caps := by
  induction slots generalizing caps with
  | nil => exact not_mem_nil
  | cons _ _ ih =>
    cases caps with
    | nil => exact not_mem_nil
    | cons => simp [CommitType.ofInsert, ih]

lemma settled_receiveWithCaps :
    kernel.view.Settled (kernel.perform now (.IpcReceiveWithCaps pid slot)).2
      (kernel.perform now (.IpcReceiveWithCaps pid slot)).1.view := by
  simp only [perform]
  rcases kernel.ipcReceiveWithCaps_cases pid slot now with
    ⟨e, -, he⟩ | ⟨_, _, _, _, _, he⟩ | ⟨_, _, _, _, _, _, _, _, _, _, he, hv⟩
  · rw [he]
    exact .of_quiet fun _ h => h
  · rw [he]
    exact .of_quiet fun _ h => h
  · rw [he]
    simp only [hv, commitTypesOf, map_zipWith]
    exact ⟨fun _ h => h, fun _ _ hm => (exited_not_mem_inserted hm).elim⟩

lemma settled_grantToEndpoint :
    kernel.view.Settled (kernel.perform now (.GrantCapabilityToEndpoint ownerPid eid toPid perms)).2
      (kernel.perform now (.GrantCapabilityToEndpoint ownerPid eid toPid perms)).1.view := by
  simp only [perform]
  rcases kernel.grantCapabilityToEndpoint_cases ownerPid eid toPid perms now with
    ⟨e, -, he⟩ | ⟨_, _, _, _, he⟩ | ⟨_, _, _, _, _, he⟩
  · rw [he]
    exact .of_quiet fun _ h => h
  · rw [he]
    exact .of_quiet fun _ h => h
  · rw [he]
    exact ⟨fun _ h => h, by simp [commitTypesOf, Commit.draft, CommitType.ofInsert]⟩

lemma perform_settled (hl : kernel.OpLogsFully op) :
    kernel.view.Settled (kernel.perform now op).2 (kernel.perform now op).1.view := by
  cases op with
  | RegisterProcess =>
    simp only [perform, registerProcess, view_registerProcessWithParent]
    exact kernel.settled_addProcess
  | RegisterProcessWithParent =>
    simp only [perform, view_registerProcessWithParent]
    exact kernel.settled_addProcess
  | RegisterProcessWithPid pid name =>
    simp only [perform]
    rcases kernel.registerProcessWithPid_cases pid name now with ⟨_, he⟩ | ⟨_, _, he, hv⟩
    · rw [he]
      exact .of_quiet fun _ h => h
    · rw [he]
      simp only [hv]
      exact kernel.settled_addProcess
  | KillProcess pid =>
    have hc := kernel.killProcess_commits pid now
    rw [if_neg hl] at hc
    simp only [perform, hc, view_killProcess, commitTypesOf, nil_append, map_map]
    exact kernel.settled_dropProcess hl
  | FaultProcess pid =>
    have hc := kernel.killProcess_commits pid now
    have hn : pid ∉ kernel.processes := hl
    simp only [perform, faultProcess, hn, ite_false, hc, view_killProcess, commitTypesOf,
      nil_append, map_map]
    exact kernel.settled_dropProcess hl
  | GrantCapabilityToEndpoint => exact kernel.settled_grantToEndpoint
  | IpcReceiveWithCaps => exact kernel.settled_receiveWithCaps
  | AllocateMemory =>
    simp only [perform, view_allocateMemory]
    exact .of_quiet fun _ h => h
  | FreeMemory =>
    simp only [perform, view_freeMemory]
    exact .of_quiet fun _ h => h
  | UpdateProcessMemory =>
    simp only [perform, view_updateProcessMemory]
    exact .of_quiet fun _ h => h
  | HandleSyscall =>
    refine kernel.settled_of_typed rfl ?_ ?_
    · rintro code rfl
      exact hl
    · rintro target rfl
      exact hl
  | KillProcessWithCapCheck =>
    refine kernel.settled_of_typed rfl (by rintro _ ⟨⟩) ?_
    rintro _ ⟨⟩
    exact hl
  | _ => exact kernel.settled_of_typed rfl (by rintro _ ⟨⟩) (by rintro _ ⟨⟩)

end KernelCore

-- From a sound state, the commits carry the ledger along, and the state stays sound.
def Replays (view : KernelView) (commits : List CommitType) (view' : KernelView) : Prop :=
  view.Sound → view'.Sound ∧ commits.foldlM Ledger.apply view.ledger = .ok view'.ledger

lemma Effect.replays_of_settled (he : Effect view commits view')
    (hse : view.Settled commits view') : Replays view commits view' :=
  fun hs => ⟨he.sound hs, he.replays hs hse⟩

lemma Replays.trans (hf : Replays view first middle) (he : Replays middle second view') :
    Replays view (first ++ second) view' := by
  intro hs
  obtain ⟨hs, hr⟩ := hf hs
  obtain ⟨hs, hr'⟩ := he hs
  refine ⟨hs, ?_⟩
  rw [foldlM_append, hr]
  exact hr'

namespace KernelCore

variable (kernel : KernelCore)

lemma perform_replays (hl : kernel.OpLogsFully op) :
    Replays kernel.view (kernel.perform now op).2 (kernel.perform now op).1.view :=
  (kernel.perform_effect ..).replays_of_settled (kernel.perform_settled hl)

lemma performReceive_replays :
    Replays kernel.view (kernel.performReceive now pid slot).2
      (kernel.performReceive now pid slot).1.view := by
  have hr : kernel.OpLogsFully (.IpcReceive pid slot) := trivial
  have hf : Replays kernel.view [] (kernel.ipcReceive pid slot now).1.view :=
    kernel.perform_replays hr
  unfold performReceive
  split
  · rename_i received msg he
    rw [he] at hf
    exact hf.trans (received.perform_replays trivial)
  · rename_i received result hn he
    rw [he] at hf
    exact hf

lemma performFor_replays (hl : ¬ (target ∈ kernel.processes ∧ (1 : ProcessId) ∈ kernel.processes)) :
    Replays kernel.view (kernel.performFor now target).2 (kernel.performFor now target).1.view := by
  have hc : kernel.OpLogsFully (.CreateEndpoint target) := trivial
  have hn : Replays kernel.view (commitTypesOf (kernel.createEndpoint target now).commits)
      (kernel.createEndpoint target now).kernel.view := kernel.perform_replays hc
  unfold performFor
  rcases kernel.createEndpoint_cases target now with
    ⟨-, he⟩ | ⟨-, -, _, he, -⟩ | ⟨cs, hr, -, he⟩
  · rw [he] at hn ⊢
    exact hn
  · rw [he] at hn ⊢
    exact hn
  · rw [he] at hn ⊢
    dsimp only at hn ⊢
    refine hn.trans ?_
    intro hs
    generalize hp : (kernel.openEndpoint target).installCap target cs
      (.endpoint kernel.nextCapId kernel.nextEndpointId Permissions.full) = opened at hs ⊢
    have hpr : opened.processes = kernel.processes := by rw [← hp]; rfl
    rcases opened.grantCapabilityToEndpoint_cases target kernel.nextEndpointId 1 Permissions.full
      now with ⟨e, -, hg⟩ | ⟨_, _, _, _, hg⟩ | ⟨_, initSpace, _, _, hi, hg⟩
    · rw [hg]
      exact ⟨hs, rfl⟩
    · rw [hg]
      exact Effect.BurnId.replays_of_settled (.of_quiet fun _ h => h) hs
    · have ho : (1 : ProcessId) ∈ opened.view.processes :=
        (hs.paired 1).mpr ((BTreeMap.mem_iff ..).mpr ⟨initSpace, hi⟩)
      rw [mem_view_processes, hpr] at ho
      exact absurd ⟨hr, ho⟩ hl

lemma performRaw_replays (now : UInt64) (hl : kernel.LogsFully (.Raw sender num args data)) :
    Replays kernel.view (kernel.performRaw now sender (.decode sender num args data)).2
      (kernel.performRaw now sender (.decode sender num args data)).1.view := by
  obtain ⟨he, hk, hi⟩ := hl
  have hn : Replays kernel.view [] kernel.view := fun hs => ⟨hs, rfl⟩
  have hd := RawCall.decodes sender num args data
  generalize RawCall.decode sender num args data = call at hd ⊢
  cases hd with
  | Exit => exact kernel.perform_replays (he rfl)
  | Kill => exact kernel.perform_replays (hk rfl)
  | EndpointFor h1 => exact kernel.performFor_replays (hi rfl h1)
  | Receive => exact kernel.performReceive_replays
  | Register | Spawn | Grant | Delete | CreateEndpoint | Send =>
    exact kernel.perform_replays trivial
  | NoRegister | NoEndpointFor | NoSpawn | Other => exact hn

lemma inject_replays :
    Replays kernel.view (kernel.inject tag data).2 (kernel.inject tag data).1.view := by
  unfold inject
  cases hi : kernel.initEndpoint with
  | none => exact fun hs => ⟨hs, rfl⟩
  | some entry =>
    obtain ⟨eid, ep⟩ := entry
    have hg := (initEndpoint_some hi).1
    have hv := kernel.view_putEndpoint eid ep { ep with
      pendingMessages := ep.pendingMessages ++ [⟨0, tag, data, []⟩] } _ hg rfl
    simp only [hv]
    exact (Effect.Push eid ep.view 0 tag data
      (kernel.view_endpoints_of_get hg)).replays_of_settled ⟨fun _ h => h, by simp⟩

lemma performWork_replays (hal : Hal) (now : UInt64) (hl : kernel.LogsFully work) :
    Replays kernel.view (kernel.performWork hal now work).2
      (kernel.performWork hal now work).1.view := by
  cases work with
  | Core => exact kernel.perform_replays hl
  | Inject tag => exact kernel.inject_replays
  | Raw sender num args data =>
    obtain ⟨hv, hc⟩ := kernel.rawSyscall_eq hal num sender args data now
    have hr := kernel.performRaw_replays now hl
    rwa [← hv, ← hc] at hr

end KernelCore

namespace System

structure SameTables (replayed system : System) : Prop where
  processes : replayed.kernel.view.processes = system.kernel.view.processes
  capSpaces : replayed.kernel.capSpaces = system.kernel.capSpaces
  endpoints : replayed.ledger.endpoints = system.ledger.endpoints
  stateHash : replayed.stateHash = system.stateHash

lemma sameTables_of_ledger {replayed system : System} (hl : replayed.ledger = system.ledger) :
    replayed.SameTables system where
  processes := congrArg Ledger.processes hl
  capSpaces := congrArg Ledger.capSpaces hl
  endpoints := congrArg Ledger.endpoints hl
  stateHash := by rw [stateHash_ledger, stateHash_ledger, hl]

def Recovers (system : System) : Prop :=
  ∃ replayed, replay newForReplay system.commitlog.commits = .ok replayed ∧
    replayed.SameTables system

def LogsFully (system : System) (input : Hal × SystemOp) : Prop :=
  system.kernel.LogsFully input.2.work

def Followed (seen : List CommitType) (system : System) : Prop :=
  system.kernel.view.Sound ∧
    seen.foldlM Ledger.apply newForReplay.ledger = .ok system.ledger

lemma sound_new : KernelCore.new.view.Sound := by
  refine ⟨?_, ?_⟩
  · intro pid
    simp [KernelCore.new]
  · rintro cap (⟨pid, _, hh⟩ | ⟨_, _, _, hg, -⟩)
    · simp [CapSpaces.capAt] at hh
    · simp [KernelCore.new] at hg

lemma followed_new : Followed [] (new boot) := by
  refine ⟨sound_new, ?_⟩
  rw [ledger]
  rfl

lemma Followed.step (hf : Followed seen system) (hl : system.LogsFully input) :
    Followed (seen ++ system.logged input) (system.step input) := by
  obtain ⟨hal, op⟩ := input
  obtain ⟨hn, hr⟩ := hf
  have hs := system.kernel.performWork_replays hal (system.uptimeNanos hal) hl hn
  rw [← (system.step_eq hal op).1] at hs
  refine ⟨hs.1, ?_⟩
  rw [foldlM_append, hr]
  exact hs.2

lemma followed_of_run (hl : Run.Along step LogsFully (new boot) inputs) :
    Followed (observed step logged (new boot) inputs) (run step (new boot) inputs) :=
  run_observed_invariant step LogsFully logged Followed
    (fun _ _ _ hf hl => hf.step hl) followed_new hl

lemma ledger_of_run (hl : Run.Along step LogsFully (new boot) inputs)
    (he : (run step (new boot) inputs).commitlog.commits.length < MAX_COMMITLOG_ENTRIES) :
    ∃ replayed,
      replay newForReplay (run step (new boot) inputs).commitlog.commits = .ok replayed ∧
      replayed.ledger = (run step (new boot) inputs).ledger := by
  have hr := newForReplay.ledger_replay (run step (new boot) inputs).commitlog.commits
  have hc := commitTypes_of_run he
  unfold CommitLog.commitTypes at hc
  rw [hc] at hr
  have ha := hr.trans (followed_of_run hl).2
  rw [map_eq_ok_iff] at ha
  exact ha

-- Every run of the system that logs fully can be recovered from its commit log, as long as the
-- log has not begun to drop commits.
theorem recovers_of_run (boot : Hal) (inputs : List (Hal × SystemOp))
    (hlogs : Run.Along step LogsFully (System.new boot) inputs)
    (hlen : (Run.run step (System.new boot) inputs).commitlog.commits.length <
      MAX_COMMITLOG_ENTRIES) :
    (Run.run step (System.new boot) inputs).Recovers := by
  obtain ⟨replayed, hr, hl⟩ := ledger_of_run hlogs hlen
  exact ⟨replayed, hr, sameTables_of_ledger hl⟩

def registerAndExit : List (Hal × SystemOp) :=
  [(Hal.unsupported 0, .RegisterProcess "init"), (Hal.unsupported 1, .CreateEndpoint 1),
    (Hal.unsupported 2, .HandleSyscall 1 (.Exit 0))]

lemma logsFully_registerAndExit :
    Run.Along step LogsFully (new (unsupported 0)) registerAndExit := by
  have hr : (1 : ProcessId) ∈ (run step (new (unsupported 0))
      (registerAndExit.take 2)).kernel.processes := by decide +kernel
  exact ⟨trivial, trivial, hr, trivial⟩

theorem recovers_registerAndExit :
    (Run.run step (System.new (Hal.unsupported 0)) registerAndExit).Recovers :=
  recovers_of_run (unsupported 0) registerAndExit logsFully_registerAndExit
    (by decide +kernel)

def registerAndKill : List (Hal × SystemOp) :=
  [(Hal.unsupported 0, .RegisterProcess "init"), (Hal.unsupported 1, .KillProcess 1)]

theorem not_recovers_registerAndKill :
    (Run.run step (System.new (Hal.unsupported 0)) registerAndKill).commitlog.commits.length <
        MAX_COMMITLOG_ENTRIES ∧
      ¬ (Run.run step (System.new (Hal.unsupported 0)) registerAndKill).Recovers := by
  refine ⟨by decide +kernel, ?_⟩
  rintro ⟨_, hr, hs⟩
  have hz : (replay newForReplay (run step (new (unsupported 0))
      registerAndKill).commitlog.commits).map (fun system => system.kernel.view.processes) ≠
        .ok (run step (new (unsupported 0))
          registerAndKill).kernel.view.processes := by decide +kernel
  rw [hr] at hz
  exact hz (congrArg Except.ok hs.processes)

end System

end ZeroOS
