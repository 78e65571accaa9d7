import ZeroOS.Authority.Amplification
import ZeroOS.Authority.Fresh

/-!
The frame of a typed call.
-/

namespace ZeroOS

open BTreeMap CommitType Permissions Run
open KernelView

structure Frame (pid : ProcessId) (syscall : Syscall) (view view' : KernelView) : Prop where
  -- A queue gains one message of the caller's at the back, or loses its front.
  queues : ∀ (eid : EndpointId) (old new : EndpointView),
    view.endpoints[eid]? = some old → view'.endpoints[eid]? = some new →
      new.queue = old.queue ∨
      (∃ msg, new.queue = old.queue ++ [msg] ∧ msg.fromPid = pid ∧
        view.HoldsEndpoint pid eid Permissions.write) ∨
      (∃ msg, old.queue = msg :: new.queue ∧ view.HoldsEndpoint pid eid Permissions.read)
  -- Another process's space gains one capability in an empty slot, or goes with its process.
  spaces : ∀ other ≠ pid,
    view'.capSpaces[other]? = view.capSpaces[other]? ∨
    (∃ slot perms source cap cspace, syscall = .CapGrant slot other perms ∧
      view.capSpaces.capAt pid slot = some source ∧ source.permissions.grant = true ∧
      source.Covers cap ∧ view.capSpaces[other]? = some cspace ∧
      cspace.get cspace.nextSlot = none ∧ view'.capSpaces[other]? = some (cspace.insert cap).2) ∨
    (syscall = .Kill other ∧ other ∈ view.processes ∧ view' = view.dropProcess other)
  -- Another process disappears only under authority over it, and only what is its own goes too.
  vanishing : ∀ other ≠ pid, other ∈ view.processes → other ∉ view'.processes →
    (pid = 1 ∨ view.HoldsProcess pid other) ∧ view' = view.dropProcess other
  -- No other process entry appears or changes.
  entries : ∀ other ≠ pid,
    view'.processes[other]? = view.processes[other]? ∨
      (syscall = .Kill other ∧ view'.processes[other]? = none)
  -- An endpoint keeps its identity and owner as long as the owner is not killed.
  kept : ∀ (eid : EndpointId) (old : EndpointView), view.endpoints[eid]? = some old →
    (∃ new, view'.endpoints[eid]? = some new ∧ new.id = old.id ∧ new.owner = old.owner) ∨
      (view'.endpoints[eid]? = none ∧ syscall = .Kill old.owner)
  -- A new endpoint is empty and belongs to the caller who created it.
  created : ∀ eid : EndpointId, view.endpoints[eid]? = none →
    view'.endpoints[eid]? = none ∨
      (syscall = .CreateEndpoint ∧ view'.endpoints[eid]? = some ⟨eid, pid, []⟩)
  pids : view'.nextPid = view.nextPid

namespace Frame

variable {pid : ProcessId} {syscall : Syscall} {view view' : KernelView}

lemma of_own (hp : view'.processes = view.processes)
    (he : view'.endpoints = view.endpoints) (hi : view'.nextPid = view.nextPid)
    (hc : ∀ other ≠ pid, view'.capSpaces[other]? = view.capSpaces[other]?) :
    Frame pid syscall view view' where
  queues := by
    intro eid old new hl hn
    rw [he, hl] at hn
    cases hn
    exact .inl rfl
  spaces := fun other hne => .inl (hc _ hne)
  vanishing := fun other _ hin ho => absurd (hp ▸ hin) ho
  entries := fun other _ => .inl (by rw [hp])
  kept := fun eid old hl => .inl ⟨old, by rw [he, hl], rfl, rfl⟩
  created := fun eid hno => .inl (by rw [he, hno])
  pids := hi

lemma refl : Frame pid syscall view view := of_own rfl rfl rfl fun _ _ => rfl

lemma of_putSpace (hp : view'.processes = view.processes)
    (he : view'.endpoints = view.endpoints) (hi : view'.nextPid = view.nextPid)
    (hc : view'.capSpaces = view.capSpaces.insert pid cs) : Frame pid syscall view view' := by
  refine of_own hp he hi ?_
  intro other hn
  rw [hc, get_insert_ne hn.symm]

lemma get_setQueue :
    (view.setQueue eid queue).endpoints[other]? =
      if eid = other then view.endpoints[other]?.map fun ep => { ep with queue }
      else view.endpoints[other]? :=
  get_modify

lemma of_queue (hp : view'.processes = view.processes)
    (hen : view'.endpoints = (view.setQueue eid queue).endpoints)
    (hi : view'.nextPid = view.nextPid)
    (hc : ∀ other ≠ pid, view'.capSpaces[other]? = view.capSpaces[other]?)
    (hg : view.endpoints[eid]? = some ep) (hq :
      (∃ msg, queue = ep.queue ++ [msg] ∧ msg.fromPid = pid ∧ view.HoldsEndpoint pid eid write) ∨
      (∃ msg, ep.queue = msg :: queue ∧ view.HoldsEndpoint pid eid read)) :
    Frame pid syscall view view' where
  queues := by
    intro other old new hl hn
    rw [hen, get_setQueue] at hn
    by_cases he : eid = other
    · subst he
      rw [hg] at hl
      rw [if_pos rfl, hg] at hn
      cases hl
      cases hn
      exact .inr hq
    · rw [if_neg he, hl] at hn
      cases hn
      exact .inl rfl
  spaces := fun other hne => .inl (hc _ hne)
  vanishing := fun other _ hin ho => absurd (hp ▸ hin) ho
  entries := fun other _ => .inl (by rw [hp])
  kept := by
    intro other old hl
    refine .inl ?_
    rw [hen, get_setQueue, hl]
    by_cases he : eid = other
    · exact ⟨{ old with queue }, by simp [he], rfl, rfl⟩
    · exact ⟨old, by simp [he], rfl, rfl⟩
  created := by
    intro other hno
    rw [hen, get_setQueue, hno]
    simp
  pids := hi

lemma of_createEndpoint (hf : view.nextEndpointId ∉ view.endpoints)
    (hp : view'.processes = view.processes)
    (hen : view'.endpoints = (view.addEndpoint pid).endpoints) (hi : view'.nextPid = view.nextPid)
    (hc : ∀ other ≠ pid, view'.capSpaces[other]? = view.capSpaces[other]?) :
    Frame pid .CreateEndpoint view view' := by
  have hno := not_mem_iff.mp hf
  have ho : ∀ (eid : EndpointId) (old : EndpointView), view.endpoints[eid]? = some old →
      view'.endpoints[eid]? = some old := by
    intro eid old hl
    have hn : view.nextEndpointId ≠ eid := by
      rintro rfl
      rw [hno] at hl
      cases hl
    rw [hen, addEndpoint, get_insert_ne hn, hl]
  refine ⟨?_, fun other hn => .inl (hc _ hn),
    fun other _ hin hu => absurd (hp ▸ hin) hu, fun other _ => .inl (by rw [hp]),
    fun eid old hl => .inl ⟨old, ho eid old hl, rfl, rfl⟩, ?_, hi⟩
  · intro eid old new hl hw
    rw [ho eid old hl] at hw
    cases hw
    exact .inl rfl
  · intro eid hm
    rw [hen, addEndpoint, get_insert]
    by_cases he : view.nextEndpointId = eid
    · exact .inr ⟨rfl, by simp [he]⟩
    · exact .inl (by simp [he, hm])

lemma of_failEndpoint (hf : view.nextEndpointId ∉ view.endpoints) :
    Frame pid syscall view view.failEndpoint.burnCapId := by
  have hs : view.failEndpoint.endpoints = view.endpoints := by
    apply ext_get
    intro eid
    simp only [failEndpoint, get_erase]
    by_cases he : view.nextEndpointId = eid
    · rw [if_pos he, ← he, not_mem_iff.mp hf]
    · rw [if_neg he]
  exact of_own rfl hs rfl fun _ _ => rfl

lemma of_grant (hh : view.capSpaces.capAt pid slot = some source)
    (hg : source.permissions.grant = true) (hc : view.capSpaces[toPid]? = some cs)
    (hr : cs.get cs.nextSlot = none) :
    Frame pid (.CapGrant slot toPid perms) view (view.burnCapId.putSpace toPid (cs.insert
      (source.derived view.nextCapId (attenuatePermissions source.permissions perms))).2) := by
  have hf : Frame pid (.CapGrant slot toPid perms) view view := refl
  refine ⟨hf.queues, ?_, fun _ _ hi ho => absurd hi ho, hf.entries, hf.kept, hf.created, rfl⟩
  intro other _
  by_cases he : toPid = other
  · subst he
    refine .inr (.inl ⟨slot, perms, source, _, cs, rfl, hh, hg,
      covers_derived source view.nextCapId perms, hc, hr, ?_⟩)
    simp only [putSpace, get_insert, ite_true]
  · exact .inl (get_insert_ne he)

lemma of_exit : Frame pid (.Exit code) view (view.exitProcess pid) := by
  have hf : Frame pid (.Exit code) view view := refl
  have he : ∀ other ≠ pid, (view.exitProcess pid).processes[other]? = view.processes[other]? := by
    intro other hn
    simp only [exitProcess, get_modify, hn.symm, ite_false]
  refine ⟨hf.queues, fun _ _ => .inl rfl, ?_, fun other hn => .inl (he _ hn),
    hf.kept, hf.created, rfl⟩
  intro other hn hi ho
  rw [mem_iff] at hi ho
  rw [he other hn] at ho
  exact absurd hi ho

lemma of_kill (hm : target ∈ view.processes) (hp : pid = 1 ∨ view.HoldsProcess pid target) :
    Frame pid (.Kill target) view (view.dropProcess target) where
  queues := by
    intro eid old new hl hn
    simp only [dropProcess, get_filter] at hn
    rw [Option.eq_some_of_filter_eq_some hn] at hl
    cases hl
    exact .inl rfl
  spaces := by
    intro other _
    by_cases he : target = other
    · subst he
      exact .inr (.inr ⟨rfl, hm, rfl⟩)
    · exact .inl (get_erase_ne _ he)
  vanishing := by
    intro other _ hi hu
    by_cases he : target = other
    · subst he
      exact ⟨hp, rfl⟩
    · simp only [dropProcess, mem_iff, get_erase_ne _ he] at hi hu
      exact absurd hi hu
  entries := by
    intro other _
    by_cases he : target = other
    · subst he
      exact .inr ⟨rfl, by simp [dropProcess]⟩
    · exact .inl (get_erase_ne _ he)
  kept := by
    intro eid old hl
    simp only [dropProcess, get_filter, hl]
    by_cases ho : old.owner = target
    · exact .inr ⟨by simp [ho], by rw [ho]⟩
    · exact .inl ⟨old, by simp [ho], rfl, rfl⟩
  created := by
    intro eid hno
    exact .inl (by simp [dropProcess, hno])
  pids := rfl

end Frame

lemma SyscallStep.frame (hs : SyscallStep pid now view syscall result commits view')
    (hf : view.nextEndpointId ∉ view.endpoints) (hl : ∀ (other : ProcessId) (cs : CapabilitySpace),
      view.capSpaces[other]? = some cs → cs.get cs.nextSlot = none) :
    Frame pid syscall view view' := by
  cases hs with
  | Refused | Query | Empty | BurnId => exact .of_own rfl rfl rfl fun _ _ => rfl
  | CreateEndpoint =>
    refine .of_createEndpoint hf rfl rfl rfl ?_
    intro other hn
    exact get_insert_ne hn.symm
  | FailEndpoint => exact .of_failEndpoint hf
  | Send _ _ slot _ _ cap _ _ hh ht hw _ hg =>
    refine .of_queue rfl rfl rfl (fun _ _ => rfl) hg (.inl ⟨_, rfl, rfl, ?_⟩)
    exact ⟨slot, cap, hh, ht, rfl, hw⟩
  | SendWithCaps slot _ _ _ cap _ _ hh ht hw hg =>
    refine .of_queue rfl rfl rfl ?_ hg (.inl ⟨_, rfl, rfl, ?_⟩)
    · intro other hn
      exact get_insert_ne hn.symm
    · exact ⟨slot, cap, hh, ht, rfl, hw⟩
  | Receive slot cap _ msg _ hh ht hr _ hg hq =>
    refine .of_queue rfl rfl rfl (fun _ _ => rfl) hg (.inr ⟨msg, hq, ?_⟩)
    exact ⟨slot, cap, hh, ht, rfl, hr⟩
  | CapGrant _ _ _ _ _ hh hgr _ hc =>
    exact .of_grant hh hgr hc (hl _ _ hc)
  | CapDerive | CapRemove => exact .of_putSpace rfl rfl rfl rfl
  | Exit => exact .of_exit
  | Kill _ _ hm hp => exact .of_kill hm hp

namespace KernelCore

-- In every state reached before a counter wraps, each typed call stays within its frame.
theorem frame_of_run (ops : List (UInt64 × Op)) (pid : ProcessId) (syscall : Syscall)
    (now : UInt64) (hids : (Run.observed exec allocatedEndpointIds new ops).length < 2 ^ 64)
    (hslots : ∀ other, insertsInto other (Run.observed exec commitsOf new ops) < 2 ^ 32) :
    Frame pid syscall (Run.run exec new ops).view
      ((Run.run exec new ops).handleSyscall pid syscall now).kernel.view := by
  refine ((run exec new ops).handleSyscall_step pid syscall now).frame ?_ ?_
  · exact (numbered_run ops).fresh hids
  · intro other cs hc
    exact (slotsCounted_run _ _ hc).fresh (hslots _)

-- Two processes; the second owns endpoint 1, which holds a message.
def queuedMessage : List (UInt64 × Op) :=
  [(0, .RegisterProcess "init"), (0, .RegisterProcess "app"), (0, .CreateEndpoint 2),
    (0, .IpcSend 2 0 7 [])]

theorem frame_of_queuedMessage :
    Frame 2 (.Receive 0) (Run.run exec new queuedMessage).view
      ((Run.run exec new queuedMessage).handleSyscall 2 (.Receive 0) 0).kernel.view := by
  refine frame_of_run _ 2 (.Receive 0) 0 (by decide +kernel) ?_
  intro other
  have hc : observed exec commitsOf new queuedMessage =
      [.ProcessCreated 1 0 "init", .ProcessCreated 2 0 "app", .EndpointCreated 1 2,
        .ofInsert 2 0 (.endpoint 1 1 full), .MessageSent 2 1 7 0] := by
    decide +kernel
  rw [hc]
  by_cases he : (2 : ProcessId) = other
  · simp [insertsInto, countInsert, ofInsert, ← he]
  · by_cases hi : (1 : ProcessId) = other
    · simp [insertsInto, countInsert, ofInsert, ← hi]
    · simp [insertsInto, countInsert, ofInsert, he]

-- The same state after Init has created `n` more endpoints.
structure Approaching (n : Nat) (kernel : KernelCore) : Prop where
  registered : (1 : ProcessId) ∈ kernel.processes
  space : ∃ cspace, kernel.capSpaces[(1 : ProcessId)]? = some cspace
  victim : kernel.view.endpoints[(1 : EndpointId)]? = some ⟨1, 2, [⟨2, 7, [], []⟩]⟩
  next : kernel.nextEndpointId.toNat = (n + 2) % 2 ^ 64

lemma view_createEndpoint (ha : Approaching n kernel) (now : UInt64) :
    ∃ cs, (kernel.createEndpoint 1 now).kernel.view =
      (kernel.view.addEndpoint 1).burnCapId.putSpace 1 cs := by
  obtain ⟨cs, hc⟩ := ha.space
  rcases kernel.createEndpoint_cases 1 now with ⟨ho, -⟩ | ⟨-, hn, -⟩ | ⟨_, -, -, he⟩
  · exact absurd ha.registered ho
  · rw [hc] at hn
    cases hn
  · rw [he]
    rw [view_installCap, view_openEndpoint]
    exact ⟨_, rfl⟩

lemma Approaching.step (ha : Approaching n kernel) (hn : n + 1 < 2 ^ 64) :
    Approaching (n + 1) (kernel.exec (0, .CreateEndpoint 1)) := by
  obtain ⟨cs, hv⟩ := view_createEndpoint ha 0
  have hv : (kernel.exec (0, .CreateEndpoint 1)).view = _ := hv
  have hx := ha.next
  have hne : kernel.nextEndpointId ≠ 1 := by
    intro he
    rw [he, UInt64.toNat_one] at hx
    omega
  refine ⟨?_, ⟨cs, ?_⟩, ?_, ?_⟩
  · rw [← mem_view_processes, hv]
    exact (kernel.mem_view_processes 1).mpr ha.registered
  · rw [← view_capSpaces, hv]
    simp [putSpace]
  · rw [hv]
    simp only [putSpace, burnCapId, addEndpoint, view_nextEndpointId, get_insert_ne hne]
    exact ha.victim
  · rw [← view_nextEndpointId, hv]
    simp only [putSpace, burnCapId, addEndpoint, view_nextEndpointId, UInt64.toNat_add,
      UInt64.toNat_one]
    omega

lemma approaching_run (n : Nat) (hn : n < 2 ^ 64) :
    Approaching n (run exec new (queuedMessage ++ List.replicate n (0, .CreateEndpoint 1))) := by
  induction n with
  | zero =>
    exact ⟨by decide +kernel, ⟨CapabilitySpace.new, by decide +kernel⟩, by decide +kernel,
      by decide +kernel⟩
  | succ n ih =>
    have hs := (ih (by omega)).step (by omega)
    rw [List.replicate_succ', ← List.append_assoc, run_append]
    exact hs

lemma exists_not_frame (n : Nat) (hn : n + 1 = 2 ^ 64) :
    ∃ ops, ¬ Frame 1 .CreateEndpoint (run exec new ops).view
      ((run exec new ops).handleSyscall 1 .CreateEndpoint 0).kernel.view := by
  refine ⟨queuedMessage ++ List.replicate n (0, .CreateEndpoint 1), ?_⟩
  have ha := approaching_run n (by omega)
  revert ha
  generalize run exec new (queuedMessage ++ List.replicate n (0, .CreateEndpoint 1)) = kernel
  intro ha hf
  have hx : kernel.nextEndpointId = 1 := by
    rw [← UInt64.toNat_inj, ha.next, UInt64.toNat_one]
    omega
  have hm : Approaching n (kernel.updateSyscallMetrics 1 0) := by
    refine ⟨?_, ha.space, ha.victim, ha.next⟩
    rw [← mem_view_processes, view_updateSyscallMetrics, mem_view_processes]
    exact ha.registered
  obtain ⟨_, hv⟩ := view_createEndpoint hm 0
  have hv : (kernel.handleSyscall 1 .CreateEndpoint 0).kernel.view = _ := hv
  -- The victim's endpoint has become Init's.
  have hs : (kernel.handleSyscall 1 .CreateEndpoint 0).kernel.view.endpoints[(1 : EndpointId)]? =
      some ⟨1, 1, []⟩ := by
    rw [hv]
    simp [putSpace, burnCapId, addEndpoint, hx]
  rcases hf.kept 1 _ ha.victim with ⟨new, he, -, ho⟩ | ⟨hg, -⟩
  · rw [hs] at he
    cases he
    exact absurd ho (by decide)
  · rw [hs] at hg
    cases hg

-- Once 2^64 endpoint ids have been used up, a new endpoint replaces another process's.
theorem not_frame_after_wrap :
    ∃ ops, ¬ Frame 1 .CreateEndpoint (Run.run exec new ops).view
      ((Run.run exec new ops).handleSyscall 1 .CreateEndpoint 0).kernel.view :=
  exists_not_frame (2 ^ 64 - 1) (by decide)

end KernelCore

end ZeroOS
