import ZeroOS.Kernel.View.Lemmas

/-!
Registration, kill and fault in terms of the view.
-/

namespace ZeroOS.KernelCore

open BTreeMap

variable (kernel : KernelCore)

-- The endpoints that a kill destroys, in the order of the table.
def ownedEndpoints (pid : ProcessId) : List EndpointId :=
  (kernel.endpoints.toList.filter fun (_, ep) => ep.owner == pid).map Prod.fst

variable (pid caller : ProcessId) (name : String) (now : UInt64)

lemma mem_ownedEndpoints (eid : EndpointId) :
    eid ∈ kernel.ownedEndpoints pid ↔ ∃ ep, kernel.endpoints[eid]? = some ep ∧ ep.owner = pid := by
  simp [ownedEndpoints]

lemma nodup_ownedEndpoints : (kernel.ownedEndpoints pid).Nodup := by
  unfold ownedEndpoints
  rw [List.nodup_iff_pairwise_ne, List.pairwise_map]
  refine List.Pairwise.filter _ ?_
  refine kernel.endpoints.distinct_keys_toList.imp ?_
  intro first second hn he
  exact hn (by simp [he])

lemma cleanup_foldl (now : UInt64) (commits : List Commit)
    (hn : ids.Nodup) (hm : ∀ eid ∈ ids, eid ∈ kernel.endpoints) :
    ids.foldl
      (fun (kernel, commits) eid =>
        match kernel.endpoints[eid]? with
        | none => (kernel, commits)
        | some _ =>
          ({ kernel with endpoints := kernel.endpoints.erase eid },
            commits ++ [Commit.draft now (.EndpointDestroyed eid)]))
      (kernel, commits) =
    ({ kernel with endpoints := eraseAll kernel.endpoints ids },
      commits ++ ids.map fun eid => Commit.draft now (.EndpointDestroyed eid)) := by
  induction ids generalizing kernel commits with
  | nil => simp [eraseAll]
  | cons eid rest ih =>
    obtain ⟨_, hg⟩ := (mem_iff ..).mp (hm eid (by simp))
    have hr : ∀ other ∈ rest, other ∈ kernel.endpoints.erase eid := by
      intro other ho
      have he : eid ≠ other := fun h => (List.nodup_cons.mp hn).1 (h ▸ ho)
      have hi := hm other (by simp [ho])
      simp [he, hi]
    simp only [List.foldl_cons, hg]
    rw [ih { kernel with endpoints := kernel.endpoints.erase eid } _ (List.nodup_cons.mp hn).2 hr]
    simp [eraseAll]

lemma eraseAll_ownedEndpoints :
    eraseAll kernel.endpoints (kernel.ownedEndpoints pid) =
      kernel.endpoints.filter fun _ ep => ep.owner != pid := by
  apply ext_get
  intro key
  rw [get_eraseAll, get_filter]
  simp only [mem_ownedEndpoints]
  cases hg : kernel.endpoints[key]? with
  | none => simp
  | some ep =>
    by_cases ho : ep.owner = pid
    · simp [Option.filter]
    · simp [Option.filter]

lemma cleanupProcessEndpoints_eq :
    kernel.cleanupProcessEndpoints pid now =
      ({ kernel with endpoints := kernel.endpoints.filter fun _ ep =>
          ep.owner != pid },
        (kernel.ownedEndpoints pid).map fun eid => .draft now (.EndpointDestroyed eid)) := by
  have hm : ∀ eid ∈ kernel.ownedEndpoints pid, eid ∈ kernel.endpoints := by
    intro eid he
    obtain ⟨ep, hg, -⟩ := (kernel.mem_ownedEndpoints pid eid).mp he
    exact (mem_iff ..).mpr ⟨ep, hg⟩
  have hf := kernel.cleanup_foldl now [] (kernel.nodup_ownedEndpoints pid) hm
  rw [eraseAll_ownedEndpoints] at hf
  exact hf

lemma killProcess_commits :
    (kernel.killProcess pid now).2 =
      (if pid ∈ kernel.processes then [.draft now (.ProcessExited pid (-1))] else []) ++
        (kernel.ownedEndpoints pid).map fun eid => .draft now (.EndpointDestroyed eid) := by
  simp only [killProcess, cleanupProcessEndpoints_eq]
  congr 1
  cases hg : kernel.processes[pid]? with
  | none => simp [not_mem_iff.mpr hg]
  | some process => simp [(mem_iff ..).mpr ⟨process, hg⟩]

@[simp] lemma view_killProcess :
    (kernel.killProcess pid now).1.view = kernel.view.dropProcess pid := by
  simp only [killProcess, cleanupProcessEndpoints_eq, view, KernelView.dropProcess, map_erase]
  rw [map_filter (fun _ ep => ep.owner != pid)]
  exact fun _ _ => rfl

lemma killProcessWithCapCheck_cases (target : ProcessId) (now : UInt64) :
    (∃ e, ¬ (target ∈ kernel.processes ∧
        (caller = 1 ∨ kernel.hasKillPermission caller target = true)) ∧
      kernel.killProcessWithCapCheck caller target now = ⟨kernel, .error e, []⟩) ∨
    (target ∈ kernel.processes ∧ (caller = 1 ∨ kernel.hasKillPermission caller target = true) ∧
      kernel.killProcessWithCapCheck caller target now =
        ⟨(kernel.killProcess target now).1, .ok (), (kernel.killProcess target now).2⟩) := by
  unfold killProcessWithCapCheck
  by_cases hm : target ∈ kernel.processes
  · by_cases hi : caller = 1
    · exact .inr ⟨hm, .inl hi, by simp [hm, hi]⟩
    · cases hp : kernel.hasKillPermission caller target with
      | false => exact .inl ⟨.PermissionDenied, by simp [hi], by simp [hm, hi]⟩
      | true => exact .inr ⟨hm, .inr rfl, by simp [hm]⟩
  · exact .inl ⟨.ProcessNotFound, by simp [hm], by simp [hm]⟩

lemma hasKillPermission_iff :
    kernel.hasKillPermission caller target = true ↔
      ∃ slot cap, kernel.capSpaces.capAt caller slot = some cap ∧ cap.objectType = .Process ∧
        cap.objectId = target ∧ cap.permissions.write = true := by
  unfold hasKillPermission CapSpaces.capAt
  cases kernel.capSpaces[caller]? with
  | none => simp
  | some => simp [CapabilitySpace.get, and_assoc]

lemma view_registerProcessWithParent (parent : ProcessId) (now : UInt64) :
    (kernel.registerProcessWithParent name parent now).1.view =
      kernel.view.addProcess kernel.nextPid name (kernel.nextPid + 1) := by
  simp only [registerProcessWithParent, view, map_insert]
  rfl

lemma registerProcessWithPid_cases :
    (pid ∈ kernel.processes ∧ kernel.registerProcessWithPid pid name now = (kernel, pid, [])) ∨
    (pid ∉ kernel.processes ∧ ∃ kernel',
      kernel.registerProcessWithPid pid name now =
        (kernel', pid, [.draft now (.ProcessCreated pid 0 name)]) ∧
      kernel'.view = kernel.view.addProcess pid name
        (if pid ≥ kernel.nextPid then pid + 1 else kernel.nextPid)) := by
  unfold registerProcessWithPid
  by_cases hm : pid ∈ kernel.processes
  · exact .inl ⟨hm, by simp [hm]⟩
  · refine .inr ⟨hm, _, by rw [if_neg hm], ?_⟩
    simp only [view, map_insert]
    rfl

end ZeroOS.KernelCore
