import ZeroOS.Recovery.Ledger

/-!
Replay follows the kernel.
-/

namespace ZeroOS

open BTreeMap Ledger CapabilitySpace

lemma mapObjectType_toU8 : mapObjectType objectType.toU8 = .ok objectType := by
  cases objectType <;> rfl

lemma bumpPast_slot (slot : CapSlot) : bumpPast slot slot = slot + 1 := by
  simp [bumpPast]

lemma remove_of_get_none {cs : CapabilitySpace}
    (hg : cs.get slot = none) : (cs.remove slot).2 = cs := by
  have hs : cs.slots.erase slot = cs.slots := erase_of_get_none hg
  simp only [remove, hs]

namespace Ledger

variable {ledger : Ledger} {pid : ProcessId} {cs : CapabilitySpace}

lemma putSpace_putSpace {first second : CapabilitySpace} :
    (ledger.putSpace pid first).putSpace pid second = ledger.putSpace pid second := by
  simp only [putSpace, insert_insert]

lemma putSpace_self (hc : ledger.capSpaces[pid]? = some cs) : ledger.putSpace pid cs = ledger := by
  simp only [putSpace, insert_of_get hc]

lemma capSpaces_putSpace (ledger : Ledger) :
    (ledger.putSpace pid cs).capSpaces[pid]? = some cs := by
  simp [putSpace]

lemma apply_ofInsert (hs : ledger.capSpaces[pid]? = some cs) (hp : cap.Plain) :
    ledger.apply (.ofInsert pid cs.nextSlot cap) = .ok (ledger.putSpace pid (cs.insert cap).2) := by
  have hc := (recorded_eq_self_iff cap).mpr hp
  simp only [Capability.recorded] at hc
  simp only [apply, CommitType.ofInsert, mapObjectType_toU8, insertCapability, hs,
    Permissions.fromByte_toByte, hc, bumpPast_slot]
  rfl

lemma foldlM_inserted (hc : ledger.capSpaces[pid]? = some cs) (hp : ∀ cap ∈ caps, cap.Plain) :
    (List.zipWith (.ofInsert pid) (cs.insertAll caps).2 caps).foldlM apply ledger =
      .ok (ledger.putSpace pid (cs.insertAll caps).1) := by
  induction caps generalizing ledger cs with
  | nil =>
    simp only [insertAll, putSpace_self hc]
    rfl
  | cons cap _ ih =>
    simp only [insertAll, List.zipWith_cons_cons, List.foldlM_cons]
    rw [apply_ofInsert hc (hp cap List.mem_cons_self)]
    refine (ih ledger.capSpaces_putSpace ?_).trans ?_
    · exact fun other ho => hp _ (List.mem_cons_of_mem _ ho)
    · rw [putSpace_putSpace]

lemma foldlM_removed {slots : List CapSlot} (hc : ledger.capSpaces[pid]? = some cs) :
    ((cs.takeAll slots).2.map fun (slot, _) => CommitType.CapRemoved pid slot).foldlM apply
        ledger = .ok (ledger.putSpace pid (cs.takeAll slots).1) := by
  induction slots generalizing ledger cs with
  | nil =>
    simp only [takeAll, putSpace_self hc]
    rfl
  | cons slot _ ih =>
    unfold takeAll
    cases hg : cs.get slot with
    | none =>
      rw [remove_of_get_none hg]
      exact ih hc
    | some =>
      simp only [List.map_cons, List.foldlM_cons, Ledger.apply, removeCapability, hc]
      refine (ih ledger.capSpaces_putSpace).trans ?_
      rw [putSpace_putSpace]

lemma foldlM_destroyed (ledger : Ledger) (ids : List EndpointId) :
    (ids.map CommitType.EndpointDestroyed).foldlM apply ledger =
      .ok { ledger with endpoints := eraseAll ledger.endpoints ids } := by
  induction ids generalizing ledger with
  | nil => rfl
  | cons _ _ ih => exact ih _

end Ledger

namespace KernelView

variable {view view' : KernelView}

lemma ledger_setQueue (view : KernelView) : (view.setQueue eid queue).ledger = view.ledger := by
  simp only [ledger, setQueue]
  rw [map_modify_of_same]
  exact fun _ => rfl

-- Every process has its space and there are no others; no capability has a generation or an
-- expiry.
structure Sound (view : KernelView) : Prop where
  paired : ∀ pid, pid ∈ view.processes ↔ pid ∈ view.capSpaces
  plain : ∀ cap, view.Holds cap → cap.Plain

-- No process disappears, and only a registered one is recorded as exited.
structure Settled (view : KernelView) (commits : List CommitType) (view' : KernelView) : Prop where
  stays : ∀ pid ∈ view.processes, pid ∈ view'.processes
  exits : ∀ pid code, CommitType.ProcessExited pid code ∈ commits → pid ∈ view.processes

lemma Settled.of_quiet (hs : ∀ pid ∈ view.processes, pid ∈ view'.processes) :
    view.Settled [] view' :=
  ⟨hs, fun _ _ hm => absurd hm List.not_mem_nil⟩

end KernelView

namespace Effect

open KernelView

variable {view view' : KernelView} {commits : List CommitType}

lemma paired (he : Effect view commits view')
    (hp : ∀ pid, pid ∈ view.processes ↔ pid ∈ view.capSpaces) :
    ∀ pid, pid ∈ view'.processes ↔ pid ∈ view'.capSpaces := by
  intro other
  have ho := hp other
  cases he with
  | Idle | BurnId | FailEndpoint | Push | Pop => exact ho
  | Register => simp [addProcess, ho]
  | Exit => exact mem_modify.trans ho
  | Drop => simp [dropProcess, ho]
  | OpenEndpoint _ _ _ hc | InsertEndpointCap _ _ _ _ hc
  | InsertDerived _ _ _ _ _ hc | Remove _ _ _ hc | PushCaps _ _ _ _ _ _ _ _ hc
  | PopCaps _ _ _ _ _ _ _ _ hc =>
    exact ho.trans (mem_insert_of_get hc).symm

lemma plain (he : Effect view commits view') (hp : ∀ cap, view.Holds cap → cap.Plain) :
    ∀ cap, view'.Holds cap → cap.Plain := by
  intro cap hh
  cases he with
  | Idle | BurnId | Exit => exact hp cap hh
  | Register => exact hp cap (holds_addProcess hh)
  | Drop => exact hp cap (holds_dropProcess hh)
  | FailEndpoint => exact hp cap (holds_failEndpoint hh)
  | OpenEndpoint _ _ _ hc =>
    rcases holds_of_insert hh hc with rfl | hr
    · exact ⟨rfl, rfl⟩
    · exact hp cap (holds_addEndpoint hr)
  | InsertEndpointCap _ _ _ _ hc =>
    rcases holds_of_insert hh hc with rfl | hr
    · exact ⟨rfl, rfl⟩
    · exact hp cap hr
  | InsertDerived _ _ source _ _ hc hs =>
    rcases holds_of_insert hh hc with rfl | hr
    · exact hp source hs
    · exact hp cap hr
  | Remove _ _ _ hc => exact hp cap (holds_of_remove hc hh)
  | Push _ _ _ _ _ hg =>
    rcases holds_of_push hg hh with hn | hr
    · cases hn
    · exact hp cap hr
  | PushCaps _ _ _ _ _ _ _ hg hc => exact hp cap (holds_of_pushCaps hg hc hh)
  | Pop _ _ _ _ hg hq => exact hp cap (holds_of_pop hg hq hh)
  | PopCaps _ _ _ _ _ _ hg hq hc =>
    exact hp cap (holds_of_popCaps hg hq hc hh)

lemma sound (he : Effect view commits view') (hs : view.Sound) : view'.Sound :=
  ⟨he.paired hs.paired, he.plain hs.plain⟩

lemma eraseAll_owned (hw : view.Owned pid owned) :
    eraseAll view.ledger.endpoints owned = (view.dropProcess pid).ledger.endpoints := by
  apply ext_get
  intro key
  have hk := hw key
  simp only [get_eraseAll, ledger, dropProcess, get_map, get_filter]
  cases hg : view.endpoints[key]? with
  | none => simp
  | some ep =>
    rw [hg] at hk
    by_cases ho : ep.owner = pid
    · simp [hk, ho, Option.filter]
    · simp [hk, ho, Option.filter]

lemma replays (hf : Effect view commits view') (hs : view.Sound) (he : Settled view commits view') :
    commits.foldlM apply view.ledger = .ok view'.ledger := by
  cases hf with
  | Idle | BurnId | Register => rfl
  | Exit pid =>
    have hm : pid ∈ view.ledger.processes := he.exits pid _ List.mem_cons_self
    simp only [List.foldlM_cons, Ledger.apply, Ledger.exitProcess, hm]
    rfl
  | Drop pid _ _ ha _ ho =>
    -- A process that was registered would have disappeared.
    have hn : pid ∉ view.processes := by
      intro hm
      have ht := he.stays pid hm
      simp [dropProcess] at ht
    have hc : pid ∉ view.capSpaces := fun h => hn ((hs.paired pid).mpr h)
    rw [ha hn, List.nil_append, foldlM_destroyed, eraseAll_owned ho]
    simp only [ledger, dropProcess, erase_of_get_none (not_mem_iff.mp hn), erase_of_get_none
      (not_mem_iff.mp hc)]
  | FailEndpoint _ hr hc =>
    exact absurd ((hs.paired _).mp hr) (not_mem_iff.mpr hc)
  | OpenEndpoint owner cs hr hc =>
    have hp : view.ledger.apply (.EndpointCreated view.nextEndpointId owner) =
        .ok (view.addEndpoint owner).ledger := by
      simp only [Ledger.apply, createEndpoint, ledger, hr, not_true_eq_false, ite_false,
        addEndpoint, map_insert, bumpPast_self]
    have hi : (view.addEndpoint owner).ledger.apply (.ofInsert owner cs.nextSlot
        (.endpoint view.nextCapId view.nextEndpointId Permissions.full)) = .ok _ :=
      apply_ofInsert hc ⟨rfl, rfl⟩
    rw [List.foldlM_cons, hp]
    exact (bind_pure _).trans hi
  | InsertEndpointCap pid cs eid perms hc =>
    have hi : view.ledger.apply (.ofInsert pid cs.nextSlot
        (.endpoint view.nextCapId eid perms)) = .ok _ :=
      apply_ofInsert hc ⟨rfl, rfl⟩
    exact (bind_pure _).trans hi
  | InsertDerived pid cs source perms _ hc hsr hrc =>
    have hi : view.ledger.apply (.ofInsert pid cs.nextSlot
        (source.derived view.nextCapId perms)) = .ok _ :=
      apply_ofInsert hc (hs.plain source hsr)
    rcases hrc with rfl | ⟨_, _, rfl⟩
    · exact (bind_pure _).trans hi
    · exact (bind_pure _).trans hi
  | Remove pid _ cs hc =>
    have hg : view.ledger.capSpaces[pid]? = some cs := hc
    simp only [List.foldlM_cons, Ledger.apply, removeCapability, hg]
    rfl
  | Push | Pop =>
    rw [ledger_setQueue]
    rfl
  | PushCaps _ _ _ _ _ _ slots _ hc =>
    rw [foldlM_removed hc, ledger_setQueue]
    rfl
  | PopCaps eid _ msg rest _ _ hg hq hc =>
    have hl : ∀ cap ∈ msg.caps, cap.Plain := fun cap hca =>
      hs.plain cap (holds_of_queue hg (hq ▸ List.mem_cons_self) hca)
    rw [foldlM_inserted hc hl, ← view.ledger_setQueue]
    rfl

end Effect

end ZeroOS
