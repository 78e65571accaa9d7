import Mathlib.Data.List.Induction
import Mathlib.Data.List.Nodup
import ZeroOS.Authority.Fresh
import ZeroOS.Recovery.Simulation

/-!
The life of an endpoint.
-/

namespace ZeroOS

open Run BTreeMap UInt64
open KernelView

def KernelView.Owners (view : KernelView) : Prop :=
  ∀ (eid : EndpointId) (endpoint : EndpointView), view.endpoints[eid]? = some endpoint →
    endpoint.owner ∈ view.processes

lemma KernelView.Owners.setQueue {view : KernelView} (ho : view.Owners) (eid : EndpointId)
    (queue : List Message) : (view.setQueue eid queue).Owners := by
  intro other ep hg
  simp only [KernelView.setQueue, get_modify] at hg
  split at hg
  · obtain ⟨old, hl, rfl⟩ := Option.map_eq_some_iff.mp hg
    exact ho other old hl
  · exact ho other ep hg

lemma Effect.owners (he : Effect view commits view') (ho : view.Owners) : view'.Owners := by
  cases he with
  | Idle | BurnId | InsertEndpointCap | InsertDerived | Remove => exact ho
  | Register =>
    exact fun eid ep hg => (mem_insert ..).mpr (.inr (ho eid ep hg))
  | Exit => exact fun eid ep hg => mem_modify.mpr (ho eid ep hg)
  | Drop pid =>
    intro eid ep hg
    simp only [dropProcess, get_filter, Option.filter_eq_some_iff] at hg
    have hn : pid ≠ ep.owner := fun hq => by simp [hq] at hg
    simp only [dropProcess, mem_iff, get_erase, if_neg hn]
    exact (mem_iff ..).mp (ho eid ep hg.1)
  | FailEndpoint =>
    intro eid ep hg
    simp only [burnCapId, failEndpoint, get_erase] at hg
    split at hg
    · cases hg
    · exact ho eid ep hg
  | OpenEndpoint owner _ hr =>
    intro eid ep hg
    simp only [burnCapId, addEndpoint, putSpace, get_insert] at hg
    split at hg
    · cases hg
      exact hr
    · exact ho eid ep hg
  | Push | PushCaps | Pop | PopCaps => exact ho.setQueue _ _

lemma Numbered.gone (hn : Numbered count view) (he : Effect view commits view')
    (hc : count < 2 ^ 64) (hi : 1 ≤ eid.toNat ∧ eid.toNat ≤ count)
    (hg : eid ∉ view.endpoints) : eid ∉ view'.endpoints := by
  intro hm
  have hne := hn.next
  rcases he.endpointIds with ⟨-, hs⟩ | ⟨-, hs⟩
  · exact hg (hs eid hm)
  · rcases hs eid hm with rfl | ho
    · omega
    · exact hg ho

namespace KernelCore

lemma allocatedEndpointIds_run :
    observed exec allocatedEndpointIds new ops =
      (List.range (observed exec allocatedEndpointIds new ops).length).map fun k =>
        ofNat (k + 1) := by
  induction ops using List.reverseRecOn with
  | nil => rfl
  | append_singleton ops timed ih =>
    have hn := (numbered_run ops).next
    rw [observed_append]
    generalize observed exec allocatedEndpointIds new ops = seen at ih hn ⊢
    generalize run exec new ops = kernel at hn ⊢
    have hi : kernel.nextEndpointId = ofNat (seen.length + 1) := by
      apply UInt64.toNat_inj.mp
      rw [UInt64.toNat_ofNat']
      exact hn
    simp only [observed, allocatedEndpointIds, List.append_nil]
    split
    · rw [List.append_nil]
      exact ih
    · rw [List.length_append, List.length_singleton, List.range_succ, List.map_append, ← ih,
        List.map_singleton, hi]

lemma nodup_allocatedEndpointIds
    (hc : (observed exec allocatedEndpointIds new ops).length < 2 ^ 64) :
    (observed exec allocatedEndpointIds new ops).Nodup := by
  rw [allocatedEndpointIds_run]
  refine List.Nodup.map_on ?_ List.nodup_range
  intro j hj k hk he
  have hm := congrArg toNat he
  rw [List.mem_range] at hj hk
  rw [toNat_ofNat', toNat_ofNat'] at hm
  omega

lemma gone_run (hc : (observed exec allocatedEndpointIds new (ops ++ later)).length < 2 ^ 64)
    (hg : 1 ≤ eid.toNat ∧ eid.toNat ≤ (observed exec allocatedEndpointIds new ops).length)
    (hgo : eid ∉ (run exec new ops).view.endpoints) :
    eid ∉ (run exec new (ops ++ later)).view.endpoints := by
  induction later using List.reverseRecOn with
  | nil => rwa [List.append_nil]
  | append_singleton later timed ih =>
    rw [← List.append_assoc] at hc ⊢
    have hb := observed_length_le exec allocatedEndpointIds new (ops ++ later) [timed]
    have ho := observed_length_le exec allocatedEndpointIds new ops later
    rw [run_append]
    exact (numbered_run (ops ++ later)).gone (perform_effect _ timed.1 timed.2) (by omega)
      ⟨hg.1, by omega⟩ (ih (by omega))

lemma owners_run (ops : List (UInt64 × Op)) :
    (run exec new ops).view.Owners ∧
      ∀ pid, pid ∈ (run exec new ops).view.processes ↔ pid ∈ (run exec new ops).view.capSpaces := by
  refine run_invariant exec (fun _ _ => True) (fun kernel => kernel.view.Owners ∧
    ∀ pid, pid ∈ kernel.view.processes ↔ pid ∈ kernel.view.capSpaces) ?_ ?_
    (along_of_forall _ (fun _ _ => trivial) new)
  · intro kernel timed hi _
    have he := kernel.perform_effect timed.1 timed.2
    exact ⟨he.owners hi.1, he.paired hi.2⟩
  · exact ⟨fun eid ep hg => by simp [view, new] at hg, fun pid => by simp [view, new]⟩

def DeadEnd (kernel : KernelCore) (eid : EndpointId) : Prop :=
  ∀ pid slot cap, kernel.capSpaces.capAt pid slot = some cap → cap.objectType = .Endpoint →
    cap.objectId = eid → ∀ tag data capSlots now,
      (∃ e, (kernel.ipcSend pid slot tag data now).2.1 = .error e) ∧
      (∃ e, (kernel.ipcSendWithCaps pid slot tag data capSlots now).result = .error e) ∧
      (∃ e, (kernel.ipcReceive pid slot now).2 = .error e) ∧
      ∃ e, (kernel.ipcReceiveWithCaps pid slot now).result = .error e

lemma deadEnd_of_gone {kernel : KernelCore} (hn : eid ∉ kernel.endpoints) : kernel.DeadEnd eid := by
  intro pid slot cap hc _ hb tag data slots now
  have hd : ∀ (other : EndpointId) (ep : Endpoint) (found : Capability),
      kernel.capSpaces.capAt pid slot = some found → found.objectId = other →
        kernel.endpoints[other]? ≠ some ep := by
    rintro other ep found ho rfl hg
    rw [hc] at ho
    cases ho
    exact hn ((mem_iff ..).mpr ⟨ep, hb ▸ hg⟩)
  refine ⟨?_, ?_, ?_, ?_⟩
  · rcases kernel.ipcSend_cases pid slot tag data now with
      ⟨e, -, he⟩ | ⟨other, ep, _, hv, hg, -⟩
    · exact ⟨e, by rw [he]⟩
    · obtain ⟨found, ho, -, -, -, ht⟩ := (validateSendCap_ok_iff ..).mp hv
      exact absurd hg (hd other ep found ho ht)
  · rcases kernel.ipcSendWithCaps_cases pid slot tag data slots now with
      ⟨e, he⟩ | ⟨other, ep, _, _, -, hv, hg, -⟩
    · exact ⟨e, by rw [he]⟩
    · obtain ⟨found, ho, -, -, ht⟩ := (validateSendCapBasic_ok_iff ..).mp hv
      exact absurd hg (hd other ep found ho ht)
  · rcases kernel.ipcReceive_cases pid slot now with
      ⟨e, -, he⟩ | ⟨other, ep, hv, hg, -⟩ | ⟨other, ep, _, _, _, hv, hg, -⟩
    · exact ⟨e, by rw [he]⟩
    all_goals
      obtain ⟨found, ho, -, -, -, ht⟩ := (validateReceiveCap_ok_iff ..).mp hv
      exact absurd hg (hd other ep found ho ht)
  · rcases kernel.ipcReceiveWithCaps_cases pid slot now with
      ⟨e, -, he⟩ | ⟨other, ep, hv, hg, -⟩ | ⟨other, ep, _, _, _, _, hv, hg, -⟩
    · exact ⟨e, by rw [he]⟩
    all_goals
      obtain ⟨found, ho, -, -, -, ht⟩ := (validateReceiveCap_ok_iff ..).mp hv
      exact absurd hg (hd other ep found ho ht)

-- Endpoints and processes belong together, no endpoint id is given out twice, and one that was
-- in the table and has left it is refused ever after.
theorem endpoint_lifetime (first second later : List (UInt64 × Op))
    (hcount : (Run.observed exec allocatedEndpointIds new (first ++ second ++ later)).length <
      2 ^ 64) :
    let kernel := Run.run exec new (first ++ second ++ later)
    (∀ (eid : EndpointId) (endpoint : Endpoint), kernel.endpoints[eid]? = some endpoint →
        endpoint.owner ∈ kernel.processes ∧ endpoint.owner ∈ kernel.capSpaces) ∧
      (∀ pid, pid ∈ kernel.processes ↔ pid ∈ kernel.capSpaces) ∧
      (Run.observed exec allocatedEndpointIds new (first ++ second ++ later)).Nodup ∧
      ∀ eid, eid ∈ (Run.run exec new first).endpoints →
        eid ∉ (Run.run exec new (first ++ second)).endpoints →
          eid ∉ kernel.endpoints ∧ kernel.DeadEnd eid := by
  intro kernel
  obtain ⟨hw, hpa⟩ := owners_run (first ++ second ++ later)
  have hp : ∀ pid, pid ∈ kernel.processes ↔ pid ∈ kernel.capSpaces := fun pid =>
    (mem_view_processes kernel pid).symm.trans (hpa pid)
  refine ⟨fun eid endpoint hg => ?_, hp, nodup_allocatedEndpointIds hcount,
    fun eid hm hgo => ?_⟩
  · have ho : endpoint.owner ∈ kernel.processes :=
      (mem_view_processes kernel _).mp (hw eid endpoint.view
        ((view_endpoints_get kernel eid).trans (congrArg _ hg)))
    exact ⟨ho, (hp _).mp ho⟩
  · have hs := observed_length_le exec allocatedEndpointIds new first second
    have hl := observed_length_le exec allocatedEndpointIds new (first ++ second) later
    have hi := (numbered_run first).bound (by omega) eid ((mem_view_endpoints ..).mpr hm)
    have hn := gone_run hcount ⟨hi.1, by omega⟩
      (fun h => hgo ((mem_view_endpoints ..).mp h))
    have ha : eid ∉ kernel.endpoints := fun h => hn ((mem_view_endpoints ..).mpr h)
    exact ⟨ha, deadEnd_of_gone ha⟩

theorem endpoint_lifetime_killed :
    let first : List (UInt64 × Op) := [(0, .RegisterProcess "owner"), (0, .RegisterProcess "other"),
      (0, .CreateEndpoint 1), (0, .GrantCapability 1 0 2 Permissions.full)]
    let kernel := Run.run exec new (first ++ [(0, .KillProcess 1)] ++ [])
    (kernel.capSpaces.capAt 2 0).map Capability.objectId = some 1 ∧ kernel.DeadEnd 1 := by
  refine ⟨by decide +kernel, ?_⟩
  exact ((endpoint_lifetime _ _ [] (by decide +kernel)).2.2.2 1 (by decide +kernel)
    (by decide +kernel)).2

end KernelCore

end ZeroOS
