import ZeroOS.Identity.Service
import ZeroOS.Lib.Run

/-!
The answers of the file system to the identity service. A response carries no id: it is taken for
that of the first operation in the table that expects one of its kind.
-/

namespace ZeroOS.Identity

open List

open Vfs (AppMessage VfsRequest)

-- The service, with the operations that the file system was asked for and has not answered, in the
-- order of the requests.
structure Exchange (σ κ ν : Type) where
  service : IdentityService σ κ ν
  asked : List (PendingStorageOp σ)

inductive ExchangeAction (σ : Type) where
  | Ask (request : VfsRequest) (op : PendingStorageOp σ)
  | Answer (expected : ExpectedVfsResponse)

namespace Exchange

variable {σ κ ν η : Type} (sys : Syscalls)

def ask (exchange : Exchange σ κ ν) (request : VfsRequest) (op : PendingStorageOp σ) :
    Exchange σ κ ν :=
  match IdentityService.startVfs sys ⟨exchange.service, []⟩ request op with
  | (progress, .ok ()) => ⟨progress.service, exchange.asked ++ [op]⟩
  | (progress, .error _) => { exchange with service := progress.service }

-- The file system answers the requests of a kind in the order in which they were made. The write
-- that one step sends without an operation is left out: its response would be taken for another's.
def answer (exchange : Exchange σ κ ν) (expected : ExpectedVfsResponse) : Exchange σ κ ν :=
  match exchange.asked.find? (·.expectedResponse = expected),
    exchange.service.takePendingVfsOpFor expected with
  | some _, some (service, _) =>
    ⟨service, exchange.asked.eraseP (·.expectedResponse = expected)⟩
  | _, _ => exchange

def step (exchange : Exchange σ κ ν) : ExchangeAction σ → Exchange σ κ ν
  | .Ask request op => exchange.ask sys request op
  | .Answer expected => exchange.answer expected

def start : Exchange σ κ ν := ⟨⟨∅, 1, ∅, 1, ∅⟩, []⟩

-- The next request does not use up the ids.
def Roomy (exchange : Exchange σ κ ν) : Prop :=
  exchange.service.nextVfsOpId.toNat + 1 < 4294967296

-- The table holds the operations in the order of their requests.
structure Paired (exchange : Exchange σ κ ν) : Prop where
  table : exchange.service.pendingVfsOps.toList.map Prod.snd = exchange.asked
  fresh : ∀ id op, exchange.service.pendingVfsOps[id]? = some op →
    id < exchange.service.nextVfsOpId

variable {sys} {exchange : Exchange σ κ ν}

section

variable (hp : Paired exchange)

include hp

lemma Paired.ask (hr : Roomy exchange) : Paired (exchange.ask sys request op) := by
  have hnext : (exchange.service.nextVfsOpId + 1).toNat = exchange.service.nextVfsOpId.toNat + 1 :=
    (UInt32.toNat_add ..).trans (Nat.mod_eq_of_lt hr)
  have hfresh : ∀ id op, exchange.service.pendingVfsOps[id]? = some op →
      id < exchange.service.nextVfsOpId + 1 := by
    intro id op hg
    have hlt := UInt32.lt_iff_toNat_lt.mp (hp.fresh id op hg)
    rw [UInt32.lt_iff_toNat_lt, hnext]
    exact Nat.lt_succ_of_lt hlt
  unfold Exchange.ask IdentityService.startVfs
  by_cases hl : exchange.service.pendingVfsOps.size ≥ MAX_PENDING_VFS_OPS
  · rw [if_pos hl]
    exact hp
  rw [if_neg hl]
  cases sys.vfs [] request with
  | error => exact ⟨hp.table, hfresh⟩
  | ok =>
    refine ⟨?_, ?_⟩
    · have hlast : ∀ id op, exchange.service.pendingVfsOps[id]? = some op →
          compare id exchange.service.nextVfsOpId = .lt :=
        fun id op hg => compareOfLessAndEq_eq_lt.mpr (hp.fresh id op hg)
      dsimp only
      rw [BTreeMap.toList_insert_last hlast, map_append, hp.table]
      rfl
    · intro id waiting hg
      rw [BTreeMap.get_insert] at hg
      split_ifs at hg with hi
      · rw [← hi, UInt32.lt_iff_toNat_lt, hnext]
        exact Nat.lt_succ_self _
      · exact hfresh id waiting hg

-- The operation that is taken is that of the first request of the kind.
lemma Paired.take (hf : exchange.asked.find? (·.expectedResponse = expected) = some op) :
    ∃ service, exchange.service.takePendingVfsOpFor expected = some (service, op) ∧
      Paired ⟨service, exchange.asked.eraseP (·.expectedResponse = expected)⟩ := by
  rw [← hp.table, find?_map, Option.map_eq_some_iff] at hf
  obtain ⟨⟨key, _⟩, hw, rfl⟩ := hf
  have hfirst : exchange.service.pendingVfsOps.first (·.expectedResponse = expected) = _ := hw
  refine ⟨{ exchange.service with
    pendingVfsOps := exchange.service.pendingVfsOps.erase key }, ?_, ?_, ?_⟩
  · unfold IdentityService.takePendingVfsOpFor
    rw [hfirst]
  · rw [← hp.table, eraseP_map, BTreeMap.toList_erase_first hfirst]
    rfl
  · intro id waiting hg
    rw [BTreeMap.get_erase] at hg
    split_ifs at hg
    exact hp.fresh id waiting hg

lemma step_paired (hr : Roomy exchange) (action : ExchangeAction σ) :
    Paired (step sys exchange action) := by
  cases action with
  | Ask => exact hp.ask hr
  | Answer expected =>
    rw [step, answer]
    cases hf : exchange.asked.find? (·.expectedResponse = expected) with
    | none => exact hp
    | some =>
      obtain ⟨service, ht, hpt⟩ := hp.take hf
      rw [ht]
      exact hpt

end

-- Every answer goes to the operation that asked for it, however many of its kind wait.
theorem answer_resumes_asker (flows : Flows σ κ ν η) (actions : List (ExchangeAction σ))
    (hroom : Run.Along (step sys) (fun exchange _ => Roomy exchange)
      (start : Exchange σ κ ν) actions)
    (hrun : Run.run (step sys) start actions = exchange)
    (hf : exchange.asked.find? (·.expectedResponse = expected) = some op)
    (msg : AppMessage) (hm : IdentityService.vfsResponseOf msg.tag = some expected) :
    ∃ service, exchange.service.takePendingVfsOpFor expected = some (service, op) ∧
      exchange.service.handleVfsResult flows sys msg =
        service.runFlow sys (flows.onVfsResult expected op msg.data) := by
  have hs : Paired (start : Exchange σ κ ν) := by
    refine ⟨rfl, ?_⟩
    intro _ _ hg
    simp [start] at hg
  have hp := Run.run_invariant (step sys) (fun exchange _ => Roomy exchange) Paired
    (fun _ action hp hr => step_paired hp hr action) hs hroom
  rw [hrun] at hp
  obtain ⟨service, ht, -⟩ := hp.take hf
  refine ⟨service, ht, ?_⟩
  rw [IdentityService.handleVfsResult, hm]
  dsimp only
  rw [IdentityService.handleVfsResponse, ht]

end Exchange

end ZeroOS.Identity
