import ZeroOS.Kernel.System.Introspection
import ZeroOS.Supervisor.Authority

/-!
The results of syscalls as a process sees them (`zos-process/src/syscalls/mod.rs`). The mailbox
has 32 bits for a result, and the worker extends its sign (`workers/mailbox.ts`).
-/

namespace ZeroOS

open KernelCore BTreeMap

def SYS_CREATE_ENDPOINT_FOR : UInt32 := 0x15

def E_PERM : UInt32 := 1

namespace SupervisorState

variable (state first second : SupervisorState) (pid : ProcessId) (num arg : UInt32)

def zosSyscall : SupervisorState × Except SlicePanic Int64 :=
  let (state, result) := state.processSyscallInternal pid num #v[arg, 0, 0] []
  (state, result.map Int32.toInt64)

-- The two syscalls of a reading, each in the state in which the supervisor serves it.
def readClock : Except SlicePanic UInt64 :=
  match (first.zosSyscall pid num 0).2, (second.zosSyscall pid num 1).2 with
  | .ok low, .ok high => .ok ((high.toUInt64 <<< 32) ||| low.toUInt64)
  | .error e, _ | .ok _, .error e => .error e

def getTime : Except SlicePanic UInt64 := readClock first second pid SYS_TIME

def getWallclock : Except SlicePanic UInt64 := readClock first second pid SYS_WALLCLOCK

def unpackEndpoint (result : Int64) : Except UInt32 (UInt64 × UInt32) :=
  if result ≥ 0 then
    let slot := (result >>> 32).toUInt64.toUInt32
    let endpointId := (result &&& 0xFFFFFFFF).toUInt64
    .ok (endpointId, slot)
  else .error E_PERM

def createEndpointFor (targetPid : UInt32) :
    SupervisorState × Except SlicePanic (Except UInt32 (UInt64 × UInt32)) :=
  let (state, result) := state.zosSyscall pid SYS_CREATE_ENDPOINT_FOR targetPid
  (state, result.map unpackEndpoint)

-- What arrives of a result of the kernel.
def narrowed (result : Int64) : Int64 := result.toInt32.toInt64

lemma narrowed_toNat (x : UInt64) :
    (narrowed x.toInt64).toUInt64.toNat =
      x.toNat % 2 ^ 32 + if 2 ^ 31 ≤ x.toNat % 2 ^ 32 then 2 ^ 64 - 2 ^ 32 else 0 := by
  have hl : x.toInt64.toInt32.toUInt32.toNat = x.toNat % 2 ^ 32 := by
    show (x.toBitVec.signExtend 32).toNat = _
    rw [BitVec.signExtend_eq_setWidth_of_le _ (by decide), BitVec.toNat_setWidth]
    rfl
  rw [narrowed, toNat_toInt64, hl]

lemma toNat_and_low (x : UInt64) : (x &&& 0xFFFFFFFF).toNat = x.toNat % 2 ^ 32 :=
  Nat.and_two_pow_sub_one_eq_mod _ 32

-- The halves of a clock, as they arrive: a low half from 2 ^ 31 on fills the high half.
lemma narrowed_low (clock : UInt64) :
    (narrowed (clockWord clock 0)).toUInt64.toNat =
      clock.toNat % 2 ^ 32 + if 2 ^ 31 ≤ clock.toNat % 2 ^ 32 then 2 ^ 64 - 2 ^ 32 else 0 := by
  show (narrowed (clock &&& 0xFFFFFFFF).toInt64).toUInt64.toNat = _
  rw [narrowed_toNat, toNat_and_low, Nat.mod_mod]

lemma narrowed_high (h : clock.toNat < 2 ^ 63) :
    (narrowed (clockWord clock 1)).toUInt64.toNat = clock.toNat / 2 ^ 32 := by
  have hs : (clock >>> 32).toNat = clock.toNat / 2 ^ 32 := by
    rw [UInt64.toNat_shiftRight]
    exact Nat.shiftRight_eq_div_pow ..
  show (narrowed (clock >>> 32 &&& 0xFFFFFFFF).toInt64).toUInt64.toNat = _
  rw [narrowed_toNat, toNat_and_low, hs, if_neg (by omega)]
  omega

lemma joined_toNat (high low : UInt64) (h : high.toNat < 2 ^ 32) :
    low.toNat ≤ (high <<< 32 ||| low).toNat ∧
      (low.toNat < 2 ^ 32 → (high <<< 32 ||| low).toNat = high.toNat * 2 ^ 32 + low.toNat) := by
  have hs : (high <<< 32).toNat = high.toNat <<< 32 := by
    rw [UInt64.toNat_shiftLeft]
    show high.toNat <<< 32 % 2 ^ 64 = _
    rw [Nat.shiftLeft_eq, Nat.mod_eq_of_lt (by omega)]
  rw [UInt64.toNat_or, hs]
  refine ⟨Nat.right_le_or, fun hl => ?_⟩
  rw [← Nat.shiftLeft_add_eq_or_of_lt hl, Nat.shiftLeft_eq]

-- The value lies between the readings exactly if the low half arrives as it is, and does not
-- belong to an earlier high half.
lemma joined_between_iff (he : early ≤ late) (h : late.toNat < 2 ^ 63) :
    (early ≤ (narrowed (clockWord late 1)).toUInt64 <<< 32 |||
          (narrowed (clockWord early 0)).toUInt64 ∧
        (narrowed (clockWord late 1)).toUInt64 <<< 32 |||
          (narrowed (clockWord early 0)).toUInt64 ≤ late) ↔
      early.toNat % 2 ^ 32 < 2 ^ 31 ∧ early.toNat % 2 ^ 32 ≤ late.toNat % 2 ^ 32 := by
  have hh := narrowed_high h
  have hl := narrowed_low early
  obtain ⟨hg, hq⟩ := joined_toNat (narrowed (clockWord late 1)).toUInt64
    (narrowed (clockWord early 0)).toUInt64 (by omega)
  rw [UInt64.le_iff_toNat_le] at he
  rw [UInt64.le_iff_toNat_le, UInt64.le_iff_toNat_le]
  split at hl
  · omega
  · rw [hq (by omega), hh, hl]
    omega

variable {state first second pid}

-- The kernel has no clock at the number of `SYS_TIME`.
lemma zosSyscall_time (h : pid ∈ state.system.kernel.processes) :
    (zosSyscall state pid SYS_TIME arg).2 = .ok 0 := by
  simp only [zosSyscall, processSyscallInternal, h, not_true_eq_false, ite_false]
  rfl

lemma zosSyscall_wallclock (h : pid ∈ state.system.kernel.processes) :
    (zosSyscall state pid SYS_WALLCLOCK arg).2 =
      .ok (narrowed (clockWord state.hal.wallclockMs arg)) := by
  simp only [zosSyscall, processSyscallInternal, h, not_true_eq_false, ite_false]
  rfl

lemma getTime_eq (hf : pid ∈ first.system.kernel.processes)
    (hs : pid ∈ second.system.kernel.processes) : getTime first second pid = .ok 0 := by
  rw [getTime, readClock, zosSyscall_time _ hf, zosSyscall_time _ hs]
  rfl

theorem clock_between_iff (first second : SupervisorState) (pid : ProcessId)
    (hfirst : pid ∈ first.system.kernel.processes) (hsecond : pid ∈ second.system.kernel.processes)
    (hwall : first.hal.wallclockMs ≤ second.hal.wallclockMs)
    (hmax : second.hal.wallclockMs.toNat < 2 ^ 63) :
    (∃ value, getTime first second pid = .ok value ∧
      ((first.hal.nowNanos 1 ≤ value ∧ value ≤ second.hal.nowNanos 1) ↔
        first.hal.nowNanos 1 = 0)) ∧
    (∃ value, getWallclock first second pid = .ok value ∧
      ((first.hal.wallclockMs ≤ value ∧ value ≤ second.hal.wallclockMs) ↔
        first.hal.wallclockMs.toNat % 2 ^ 32 < 2 ^ 31 ∧
          first.hal.wallclockMs.toNat % 2 ^ 32 ≤ second.hal.wallclockMs.toNat % 2 ^ 32)) ∧
    ∀ third fourth, pid ∈ third.system.kernel.processes → pid ∈ fourth.system.kernel.processes →
      getTime third fourth pid = getTime first second pid := by
  refine ⟨⟨0, getTime_eq hfirst hsecond, ?_⟩, ⟨_, ?_, joined_between_iff hwall hmax⟩, ?_⟩
  · rw [UInt64.le_zero_iff]
    exact and_iff_left UInt64.zero_le
  · rw [getWallclock, readClock, zosSyscall_wallclock _ hfirst, zosSyscall_wallclock _ hsecond]
  · intro third fourth ht hf
    rw [getTime_eq ht hf, getTime_eq hfirst hsecond]

-- A clock that stands still.
def clocked (nanos millis : UInt64) : SupervisorState :=
  { booted with hal := { Hal.unsupported nanos with wallclockMs := millis } }

theorem clock_between_iff_clocked :
    ∃ value, getWallclock (clocked 0 5) (clocked 0 7) 10 = .ok value ∧
      ((5 ≤ value ∧ value ≤ 7) ↔ 5 % 2 ^ 32 < 2 ^ 31 ∧ 5 % 2 ^ 32 ≤ 7 % 2 ^ 32) :=
  (clock_between_iff (clocked 0 5) (clocked 0 7) 10 (by decide +kernel) (by decide +kernel)
    (by decide) (by decide)).2.1

theorem clock_lost :
    getTime (clocked 5 0) (clocked 5 0) 10 = .ok 0 ∧
      getWallclock (clocked 0 2147483648) (clocked 0 2147483648) 10 =
        .ok 18446744071562067968 := by
  decide +kernel

lemma unpackEndpoint_of_lt (h : x.toNat < 2 ^ 31) : unpackEndpoint x.toInt64 = .ok (x, 0) := by
  have hn : x.toInt64 ≥ 0 := by
    have ht : 2 * x.toBitVec.toNat < 2 ^ 64 := by
      rw [UInt64.toNat_toBitVec]
      omega
    rw [ge_iff_le, Int64.le_iff_toInt_le]
    exact (Int.natCast_nonneg _).trans_eq (BitVec.toInt_eq_toNat_of_lt ht).symm
  have hs : (x.toInt64 >>> 32).toUInt64 = 0 := by
    have hb : (x.toInt64 >>> 32).toUInt64.toBitVec = x.toBitVec.sshiftRight 32 := rfl
    have hm : x.toBitVec.msb = false := by
      rw [BitVec.msb_eq_decide, UInt64.toNat_toBitVec]
      simp
      omega
    rw [BitVec.sshiftRight_eq_of_msb_false hm] at hb
    apply UInt64.toNat_inj.mp
    rw [← UInt64.toNat_toBitVec, hb, BitVec.toNat_ushiftRight, UInt64.toNat_toBitVec,
      Nat.shiftRight_eq_div_pow]
    exact Nat.div_eq_of_lt (by omega)
  have hi : (x.toInt64 &&& 0xFFFFFFFF).toUInt64 = x := by
    apply UInt64.toNat_inj.mp
    exact (toNat_and_low x).trans (Nat.mod_eq_of_lt (by omega))
  rw [unpackEndpoint, if_pos hn, hs, hi]
  rfl

def packed (slot : UInt32) (eid : UInt64) : Int64 :=
  (slot.toUInt64.toInt64 <<< 32) ||| (eid.toInt64 &&& 0xFFFFFFFF)

-- The slot is lost in the mailbox.
lemma unpackEndpoint_packed (h : eid.toNat < 2 ^ 31) :
    unpackEndpoint (narrowed (packed slot eid)) = .ok (eid, 0) := by
  have hj := (joined_toNat slot.toUInt64 (eid &&& 0xFFFFFFFF) slot.toNat_lt).2
  have hn := narrowed_toNat (slot.toUInt64 <<< 32 ||| (eid &&& 0xFFFFFFFF))
  rw [toNat_and_low, Nat.mod_eq_of_lt (by omega)] at hj
  rw [hj (by omega), if_neg (by omega)] at hn
  have he : (narrowed (packed slot eid)).toUInt64 = eid := by
    apply UInt64.toNat_inj.mp
    exact hn.trans (by omega)
  have hx : narrowed (packed slot eid) = eid.toInt64 := congrArg UInt64.toInt64 he
  rw [hx, unpackEndpoint_of_lt h]

def Names (eid : UInt64) (cap : Capability) : Prop :=
  cap.objectType = .Endpoint ∧ cap.objectId = eid

-- What Init learns of an endpoint: `made` is whether the kernel has created one, and `spaces`
-- are the capability spaces after the call.
def RoundTrip (made : Prop) (eid : UInt64) (spaces : CapSpaces)
    (answer : Except UInt32 (UInt64 × UInt32)) : Prop :=
  ((∃ e slot, answer = .ok (e, slot)) ↔ made) ∧
    ∀ e slot, answer = .ok (e, slot) →
      e = eid ∧ ∃ cap, spaces.capAt 1 slot = some cap ∧ Names e cap

-- The first slot of a space names the endpoint: the next capability goes there, or one is there.
def FirstNames (eid : UInt64) (cspace : CapabilitySpace) : Prop :=
  cspace.nextSlot = 0 ∨ ∃ cap, cspace.get 0 = some cap ∧ Names eid cap

-- The kernel creates an endpoint for a process that it knows and that has a space.
def Creates (kernel : KernelCore) (target : ProcessId) : Prop :=
  target ∈ kernel.processes ∧ target ∈ kernel.capSpaces

-- An endpoint has been created between two kernels: its id was given out, and it is there.
def Created (before after : KernelCore) : Prop :=
  before.nextEndpointId ≠ after.nextEndpointId ∧ before.nextEndpointId ∈ after.endpoints

def initSpace (kernel : KernelCore) : Option CapabilitySpace := kernel.capSpaces[(1 : ProcessId)]?

lemma get_insert_iff (hc : Names eid cap) :
    (∃ other, (cspace.insert cap).2.get 0 = some other ∧ Names eid other) ↔
      FirstNames eid cspace := by
  rw [FirstNames]
  by_cases hz : cspace.nextSlot = 0
  · simp [CapabilitySpace.insert, CapabilitySpace.get, hz, hc]
  · simp [CapabilitySpace.insert, CapabilitySpace.get, hz, Std.ExtTreeMap.getElem?_insert]

-- For Init itself two capabilities are inserted, the first of them as the owner's.
lemma firstNames_insert (hc : Names eid cap) (hs : cspace.nextSlot.toNat < 2 ^ 31) :
    FirstNames eid (cspace.insert cap).2 ↔ FirstNames eid cspace := by
  have he : cspace.nextSlot + 1 ≠ 0 := by
    intro hz
    have hn := congrArg UInt32.toNat hz
    rw [UInt32.toNat_add] at hn
    simp at hn
    omega
  rw [FirstNames, get_insert_iff hc]
  exact or_iff_right he

section

variable (kernel : KernelCore) (args : SyscallArgs) (now : UInt64)

-- Init's space after the endpoint has been opened.
lemma executeCreateEndpointFor_of_opened
    (he : kernel.createEndpoint args.word0.toUInt64 now = ⟨opened, .ok (eid, owned), commits⟩)
    (hi : initSpace opened = some cspace) :
    (kernel.executeCreateEndpointFor 1 args now).result = packed cspace.nextSlot eid ∧
      ((∃ cap, (kernel.executeCreateEndpointFor 1 args now).kernel.capSpaces.capAt 1 0 = some cap ∧
        Names eid cap) ↔ FirstNames eid cspace) := by
  rw [initSpace] at hi
  simp only [executeCreateEndpointFor, he, takeNextCapId, hi, ne_eq, not_true_eq_false, ite_false]
  refine ⟨rfl, ?_⟩
  rw [CapSpaces.capAt, get_insert, if_pos rfl]
  exact get_insert_iff ⟨rfl, rfl⟩

-- Init's own capability leaves the endpoints as the creation has them.
lemma executeCreateEndpointFor_endpoints :
    let made := (kernel.createEndpoint args.word0.toUInt64 now).kernel
    (kernel.executeCreateEndpointFor 1 args now).kernel.endpoints = made.endpoints ∧
      (kernel.executeCreateEndpointFor 1 args now).kernel.nextEndpointId = made.nextEndpointId := by
  simp only [executeCreateEndpointFor, takeNextCapId, ne_eq, not_true_eq_false, ite_false]
  split
  · exact ⟨rfl, rfl⟩
  · split <;> exact ⟨rfl, rfl⟩

lemma created_iff :
    Created kernel (kernel.executeCreateEndpointFor 1 args now).kernel ↔
      Creates kernel args.word0.toUInt64 := by
  obtain ⟨hn, hi⟩ := executeCreateEndpointFor_endpoints kernel args now
  rw [Created, hn, hi]
  rcases kernel.createEndpoint_cases args.word0.toUInt64 now with
    ⟨hp, he⟩ | ⟨-, hc, made, he, hv⟩ | ⟨space, hp, hc, he⟩
  · rw [he]
    exact iff_of_false (fun h => h.1 rfl) (fun h => hp h.1)
  · -- Without a space the new endpoint is taken back.
    have hd : made.view.endpoints = kernel.view.endpoints.erase kernel.nextEndpointId :=
      congrArg KernelView.endpoints hv
    have hg : made.view.endpoints[kernel.nextEndpointId]? = none := by
      rw [hd]
      simp
    rw [he]
    refine iff_of_false (fun h => ?_) (fun h => not_mem_iff.mpr hc h.2)
    obtain ⟨endpoint, hm⟩ := (mem_iff _).mp h.2
    simp [view, hm] at hg
  · rw [he]
    refine iff_of_true ⟨?_, ?_⟩ ⟨hp, (mem_iff _).mpr ⟨_, hc⟩⟩
    · show kernel.nextEndpointId ≠ kernel.nextEndpointId + 1
      simp
    · show kernel.nextEndpointId ∈ kernel.endpoints.insert kernel.nextEndpointId _
      simp

lemma executeCreateEndpointFor_cases
    (hs : ∀ cspace, initSpace kernel = some cspace → cspace.nextSlot.toNat < 2 ^ 31) :
    ¬ Creates kernel args.word0.toUInt64 ∧
      (kernel.executeCreateEndpointFor 1 args now).result = -1 ∨
    Creates kernel args.word0.toUInt64 ∧ initSpace kernel = none ∧
      (kernel.executeCreateEndpointFor 1 args now).result = -1 ∨
    Creates kernel args.word0.toUInt64 ∧ ∃ slot cspace, initSpace kernel = some cspace ∧
      (kernel.executeCreateEndpointFor 1 args now).result = packed slot kernel.nextEndpointId ∧
      ((∃ cap, (kernel.executeCreateEndpointFor 1 args now).kernel.capSpaces.capAt 1 0 = some cap ∧
        Names kernel.nextEndpointId cap) ↔ FirstNames kernel.nextEndpointId cspace) := by
  rcases kernel.createEndpoint_cases args.word0.toUInt64 now with
    ⟨hp, he⟩ | ⟨-, hc, _, he, -⟩ | ⟨space, hp, hc, he⟩
  · exact .inl ⟨fun h => hp h.1, by simp [executeCreateEndpointFor, he]⟩
  · refine .inl ⟨fun h => ?_, by simp [executeCreateEndpointFor, he]⟩
    exact not_mem_iff.mpr hc h.2
  · have hm : Creates kernel args.word0.toUInt64 := ⟨hp, (mem_iff _).mpr ⟨_, hc⟩⟩
    have hg : initSpace ((kernel.openEndpoint args.word0.toUInt64).installCap args.word0.toUInt64
          space (.endpoint kernel.nextCapId kernel.nextEndpointId Permissions.full)) =
        if args.word0.toUInt64 = 1 then
          some (space.insert (.endpoint kernel.nextCapId kernel.nextEndpointId Permissions.full)).2
        else initSpace kernel := get_insert ..
    refine .inr ?_
    by_cases ho : args.word0.toUInt64 = 1
    · rw [if_pos ho] at hg
      rw [ho] at hc
      obtain ⟨hr, hf⟩ := executeCreateEndpointFor_of_opened kernel args now he hg
      exact .inr ⟨hm, _, space, hc, hr, hf.trans (firstNames_insert ⟨rfl, rfl⟩ (hs space hc))⟩
    · rw [if_neg ho] at hg
      cases hi : initSpace kernel with
      | none =>
        refine .inl ⟨hm, rfl, ?_⟩
        rw [hi, initSpace] at hg
        simp only [executeCreateEndpointFor, he, takeNextCapId, hg, ne_eq,
          not_true_eq_false, ite_false]
      | some cspace =>
        exact .inr ⟨hm, _, cspace, rfl,
          executeCreateEndpointFor_of_opened kernel args now he (hg.trans hi)⟩

end

lemma createEndpointFor_eq (target : UInt32) (h : 1 ∈ state.system.kernel.processes) :
    (state.createEndpointFor 1 target).2 = .ok (unpackEndpoint (narrowed
      (state.system.kernel.executeCreateEndpointFor 1 (gatewayArgs #v[target, 0, 0])
        (state.system.uptimeNanos state.hal)).result)) ∧
    (state.createEndpointFor 1 target).1.system.kernel =
      (state.system.kernel.executeCreateEndpointFor 1 (gatewayArgs #v[target, 0, 0])
        (state.system.uptimeNanos state.hal)).kernel := by
  have hc : state.processSyscallInternal 1 SYS_CREATE_ENDPOINT_FOR #v[target, 0, 0] [] =
      let called := state.gatewayCall 1 SYS_CREATE_ENDPOINT_FOR (gatewayArgs #v[target, 0, 0]) []
      (called.1, .ok called.2.1.toInt32) := if_neg (not_not_intro h)
  rw [createEndpointFor, zosSyscall, hc]
  exact ⟨rfl, (getSyscallRichResult_eq _ 1 _ _ _
    (show SYS_CREATE_ENDPOINT_FOR ≠ 0x35 ∧ _ by decide)).1⟩

theorem endpoint_roundTrip_iff (state : SupervisorState) (target : UInt32)
    (hinit : 1 ∈ state.system.kernel.processes)
    (hid : state.system.kernel.nextEndpointId.toNat < 2 ^ 31)
    (hslot : ∀ cspace, initSpace state.system.kernel = some cspace →
      cspace.nextSlot.toNat < 2 ^ 31) :
    ∃ answer, (state.createEndpointFor 1 target).2 = .ok answer ∧
      (RoundTrip (Created state.system.kernel (state.createEndpointFor 1 target).1.system.kernel)
          state.system.kernel.nextEndpointId
          (state.createEndpointFor 1 target).1.system.kernel.capSpaces answer ↔
        (Creates state.system.kernel target.toUInt64 →
          ∃ cspace, initSpace state.system.kernel = some cspace ∧
            FirstNames state.system.kernel.nextEndpointId cspace)) := by
  obtain ⟨ha, hk⟩ := createEndpointFor_eq target hinit
  have hf : unpackEndpoint (narrowed (-1)) = .error E_PERM := by decide
  have hw : (gatewayArgs #v[target, 0, 0]).word0 = target := rfl
  refine ⟨_, ha, ?_⟩
  rw [hk, propext (created_iff ..), hw]
  obtain ⟨hn, hr⟩ | ⟨hm, hc, hr⟩ | ⟨hm, slot, cspace, hc, hr, hi⟩ := hw ▸
    executeCreateEndpointFor_cases state.system.kernel (gatewayArgs #v[target, 0, 0])
      (state.system.uptimeNanos state.hal) hslot
  · rw [hr, hf]
    exact iff_of_true ⟨by simpa using hn, by simp⟩ fun h => absurd h hn
  · rw [hr, hf]
    refine iff_of_false (fun h => ?_) (by simp [hc, hm])
    obtain ⟨_, _, h⟩ := h.1.mpr hm
    cases h
  · rw [hr, unpackEndpoint_packed hid]
    simp only [hm, hc, true_imp_iff, Option.some.injEq, exists_eq_left', ← hi, RoundTrip,
      Except.ok.injEq, Prod.mk.injEq]
    constructor
    · intro h
      exact (h.2 _ _ ⟨rfl, rfl⟩).2
    · intro h
      refine ⟨by simp, ?_⟩
      rintro _ _ ⟨rfl, rfl⟩
      exact ⟨rfl, h⟩

theorem endpoint_roundTrip_iff_booted :
    ∃ answer, (booted.createEndpointFor 1 10).2 = .ok answer ∧
      (RoundTrip (Created booted.system.kernel (booted.createEndpointFor 1 10).1.system.kernel)
          booted.system.kernel.nextEndpointId (booted.createEndpointFor 1 10).1.system.kernel.capSpaces answer ↔
        (Creates booted.system.kernel 10 → ∃ cspace, initSpace booted.system.kernel = some cspace ∧
          FirstNames booted.system.kernel.nextEndpointId cspace)) := by
  refine endpoint_roundTrip_iff booted 10 (by decide +kernel) (by decide +kernel) fun cspace hc => ?_
  have hall : (initSpace booted.system.kernel).all (·.nextSlot.toNat < 2 ^ 31) = true := by
    decide +kernel
  simpa [hc] using hall

theorem endpoint_slot_lost :
    (booted.createEndpointFor 1 10).2 = .ok (.ok (2, 0)) ∧
      ((booted.createEndpointFor 1 10).1.system.kernel.capSpaces.capAt 1 0).map (·.objectId) =
        some 1 := by
  decide +kernel

end SupervisorState

end ZeroOS
