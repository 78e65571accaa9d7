import ZeroOS.Kernel.System.Raw

/-!
Which raw syscalls reach into the capability space of another process.
-/

namespace ZeroOS

open CapSpaces RawCall CapabilitySpace Permissions

namespace System

-- What every other process holds is still there, in the same slot, after the call. A kill
-- that the caller was entitled to is the one exception.
def Isolates (system : System) (hal : Hal) (sender : ProcessId) (syscallNum : UInt32)
    (args : SyscallArgs) (data : List UInt8) : Prop :=
  ∀ other ≠ sender, ∀ slot cap, system.kernel.capSpaces.capAt other slot = some cap →
    (system.processSyscall hal sender syscallNum args data).1.kernel.capSpaces.capAt other slot =
        some cap ∨
      (syscallNum = 0x13 ∧ args.word0.toUInt64 = other ∧
        system.kernel.view.HoldsProcess sender other)

-- Deleting from a space named by the first argument, which nothing checks.
def DeletesAcross (kernel : KernelCore) (sender : ProcessId) (syscallNum : UInt32)
    (args : SyscallArgs) : Prop :=
  syscallNum = 0x31 ∧ args.word0.toUInt64 ≠ sender ∧
    ∃ cap, kernel.capSpaces.capAt args.word0.toUInt64 args.word1 = some cap

-- Granting into a space whose slot counter has come round to a slot in use.
def OverwritesAcross (kernel : KernelCore) (sender : ProcessId) (syscallNum : UInt32)
    (args : SyscallArgs) (now : UInt64) : Prop :=
  syscallNum = 0x30 ∧ args.word1.toUInt64 ≠ sender ∧
    ∃ source cspace old, kernel.validateGrantSource sender args.word0 now = .ok source ∧
      kernel.capSpaces[args.word1.toUInt64]? = some cspace ∧
      cspace.get cspace.nextSlot = some old ∧
      old ≠ source.derived kernel.nextCapId
        (attenuatePermissions source.permissions (Permissions.fromByte args.word2.toUInt8))

end System

namespace KernelCore

variable {kernel : KernelCore}

-- Everything that every process but one holds is kept.
def KeepsOthers (kernel after : KernelCore) (pid : ProcessId) : Prop :=
  ∀ other ≠ pid, ∀ slot cap, kernel.capSpaces.capAt other slot = some cap →
    after.capSpaces.capAt other slot = some cap

lemma keepsOthers_of_eq (he : after.capSpaces = kernel.capSpaces) :
    KeepsOthers kernel after pid := by
  intro other _ slot cap hh
  rw [he, hh]

lemma keepsOthers_of_insert (he : after.capSpaces = kernel.capSpaces.insert pid cs) :
    KeepsOthers kernel after pid := by
  intro other hn slot cap hh
  rw [he, capAt_insert, if_neg hn.symm, hh]

lemma keepsOthers_of_erase
    (he : after.capSpaces = kernel.capSpaces.erase pid) : KeepsOthers kernel after pid := by
  intro other hn slot cap hh
  rw [he, capAt_erase, if_neg hn.symm, hh]

lemma keepsOthers_insert_iff {new : Capability} (hc : kernel.capSpaces[pid]? = some cs)
    (hq : after.capSpaces = kernel.capSpaces.insert pid (cs.insert new).2) :
    KeepsOthers kernel after sender ↔
      (pid ≠ sender → ∀ old, cs.get cs.nextSlot = some old → old = new) := by
  constructor
  · intro hp hn old ho
    have hk := hp pid hn cs.nextSlot old ((capAt_of_get hc _).trans ho)
    rw [hq, capAt_insert, if_pos rfl, get_insert, if_pos rfl] at hk
    exact (Option.some.inj hk).symm
  · intro hf other hn slot cap hh
    rw [hq, capAt_insert]
    by_cases he : pid = other
    · subst he
      rw [capAt_of_get hc] at hh
      rw [if_pos rfl, get_insert]
      by_cases hs : cs.nextSlot = slot
      · subst hs
        rw [if_pos rfl, hf hn cap hh]
      · rw [if_neg hs, hh]
    · rw [if_neg he, hh]

lemma keepsOthers_remove_iff (hc : kernel.capSpaces[pid]? = some cs) (hg : cs.get slot = some cap)
    (he : after.capSpaces = kernel.capSpaces.insert pid (cs.remove slot).2) :
    KeepsOthers kernel after sender ↔ pid = sender := by
  constructor
  · intro hke
    by_contra hn
    have hk := hke pid hn slot cap ((capAt_of_get hc slot).trans hg)
    rw [he, capAt_insert, if_pos rfl, get_remove, if_pos rfl] at hk
    cases hk
  · rintro rfl
    exact keepsOthers_of_insert he

lemma KeepsOthers.trans (hf : KeepsOthers kernel middle pid)
    (hs : KeepsOthers middle after pid) : KeepsOthers kernel after pid :=
  fun _ hn _ cap hh => hs _ hn _ cap (hf _ hn _ cap hh)

variable (pid : ProcessId) (slot : CapSlot) (now : UInt64)

lemma killProcess_capSpaces :
    (kernel.killProcess pid now).1.capSpaces = kernel.capSpaces.erase pid :=
  congrArg KernelView.capSpaces (kernel.view_killProcess ..)

lemma keepsOthers_createEndpoint :
    KeepsOthers kernel (kernel.createEndpoint pid now).kernel pid := by
  rcases kernel.createEndpoint_cases pid now with
    ⟨-, he⟩ | ⟨-, -, _, he, hv⟩ | ⟨_, -, -, he⟩
  · rw [he]
    exact keepsOthers_of_eq rfl
  · rw [he]
    exact keepsOthers_of_eq (congrArg KernelView.capSpaces hv)
  · rw [he]
    exact keepsOthers_of_insert rfl

lemma keepsOthers_ipcSend (tag : UInt32) (data : List UInt8) (now : UInt64) :
    KeepsOthers kernel (kernel.ipcSend pid slot tag data now).1 pid := by
  rcases kernel.ipcSend_cases pid slot tag data now with
    ⟨e, -, he⟩ | ⟨_, _, _, _, _, he, hv⟩
  · rw [he]
    exact keepsOthers_of_eq rfl
  · rw [he]
    exact keepsOthers_of_eq (congrArg KernelView.capSpaces hv)

lemma keepsOthers_ipcReceiveWithCaps :
    KeepsOthers kernel (kernel.ipcReceiveWithCaps pid slot now).kernel pid := by
  rcases kernel.view_ipcReceiveWithCaps pid slot now with
    hs | ⟨_, _, _, _, _, _, _, _, hv⟩
  · exact keepsOthers_of_eq (congrArg KernelView.capSpaces hs)
  · exact keepsOthers_of_insert (congrArg KernelView.capSpaces hv)

lemma keepsOthers_performReceive :
    KeepsOthers kernel (kernel.performReceive now pid slot).1 pid := by
  unfold performReceive
  rcases kernel.ipcReceive_cases pid slot now with
    ⟨e, -, he⟩ | ⟨_, _, _, _, _, he⟩ | ⟨_, _, _, _, middle, _, _, _, he, hv⟩
  · rw [he]
    exact keepsOthers_of_eq rfl
  · rw [he]
    exact keepsOthers_of_eq rfl
  · rw [he]
    have hp : KeepsOthers kernel middle pid := keepsOthers_of_eq (congrArg KernelView.capSpaces hv)
    exact hp.trans (keepsOthers_ipcReceiveWithCaps pid _ now)

end KernelCore

namespace System

open KernelCore

variable {system : System} {hal : Hal} {sender : ProcessId} {args : SyscallArgs}
  {data : List UInt8}

lemma processSyscall_capSpaces :
    (system.processSyscall hal sender num args data).1.kernel.capSpaces =
      (system.kernel.performRaw (system.uptimeNanos hal) sender
        (.decode sender num args data)).1.capSpaces :=
  congrArg KernelView.capSpaces (system.kernel.rawSyscall_eq hal _ _ _ _ (system.uptimeNanos hal)).1

lemma isolates_iff_keepsOthers (hn : num ≠ 0x13) :
    system.Isolates hal sender num args data ↔
      KeepsOthers system.kernel (system.kernel.performRaw (system.uptimeNanos hal) sender
        (.decode sender num args data)).1 sender := by
  constructor
  · intro hi other he slot cap hh
    rcases hi other he slot cap hh with hk | ⟨hki, -⟩
    · rwa [processSyscall_capSpaces] at hk
    · exact absurd hki hn
  · intro hke other he slot cap hh
    rw [processSyscall_capSpaces]
    exact .inl (hke _ he _ cap hh)

lemma isolates_kill (hi : sender ≠ 1) : system.Isolates hal sender 0x13 args data := by
  intro other hn slot cap hh
  have hd : decode sender 0x13 args data =
      .Single (.KillProcessWithCapCheck sender args.word0.toUInt64) := by simp [decode]
  rw [processSyscall_capSpaces, hd]
  simp only [performRaw, perform]
  rcases system.kernel.killProcessWithCapCheck_cases sender args.word0.toUInt64
    (system.uptimeNanos hal) with ⟨e, -, hq⟩ | ⟨-, hp, hq⟩
  · rw [hq]
    exact .inl hh
  · rw [hq]
    rw [killProcess_capSpaces, capAt_erase]
    by_cases he : args.word0.toUInt64 = other
    · subst he
      exact .inr ⟨trivial, rfl, (hasKillPermission_iff ..).mp (hp.resolve_left hi)⟩
    · exact .inl (by rw [if_neg he, hh])

lemma isolates_delete_iff :
    system.Isolates hal sender 0x31 args data ↔ ¬ DeletesAcross system.kernel sender 0x31 args := by
  have hd : decode sender 0x31 args data =
      .Single (.DeleteCapability args.word0.toUInt64 args.word1) := by simp [decode]
  rw [isolates_iff_keepsOthers (by decide), hd]
  simp only [performRaw, perform]
  rcases system.kernel.deleteCapability_cases args.word0.toUInt64 args.word1
    (system.uptimeNanos hal) with ⟨e, ho, he⟩ | ⟨cap, _, hc, hg, he⟩
  · rw [he]
    refine iff_of_true (keepsOthers_of_eq rfl) ?_
    rintro ⟨-, -, cap, hh⟩
    rw [ho] at hh
    cases hh
  · rw [he]
    refine (keepsOthers_remove_iff hc hg rfl).trans ?_
    constructor
    · rintro hs ⟨-, hn, -⟩
      exact hn hs
    · intro ht
      by_contra hn
      exact ht ⟨rfl, hn, cap, (capAt_of_get hc _).trans hg⟩

lemma isolates_grant_iff :
    system.Isolates hal sender 0x30 args data ↔
      ¬ OverwritesAcross system.kernel sender 0x30 args (system.uptimeNanos hal) := by
  have hde : decode sender 0x30 args data = .Single (.GrantCapability sender args.word0
      args.word1.toUInt64 (fromByte args.word2.toUInt8)) := by simp [decode]
  rw [isolates_iff_keepsOthers (by decide), hde]
  simp only [performRaw, perform]
  rcases system.kernel.grantCapability_cases sender args.word0 args.word1.toUInt64
    (fromByte args.word2.toUInt8) (system.uptimeNanos hal) with
    ⟨e, hr, he⟩ | ⟨source, hv, ho, he⟩ | ⟨source, cs, hv, hc, he⟩
  · rw [he]
    refine iff_of_true (keepsOthers_of_eq rfl) ?_
    rintro ⟨-, -, source, cs, old, hv, -⟩
    rw [hr] at hv
    cases hv
  · rw [he]
    refine iff_of_true (keepsOthers_of_eq rfl) ?_
    rintro ⟨-, -, _, cs, old, -, hc, -⟩
    rw [ho] at hc
    cases hc
  · rw [he]
    refine (keepsOthers_insert_iff hc rfl).trans ?_
    constructor
    · rintro hf ⟨-, hn, _, _, old, hv', hs', hl, hd⟩
      rw [hv] at hv'
      rw [hc] at hs'
      cases hv'
      cases hs'
      exact hd (hf hn old hl)
    · intro ht hn old hl
      by_contra hd
      exact ht ⟨rfl, hn, source, cs, old, hv, hc, hl, hd⟩

-- A process that is not Init leaves the spaces of all others alone, unless it deletes from
-- one directly or a grant runs into a slot counter that has wrapped.
theorem isolates_iff (system : System) (hal : Hal) (sender : ProcessId) (syscallNum : UInt32)
    (args : SyscallArgs) (data : List UInt8) (hinit : sender ≠ 1) :
    system.Isolates hal sender syscallNum args data ↔
      ¬ DeletesAcross system.kernel sender syscallNum args ∧
        ¬ OverwritesAcross system.kernel sender syscallNum args (system.uptimeNanos hal) := by
  by_cases h31 : syscallNum = 0x31
  · subst h31
    rw [isolates_delete_iff]
    exact (and_iff_left fun h => absurd h.1 (by decide)).symm
  by_cases h30 : syscallNum = 0x30
  · subst h30
    rw [isolates_grant_iff]
    exact (and_iff_right fun h => absurd h.1 (by decide)).symm
  refine iff_of_true ?_ ⟨fun h => h31 h.1, fun h => h30 h.1⟩
  by_cases h13 : syscallNum = 0x13
  · subst h13
    exact isolates_kill hinit
  rw [isolates_iff_keepsOthers h13]
  have hd := decodes sender syscallNum args data
  generalize decode sender syscallNum args data = call at hd ⊢
  cases hd with
  | Exit => exact keepsOthers_of_erase (killProcess_capSpaces _ _)
  | CreateEndpoint => exact keepsOthers_createEndpoint _ _
  | Send => exact keepsOthers_ipcSend _ _ _ _ _
  | Receive => exact keepsOthers_performReceive _ _ _
  | Kill => exact absurd rfl h13
  | Grant => exact absurd rfl h30
  | Delete => exact absurd rfl h31
  | Register h1 | EndpointFor h1 | Spawn _ h1 => exact absurd h1 hinit
  | NoRegister | NoEndpointFor | NoSpawn | Other => exact keepsOthers_of_eq rfl

def booted : Hal := Hal.unsupported 0

def ownedEndpoint : System :=
  let names := ["init", "permission", "owner", "other"]
  let registered := names.foldl (fun system name => (system.registerProcess booted name).1)
    (System.new booted)
  (registered.createEndpoint booted 3).1

-- The owner deletes its own capability.
theorem isolates_ownedEndpoint :
    (3 : ProcessId) ≠ 1 ∧ ownedEndpoint.Isolates booted 3 0x31 #v[3, 0, 0, 0] [] :=
  ⟨by decide, (isolates_iff _ _ 3 _ #v[3, 0, 0, 0] [] (by decide)).mpr
    ⟨fun h => h.2.1 rfl, fun h => absurd h.1 (by decide)⟩⟩

-- Process 4, which holds nothing, deletes it.
theorem not_isolates_ownedEndpoint :
    ¬ ownedEndpoint.Isolates booted 4 0x31 #v[3, 0, 0, 0] [] := by
  intro hi
  have hh : ownedEndpoint.kernel.capSpaces.capAt 3 0 =
      some (.endpoint 1 1 full) := by decide +kernel
  have hg : (ownedEndpoint.processSyscall booted 4 0x31 #v[3, 0, 0, 0] []).1.kernel.capSpaces.capAt
      3 0 = none := by decide +kernel
  rcases hi 3 (by decide) 0 _ hh with hk | ⟨hn, -⟩
  · rw [hg] at hk
    cases hk
  · exact absurd hn (by decide)

end System

end ZeroOS
