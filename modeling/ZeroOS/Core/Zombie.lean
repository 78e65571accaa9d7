import ZeroOS.Core.Authority

/-!
Dead processes in the pure core, against the protocol specification in which a
kill takes all capabilities away and only the living act.
-/

namespace ZeroOS.Core

open CapSpaces BTreeMap
open StateView

def StateView.Dead (view : StateView) (pid : ProcessId) : Prop :=
  ∃ process, view.processes[pid]? = some process ∧ process.state = .Zombie

def StateView.HoldsNothing (view : StateView) (pid : ProcessId) : Prop :=
  ∀ slot, view.capSpaces.capAt pid slot = none

def ZombieNoCaps (view : StateView) : Prop := ∀ pid, view.Dead pid → view.HoldsNothing pid

-- A call that moves no message, gives out no capability and touches nobody else.
structure Silent (state : KernelState) (pid : ProcessId) (syscall : Syscall) (now : UInt64) :
    Prop where
  queues : ∀ eid, pending (state.step pid syscall now).state.endpoints eid =
    pending state.endpoints eid
  spaces : ∀ other slot cap,
    (state.step pid syscall now).state.capSpaces.capAt other slot = some cap →
    state.capSpaces.capAt other slot = some cap
  processes : ∀ other, other ≠ pid →
    (state.step pid syscall now).state.processes[other]? = state.processes[other]?

namespace KernelState

-- The protocol's demands in one state and on the action taken there.
def Follows (state : KernelState) : Action → Prop
  | .Register _ _ => ZombieNoCaps state.view
  | .Call pid syscall now =>
    ZombieNoCaps state.view ∧ (state.view.Dead pid → Silent state pid syscall now)

def EndsClean (state : KernelState) : Action → Prop
  | .Call pid (.Exit _) _ => pid ∈ state.processes → state.view.HoldsNothing pid
  | .Call pid (.Kill target) _ =>
    (target ∈ state.processes → state.view.HoldsNothing target) ∧
      (state.view.Dead pid → target = pid ∨ ¬ state.view.Alive target)
  | _ => True

end KernelState

section Step

variable {pid : ProcessId} {now : UInt64} {view view' : StateView} {syscall : Syscall}
  {result : SyscallResult}

lemma not_alive_of_dead (hd : view.Dead pid) : ¬ view.Alive pid := by
  obtain ⟨_, hg, hz⟩ := hd
  rintro ⟨_, ho, ha⟩
  rw [hg] at ho
  exact ha ((congrArg ProcessView.state (Option.some.inj ho)).symm.trans hz)

lemma capAt_putSpace_of_ne (hn : other ≠ pid) :
    (view.putSpace pid cs).capSpaces.capAt other slot = view.capSpaces.capAt other slot := by
  rw [putSpace, capAt_insert, if_neg hn.symm]

section

variable (hstep : Step pid now view syscall result view')

include hstep

lemma Step.gained (ha : view'.capSpaces.capAt other slot = some cap) :
    view.capSpaces.capAt other slot = some cap ∨ view.Alive other ∨ ¬ view.HoldsNothing other := by
  cases hstep with
  | CreateEndpoint _ _ hl =>
    by_cases he : other = pid
    · exact .inr (.inl (he ▸ hl))
    · exact .inl ((capAt_putSpace_of_ne he).symm.trans ha)
  | CapGrant _ toPid _ _ _ _ hl =>
    by_cases he : other = toPid
    · exact .inr (.inl (he ▸ hl))
    · exact .inl ((capAt_putSpace_of_ne he).symm.trans ha)
  | CapDerive from_ _ _ _ hg _ hc =>
    by_cases he : other = pid
    · refine .inr (.inr ?_)
      intro hn
      have hh := (capAt_of_get hc from_).trans hg
      rw [← he, hn from_] at hh
      cases hh
    · exact .inl ((capAt_putSpace_of_ne he).symm.trans ha)
  | CapRevoke removed _ cs hc hg | CapDelete removed _ cs hc hg =>
    by_cases he : other = pid
    · refine .inr (.inr ?_)
      intro hn
      have hh := (capAt_of_get hc removed).trans hg
      rw [← he, hn removed] at hh
      cases hh
    · exact .inl ((capAt_putSpace_of_ne he).symm.trans ha)
  | _ => exact .inl ha

lemma Step.processes_or_marked :
    view'.processes = view.processes ∨
      ∃ target, view' = view.markZombie target ∧
        ((∃ code, syscall = .Exit code ∧ target = pid) ∨ syscall = .Kill target) := by
  cases hstep with
  | Exit code => exact .inr ⟨pid, rfl, .inl ⟨code, rfl, rfl⟩⟩
  | Kill target => exact .inr ⟨target, rfl, .inr rfl⟩
  | _ => exact .inl rfl

lemma Step.of_dead (hd : view.Dead pid) (hn : view.HoldsNothing pid) :
    view'.endpoints = view.endpoints ∧ view'.capSpaces = view.capSpaces := by
  have he : ∀ {slot right cap}, ¬ view.Holds pid slot now right cap := by
    intro slot right cap hh
    have hc := hh.held
    rw [hn slot] at hc
    cases hc
  have hg : ∀ {cs : CapabilitySpace} {slot cap}, view.capSpaces[pid]? = some cs →
      cs.get slot ≠ some cap := by
    intro cs slot cap hs hc
    have hm := (capAt_of_get hs slot).trans hc
    rw [hn slot] at hm
    cases hm
  cases hstep with
  | Refused | Query | Exit | Kill => exact ⟨rfl, rfl⟩
  | CreateEndpoint _ _ ha | CreateBare _ ha => exact absurd ha (not_alive_of_dead hd)
  | Send _ _ _ _ _ _ hh | Call _ _ _ _ _ _ hh | SendWithCaps _ _ _ _ _ _ _ _ _ _ hh
  | Receive _ _ _ _ hh | Empty _ _ _ hh => exact absurd hh.toHolds he
  | CapGrant _ _ _ _ _ hh | GrantBare _ _ _ _ hh => exact absurd hh he
  | CapDerive _ _ _ _ hc _ hs | CapRevoke _ _ _ hs hc | CapDelete _ _ _ hs hc =>
    exact absurd hc (hg hs)

end

end Step

namespace ZombieNoCaps

variable {view view' : StateView}

lemma markZombie (hm : ZombieNoCaps view)
    (hn : target ∈ view.processes → view.HoldsNothing target) :
    ZombieNoCaps (view.markZombie target) := by
  rintro pid ⟨process, hg, hz⟩
  by_cases he : pid = target
  · rw [he] at hg ⊢
    exact hn (mem_modify.mp ((mem_iff ..).mpr ⟨process, hg⟩))
  · rw [markZombie_get_of_ne he] at hg
    exact hm pid ⟨process, hg, hz⟩

lemma addProcess (he : ZombieNoCaps view) (name : String) :
    ZombieNoCaps (view.addProcess name) := by
  rintro pid ⟨process, hg, hz⟩ slot
  simp only [StateView.addProcess, get_insert] at hg
  simp only [StateView.addProcess, capAt_insert]
  split_ifs at hg ⊢
  · rfl
  · exact he pid ⟨process, hg, hz⟩ slot

lemma step (he : ZombieNoCaps view) (hstep : Step pid now view syscall result view')
    (hp : view'.processes = view.processes) : ZombieNoCaps view' := by
  intro other hd slot
  unfold Dead at hd
  rw [hp] at hd
  cases hc : view'.capSpaces.capAt other slot with
  | none => rfl
  | some =>
    rcases hstep.gained hc with hh | ha | hs
    · rw [he other hd slot] at hh
      cases hh
    · exact absurd ha (not_alive_of_dead hd)
    · exact absurd (he _ hd) hs

lemma of_markZombie (he : ZombieNoCaps (view.markZombie target))
    (hm : target ∈ view.processes) : view.HoldsNothing target := by
  obtain ⟨process, hg⟩ := (mem_iff ..).mp hm
  refine he _ ⟨{ process with state := .Zombie }, ?_, rfl⟩
  rw [StateView.markZombie, get_modify, if_pos rfl, hg]
  rfl

end ZombieNoCaps

namespace KernelState

variable {state : KernelState}

lemma silent_of_endsClean (hm : ZombieNoCaps state.view)
    (hl : state.EndsClean (.Call pid syscall now)) (hd : state.view.Dead pid) :
    Silent state pid syscall now := by
  obtain ⟨hn, hc⟩ := (state.step_step ..).of_dead hd (hm pid hd)
  rw [view_endpoints, view_endpoints] at hn
  rw [view_capSpaces] at hc
  refine ⟨?_, ?_, ?_⟩
  · intro eid
    rw [hn]
  · intro other slot cap ha
    rwa [hc] at ha
  · intro other hne
    rcases state.step_processes_of_ne hne syscall now with hs | ⟨rfl, hi⟩
    · exact hs
    · rcases hl.2 hd with he | hg
      · exact absurd he hne
      · exact absurd hi hg

lemma view_step_exit : (state.step pid (.Exit code) now).state.view = state.view.markZombie pid :=
  (view_killProcess _).trans (congrArg (markZombie · pid) (view_updateSyscallMetrics ..))

lemma zombieNoCaps_of_endsClean (he : ZombieNoCaps state.view)
    (hc : state.EndsClean action) : ZombieNoCaps (state.act action).view := by
  cases action with
  | Register =>
    rw [act, view_registerProcess]
    exact he.addProcess _
  | Call pid syscall now =>
    have hstep := state.step_step pid syscall now
    rcases hstep.processes_or_marked with hs | ⟨_, ha, ⟨_, rfl, rfl⟩ | rfl⟩
    · exact he.step hstep hs
    · rw [act, ha]
      exact he.markZombie fun hm => hc ((state.mem_view_processes _).mp hm)
    · rw [act, ha]
      exact he.markZombie fun hm => hc.1 ((state.mem_view_processes _).mp hm)

lemma endsClean_of_follows (hf : state.Follows action)
    (ha : ZombieNoCaps (state.act action).view) : state.EndsClean action := by
  cases action with
  | Register => trivial
  | Call pid syscall now =>
    cases syscall with
    | Exit =>
      intro hm
      rw [act, view_step_exit] at ha
      exact ha.of_markZombie ((state.mem_view_processes pid).mpr hm)
    | Kill target =>
      refine ⟨?_, ?_⟩
      · intro hm
        have hv := (state.mem_view_processes target).mpr hm
        rw [act, state.view_step_kill hv] at ha
        exact ha.of_markZombie hv
      · intro hd
        by_contra hb
        obtain ⟨hn, hl⟩ := not_or.mp hb
        exact state.kill_changes (not_not.mp hl) ((hf.2 hd).processes target hn)
    | _ => trivial

lemma follows_act_iff (he : ZombieNoCaps state.view) (action : Action) :
    (state.Follows action ∧ ZombieNoCaps (state.act action).view) ↔ state.EndsClean action := by
  refine ⟨fun h => endsClean_of_follows h.1 h.2, ?_⟩
  intro hc
  refine ⟨?_, zombieNoCaps_of_endsClean he hc⟩
  cases action with
  | Register => exact he
  | Call => exact ⟨he, silent_of_endsClean he hc⟩

def FollowsProtocol (state : KernelState) (actions : List Action) : Prop :=
  Run.Along act Follows state actions ∧ ZombieNoCaps (Run.run act state actions).view

lemma FollowsProtocol.start (h : state.FollowsProtocol actions) : ZombieNoCaps state.view := by
  cases actions with
  | nil => exact h.2
  | cons action =>
    have hf := h.1.1
    cases action with
    | Register => exact hf
    | Call => exact hf.1

lemma followsProtocol_run_iff (he : ZombieNoCaps state.view) :
    state.FollowsProtocol actions ↔ Run.Along act EndsClean state actions := by
  induction actions generalizing state with
  | nil => exact ⟨fun _ => trivial, fun _ => ⟨trivial, he⟩⟩
  | cons action rest ih =>
    refine ⟨?_, ?_⟩
    · rintro ⟨⟨hf, hr⟩, hl⟩
      have hn : (state.act action).FollowsProtocol rest := ⟨hr, hl⟩
      exact ⟨(follows_act_iff he ..).mp ⟨hf, hn.start⟩, (ih hn.start).mp hn⟩
    · rintro ⟨hc, hr⟩
      obtain ⟨hf, ha⟩ := (follows_act_iff he action).mpr hc
      obtain ⟨ho, hl⟩ := (ih ha).mpr hr
      exact ⟨⟨hf, ho⟩, hl⟩

theorem followsProtocol_iff (actions : List Action) :
    new.FollowsProtocol actions ↔ Run.Along act EndsClean new actions := by
  refine followsProtocol_run_iff ?_
  rintro pid ⟨_, hg, -⟩
  simp [new] at hg

-- The owner of an endpoint exits with its capability and goes on sending.
def deadSender : List Action := opened ++ [.Call 1 (.Exit 0) 0, posting]

theorem not_followsProtocol_deadSender : ¬ new.FollowsProtocol deadSender := by
  intro hf
  have hs := ((Run.along_append act).mp hf.1).2
  have hd : (Run.run act new (opened ++ [.Call 1 (.Exit 0) 0])).view.Dead 1 :=
    ⟨⟨1, "app", .Zombie⟩, by decide +kernel⟩
  have hq := (hs.2.1.2 hd).queues 1
  revert hq
  decide +kernel

end KernelState

end ZeroOS.Core
