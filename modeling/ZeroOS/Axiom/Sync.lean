import ZeroOS.Axiom.CommitLog
import ZeroOS.Lib.Run

/-!
How the supervisor saves the commit log (`supervisor/axiom_sync.rs`).
-/

namespace ZeroOS

open List UInt64 CommitLog

structure AxiomSync where
  commitlog : CommitLog
  lastPersistedAxiomSeq : UInt64
  axiomStorageReady : Bool

namespace AxiomSync

def new (timestamp : UInt64) : AxiomSync := ⟨.new timestamp, 0, false⟩

-- Where to go on, from the number that the storage returns.
def doAxiomInit (lastSeq : Int) : UInt64 :=
  if lastSeq < 0 then 0 else UInt64.ofNat lastSeq.toNat + 1

-- There is no number when the storage cannot be opened.
def initAxiomStorage (sync : AxiomSync) (lastSeq : Option Int) : AxiomSync :=
  if sync.axiomStorageReady then sync
  else
    match lastSeq with
    | some lastSeq =>
      { sync with axiomStorageReady := true, lastPersistedAxiomSeq := doAxiomInit lastSeq }
    | none => sync

def isNew (sync : AxiomSync) (commit : Commit) : Bool :=
  commit.seq ≥ sync.lastPersistedAxiomSeq

def commitsToPersist (sync : AxiomSync) : List Commit := sync.commitlog.commits.filter sync.isNew

-- Whether there is anything to do.
def Behind (sync : AxiomSync) : Prop :=
  sync.axiomStorageReady = true ∧
    ¬ sync.commitlog.currentSeq + 1 ≤ sync.lastPersistedAxiomSeq

instance (sync : AxiomSync) : Decidable sync.Behind := inferInstanceAs (Decidable (_ ∧ _))

-- `persistEntries` returns the number of entries, or nothing if it fails.
def syncAxiomLog (persistEntries : List Commit → Option UInt32) (sync : AxiomSync) :
    AxiomSync × UInt32 :=
  if ¬ sync.axiomStorageReady then (sync, 0)
  else
    let currentSeq := sync.commitlog.currentSeq + 1
    if currentSeq ≤ sync.lastPersistedAxiomSeq then (sync, 0)
    else if sync.commitsToPersist = [] then (sync, 0)
    else
      match persistEntries sync.commitsToPersist with
      | some persisted => ({ sync with lastPersistedAxiomSeq := currentSeq }, persisted)
      | none => (sync, 0)

end AxiomSync

-- The storage with the session that writes to it. The commits of a session are counted from
-- its genesis; the last three fields only record how many there are, where the session was
-- told to go on, and which commits were passed to the storage.
structure Recorder where
  stored : List Commit
  sync : AxiomSync
  made : Nat
  origin : UInt64
  passed : List Nat

namespace Recorder

inductive Event where
  | NewSession (timestamp : UInt64)
  | Commit (commitType : CommitType) (causedBy : Option EventId) (timestamp : UInt64)
  | Sync

-- The largest number that is stored, or a negative one.
def getLastSeq (stored : List Commit) : Int :=
  stored.foldl (fun last commit => max last commit.seq.toNat) (-1)

def startSession (stored : List Commit) (timestamp : UInt64) : Recorder where
  stored
  sync := (AxiomSync.new timestamp).initAxiomStorage (some (getLastSeq stored))
  made := 1
  origin := AxiomSync.doAxiomInit (getLastSeq stored)
  passed := []

-- The commits in memory with their numbers in the session.
def kept (recorder : Recorder) : List (Commit × Nat) :=
  recorder.sync.commitlog.commits.zipIdx
    (recorder.made - recorder.sync.commitlog.commits.length)

def entries (recorder : Recorder) : List (Commit × Nat) :=
  if recorder.sync.Behind then recorder.kept.filter fun entry => recorder.sync.isNew entry.1 else []

def persistAll (entries : List Commit) : Option UInt32 := some (UInt32.ofNat entries.length)

def step (recorder : Recorder) : Event → Recorder
  | .NewSession timestamp => startSession recorder.stored timestamp
  | .Commit commitType causedBy timestamp =>
    { recorder with
      sync := { recorder.sync with
        commitlog := recorder.sync.commitlog.append commitType causedBy timestamp }
      made := recorder.made + 1 }
  | .Sync =>
    { recorder with
      stored := recorder.stored ++ recorder.entries.map Prod.fst
      sync := (recorder.sync.syncAxiomLog persistAll).1
      passed := recorder.passed ++ recorder.entries.map Prod.snd }

-- Every commit of the session has been passed to the storage.
def Persisted (recorder : Recorder) : Prop := ∀ n < recorder.made, n ∈ recorder.passed

-- The storage was empty when the session started, what the session has made since the last
-- sync is still in memory, and its numbers have not wrapped.
def Covered (recorder : Recorder) : Prop :=
  recorder.origin = 0 ∧
    recorder.made ≤ recorder.sync.lastPersistedAxiomSeq.toNat + MAX_COMMITLOG_ENTRIES ∧
    recorder.made < 18446744073709551616

-- The log holds the last commits of the session, with their numbers.
structure Tracks (log : CommitLog) (made : Nat) : Prop where
  length : log.commits.length = min made MAX_COMMITLOG_ENTRIES
  nextSeq : log.nextSeq = UInt64.ofNat made
  seq : ∀ (j : Nat) (commit : Commit), log.commits[j]? = some commit →
    commit.seq = UInt64.ofNat (made - log.commits.length + j)

lemma tracks_new : Tracks (.new now) 1 := by
  obtain ⟨id, hc⟩ : ∃ id, (new now).commits = [{ Commit.draft now .Genesis with id }] := ⟨_, rfl⟩
  refine ⟨by rw [hc]; rfl, rfl, fun j commit hg => ?_⟩
  rw [hc] at hg ⊢
  cases j with
  | zero =>
    cases hg
    rfl
  | succ => cases hg

lemma append_commits (log : CommitLog) (commitType : CommitType) (causedBy : Option EventId)
    (now : UInt64) :
    (log.append commitType causedBy now).nextSeq = log.nextSeq + 1 ∧
      ∃ commit : Commit, commit.seq = log.nextSeq ∧
        (log.append commitType causedBy now).commits =
          (log.commits ++ [commit]).drop (log.commits.length + 1 - MAX_COMMITLOG_ENTRIES) := by
  unfold append
  dsimp only
  generalize computeHash _ = id
  unfold trimIfNeeded
  split_ifs with hf
  · exact ⟨rfl, ⟨id, log.lastHash, log.nextSeq, now, commitType, causedBy⟩, rfl, by simp⟩
  · refine ⟨rfl, ⟨id, log.lastHash, log.nextSeq, now, commitType, causedBy⟩, rfl, ?_⟩
    simp only [length_append, length_singleton] at hf
    rw [Nat.sub_eq_zero_of_le (Nat.le_of_not_lt hf), drop_zero]

lemma Tracks.append {made : Nat} (ht : Tracks log made) :
    Tracks (log.append commitType causedBy now) (made + 1) := by
  obtain ⟨hn, _, hm, hc⟩ := append_commits log commitType causedBy now
  have hl := ht.length
  refine ⟨?_, ?_, fun j other hg => ?_⟩
  · rw [hc, length_drop, length_append, length_singleton]
    omega
  · rw [hn, ht.nextSeq, ofNat_add]
    rfl
  · rw [hc, length_drop, length_append, length_singleton]
    rw [hc, getElem?_drop] at hg
    by_cases ho : log.commits.length + 1 - MAX_COMMITLOG_ENTRIES + j < log.commits.length
    · rw [getElem?_append_left ho] at hg
      exact (ht.seq _ _ hg).trans (congrArg ofNat (by omega))
    · rw [getElem?_append_right (Nat.le_of_not_lt ho), getElem?_singleton] at hg
      split_ifs at hg with ha
      cases hg
      exact (hm.trans ht.nextSeq).trans (congrArg ofNat (by omega))

section

variable {recorder : Recorder}

lemma entries_commits :
    recorder.entries.map Prod.fst =
      if recorder.sync.Behind then recorder.sync.commitsToPersist else [] := by
  unfold entries AxiomSync.commitsToPersist kept
  split_ifs
  · rw [← zipIdx_map_fst (recorder.made - recorder.sync.commitlog.commits.length)
      recorder.sync.commitlog.commits, filter_map, zipIdx_map_fst]
    rfl
  · rfl

lemma mem_passed_iff (ht : Tracks recorder.sync.commitlog recorder.made) :
    n ∈ recorder.entries.map Prod.snd ↔ recorder.sync.Behind ∧
      recorder.made - recorder.sync.commitlog.commits.length ≤ n ∧ n < recorder.made ∧
      recorder.sync.lastPersistedAxiomSeq ≤ ofNat n := by
  have hln := ht.length
  unfold entries kept
  split_ifs with hb
  · simp only [hb, true_and, mem_map, mem_filter, Prod.exists, exists_eq_right,
      mk_mem_zipIdx_iff_le_and_getElem?_sub, AxiomSync.isNew, decide_eq_true_eq]
    constructor
    · rintro ⟨commit, ⟨hl, hg⟩, hn⟩
      have hlt := (List.getElem?_eq_some_iff.mp hg).1
      rw [ht.seq _ commit hg, Nat.add_sub_cancel' hl] at hn
      exact ⟨hl, by omega, hn⟩
    · rintro ⟨hl, hlt, hn⟩
      have hi : n - (recorder.made - recorder.sync.commitlog.commits.length) <
          recorder.sync.commitlog.commits.length := by omega
      have hg := getElem?_eq_getElem hi
      refine ⟨_, ⟨hl, hg⟩, ?_⟩
      rw [ht.seq _ _ hg, Nat.add_sub_cancel' hl]
      exact hn
  · simp [hb]

lemma toNat_ofNat_of_lt (hl : n < 18446744073709551616) : (ofNat n).toNat = n := by
  rw [UInt64.toNat_ofNat', Nat.mod_eq_of_lt hl]

lemma currentSeq_of_lt {made : Nat} (ht : Tracks log made) (hm : 1 ≤ made)
    (hl : made < 18446744073709551616) : (log.currentSeq + 1).toNat = made := by
  have hn : log.nextSeq.toNat = made := by rw [ht.nextSeq, toNat_ofNat_of_lt hl]
  have he : log.nextSeq ≠ 0 := by
    intro hz
    rw [hz] at hn
    have : (0 : UInt64).toNat = 0 := rfl
    omega
  rw [currentSeq, if_neg he, UInt64.sub_add_cancel, hn]

end

-- What holds of a session as long as every sync has saved all there was. A session that goes
-- on from a later number never saves its genesis.
structure Sound (recorder : Recorder) : Prop where
  tracks : Tracks recorder.sync.commitlog recorder.made
  ready : recorder.sync.axiomStorageReady = true
  begun : 1 ≤ recorder.made
  saved : recorder.origin = 0 → recorder.sync.lastPersistedAxiomSeq.toNat ≤ recorder.made ∧
    ∀ n, n ∈ recorder.passed ↔ n < recorder.sync.lastPersistedAxiomSeq.toNat
  missed : recorder.origin ≠ 0 → recorder.sync.lastPersistedAxiomSeq ≠ 0 ∧ 0 ∉ recorder.passed

section

variable {recorder : Recorder}

lemma startSession_sound {stored : List Commit} : Sound (startSession stored now) := by
  refine ⟨tracks_new, rfl, Nat.le_refl 1, fun hz => ?_, fun hn => ?_⟩
  · have hl : (startSession stored now).sync.lastPersistedAxiomSeq = 0 := hz
    rw [hl]
    exact ⟨Nat.zero_le 1, fun n => by simp [startSession]⟩
  · exact ⟨hn, by simp [startSession]⟩

section

variable (hsnd : Sound recorder)

include hsnd

lemma Sound.commit : Sound (recorder.step (.Commit commitType causedBy now)) := by
  refine ⟨hsnd.tracks.append, hsnd.ready, ?_, fun hz => ?_, hsnd.missed⟩
  · exact Nat.le_succ_of_le hsnd.begun
  · obtain ⟨hl, hp⟩ := hsnd.saved hz
    exact ⟨Nat.le_succ_of_le hl, hp⟩

lemma mem_passed_sync (n : Nat) :
    n ∈ (recorder.step .Sync).passed ↔ n ∈ recorder.passed ∨ (recorder.sync.Behind ∧
      recorder.made - recorder.sync.commitlog.commits.length ≤ n ∧ n < recorder.made ∧
      recorder.sync.lastPersistedAxiomSeq ≤ ofNat n) := by
  rw [← mem_passed_iff hsnd.tracks, ← mem_append]
  rfl

lemma not_persisted_of_origin (ho : recorder.origin ≠ 0) : ¬ Persisted (recorder.step .Sync) := by
  intro hp
  obtain ⟨hl, hm⟩ := hsnd.missed ho
  have hg := (mem_passed_sync hsnd 0).mp (hp 0 hsnd.begun)
  obtain he | ⟨-, -, -, hle⟩ := hg
  · exact hm he
  · have hn := le_iff_toNat_le.mp hle
    refine hl (UInt64.toNat_inj.mp ?_)
    have hz : (UInt64.ofNat 0).toNat = (0 : UInt64).toNat := rfl
    have hno : (0 : UInt64).toNat = 0 := rfl
    omega

lemma behind_iff_of_lt (hl : recorder.made < 18446744073709551616) :
    recorder.sync.Behind ↔ recorder.sync.lastPersistedAxiomSeq.toNat < recorder.made := by
  have hc := currentSeq_of_lt hsnd.tracks hsnd.begun hl
  rw [AxiomSync.Behind, le_iff_toNat_le, hc]
  simp only [hsnd.ready, true_and, Nat.not_le]

lemma not_behind_of_wrapped (hw : 18446744073709551616 ≤ recorder.made)
    (hr : recorder.made ≤ recorder.sync.lastPersistedAxiomSeq.toNat + MAX_COMMITLOG_ENTRIES) :
    ¬ recorder.sync.Behind := by
  rintro ⟨-, hb⟩
  refine hb (le_iff_toNat_le.mpr ?_)
  have hm : MAX_COMMITLOG_ENTRIES = 100000 := rfl
  have hl := recorder.sync.lastPersistedAxiomSeq.toNat_lt
  have hn : recorder.sync.commitlog.nextSeq.toNat = recorder.made - 18446744073709551616 := by
    rw [hsnd.tracks.nextSeq, toNat_ofNat']
    omega
  unfold currentSeq
  split_ifs with hz
  · have ho : ((0 : UInt64) + 1).toNat = 1 := rfl
    omega
  · rw [UInt64.sub_add_cancel]
    omega

lemma persisted_sync_iff : Persisted (recorder.step .Sync) ↔ Covered recorder := by
  by_cases ho : recorder.origin = 0
  swap
  · exact iff_of_false (not_persisted_of_origin hsnd ho) fun hc => ho hc.1
  obtain ⟨-, hp⟩ := hsnd.saved ho
  have hle := hsnd.tracks.length
  have ha := recorder.sync.lastPersistedAxiomSeq.toNat_lt
  constructor
  · intro he
    -- The commit after the last one that was saved.
    have hne (hm : recorder.sync.lastPersistedAxiomSeq.toNat < recorder.made) :
        recorder.sync.Behind ∧ recorder.made - recorder.sync.commitlog.commits.length ≤
          recorder.sync.lastPersistedAxiomSeq.toNat := by
      obtain hme | ⟨hb, hk, -⟩ := (mem_passed_sync hsnd _).mp (he _ hm)
      · exact absurd ((hp _).mp hme) (Nat.lt_irrefl _)
      · exact ⟨hb, hk⟩
    have hr : recorder.made ≤
        recorder.sync.lastPersistedAxiomSeq.toNat + MAX_COMMITLOG_ENTRIES := by
      omega
    refine ⟨ho, hr, ?_⟩
    by_contra hw
    exact not_behind_of_wrapped hsnd (Nat.le_of_not_lt hw) hr (hne (by omega)).1
  · rintro ⟨-, hr, hl⟩ n (hn : n < recorder.made)
    rw [mem_passed_sync hsnd, hp]
    by_cases hs : n < recorder.sync.lastPersistedAxiomSeq.toNat
    · exact .inl hs
    · refine .inr ⟨(behind_iff_of_lt hsnd hl).mpr (by omega), by omega, hn, ?_⟩
      rw [le_iff_toNat_le, toNat_ofNat_of_lt (by omega)]
      omega

end

lemma syncAxiomLog_behind (hb : recorder.sync.Behind) (hs : recorder.sync.commitsToPersist ≠ []) :
    (recorder.sync.syncAxiomLog persistAll).1 =
      { recorder.sync with
        lastPersistedAxiomSeq := recorder.sync.commitlog.currentSeq + 1 } := by
  rw [AxiomSync.syncAxiomLog, if_neg (not_not_intro hb.1)]
  rw [if_neg hb.2, if_neg hs]
  rfl

lemma syncAxiomLog_idle (hr : recorder.sync.axiomStorageReady = true)
    (hi : ¬ recorder.sync.Behind) : (recorder.sync.syncAxiomLog persistAll).1 = recorder.sync := by
  have hn : recorder.sync.commitlog.currentSeq + 1 ≤ recorder.sync.lastPersistedAxiomSeq := by
    by_contra h
    exact hi ⟨hr, h⟩
  rw [AxiomSync.syncAxiomLog, if_neg (not_not_intro hr)]
  rw [if_pos hn]

lemma Sound.sync (hsnd : Sound recorder) (hp : Persisted (recorder.step .Sync)) :
    Sound (recorder.step .Sync) := by
  obtain ⟨hr, -, hl⟩ := (persisted_sync_iff hsnd).mp hp
  obtain ⟨he, ha⟩ := hsnd.saved hr
  have hb := behind_iff_of_lt hsnd hl
  by_cases ho : recorder.sync.lastPersistedAxiomSeq.toNat < recorder.made
  · have hso : recorder.sync.commitsToPersist ≠ [] := by
      intro hno
      have hc := @entries_commits recorder
      rw [if_pos (hb.mpr ho), hno, map_eq_nil_iff] at hc
      obtain hm | hm := mem_append.mp (hp _ ho)
      · exact absurd ((ha _).mp hm) (Nat.lt_irrefl _)
      · rw [hc] at hm
        cases hm
    have hs := syncAxiomLog_behind (hb.mpr ho) hso
    have hla : (recorder.step .Sync).sync.lastPersistedAxiomSeq.toNat = recorder.made := by
      rw [step, hs]
      exact currentSeq_of_lt hsnd.tracks hsnd.begun hl
    have hlo : (recorder.step .Sync).sync.commitlog = recorder.sync.commitlog := by
      rw [step, hs]
    refine ⟨hlo ▸ hsnd.tracks, ?_, hsnd.begun, fun _ => ?_, fun hne => absurd hr hne⟩
    · rw [step, hs]
      exact hsnd.ready
    · rw [hla]
      refine ⟨Nat.le_refl _, fun n => ⟨fun hm => ?_, fun hn => hp n hn⟩⟩
      obtain hm | ⟨-, -, hn, -⟩ := (mem_passed_sync hsnd n).mp hm
      · exact Nat.lt_of_lt_of_le ((ha n).mp hm) he
      · exact hn
  · have hi : ¬ recorder.sync.Behind := fun h => ho (hb.mp h)
    have hs := syncAxiomLog_idle hsnd.ready hi
    have hen : recorder.entries = [] := if_neg hi
    have hsa : recorder.step .Sync = recorder := by
      simp only [step, hs, hen, map_nil, append_nil]
    rw [hsa]
    exact hsnd

end

-- Every sync of a run leaves all commits of its session saved exactly if at every sync the
-- session is covered.
theorem run_persisted_iff (stored : List Commit) (timestamp : UInt64) (events : List Event) :
    Run.Along step (fun recorder event => event = .Sync → Persisted (recorder.step event))
        (startSession stored timestamp) events ↔
      Run.Along step (fun recorder event => event = .Sync → Covered recorder)
        (startSession stored timestamp) events := by
  refine Run.along_iff_along _ (fun recorder event hsnd hg => ?_)
    (fun recorder event hsnd => ?_) startSession_sound
  · cases event with
    | NewSession => exact startSession_sound
    | Commit => exact hsnd.commit
    | Sync => exact hsnd.sync (hg rfl)
  · refine forall_congr' fun hs => ?_
    subst hs
    exact persisted_sync_iff hsnd

-- The first session saves its genesis, and the second takes its own for saved.
theorem second_session_unsaved :
    (Run.run step (startSession [] 0) [.Sync]).passed = [0] ∧
      (Run.run step (startSession [] 0) [.Sync, .NewSession 5, .Sync]).made = 1 ∧
      (Run.run step (startSession [] 0) [.Sync, .NewSession 5, .Sync]).passed = [] ∧
      ¬ Run.Along step (fun recorder event => event = .Sync → Persisted (recorder.step event))
        (startSession [] 0) [.Sync, .NewSession 5, .Sync] := by
  have hp : (Run.run step (startSession [] 0) [.Sync, .NewSession 5, .Sync]).passed = [] := by
    decide +kernel
  refine ⟨by decide +kernel, rfl, hp, fun halong => ?_⟩
  have hg : 0 ∈ (Run.run step (startSession [] 0) [.Sync, .NewSession 5, .Sync]).passed :=
    halong.2.2.1 rfl 0 (by decide)
  cases hg

end Recorder

end ZeroOS
