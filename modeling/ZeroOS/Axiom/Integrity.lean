import Mathlib.Tactic.NormNum.Basic
import ZeroOS.Lib.Chain
import ZeroOS.Axiom.CommitLog

/-!
The integrity check of the commit log, and when a log built by appending
passes it.
-/

namespace ZeroOS

open List

-- The arguments of one `append`.
structure LogEntry where
  commitType : CommitType
  causedBy : Option EventId
  timestamp : UInt64

namespace CommitLog

-- The loop of `verify_integrity`: `none` is its early `return false`.
def verifyLoop : CommitId → List Commit → Option CommitId
  | expectedPrev, [] => some expectedPrev
  | expectedPrev, commit :: rest =>
    if commit.prevCommit ≠ expectedPrev then none
    else if computeHash commit ≠ commit.id then none
    else verifyLoop commit.id rest

def verifyIntegrity (log : CommitLog) : Bool :=
  if log.commits.isEmpty then true
  else
    match verifyLoop zeroId log.commits with
    | none => false
    | some expectedPrev => expectedPrev == log.lastHash

def ofEntries (timestamp : UInt64) (entries : List LogEntry) : CommitLog :=
  entries.foldl (fun log entry => log.append entry.commitType entry.causedBy entry.timestamp)
    (new timestamp)

abbrev Linked : CommitId → List Commit → CommitId → Prop :=
  HashChain.Linked Commit.prevCommit Commit.id computeHash

lemma verifyLoop_eq_some_iff {commits : List Commit} :
    verifyLoop first commits = some last ↔ Linked first commits last := by
  induction commits generalizing first with
  | nil => simp [verifyLoop, HashChain.Linked]
  | cons commit _ ih =>
    simp only [verifyLoop, HashChain.Linked, ← ih]
    by_cases hp : commit.prevCommit = first
    · by_cases hh : computeHash commit = commit.id
      · simp [hh]
      · simp [hh]
    · simp [hp]

section

variable (log : CommitLog) (entry : LogEntry)

lemma verifyIntegrity_eq_true_iff (hn : log.commits ≠ []) :
    log.verifyIntegrity = true ↔ Linked zeroId log.commits log.lastHash := by
  rw [← verifyLoop_eq_some_iff, verifyIntegrity, if_neg (by simpa using hn)]
  cases verifyLoop zeroId log.commits with
  | none | some => simp

-- The commit that an append adds, with its hash filled in.
def linkedCommit : Commit :=
  let commit : Commit :=
    { id := zeroId, prevCommit := log.lastHash, seq := log.nextSeq, timestamp := entry.timestamp,
      commitType := entry.commitType, causedBy := entry.causedBy }
  { commit with id := computeHash commit }

lemma computeHash_withId {id : CommitId} : computeHash { commit with id } = computeHash commit := by
  simp only [computeHash, Commit.hashInput]

-- An append that never trims.
def extend : CommitLog :=
  { commits := log.commits ++ [log.linkedCommit entry]
    nextSeq := log.nextSeq + 1
    lastHash := (log.linkedCommit entry).id }

def extendAll (entries : List LogEntry) : CommitLog :=
  entries.foldl extend log

end

structure Recent (log full : CommitLog) : Prop where
  commits : log.commits = full.commits.drop (full.commits.length - MAX_COMMITLOG_ENTRIES)
  nextSeq : log.nextSeq = full.nextSeq
  lastHash : log.lastHash = full.lastHash

lemma recent_append (hr : Recent log full) :
    Recent (log.append entry.commitType entry.causedBy entry.timestamp) (full.extend entry) := by
  obtain ⟨hc, hs, hh⟩ := hr
  have hl : log.commits.length = min full.commits.length MAX_COMMITLOG_ENTRIES := by
    rw [hc, length_drop]
    omega
  simp only [append, extend, linkedCommit, trimIfNeeded, hs, hh, length_append, length_singleton]
  split_ifs with hf
  · refine ⟨?_, rfl, rfl⟩
    -- The log was full, so its oldest commit goes.
    have hd : full.commits.length + 1 - MAX_COMMITLOG_ENTRIES =
        full.commits.length - MAX_COMMITLOG_ENTRIES + 1 := by omega
    have ho : log.commits.length + 1 - MAX_COMMITLOG_ENTRIES = 1 := by omega
    rw [ho, hc, ← drop_append_of_le_length (by omega), drop_drop,
      length_append, length_singleton, hd]
  · refine ⟨?_, rfl, rfl⟩
    have hm : full.commits.length + 1 - MAX_COMMITLOG_ENTRIES = 0 := by omega
    have ha : full.commits.length - MAX_COMMITLOG_ENTRIES = 0 := by omega
    simp only [length_append, length_singleton, hm, drop_zero]
    rw [hc, ha, drop_zero]

variable (timestamp : UInt64) (entries old recent : List LogEntry)

lemma recent_ofEntries :
    Recent (ofEntries timestamp entries) ((new timestamp).extendAll entries) := by
  have hi : Recent (new timestamp) (new timestamp) := by
    have ho : (new timestamp).commits.length - MAX_COMMITLOG_ENTRIES = 0 :=
      Nat.sub_eq_zero_of_le (show 1 ≤ MAX_COMMITLOG_ENTRIES by decide)
    exact ⟨by rw [ho, drop_zero], rfl, rfl⟩
  unfold ofEntries extendAll
  generalize new timestamp = log at hi ⊢
  suffices h : ∀ full, Recent log full → Recent (entries.foldl (fun log entry =>
      log.append entry.commitType entry.causedBy entry.timestamp) log) (entries.foldl extend full) by
    exact h log hi
  clear hi
  induction entries generalizing log with
  | nil => exact fun _ hr => hr
  | cons _ _ ih => exact fun full hr => ih _ _ (recent_append hr)

lemma extendAll_linked (log : CommitLog) (entries : List LogEntry) :
    ∃ added, (log.extendAll entries).commits = log.commits ++ added ∧
      added.length = entries.length ∧
      Linked log.lastHash added (log.extendAll entries).lastHash := by
  induction entries generalizing log with
  | nil => exact ⟨[], by simp [extendAll], rfl, rfl⟩
  | cons entry rest ih =>
    obtain ⟨added, hc, hl, hi⟩ := ih (log.extend entry)
    refine ⟨log.linkedCommit entry :: added, ?_, ?_, ?_⟩
    · rw [show log.extendAll (entry :: rest) = (log.extend entry).extendAll rest from rfl,
        hc, extend, append_assoc]
      rfl
    · rw [length_cons, length_cons, hl]
    · exact ⟨rfl, computeHash_withId, hi⟩

lemma linked_extendAll_new :
    Linked zeroId ((new timestamp).extendAll entries).commits
      ((new timestamp).extendAll entries).lastHash := by
  obtain ⟨_, hc, -, hl⟩ := (new timestamp).extendAll_linked entries
  have hg : Linked zeroId (new timestamp).commits (new timestamp).lastHash :=
    ⟨rfl, computeHash_withId, rfl⟩
  rw [hc]
  exact hg.append hl

lemma length_extendAll_new :
    ((new timestamp).extendAll entries).commits.length = entries.length + 1 := by
  obtain ⟨_, hc, hl, -⟩ := (new timestamp).extendAll_linked entries
  rw [hc, length_append, hl, Nat.add_comm]
  rfl

lemma linked_ofEntries_of_lt (ht : entries.length < MAX_COMMITLOG_ENTRIES) :
    Linked zeroId (ofEntries timestamp entries).commits (ofEntries timestamp entries).lastHash := by
  have hr := recent_ofEntries timestamp entries
  have hl := length_extendAll_new timestamp entries
  have ha : entries.length + 1 - MAX_COMMITLOG_ENTRIES = 0 := by omega
  rw [hr.commits, hr.lastHash, hl, ha]
  exact linked_extendAll_new ..

lemma linked_ofEntries_append (hl : recent.length = MAX_COMMITLOG_ENTRIES) :
    Linked (ofEntries timestamp old).lastHash (ofEntries timestamp (old ++ recent)).commits
      (ofEntries timestamp (old ++ recent)).lastHash := by
  have hr := recent_ofEntries timestamp (old ++ recent)
  have hs : (new timestamp).extendAll (old ++ recent) =
      ((new timestamp).extendAll old).extendAll recent := foldl_append
  obtain ⟨added, hc, ha, hi⟩ := ((new timestamp).extendAll old).extendAll_linked recent
  have hd : ((new timestamp).extendAll old).commits.length + added.length -
      MAX_COMMITLOG_ENTRIES = ((new timestamp).extendAll old).commits.length := by
    rw [ha, hl, Nat.add_sub_cancel]
  rw [hr.commits, hr.lastHash, hs, hc, length_append, hd, drop_left, (recent_ofEntries ..).lastHash]
  exact hi

lemma ofEntries_commits_ne_nil : (ofEntries timestamp entries).commits ≠ [] := by
  have hl := length_extendAll_new timestamp entries
  rw [(recent_ofEntries timestamp entries).commits, ne_eq, drop_eq_nil_iff]
  unfold MAX_COMMITLOG_ENTRIES
  omega

lemma verifyIntegrity_append_iff (he : recent.length = MAX_COMMITLOG_ENTRIES) :
    (ofEntries timestamp (old ++ recent)).verifyIntegrity = true ↔
      (ofEntries timestamp old).lastHash = zeroId := by
  have hn := ofEntries_commits_ne_nil timestamp (old ++ recent)
  have hl := linked_ofEntries_append timestamp old recent he
  rw [verifyIntegrity_eq_true_iff _ hn]
  constructor
  · intro hz
    exact hl.first_unique hn hz
  · intro hh
    rwa [hh] at hl

-- The check passes exactly as long as nothing has been trimmed, or if by chance the last
-- trimmed commit has the hash that the genesis commit names as its predecessor.
theorem verifyIntegrity_ofEntries_iff (timestamp : UInt64) (entries : List LogEntry) :
    (ofEntries timestamp entries).verifyIntegrity = true ↔
      entries.length < MAX_COMMITLOG_ENTRIES ∨
        (ofEntries timestamp
          (entries.take (entries.length - MAX_COMMITLOG_ENTRIES))).lastHash = zeroId := by
  by_cases hl : entries.length < MAX_COMMITLOG_ENTRIES
  · refine iff_of_true ?_ (.inl hl)
    rw [verifyIntegrity_eq_true_iff _ (ofEntries_commits_ne_nil timestamp entries)]
    exact linked_ofEntries_of_lt _ _ hl
  · generalize hold : entries.length - MAX_COMMITLOG_ENTRIES = old
    have he : (entries.drop old).length = MAX_COMMITLOG_ENTRIES := by
      rw [length_drop]
      omega
    have hi := verifyIntegrity_append_iff timestamp (entries.take old) _ he
    rw [take_append_drop] at hi
    rw [hi, or_iff_right hl]

-- A hundred thousand appends trim the genesis commit.
theorem verifyIntegrity_of_trimmed :
    (ofEntries 0 (List.replicate 100000 ⟨.ProcessExited 1 0, none, 0⟩)).verifyIntegrity = false := by
  have hg : (ofEntries 0 []).lastHash ≠ zeroId := by decide +kernel
  rw [Bool.eq_false_iff]
  intro hv
  exact hg ((verifyIntegrity_append_iff 0 [] _ length_replicate).mp hv)

end CommitLog

end ZeroOS
