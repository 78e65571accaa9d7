import Mathlib.Data.List.Infix
import ZeroOS.Axiom.Integrity

/-!
The window of commits that the log keeps.
-/

namespace ZeroOS

open UInt64

lemma filter_of_numbered (values : List α) (start : Nat)
    (hn : values.map number = List.range' start values.length) (low high : Nat) :
    values.filter (fun value => low ≤ number value && number value < high) =
      (values.take (high - start)).drop (low - start) := by
  induction values generalizing start with
  | nil => simp
  | cons value rest ih =>
    simp only [List.map_cons, List.length_cons, List.range'_succ, List.cons_eq_cons] at hn
    obtain ⟨hf, hr⟩ := hn
    rw [List.filter_cons, ih (start + 1) hr, hf]
    by_cases hh : start < high
    · by_cases hl : low ≤ start
      · rw [if_pos (by simp [hl, hh]), show high - start = (high - (start + 1)) + 1 by omega,
          List.take_succ_cons, show low - start = 0 by omega, show low - (start + 1) = 0 by omega]
        rfl
      · rw [if_neg (by simp [hl]), show high - start = (high - (start + 1)) + 1 by omega,
          List.take_succ_cons, show low - start = (low - (start + 1)) + 1 by omega,
          List.drop_succ_cons]
    · rw [if_neg (by simp [hh]), show high - start = 0 by omega,
        show high - (start + 1) = 0 by omega]
      simp

namespace CommitLog

def getRange (log : CommitLog) (startSeq endSeq : UInt64) : List Commit :=
  log.commits.filter fun commit => commit.seq ≥ startSeq && commit.seq < endSeq

def head (log : CommitLog) : CommitId := log.lastHash

-- What the caller gave for each commit, the genesis first.
def recorded (commits : List Commit) : List LogEntry :=
  commits.map fun commit => ⟨commit.commitType, commit.causedBy, commit.timestamp⟩

structure Window (timestamp : UInt64) (entries : List LogEntry) (log : CommitLog) : Prop where
  length : log.commits.length = min (entries.length + 1) MAX_COMMITLOG_ENTRIES
  recent : recorded log.commits = (⟨.Genesis, none, timestamp⟩ :: entries).drop
    (entries.length + 1 - MAX_COMMITLOG_ENTRIES)
  numbers : log.commits.map (fun commit => commit.seq.toNat) =
    List.range' (entries.length + 1 - log.commits.length) log.commits.length
  currentSeq : log.currentSeq.toNat = entries.length
  linked : log.commits.IsChain fun commit next => next.prevCommit = commit.id
  head : log.commits.getLast?.map Commit.id = some log.head
  range : ∀ low high, log.getRange low high <:+: log.commits ∧
    ∀ commit, commit ∈ log.getRange low high ↔
      commit ∈ log.commits ∧ low ≤ commit.seq ∧ commit.seq < high

structure Numbered (count : Nat) (recordedEntries : List LogEntry) (log : CommitLog) : Prop where
  recorded : recorded log.commits = recordedEntries
  seqs : log.commits.map Commit.seq = (List.range count).map UInt64.ofNat
  nextSeq : log.nextSeq = UInt64.ofNat count

lemma Numbered.extend (h : Numbered count past log) (entry : LogEntry) :
    Numbered (count + 1) (past ++ [entry]) (log.extend entry) where
  recorded := by
    rw [CommitLog.extend, CommitLog.recorded, List.map_append, ← h.recorded]
    rfl
  seqs := by
    rw [CommitLog.extend, List.map_append, h.seqs, List.range_succ, List.map_append]
    simp [linkedCommit, h.nextSeq]
  nextSeq := by
    rw [CommitLog.extend, h.nextSeq, ofNat_add]
    rfl

lemma Numbered.extendAll (h : Numbered count past log) (entries : List LogEntry) :
    Numbered (count + entries.length) (past ++ entries) (log.extendAll entries) := by
  induction entries generalizing count past log with
  | nil =>
    rw [List.append_nil]
    exact h
  | cons entry rest ih =>
    have hr := ih (h.extend entry)
    rw [List.append_assoc, Nat.add_assoc, Nat.add_comm 1] at hr
    exact hr

variable (timestamp : UInt64) (entries : List LogEntry)

lemma numbered_extendAll_new :
    Numbered (entries.length + 1) (⟨.Genesis, none, timestamp⟩ :: entries)
      ((new timestamp).extendAll entries) := by
  have hn : Numbered 1 [⟨.Genesis, none, timestamp⟩] (new timestamp) := ⟨rfl, rfl, rfl⟩
  rw [Nat.add_comm]
  exact hn.extendAll entries

lemma nextSeq_ofEntries : (ofEntries timestamp entries).nextSeq = ofNat (entries.length + 1) :=
  (recent_ofEntries timestamp entries).nextSeq.trans (numbered_extendAll_new timestamp entries).nextSeq

lemma linked_ofEntries :
    ∃ first, Linked first (ofEntries timestamp entries).commits
      (ofEntries timestamp entries).lastHash := by
  by_cases ht : entries.length < MAX_COMMITLOG_ENTRIES
  · exact ⟨zeroId, linked_ofEntries_of_lt timestamp entries ht⟩
  · generalize ho : entries.length - MAX_COMMITLOG_ENTRIES = old
    have he : (entries.drop old).length = MAX_COMMITLOG_ENTRIES := by
      rw [List.length_drop]
      omega
    have hl := linked_ofEntries_append timestamp (entries.take old) _ he
    rw [List.take_append_drop] at hl
    exact ⟨_, hl⟩

lemma getRange_isInfix {log : CommitLog} (hn : log.commits.map (fun commit => commit.seq.toNat) =
    List.range' start log.commits.length) : log.getRange low high <:+: log.commits := by
  have hf := filter_of_numbered log.commits start hn low.toNat high.toNat
  have hr : log.getRange low high = (log.commits.take (high.toNat - start)).drop
      (low.toNat - start) := by
    rw [← hf]
    rfl
  rw [hr]
  exact (List.drop_suffix _ _).isInfix.trans (List.take_prefix _ _).isInfix

-- Until the number of the next commit has wrapped around, the log is a window.
theorem window_ofEntries (hwrap : entries.length + 1 < 2 ^ 64) :
    Window timestamp entries (ofEntries timestamp entries) := by
  have hf := numbered_extendAll_new timestamp entries
  have hr := (recent_ofEntries timestamp entries).commits
  rw [length_extendAll_new] at hr
  have hl : (ofEntries timestamp entries).commits.length =
      min (entries.length + 1) MAX_COMMITLOG_ENTRIES := by
    rw [hr, List.length_drop, length_extendAll_new]
    omega
  obtain ⟨first, hli⟩ := linked_ofEntries timestamp entries
  have hu : (ofEntries timestamp entries).commits.map (fun commit => commit.seq.toNat) =
      List.range' (entries.length + 1 - (ofEntries timestamp entries).commits.length)
        (ofEntries timestamp entries).commits.length := by
    have hall : ((new timestamp).extendAll entries).commits.map (fun commit => commit.seq.toNat) =
        List.range (entries.length + 1) := by
      have hs := congrArg (List.map toNat) hf.seqs
      rw [List.map_map, List.map_map] at hs
      refine hs.trans ((List.map_congr_left ?_).trans (List.map_id _))
      intro i hi
      have ht := List.mem_range.mp hi
      exact toNat_ofNat_of_lt' (Nat.lt_trans ht hwrap)
    have hst : 0 + (entries.length + 1 - MAX_COMMITLOG_ENTRIES) * 1 =
        entries.length + 1 - min (entries.length + 1) MAX_COMMITLOG_ENTRIES := by omega
    have hc : entries.length + 1 - (entries.length + 1 - MAX_COMMITLOG_ENTRIES) =
        min (entries.length + 1) MAX_COMMITLOG_ENTRIES := by omega
    rw [hl, hr, List.map_drop, hall, List.range_eq_range', List.drop_range', hst, hc]
  refine ⟨hl, ?_, hu, ?_, hli.isChain,
    hli.getLast (ofEntries_commits_ne_nil timestamp entries), ?_⟩
  · rw [← hf.recorded, recorded, recorded, hr, List.map_drop]
  · have ho : (1 : UInt64).toNat = 1 := rfl
    have hn := congrArg toNat (nextSeq_ofEntries timestamp entries)
    rw [toNat_ofNat', Nat.mod_eq_of_lt hwrap] at hn
    have hp : (ofEntries timestamp entries).nextSeq ≠ 0 := by
      intro hz
      rw [hz] at hn
      cases hn
    rw [currentSeq, if_neg hp, UInt64.toNat_sub_of_le, hn, ho, Nat.add_sub_cancel]
    rw [le_iff_toNat_le, hn, ho]
    exact Nat.le_add_left ..
  · intro low high
    refine ⟨getRange_isInfix hu, ?_⟩
    simp [getRange]

theorem window_ofEntries_full :
    Window 7 (List.replicate 200000 ⟨.CapRemoved 1 0, none, 9⟩)
      (ofEntries 7 (List.replicate 200000 ⟨.CapRemoved 1 0, none, 9⟩)) :=
  window_ofEntries 7 _ (by rw [List.length_replicate]; decide)

-- After as many appends as a sequence number can count, the next number is zero again, and so is
-- the current one.
theorem currentSeq_wrapped :
    (ofEntries 0 (List.replicate (2 ^ 64 - 1) ⟨.CapRemoved 1 0, none, 0⟩)).currentSeq.toNat ≠
      2 ^ 64 - 1 := by
  have hn := nextSeq_ofEntries 0 (List.replicate (2 ^ 64 - 1) ⟨.CapRemoved 1 0, none, 0⟩)
  rw [List.length_replicate] at hn
  rw [currentSeq, hn]
  decide

end CommitLog

end ZeroOS
