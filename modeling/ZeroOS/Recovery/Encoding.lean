import ZeroOS.Lib.Encoding
import ZeroOS.Kernel.Replay

/-!
What is hashed: the bytes of a commit tell its contents, and those of a state its tables.
-/

namespace ZeroOS

lemma Permissions.toByte_inj {first second : Permissions} :
    first.toByte = second.toByte ↔ first = second := by
  refine ⟨fun h => ?_, congrArg toByte⟩
  rw [← first.fromByte_toByte, h, fromByte_toByte]

lemma ofNat_inj_of_lt (hm : m < 2 ^ 64) (hn : n < 2 ^ 64) :
    UInt64.ofNat m = UInt64.ofNat n ↔ m = n := by
  rw [← UInt64.toNat_inj, UInt64.toNat_ofNat', UInt64.toNat_ofNat', Nat.mod_eq_of_lt hm,
    Nat.mod_eq_of_lt hn]

namespace System

open Encoding

-- What `stateHash` writes for one entry of each table, and for all of them.

def countBytes (count : Nat) : List UInt8 := (leBytes64 (UInt64.ofNat count)).toList

def countedBytes {α : Type} (encode : α → List UInt8) (entries : List α) : List UInt8 :=
  countBytes entries.length ++ entries.flatMap encode

def processBytes (entry : ProcessId × String × ProcessState) : List UInt8 :=
  (leBytes64 entry.1).toList ++
    (countedBytes (fun byte => [byte]) (utf8Bytes entry.2.1) ++ [processStateToU8 entry.2.2])

def capBytes (entry : CapSlot × Capability) : List UInt8 :=
  (leBytes32 entry.1).toList ++ ((leBytes64 entry.2.id).toList ++ ([entry.2.objectType.toU8] ++
    ((leBytes64 entry.2.objectId).toList ++ ([entry.2.permissions.toByte] ++
      ((leBytes32 entry.2.generation).toList ++ (leBytes64 entry.2.expiresAt).toList)))))

def spaceBytes (entry : ProcessId × List (CapSlot × Capability)) : List UInt8 :=
  (leBytes64 entry.1).toList ++ countedBytes capBytes entry.2

def endpointBytes (entry : EndpointId × ProcessId) : List UInt8 :=
  (leBytes64 entry.1).toList ++ (leBytes64 entry.2).toList

variable (system : System)

def processTable : BTreeMap ProcessId (String × ProcessState) :=
  system.kernel.processes.map fun _ process => (process.name, process.state)

def capTable : BTreeMap ProcessId (BTreeMap CapSlot Capability) :=
  system.kernel.capSpaces.map fun _ cspace => cspace.slots

def endpointTable : BTreeMap EndpointId ProcessId :=
  system.kernel.endpoints.map fun _ endpoint => endpoint.owner

def stateBytes : List UInt8 :=
  countedBytes processBytes system.processTable.toList ++
    (countedBytes spaceBytes (system.capTable.toList.map fun (pid, slots) => (pid, slots.toList)) ++
      countedBytes endpointBytes system.endpointTable.toList)

-- Numbers of entries and lengths of names as a `usize` has them.
structure Counts : Prop where
  processes : system.processTable.toList.length < 2 ^ 64
  names : ∀ entry ∈ system.processTable.toList, (utf8Bytes entry.2.1).length < 2 ^ 64
  capSpaces : system.capTable.toList.length < 2 ^ 64
  slots : ∀ entry ∈ system.capTable.toList, entry.2.toList.length < 2 ^ 64
  endpoints : system.endpointTable.toList.length < 2 ^ 64

section Writes

variable (hasher : StateHasher)

lemma writeEach_append :
    hasher.writeEach (first ++ second) = (hasher.writeEach first).writeEach second :=
  List.foldl_append

lemma foldl_write {encode : α → List UInt8}
    (hw : ∀ hasher entry, write hasher entry = hasher.writeEach (encode entry))
    {entries : List α} {hasher : StateHasher} :
    entries.foldl write hasher = hasher.writeEach (entries.flatMap encode) := by
  induction entries generalizing hasher with
  | nil => rfl
  | cons entry rest ih => rw [List.foldl_cons, ih, hw, List.flatMap_cons, writeEach_append]

lemma finalize_writeEach :
    (hasher.writeEach bytes).finalize = Fnv.expand (Fnv.writeAll hasher.hash bytes) := by
  induction bytes generalizing hasher with
  | nil => rfl
  | cons byte rest ih => exact ih (hasher.writeU8 byte)

lemma hashProcess_eq :
    hashProcess hasher entry =
      hasher.writeEach (processBytes (entry.1, entry.2.name, entry.2.state)) := by
  simp only [processBytes, countedBytes, writeEach_append, List.flatMap_singleton']
  rfl

lemma hashCap_eq : hashCap hasher entry = hasher.writeEach (capBytes entry) := by
  simp only [capBytes, writeEach_append]
  rfl

lemma hashCapSpace_eq :
    hashCapSpace hasher entry = hasher.writeEach (spaceBytes (entry.1, entry.2.slots.toList)) := by
  rw [hashCapSpace, foldl_write hashCap_eq, ← Std.ExtTreeMap.length_toList]
  simp only [spaceBytes, countedBytes, writeEach_append]
  rfl

lemma hashEndpoint_eq :
    hashEndpoint hasher entry = hasher.writeEach (endpointBytes (entry.1, entry.2.owner)) := by
  rw [endpointBytes, writeEach_append]
  rfl

lemma stateHash_eq : system.stateHash = Fnv.expand (Fnv.writeAll Fnv.OFFSET system.stateBytes) := by
  rw [← finalize_writeEach ⟨Fnv.OFFSET⟩, stateBytes]
  simp only [countedBytes, writeEach_append, processTable, capTable, endpointTable,
    Std.ExtTreeMap.toList_map, List.map_map, List.length_map, List.flatMap_map,
    Std.ExtTreeMap.length_toList, stateHash, foldl_write hashProcess_eq,
    foldl_write hashCapSpace_eq, foldl_write hashEndpoint_eq]
  rfl

end Writes

section Reads

lemma delimited_count : Delimited (· < 2 ^ 64) countBytes := by
  intro first second rest rest' hf hs h
  rwa [countBytes, countBytes, toList_append_inj, leBytes64_inj, ofNat_inj_of_lt hf hs] at h

lemma delimited_word : Delimited (fun _ => True) fun word => (leBytes64 word).toList :=
  delimited_of_width 8 (fun _ _ h => leBytes64_inj.mp (Vector.toList_inj.mp h)) fun _ =>
    Vector.length_toList ..

lemma delimited_byte : Delimited (fun _ => True) fun byte : UInt8 => [byte] :=
  delimited_of_width 1 (fun _ _ h => List.head_eq_of_cons_eq h) fun _ => rfl

lemma delimited_process : Delimited (fun entry => (utf8Bytes entry.2.1).length < 2 ^ 64)
    processBytes := by
  have hs : Function.Injective processStateToU8 := by
    intro first second h
    cases first <;> cases second <;> first | rfl | cases h
  have hn := (delimited_count.counted delimited_byte).via fun _ _ => utf8Bytes_inj.mp
  intro first second rest rest' hf he h
  refine delimited_word.pair (hn.pair (delimited_byte.via hs)) first second rest rest' ?_ ?_ h
  · simpa using hf
  · simpa using he

lemma delimited_cap : Delimited (fun _ => True) capBytes := by
  refine delimited_of_width 34 ?_ ?_
  · rintro ⟨slot, id, objectType, objectId, permissions, generation, expiresAt⟩ ⟨slot', cap⟩ h
    have ht : Function.Injective ObjectType.toU8 := by
      intro first second h
      rw [← Option.some_inj, ← first.fromU8_toU8, h, ObjectType.fromU8_toU8]
    simp only [capBytes, toList_append_inj, leBytes32_inj, leBytes64_inj, List.singleton_append,
      List.cons_eq_cons, ht.eq_iff, Permissions.toByte_inj, Vector.toList_inj] at h
    simp [h]
  · intro entry
    simp [capBytes]

lemma delimited_space : Delimited (fun entry => entry.2.length < 2 ^ 64) spaceBytes := by
  intro first second rest rest' hf hs h
  refine delimited_word.pair (delimited_count.counted delimited_cap) first second rest rest' ?_ ?_ h
  · simpa using hf
  · simpa using hs

lemma delimited_endpoint : Delimited (fun _ => True) endpointBytes := by
  intro first second rest rest' _ _ h
  exact (delimited_word.pair delimited_word) first second rest rest' ⟨trivial, trivial⟩
    ⟨trivial, trivial⟩ h

lemma toList_pair_injective :
    Function.Injective fun entry : ProcessId × BTreeMap CapSlot Capability =>
      (entry.1, entry.2.toList) := by
  rintro ⟨pid, slots⟩ ⟨pid', slots'⟩ h
  obtain ⟨rfl, hs⟩ := Prod.mk.inj h
  exact congrArg (Prod.mk pid) (Std.ExtTreeMap.toList_inj.mp hs)

theorem stateBytes_determines {first second : System} (hfirst : first.Counts)
    (hsecond : second.Counts) :
    first.stateHash = Fnv.expand (Fnv.writeAll Fnv.OFFSET first.stateBytes) ∧
      (first.stateBytes = second.stateBytes →
        first.processTable = second.processTable ∧ first.capTable = second.capTable ∧
          first.endpointTable = second.endpointTable) := by
  refine ⟨first.stateHash_eq, fun h => ?_⟩
  have hs {system : System} (hc : system.Counts) : ∀ entry ∈
      system.capTable.toList.map (fun (pid, slots) => (pid, slots.toList)),
      entry.2.length < 2 ^ 64 := by
    intro entry hm
    obtain ⟨space, hcs, rfl⟩ := List.mem_map.mp hm
    exact hc.slots space hcs
  obtain ⟨hp, hb⟩ := delimited_count.counted delimited_process _ _ _ _
    ⟨hfirst.processes, hfirst.names⟩ ⟨hsecond.processes, hsecond.names⟩ h
  obtain ⟨hcss, hl⟩ := delimited_count.counted delimited_space _ _ _ _
    ⟨by simpa using hfirst.capSpaces, hs hfirst⟩
    ⟨by simpa using hsecond.capSpaces, hs hsecond⟩ hb
  obtain ⟨he, -⟩ := delimited_count.counted delimited_endpoint _ _ [] []
    ⟨hfirst.endpoints, fun _ _ => trivial⟩ ⟨hsecond.endpoints, fun _ _ => trivial⟩
    (congrArg (· ++ []) hl)
  exact ⟨Std.ExtTreeMap.toList_inj.mp hp, Std.ExtTreeMap.toList_inj.mp
    (List.map_injective_iff.mpr toList_pair_injective hcss), Std.ExtTreeMap.toList_inj.mp he⟩

-- Two processes, an endpoint of the first and a capability for it that the second was given. The
-- tables do not tell when all this was done.
def shared (now : UInt64) : System :=
  let hal := Hal.unsupported now
  let system := (newForReplay.registerProcess hal "init").1
  let system := (system.registerProcess hal "app").1
  let system := (system.createEndpoint hal 1).1
  (system.grantCapability hal 1 0 2 Permissions.readOnly).1

lemma shared_counts (hn : now = 0 ∨ now = 5) : (shared now).Counts := by
  obtain rfl | rfl := hn
  · exact ⟨by decide +kernel, by decide +kernel, by decide +kernel, by decide +kernel,
      by decide +kernel⟩
  · exact ⟨by decide +kernel, by decide +kernel, by decide +kernel, by decide +kernel,
      by decide +kernel⟩

theorem stateBytes_determines_shared :
    (shared 0).processTable.size = 2 ∧ (shared 0).endpointTable.size = 1 ∧
      (shared 0).capTable.toList.map (fun (pid, slots) => (pid, slots.size)) = [(1, 1), (2, 1)] ∧
      (shared 0).processTable = (shared 5).processTable ∧
      (shared 0).capTable = (shared 5).capTable ∧
      (shared 0).endpointTable = (shared 5).endpointTable := by
  have hd := stateBytes_determines (shared_counts (.inl rfl)) (shared_counts (.inr rfl))
  exact ⟨by decide +kernel, by decide +kernel, by decide +kernel, hd.2 (by decide +kernel)⟩

end Reads

end System

end ZeroOS
