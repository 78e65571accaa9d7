import ZeroOS.Lib.Bytes
import ZeroOS.Lib.Memory

/-!
The host functions of the x86_64 kernel that reach into the memory of a process
(`zos-hal/src/x86_64/wasm/host.rs`).
-/

namespace ZeroOS.WasmHost

-- The addresses of a process have 32 bits.
structure LinearMemory where
  size : Nat
  size_le : size ≤ 2 ^ 32
  cells : Nat → UInt8

-- `memory` is what the process exports under that name.
structure Caller where
  memory : Option LinearMemory
  syscallInBuffer : List UInt8
  syscallOutBuffer : List UInt8

-- A slice whose start lies behind its end, or a heap without room.
inductive HostPanic where
  | SliceOrder
  | OutOfMemory

-- What a call asks the heap of the kernel for: a copy of some bytes, the growth of the buffer for
-- the next syscall to some bytes, and the text of a refusal.
inductive Allocation where
  | Copy (len : Nat)
  | Buffer (len : Nat)
  | Text

-- What the heap can serve at the time of a call. No bytes need no block.
structure Heap where
  serves : Allocation → Bool
  serves_copy : serves (.Copy 0) = true
  serves_buffer : serves (.Buffer 0) = true

def Heap.allocate (heap : Heap) (allocation : Allocation) (next : Except HostPanic α) :
    Except HostPanic α :=
  if heap.serves allocation then next else .error .OutOfMemory

-- A range is refused when its end lies behind the memory.
def withSlice (memory : LinearMemory) (start len : UInt64) (refused : Except HostPanic α)
    (use : Nat → Except HostPanic α) : Except HostPanic α :=
  let stop := start + len
  if stop.toNat > memory.size then refused
  else if start > stop then .error .SliceOrder
  else use start.toNat

lemma Heap.map_allocate {heap : Heap} {f : α → β} :
    (heap.allocate allocation result).map f = heap.allocate allocation (result.map f) := by
  unfold Heap.allocate
  split_ifs <;> rfl

namespace Caller

-- `random` is what the processor fills a buffer with, if it does not fail.
variable (heap : Heap) (random : Option (Nat → UInt8)) (caller : Caller)

def copyFrom (memory : LinearMemory) (bytes : List UInt8) (start : Nat) : Caller :=
  { caller with memory := some { memory with cells := Memory.write memory.cells start bytes } }

def zosSendBytes (ptr len : UInt32) : Except HostPanic Caller :=
  match caller.memory with
  | none => .ok caller
  | some memory =>
    withSlice memory ptr.toUInt64 len.toUInt64 (heap.allocate .Text (.ok caller)) fun start =>
      heap.allocate (.Copy len.toNat) <| heap.allocate (.Buffer len.toNat) <|
        .ok { caller with syscallInBuffer := Memory.read memory.cells start len.toNat }

def zosRecvBytes (ptr maxLen : UInt32) : Except HostPanic (Caller × UInt32) :=
  heap.allocate (.Copy caller.syscallOutBuffer.length) <|
    let copyLen := min caller.syscallOutBuffer.length maxLen.toNat
    if copyLen = 0 then .ok (caller, 0)
    else
      match caller.memory with
      | none => .ok (caller, 0)
      | some memory =>
        withSlice memory ptr.toUInt64 (UInt64.ofNat copyLen)
          (heap.allocate .Text (.ok (caller, 0))) fun start =>
            .ok (caller.copyFrom memory (caller.syscallOutBuffer.take copyLen) start,
              UInt32.ofNat copyLen)

-- The pointer is extended with its sign, and the bytes are there before the range is looked at.
def fillRandomIntoWasm (ptr len : Int32) : Except HostPanic Caller :=
  if len ≤ 0 then .ok caller
  else
    match caller.memory with
    | none => .ok caller
    | some memory =>
      let len := len.toInt64.toUInt64
      heap.allocate (.Copy len.toNat) <|
        match random with
        | none => .ok caller
        | some bytes =>
          withSlice memory ptr.toInt64.toUInt64 len (.ok caller) fun start =>
            .ok (caller.copyFrom memory (Memory.read bytes 0 len.toNat) start)

def wbgGetRandomValues (_obj ptr len : Int32) : Except HostPanic Caller :=
  caller.fillRandomIntoWasm heap random ptr len

-- What a call may do whose range are the `len` bytes at `ptr`.
structure Contained (after : Caller) (ptr len : Nat) : Prop where
  size : after.memory.map (·.size) = caller.memory.map (·.size)
  outside : ∀ i, i < ptr ∨ ptr + len ≤ i →
    after.memory.map (·.cells i) = caller.memory.map (·.cells i)
  reads : after.syscallInBuffer = caller.syscallInBuffer ∨ ∃ memory, caller.memory = some memory ∧
    after.syscallInBuffer = Memory.read memory.cells ptr len
  unfit : (∀ memory, caller.memory = some memory → memory.size < ptr + len) → after = caller

def Safe (result : Except HostPanic Caller) (ptr len : Nat) : Prop :=
  ∃ after, result = .ok after ∧ caller.Contained after ptr len

-- The heap serves a call of `zos_send_bytes`.
def SendServed (ptr len : Nat) : Prop :=
  ∀ memory, caller.memory = some memory →
    if memory.size < ptr + len then heap.serves .Text
    else heap.serves (.Copy len) ∧ heap.serves (.Buffer len)

-- The heap serves a call of `zos_recv_bytes`, which copies what is there to be received.
def RecvServed (ptr maxLen : Nat) : Prop :=
  let copyLen := min caller.syscallOutBuffer.length maxLen
  heap.serves (.Copy caller.syscallOutBuffer.length) ∧
    ∀ memory, caller.memory = some memory → 0 < copyLen → memory.size < ptr + copyLen →
      heap.serves .Text

-- The heap serves a random fill, which needs room for as many bytes as it is asked for.
def FillServed (len : Nat) : Prop :=
  caller.memory.isSome → len < 2 ^ 31 → heap.serves (.Copy len)

-- What is received fits while the range does not, and is not there already.
def Overreaches (ptr maxLen : Nat) : Prop :=
  let copyLen := min caller.syscallOutBuffer.length maxLen
  ∃ memory, caller.memory = some memory ∧ memory.size < ptr + maxLen ∧ ptr + copyLen ≤ memory.size ∧
    caller.copyFrom memory (caller.syscallOutBuffer.take copyLen) ptr ≠ caller

-- The end of the range has wrapped into the memory.
def FillWraps (ptr len : Nat) : Prop :=
  random.isSome ∧ len < 2 ^ 31 ∧ 2 ^ 32 ≤ ptr + len ∧
    ∃ memory, caller.memory = some memory ∧ ptr + len ≤ 2 ^ 32 + memory.size

variable {memory : LinearMemory} {caller}

lemma copyFrom_nil (hm : caller.memory = some memory) :
    caller.copyFrom memory [] start = caller := by
  have hw : Memory.write memory.cells start [] = memory.cells :=
    funext fun place => Memory.write_outside _ (by rw [List.length_nil]; omega)
  rw [copyFrom, hw, ← hm]

lemma safe_allocate_iff :
    caller.Safe (heap.allocate allocation result) ptr len ↔
      heap.serves allocation ∧ caller.Safe result ptr len := by
  unfold Heap.allocate
  by_cases hs : heap.serves allocation = true
  · rw [if_pos hs]
    exact (and_iff_right hs).symm
  · rw [if_neg hs]
    exact iff_of_false (by rintro ⟨_, ⟨⟩, -⟩) fun h => hs h.1

lemma safe_refused : Safe caller (.ok caller) ptr len :=
  ⟨caller, rfl, rfl, fun _ _ => rfl, .inl rfl, fun _ => rfl⟩

lemma safe_copy_iff (hm : caller.memory = some memory) (hb : bytes.length ≤ len) :
    caller.Safe (.ok (caller.copyFrom memory bytes ptr)) ptr len ↔
      (memory.size < ptr + len → caller.copyFrom memory bytes ptr = caller) := by
  constructor
  · rintro ⟨_, ⟨⟩, h⟩ hl
    refine h.unfit fun other ho => ?_
    rwa [← Option.some.inj (hm.symm.trans ho)]
  · intro h
    refine ⟨_, rfl, ?_, ?_, .inl rfl, fun hl => h (hl memory hm)⟩
    · rw [hm]
      rfl
    · intro i hi
      rw [hm]
      exact congrArg some (Memory.write_outside _ (by omega))

end Caller

lemma withSlice_eq :
    withSlice memory start len refused use =
      if memory.size < (start.toNat + len.toNat) % 2 ^ 64 then refused
      else if 2 ^ 64 ≤ start.toNat + len.toNat then .error .SliceOrder
      else use start.toNat := by
  have hs := start.toNat_lt
  have hl := len.toNat_lt
  have hw : start > start + len ↔ 2 ^ 64 ≤ start.toNat + len.toNat := by
    rw [gt_iff_lt, UInt64.lt_iff_toNat_lt, UInt64.toNat_add]
    omega
  simp only [withSlice, UInt64.toNat_add, gt_iff_lt] at hw ⊢
  simp only [hw]

lemma withSlice_unsigned {ptr : UInt32} (hn : n < 2 ^ 32) :
    withSlice memory ptr.toUInt64 (UInt64.ofNat n) refused use =
      if memory.size < ptr.toNat + n then refused else use ptr.toNat := by
  have hp := ptr.toNat_lt
  have hw : (UInt64.ofNat n).toNat = n := UInt64.toNat_ofNat_of_lt' (Nat.lt_trans hn (by decide))
  have hf : ptr.toNat + n < 2 ^ 64 := by omega
  rw [withSlice_eq, hw, UInt32.toNat_toUInt64, Nat.mod_eq_of_lt hf, if_neg (Nat.not_le.mpr hf)]

lemma nonpos_iff (x : Int32) : x ≤ 0 ↔ x.toUInt32.toNat = 0 ∨ 2 ^ 31 ≤ x.toUInt32.toNat := by
  have hx := x.toUInt32.toNat_lt
  have hi : x.toInt = _ := BitVec.toInt_eq_toNat_cond x.toBitVec
  rw [Int32.le_iff_toInt_le, hi, show x.toBitVec.toNat = x.toUInt32.toNat from rfl]
  simp
  split <;> omega

namespace Caller

lemma safe_send_iff (heap : Heap) (caller : Caller) :
    caller.Safe (caller.zosSendBytes heap ptr len) ptr.toNat len.toNat ↔
      caller.SendServed heap ptr.toNat len.toNat := by
  have hw : len.toUInt64 = .ofNat len.toNat := by simp
  unfold zosSendBytes SendServed
  cases hm : caller.memory with
  | none => exact iff_of_true safe_refused nofun
  | some memory =>
    dsimp only
    simp only [Option.some.injEq, forall_eq']
    rw [hw, withSlice_unsigned len.toNat_lt]
    by_cases hf : memory.size < ptr.toNat + len.toNat
    · rw [if_pos hf, if_pos hf, safe_allocate_iff]
      exact and_iff_left safe_refused
    · rw [if_neg hf, if_neg hf, safe_allocate_iff, safe_allocate_iff, ← and_assoc, ← hm]
      exact and_iff_left
        ⟨_, rfl, rfl, fun _ _ => rfl, .inr ⟨memory, hm, rfl⟩, fun hu => absurd (hu _ hm) hf⟩

lemma safe_recv_iff (heap : Heap) (caller : Caller) :
    caller.Safe ((caller.zosRecvBytes heap ptr maxLen).map Prod.fst) ptr.toNat maxLen.toNat ↔
      caller.RecvServed heap ptr.toNat maxLen.toNat ∧
        ¬ caller.Overreaches ptr.toNat maxLen.toNat := by
  have hl := maxLen.toNat_lt
  unfold zosRecvBytes RecvServed Overreaches
  dsimp only
  rw [Heap.map_allocate, safe_allocate_iff, and_assoc]
  refine and_congr_right fun _ => ?_
  generalize hn : min caller.syscallOutBuffer.length maxLen.toNat = n
  cases hm : caller.memory with
  | none =>
    rw [ite_self]
    exact iff_of_true safe_refused (by simp)
  | some memory =>
    simp only [Option.some.injEq, forall_eq', exists_eq_left']
    by_cases hz : n = 0
    · subst hz
      exact iff_of_true safe_refused (by simp [copyFrom_nil hm])
    · rw [if_neg hz, withSlice_unsigned (by omega)]
      by_cases hu : memory.size < ptr.toNat + n
      · rw [if_pos hu, Heap.map_allocate, safe_allocate_iff]
        constructor
        · rintro ⟨hs, -⟩
          exact ⟨fun _ _ => hs, fun h => absurd h.2.1 (Nat.not_le_of_lt hu)⟩
        · rintro ⟨hs, -⟩
          exact ⟨hs (Nat.pos_of_ne_zero hz) hu, safe_refused⟩
      · have hb : (caller.syscallOutBuffer.take n).length ≤ maxLen.toNat := by
          rw [List.length_take]
          omega
        rw [if_neg hu]
        refine (safe_copy_iff hm hb).trans ?_
        constructor
        · intro h
          exact ⟨fun _ hx => absurd hx hu, fun ho => ho.2.2 (h ho.1)⟩
        · rintro ⟨-, h⟩ hx
          by_contra hne
          exact h ⟨hx, Nat.le_of_not_lt hu, hne⟩

lemma safe_fill_iff (heap : Heap) (random) (caller : Caller) :
    caller.Safe (caller.fillRandomIntoWasm heap random ptr len) ptr.toUInt32.toNat
        len.toUInt32.toNat ↔
      caller.FillServed heap len.toUInt32.toNat ∧
        ¬ caller.FillWraps random ptr.toUInt32.toNat len.toUInt32.toNat := by
  have hp := ptr.toUInt32.toNat_lt
  have hs := toNat_toInt64 ptr
  unfold fillRandomIntoWasm FillServed FillWraps
  split
  case isTrue hn =>
    rw [nonpos_iff] at hn
    refine iff_of_true safe_refused ⟨fun _ hl => ?_, ?_⟩
    · rw [hn.resolve_right (Nat.not_le_of_lt hl)]
      exact heap.serves_copy
    · rintro ⟨-, hl, hw, -⟩
      omega
  case isFalse hn =>
    rw [nonpos_iff] at hn
    have hl := toNat_toInt64 len
    rw [if_neg (by omega), Nat.add_zero] at hl
    cases hm : caller.memory with
    | none => exact iff_of_true safe_refused (by simp)
    | some memory =>
      have hb := memory.size_le
      have ht : len.toUInt32.toNat < 2 ^ 31 := by omega
      dsimp only
      simp only [Option.isSome_some, Option.some.injEq, exists_eq_left', forall_const, ht, true_and]
      rw [safe_allocate_iff, hl]
      refine and_congr_right fun _ => ?_
      cases random with
      | none => exact iff_of_true safe_refused (by simp)
      | some bytes =>
        dsimp only
        simp only [Option.isSome_some, true_and]
        rw [withSlice_eq, hl]
        split_ifs with hu hw
        · refine iff_of_true safe_refused ?_
          rintro ⟨hg, hf⟩
          split at hs <;> omega
        · refine iff_of_false (by rintro ⟨_, ⟨⟩, -⟩) (not_not_intro ?_)
          split at hs <;> exact ⟨by omega, by omega⟩
        · have ht : ¬ 2 ^ 31 ≤ ptr.toUInt32.toNat := by
            split at hs <;> omega
          rw [if_neg ht, Nat.add_zero] at hs
          rw [hs] at hu ⊢
          refine iff_of_true ((safe_copy_iff hm (by simp)).mpr fun hx => ?_) ?_
          · omega
          · rintro ⟨hg, -⟩
            omega

end Caller

theorem host_calls_safe_iff (heap : Heap) (random : Option (Nat → UInt8)) (caller : Caller)
    (ptr len : UInt32) (obj sptr slen : Int32) :
    (caller.Safe (caller.zosSendBytes heap ptr len) ptr.toNat len.toNat ↔
      caller.SendServed heap ptr.toNat len.toNat) ∧
    (caller.Safe ((caller.zosRecvBytes heap ptr len).map Prod.fst) ptr.toNat len.toNat ↔
      caller.RecvServed heap ptr.toNat len.toNat ∧ ¬ caller.Overreaches ptr.toNat len.toNat) ∧
    (caller.Safe (caller.fillRandomIntoWasm heap random sptr slen) sptr.toUInt32.toNat
        slen.toUInt32.toNat ↔
      caller.FillServed heap slen.toUInt32.toNat ∧
        ¬ caller.FillWraps random sptr.toUInt32.toNat slen.toUInt32.toNat) ∧
    caller.wbgGetRandomValues heap random obj sptr slen =
      caller.fillRandomIntoWasm heap random sptr slen :=
  ⟨caller.safe_send_iff heap, caller.safe_recv_iff heap, caller.safe_fill_iff .., rfl⟩

-- The heap of the kernel when nothing is in use.
def HEAP_SIZE : Nat := 48 * 1024 * 1024

def freshHeap : Heap where
  serves
    | .Copy len | .Buffer len => len ≤ HEAP_SIZE
    | .Text => true
  serves_copy := rfl
  serves_buffer := rfl

-- Two bytes from the last address on, and a length that no heap has room for.
theorem random_fill_panics :
    Caller.fillRandomIntoWasm freshHeap (some fun _ => 0)
        ⟨some ⟨65536, by decide, fun _ => 7⟩, [], []⟩ (-1) 2 = .error .SliceOrder ∧
      Caller.fillRandomIntoWasm freshHeap (some fun _ => 0)
        ⟨some ⟨65536, by decide, fun _ => 7⟩, [], []⟩ 0 0x7fffffff = .error .OutOfMemory :=
  ⟨rfl, rfl⟩

end ZeroOS.WasmHost
