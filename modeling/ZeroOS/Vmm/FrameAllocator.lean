import Mathlib.Algebra.Ring.Nat
import ZeroOS.Lib.Bitmap

/-!
The physical frame allocator of the x86_64 kernel (`vmm/frame_allocator.rs`).
-/

namespace ZeroOS

def pageSize : UInt64 := 4096

def maxFrames : Nat := 1024 * 1024 / 4

-- The panic of `PhysAddr::new` on an address that it does not take, which stops the kernel.
inductive Panic where
  | PhysAddrNotValid (addr : UInt64)
deriving DecidableEq

-- What the allocator uses of the `x86_64` crate: physical addresses and frames of 4096 bytes.
structure X86 where
  PhysAddr : Type
  PhysFrame : Type
  newAddr : UInt64 → Except Panic PhysAddr
  containingAddress : PhysAddr → PhysFrame
  startAddress : PhysFrame → UInt64

-- What is assumed of it: addresses below a limit are taken and all others panic, and the frame of
-- an address begins at the page boundary at or below it.
structure X86.Lawful (x86 : X86) (limit : Nat) : Prop where
  new_below : ∀ addr : UInt64, addr.toNat < limit → ∃ physAddr, x86.newAddr addr = .ok physAddr ∧
    (x86.startAddress (x86.containingAddress physAddr)).toNat = addr.toNat / 4096 * 4096
  new_above : ∀ addr : UInt64, limit ≤ addr.toNat → ∃ panic, x86.newAddr addr = .error panic

lemma alignDown_toNat : (addr &&& ~~~(pageSize - 1)).toNat = addr.toNat / 4096 * 4096 := by
  have hm : addr &&& ~~~(pageSize - 1) = (addr >>> 12) <<< 12 := by
    apply UInt64.toBitVec_inj.mp
    apply BitVec.eq_of_getLsbD_eq
    intro i hi
    have ho : (pageSize - 1).toBitVec.getLsbD i = decide (i < 12) := by
      revert i
      decide
    simp only [UInt64.toBitVec_and, UInt64.toBitVec_not, BitVec.getLsbD_and, BitVec.getLsbD_not, ho]
    by_cases hl : i < 12
    · simp [hl]
    · have hb : 12 + (i - 12) = i := by omega
      simp [hl, hi, hb]
  rw [hm, UInt64.toNat_shiftLeft, UInt64.toNat_shiftRight]
  have hbo : addr.toNat / 4096 * 4096 < 2 ^ 64 :=
    Nat.lt_of_le_of_lt (Nat.div_mul_le_self _ _) addr.toNat_lt
  simp only [Nat.shiftLeft_eq, Nat.shiftRight_eq_div_pow]
  exact Nat.mod_eq_of_lt hbo

structure FrameAllocator where
  bitmap : List UInt64
  baseAddr : UInt64
  totalFrames : Nat
  freeFrames : Nat
  nextFrame : Nat

def saturatingSub (a b : UInt64) : UInt64 := if a < b then 0 else a - b

namespace FrameAllocator

def new : FrameAllocator :=
  { bitmap := [], baseAddr := 0, totalFrames := 0, freeFrames := 0, nextFrame := 0 }

section

variable (allocator : FrameAllocator) (start size : UInt64)

-- The body of the loop of `add_region`.
def markFree (frameIdx : Nat) : FrameAllocator :=
  let wordIdx := frameIdx / 64
  let bitIdx := frameIdx % 64
  if wordIdx < allocator.bitmap.length then
    if Bitmap.test allocator.bitmap wordIdx bitIdx = false then
      { allocator with
        bitmap := Bitmap.set allocator.bitmap wordIdx bitIdx
        totalFrames := allocator.totalFrames + 1
        freeFrames := allocator.freeFrames + 1 }
    else allocator
  else allocator

-- Very low memory (below 1 MiB) is skipped.
def safeStart : UInt64 := if start < 0x100000 then 0x100000 else start

def safeSize : UInt64 :=
  if start < 0x100000 then saturatingSub size (0x100000 - start) else size

-- The start of a region, up to the next page boundary.
def alignedStart : UInt64 := (safeStart start + pageSize - 1) &&& ~~~(pageSize - 1)

def numFrames : Nat :=
  (saturatingSub (safeSize start size) (alignedStart start - safeStart start) / pageSize).toNat

def place : FrameAllocator :=
  if allocator.bitmap.isEmpty then
    { allocator with
      baseAddr := alignedStart start
      bitmap := List.replicate ((maxFrames + 63) / 64) 0 }
  else allocator

def addRegion : FrameAllocator :=
  if safeSize start size = 0 then allocator
  else if numFrames start size = 0 then allocator
  else
    let allocator := allocator.place start
    -- A region below the base would need the bitmap to be re-based.
    if alignedStart start < allocator.baseAddr then allocator
    else
      let startFrame := ((alignedStart start - allocator.baseAddr) / pageSize).toNat
      let endFrame := min (startFrame + numFrames start size) maxFrames
      if startFrame ≥ maxFrames then allocator
      else (List.range' startFrame (endFrame - startFrame)).foldl markFree allocator

variable (x86 : X86)

def frameAt (frameIdx : Nat) : Except Panic x86.PhysFrame :=
  (x86.newAddr (allocator.baseAddr + UInt64.ofNat frameIdx * pageSize)).map
    x86.containingAddress

-- The body of the loops of `allocate_frame` at a word that is not zero.
def takeLowest (wordIdx : Nat) : Except Panic (FrameAllocator × Option x86.PhysFrame) :=
  let bitIdx := Bitmap.trailingZeros (allocator.bitmap.getD wordIdx 0)
  let frameIdx := wordIdx * 64 + bitIdx
  let taken : FrameAllocator :=
    { allocator with
      bitmap := Bitmap.clear allocator.bitmap wordIdx bitIdx
      freeFrames := allocator.freeFrames - 1
      nextFrame := frameIdx + 1 }
  (allocator.frameAt x86 frameIdx).map (fun frame => (taken, some frame))

def allocateFrame : Except Panic (FrameAllocator × Option x86.PhysFrame) :=
  if allocator.freeFrames = 0 then .ok (allocator, none)
  else
    let startWord := allocator.nextFrame / 64
    let hasFree := fun wordIdx => allocator.bitmap.getD wordIdx 0 != 0
    -- From the word of next_frame to the end, then from the beginning up to it.
    match (List.range' startWord (allocator.bitmap.length - startWord)).find? hasFree with
    | some wordIdx => allocator.takeLowest x86 wordIdx
    | none =>
      match (List.range' 0 startWord).find? hasFree with
      | some wordIdx => allocator.takeLowest x86 wordIdx
      | none => .ok (allocator, none)

-- The body of `free_frame` and of the loop of `free_contiguous`.
def release (frameIdx : Nat) : FrameAllocator :=
  let wordIdx := frameIdx / 64
  let bitIdx := frameIdx % 64
  if wordIdx < allocator.bitmap.length ∧ Bitmap.test allocator.bitmap wordIdx bitIdx = false then
    { allocator with
      bitmap := Bitmap.set allocator.bitmap wordIdx bitIdx
      freeFrames := allocator.freeFrames + 1 }
  else allocator

def freeFrame (frame : x86.PhysFrame) : FrameAllocator :=
  let addr := x86.startAddress frame
  if addr < allocator.baseAddr then allocator
  else allocator.release ((addr - allocator.baseAddr) / pageSize).toNat

end

-- The loop of `allocate_frames` over the next frames: where the current run of free frames
-- starts and how long it is.
def findRun (bitmap : List UInt64) (count : Nat) : Nat → Nat → Option Nat → Nat → Option Nat
  | 0, _, _, _ => none
  | left + 1, frameIdx, startFrame, consecutive =>
    if frameIdx / 64 ≥ bitmap.length then none
    else if Bitmap.test bitmap (frameIdx / 64) (frameIdx % 64) then
      let start := startFrame.getD frameIdx
      if consecutive + 1 = count then some start
      else findRun bitmap count left (frameIdx + 1) (some start) (consecutive + 1)
    else findRun bitmap count left (frameIdx + 1) none 0

def clearFrame (bitmap : List UInt64) (frameIdx : Nat) : List UInt64 :=
  Bitmap.clear bitmap (frameIdx / 64) (frameIdx % 64)

def allocateFrames (x86 : X86) (allocator : FrameAllocator) (count : Nat) :
    Except Panic (FrameAllocator × Option x86.PhysFrame) :=
  if count = 0 ∨ count > allocator.freeFrames then .ok (allocator, none)
  else if count = 1 then allocator.allocateFrame x86
  else
    match findRun allocator.bitmap count (allocator.bitmap.length * 64) 0 none 0 with
    | some start =>
      let taken : FrameAllocator :=
        { allocator with
          bitmap := (List.range' start count).foldl clearFrame allocator.bitmap
          freeFrames := allocator.freeFrames - count }
      (allocator.frameAt x86 start).map (fun frame => (taken, some frame))
    | none => .ok (allocator, none)

def freeContiguous (x86 : X86) (allocator : FrameAllocator) (frame : x86.PhysFrame)
    (count : Nat) : FrameAllocator :=
  let addr := x86.startAddress frame
  if addr < allocator.baseAddr then allocator
  else
    let startFrame := ((addr - allocator.baseAddr) / pageSize).toNat
    (List.range' startFrame count).foldl release allocator

end FrameAllocator

end ZeroOS
