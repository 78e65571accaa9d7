import ZeroOS.Lib.Links

/-!
The split virtqueue of the virtio drivers (`virtio/queue.rs`).
-/

namespace ZeroOS

namespace DescFlags

def NEXT : UInt16 := 1

def WRITE : UInt16 := 2

end DescFlags

structure VirtqDesc where
  addr : UInt64
  len : UInt32
  flags : UInt16
  next : UInt16
deriving DecidableEq, Inhabited

def VirtqDesc.nextIdx (desc : VirtqDesc) : Option UInt16 :=
  if desc.flags &&& DescFlags.NEXT = 0 then none else some desc.next

structure VirtqUsedElem where
  id : UInt32
  len : UInt32
deriving DecidableEq, Inhabited

inductive VirtioError where
  | QueueNotAvailable
  | InvalidArgument
deriving DecidableEq

def maxQueueSize : UInt16 := 256

-- The three areas of the queue memory are fields of their own.
structure Virtqueue where
  index : UInt16
  size : UInt16
  numFree : UInt16
  freeHead : UInt16
  lastUsedIdx : UInt16
  descTable : List VirtqDesc
  availIdx : UInt16
  availRing : List UInt16
  usedIdx : UInt16
  usedRing : List VirtqUsedElem
deriving DecidableEq

-- A buffer of a request: address, length, and whether the device writes it.
abbrev Buffer := UInt64 × UInt32 × Bool

namespace Virtqueue

def alignUp (size : Nat) : Nat := (size + 4095) / 4096 * 4096

def addresses (base : Nat) (queueSize : UInt16) : Nat × Nat × Nat :=
  let descAddr := base
  let availAddr := base + alignUp (16 * queueSize.toNat)
  let usedAddr := availAddr + alignUp (6 + 2 * queueSize.toNat)
  (descAddr, availAddr, usedAddr)

def isPowerOfTwo (size : UInt16) : Bool := size != 0 && size &&& (size - 1) == 0

def new (index size : UInt16) : Except VirtioError Virtqueue :=
  if size = 0 ∨ size > maxQueueSize ∨ isPowerOfTwo size = false then .error .InvalidArgument
  else
    -- The free list: each descriptor points to the next.
    let descTable := (List.range size.toNat).map (fun i =>
      { addr := 0, len := 0, flags := 0
        next := if UInt16.ofNat i < size - 1 then UInt16.ofNat i + 1 else 0 })
    .ok
      { index, size, numFree := size, freeHead := 0, lastUsedIdx := 0, descTable
        availIdx := 0, availRing := List.replicate size.toNat 0
        usedIdx := 0, usedRing := List.replicate size.toNat ⟨0, 0⟩ }

section

variable (queue : Virtqueue) (idx : UInt16) (writeOnly : Bool)

def desc : VirtqDesc := queue.descTable.getD idx.toNat default

def setDesc (desc : VirtqDesc) : Virtqueue :=
  { queue with descTable := queue.descTable.set idx.toNat desc }

def publish (headIdx : UInt16) : Virtqueue :=
  { queue with
    availRing := queue.availRing.set (queue.availIdx % queue.size).toNat headIdx
    availIdx := queue.availIdx + 1 }

def writeFlag : UInt16 := if writeOnly then DescFlags.WRITE else 0

def addBuffer (buffer : UInt64) (len : UInt32) (writeOnly : Bool) :
    Except VirtioError (Virtqueue × UInt16) :=
  if queue.numFree = 0 then .error .QueueNotAvailable
  else
    let descIdx := queue.freeHead
    let queue := { queue with freeHead := (queue.desc descIdx).next, numFree := queue.numFree - 1 }
    let queue := queue.setDesc descIdx
      { addr := buffer, len := len, flags := writeFlag writeOnly, next := 0 }
    .ok (queue.publish descIdx, descIdx)

def linkPrev (descIdx : UInt16) : Option UInt16 → Virtqueue
  | some prev =>
    let prevDesc := queue.desc prev
    queue.setDesc prev
      { prevDesc with flags := prevDesc.flags ||| DescFlags.NEXT, next := descIdx }
  | none => queue

-- The end of the chain, unless more buffers follow.
def markEnd (descIdx : UInt16) (more : Bool) : Virtqueue :=
  let desc := queue.desc descIdx
  if more then queue.setDesc descIdx { desc with flags := desc.flags ||| DescFlags.NEXT }
  else queue.setDesc descIdx { desc with next := 0 }

end

-- The loop of `add_buffer_chain`: one free descriptor for each buffer, linked to the one
-- before it.
def linkBuffers (queue : Virtqueue) (prevIdx : Option UInt16) : List Buffer → Virtqueue
  | [] => queue
  | buffer :: rest =>
    let descIdx := queue.freeHead
    let old := queue.desc descIdx
    let queue := { queue with freeHead := old.next, numFree := queue.numFree - 1 }
    let queue := queue.setDesc descIdx
      { old with addr := buffer.1, len := buffer.2.1, flags := writeFlag buffer.2.2 }
    let queue := queue.linkPrev descIdx prevIdx
    let queue := queue.markEnd descIdx (!rest.isEmpty)
    queue.linkBuffers (some descIdx) rest

def addBufferChain (queue : Virtqueue) (buffers : List Buffer) :
    Except VirtioError (Virtqueue × UInt16) :=
  if buffers.isEmpty then .error .InvalidArgument
  else if queue.numFree < UInt16.ofNat buffers.length then .error .QueueNotAvailable
  else
    let headIdx := queue.freeHead
    .ok ((queue.linkBuffers none buffers).publish headIdx, headIdx)

-- The loop that returns the descriptors of a chain to the free list. It has not come to an
-- end when the fuel is used up.
def freeDescriptorChain (queue : Virtqueue) : Nat → UInt16 → Option Virtqueue
  | 0, _ => none
  | fuel + 1, idx =>
    let old := queue.desc idx
    let queue := queue.setDesc idx { old with next := queue.freeHead }
    let queue := { queue with freeHead := idx, numFree := queue.numFree + 1 }
    if old.flags &&& DescFlags.NEXT = 0 then some queue
    else queue.freeDescriptorChain fuel old.next

variable (queue : Virtqueue)

def readUsedElem (idx : UInt16) : VirtqUsedElem :=
  queue.usedRing.getD (idx % queue.size).toNat default

-- The queue afterwards and what is returned, if the chain that is freed comes to an end
-- within as many descriptors as there are.
def popUsed : Option (Virtqueue × Option (UInt16 × UInt32)) :=
  if queue.usedIdx = queue.lastUsedIdx then some (queue, none)
  else
    let elemIdx := queue.lastUsedIdx % queue.size
    let elem := queue.readUsedElem elemIdx
    let queue := { queue with lastUsedIdx := queue.lastUsedIdx + 1 }
    let head := elem.id.toUInt16
    (queue.freeDescriptorChain queue.size.toNat head).map (fun queue =>
      (queue, some (head, elem.len)))

-- What the device does when it is done with a chain.
def deviceReturn (head : UInt16) (len : UInt32) : Virtqueue :=
  { queue with
    usedRing := queue.usedRing.set (queue.usedIdx % queue.size).toNat ⟨head.toUInt32, len⟩
    usedIdx := queue.usedIdx + 1 }

def freeList : List UInt16 :=
  Links.follow (fun idx => (queue.desc idx).next) queue.numFree.toNat queue.freeHead

def chainFrom (head : UInt16) : List UInt16 :=
  Links.walk (fun idx => (queue.desc idx).nextIdx) queue.size.toNat head

def readBuffer (idx : UInt16) : Buffer :=
  ((queue.desc idx).addr, (queue.desc idx).len,
    (queue.desc idx).flags &&& DescFlags.WRITE != 0)

end Virtqueue

end ZeroOS
