import ZeroOS.Virtio.Queue

/-!
The legacy block device (`virtio/blk_pci.rs`) and where it looks for its queue.
-/

namespace ZeroOS

def PAGE_SIZE : UInt64 := 4096

def DEFAULT_QUEUE_SIZE : UInt16 := 128

inductive ProbeError where
  | DeviceNotFound
  | Virtio (error : VirtioError)

namespace Pci

end Pci

-- The device as the scan of the bus finds it, with its registers that count for the queue.
structure PciTransport where
  vendorId : UInt16
  deviceId : UInt16
  queueSize : UInt16
  queueAddress : UInt32

namespace PciTransport

-- The type of the device as the driver derives it: 2 stands for a block device.
def deviceType (transport : PciTransport) : Nat := transport.deviceId.toNat - 0x1000

-- Descriptor table, available ring and used ring, as the device derives them from the page
-- that it is given and from its own queue size.
def rings (transport : PciTransport) : Nat × Nat × Nat :=
  let page := transport.queueAddress.toNat * 4096
  let q := transport.queueSize.toNat
  (page, page + 16 * q, page + Virtqueue.alignUp (16 * q + 6 + 2 * q))

end PciTransport

def LegacyQueueLayout.calculateSize (queueSize : UInt16) : Nat :=
  let q := queueSize.toNat
  Virtqueue.alignUp (16 * q + (4 + 2 * q + 2)) + (4 + 8 * q + 2)

-- `rings` are the addresses that the driver's queue uses.
structure VirtioBlkPci where
  transport : PciTransport
  queue : Virtqueue
  rings : Nat × Nat × Nat
  layoutSize : Nat

def VirtioBlkPci.new (transport : PciTransport) (queueMemory : UInt64) :
    Except ProbeError VirtioBlkPci :=
  if transport.deviceType ≠ 2 then .error .DeviceNotFound
  else
    let maxSize := transport.queueSize
    if maxSize = 0 then .error (.Virtio .QueueNotAvailable)
    else
      let queueSize := min maxSize DEFAULT_QUEUE_SIZE
      match Virtqueue.new 0 queueSize with
      | .error e => .error (.Virtio e)
      | .ok queue =>
        let pfn := (queueMemory / PAGE_SIZE).toUInt32
        .ok
          { transport := { transport with queueAddress := pfn }
            queue
            rings := Virtqueue.addresses queueMemory.toNat queueSize
            layoutSize := LegacyQueueLayout.calculateSize queueSize }

namespace VirtioBlkPci

variable (transport : PciTransport) (queueMemory : UInt64) (blk : VirtioBlkPci)

end VirtioBlkPci

end ZeroOS
