import ZeroOS.Apps.Input
import ZeroOS.Authority.Expiry
import ZeroOS.Authority.Frame
import ZeroOS.Authority.Inert
import ZeroOS.Authority.Isolation
import ZeroOS.Authority.Lifetime
import ZeroOS.Authority.Linear
import ZeroOS.Axiom.Slots
import ZeroOS.Axiom.Sync
import ZeroOS.Axiom.Window
import ZeroOS.Core.Refinement
import ZeroOS.Core.Structure
import ZeroOS.Core.Zombie
import ZeroOS.Delivery.Fifo
import ZeroOS.Delivery.Transfer
import ZeroOS.Desktop.Window
import ZeroOS.Identity.Base64
import ZeroOS.Identity.Generate
import ZeroOS.Identity.Hex
import ZeroOS.Identity.Pairing
import ZeroOS.Identity.UserPath
import ZeroOS.Init.Order
import ZeroOS.Kernel.Browser
import ZeroOS.Kernel.Capability.Atomicity
import ZeroOS.Kernel.Confinement
import ZeroOS.Kernel.System.Accounting
import ZeroOS.Kernel.System.Audit
import ZeroOS.Kernel.System.Spawn
import ZeroOS.Keystore.AtomicMap
import ZeroOS.Network.Responses
import ZeroOS.Permission.Mirror
import ZeroOS.Process.Abi
import ZeroOS.Recovery.Audit
import ZeroOS.Recovery.Encoding
import ZeroOS.Recovery.Resume
import ZeroOS.Storage.Compaction
import ZeroOS.Storage.Crash
import ZeroOS.Storage.Semantics
import ZeroOS.Supervisor.Panics
import ZeroOS.Transport.Lossless
import ZeroOS.Vfs.Answered
import ZeroOS.Vfs.Content
import ZeroOS.Vfs.Forgery
import ZeroOS.Vfs.Isolation
import ZeroOS.Vfs.Mkdir
import ZeroOS.Vfs.Tree
import ZeroOS.Virtio.Legacy
import ZeroOS.Virtio.Partition
import ZeroOS.Vmm.Soundness
import ZeroOS.Wasm.Host
