import ZeroOS.Keystore.Service

/-!
The clients of the file system and of the keystore (`zos-vfs/src/client`) that services use.
-/

namespace ZeroOS

namespace Vfs

-- The requests that `async_ops` sends, apart from `stat`, which no service asks for.
inductive VfsRequest where
  | Read (path : String)
  | Write (path : String) (content : List UInt8)
  | Exists (path : String)
  | Mkdir (path : String) (createParents : Bool)
  | Unlink (path : String)
  | Readdir (path : String)
deriving DecidableEq

end Vfs

namespace Keystore

inductive KeystoreRequest where
  | Read (key : String)
  | Write (key : String) (value : List UInt8)
  | Delete (key : String)
  | Exists (key : String)
  | List (keyStart : String)
deriving DecidableEq

end Keystore

end ZeroOS
