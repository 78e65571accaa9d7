/-!
Common types of the verification layer.
-/

namespace ZeroOS

abbrev ProcessId := UInt64

abbrev EventId := UInt64

abbrev EndpointId := UInt64

abbrev CapSlot := UInt32

structure Permissions where
  read : Bool
  write : Bool
  grant : Bool
deriving DecidableEq

namespace Permissions

def full : Permissions := ⟨true, true, true⟩

def readOnly : Permissions := ⟨true, false, false⟩

def writeOnly : Permissions := ⟨false, true, false⟩

-- The derived `Default` of the source: no permission at all.
def default : Permissions := ⟨false, false, false⟩

def toByte (perms : Permissions) : UInt8 :=
  (if perms.read then 0x01 else 0) ||| (if perms.write then 0x02 else 0) |||
    (if perms.grant then 0x04 else 0)

def fromByte (b : UInt8) : Permissions :=
  ⟨b &&& 0x01 != 0, b &&& 0x02 != 0, b &&& 0x04 != 0⟩

theorem fromByte_toByte (perms : Permissions) : fromByte perms.toByte = perms := by
  obtain ⟨r, w, g⟩ := perms
  cases r <;> cases w <;> cases g <;> rfl

end Permissions

inductive ObjectType where
  | Endpoint
  | Process
  | Memory
  | Irq
  | IoPort
  | Console
deriving DecidableEq

namespace ObjectType

-- The discriminant of the `repr(u8)` enumeration.
def toU8 : ObjectType → UInt8
  | Endpoint => 1
  | Process => 2
  | Memory => 3
  | Irq => 4
  | IoPort => 5
  | Console => 6

def fromU8 (v : UInt8) : Option ObjectType :=
  if v = 1 then some Endpoint
  else if v = 2 then some Process
  else if v = 3 then some Memory
  else if v = 4 then some Irq
  else if v = 5 then some IoPort
  else if v = 6 then some Console
  else none

theorem fromU8_toU8 (objectType : ObjectType) : fromU8 objectType.toU8 = some objectType := by
  cases objectType <;> rfl

end ObjectType

end ZeroOS
