import ZeroOS.Lib.Map
import ZeroOS.Axiom.Types

/-!
Capability tokens, the capability space of a process and the authority check.
-/

namespace ZeroOS

structure Capability where
  id : UInt64
  objectType : ObjectType
  objectId : UInt64
  permissions : Permissions
  generation : UInt32
  -- Nanoseconds since boot; zero never expires.
  expiresAt : UInt64
deriving DecidableEq

def Capability.isExpired (cap : Capability) (currentTime : UInt64) : Bool :=
  cap.expiresAt != 0 && decide (currentTime > cap.expiresAt)

structure CapabilitySpace where
  slots : BTreeMap CapSlot Capability
  nextSlot : CapSlot
deriving DecidableEq

namespace CapabilitySpace

def new : CapabilitySpace := ⟨∅, 0⟩

-- The slot counter is a `u32` that the source advances without a check.
def insert (cspace : CapabilitySpace) (cap : Capability) : CapSlot × CapabilitySpace :=
  (cspace.nextSlot, ⟨cspace.slots.insert cspace.nextSlot cap, cspace.nextSlot + 1⟩)

def get (cspace : CapabilitySpace) (slot : CapSlot) : Option Capability :=
  cspace.slots[slot]?

def remove (cspace : CapabilitySpace) (slot : CapSlot) : Option Capability × CapabilitySpace :=
  (cspace.slots[slot]?, { cspace with slots := cspace.slots.erase slot })

def list (cspace : CapabilitySpace) : List (CapSlot × Capability) :=
  cspace.slots.toList

end CapabilitySpace

inductive AxiomError where
  | InvalidSlot
  | WrongType
  | InsufficientRights
  | Expired
  | ObjectNotFound
deriving DecidableEq

def axiomCheck (cspace : CapabilitySpace) (slot : CapSlot) (required : Permissions)
    (expectedType : Option ObjectType) (currentTime : UInt64) : Except AxiomError Capability :=
  match cspace.get slot with
  | none => .error .InvalidSlot
  | some cap =>
    if expectedType.any (fun expected => cap.objectType != expected) then .error .WrongType
    else if (required.read && !cap.permissions.read)
        || (required.write && !cap.permissions.write)
        || (required.grant && !cap.permissions.grant) then .error .InsufficientRights
    else if cap.isExpired currentTime then .error .Expired
    else .ok cap

lemma axiomCheck_ok_iff :
    axiomCheck cs slot required expectedType currentTime = .ok cap ↔ cs.get slot = some cap ∧
      (∀ expected, expectedType = some expected → cap.objectType = expected) ∧
      (required.read = true → cap.permissions.read = true) ∧
      (required.write = true → cap.permissions.write = true) ∧
      (required.grant = true → cap.permissions.grant = true) ∧
      cap.isExpired currentTime = false := by
  unfold axiomCheck
  cases hg : cs.get slot with
  | none => simp
  | some =>
    simp
    constructor
    · intro h
      split_ifs at h with ht hp he
      cases h
      refine ⟨rfl, ?_, ?_⟩
      · rintro expected rfl
        simpa using ht
      · grind
    · rintro ⟨rfl, ht, hr, hw, hgr, he⟩
      rw [if_neg, if_neg]
      · simp [he]
      · grind
      · cases expectedType with
        | none => simp
        | some => simp [ht _ rfl]

end ZeroOS
