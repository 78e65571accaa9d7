import ZeroOS.Supervisor.Routing

/-!
Init's side of routed messages (`handlers/supervisor.rs`).
-/

namespace ZeroOS

structure PendingDelivery where
  targetPid : UInt32
  endpointSlot : UInt32
  tag : UInt32
  data : List UInt8
deriving DecidableEq

structure Init where
  serviceCapSlots : BTreeMap UInt32 UInt32
  serviceVfsSlots : BTreeMap UInt32 UInt32
  pendingDeliveries : BTreeMap UInt32 (List PendingDelivery)

def VFS_RESPONSE_SLOT : UInt32 := 4

def leWord16 : List UInt8 → UInt16
  | b0 :: b1 :: _ => b0.toUInt16 ||| (b1.toUInt16 <<< 8)
  | _ => 0

inductive Delivery where
  | Refused (failure : DeliveryFailure)
  | Send (capSlot : UInt32) (delivery : PendingDelivery)
  | Queued (delivery : PendingDelivery)

def parseDelivery (data : List UInt8) : Except DeliveryFailure PendingDelivery :=
  if data.length < 14 then .error .TooShort
  else
    let dataLen := (leWord16 (data.drop 12)).toNat
    if data.length < 14 + dataLen then .error .Truncated
    else
      .ok
        { targetPid := leWord32 data
          endpointSlot := leWord32 (data.drop 4)
          tag := leWord32 (data.drop 8)
          data := (data.drop 14).take dataLen }

namespace Init

def capSlotFor (init : Init) (delivery : PendingDelivery) : Option UInt32 :=
  if delivery.endpointSlot = VFS_RESPONSE_SLOT then init.serviceVfsSlots[delivery.targetPid]?
  else init.serviceCapSlots[delivery.targetPid]?

def handleSupervisorIpcDelivery (init : Init) (msg : ReceivedMessage) : Init × Delivery :=
  if msg.fromPid ≠ 0 then (init, .Refused (.NotSupervisor msg.fromPid))
  else
    match parseDelivery msg.data with
    | .error failure => (init, .Refused failure)
    | .ok delivery =>
      match init.capSlotFor delivery with
      | some capSlot => (init, .Send capSlot delivery)
      | none =>
        -- Kept for the time when the capability arrives.
        let waiting := init.pendingDeliveries[delivery.targetPid]?.getD []
        ({ init with
            pendingDeliveries :=
              init.pendingDeliveries.insert delivery.targetPid (waiting ++ [delivery]) },
          .Queued delivery)

-- What is sent when the capability has arrived, in order, each with the slot it is sent through.
def retryPendingDeliveries (init : Init) (servicePid capSlot : UInt32) :
    Init × List (UInt32 × PendingDelivery) :=
  match init.pendingDeliveries[servicePid]? with
  | none => (init, [])
  | some pending =>
    ({ init with pendingDeliveries := init.pendingDeliveries.erase servicePid },
      pending.map (fun delivery => (capSlot, delivery)))

end Init

lemma leWord16_leBytes16 : leWord16 (leBytes16 word ++ rest) = word := by
  show word.toUInt8.toUInt16 ||| ((word >>> 8).toUInt8.toUInt16 <<< 8) = word
  apply UInt16.toBitVec_inj.mp
  apply BitVec.eq_of_getLsbD_eq
  intro i hi
  simp only [UInt16.toBitVec_or, UInt16.toBitVec_shiftLeft, UInt8.toBitVec_toUInt16,
    UInt16.toBitVec_toUInt8, UInt16.toBitVec_shiftRight, UInt16.toBitVec_ofNat, BitVec.reduceMod]
  by_cases hl : i < 8
  · grind
  · grind

-- The supervisor's payload as it is taken apart when its first bytes have arrived: the length
-- is the one that is left in 16 bits.
lemma parseDelivery_take (target : UInt64) (eslot tag : UInt32) (data : List UInt8) (hn : 14 ≤ n) :
    parseDelivery ((deliveryPayload target eslot tag data).take n) =
      if min n (14 + data.length) < 14 + data.length % 65536 then .error .Truncated
      else .ok ⟨target.toUInt32, eslot, tag, data.take (data.length % 65536)⟩ := by
  obtain ⟨m, rfl⟩ := Nat.exists_eq_add_of_le hn
  have hb : (deliveryPayload target eslot tag data).take (14 + m) =
      wordBytes [target.toUInt32, eslot, tag] ++
        (leBytes16 (UInt16.ofNat data.length) ++ data.take m) := by
    rw [Nat.add_comm]
    rfl
  have hcn : (deliveryPayload target eslot tag data).length = 14 + data.length := by
    simp [deliveryPayload, leBytes16]
    omega
  have hl : ((deliveryPayload target eslot tag data).take (14 + m)).length =
      min (14 + m) (14 + data.length) := by
    rw [List.length_take, hcn]
  have hw : leWord16 (((deliveryPayload target eslot tag data).take (14 + m)).drop 12) =
      UInt16.ofNat data.length := by
    rw [hb]
    exact leWord16_leBytes16
  have ht : leWord32 ((deliveryPayload target eslot tag data).take (14 + m)) = target.toUInt32 := by
    rw [hb]
    exact leWord32_leBytes32 ..
  have hs : leWord32 (((deliveryPayload target eslot tag data).take (14 + m)).drop 4) =
      eslot := by
    rw [hb]
    exact leWord32_leBytes32 ..
  have ha : leWord32 (((deliveryPayload target eslot tag data).take (14 + m)).drop 8) =
      tag := by
    rw [hb]
    exact leWord32_leBytes32 ..
  have hd : ((deliveryPayload target eslot tag data).take (14 + m)).drop 14 = data.take m := by
    rw [hb]
    rfl
  rw [parseDelivery, if_neg (by rw [hl]; omega)]
  simp only [hl, hw, ht, hs, ha, hd, UInt16.toNat_ofNat']
  by_cases hc : min (14 + m) (14 + data.length) < 14 + data.length % 65536
  · rw [if_pos hc, if_pos hc]
  · rw [if_neg hc, if_neg hc, List.take_take, Nat.min_eq_left (by omega)]

end ZeroOS
