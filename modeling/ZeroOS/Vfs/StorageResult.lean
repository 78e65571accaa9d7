import ZeroOS.Lib.Bytes

/-!
Storage results as they travel in messages: request id, result type, length and data.
-/

namespace ZeroOS

open UInt32

namespace StorageResult

def READ_OK : UInt8 := 0

def WRITE_OK : UInt8 := 1

def NOT_FOUND : UInt8 := 2

def ERROR : UInt8 := 3

def LIST_OK : UInt8 := 4

def EXISTS_OK : UInt8 := 5

end StorageResult

def MSG_STORAGE_RESULT : UInt32 := 0x80

structure StorageResult where
  requestId : UInt32
  resultType : UInt8
  data : List UInt8
deriving DecidableEq

-- The payload that the supervisor builds; the length is cut to 32 bits.
def StorageResult.payload (result : StorageResult) : List UInt8 :=
  (leBytes32 result.requestId).toList ++ [result.resultType] ++
    (leBytes32 (UInt32.ofNat result.data.length)).toList ++ result.data

-- The first lines of `handle_storage_result`, where `9 + dataLen` fits 32 bits; for every length
-- see `Browser.parseResult`. Data that is not there in its full length is read as no data.
def parseStorageResult (bytes : List UInt8) : Option StorageResult :=
  if bytes.length < 9 then none
  else
    let dataLen := (leWord32 (bytes.drop 5)).toNat
    some
      { requestId := leWord32 bytes
        resultType := bytes.getD 4 0
        data := if dataLen > 0 ∧ bytes.length ≥ 9 + dataLen then (bytes.drop 9).take dataLen
          else [] }

namespace StorageResult

lemma length_payload (result : StorageResult) : result.payload.length = 9 + result.data.length := by
  simp [payload]
  omega

lemma parse_take_payload (result : StorageResult) (hn : 9 ≤ n) :
    parseStorageResult (result.payload.take n) =
      some
        { requestId := result.requestId
          resultType := result.resultType
          data :=
            if (ofNat result.data.length).toNat > 0 ∧
                (result.payload.take n).length ≥ 9 + (ofNat result.data.length).toNat then
              (result.data.take (n - 9)).take (ofNat result.data.length).toNat
            else [] } := by
  obtain ⟨m, rfl⟩ := Nat.exists_eq_add_of_le hn
  have hb : result.payload.take (9 + m) = (leBytes32 result.requestId).toList ++
      (result.resultType :: ((leBytes32 (ofNat result.data.length)).toList ++
        result.data.take m)) := by
    rw [Nat.add_comm]
    rfl
  have hl : ¬ (result.payload.take (9 + m)).length < 9 := by
    rw [hb]
    simp
    omega
  have hi : leWord32 (result.payload.take (9 + m)) = result.requestId := by
    rw [hb]
    exact leWord32_leBytes32 ..
  have hw : leWord32 ((result.payload.take (9 + m)).drop 5) = ofNat result.data.length := by
    rw [hb]
    exact leWord32_leBytes32 ..
  have ht : (result.payload.take (9 + m)).getD 4 0 = result.resultType := by
    rw [hb]
    rfl
  have hd : (result.payload.take (9 + m)).drop 9 = result.data.take m := by
    rw [hb]
    rfl
  rw [parseStorageResult, if_neg hl]
  simp only [hi, hw, ht, hd, Nat.add_sub_cancel_left]

lemma exists_parse_take (result : StorageResult) (hn : 9 ≤ n) :
    ∃ data, data.length ≤ n - 9 ∧
      parseStorageResult (result.payload.take n) = some { result with data } := by
  refine ⟨_, ?_, result.parse_take_payload hn⟩
  split_ifs
  · rw [List.length_take, List.length_take]
    omega
  · exact Nat.zero_le _

-- A payload that arrives whole is read as it was, unless its length does not fit into the
-- length field.
lemma parse_payload (result : StorageResult) (hl : result.data.length < 4294967296) :
    parseStorageResult result.payload = some result := by
  have hw : result.payload.take (9 + result.data.length) = result.payload := by
    rw [← length_payload, List.take_length]
  have hc : (ofNat result.data.length).toNat = result.data.length := by
    rw [toNat_ofNat', Nat.mod_eq_of_lt hl]
  have hp := result.parse_take_payload (n := 9 + result.data.length) (Nat.le_add_right 9 _)
  rw [hw, hc, length_payload, Nat.add_sub_cancel_left, List.take_length, List.take_length] at hp
  rw [hp]
  have hd : (if result.data.length > 0 ∧ 9 + result.data.length ≥ 9 + result.data.length then
      result.data else []) = result.data := by
    by_cases he : result.data = []
    · rw [he]
      rfl
    · rw [if_pos ⟨List.length_pos_iff.mpr he, Nat.le_refl _⟩]
  rw [hd]

end StorageResult

end ZeroOS
