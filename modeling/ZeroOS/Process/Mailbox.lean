import ZeroOS.Kernel.System

/-!
The mailbox through which a process makes its syscalls.
-/

namespace ZeroOS

def MAILBOX_MAX_DATA_LEN : Nat := 16356

-- What stands in the mailbox after the process has written the data of a call.
def zosSendBytes (data : List UInt8) : List UInt8 := data.take MAILBOX_MAX_DATA_LEN

def readSyscallData (mailbox : List UInt8) : List UInt8 :=
  if mailbox.length > 0 ∧ mailbox.length ≤ MAILBOX_MAX_DATA_LEN then mailbox else []

-- What stands in the mailbox after the supervisor has written the response.
def writeSyscallData (data : List UInt8) : List UInt8 := data.take MAILBOX_MAX_DATA_LEN

def zosRecvBytes (mailbox : List UInt8) (maxLen : Nat) : List UInt8 := mailbox.take maxLen

structure ReceivedMessage where
  fromPid : UInt32
  tag : UInt32
  capSlots : List UInt32
  data : List UInt8
deriving DecidableEq

inductive RecvError where
  | NoMessage
  | PermissionDenied
  | InvalidEndpoint
  | ParseError
deriving DecidableEq

def receiveBufferLen : Nat := 16384

-- The parsing of `receive`: sender, tag, number of capabilities, their slots, data.
def parseReceived (buffer : List UInt8) : Except RecvError ReceivedMessage :=
  if buffer.length < 9 then .error .ParseError
  else
    let numCaps := (buffer.getD 8 0).toNat
    let dataStart := 9 + numCaps * 4
    if buffer.length < dataStart then .error .ParseError
    else
      .ok
        { fromPid := leWord32 buffer
          tag := leWord32 (buffer.drop 4)
          capSlots := leWords32 numCaps (buffer.drop 9)
          data := buffer.drop dataStart }

-- A message as the process reads it that takes it from the queue.
def received (message : Message) : Except RecvError ReceivedMessage :=
  parseReceived (zosRecvBytes (writeSyscallData (serializeIpcMessage message)) receiveBufferLen)

def sentBy (pid : ProcessId) (tag : UInt32) (data : List UInt8) : Message where
  fromPid := pid
  tag := tag
  data := readSyscallData (zosSendBytes data)
  transferredCaps := []

lemma readSyscallData_zosSendBytes :
    readSyscallData (zosSendBytes data) = data.take MAILBOX_MAX_DATA_LEN := by
  rw [readSyscallData, zosSendBytes]
  cases data with
  | nil => rfl
  | cons =>
    rw [if_pos]
    rw [List.length_take, List.length_cons, MAILBOX_MAX_DATA_LEN]
    omega

-- A message as it stands in the mailbox.
def frame (fromPid tag : UInt32) (slots : List UInt32) (data : List UInt8) : List UInt8 :=
  wordBytes [fromPid, tag] ++ (UInt8.ofNat slots.length :: (wordBytes slots ++ data))

lemma parseReceived_frame (hs : slots.length ≤ MAX_CAPS_PER_MESSAGE) :
    parseReceived (frame fromPid tag slots data) = .ok ⟨fromPid, tag, slots, data⟩ := by
  have ht : (frame fromPid tag slots data).drop 4 =
      wordBytes [tag] ++ (UInt8.ofNat slots.length :: (wordBytes slots ++ data)) := rfl
  have hd : (frame fromPid tag slots data).drop 9 = wordBytes slots ++ data := rfl
  have hn : ((frame fromPid tag slots data).getD 8 0).toNat = slots.length := by
    rw [MAX_CAPS_PER_MESSAGE] at hs
    show (UInt8.ofNat slots.length).toNat = _
    rw [UInt8.toNat_ofNat', Nat.mod_eq_of_lt (by omega)]
  have hl : (frame fromPid tag slots data).length = 9 + slots.length * 4 + data.length := by
    simp [frame]
    omega
  have hp : leWord32 (frame fromPid tag slots data) = fromPid := by
    rw [frame, wordBytes_cons_append, leWord32_leBytes32]
  rw [parseReceived, hn, hl, if_neg (by omega)]
  dsimp only
  rw [if_neg (by omega), ← List.drop_drop, ht, hd, hp, leWords32_wordBytes, wordBytes_cons_append,
    leWord32_leBytes32, ← length_wordBytes, List.drop_left]

-- A message with capabilities, as the process reads it: the mailbox has room for 16356 bytes.
lemma received_of_caps (hc : message.transferredCaps.length ≤ MAX_CAPS_PER_MESSAGE) :
    received message =
      .ok ⟨message.fromPid.toUInt32, message.tag,
        message.transferredCaps.map (·.receiverSlot.getD 0),
        message.data.take (16347 - message.transferredCaps.length * 4)⟩ := by
  rw [← List.length_map (·.receiverSlot.getD 0)] at hc ⊢
  have hb : serializeIpcMessage message = frame message.fromPid.toUInt32 message.tag
      (message.transferredCaps.map (·.receiverSlot.getD 0)) message.data := by
    simp [serializeIpcMessage, frame, wordBytes, List.flatMap_map]
  generalize message.transferredCaps.map (·.receiverSlot.getD 0) = slots at hc hb ⊢
  have hu : zosRecvBytes (writeSyscallData (serializeIpcMessage message)) receiveBufferLen =
      wordBytes [message.fromPid.toUInt32, message.tag] ++
        (UInt8.ofNat slots.length :: (wordBytes slots ++ message.data).take 16347) := by
    rw [zosRecvBytes, writeSyscallData, List.take_take, hb]
    rfl
  have hf : (wordBytes slots).length ≤ 16347 := by
    rw [MAX_CAPS_PER_MESSAGE] at hc
    rw [length_wordBytes]
    omega
  rw [List.take_append, List.take_of_length_le hf, length_wordBytes] at hu
  rw [received, hu]
  exact parseReceived_frame hc

lemma received_eq (hc : message.transferredCaps = []) :
    received message =
      .ok
        { fromPid := message.fromPid.toUInt32
          tag := message.tag
          capSlots := []
          data := message.data.take 16347 } := by
  rw [received_of_caps (by rw [hc]; exact Nat.zero_le _), hc]
  rfl

end ZeroOS
