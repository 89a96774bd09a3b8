import Mathlib.Data.List.Basic

/-!
# Bounded channels

`tokio::sync::mpsc::channel(capacity)`: first in, first out, lossless. A send to
a full channel waits, a send to a channel without receiver fails, and a receive
from an empty channel waits until every sender is gone. A channel remembers all
that was ever queued and how much of it was taken.
-/

namespace TacacsRs.Rust

/-- A bounded channel with all that was ever sent on it; the first `taken` values were received. -/
structure Channel (α : Type) (capacity : Nat) where
  sent : List α
  taken : Nat
  sendersDropped : Bool
  receiverDropped : Bool
  taken_le : taken ≤ sent.length
  length_le : sent.length ≤ taken + capacity
  deriving DecidableEq

/-- What polling a send finds. -/
inductive SendPoll (α : Type) (capacity : Nat) where
  | pending
  | closed
  | sent (channel : Channel α capacity)

/-- What polling a receive finds. -/
inductive RecvPoll (α : Type) (capacity : Nat) where
  | pending
  | closed
  | received (value : α) (channel : Channel α capacity)

namespace Channel

variable {α : Type} {capacity : Nat}

/-- A channel on which nothing was sent. -/
def new : Channel α capacity where
  sent := []
  taken := 0
  sendersDropped := false
  receiverDropped := false
  taken_le := Nat.le_refl 0
  length_le := Nat.zero_le _

/-- The values queued and not taken yet, first the next to take. -/
def queue (channel : Channel α capacity) : List α := channel.sent.drop channel.taken

/-- The values taken so far, first the first one. -/
def received (channel : Channel α capacity) : List α := channel.sent.take channel.taken

/-- Fewer values wait than the channel holds. -/
def HasRoom (channel : Channel α capacity) : Prop :=
  channel.sent.length < channel.taken + capacity

instance (channel : Channel α capacity) : Decidable channel.HasRoom :=
  inferInstanceAs (Decidable (_ < _))

/-- A value is sent. -/
def push (channel : Channel α capacity) (value : α) (h : channel.HasRoom) :
    Channel α capacity where
  sent := channel.sent ++ [value]
  taken := channel.taken
  sendersDropped := channel.sendersDropped
  receiverDropped := channel.receiverDropped
  taken_le := by
    rw [List.length_append]
    exact Nat.le_add_right_of_le channel.taken_le
  length_le := by
    rw [List.length_append]
    exact h

/-- The value that was sent first is received. -/
def pop (channel : Channel α capacity) (h : channel.taken < channel.sent.length) :
    Channel α capacity where
  sent := channel.sent
  taken := channel.taken + 1
  sendersDropped := channel.sendersDropped
  receiverDropped := channel.receiverDropped
  taken_le := h
  length_le := by
    have := channel.length_le
    omega

/-- `Sender::send`. -/
def send (channel : Channel α capacity) (value : α) : SendPoll α capacity :=
  if channel.receiverDropped then .closed
  else if h : channel.HasRoom then .sent (channel.push value h)
  else .pending

/-- `Receiver::recv`. -/
def recv (channel : Channel α capacity) : RecvPoll α capacity :=
  if h : channel.taken < channel.sent.length then
    .received (channel.sent[channel.taken]) (channel.pop h)
  else if channel.sendersDropped then .closed
  else .pending

/-- The receiver goes; what waits is lost. -/
def dropReceiver (channel : Channel α capacity) : Channel α capacity :=
  { channel with receiverDropped := true }

/-- The last sender goes; what waits can still be received. -/
def dropSenders (channel : Channel α capacity) : Channel α capacity :=
  { channel with sendersDropped := true }

variable {channel channel' : Channel α capacity} {value : α}

@[simp] theorem new_sent : (new : Channel α capacity).sent = [] := rfl

@[simp] theorem new_receiverDropped : (new : Channel α capacity).receiverDropped = false := rfl

@[simp] theorem new_queue : (new : Channel α capacity).queue = [] := rfl

@[simp] theorem dropReceiver_sent : channel.dropReceiver.sent = channel.sent := rfl

@[simp] theorem dropReceiver_receiverDropped :
    channel.dropReceiver.receiverDropped = true := rfl

@[simp] theorem dropSenders_queue : channel.dropSenders.queue = channel.queue := rfl

/-- A successful send queues the value behind all the others. -/
theorem send_eq_sent_iff :
    channel.send value = .sent channel' ↔
      channel.receiverDropped = false ∧ ∃ h : channel.HasRoom, channel' = channel.push value h := by
  unfold send
  cases channel.receiverDropped with
  | true => simp
  | false =>
      by_cases h : channel.HasRoom
      · simp [h, eq_comm]
      · simp [h]

theorem send_eq_closed_iff :
    channel.send value = .closed ↔ channel.receiverDropped = true := by
  unfold send
  cases channel.receiverDropped with
  | true => simp
  | false =>
      by_cases h : channel.HasRoom
      · simp [h]
      · simp [h]

/-- A send waits exactly while the receiver is there and the channel is full. -/
theorem send_eq_pending_iff :
    channel.send value = .pending ↔ channel.receiverDropped = false ∧ ¬ channel.HasRoom := by
  unfold send
  cases channel.receiverDropped with
  | true => simp
  | false =>
      by_cases h : channel.HasRoom
      · simp [h]
      · simp [h]

theorem queue_push (h : channel.HasRoom) :
    (channel.push value h).queue = channel.queue ++ [value] := by
  simp only [queue, push]
  rw [List.drop_append_of_le_length channel.taken_le]

theorem received_append_queue (channel : Channel α capacity) :
    channel.received ++ channel.queue = channel.sent := List.take_append_drop _ _

theorem length_received (channel : Channel α capacity) :
    channel.received.length = channel.taken := List.length_take_of_le channel.taken_le

@[simp] theorem received_push (h : channel.HasRoom) :
    (channel.push value h).received = channel.received :=
  List.take_append_of_le_length channel.taken_le

@[simp] theorem received_dropReceiver : channel.dropReceiver.received = channel.received := rfl

@[simp] theorem received_dropSenders : channel.dropSenders.received = channel.received := rfl

/-- A successful receive takes the value at the front of the queue. -/
theorem recv_eq_received_iff :
    channel.recv = .received value channel' ↔
      ∃ h : channel.taken < channel.sent.length,
        channel.queue = value :: channel'.queue ∧ channel' = channel.pop h := by
  unfold recv
  by_cases h : channel.taken < channel.sent.length
  · simp only [h, dif_pos, RecvPoll.received.injEq, exists_true_left]
    constructor
    · rintro ⟨rfl, rfl⟩
      exact ⟨List.drop_eq_getElem_cons h, rfl⟩
    · rintro ⟨hqueue, rfl⟩
      rw [queue, List.drop_eq_getElem_cons h, List.cons.injEq] at hqueue
      exact ⟨hqueue.1, rfl⟩
  · simp only [h, dif_neg, not_false_eq_true, IsEmpty.exists_iff, iff_false]
    split <;> simp

/-- What is received was at the front, and is behind all that was taken before. -/
theorem received_of_recv (h : channel.recv = .received value channel') :
    channel'.sent = channel.sent ∧ channel'.received = channel.received ++ [value] := by
  obtain ⟨hnonempty, hqueue, rfl⟩ := recv_eq_received_iff.mp h
  have hvalue : channel.sent[channel.taken] = value := by
    rw [queue, List.drop_eq_getElem_cons hnonempty] at hqueue
    exact (List.cons.inj hqueue).1
  refine ⟨rfl, ?_⟩
  simp only [received, pop]
  rw [List.take_succ_eq_append_getElem hnonempty, hvalue]

theorem exists_recv_eq_received (h : channel.taken < channel.sent.length) :
    ∃ value, channel.recv = .received value (channel.pop h) := by
  rw [recv, dif_pos h]
  exact ⟨_, rfl⟩

theorem recv_eq_closed_iff :
    channel.recv = .closed ↔ channel.queue = [] ∧ channel.sendersDropped = true := by
  unfold recv queue
  by_cases h : channel.taken < channel.sent.length
  · have hne : ¬ channel.sent.length ≤ channel.taken := Nat.not_le.mpr h
    simp [h, hne]
  · have hnil : channel.sent.length ≤ channel.taken := Nat.le_of_not_lt h
    cases channel.sendersDropped <;> simp [h, hnil]

/-- A receive waits exactly while the channel is empty and has a sender. -/
theorem recv_eq_pending_iff :
    channel.recv = .pending ↔ channel.queue = [] ∧ channel.sendersDropped = false := by
  unfold recv queue
  by_cases h : channel.taken < channel.sent.length
  · have hne : ¬ channel.sent.length ≤ channel.taken := Nat.not_le.mpr h
    simp [h, hne]
  · have hnil : channel.sent.length ≤ channel.taken := Nat.le_of_not_lt h
    cases channel.sendersDropped <;> simp [h, hnil]

/-- A value queued when all before it are taken is the next to be received. -/
theorem recv_push_of_drained (value : α) (h : channel.HasRoom)
    (hdrained : channel.taken = channel.sent.length) :
    ∃ hnonempty, (channel.push value h).recv =
      .received value ((channel.push value h).pop hnonempty) := by
  have hnonempty : (channel.push value h).taken < (channel.push value h).sent.length := by
    simp [push, hdrained]
  refine ⟨hnonempty, recv_eq_received_iff.mpr ⟨hnonempty, ?_, rfl⟩⟩
  simp [queue, push, pop, hdrained]

/-- A channel that holds nothing has room. -/
theorem hasRoom_of_queue_eq_nil (h : channel.queue = []) (hcapacity : 0 < capacity) :
    channel.HasRoom := by
  rw [queue, List.drop_eq_nil_iff] at h
  rw [HasRoom]
  omega

/-- Taking values makes room. -/
theorem HasRoom.of_pop {h : channel.taken < channel.sent.length} :
    (channel.pop h).HasRoom := by
  have := channel.length_le
  simp only [HasRoom, pop]
  omega

end Channel

end TacacsRs.Rust
