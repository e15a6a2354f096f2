import Mathlib.Data.Finset.Basic
import Mathlib.Data.List.Infix

/-! # Bounded channels and one-shot cells

A bounded first-in first-out channel whose ends are held by named owners: any
number of senders, and at most one receiver. The channel carries its ledger,
everything that was ever accepted and everything that was ever taken. While the
receiver is held, what was accepted is what was taken followed by what is
queued; dropping the receiver discards the queue, and from then on nothing is
accepted. A one-shot cell passes at most one value between two ends.
-/

namespace Foundation

/-- The outcome of polling something that may have to wait. -/
inductive Poll (α : Type*) where
  | ready (value : α)
  | pending

/-- Whether it has to wait. -/
def Poll.isPending {α : Type*} : Poll α → Bool
  | .pending => true
  | .ready _ => false

/-- A poll is pending exactly if it is the pending answer. -/
theorem Poll.isPending_iff {α : Type*} {poll : Poll α} :
    poll.isPending = true ↔ poll = .pending := by
  cases poll <;> simp [isPending]

/-- A bounded channel together with its ledger. -/
structure Channel (α ι κ : Type*) (capacity : Nat) where
  queue : List α
  senders : Finset ι
  receiver : Option κ
  sent : List α
  taken : List α
  bounded : queue.length ≤ capacity
  ordered : taken ++ queue <+: sent
  complete : receiver.isSome → taken ++ queue = sent

namespace Channel

variable {α ι κ : Type*} {capacity : Nat}

/-- An empty channel whose ends have just been handed out. -/
def create (senders : Finset ι) (receiver : κ) : Channel α ι κ capacity where
  queue := []
  senders := senders
  receiver := some receiver
  sent := []
  taken := []
  bounded := Nat.zero_le _
  ordered := List.prefix_refl _
  complete := fun _ => rfl

/-- Accept a value for which there is room. -/
def push (channel : Channel α ι κ capacity) (value : α) (held : channel.receiver.isSome)
    (room : channel.queue.length < capacity) : Channel α ι κ capacity :=
  { channel with
    queue := channel.queue ++ [value]
    sent := channel.sent ++ [value]
    bounded := by
      rw [List.length_append]
      exact room
    ordered := by rw [← List.append_assoc, channel.complete held]
    complete := fun _ => by rw [← List.append_assoc, channel.complete held] }

/-- Take the head of the queue. -/
def pop (channel : Channel α ι κ capacity) {value : α} {rest : List α}
    (head : channel.queue = value :: rest) : Channel α ι κ capacity :=
  { channel with
    queue := rest
    taken := channel.taken ++ [value]
    bounded := by
      have bounded := channel.bounded
      rw [head, List.length_cons] at bounded
      omega
    ordered := by
      have ordered := channel.ordered
      rwa [head, List.append_cons] at ordered
    complete := fun held => by
      have complete := channel.complete held
      rwa [head, List.append_cons] at complete }

/-- Send a value: ready with the channel that accepted it, ready with nothing
once the receiver is gone, pending while the queue is full. -/
def send (channel : Channel α ι κ capacity) (value : α) :
    Poll (Option (Channel α ι κ capacity)) :=
  if held : channel.receiver.isSome then
    if room : channel.queue.length < capacity then .ready (some (channel.push value held room))
    else .pending
  else .ready none

/-- Receive a value: ready with the head of the queue, ready with nothing once
the queue is empty and every sender is gone, pending otherwise. -/
def recv [DecidableEq ι] (channel : Channel α ι κ capacity) :
    Poll (Option (α × Channel α ι κ capacity)) :=
  match head : channel.queue with
  | value :: _ => .ready (some (value, channel.pop head))
  | [] => if channel.senders = ∅ then .ready none else .pending

/-- Drop the receiver, and with it everything that is queued. -/
def dropReceiver (channel : Channel α ι κ capacity) : Channel α ι κ capacity :=
  { channel with
    queue := []
    receiver := none
    bounded := Nat.zero_le _
    ordered := by
      rw [List.append_nil]
      exact (List.prefix_append _ _).trans channel.ordered
    complete := fun held => by simp at held }

/-- Hand the receiver, if it is still held, to another owner. -/
def moveReceiver (channel : Channel α ι κ capacity) (owner : κ) : Channel α ι κ capacity :=
  { channel with
    receiver := channel.receiver.map fun _ => owner
    complete := fun held => channel.complete (by simpa using held) }

/-- Hand out a further sender. -/
def addSender [DecidableEq ι] (channel : Channel α ι κ capacity) (owner : ι) :
    Channel α ι κ capacity :=
  { channel with senders := insert owner channel.senders }

/-- Drop the sender of an owner. -/
def dropSender [DecidableEq ι] (channel : Channel α ι κ capacity) (owner : ι) :
    Channel α ι κ capacity :=
  { channel with senders := channel.senders.erase owner }

/-- Whether a send has to wait. -/
def Full (channel : Channel α ι κ capacity) : Prop :=
  channel.receiver.isSome ∧ capacity ≤ channel.queue.length

/-- Whether a send is accepted. -/
def HasRoom (channel : Channel α ι κ capacity) : Prop :=
  channel.receiver.isSome ∧ channel.queue.length < capacity

instance (channel : Channel α ι κ capacity) : Decidable channel.Full :=
  inferInstanceAs (Decidable (_ ∧ _))

instance (channel : Channel α ι κ capacity) : Decidable channel.HasRoom :=
  inferInstanceAs (Decidable (_ ∧ _))

section Spec

variable (channel : Channel α ι κ capacity)

/-- Dropping the receiver keeps the record of what was sent. -/
@[simp] theorem dropReceiver_sent : channel.dropReceiver.sent = channel.sent := rfl

/-- Dropping the receiver keeps the record of what was taken. -/
@[simp] theorem dropReceiver_taken : channel.dropReceiver.taken = channel.taken := rfl

/-- What was queued goes with the receiver. -/
@[simp] theorem dropReceiver_queue : channel.dropReceiver.queue = [] := rfl

/-- The senders outlive the receiver. -/
@[simp] theorem dropReceiver_senders : channel.dropReceiver.senders = channel.senders := rfl

/-- Nobody holds a receiver that was dropped. -/
@[simp] theorem dropReceiver_receiver : channel.dropReceiver.receiver = none := rfl

/-- A new owner of the receiver changes nothing that was sent. -/
@[simp] theorem moveReceiver_sent (owner : κ) :
    (channel.moveReceiver owner).sent = channel.sent := rfl

/-- A new owner of the receiver changes nothing that was taken. -/
@[simp] theorem moveReceiver_taken (owner : κ) :
    (channel.moveReceiver owner).taken = channel.taken := rfl

/-- The new owner of the receiver finds the queue as it was. -/
@[simp] theorem moveReceiver_queue (owner : κ) :
    (channel.moveReceiver owner).queue = channel.queue := rfl

/-- The senders are no concern of the receiver's owner. -/
@[simp] theorem moveReceiver_senders (owner : κ) :
    (channel.moveReceiver owner).senders = channel.senders := rfl

/-- The receiver has its new owner, if it was there to be moved. -/
@[simp] theorem moveReceiver_receiver (owner : κ) :
    (channel.moveReceiver owner).receiver = channel.receiver.map fun _ => owner := rfl

variable [DecidableEq ι]

/-- A further sender has sent nothing yet. -/
@[simp] theorem addSender_sent (owner : ι) : (channel.addSender owner).sent = channel.sent := rfl

/-- A further sender takes nothing. -/
@[simp] theorem addSender_taken (owner : ι) : (channel.addSender owner).taken = channel.taken :=
  rfl

/-- A further sender leaves the queue alone. -/
@[simp] theorem addSender_queue (owner : ι) : (channel.addSender owner).queue = channel.queue :=
  rfl

/-- The new sender is one of the senders. -/
@[simp] theorem addSender_senders (owner : ι) :
    (channel.addSender owner).senders = insert owner channel.senders := rfl

/-- A further sender leaves the receiver with its owner. -/
@[simp] theorem addSender_receiver (owner : ι) :
    (channel.addSender owner).receiver = channel.receiver := rfl

/-- What a sender has sent stays when it goes. -/
@[simp] theorem dropSender_sent (owner : ι) : (channel.dropSender owner).sent = channel.sent :=
  rfl

/-- A sender that goes takes nothing. -/
@[simp] theorem dropSender_taken (owner : ι) : (channel.dropSender owner).taken = channel.taken :=
  rfl

/-- What a sender has queued stays when it goes. -/
@[simp] theorem dropSender_queue (owner : ι) : (channel.dropSender owner).queue = channel.queue :=
  rfl

/-- The others still send. -/
@[simp] theorem dropSender_senders (owner : ι) :
    (channel.dropSender owner).senders = channel.senders.erase owner := rfl

/-- A sender that goes leaves the receiver with its owner. -/
@[simp] theorem dropSender_receiver (owner : ι) :
    (channel.dropSender owner).receiver = channel.receiver := rfl

end Spec

variable {channel next : Channel α ι κ capacity} {value : α}

/-- What an accepted value changes. -/
structure Accepted (channel : Channel α ι κ capacity) (value : α)
    (next : Channel α ι κ capacity) : Prop where
  held : channel.receiver.isSome
  room : channel.queue.length < capacity
  queue : next.queue = channel.queue ++ [value]
  sent : next.sent = channel.sent ++ [value]
  taken : next.taken = channel.taken
  senders : next.senders = channel.senders
  receiver : next.receiver = channel.receiver

/-- What a received value changes. -/
structure Received (channel : Channel α ι κ capacity) (value : α)
    (next : Channel α ι κ capacity) : Prop where
  queue : channel.queue = value :: next.queue
  sent : next.sent = channel.sent
  taken : next.taken = channel.taken ++ [value]
  senders : next.senders = channel.senders
  receiver : next.receiver = channel.receiver

/-- A send that succeeds is one that the channel accepted. -/
theorem send_ready_some (sends : channel.send value = .ready (some next)) :
    channel.Accepted value next := by
  unfold send at sends
  split at sends
  · rename_i held
    split at sends
    · rename_i room
      cases sends
      exact ⟨held, room, rfl, rfl, rfl, rfl, rfl⟩
    · cases sends
  · cases sends

/-- A send fails exactly if the receiver is gone. -/
theorem send_ready_none_iff : channel.send value = .ready none ↔ channel.receiver = none := by
  unfold send
  constructor
  · intro sends
    split at sends
    · split at sends <;> cases sends
    · rename_i absent
      simpa using absent
  · intro absent
    simp [absent]

/-- A send waits exactly for room in a queue that somebody still reads. -/
theorem send_pending_iff :
    channel.send value = .pending ↔ channel.receiver.isSome ∧ capacity ≤ channel.queue.length := by
  unfold send
  constructor
  · intro sends
    split at sends
    · rename_i held
      split at sends
      · cases sends
      · rename_i full
        exact ⟨held, Nat.not_lt.mp full⟩
    · cases sends
  · rintro ⟨held, full⟩
    simp [held, Nat.not_lt.mpr full]

/-- What was just received from is not full. -/
theorem Received.not_full (received : channel.Received value next) : ¬ next.Full := by
  rintro ⟨_, full⟩
  have bounded := channel.bounded
  rw [received.queue, List.length_cons] at bounded
  omega

/-- There is room where a value was taken. -/
theorem Received.hasRoom (received : channel.Received value next) (held : channel.receiver.isSome) :
    next.HasRoom := by
  refine ⟨by rwa [received.receiver], ?_⟩
  have bounded := channel.bounded
  rw [received.queue, List.length_cons] at bounded
  omega

/-- While the receiver is held and nothing is queued, all that was accepted has
been received. -/
theorem taken_eq_sent (held : channel.receiver.isSome) (empty : channel.queue = []) :
    channel.taken = channel.sent := by
  have complete := channel.complete held
  rwa [empty, List.append_nil] at complete

variable [DecidableEq ι]

/-- A receive that succeeds takes the first of the queue. -/
theorem recv_ready_some (receives : channel.recv = .ready (some (value, next))) :
    channel.Received value next := by
  unfold recv at receives
  split at receives
  · rename_i first rest head
    cases receives
    exact ⟨head, rfl, rfl, rfl, rfl⟩
  · split at receives <;> cases receives

/-- The receiver learns that it gets none exactly if the sender is gone without one.
-/
theorem recv_ready_none_iff :
    channel.recv = .ready none ↔ channel.queue = [] ∧ channel.senders = ∅ := by
  unfold recv
  split
  · rename_i first rest head
    simp [head]
  · rename_i empty
    split <;> simp_all

/-- A receive waits exactly if nothing is queued and somebody can still send. -/
theorem recv_pending_iff :
    channel.recv = .pending ↔ channel.queue = [] ∧ channel.senders ≠ ∅ := by
  unfold recv
  split
  · rename_i first rest head
    simp [head]
  · rename_i empty
    split <;> simp_all

/-- A nonempty queue is received from. -/
theorem recv_of_queue {rest : List α} (head : channel.queue = value :: rest) :
    ∃ next, channel.recv = .ready (some (value, next)) := by
  unfold recv
  split
  · rename_i first tail found
    obtain ⟨rfl, rfl⟩ := List.cons.inj (found.symm.trans head)
    exact ⟨_, rfl⟩
  · rename_i empty
    rw [head] at empty
    cases empty

end Channel

/-- A cell that passes one value from its sender to its receiver. -/
structure Oneshot (α : Type*) where
  value : Option α
  senderDropped : Bool
  receiverDropped : Bool

namespace Oneshot

variable {α : Type*}

/-- A cell both of whose ends are held. -/
def create : Oneshot α where
  value := none
  senderDropped := false
  receiverDropped := false

def dropSender (cell : Oneshot α) : Oneshot α :=
  { cell with senderDropped := true }

def dropReceiver (cell : Oneshot α) : Oneshot α :=
  { cell with receiverDropped := true }

/-- The cell holding a value that its sender sent. -/
def fill (cell : Oneshot α) (value : α) : Oneshot α :=
  { cell with value := some value, senderDropped := true }

/-- Send the value, consuming the sender. The result says whether there was
still a receiver for it. -/
def send (cell : Oneshot α) (value : α) : Oneshot α × Bool :=
  if cell.receiverDropped then (cell.dropSender, false) else (cell.fill value, true)

/-- Receive the value: ready with it once it is sent, ready with nothing when
the sender was dropped without sending. -/
def recv (cell : Oneshot α) : Poll (Option α) :=
  match cell.value with
  | some value => .ready (some value)
  | none => if cell.senderDropped then .ready none else .pending

/-- Somebody listens, and gets the value. -/
theorem send_of_listening {cell : Oneshot α} (listening : cell.receiverDropped = false)
    (value : α) : cell.send value = (cell.fill value, true) := by
  simp [send, listening]

/-- Nobody listens, and the value comes back to the sender. -/
theorem send_of_dropped {cell : Oneshot α} (dropped : cell.receiverDropped = true)
    (value : α) : cell.send value = (cell.dropSender, false) := by
  simp [send, dropped]

/-- The receiver gets a value exactly if one was sent. -/
theorem recv_ready_some_iff (cell : Oneshot α) (value : α) :
    cell.recv = .ready (some value) ↔ cell.value = some value := by
  unfold recv
  cases cell.value with
  | some held => simp
  | none => cases cell.senderDropped <;> simp

theorem recv_ready_none_iff (cell : Oneshot α) :
    cell.recv = .ready none ↔ cell.value = none ∧ cell.senderDropped = true := by
  unfold recv
  cases cell.value with
  | some held => simp
  | none => cases cell.senderDropped <;> simp

end Oneshot

end Foundation
