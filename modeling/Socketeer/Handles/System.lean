import Mathlib.Data.Finset.Basic
import Socketeer.Foundation.Machine
import Socketeer.SocketLoop.Connection

/-! # Handles and calls

A connection together with the handles that own its channel ends and the calls
in flight on them. A handle is named by an identifier, and what it is follows
from the ends it owns: a `Socketeer` owns the tx sender and the rx receiver, a
`SocketeerTx` only a sender, a `SocketeerRx` only the receiver. A call is cut at
its awaits, and dropping its future between two of them cancels it.

Calls follow the borrows of their receivers: sends share a handle, receives
have it to themselves, and `close_connection` and `reconnect` own it until they
end, whereupon its channel ends are dropped.
-/

namespace Socketeer

open Foundation

variable {cfg : LoopConfig} {E : Type}

/-- What a handle can be asked for. Encoding and decoding by the codec happen
before the first and after the last of the steps below. -/
inductive Op where
  | sendRaw (message : Message)
  | sendRawUnconfirmed (message : Message)
  | close
  | closeConnection
  | reconnect
  | nextRawMessage
  | pollNext
  deriving DecidableEq, Repr

/-- How a call returned. A send returns the result it received on its one-shot,
or an error because the tx channel is closed. -/
inductive Outcome (E : Type) where
  | replied (result : Except (Error E) Unit)
  | refused (error : Error E)
  | enqueued
  | closed (result : Except (Error E) Unit)
  | reconnected
  | received (result : Except (Error E) Message)
  | polled (item : Option (Except (Error E) Message))

/-- The points at which a call can be suspended, and how it can end. -/
inductive CallPc (E : Type) where
  | sending
  | awaitingReply
  | joining (closeSent : Except (Error E) Unit)
  | connecting
  | receiving
  | returned (outcome : Outcome E)
  | panicked
  | cancelled

structure Call (E : Type) where
  op : Op
  handle : HandleId
  pc : CallPc E

/-- A connection, its calls, and the accesses to the terminal slot in order,
each with the call that made it and what it took. -/
structure System (cfg : LoopConfig) (E : Type) where
  conn : Connection cfg E
  calls : CallId → Option (Call E)
  started : CallId
  slotReads : List (CallId × Option (Error E))

/-- Whether the future of the call still exists. -/
def CallPc.inFlight : CallPc E → Bool
  | .sending | .awaitingReply | .joining _ | .connecting | .receiving => true
  | .returned _ | .panicked | .cancelled => false

/-- The calls that take the handle by value. -/
def Op.consumes : Op → Bool
  | .closeConnection | .reconnect => true
  | _ => false

/-- The calls that receive from the rx channel. -/
def Op.receives : Op → Bool
  | .nextRawMessage | .pollNext => true
  | _ => false

/-- The calls that send a message of the caller. -/
def Op.sends : Op → Bool
  | .sendRaw _ | .sendRawUnconfirmed _ => true
  | _ => false

/-- The close frame enqueued by `send_close`. -/
def closeMessage : Message :=
  .close (some { code := 1000, reason := "Closing Connection" })

/-- The payload a call enqueues. -/
def Op.payload (call : CallId) : Op → Option TxChannelPayload
  | .sendRaw message => some { message := message, responseTx := some call }
  | .sendRawUnconfirmed message => some { message := message, responseTx := none }
  | .close | .closeConnection | .reconnect =>
      some { message := closeMessage, responseTx := some call }
  | .nextRawMessage | .pollNext => none

/-- Where a call goes once its payload is accepted. -/
def Op.accepted : Op → CallPc E
  | .sendRawUnconfirmed _ => .returned .enqueued
  | _ => .awaitingReply

/-- Where a call goes with the result of its confirmed send, or of the close
frame it sent. `reconnect` ignores the result. -/
def Op.answered (result : Except (Error E) Unit) : Op → CallPc E
  | .closeConnection => .joining result
  | .reconnect => .connecting
  | _ => .returned (.replied result)

/-- Where a call goes when `send_close` finds the tx channel closed. -/
def Op.refusedClose : Op → CallPc E
  | .closeConnection => .joining (.error .websocketClosed)
  | .reconnect => .connecting
  | _ => .returned (.refused .websocketClosed)

namespace Connection

/-- Drop the channel ends a handle owns. -/
def dropHandle (connection : Connection cfg E) (handle : HandleId) : Connection cfg E :=
  { connection with
    tx := connection.tx.dropSender handle
    rx := if connection.rx.receiver = some handle then connection.rx.dropReceiver
      else connection.rx }

/-- The connection once a call is at a new point: the end of a call that owns
its handle drops the handle. -/
def settle (connection : Connection cfg E) (record : Call E) (pc : CallPc E) :
    Connection cfg E :=
  if record.op.consumes ∧ ¬ pc.inFlight then connection.dropHandle record.handle else connection

/-- Drop the receiver of the one-shot of a call. -/
def hangUp (connection : Connection cfg E) (call : CallId) : Connection cfg E :=
  { connection with
    oneshots := Function.update connection.oneshots call
      (connection.oneshots call).dropReceiver }

/-- Whether the handle owns a tx sender and no receiver. -/
def IsTx (connection : Connection cfg E) (handle : HandleId) : Prop :=
  handle ∈ connection.tx.senders ∧ connection.rx.receiver ≠ some handle

/-- Whether the handle owns the rx receiver and no sender. -/
def IsRx (connection : Connection cfg E) (handle : HandleId) : Prop :=
  handle ∉ connection.tx.senders ∧ connection.rx.receiver = some handle

/-- Whether the handle owns both ends. -/
def IsSocketeer (connection : Connection cfg E) (handle : HandleId) : Prop :=
  handle ∈ connection.tx.senders ∧ connection.rx.receiver = some handle

/-- Whether no handle has this name. -/
def Unused (connection : Connection cfg E) (handle : HandleId) : Prop :=
  handle ∉ connection.tx.senders ∧ connection.rx.receiver ≠ some handle

instance (connection : Connection cfg E) (handle : HandleId) : Decidable (connection.IsTx handle) :=
  inferInstanceAs (Decidable (_ ∧ _))

instance (connection : Connection cfg E) (handle : HandleId) : Decidable (connection.IsRx handle) :=
  inferInstanceAs (Decidable (_ ∧ _))

instance (connection : Connection cfg E) (handle : HandleId) :
    Decidable (connection.IsSocketeer handle) :=
  inferInstanceAs (Decidable (_ ∧ _))

instance (connection : Connection cfg E) (handle : HandleId) :
    Decidable (connection.Unused handle) :=
  inferInstanceAs (Decidable (_ ∧ _))

end Connection

namespace System

/-- The state in which `connect_with_codec` returns its handle. -/
def create (cfg : LoopConfig) (E : Type) : System cfg E where
  conn := .create cfg E 0
  calls := fun _ => none
  started := 0
  slotReads := []

/-- Whether a call is in flight on a handle. -/
def Borrows (s : System cfg E) (handle : HandleId) (call : CallId) : Prop :=
  ∃ record ∈ s.calls call, record.handle = handle ∧ record.pc.inFlight

/-- Whether a call is one of those that share their handle. -/
def Shares (s : System cfg E) (call : CallId) : Prop :=
  ∀ record ∈ s.calls call, ¬ record.op.consumes ∧ ¬ record.op.receives

instance (s : System cfg E) (handle : HandleId) (call : CallId) :
    Decidable (s.Borrows handle call) :=
  inferInstanceAs (Decidable (∃ record ∈ s.calls call, _))

instance (s : System cfg E) (call : CallId) : Decidable (s.Shares call) :=
  inferInstanceAs (Decidable (∀ record ∈ s.calls call, _))

/-- No call is in flight on the handle. -/
def Idle (s : System cfg E) (handle : HandleId) : Prop :=
  ∀ call < s.started, ¬ s.Borrows handle call

/-- Every call in flight on the handle shares it. -/
def Shared (s : System cfg E) (handle : HandleId) : Prop :=
  ∀ call < s.started, s.Borrows handle call → s.Shares call

instance (s : System cfg E) (handle : HandleId) : Decidable (s.Idle handle) :=
  inferInstanceAs (Decidable (∀ call < s.started, _))

instance (s : System cfg E) (handle : HandleId) : Decidable (s.Shared handle) :=
  inferInstanceAs (Decidable (∀ call < s.started, _))

/-- What may be asked of a handle, by its type and by the calls in flight. -/
def Permits (s : System cfg E) (handle : HandleId) : Op → Prop
  | .sendRaw _ => handle ∈ s.conn.tx.senders ∧ s.Shared handle
  | .sendRawUnconfirmed _ | .close => s.conn.IsTx handle ∧ s.Shared handle
  | .closeConnection | .reconnect => s.conn.IsSocketeer handle ∧ s.Idle handle
  | .nextRawMessage | .pollNext => s.conn.rx.receiver = some handle ∧ s.Idle handle

instance (s : System cfg E) (handle : HandleId) (op : Op) : Decidable (s.Permits handle op) := by
  cases op <;> exact inferInstanceAs (Decidable (_ ∧ _))

/-- Add a call. -/
def begin (s : System cfg E) (handle : HandleId) (op : Op) (pc : CallPc E) : System cfg E :=
  { s with
    calls := Function.update s.calls s.started (some { op := op, handle := handle, pc := pc })
    started := s.started + 1 }

/-- Move a call on; when it ends and owns its handle, the handle is dropped. -/
def moveTo (s : System cfg E) (call : CallId) (record : Call E) (pc : CallPc E) : System cfg E :=
  { s with
    conn := s.conn.settle record pc
    calls := Function.update s.calls call (some { record with pc := pc }) }

/-- `take_terminal_error_opt`: take what is in the slot. -/
def takeTerminalErrorOpt (s : System cfg E) (call : CallId) : System cfg E :=
  { s with
    conn := { s.conn with terminalError := none }
    slotReads := s.slotReads ++ [(call, s.conn.terminalError)] }

/-- The error `take_terminal_error` returns for what was in the slot. -/
def takeTerminalError (slot : Option (Error E)) : Error E :=
  slot.getD .websocketClosed

/-- A sending call whose tx channel is closed: `send_confirmed` and
`send_unconfirmed` go to the slot, `send_close` does not. -/
def refuse (s : System cfg E) (call : CallId) (record : Call E) : System cfg E :=
  match record.op with
  | .sendRaw _ | .sendRawUnconfirmed _ =>
      (s.takeTerminalErrorOpt call).moveTo call record
        (.returned (.refused (takeTerminalError s.conn.terminalError)))
  | _ => s.moveTo call record record.op.refusedClose

/-- `send_confirmed`, `send_unconfirmed` and `send_close` at their
`sender.send`. -/
def advanceSending (s : System cfg E) (call : CallId) (record : Call E) :
    Option (System cfg E) :=
  match record.op.payload call with
  | none => none
  | some payload =>
      match s.conn.tx.send payload with
      | .ready (some tx) =>
          some (({ s with conn := { s.conn with tx := tx } } : System cfg E).moveTo call record
            record.op.accepted)
      | .ready none => some (s.refuse call record)
      | .pending => none

/-- `send_confirmed` and `send_close` at their one-shot: when its sender is
gone without an answer they reach `unreachable!`. -/
def advanceReply (s : System cfg E) (call : CallId) (record : Call E) : Option (System cfg E) :=
  match (s.conn.oneshots call).recv with
  | .ready (some result) => some (s.moveTo call record (record.op.answered result))
  | .ready none => some (s.moveTo call record .panicked)
  | .pending => none

/-- `close_connection` at the join handle of the task. -/
def advanceJoining (s : System cfg E) (call : CallId) (record : Call E)
    (closeSent : Except (Error E) Unit) : Option (System cfg E) :=
  match s.conn.pc with
  | .leaving _ .finished =>
      some ((s.takeTerminalErrorOpt call).moveTo call record
        (.returned (.closed (match s.conn.terminalError with
          | some error => .error error
          | none => closeSent))))
  | _ => none

/-- `recv_raw` at its `receiver.recv`. -/
def recvRaw (s : System cfg E) (call : CallId) (record : Call E) : Option (System cfg E) :=
  match s.conn.rx.recv with
  | .ready (some (message, rx)) =>
      some (({ s with conn := { s.conn with rx := rx } } : System cfg E).moveTo call record
        (.returned (.received (.ok message))))
  | .ready none =>
      some ((s.takeTerminalErrorOpt call).moveTo call record
        (.returned (.received (.error (takeTerminalError s.conn.terminalError)))))
  | .pending => none

/-- `poll_recv_raw`: a call that returns at once, or a pending poll, which
changes nothing. -/
def pollRecvRaw (s : System cfg E) (handle : HandleId) : System cfg E :=
  match s.conn.rx.recv with
  | .ready (some (message, rx)) =>
      ({ s with conn := { s.conn with rx := rx } } : System cfg E).begin handle .pollNext
        (.returned (.polled (some (.ok message))))
  | .ready none =>
      (s.takeTerminalErrorOpt s.started).begin handle .pollNext
        (.returned (.polled (s.conn.terminalError.map .error)))
  | .pending => s

/-- Start a call. -/
def start (s : System cfg E) (handle : HandleId) (op : Op) : Option (System cfg E) :=
  if s.Permits handle op then
    match op with
    | .pollNext => some (s.pollRecvRaw handle)
    | .nextRawMessage => some (s.begin handle op .receiving)
    | _ => some (s.begin handle op .sending)
  else none

/-- Poll the future of a call that can make progress. -/
def advance (s : System cfg E) (call : CallId) : Option (System cfg E) :=
  match s.calls call with
  | none => none
  | some record =>
      match record.pc with
      | .sending => s.advanceSending call record
      | .awaitingReply => s.advanceReply call record
      | .joining closeSent => s.advanceJoining call record closeSent
      | .connecting => some (s.moveTo call record (.returned .reconnected))
      | .receiving => s.recvRaw call record
      | .returned _ | .panicked | .cancelled => none

/-- Drop the future of a call. -/
def cancel (s : System cfg E) (call : CallId) : Option (System cfg E) :=
  match s.calls call with
  | none => none
  | some record =>
      if record.pc.inFlight then
        some (({ s with conn := s.conn.hangUp call } : System cfg E).moveTo call record .cancelled)
      else none

/-- `SocketeerTx::clone`. -/
def clone (s : System cfg E) (handle fresh : HandleId) : Option (System cfg E) :=
  if s.conn.IsTx handle ∧ s.conn.Unused fresh then
    some { s with conn := { s.conn with tx := s.conn.tx.addSender fresh } }
  else none

/-- `Socketeer::split`: the sender keeps the name, the receiver gets a new one. -/
def split (s : System cfg E) (handle fresh : HandleId) : Option (System cfg E) :=
  if s.conn.IsSocketeer handle ∧ s.Idle handle ∧ s.conn.Unused fresh then
    some { s with conn := { s.conn with rx := s.conn.rx.moveReceiver fresh } }
  else none

/-- `SocketeerRx::reunite` with a sender of the same connection. -/
def reunite (s : System cfg E) (rx tx : HandleId) : Option (System cfg E) :=
  if s.conn.IsRx rx ∧ s.conn.IsTx tx ∧ s.Idle rx ∧ s.Idle tx then
    some { s with conn := { s.conn with rx := s.conn.rx.moveReceiver tx } }
  else none

/-- Drop a handle. -/
def drop (s : System cfg E) (handle : HandleId) : Option (System cfg E) :=
  if ¬ s.conn.Unused handle ∧ s.Idle handle then
    some { s with conn := s.conn.dropHandle handle }
  else none

end System

/-- A step of the task, of a call, or of the owner of a handle. -/
inductive Action (E : Type) where
  | loop (action : Connection.LoopAction E)
  | start (handle : HandleId) (op : Op)
  | advance (call : CallId)
  | cancel (call : CallId)
  | clone (handle fresh : HandleId)
  | split (handle fresh : HandleId)
  | reunite (rx tx : HandleId)
  | drop (handle : HandleId)

def System.step (s : System cfg E) : Action E → Option (System cfg E)
  | .loop action => (s.conn.loopStep action).map fun conn => { s with conn := conn }
  | .start handle op => s.start handle op
  | .advance call => s.advance call
  | .cancel call => s.cancel call
  | .clone handle fresh => s.clone handle fresh
  | .split handle fresh => s.split handle fresh
  | .reunite rx tx => s.reunite rx tx
  | .drop handle => s.drop handle

/-- Every interleaving of the task, the calls and the owners of the handles. -/
def system (cfg : LoopConfig) (E : Type) : Machine (System cfg E) (Action E) where
  init := .create cfg E
  step := System.step

end Socketeer
