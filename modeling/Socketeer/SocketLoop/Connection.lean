import Socketeer.Foundation.Channel
import Socketeer.Message

/-! # The socket loop

The task spawned for a connection, as a machine whose states are the points at
which it can be suspended: at one of the two `select!`s, inside a handler that
awaits the sink, or on its way out after the loop state has left `Running`. A
function of the source that awaits is cut at the await: the definition with its
name runs up to the await, and the one called `resume` runs on from the result.
What is between two awaits is one step, except on the way out, where the slot
is written and the two channel ends are dropped in three steps that other tasks
can observe separately.
-/

namespace Socketeer

open Foundation

variable {cfg : LoopConfig} {E : Type}

inductive LoopState (E : Type) where
  | running
  | error (cause : Error E)
  | closed
  deriving DecidableEq, Repr

inductive Incoming (E : Type) where
  | state (state : LoopState E)
  | data (message : Message)
  deriving DecidableEq, Repr

/-- The two places a handler is called from: the `select!` of
`socket_loop_split`, and the one of `deliver_with_backpressure`, which holds a
frame. -/
inductive Site where
  | outer
  | backpressure (frame : Message)
  deriving DecidableEq, Repr

/-- What is left of `socket_loop_split` once its loop has ended. The parameters
are dropped in reverse order, so the rx sender goes before the tx receiver. -/
inductive Stage where
  | recording
  | droppingSender
  | droppingReceiver
  | finished
  deriving DecidableEq, Repr

/-- The points at which the task can be suspended. -/
inductive LoopPc (E : Type) where
  | select (site : Site)
  | sending (payload : TxChannelPayload) (site : Site)
  | ponging
  | closing
  | keepalive (site : Site)
  | leaving (state : LoopState E) (stage : Stage)
  deriving DecidableEq, Repr

/-- Where the loop state returned by a handler takes the task: back to the
`select!` it was called from while the state is `Running`, and out of both
loops otherwise. -/
def LoopState.next (state : LoopState E) (site : Site) : LoopPc E :=
  match state with
  | .running => .select site
  | .error cause => .leaving (.error cause) .recording
  | .closed => .leaving .closed .recording

/-- Why a message is passed to the sink. -/
inductive Origin where
  | outgoing (responseTx : Option CallId)
  | pong
  | keepalive
  deriving DecidableEq, Repr

/-- A completed operation on the sink. -/
inductive SinkOp (E : Type) where
  | send (origin : Origin) (message : Message) (result : Except E Unit)
  | close (result : Except E Unit)

/-- The state shared by the task and the handles, with the state of the task
and its history: the items read from the stream and the completed operations on
the sink. -/
structure Connection (cfg : LoopConfig) (E : Type) where
  tx : Channel TxChannelPayload HandleId Unit cfg.channelSize
  rx : Channel Message Unit HandleId cfg.channelSize
  oneshots : CallId → Oneshot (Except (Error E) Unit)
  terminalError : Option (Error E)
  pc : LoopPc E
  items : List (StreamItem E)
  sinkOps : List (SinkOp E)

namespace Connection

/-- The state in which `connect_with_codec` spawns the task: the handle owns
one end of each channel and the slot is empty. -/
def create (cfg : LoopConfig) (E : Type) (handle : HandleId) : Connection cfg E where
  tx := .create {handle} ()
  rx := .create {()} handle
  oneshots := fun _ => .create
  terminalError := none
  pc := .select .outer
  items := []
  sinkOps := []

/-- The connection once an operation on the sink has completed. -/
def recorded (connection : Connection cfg E) (op : SinkOp E) : Connection cfg E :=
  { connection with sinkOps := connection.sinkOps ++ [op] }

/-- Go where the loop state returned by a handler takes the task. -/
def goto (connection : Connection cfg E) (state : LoopState E) (site : Site) :
    Connection cfg E :=
  { connection with pc := state.next site }

/-- `send_socket_message`, up to its `sink.send`. -/
def sendSocketMessage (connection : Connection cfg E) (message : Option TxChannelPayload)
    (site : Site) : Connection cfg E :=
  match message with
  | some message => { connection with pc := .sending message site }
  | none => connection.goto (.error .socketeerDroppedWithoutClosing) site

/-- The loop state `send_socket_message` returns, from the result of the send
and from whether the caller, if any, took the reply. -/
def sendSocketMessageState (sendResult : Except (Error E) Unit) (replied : Bool) : LoopState E :=
  if replied then
    match sendResult with
    | .ok () => .running
    | .error _ => .error .websocketClosed
  else .error .socketeerDroppedWithoutClosing

/-- `send_socket_message`, from the result of its `sink.send`. -/
def sendSocketMessage.resume (connection : Connection cfg E) (payload : TxChannelPayload)
    (site : Site) (result : Except E Unit) : Connection cfg E :=
  let sendResult := result.mapError Error.websocketError
  let sent := connection.recorded (.send (.outgoing payload.responseTx) payload.message result)
  match payload.responseTx with
  | some call =>
      let reply := (connection.oneshots call).send sendResult
      { sent with oneshots := Function.update connection.oneshots call reply.1 }.goto
        (sendSocketMessageState sendResult reply.2) site
  | none => sent.goto (sendSocketMessageState sendResult true) site

/-- The payload of every `Pong` the loop writes. -/
def pongBytes : Bytes := [112, 111, 110, 103]

/-- What `handle_incoming` does with an item: return at once, or await one of
two operations on the sink. -/
inductive IncomingTurn (E : Type) where
  | ready (incoming : Incoming E)
  | sendPong
  | closeSink

/-- `handle_incoming`, up to its operation on the sink. -/
def handleIncoming : StreamItem E → IncomingTurn E
  | some (.ok message) =>
      match message with
      | .ping _ => .sendPong
      | .close _ => .closeSink
      | .text payload => .ready (.data (.text payload))
      | .binary payload => .ready (.data (.binary payload))
      | .pong _ | .frame _ => .ready (.state .running)
  | some (.error e) => .ready (.state (.error (.websocketError e)))
  | none => .ready (.state (.error .websocketClosed))

/-- The loop state for the result of writing a `Pong` or a keepalive. -/
def sendState (result : Except E Unit) : LoopState E :=
  match result with
  | .ok () => .running
  | .error e => .error (.websocketError e)

/-- The loop state for the result of closing the sink. -/
def closeState (result : Except E Unit) : LoopState E :=
  match result with
  | .ok () => .closed
  | .error e => .error (.websocketError e)

/-- `handle_incoming`, from the result of writing the `Pong`. -/
def handleIncoming.resumePong (connection : Connection cfg E) (result : Except E Unit) :
    Connection cfg E :=
  (connection.recorded (.send .pong (.pong pongBytes) result)).goto (sendState result) .outer

/-- `handle_incoming`, from the result of closing the sink. -/
def handleIncoming.resumeClose (connection : Connection cfg E) (result : Except E Unit) :
    Connection cfg E :=
  (connection.recorded (.close result)).goto (closeState result) .outer

/-- The message `send_keepalive` writes. -/
def keepaliveMessage (customMessage : Option Message) : Message :=
  match customMessage with
  | some custom => custom
  | none => .ping []

/-- `send_keepalive`, from the result of its `sink.send`. -/
def sendKeepalive.resume (connection : Connection cfg E) (site : Site) (result : Except E Unit) :
    Connection cfg E :=
  (connection.recorded (.send .keepalive (keepaliveMessage cfg.customKeepaliveMessage) result)).goto
    (sendState result) site

/-- `deliver_with_backpressure`, up to its `select!`: the fast path, or the
frame is held. -/
def deliverWithBackpressure (connection : Connection cfg E) (frame : Message) :
    Connection cfg E :=
  match connection.rx.send frame with
  | .ready (some rx) => { connection with rx := rx }.goto .running .outer
  | .ready none => connection.goto (.error .socketeerDroppedWithoutClosing) .outer
  | .pending => { connection with pc := .select (.backpressure frame) }

/-- The arms of the two `select!`s. The stream hands out any item. -/
inductive Arm (E : Type) where
  | outgoing
  | incoming (item : StreamItem E)
  | reserve
  | sleep

/-- The `receiver.recv()` arm of either `select!`. -/
def recvOutgoing (connection : Connection cfg E) (site : Site) : Option (Connection cfg E) :=
  match connection.tx.recv with
  | .ready (some (message, tx)) =>
      some ({ connection with tx := tx }.sendSocketMessage (some message) site)
  | .ready none => some (connection.sendSocketMessage none site)
  | .pending => none

/-- The `sleep(interval)` arm of either `select!`, which exists with a keepalive
interval only. -/
def sendKeepalive (connection : Connection cfg E) (site : Site) : Option (Connection cfg E) :=
  match cfg.keepaliveInterval with
  | some _ => some { connection with pc := .keepalive site }
  | none => none

/-- One turn of the `while` loop of `socket_loop_split`, up to the await of the
handler that runs. -/
def socketLoopSplit (connection : Connection cfg E) : Arm E → Option (Connection cfg E)
  | .outgoing => connection.recvOutgoing .outer
  | .incoming item =>
      let read := { connection with items := connection.items ++ [item] }
      match handleIncoming item with
      | .ready (.state state) => some (read.goto state .outer)
      | .ready (.data frame) => some (read.deliverWithBackpressure frame)
      | .sendPong => some { read with pc := .ponging }
      | .closeSink => some { read with pc := .closing }
  | .sleep => connection.sendKeepalive .outer
  | .reserve => none

/-- One turn of the loop of `deliver_with_backpressure`, up to the await of the
handler that runs. The stream is not an arm of its `select!`. -/
def deliverWithBackpressure.turn (connection : Connection cfg E) (frame : Message) :
    Arm E → Option (Connection cfg E)
  | .outgoing => connection.recvOutgoing (.backpressure frame)
  | .incoming _ => none
  | .sleep => connection.sendKeepalive (.backpressure frame)
  | .reserve =>
      match connection.rx.send frame with
      | .ready (some rx) => some ({ connection with rx := rx }.goto .running .outer)
      | .ready none =>
          some (connection.goto (.error .socketeerDroppedWithoutClosing) (.backpressure frame))
      | .pending => none

/-- Dropping a queued payload drops the sender of its one-shot. -/
def dropPayloads (payloads : List TxChannelPayload)
    (oneshots : CallId → Oneshot (Except (Error E) Unit)) :
    CallId → Oneshot (Except (Error E) Unit) := fun call =>
  if some call ∈ payloads.map TxChannelPayload.responseTx then (oneshots call).dropSender
  else oneshots call

/-- The slot after the terminal cause, if any, has been recorded in it. -/
def recordTerminal (state : LoopState E) (slot : Option (Error E)) : Option (Error E) :=
  match state with
  | .error e => some e
  | .closed | .running => slot

/-- `socket_loop_split` after its loop: record the terminal cause, then drop
the rx sender, then the tx receiver with what is queued on it. -/
def socketLoopSplit.finish (connection : Connection cfg E) (state : LoopState E) :
    Stage → Option (Connection cfg E)
  | .recording =>
      some { connection with
        terminalError := recordTerminal state connection.terminalError
        pc := .leaving state .droppingSender }
  | .droppingSender =>
      some { connection with
        rx := connection.rx.dropSender ()
        pc := .leaving state .droppingReceiver }
  | .droppingReceiver =>
      some { connection with
        tx := connection.tx.dropReceiver
        oneshots := dropPayloads connection.tx.queue connection.oneshots
        pc := .leaving state .finished }
  | .finished => none

/-- A step of the task: an arm of the `select!` it waits at, the result of the
operation it awaits on the sink, or a stage of its way out. -/
inductive LoopAction (E : Type) where
  | arm (arm : Arm E)
  | sink (result : Except E Unit)
  | finish

def loopStep (connection : Connection cfg E) : LoopAction E → Option (Connection cfg E)
  | .arm arm =>
      match connection.pc with
      | .select .outer => connection.socketLoopSplit arm
      | .select (.backpressure frame) => deliverWithBackpressure.turn connection frame arm
      | _ => none
  | .sink result =>
      match connection.pc with
      | .sending payload site => some (sendSocketMessage.resume connection payload site result)
      | .ponging => some (handleIncoming.resumePong connection result)
      | .closing => some (handleIncoming.resumeClose connection result)
      | .keepalive site => some (sendKeepalive.resume connection site result)
      | _ => none
  | .finish =>
      match connection.pc with
      | .leaving state stage => socketLoopSplit.finish connection state stage
      | _ => none

end Connection

end Socketeer
