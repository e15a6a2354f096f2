import Socketeer.MockServer
import Socketeer.SocketLoop.Sink
import Socketeer.Handles.Receive

/-! # A connection and the echo server

The system and the echo server over two bounded pipes. A write of either side
is completed when its pipe accepts the frame, so it has to wait while the pipe
is full; it fails, and a read ends, once the other side has dropped the socket.
A side that closes its sink passes the Close frame that it has read back to the
other, unless it has sent one before.
-/

namespace Socketeer

open Foundation

variable {cfg : LoopConfig} {E : Type} {up down : Nat}

/-- A client, the server, and the frames on their way to the server and to the
client. -/
structure EchoPair (cfg : LoopConfig) (E : Type) (up down : Nat) where
  client : System cfg E
  server : EchoServer E
  toServer : Channel Message Unit Unit up
  toClient : Channel Message Unit Unit down

/-- What an end of the stream looks like to its reader, and the error of a write
that fails, are up to the network. -/
inductive EchoAction (E : Type) where
  | client (action : Action E)
  | clientReads (ending : Option E)
  | clientWrites (failure : E)
  | serverReads (ending : Option E)
  | serverWrites (failure : E)

/-- The Close frame that a side owes which has read this frame last. -/
def Message.closeReply : Message → Option Message
  | .close sent => some (.close sent)
  | .text _ | .binary _ | .ping _ | .pong _ | .frame _ => none

/-- Only a Close frame can be the reply to one. -/
theorem Message.closeReply_eq {message reply : Message}
    (replied : message.closeReply = some reply) : ∃ sent, reply = .close sent := by
  cases message with
  | close sent => exact ⟨sent, (Option.some.inj replied).symm⟩
  | text _ | binary _ | ping _ | pong _ | frame _ => cases replied

/-- Whether the operation has sent a Close frame. -/
def SinkOp.sentClose : SinkOp E → Bool
  | .send _ (.close _) (.ok ()) => true
  | .send _ _ _ | .close _ => false

/-- The frame that the operation on the sink puts on the wire that the task
awaits. -/
def Connection.wire (conn : Connection cfg E) : Option Message :=
  match conn.pc with
  | .closing =>
      if conn.sinkOps.any SinkOp.sentClose then none
      else conn.items.getLast?.bind fun item =>
        match item with
        | some (.ok message) => message.closeReply
        | some (.error _) | none => none
  | pc => (pc.passing cfg).map Prod.snd

/-- Whether the step is an operation on the socket. -/
def Action.onSocket : Action E → Bool
  | .loop (.arm (.incoming _)) | .loop (.sink _) => true
  | _ => false

namespace EchoPair

def create (cfg : LoopConfig) (E : Type) (up down : Nat) : EchoPair cfg E up down where
  client := .create cfg E
  server := .create
  toServer := .create {()} ()
  toClient := .create {()} ()

/-- The client has taken a step. The task drops the socket before its channel
ends. -/
def clientAt (p : EchoPair cfg E up down) (client : System cfg E) : EchoPair cfg E up down :=
  match client.conn.pc with
  | .leaving _ .recording => { p with client := client }
  | .leaving _ _ =>
      { p with
        client := client
        toServer := p.toServer.dropSender ()
        toClient := p.toClient.dropReceiver }
  | _ => { p with client := client }

/-- The server has taken a step. It drops the socket when it ends. -/
def serverAt (p : EchoPair cfg E up down) (server : EchoServer E) : EchoPair cfg E up down :=
  if server.pc.stopped then
    { p with
      server := server
      toServer := p.toServer.dropReceiver
      toClient := p.toClient.dropSender () }
  else { p with server := server }

def clientReads (p : EchoPair cfg E up down) (ending : Option E) :
    Option (EchoPair cfg E up down) :=
  match p.toClient.recv with
  | .ready (some (message, pipe)) =>
      (p.client.step (.loop (.arm (.incoming (some (.ok message)))))).map
        { p with toClient := pipe }.clientAt
  | .ready none => (p.client.step (.loop (.arm (.incoming (ending.map .error))))).map p.clientAt
  | .pending => none

def clientWrites (p : EchoPair cfg E up down) (failure : E) : Option (EchoPair cfg E up down) :=
  match p.client.conn.wire with
  | some message =>
      match p.toServer.send message with
      | .ready (some pipe) =>
          (p.client.step (.loop (.sink (.ok ())))).map { p with toServer := pipe }.clientAt
      | .ready none => (p.client.step (.loop (.sink (.error failure)))).map p.clientAt
      | .pending => none
  | none => (p.client.step (.loop (.sink (.ok ())))).map p.clientAt

def serverReads (parse : String → Option EchoControlMessage) (p : EchoPair cfg E up down)
    (ending : Option E) : Option (EchoPair cfg E up down) :=
  match p.server.pc with
  | .reading =>
      match p.toServer.recv with
      | .ready (some (message, pipe)) =>
          some ({ p with toServer := pipe }.serverAt (p.server.read parse (some (.ok message))))
      | .ready none => some (p.serverAt (p.server.read parse (ending.map .error)))
      | .pending => none
  | _ => none

/-- The frame that the operation on the sink puts on the wire that the server
awaits. It closes its sink only if it has not sent a Close frame. -/
def serverWire (p : EchoPair cfg E up down) : Option Message :=
  match p.server.pc with
  | .closing => p.toServer.taken.getLast?.bind Message.closeReply
  | pc => pc.passing

def serverWrites (p : EchoPair cfg E up down) (failure : E) : Option (EchoPair cfg E up down) :=
  match p.serverWire with
  | some message =>
      match p.toClient.send message with
      | .ready (some pipe) => some ({ p with toClient := pipe }.serverAt (p.server.resume (.ok ())))
      | .ready none => some (p.serverAt (p.server.resume (.error failure)))
      | .pending => none
  | none =>
      match p.server.pc with
      | .closing => some (p.serverAt (p.server.resume (.ok ())))
      | _ => none

def step (parse : String → Option EchoControlMessage) (p : EchoPair cfg E up down) :
    EchoAction E → Option (EchoPair cfg E up down)
  | .client action => if action.onSocket then none else (p.client.step action).map p.clientAt
  | .clientReads ending => p.clientReads ending
  | .clientWrites failure => p.clientWrites failure
  | .serverReads ending => p.serverReads parse ending
  | .serverWrites failure => p.serverWrites failure

end EchoPair

/-- Every interleaving of a client and the echo server. -/
def echoPair (parse : String → Option EchoControlMessage) (cfg : LoopConfig) (E : Type)
    (up down : Nat) : Machine (EchoPair cfg E up down) (EchoAction E) where
  init := .create cfg E up down
  step := EchoPair.step parse

namespace EchoPair

open Connection

/-- The task waits for room in the pipe to the server. -/
def LoopBlocked (p : EchoPair cfg E up down) : Prop :=
  (p.client.conn.pc.passing cfg).isSome ∧ p.toServer.Full

/-- The server waits for room in the pipe to the client, to send back a message. -/
def ServerBlocked (p : EchoPair cfg E up down) : Prop :=
  p.server.pc.isEchoing ∧ p.toClient.Full

/-- Frames for the consumer are on their way. -/
def Unread (p : EchoPair cfg E up down) : Prop :=
  ∃ frame ∈ p.toClient.queue, frame.data?.isSome

/-- Each side waits for the other to read, though the consumer has room. -/
def Deadlocked (p : EchoPair cfg E up down) : Prop :=
  p.LoopBlocked ∧ p.ServerBlocked ∧ p.Unread ∧ p.client.conn.rx.HasRoom

/-- The server waits for the client to read, and the pipe to it is full. -/
def Cornered (p : EchoPair cfg E up down) : Prop :=
  p.toServer.Full ∧ p.ServerBlocked ∧ p.Unread

/-- A step with which the task starts to write a message or a keepalive. -/
def startsWrite (p : EchoPair cfg E up down) : EchoAction E → Bool
  | .client (.loop (.arm .outgoing)) => !p.client.conn.tx.queue.isEmpty
  | .client (.loop (.arm .sleep)) => true
  | _ => false

/-- A step with which the consumer takes a frame. -/
def takesFrame (p : EchoPair cfg E up down) : EchoAction E → Bool
  | .client (.start _ .pollNext) => !p.client.conn.rx.queue.isEmpty
  | .client (.advance call) =>
      (p.client.calls call).any Call.isReceiving && !p.client.conn.rx.queue.isEmpty
  | _ => false

/-- A step that closes the circle: the task starts to write while the server
waits for it to read, or the consumer makes room once it has. -/
def Closes (p : EchoPair cfg E up down) (action : EchoAction E) : Prop :=
  p.Cornered ∧ ((p.startsWrite action ∧ p.client.conn.rx.HasRoom) ∨
    (p.takesFrame action ∧ (p.client.conn.pc.passing cfg).isSome))

instance (p : EchoPair cfg E up down) : Decidable p.LoopBlocked :=
  inferInstanceAs (Decidable (_ ∧ _))

instance (p : EchoPair cfg E up down) : Decidable p.ServerBlocked :=
  inferInstanceAs (Decidable (_ ∧ _))

instance (p : EchoPair cfg E up down) : Decidable p.Unread :=
  inferInstanceAs (Decidable (∃ frame ∈ p.toClient.queue, _))

instance (p : EchoPair cfg E up down) : Decidable p.Deadlocked :=
  inferInstanceAs (Decidable (_ ∧ _))

instance (p : EchoPair cfg E up down) : Decidable p.Cornered :=
  inferInstanceAs (Decidable (_ ∧ _))

instance (p : EchoPair cfg E up down) (action : EchoAction E) : Decidable (p.Closes action) :=
  inferInstanceAs (Decidable (_ ∧ _))

/-- The rules of the pair. -/
inductive Rule (parse : String → Option EchoControlMessage) (p : EchoPair cfg E up down) :
    EchoAction E → EchoPair cfg E up down → Prop where
  | client {action next} (offSocket : action.onSocket = false)
      (stepped : p.client.step action = some next) : Rule parse p (.client action) (p.clientAt next)
  | clientRead {ending message pipe next} (received : p.toClient.Received message pipe)
      (stepped : p.client.step (.loop (.arm (.incoming (some (.ok message))))) = some next) :
      Rule parse p (.clientReads ending) ({ p with toClient := pipe }.clientAt next)
  | clientEnd {ending next} (empty : p.toClient.queue = [])
      (stepped : p.client.step (.loop (.arm (.incoming (ending.map .error)))) = some next) :
      Rule parse p (.clientReads ending) (p.clientAt next)
  | clientWrote {failure result pipe next}
      (stepped : p.client.step (.loop (.sink result)) = some next) :
      Rule parse p (.clientWrites failure) ({ p with toServer := pipe }.clientAt next)
  | serverRead {ending message pipe} (received : p.toServer.Received message pipe) :
      Rule parse p (.serverReads ending)
        ({ p with toServer := pipe }.serverAt (p.server.read parse (some (.ok message))))
  | serverEnd {ending} (reading : p.server.pc = .reading) :
      Rule parse p (.serverReads ending)
        (p.serverAt (p.server.read parse (ending.map .error)))
  | serverWrote {failure result pipe} :
      Rule parse p (.serverWrites failure)
        ({ p with toClient := pipe }.serverAt (p.server.resume result))

variable {parse : String → Option EchoControlMessage} {p q : EchoPair cfg E up down}
  {action : EchoAction E}

/-- A step of the pair, by rules. -/
theorem step_rule (step : p.step parse action = some q) : Rule parse p action q := by
  cases action with
  | client action =>
      simp only [EchoPair.step] at step
      split at step
      · cases step
      · rename_i offSocket
        obtain ⟨next, stepped, rfl⟩ := Option.map_eq_some_iff.mp step
        exact .client (Bool.eq_false_of_not_eq_true offSocket) stepped
  | clientReads ending =>
      simp only [EchoPair.step, EchoPair.clientReads] at step
      split at step
      · rename_i message pipe received
        obtain ⟨next, stepped, rfl⟩ := Option.map_eq_some_iff.mp step
        exact .clientRead (Channel.recv_ready_some received) stepped
      · rename_i received
        obtain ⟨next, stepped, rfl⟩ := Option.map_eq_some_iff.mp step
        exact .clientEnd (Channel.recv_ready_none_iff.mp received).1 stepped
      · cases step
  | clientWrites failure =>
      simp only [EchoPair.step, EchoPair.clientWrites] at step
      split at step
      · split at step
        · obtain ⟨next, stepped, rfl⟩ := Option.map_eq_some_iff.mp step
          exact .clientWrote stepped
        · obtain ⟨next, stepped, rfl⟩ := Option.map_eq_some_iff.mp step
          have wrote : Rule parse p (.clientWrites failure)
              ({ p with toServer := p.toServer }.clientAt next) := .clientWrote stepped
          exact wrote
        · cases step
      · obtain ⟨next, stepped, rfl⟩ := Option.map_eq_some_iff.mp step
        have wrote : Rule parse p (.clientWrites failure)
            ({ p with toServer := p.toServer }.clientAt next) := .clientWrote stepped
        exact wrote
  | serverReads ending =>
      simp only [EchoPair.step, EchoPair.serverReads] at step
      split at step
      · rename_i reading
        split at step
        · rename_i message pipe received
          cases step
          exact .serverRead (Channel.recv_ready_some received)
        · cases step
          exact .serverEnd reading
        · cases step
      · cases step
  | serverWrites failure =>
      simp only [EchoPair.step, EchoPair.serverWrites] at step
      split at step
      · split at step
        · cases step
          exact .serverWrote
        · cases step
          have wrote : Rule parse p (.serverWrites failure)
              ({ p with toClient := p.toClient }.serverAt (p.server.resume (.error failure))) :=
            .serverWrote
          exact wrote
        · cases step
      · split at step
        · cases step
          have wrote : Rule parse p (.serverWrites failure)
              ({ p with toClient := p.toClient }.serverAt (p.server.resume (.ok ()))) :=
            .serverWrote
          exact wrote
        · cases step

end EchoPair

namespace Connection

variable {conn next : Connection cfg E}

/-- Away from the socket, the task comes to wait for the sink by an outgoing
message or a keepalive. -/
theorem LoopStep.starts_write {move : LoopAction E} (moved : conn.LoopStep move next)
    (offSocket : (Action.loop move).onSocket = false)
    (passing : (next.pc.passing cfg).isSome) :
    next.rx = conn.rx ∧
      ((move = .arm .outgoing ∧ conn.tx.queue ≠ []) ∨ move = .arm .sleep) := by
  cases moved with
  | outgoing _ received =>
      refine ⟨rfl, .inl ⟨rfl, ?_⟩⟩
      rw [received.queue]
      exact List.cons_ne_nil _ _
  | sleep => exact ⟨rfl, .inr rfl⟩
  | ping | close | skip | streamError | streamEnd | deliver | refuse | hold | sentUnconfirmed
  | sentConfirmed | sentUnheard | ponged | sinkClosed | keptAlive => cases offSocket
  | sendersGone | release | abandon | record | dropSender | dropReceiver => cases passing

/-- Once an operation on the sink is over, the task waits for no other. -/
theorem LoopStep.sink_passing {result : Except E Unit} (moved : conn.LoopStep (.sink result) next) :
    next.pc.passing cfg = none := by
  cases moved with
  | sentUnconfirmed | sentConfirmed | ponged | sinkClosed | keptAlive =>
      exact LoopState.next_passing _ _
  | sentUnheard => rfl

/-- A message that is being sent is on its way to the wire. -/
theorem wire_of_passing {origin : Origin} {message : Message}
    (passing : conn.pc.passing cfg = some (origin, message)) : conn.wire = some message := by
  unfold wire
  split
  · rename_i closing
    rw [closing] at passing
    cases passing
  · rw [passing]
    rfl

/-- What is on its way to the wire is being sent, or is the Close frame of a sink
that is being closed. -/
theorem wire_some {message : Message} (onWire : conn.wire = some message) :
    (∃ origin, conn.pc.passing cfg = some (origin, message)) ∨
      conn.pc.passing cfg = none ∧ ∃ sent, message = .close sent := by
  unfold wire at onWire
  split at onWire
  · rename_i closing
    refine .inr ⟨by rw [closing]; rfl, ?_⟩
    split at onWire
    · cases onWire
    · obtain ⟨item, _, replied⟩ := Option.bind_eq_some_iff.mp onWire
      split at replied
      · exact Message.closeReply_eq replied
      · cases replied
      · cases replied
  · obtain ⟨⟨origin, sent⟩, passing, rfl⟩ := Option.map_eq_some_iff.mp onWire
    exact .inl ⟨origin, passing⟩

/-- Where nothing goes on the wire, nothing is passed to the sink. -/
theorem wire_none (free : conn.wire = none) : conn.pc.passing cfg = none := by
  cases passing : conn.pc.passing cfg with
  | none => rfl
  | some waits => cases (wire_of_passing passing).symm.trans free

/-- Dropping a handle makes no room in the rx channel. -/
theorem dropHandle_hasRoom {handle : HandleId} (room : (conn.dropHandle handle).rx.HasRoom) :
    conn.rx.HasRoom := by
  unfold dropHandle at room
  by_cases owner : conn.rx.receiver = some handle
  · simp only [owner, ↓reduceIte] at room
    cases room.1
  · simpa only [owner, ↓reduceIte] using room

/-- The end of a call makes no room in the rx channel. -/
theorem settle_hasRoom {record : Call E} {pc : CallPc E}
    (room : (conn.settle record pc).rx.HasRoom) : conn.rx.HasRoom := by
  rcases conn.settle_cases record pc with ⟨same, _⟩ | ⟨dropped, _⟩
  · rwa [same] at room
  · rw [dropped] at room
    exact dropHandle_hasRoom room

/-- A new owner of the receive half makes no room. -/
theorem moveReceiver_hasRoom {owner : HandleId}
    (room : (conn.rx.moveReceiver owner).HasRoom) : conn.rx.HasRoom := by
  refine ⟨?_, room.2⟩
  have held := room.1
  rwa [Channel.moveReceiver_receiver, Option.isSome_map] at held

end Connection

/-- A call that moves on makes no room. -/
theorem System.moveTo_hasRoom {s : System cfg E} {call : CallId} {record : Call E} {pc : CallPc E}
    (room : (s.moveTo call record pc).conn.rx.HasRoom) : s.conn.rx.HasRoom :=
  Connection.settle_hasRoom room

namespace EchoPair

open Connection

variable {parse : String → Option EchoControlMessage} {p q : EchoPair cfg E up down}
  {action : EchoAction E}

/-- A step of the handles makes room in the rx channel by taking a frame. -/
theorem makes_room {action : Action E} {next : System cfg E}
    (stepped : p.client.step action = some next) (others : ∀ move, action ≠ .loop move)
    (room : next.conn.rx.HasRoom) :
    p.client.conn.rx.HasRoom ∨ p.takesFrame (.client action) = true := by
  cases System.step_rule stepped with
  | loop => exact absurd rfl (others _)
  | pollFrame permitted received =>
      right
      simp [takesFrame, received.queue]
  | recvFrame found receiving received =>
      right
      simp [takesFrame, found, Call.isReceiving, receiving, received.queue]
  | startReceive | startSend | pollEnd | pollPending | clone => exact .inl room
  | accept | refuseSend | refuseClose | reply | panic | join | connect | recvEnd | cancel =>
      left
      have before := System.moveTo_hasRoom room
      exact before
  | split | reunite => exact .inl (moveReceiver_hasRoom room)
  | drop => exact .inl (dropHandle_hasRoom room)

@[simp] theorem clientAt_client (p : EchoPair cfg E up down) (client : System cfg E) :
    (p.clientAt client).client = client := by
  unfold clientAt
  split <;> rfl

@[simp] theorem serverAt_client (p : EchoPair cfg E up down) (server : EchoServer E) :
    (p.serverAt server).client = p.client := by
  unfold serverAt
  split <;> rfl

@[simp] theorem serverAt_server (p : EchoPair cfg E up down) (server : EchoServer E) :
    (p.serverAt server).server = server := by
  unfold serverAt
  split <;> rfl

/-- A task that waits for the sink has not dropped the socket. -/
theorem clientAt_of_passing {client : System cfg E}
    (passing : (client.conn.pc.passing cfg).isSome) :
    p.clientAt client = { p with client := client } := by
  unfold clientAt
  split
  · rfl
  · rename_i leaving
    rw [leaving] at passing
    cases passing
  · rfl

/-- A server that waits to send back a message has not dropped the socket. -/
theorem serverAt_of_echoing {server : EchoServer E} (echoing : server.pc.isEchoing) :
    p.serverAt server = { p with server := server } := by
  unfold serverAt
  split
  · rename_i stopped
    rw [ServerPc.isEchoing_of_stopped stopped] at echoing
    cases echoing
  · rfl

/-- The client is a system, whatever the server does. -/
theorem client_reachable (reached : (echoPair parse cfg E up down).Reachable p) :
    (system cfg E).Reachable p.client := by
  refine reached.invariant (fun p => (system cfg E).Reachable p.client) .initial ?_
  intro p action q _ before step
  have steps : ∀ {action next}, p.client.step action = some next →
      (system cfg E).Reachable next := by
    intro action next stepped
    have stepped : (system cfg E).step p.client action = some next := stepped
    exact before.next stepped
  cases step_rule step with
  | client _ stepped | clientRead _ stepped | clientEnd _ stepped | clientWrote stepped =>
      rw [clientAt_client]
      exact steps stepped
  | serverRead | serverEnd | serverWrote =>
      rw [serverAt_client]
      exact before

/-- The task and the server wait for each other only after a step that closes
the circle. -/
theorem closes_of_deadlocked (step : p.step parse action = some q) (free : ¬ p.Deadlocked)
    (deadlocked : q.Deadlocked) : p.Closes action := by
  obtain ⟨⟨passing, full⟩, ⟨echoing, full'⟩, unread, room⟩ := deadlocked
  cases step_rule step with
  | @client action next offSocket stepped =>
      rw [clientAt_client] at passing room
      rw [clientAt_of_passing passing] at full full' echoing unread
      have cornered : p.Cornered := ⟨full, ⟨echoing, full'⟩, unread⟩
      by_cases moves : ∃ move, action = .loop move
      · obtain ⟨move, rfl⟩ := moves
        obtain ⟨conn, enabled, rfl⟩ := Option.map_eq_some_iff.mp stepped
        obtain ⟨rx, starts⟩ := (loopStep_rule enabled).starts_write offSocket passing
        rw [rx] at room
        refine ⟨cornered, .inl ⟨?_, room⟩⟩
        rcases starts with ⟨rfl, nonempty⟩ | rfl
        · simpa [startsWrite] using nonempty
        · rfl
      · have others : ∀ move, action ≠ .loop move := fun move same => moves ⟨move, same⟩
        have ledger := (System.step_ledger stepped).resolve_left
          fun ⟨move, same, _⟩ => others move same
        rw [ledger.pc] at passing
        rcases makes_room stepped others room with before | takes
        · exact absurd ⟨⟨passing, full⟩, ⟨echoing, full'⟩, unread, before⟩ free
        · exact ⟨cornered, .inr ⟨takes, passing⟩⟩
  | clientRead received stepped =>
      rw [clientAt_client] at passing
      rw [clientAt_of_passing passing] at full'
      exact absurd full' received.not_full
  | clientEnd empty stepped =>
      rw [clientAt_client] at passing
      rw [clientAt_of_passing passing] at unread
      obtain ⟨frame, member, _⟩ := unread
      change frame ∈ p.toClient.queue at member
      rw [empty] at member
      cases member
  | clientWrote stepped =>
      obtain ⟨conn, enabled, rfl⟩ := Option.map_eq_some_iff.mp stepped
      rw [clientAt_client, (loopStep_rule enabled).sink_passing] at passing
      cases passing
  | serverRead received =>
      rw [serverAt_server] at echoing
      rw [serverAt_of_echoing echoing] at full
      exact absurd full received.not_full
  | @serverEnd ending reading =>
      rw [serverAt_server] at echoing
      cases ending with
      | none => cases echoing
      | some e =>
          change p.server.pc.isEchoing = true at echoing
          rw [reading] at echoing
          cases echoing
  | serverWrote =>
      rw [serverAt_server, ServerPc.isEchoing_of_passing (p.server.resume_passing _)] at echoing
      cases echoing

/-- After the consumer has taken a frame there is room in the rx channel. -/
theorem room_of_takes (reached : (system cfg E).Reachable p.client) {action : Action E}
    {next : System cfg E} (takes : p.takesFrame (.client action) = true)
    (stepped : p.client.step action = some next) :
    next.conn.pc = p.client.conn.pc ∧ next.conn.rx.HasRoom := by
  cases action with
  | start handle op =>
      cases op with
      | pollNext =>
          have nonempty : p.client.conn.rx.queue ≠ [] := by simpa [takesFrame] using takes
          obtain ⟨frame, rest, queue⟩ := List.exists_cons_of_ne_nil nonempty
          obtain ⟨rx, receives⟩ := Channel.recv_of_queue queue
          simp only [System.step, System.start, Option.ite_none_right_eq_some] at stepped
          obtain ⟨permitted, same⟩ := stepped
          simp only [System.pollRecvRaw, receives] at same
          obtain rfl := Option.some.inj same
          have held : p.client.conn.rx.receiver.isSome := by rw [permitted.1]; rfl
          exact ⟨rfl, (Channel.recv_ready_some receives).hasRoom held⟩
      | sendRaw _ | sendRawUnconfirmed _ | close | closeConnection | reconnect | nextRawMessage =>
          cases takes
  | advance call =>
      simp only [takesFrame, Bool.and_eq_true, Bool.not_eq_true',
        List.isEmpty_eq_false_iff] at takes
      obtain ⟨waits, nonempty⟩ := takes
      obtain ⟨⟨op, handle, pc⟩, found, waits⟩ := (Option.any_eq_true ..).mp waits
      obtain ⟨frame, rest, queue⟩ := List.exists_cons_of_ne_nil nonempty
      obtain ⟨rx, receives⟩ := Channel.recv_of_queue queue
      cases pc with
      | receiving =>
          have owned := System.ownership reached
          obtain rfl : op = .nextRawMessage := owned.reaches call _ found
          have held := (owned.exclusive call _ found rfl (.inr rfl)).1
          simp only [System.step, System.advance, found, System.recvRaw, receives] at stepped
          obtain rfl := Option.some.inj stepped
          refine ⟨rfl, (Channel.recv_ready_some receives).hasRoom ?_⟩
          rw [held]
          rfl
      | sending | awaitingReply | joining _ | connecting | returned _ | panicked | cancelled =>
          cases waits
  | loop _ | cancel _ | clone _ _ | split _ _ | reunite _ _ | drop _ => cases takes

/-- A step that closes the circle leaves both sides waiting. -/
theorem deadlocked_of_closes (reached : (echoPair parse cfg E up down).Reachable p)
    (step : p.step parse action = some q) (closes : p.Closes action) : q.Deadlocked := by
  obtain ⟨⟨full, server, unread⟩, ⟨starts, room⟩ | ⟨takes, passing⟩⟩ := closes
  · unfold startsWrite at starts
    split at starts
    · cases step_rule step with
      | client _ stepped =>
          obtain ⟨conn, enabled, rfl⟩ := Option.map_eq_some_iff.mp stepped
          cases loopStep_rule enabled with
          | outgoing _ received =>
              rw [clientAt_of_passing rfl]
              exact ⟨⟨rfl, full⟩, server, unread, room⟩
          | sendersGone _ empty => simp [empty] at starts
    · cases step_rule step with
      | client _ stepped =>
          obtain ⟨conn, enabled, rfl⟩ := Option.map_eq_some_iff.mp stepped
          cases loopStep_rule enabled with
          | sleep =>
              rw [clientAt_of_passing rfl]
              exact ⟨⟨rfl, full⟩, server, unread, room⟩
    · cases starts
  · cases action with
    | client action =>
        cases step_rule step with
        | client _ stepped =>
            obtain ⟨pc, room⟩ := room_of_takes (client_reachable reached) takes stepped
            rw [← pc] at passing
            rw [clientAt_of_passing passing]
            exact ⟨⟨passing, full⟩, server, unread, room⟩
    | clientReads _ | clientWrites _ | serverReads _ | serverWrites _ => cases takes

/-- Over every run, the task and the server never wait for each other while the
consumer has room, if and only if no step closes the circle: none starts to
write while the server waits for the client to read, and none makes room for the
consumer when that has happened. -/
theorem never_deadlocked_iff {trace : List (EchoPair cfg E up down × EchoAction E)}
    {final : EchoPair cfg E up down}
    (run : (echoPair parse cfg E up down).Run (.create cfg E up down) trace final) :
    (∀ p, Machine.Visited trace final p → ¬ p.Deadlocked) ↔
      ∀ p action, (p, action) ∈ trace → ¬ p.Closes action := by
  constructor
  · intro free p action member closes
    obtain ⟨q, step, seen⟩ := run.visited_next member
    have reached : (echoPair parse cfg E up down).Reachable p := run.reachable (.inr ⟨_, member⟩)
    exact free q seen (deadlocked_of_closes reached step closes)
  · intro never p seen
    obtain ⟨front, back, rfl, reached, _⟩ := run.visited seen
    apply reached.invariant_of
    · exact fun p action member => never p action (List.mem_append_left _ member)
    · exact fun deadlocked => nomatch deadlocked.1.1
    · intro p action q free closes step deadlocked
      exact closes (closes_of_deadlocked step free deadlocked)

/-- While the two sides wait for each other, only the handles move. -/
theorem only_handles_move (loop : p.LoopBlocked) (server : p.ServerBlocked)
    (step : p.step parse action = some q) : ∃ a, action = .client a ∧ ∀ move, a ≠ .loop move := by
  obtain ⟨passing, full⟩ := loop
  obtain ⟨echoing, full'⟩ := server
  have loop : ∀ {move conn}, p.client.conn.LoopStep move conn →
      ∃ result, move = .sink result := by
    intro move conn moved
    cases moved with
    | outgoing here | sendersGone here | ping here | close here | skip here | streamError here
    | streamEnd here | deliver here | refuse here | hold here | release here | abandon here
    | sleep here | record here | dropSender here | dropReceiver here =>
        rw [here] at passing
        cases passing
    | sentUnconfirmed | sentConfirmed | sentUnheard | ponged | sinkClosed | keptAlive =>
        exact ⟨_, rfl⟩
  cases action with
  | client a =>
      refine ⟨a, rfl, ?_⟩
      rintro move rfl
      cases step_rule step with
      | client offSocket stepped =>
          obtain ⟨conn, enabled, _⟩ := Option.map_eq_some_iff.mp stepped
          obtain ⟨result, rfl⟩ := loop (loopStep_rule enabled)
          cases offSocket
  | clientReads ending =>
      cases step_rule step with
      | clientRead _ stepped | clientEnd _ stepped =>
          obtain ⟨conn, enabled, _⟩ := Option.map_eq_some_iff.mp stepped
          obtain ⟨result, same⟩ := loop (loopStep_rule enabled)
          cases same
  | clientWrites failure =>
      obtain ⟨⟨origin, message⟩, waits⟩ := Option.isSome_iff_exists.mp passing
      simp only [EchoPair.step, EchoPair.clientWrites, wire_of_passing waits,
        Channel.send_pending_iff.mpr full] at step
      cases step
  | serverReads ending =>
      simp only [EchoPair.step, EchoPair.serverReads] at step
      split at step
      · rename_i reading
        rw [reading] at echoing
        cases echoing
      · cases step
  | serverWrites failure =>
      cases pc : p.server.pc with
      | echoing message =>
          simp only [EchoPair.step, EchoPair.serverWrites, serverWire, pc, ServerPc.passing,
            Channel.send_pending_iff.mpr full'] at step
          cases step
      | reading | sendingPing | sendingClose | ponging | closing | returned _ | panicked =>
          rw [pc] at echoing
          cases echoing

/-- Once the two sides wait for each other they do so for ever: whatever the
handles do, nothing is read, written or delivered any more. -/
theorem blocked_forever {trace : List (EchoPair cfg E up down × EchoAction E)}
    {final : EchoPair cfg E up down} (loop : p.LoopBlocked) (server : p.ServerBlocked)
    (run : (echoPair parse cfg E up down).Run p trace final) :
    final.LoopBlocked ∧ final.ServerBlocked ∧ SameLedger p.client.conn final.client.conn ∧
      final.server = p.server ∧ final.toServer = p.toServer ∧ final.toClient = p.toClient ∧
      ∀ entry ∈ trace, ∃ a, entry.2 = .client a ∧ ∀ move, a ≠ .loop move := by
  induction run with
  | nil => exact ⟨loop, server, .refl _, rfl, rfl, rfl, fun _ member => nomatch member⟩
  | @snoc middle final front action earlier step ih =>
      obtain ⟨loop', server', ledger, sameServer, sameUp, sameDown, handles⟩ := ih
      obtain ⟨a, rfl, others⟩ := only_handles_move loop' server' step
      change middle.step parse (.client a) = some final at step
      cases step_rule step with
      | @client _ next offSocket stepped =>
          have same := (System.step_ledger stepped).resolve_left
            fun ⟨move, loops, _⟩ => others move loops
          have passing : (next.conn.pc.passing cfg).isSome := by
            rw [same.pc]
            exact loop'.1
          rw [clientAt_of_passing passing]
          refine ⟨⟨passing, loop'.2⟩, server', ledger.trans same, sameServer, sameUp, sameDown, ?_⟩
          intro entry member
          rcases List.mem_append.mp member with before | last
          · exact handles entry before
          · rw [List.mem_singleton.mp last]
            exact ⟨a, rfl, others⟩

/-- `serde_json`, on one message of the tests. -/
def readMessage (text : String) : Option EchoControlMessage :=
  if text = "\x7b\"Message\":\"a\"\x7d" then some (.message "a") else none

/-- Send the message of the tests, up to where the task waits for the sink. -/
def sendMessage (call : CallId) : List (EchoAction Unit) :=
  [.client (.start 0 (.sendRaw (.text "\x7b\"Message\":\"a\"\x7d"))), .client (.advance call),
    .client (.loop (.arm .outgoing))]

/-- Whether the step is not a request for something else than an echo. -/
def onlyMessages (parse : String → Option EchoControlMessage) : EchoAction E → Bool
  | .client (.start _ op) =>
      match op with
      | .sendRaw (.text text) | .sendRawUnconfirmed (.text text) =>
          match parse text with
          | some (.message _) => true
          | _ => false
      | .nextRawMessage | .pollNext => true
      | _ => false
  | _ => true

/-- Three messages: one comes back, one is with the server, which cannot send it
back, and one fills the pipe. -/
def threeMessages : List (EchoAction Unit) :=
  sendMessage 0 ++ [.clientWrites (), .serverReads none, .serverWrites ()] ++
    sendMessage 1 ++ [.clientWrites (), .serverReads none] ++ sendMessage 2 ++ [.clientWrites ()]

/-- The client reads the one that came back before it sends a fourth. -/
theorem never_deadlocked_iff_readFirst :
    let actions := threeMessages ++ [.clientReads none] ++ sendMessage 3
    let M := echoPair readMessage .single Unit 1 1
    ∀ p, Machine.Visited (M.steps (.create .single Unit 1 1) actions)
      (M.follow (.create .single Unit 1 1) actions) p → ¬ p.Deadlocked := by
  intro actions M
  have run := M.run_steps (.create .single Unit 1 1) actions
  have never : ∀ entry ∈ M.steps (.create .single Unit 1 1) actions,
      ¬ entry.1.Closes entry.2 := by decide
  exact (never_deadlocked_iff run).mpr fun p action member => never (p, action) member

/-- When it sends the fourth first, both sides wait for ever. -/
theorem fourth_message_deadlocks :
    ¬ ∀ (cfg : LoopConfig) (up down : Nat), 0 < up → 0 < down →
      ∀ trace final, (echoPair readMessage cfg Unit up down).Run (.create cfg Unit up down) trace
        final →
      (∀ entry ∈ trace, onlyMessages readMessage entry.2 ∧ entry.1.client.conn.rx.queue = []) →
      ∀ p, Machine.Visited trace final p → ¬ p.Deadlocked := by
  intro always
  have run := (echoPair readMessage .single Unit 1 1).run_steps (.create .single Unit 1 1)
    (threeMessages ++ sendMessage 3)
  exact always .single 1 1 (by decide) (by decide) _ _ run (by decide) _ (.inl rfl) (by decide)

/-- Cancelling the fourth send does not help any more. -/
theorem blocked_forever_fourthMessage :
    let M := echoPair readMessage .single Unit 1 1
    let p := M.follow (.create .single Unit 1 1) (threeMessages ++ sendMessage 3)
    let final := M.follow p [.client (.cancel 3)]
    (M.steps p [.client (.cancel 3)]).length = 1 ∧ final.LoopBlocked ∧ final.ServerBlocked := by
  intro M p final
  have stuck := blocked_forever (p := p) (by decide) (by decide)
    (M.run_steps p [.client (.cancel 3)])
  exact ⟨by decide, stuck.1, stuck.2.1⟩

end EchoPair

end Socketeer
