import Socketeer.Codec
import Socketeer.EchoReplies
import Socketeer.Handles.EchoPair
import Socketeer.Handles.Handshake
import Socketeer.Handles.Writes

/-! # What comes back from the echo server

A message that is echoed passes the tx channel, the pipe to the server, the
server, the pipe back and the rx channel. Every stage hands on what it took in
order, so the consumer receives the first of the messages that were sent, and
while both sides go on the others are on their way.
-/

namespace Socketeer

open Foundation

variable {cfg : LoopConfig} {E : Type} {up down : Nat}

namespace SinkOp

/-- The message of a send that succeeded. The Close frame that closing the sink
passes is no message of the task (`Connection.wire`). -/
def delivered : SinkOp E → Option Message
  | .send _ message (.ok ()) => some message
  | _ => none

end SinkOp

/-- The frame of an item of a stream. -/
def StreamItem.frame? : StreamItem E → Option Message
  | some (.ok message) => some message
  | some (.error _) | none => none

namespace Connection

/-- The end of the stream carries no frame. -/
theorem dataFrames_concat_end (items : List (StreamItem E)) (ending : Option E) :
    dataFrames (items ++ [ending.map .error]) = dataFrames items := by
  rw [dataFrames_snoc]
  cases ending <;> exact List.append_nil _

variable {s t : Connection cfg E}

/-- A completed operation on the sink is recorded, with what the task waited to
send. -/
theorem LoopStep.completes {result : Except E Unit} (step : s.LoopStep (.sink result) t) :
    t.sinkOps = s.sinkOps ++ [match s.pc.passing cfg with
      | some (origin, message) => .send origin message result
      | none => .close result] := by
  cases step with
  | sentUnconfirmed here unconfirmed =>
      rw [here]
      simp [LoopPc.passing, unconfirmed]
  | sentConfirmed here confirmed | sentUnheard here confirmed =>
      rw [here]
      simp [LoopPc.passing, confirmed]
  | ponged here | sinkClosed here | keptAlive here =>
      rw [here]
      rfl

/-- The task stops when it has closed the sink. -/
theorem LoopStep.closed_stops {result : Except E Unit} (step : s.LoopStep (.sink result) t)
    (closing : s.pc.passing cfg = none) : t.pc.running = false := by
  cases step with
  | sinkClosed => cases result <;> rfl
  | sentUnconfirmed here | sentConfirmed here | sentUnheard here | ponged here | keptAlive here =>
      rw [here] at closing
      cases closing

/-- No other step completes one. -/
theorem LoopStep.completes_nothing {move : LoopAction E} (step : s.LoopStep move t)
    (other : ∀ result, move ≠ .sink result) : t.sinkOps = s.sinkOps := by
  cases step with
  | sentUnconfirmed | sentConfirmed | sentUnheard | ponged | sinkClosed | keptAlive =>
      exact absurd rfl (other _)
  | outgoing | sendersGone | ping | close | skip | streamError | streamEnd | deliver | refuse | hold
  | release | abandon | sleep | record | dropSender | dropReceiver => rfl

/-- Where every send succeeded, what was delivered is what was passed. -/
private theorem delivered_of_sent {ops : List (SinkOp E)} (sent : ∀ op ∈ ops, op.sent = true) :
    ops.filterMap SinkOp.delivered = (ops.filterMap SinkOp.passed).map Prod.snd := by
  induction ops with
  | nil => rfl
  | cons op rest ih =>
      have later := ih fun op member => sent op (List.mem_cons_of_mem _ member)
      match op, sent op List.mem_cons_self with
      | .send _ message (.ok ()), _ => simp [SinkOp.delivered, later]

/-- Nor does a turn of either `select!`. -/
theorem LoopStep.arm_completes_nothing {arm : Arm E} (step : s.LoopStep (.arm arm) t) :
    t.sinkOps = s.sinkOps := by
  apply step.completes_nothing
  intro result same
  cases same

/-- The messages whose sends have succeeded are the first of those passed on. -/
theorem Orderly.delivered_first (orderly : s.Orderly) :
    s.sinkOps.filterMap SinkOp.delivered <+: s.passed.map Prod.snd := by
  rw [Connection.passed, List.map_append]
  apply List.IsPrefix.trans _ (List.prefix_append _ _)
  rcases List.eq_nil_or_concat' s.sinkOps with empty | ⟨front, last, parts⟩
  · rw [empty]
    exact List.prefix_refl _
  · have left := orderly.left
    rw [parts, List.dropLast_concat] at left
    rw [parts, List.filterMap_append, List.filterMap_append, List.map_append,
      delivered_of_sent left]
    apply (List.prefix_append_right_inj _).mpr
    cases last with
    | send _ message result =>
        cases result with
        | ok _ => exact List.prefix_refl _
        | error _ => exact List.nil_prefix
    | close _ => exact List.nil_prefix

/-- While the loop is running, they are all but the one that is being sent. -/
theorem Orderly.delivered_append (orderly : s.Orderly) (running : s.pc.running = true) :
    s.sinkOps.filterMap SinkOp.delivered ++ ((s.pc.passing cfg).map Prod.snd).toList =
      s.passed.map Prod.snd := by
  rw [delivered_of_sent (orderly.running running), Connection.passed, List.map_append]
  cases s.pc.passing cfg <;> rfl

end Connection

namespace EchoPair

open Connection

variable {parse : String → Option EchoControlMessage} {p q : EchoPair cfg E up down}
  {action : EchoAction E}

/-- What closing a sink does to the pipe: it accepts at most a Close frame. -/
def PassedClose {capacity : Nat} (pipe next : Channel Message Unit Unit capacity) : Prop :=
  next = pipe ∨ ∃ sent, pipe.Accepted (.close sent) next

/-- The rules of the pair, with what happens to the pipes. -/
inductive Transfer (parse : String → Option EchoControlMessage) (p : EchoPair cfg E up down) :
    EchoAction E → EchoPair cfg E up down → Prop where
  | client {action next} (offSocket : action.onSocket = false)
      (stepped : p.client.step action = some next) :
      Transfer parse p (.client action) (p.clientAt next)
  | clientRead {ending message pipe next} (received : p.toClient.Received message pipe)
      (stepped : p.client.step (.loop (.arm (.incoming (some (.ok message))))) = some next) :
      Transfer parse p (.clientReads ending) ({ p with toClient := pipe }.clientAt next)
  | clientEnd {ending : Option E} {next}
      (stepped : p.client.step (.loop (.arm (.incoming (ending.map .error)))) = some next) :
      Transfer parse p (.clientReads ending) (p.clientAt next)
  | clientSent {failure origin message pipe next}
      (passing : p.client.conn.pc.passing cfg = some (origin, message))
      (accepted : p.toServer.Accepted message pipe)
      (stepped : p.client.step (.loop (.sink (.ok ()))) = some next) :
      Transfer parse p (.clientWrites failure) ({ p with toServer := pipe }.clientAt next)
  | clientFailed {failure next} (passing : (p.client.conn.pc.passing cfg).isSome)
      (stepped : p.client.step (.loop (.sink (.error failure))) = some next) :
      Transfer parse p (.clientWrites failure) (p.clientAt next)
  | clientClosed {failure result pipe next} (passing : p.client.conn.pc.passing cfg = none)
      (closed : PassedClose p.toServer pipe)
      (stepped : p.client.step (.loop (.sink result)) = some next) :
      Transfer parse p (.clientWrites failure) ({ p with toServer := pipe }.clientAt next)
  | serverRead {ending message pipe} (reading : p.server.pc = .reading)
      (received : p.toServer.Received message pipe) :
      Transfer parse p (.serverReads ending)
        ({ p with toServer := pipe }.serverAt (p.server.read parse (some (.ok message))))
  | serverEnd {ending} (reading : p.server.pc = .reading) (gone : p.toServer.senders = ∅) :
      Transfer parse p (.serverReads ending) (p.serverAt (p.server.read parse (ending.map .error)))
  | serverSent {failure message pipe} (passing : p.server.pc.passing = some message)
      (accepted : p.toClient.Accepted message pipe) :
      Transfer parse p (.serverWrites failure)
        ({ p with toClient := pipe }.serverAt (p.server.resume (.ok ())))
  | serverFailed {failure} (passing : p.server.pc.passing.isSome) :
      Transfer parse p (.serverWrites failure) (p.serverAt (p.server.resume (.error failure)))
  | serverClosed {failure result pipe} (closing : p.server.pc = .closing)
      (closed : PassedClose p.toClient pipe) :
      Transfer parse p (.serverWrites failure)
        ({ p with toClient := pipe }.serverAt (p.server.resume result))

/-- What is on its way to the wire is being sent, or is the Close frame of the
sink that the server closes. -/
theorem serverWire_some {message : Message} (onWire : p.serverWire = some message) :
    p.server.pc.passing = some message ∨
      p.server.pc = .closing ∧ ∃ sent, message = .close sent := by
  unfold serverWire at onWire
  split at onWire
  · rename_i closing
    obtain ⟨_, _, replied⟩ := Option.bind_eq_some_iff.mp onWire
    exact .inr ⟨closing, Message.closeReply_eq replied⟩
  · exact .inl onWire

/-- What a step of the pair moves from one place to the next. -/
theorem transfer (step : p.step parse action = some q) : Transfer parse p action q := by
  cases action with
  | client action =>
      simp only [EchoPair.step] at step
      split at step
      · cases step
      · rename_i offSocket
        obtain ⟨next, stepped, rfl⟩ := Option.map_eq_some_iff.mp step
        exact .client (Bool.eq_false_of_not_eq_true offSocket) stepped
  | clientReads ending =>
      simp only [EchoPair.step, EchoPair.clientReads] at step
      split at step
      · rename_i message pipe received
        obtain ⟨next, stepped, rfl⟩ := Option.map_eq_some_iff.mp step
        exact .clientRead (Channel.recv_ready_some received) stepped
      · obtain ⟨next, stepped, rfl⟩ := Option.map_eq_some_iff.mp step
        exact .clientEnd stepped
      · cases step
  | clientWrites failure =>
      simp only [EchoPair.step, EchoPair.clientWrites] at step
      split at step
      · rename_i message onWire
        split at step
        · rename_i pipe sends
          obtain ⟨next, stepped, rfl⟩ := Option.map_eq_some_iff.mp step
          have accepted := Channel.send_ready_some sends
          rcases wire_some onWire with ⟨origin, passing⟩ | ⟨passing, sent, rfl⟩
          · exact .clientSent passing accepted stepped
          · exact .clientClosed passing (.inr ⟨sent, accepted⟩) stepped
        · obtain ⟨next, stepped, rfl⟩ := Option.map_eq_some_iff.mp step
          rcases wire_some onWire with ⟨origin, passing⟩ | ⟨passing, _⟩
          · exact .clientFailed (by rw [passing]; rfl) stepped
          · exact .clientClosed passing (.inl rfl) stepped
        · cases step
      · rename_i free
        obtain ⟨next, stepped, rfl⟩ := Option.map_eq_some_iff.mp step
        exact .clientClosed (wire_none free) (.inl rfl) stepped
  | serverReads ending =>
      simp only [EchoPair.step, EchoPair.serverReads] at step
      split at step
      · rename_i reading
        split at step
        · rename_i message pipe received
          cases step
          exact .serverRead reading (Channel.recv_ready_some received)
        · rename_i received
          cases step
          exact .serverEnd reading (Channel.recv_ready_none_iff.mp received).2
        · cases step
      · cases step
  | serverWrites failure =>
      simp only [EchoPair.step, EchoPair.serverWrites] at step
      split at step
      · rename_i message onWire
        split at step
        · rename_i pipe sends
          cases step
          have accepted := Channel.send_ready_some sends
          rcases serverWire_some onWire with passing | ⟨closing, sent, rfl⟩
          · exact .serverSent passing accepted
          · exact .serverClosed closing (.inr ⟨sent, accepted⟩)
        · cases step
          rcases serverWire_some onWire with passing | ⟨closing, _⟩
          · exact .serverFailed (by rw [passing]; rfl)
          · exact .serverClosed closing (.inl rfl)
        · cases step
      · split at step
        · rename_i closing
          cases step
          exact .serverClosed closing (.inl rfl)
        · cases step

section Pipes

variable (p) (client : System cfg E) (server : EchoServer E)

@[simp] theorem clientAt_server : (p.clientAt client).server = p.server := by
  unfold clientAt
  split <;> rfl

@[simp] theorem clientAt_toServer_sent :
    (p.clientAt client).toServer.sent = p.toServer.sent := by
  unfold clientAt
  split <;> rfl

@[simp] theorem clientAt_toServer_taken :
    (p.clientAt client).toServer.taken = p.toServer.taken := by
  unfold clientAt
  split <;> rfl

@[simp] theorem clientAt_toServer_receiver :
    (p.clientAt client).toServer.receiver = p.toServer.receiver := by
  unfold clientAt
  split <;> rfl

@[simp] theorem clientAt_toClient_sent :
    (p.clientAt client).toClient.sent = p.toClient.sent := by
  unfold clientAt
  split <;> rfl

@[simp] theorem clientAt_toClient_taken :
    (p.clientAt client).toClient.taken = p.toClient.taken := by
  unfold clientAt
  split <;> rfl

@[simp] theorem serverAt_toServer_sent :
    (p.serverAt server).toServer.sent = p.toServer.sent := by
  unfold serverAt
  split <;> rfl

@[simp] theorem serverAt_toServer_senders :
    (p.serverAt server).toServer.senders = p.toServer.senders := by
  unfold serverAt
  split <;> rfl

@[simp] theorem serverAt_toServer_taken :
    (p.serverAt server).toServer.taken = p.toServer.taken := by
  unfold serverAt
  split <;> rfl

@[simp] theorem serverAt_toClient_sent :
    (p.serverAt server).toClient.sent = p.toClient.sent := by
  unfold serverAt
  split <;> rfl

@[simp] theorem serverAt_toClient_taken :
    (p.serverAt server).toClient.taken = p.toClient.taken := by
  unfold serverAt
  split <;> rfl

@[simp] theorem serverAt_toClient_receiver :
    (p.serverAt server).toClient.receiver = p.toClient.receiver := by
  unfold serverAt
  split <;> rfl

end Pipes

/-- The frames, and at most the Close frame of the sink after them. -/
def ClosedWith (sent frames : List Message) : Prop :=
  sent = frames ∨ ∃ reason, sent = frames ++ [.close reason]

/-- The pipe has at most a Close frame more. -/
theorem PassedClose.closedWith {capacity : Nat} {pipe next : Channel Message Unit Unit capacity}
    (closed : PassedClose pipe next) : ClosedWith next.sent pipe.sent := by
  rcases closed with rfl | ⟨reason, accepted⟩
  · exact .inl rfl
  · exact .inr ⟨reason, accepted.sent⟩

/-- Nothing is read from the pipe when a Close frame is passed. -/
theorem PassedClose.unchanged {capacity : Nat} {pipe next : Channel Message Unit Unit capacity}
    (closed : PassedClose pipe next) :
    next.taken = pipe.taken ∧ next.receiver = pipe.receiver := by
  rcases closed with rfl | ⟨_, accepted⟩
  · exact ⟨rfl, rfl⟩
  · exact ⟨accepted.taken, accepted.receiver⟩

/-- A Close frame is none of those that a filter lets through. -/
theorem ClosedWith.filterMap {sent frames : List Message} (closed : ClosedWith sent frames)
    {β : Type} (f : Message → Option β) (none : ∀ reason, f (.close reason) = none) :
    sent.filterMap f = frames.filterMap f := by
  rcases closed with rfl | ⟨reason, rfl⟩
  · rfl
  · simp [none]

/-- What each stage has taken from the one before it. -/
structure Flow (parse : String → Option EchoControlMessage) (p : EchoPair cfg E up down) :
    Prop where
  written : ClosedWith p.toServer.sent (p.client.conn.sinkOps.filterMap SinkOp.delivered)
  writing : p.client.conn.pc.running = true →
    p.toServer.sent = p.client.conn.sinkOps.filterMap SinkOp.delivered
  replies : ∃ said, said <+: p.toServer.taken.filterMap (EchoServer.reply parse) ∧
    ClosedWith p.toClient.sent said
  serving : p.server.pc.stopped = false → p.toServer.receiver.isSome ∧
    p.toClient.sent ++ p.server.pc.passing.toList =
      p.toServer.taken.filterMap (EchoServer.reply parse)
  read : dataFrames p.client.conn.items = p.toClient.taken.filterMap Message.data?
  open' : p.client.conn.pc.running = true → p.toClient.receiver.isSome

theorem Flow.create (parse : String → Option EchoControlMessage) :
    Flow parse (.create cfg E up down) where
  written := .inl rfl
  writing _ := rfl
  replies := ⟨[], List.prefix_refl _, .inl rfl⟩
  serving _ := ⟨rfl, rfl⟩
  read := rfl
  open' _ := rfl

/-- A task that has not left the loop has not dropped the socket. -/
theorem clientAt_of_running {client : System cfg E} (running : client.conn.pc.running = true) :
    p.clientAt client = { p with client := client } := by
  unfold clientAt
  split
  · rfl
  · rename_i leaving
    rw [leaving] at running
    cases running
  · rfl

/-- A server that goes on keeps its ends of the pipes. -/
theorem serverAt_of_serving {server : EchoServer E} (serving : server.pc.stopped = false) :
    p.serverAt server = { p with server := server } :=
  if_neg (by rw [serving]; exact Bool.false_ne_true)

/-- A server that waits for its sink goes on. -/
theorem serving_of_passing (passing : p.server.pc.passing.isSome) :
    p.server.pc.stopped = false := by
  cases pc : p.server.pc with
  | returned _ | panicked =>
      rw [pc] at passing
      cases passing
  | reading | echoing _ | sendingPing | sendingClose | ponging | closing => rfl

/-- The account after a step of the client. -/
private theorem Flow.ofClient {client : System cfg E} (flow : Flow parse p)
    {u : EchoPair cfg E up down} (server : u.server = p.server)
    (taken : u.toServer.taken = p.toServer.taken)
    (receiver : u.toServer.receiver = p.toServer.receiver)
    (replies : u.toClient.sent = p.toClient.sent)
    (written : ClosedWith u.toServer.sent (client.conn.sinkOps.filterMap SinkOp.delivered))
    (writing : client.conn.pc.running = true →
      u.toServer.sent = client.conn.sinkOps.filterMap SinkOp.delivered)
    (read : dataFrames client.conn.items = u.toClient.taken.filterMap Message.data?)
    (open' : client.conn.pc.running = true → u.toClient.receiver.isSome) :
    Flow parse (u.clientAt client) := by
  constructor
  · simpa using written
  · simpa using writing
  · simpa [taken, replies] using flow.replies
  · simpa [server, taken, receiver, replies] using flow.serving
  · simpa using read
  · intro running
    rw [clientAt_client] at running
    rw [clientAt_of_running running]
    exact open' running

/-- The account after a step of the server. -/
private theorem Flow.ofServer {server : EchoServer E} (flow : Flow parse p)
    {u : EchoPair cfg E up down} (client : u.client = p.client)
    (sent : u.toServer.sent = p.toServer.sent) (taken : u.toClient.taken = p.toClient.taken)
    (receiver : u.toClient.receiver = p.toClient.receiver)
    (replies : ∃ said, said <+: u.toServer.taken.filterMap (EchoServer.reply parse) ∧
      ClosedWith u.toClient.sent said)
    (serving : server.pc.stopped = false → u.toServer.receiver.isSome ∧
      u.toClient.sent ++ server.pc.passing.toList =
        u.toServer.taken.filterMap (EchoServer.reply parse)) :
    Flow parse (u.serverAt server) := by
  constructor
  · simpa [client, sent] using flow.written
  · simpa [client, sent] using flow.writing
  · simpa using replies
  · intro goesOn
    rw [serverAt_server] at goesOn
    rw [serverAt_of_serving goesOn]
    exact serving goesOn
  · simpa [client, taken] using flow.read
  · simpa [client, receiver] using flow.open'

end EchoPair

namespace System

open Connection

variable {s t : System cfg E}

/-- A step of the client that is no operation on the socket. -/
theorem socket_untouched {action : Action E} (step : s.step action = some t)
    (offSocket : action.onSocket = false) :
    t.conn.sinkOps = s.conn.sinkOps ∧ t.conn.items = s.conn.items := by
  rcases step_ledger step with ⟨move, rfl, moved⟩ | same
  · refine ⟨moved.completes_nothing ?_, ?_⟩
    · rintro result rfl
      cases offSocket
    · rw [moved.items]
      cases move with
      | arm arm =>
          cases arm with
          | incoming item => cases offSocket
          | outgoing | reserve | sleep => exact List.append_nil _
      | sink _ | finish => exact List.append_nil _
  · exact ⟨same.sinkOps, same.items⟩

end System

namespace EchoPair

open Connection

variable {parse : String → Option EchoControlMessage} {p q : EchoPair cfg E up down}
  {action : EchoAction E}

/-- A task that waits for the sink is in the loop. -/
theorem Flow.writing_of_sink {result : Except E Unit} {next : Connection cfg E}
    (flow : Flow parse p) (moved : p.client.conn.LoopStep (.sink result) next) :
    p.toServer.sent = p.client.conn.sinkOps.filterMap SinkOp.delivered := by
  apply flow.writing
  cases moved with
  | sentUnconfirmed here | sentConfirmed here | sentUnheard here | ponged here | sinkClosed here
  | keptAlive here =>
      rw [here]
      rfl

/-- Every step hands on what it takes. -/
theorem Flow.step (flow : Flow parse p) (step : p.step parse action = some q) : Flow parse q := by
  cases transfer step with
  | client offSocket stepped =>
      obtain ⟨sinkOps, items⟩ := System.socket_untouched stepped offSocket
      apply flow.ofClient rfl rfl rfl rfl
      · rw [sinkOps]
        exact flow.written
      · rw [sinkOps]
        exact fun running => flow.writing (System.running_before stepped running)
      · rw [items]
        exact flow.read
      · exact fun running => flow.open' (System.running_before stepped running)
  | @clientRead ending message pipe next received stepped =>
      have moved := System.loopStep_of_step stepped
      apply flow.ofClient (u := { p with toClient := pipe }) rfl rfl rfl received.sent
      · rw [moved.arm_completes_nothing]
        exact flow.written
      · rw [moved.arm_completes_nothing]
        exact fun running => flow.writing (System.running_before stepped running)
      · change _ = pipe.taken.filterMap _
        rw [received.taken, List.filterMap_append, ← flow.read, moved.items]
        refine (dataFrames_snoc _ _).trans ?_
        cases data : message.data? <;> simp [itemData, data]
      · intro running
        change pipe.receiver.isSome
        rw [received.receiver]
        exact flow.open' (System.running_before stepped running)
  | @clientEnd ending next stepped =>
      have moved := System.loopStep_of_step stepped
      apply flow.ofClient rfl rfl rfl rfl
      · rw [moved.arm_completes_nothing]
        exact flow.written
      · rw [moved.arm_completes_nothing]
        exact fun running => flow.writing (System.running_before stepped running)
      · rw [← flow.read]
        exact (congrArg dataFrames moved.items).trans (dataFrames_concat_end _ _)
      · exact fun running => flow.open' (System.running_before stepped running)
  | @clientSent failure origin message pipe next passing accepted stepped =>
      have moved := System.loopStep_of_step stepped
      have wrote : pipe.sent = next.conn.sinkOps.filterMap SinkOp.delivered := by
        rw [moved.completes, passing, accepted.sent, flow.writing_of_sink moved,
          List.filterMap_append]
        rfl
      apply flow.ofClient (u := { p with toServer := pipe }) rfl accepted.taken
        accepted.receiver rfl
      · exact .inl wrote
      · exact fun _ => wrote
      · rw [moved.items, ← flow.read]
        exact congrArg dataFrames (List.append_nil _)
      · exact fun running => flow.open' (System.running_before stepped running)
  | @clientFailed failure next passing stepped =>
      have moved := System.loopStep_of_step stepped
      obtain ⟨⟨origin, message⟩, waits⟩ := Option.isSome_iff_exists.mp passing
      have wrote : p.toServer.sent = next.conn.sinkOps.filterMap SinkOp.delivered := by
        rw [moved.completes, waits, flow.writing_of_sink moved, List.filterMap_append]
        exact (List.append_nil _).symm
      apply flow.ofClient rfl rfl rfl rfl
      · exact .inl wrote
      · exact fun _ => wrote
      · rw [moved.items, ← flow.read]
        exact congrArg dataFrames (List.append_nil _)
      · exact fun running => flow.open' (System.running_before stepped running)
  | @clientClosed failure result pipe next passing closed stepped =>
      have moved := System.loopStep_of_step stepped
      have same : next.conn.sinkOps.filterMap SinkOp.delivered = p.toServer.sent := by
        rw [moved.completes, passing, flow.writing_of_sink moved, List.filterMap_append]
        exact List.append_nil _
      apply flow.ofClient (u := { p with toServer := pipe }) rfl closed.unchanged.1
        closed.unchanged.2 rfl
      · rw [same]
        exact closed.closedWith
      · intro running
        rw [moved.closed_stops passing] at running
        cases running
      · rw [moved.items, ← flow.read]
        exact congrArg dataFrames (List.append_nil _)
      · exact fun running => flow.open' (System.running_before stepped running)
  | @serverRead ending message pipe reading received =>
      have serving : p.server.pc.stopped = false := by
        rw [reading]
        rfl
      obtain ⟨held, replied⟩ := flow.serving serving
      rw [reading] at replied
      have taken : pipe.taken.filterMap (EchoServer.reply parse) =
          p.toClient.sent ++ (EchoServer.reply parse message).toList := by
        rw [received.taken, List.filterMap_append, ← replied]
        cases reply : EchoServer.reply parse message <;> simp [reply, ServerPc.passing]
      apply flow.ofServer (u := { p with toServer := pipe }) rfl received.sent rfl rfl
      · exact ⟨_, taken ▸ List.prefix_append _ _, .inl rfl⟩
      · intro _
        refine ⟨by rw [received.receiver]; exact held, ?_⟩
        rw [EchoServer.read_passing parse p.server reading message]
        exact taken.symm
  | @serverEnd ending reading gone =>
      apply flow.ofServer rfl rfl rfl rfl flow.replies
      intro goesOn
      cases ending with
      | none => cases goesOn
      | some e => exact flow.serving goesOn
  | @serverSent failure message pipe passing accepted =>
      have serving := serving_of_passing (by rw [passing]; rfl)
      obtain ⟨held, replied⟩ := flow.serving serving
      rw [passing] at replied
      have sent : pipe.sent = p.toServer.taken.filterMap (EchoServer.reply parse) :=
        accepted.sent.trans replied
      apply flow.ofServer (u := { p with toClient := pipe }) rfl rfl accepted.taken
        accepted.receiver
      · exact ⟨_, List.prefix_refl _, .inl sent⟩
      · intro _
        refine ⟨held, ?_⟩
        rw [p.server.resume_passing]
        exact (List.append_nil _).trans sent
  | @serverFailed failure passing =>
      apply flow.ofServer rfl rfl rfl rfl flow.replies
      intro goesOn
      have fails : Except.error failure ≠ (.ok () : Except E Unit) := by
        intro same
        cases same
      rw [p.server.resume_stopped (.inl ⟨passing, fails⟩)] at goesOn
      cases goesOn
  | @serverClosed failure result pipe closing closed =>
      have serving : p.server.pc.stopped = false := by
        rw [closing]
        rfl
      have replied := (flow.serving serving).2
      rw [closing] at replied
      apply flow.ofServer (u := { p with toClient := pipe }) rfl rfl closed.unchanged.1
        closed.unchanged.2
      · exact ⟨_, replied ▸ List.prefix_append _ _, closed.closedWith⟩
      · intro goesOn
        rw [p.server.resume_stopped (.inr closing)] at goesOn
        cases goesOn

/-- What either side reads the other has written, in every reachable state. -/
theorem flow (reached : (echoPair parse cfg E up down).Reachable p) : Flow parse p :=
  reached.invariant (Flow parse) (.create parse) fun _ _ _ _ flow step => flow.step step

/-- The frames that come back for the messages that were passed on. -/
def echoes (parse : String → Option EchoControlMessage) (messages : List Message) :
    List Message :=
  messages.filterMap (EchoServer.echo parse)

/-- Of the replies, the data frames are the echoes. -/
theorem echoes_eq (messages : List Message) :
    (messages.filterMap (EchoServer.reply parse)).filterMap Message.data? =
      echoes parse messages :=
  List.filterMap_filterMap

/-- The consumer receives, in order, what comes back for the first of the
messages that the task passed on. -/
theorem received_in_order (reached : (echoPair parse cfg E up down).Reachable p) :
    p.client.received ++ p.client.conn.rx.queue <+:
      echoes parse (p.client.conn.passed.map Prod.snd) := by
  have flow := flow reached
  have client := client_reachable reached
  have back : p.client.received ++ p.client.conn.rx.queue <+:
      p.toClient.sent.filterMap Message.data? := by
    apply (System.feed_first client).trans
    rw [flow.read]
    exact ((List.prefix_append _ _).trans p.toClient.ordered).filterMap _
  obtain ⟨said, replies, closed⟩ := flow.replies
  have through : p.toClient.sent.filterMap Message.data? <+: echoes parse p.toServer.sent := by
    rw [closed.filterMap Message.data? fun _ => rfl]
    apply (replies.filterMap _).trans
    rw [echoes_eq]
    exact ((List.prefix_append _ _).trans p.toServer.ordered).filterMap _
  apply back.trans (through.trans _)
  rw [echoes, flow.written.filterMap (EchoServer.echo parse) fun _ => rfl]
  exact (System.orderly client).delivered_first.filterMap _

/-- No keepalive of the connection is one that the server sends back. -/
def QuietKeepalive (parse : String → Option EchoControlMessage) (cfg : LoopConfig) : Prop :=
  cfg.keepaliveInterval.isSome →
    EchoServer.echo parse (cfg.customKeepaliveMessage.getD (.ping [])) = none

/-- Then all that comes back comes back for messages of the callers. -/
theorem echoes_passed (quiet : QuietKeepalive parse cfg) {conn : Connection cfg E}
    (accounted : conn.Accounted) :
    echoes parse (conn.passed.map Prod.snd) =
      echoes parse (conn.tx.taken.map TxChannelPayload.message) := by
  rw [← accounted.outgoing, echoes, echoes, List.filterMap_map, List.filterMap_map,
    List.filterMap_filterMap]
  apply List.filterMap_congr
  rintro ⟨origin, message⟩ member
  have sorted : message ∈ conn.passedBy origin.source :=
    List.mem_map_of_mem (List.mem_filter.mpr ⟨member, decide_eq_true rfl⟩)
  cases origin with
  | outgoing responseTx => rfl
  | pong =>
      change message ∈ conn.passedBy .pong at sorted
      rw [accounted.pongs] at sorted
      rw [List.eq_of_mem_replicate sorted]
      rfl
  | keepalive =>
      obtain ⟨rfl, timed⟩ := accounted.keepalives message sorted
      exact quiet timed

/-- Over every run the consumer receives the messages that the server sends back
in the order in which the tx channel accepted them, each once, and skips none. -/
theorem echoes_in_order (quiet : QuietKeepalive parse cfg)
    (reached : (echoPair parse cfg E up down).Reachable p) :
    p.client.received ++ p.client.conn.rx.queue <+:
      echoes parse (p.client.conn.tx.sent.map TxChannelPayload.message) := by
  have accounted := System.accounted (client_reachable reached)
  apply (received_in_order reached).trans
  rw [echoes_passed quiet accounted]
  exact (((List.prefix_append _ _).trans p.client.conn.tx.ordered).map _).filterMap _

/-- `serde_json`, on the two messages of `tickBetween`. -/
def readMessages (text : String) : Option EchoControlMessage :=
  if text = "\x7b\"Message\":\"a\"\x7d" then some (.message "a")
  else if text = "\x7b\"Message\":\"b\"\x7d" then some (.message "b")
  else none

/-- A message goes to the server and back to the task, which reports the send. -/
def roundTrip (call : CallId) (text : String) : List (EchoAction Unit) :=
  [.client (.start 0 (.sendRaw (.text text))), .client (.advance call),
    .client (.loop (.arm .outgoing)), .clientWrites (), .serverReads none, .serverWrites (),
    .clientReads none, .client (.advance call)]

/-- Two messages that are received, with a keepalive between them that the server
answers. -/
def tickBetween : List (EchoAction Unit) :=
  roundTrip 0 "\x7b\"Message\":\"a\"\x7d" ++
    [.client (.loop (.arm .sleep)), .clientWrites (), .serverReads none, .serverWrites (),
      .clientReads none, .client (.start 0 .pollNext)] ++
    roundTrip 2 "\x7b\"Message\":\"b\"\x7d" ++ [.client (.start 0 .pollNext)]

theorem echoes_in_order_tickBetween :
    let p := (echoPair readMessages .timed Unit 1 1).follow (.create .timed Unit 1 1) tickBetween
    p.toServer.sent = [.text "\x7b\"Message\":\"a\"\x7d", .ping [],
        .text "\x7b\"Message\":\"b\"\x7d"] ∧
      p.client.received = [.text "\x7b\"Message\":\"a\"\x7d", .text "\x7b\"Message\":\"b\"\x7d"] ∧
      p.client.received ++ p.client.conn.rx.queue <+:
        echoes readMessages (p.client.conn.tx.sent.map TxChannelPayload.message) :=
  ⟨by decide, by decide, echoes_in_order (fun _ => rfl)
    ((echoPair readMessages .timed Unit 1 1).follow_reachable tickBetween)⟩

/-- The text of a request comes back if it is for an echo. -/
private theorem echo_text {serde : SerdeJson EchoControlMessage EchoControlMessage} {text : String}
    {value : EchoControlMessage} (read : serde.fromStr text = .ok value) :
    EchoServer.echo (fun text => (serde.fromStr text).toOption) (.text text) =
      if value.isMessage then some (.text text) else none := by
  simp only [EchoServer.echo, EchoServer.reply, read]
  cases value <;> rfl

/-- What comes back for requests that were sent as JSON. -/
private theorem echoes_json {serde : SerdeJson EchoControlMessage EchoControlMessage}
    (inverse : ∀ value text, serde.toString value = .ok text → serde.fromStr text = .ok value)
    {values : List EchoControlMessage} {payloads : List TxChannelPayload}
    (encoded : List.Forall₂ (fun value payload =>
      (JsonCodec serde : Codec E _ EchoControlMessage).encode value =
        .ok (TxChannelPayload.message payload)) values payloads) :
    (echoes (fun text => (serde.fromStr text).toOption)
      (payloads.map TxChannelPayload.message)).map
        (JsonCodec serde : Codec E EchoControlMessage _).decode =
      (values.filter EchoControlMessage.isMessage).map .ok := by
  induction encoded with
  | nil => rfl
  | @cons value payload values payloads first _ ih =>
      obtain ⟨text, made, frame⟩ := JsonCodec.encode_ok first
      have read := inverse value text made
      have decoded : (JsonCodec serde : Codec E EchoControlMessage _).decode (.text text) =
          .ok value := JsonCodec.readBy inverse value (.text text) (frame ▸ first)
      rw [List.map_cons, frame, echoes, List.filterMap_cons, echo_text read]
      cases wanted : value.isMessage with
      | true =>
          rw [List.filter_cons_of_pos wanted, List.map_cons, ← ih, ← decoded]
          rfl
      | false =>
          rw [List.filter_cons_of_neg (by simp [wanted]), ← ih]
          rfl

/-- The messages of a client that sends requests as JSON come back as the values
that were sent, in order, and the other requests bring nothing back. -/
theorem messages_come_back {serde : SerdeJson EchoControlMessage EchoControlMessage}
    (inverse : ∀ value text, serde.toString value = .ok text → serde.fromStr text = .ok value)
    {p : EchoPair cfg E up down}
    (quiet : QuietKeepalive (fun text => (serde.fromStr text).toOption) cfg)
    (reached : (echoPair (fun text => (serde.fromStr text).toOption) cfg E up down).Reachable p)
    {values : List EchoControlMessage}
    (sent : List.Forall₂ (fun value payload =>
      (JsonCodec serde : Codec E _ EchoControlMessage).encode value =
        .ok (TxChannelPayload.message payload)) values p.client.conn.tx.sent) :
    (p.client.received ++ p.client.conn.rx.queue).map
        (JsonCodec serde : Codec E EchoControlMessage _).decode <+:
      (values.filter EchoControlMessage.isMessage).map .ok := by
  have accounted := System.accounted (client_reachable reached)
  have back := received_in_order reached
  rw [echoes_passed quiet accounted] at back
  have accepted := ((List.prefix_append _ _).trans p.client.conn.tx.ordered).map
    TxChannelPayload.message
  rw [← echoes_json inverse sent]
  exact (back.trans (accepted.filterMap _)).map _

/-- JSON of the two requests that `echoThenPing` makes. -/
def twoRequests : SerdeJson EchoControlMessage EchoControlMessage where
  toString
    | .message payload =>
        if payload = "a" then .ok "\x7b\"Message\":\"a\"\x7d" else .error "unused"
    | .sendPing => .ok "\"SendPing\""
    | .close | .abort => .error "unused"
  fromStr text :=
    if text = "\x7b\"Message\":\"a\"\x7d" then .ok (.message "a")
    else if text = "\"SendPing\"" then .ok .sendPing
    else .error "expected value"
  fromSlice _ := .error "expected value"

theorem twoRequests_inverse (value : EchoControlMessage) (text : String)
    (made : twoRequests.toString value = .ok text) : twoRequests.fromStr text = .ok value := by
  cases value with
  | message payload =>
      simp only [twoRequests] at made
      split at made
      · rename_i same
        cases made
        rw [same]
        rfl
      · cases made
  | sendPing =>
      cases made
      rfl
  | close | abort => cases made

/-- A message goes through all stages, and the consumer receives it. -/
def oneEcho : List (EchoAction Unit) :=
  roundTrip 0 "\x7b\"Message\":\"a\"\x7d" ++ [.client (.start 0 .pollNext)]

/-- A message that comes back, and then a request for a ping. -/
def echoThenPing : List (EchoAction Unit) :=
  oneEcho ++ [.client (.start 0 (.sendRaw (.text "\"SendPing\""))), .client (.advance 2)]

theorem messages_come_back_echoThenPing :
    let M := echoPair (fun text => (twoRequests.fromStr text).toOption) .single Unit 1 1
    let p := M.follow M.init echoThenPing
    p.client.received.map (JsonCodec twoRequests : Codec Unit EchoControlMessage _).decode =
        [.ok (.message "a")] ∧
      (p.client.received ++ p.client.conn.rx.queue).map
          (JsonCodec twoRequests : Codec Unit EchoControlMessage _).decode <+:
        ([.message "a", .sendPing].filter EchoControlMessage.isMessage).map .ok := by
  intro M p
  have reached : M.Reachable p := M.follow_reachable echoThenPing
  have received : p.client.received = [.text "\x7b\"Message\":\"a\"\x7d"] := by decide
  have sent : p.client.conn.tx.sent.map TxChannelPayload.message =
      [.text "\x7b\"Message\":\"a\"\x7d", .text "\"SendPing\""] := by decide
  clear_value p
  have encoded : List.Forall₂ (fun value message =>
      (JsonCodec twoRequests : Codec Unit _ EchoControlMessage).encode value = .ok message)
      [.message "a", .sendPing] (p.client.conn.tx.sent.map TxChannelPayload.message) := by
    rw [sent]
    exact .cons rfl (.cons rfl .nil)
  rw [List.forall₂_map_right_iff] at encoded
  refine ⟨by rw [received]; rfl, ?_⟩
  exact messages_come_back twoRequests_inverse (fun timed => by cases timed) reached encoded

/-- What is on its way back to the consumer, the furthest first. -/
def comingBack (parse : String → Option EchoControlMessage) (p : EchoPair cfg E up down) :
    List Message :=
  p.client.conn.rx.queue ++ p.client.conn.pc.held.toList ++
    p.toClient.queue.filterMap Message.data? ++
    p.server.pc.passing.toList.filterMap Message.data? ++ echoes parse p.toServer.queue ++
    echoes parse ((p.client.conn.pc.passing cfg).map Prod.snd).toList ++
    echoes parse (p.client.conn.tx.queue.map TxChannelPayload.message)

/-- What each stage has handed on and what it keeps are what it was handed. -/
structure Stages (parse : String → Option EchoControlMessage) (p : EchoPair cfg E up down) :
    Prop where
  back : p.client.conn.rx.receiver.isSome →
    p.client.received ++ p.client.conn.rx.queue ++ p.client.conn.pc.held.toList ++
      p.toClient.queue.filterMap Message.data? = p.toClient.sent.filterMap Message.data?
  returned : p.toClient.taken ++ p.toClient.queue = p.toClient.sent
  replied : p.toClient.sent ++ p.server.pc.passing.toList =
    p.toServer.taken.filterMap (EchoServer.reply parse)
  arrived : p.toServer.taken ++ p.toServer.queue =
    p.client.conn.sinkOps.filterMap SinkOp.delivered
  passed : p.client.conn.sinkOps.filterMap SinkOp.delivered ++
    ((p.client.conn.pc.passing cfg).map Prod.snd).toList = p.client.conn.passed.map Prod.snd
  accepted : p.client.conn.tx.taken ++ p.client.conn.tx.queue = p.client.conn.tx.sent

/-- Nothing is missing between one stage and the next, while both sides go on. -/
theorem stages (reached : (echoPair parse cfg E up down).Reachable p)
    (running : p.client.conn.pc.running = true) (serving : p.server.pc.stopped = false) :
    Stages parse p := by
  have flow := flow reached
  have client := client_reachable reached
  obtain ⟨held, replied⟩ := flow.serving serving
  have accepting : p.client.conn.tx.receiver.isSome := by
    rw [(System.ends client).receiver,
      LoopPc.holdsReceiver_of_holdsSender (LoopPc.holdsSender_of_running running)]
    rfl
  have returned := p.toClient.complete (flow.open' running)
  constructor
  · intro alive
    rw [System.feed_complete client alive running, flow.read, ← List.filterMap_append, returned]
  · exact returned
  · exact replied
  · rw [← flow.writing running, p.toServer.complete held]
  · exact (System.orderly client).delivered_append running
  · exact p.client.conn.tx.complete accepting

/-- While neither side has stopped, what the consumer has received and what is on
its way are what comes back for all that was accepted. -/
theorem echoes_conserved (quiet : QuietKeepalive parse cfg)
    (reached : (echoPair parse cfg E up down).Reachable p)
    (running : p.client.conn.pc.running = true) (serving : p.server.pc.stopped = false)
    (alive : p.client.conn.rx.receiver.isSome) :
    p.client.received ++ p.comingBack parse =
      echoes parse (p.client.conn.tx.sent.map TxChannelPayload.message) := by
  have stages := stages reached running serving
  -- each stage, from the consumer back to the callers
  have through : p.toClient.sent.filterMap Message.data? ++
      p.server.pc.passing.toList.filterMap Message.data? = echoes parse p.toServer.taken := by
    rw [← List.filterMap_append, stages.replied, echoes_eq]
  have arrived : echoes parse p.toServer.taken ++ echoes parse p.toServer.queue =
      echoes parse (p.client.conn.sinkOps.filterMap SinkOp.delivered) := by
    rw [← stages.arrived]
    exact List.filterMap_append.symm
  have passed : echoes parse (p.client.conn.sinkOps.filterMap SinkOp.delivered) ++
      echoes parse ((p.client.conn.pc.passing cfg).map Prod.snd).toList =
        echoes parse (p.client.conn.tx.taken.map TxChannelPayload.message) := by
    rw [← echoes_passed quiet (System.accounted (client_reachable reached)), ← stages.passed]
    exact List.filterMap_append.symm
  have accepted : echoes parse (p.client.conn.tx.taken.map TxChannelPayload.message) ++
      echoes parse (p.client.conn.tx.queue.map TxChannelPayload.message) =
        echoes parse (p.client.conn.tx.sent.map TxChannelPayload.message) := by
    rw [← stages.accepted, List.map_append]
    exact List.filterMap_append.symm
  unfold comingBack
  simp only [← List.append_assoc]
  rw [stages.back alive, through, arrived, passed, accepted]

/-- Of two messages one is back in the rx channel and one is with the server. -/
def twoMessages : List (EchoAction Unit) :=
  sendMessage 0 ++ [.clientWrites (), .serverReads none, .serverWrites (), .clientReads none] ++
    sendMessage 1 ++ [.clientWrites (), .serverReads none]

theorem echoes_conserved_twoMessages :
    let p := (echoPair readMessage .single Unit 1 1).follow (.create .single Unit 1 1) twoMessages
    p.comingBack readMessage =
        [.text "\x7b\"Message\":\"a\"\x7d", .text "\x7b\"Message\":\"a\"\x7d"] ∧
      p.client.received ++ p.comingBack readMessage =
        echoes readMessage (p.client.conn.tx.sent.map TxChannelPayload.message) := by
  refine ⟨by decide, ?_⟩
  exact echoes_conserved nofun
    ((echoPair readMessage .single Unit 1 1).follow_reachable twoMessages)
    (by decide) (by decide) (by decide)

end EchoPair

end Socketeer
