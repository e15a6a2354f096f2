import Socketeer.Handles.EchoFlow
import Socketeer.Handles.Unconfirmed

/-! # A window of unanswered messages

The client and the echo server can come to wait for each other when too much is
on its way. Without keepalives, and when every request is for an echo, all that
is on its way is messages that were accepted and not yet received, so that their
number says whether both pipes can be full (`EchoPair.received_add_inTransit`).
A client that never has more than `up + down + 1` of them is safe, and all its
messages come back.
-/

namespace Socketeer

open Foundation

variable {cfg : LoopConfig} {E : Type} {up down : Nat}

/-- What comes back for a message is the message. -/
theorem EchoServer.reply_of_echo {parse : String → Option EchoControlMessage} {message : Message}
    (echoed : (EchoServer.echo parse message).isSome) :
    EchoServer.reply parse message = some message ∧ message.data? = some message := by
  cases message with
  | text text =>
      simp only [EchoServer.echo, EchoServer.reply] at echoed ⊢
      cases request : parse text with
      | none =>
          rw [request] at echoed
          cases echoed
      | some request' =>
          rw [request] at echoed
          cases request' with
          | message _ => exact ⟨rfl, rfl⟩
          | sendPing | close | abort => cases echoed
  | binary _ | ping _ | pong _ | close _ | frame _ => cases echoed

/-- A server comes to close its sink by reading a Close frame. -/
theorem EchoServer.read_closing {parse : String → Option EchoControlMessage}
    {server : EchoServer E} {message : Message} (reading : server.pc = .reading)
    (closing : (server.read parse (some (.ok message))).pc = .closing) :
    ∃ reason, message = .close reason := by
  cases message with
  | close reason => exact ⟨reason, rfl⟩
  | text text =>
      simp only [EchoServer.read] at closing
      split at closing <;> cases closing
  | ping _ => cases closing
  | binary _ | pong _ | frame _ => cases reading.symm.trans closing

/-- No operation on the sink makes it close the sink. -/
theorem EchoServer.resume_ne_closing (server : EchoServer E) (result : Except E Unit) :
    (server.resume result).pc ≠ .closing := by
  obtain ⟨pc, shuttingDown⟩ := server
  cases result with
  | ok value => cases pc <;> nofun
  | error e => cases pc <;> nofun

namespace Connection

variable {s t : Connection cfg E}

/-- The ledgers of the task only grow. -/
theorem LoopStep.ledgers {move : LoopAction E} (moved : s.LoopStep move t) :
    s.tx.taken <+: t.tx.taken ∧ s.rx.sent <+: t.rx.sent := by
  cases moved with
  | outgoing _ received =>
      rw [received.taken]
      exact ⟨List.prefix_append _ _, List.prefix_refl _⟩
  | deliver _ _ accepted | release _ accepted =>
      rw [accepted.sent]
      exact ⟨List.prefix_refl _, List.prefix_append _ _⟩
  | sendersGone | ping | close | skip | streamError | streamEnd | refuse | hold | abandon | sleep
  | sentUnconfirmed | sentConfirmed | sentUnheard | ponged | sinkClosed | keptAlive | record
  | dropSender | dropReceiver => exact ⟨List.prefix_refl _, List.prefix_refl _⟩

/-- Away from the socket, a task without a timer that goes on has taken a message
or delivered a frame. -/
theorem LoopStep.advances {move : LoopAction E} (moved : s.LoopStep move t)
    (offSocket : (Action.loop move).onSocket = false) (untimed : cfg.keepaliveInterval = none)
    (running : t.pc.running = true) :
    s.tx.taken.length + s.rx.sent.length < t.tx.taken.length + t.rx.sent.length := by
  cases moved with
  | @outgoing _ _ tx _ received =>
      change _ < tx.taken.length + s.rx.sent.length
      rw [received.taken, List.length_append, List.length_singleton]
      omega
  | @release _ rx _ accepted =>
      change _ < s.tx.taken.length + rx.sent.length
      rw [accepted.sent, List.length_append, List.length_singleton]
      omega
  | sleep _ timed =>
      rw [untimed] at timed
      cases timed
  | sendersGone | abandon | record | dropSender | dropReceiver => cases running
  | ping | close | skip | streamError | streamEnd | deliver | refuse | hold | sentUnconfirmed
  | sentConfirmed | sentUnheard | ponged | sinkClosed | keptAlive => cases offSocket

/-- The task stops when an operation on the sink fails, and at the end of the
stream. -/
theorem LoopStep.failed_stops {e : E} (moved : s.LoopStep (.sink (.error e)) t) :
    t.pc.running = false := by
  cases moved <;> rfl

/-- Of what a task waits for at the sink, only closing it passes no message. -/
theorem LoopStep.closing_of_idle {result : Except E Unit} (moved : s.LoopStep (.sink result) t)
    (idle : s.pc.passing cfg = none) : s.pc = .closing := by
  cases moved with
  | sinkClosed here => exact here
  | sentUnconfirmed here | sentConfirmed here | sentUnheard here | ponged here | keptAlive here =>
      rw [here] at idle
      cases idle

/-- The end of the stream, or its failure, stops the loop. -/
theorem LoopStep.ending_stops {ending : Option E}
    (moved : s.LoopStep (.arm (.incoming (ending.map .error))) t) : t.pc.running = false := by
  cases ending with
  | none => cases moved; rfl
  | some e => cases moved; rfl

/-- The outer `select!` takes whatever the stream hands out. -/
theorem takes_item (here : s.pc = .select .outer) (item : StreamItem E) :
    (s.loopStep (.arm (.incoming item))).isSome := by
  simp only [loopStep, here, socketLoopSplit]
  split <;> rfl

/-- What waits for the sink goes on with any result. -/
theorem takes_result (waits : (s.pc.passing cfg).isSome ∨ s.pc = .closing)
    (result : Except E Unit) : (s.loopStep (.sink result)).isSome := by
  cases pc : s.pc with
  | select _ | leaving _ _ =>
      rw [pc] at waits
      rcases waits with passing | closing
      · cases passing
      · cases closing
  | sending _ _ | ponging | closing | keepalive _ =>
      simp only [loopStep, pc]
      rfl

end Connection

/-- The ledgers of the task only grow, whoever takes the step. -/
theorem System.ledgers {s t : System cfg E} {action : Action E} (step : s.step action = some t) :
    s.conn.tx.taken <+: t.conn.tx.taken ∧ s.conn.rx.sent <+: t.conn.rx.sent := by
  rcases step_ledger step with ⟨_, _, moved⟩ | same
  · exact moved.ledgers
  · rw [same.popped, same.delivered]
    exact ⟨List.prefix_refl _, List.prefix_refl _⟩

/-- Whether it is a step of the task or of the server. -/
def EchoAction.ofSide : EchoAction E → Bool
  | .client (.loop _) | .clientReads _ | .clientWrites _ | .serverReads _ | .serverWrites _ => true
  | .client _ => false

namespace EchoPair

open Connection

variable {parse : String → Option EchoControlMessage} {p q : EchoPair cfg E up down}
  {action : EchoAction E}

/-- The frames that the client has read are those it took from the pipe. -/
theorem frames_taken (reached : (echoPair parse cfg E up down).Reachable p) :
    p.client.conn.items.filterMap StreamItem.frame? = p.toClient.taken := by
  refine reached.invariant
    (fun p => p.client.conn.items.filterMap StreamItem.frame? = p.toClient.taken) rfl ?_
  intro p action q _ before step
  have step : p.step parse action = some q := step
  cases transfer step with
  | client offSocket stepped =>
      obtain ⟨_, items⟩ := System.socket_untouched stepped offSocket
      rw [clientAt_client, clientAt_toClient_taken, items]
      exact before
  | clientRead received stepped =>
      have moved := System.loopStep_of_step stepped
      rw [clientAt_client, clientAt_toClient_taken, received.taken, moved.items,
        List.filterMap_append, before]
      rfl
  | @clientEnd ending _ stepped =>
      have moved := System.loopStep_of_step stepped
      rw [clientAt_client, clientAt_toClient_taken, moved.items, List.filterMap_append, before]
      cases ending <;> exact List.append_nil _
  | clientSent _ _ stepped | clientFailed _ stepped | clientClosed _ _ stepped =>
      have moved := System.loopStep_of_step stepped
      rw [clientAt_client, clientAt_toClient_taken, moved.items]
      exact (congrArg _ (List.append_nil _)).trans before
  | serverRead | serverEnd | serverFailed =>
      rw [serverAt_client, serverAt_toClient_taken]
      exact before
  | serverClosed _ closed =>
      rw [serverAt_client, serverAt_toClient_taken]
      exact before.trans closed.unchanged.1.symm
  | serverSent _ accepted =>
      rw [serverAt_client, serverAt_toClient_taken]
      exact before.trans accepted.taken.symm

/-- The server sends back every message that was accepted. -/
def OnlyEchoes (parse : String → Option EchoControlMessage) (p : EchoPair cfg E up down) : Prop :=
  ∀ payload ∈ p.client.conn.tx.sent, (EchoServer.echo parse payload.message).isSome

instance (p : EchoPair cfg E up down) : Decidable (p.OnlyEchoes parse) :=
  inferInstanceAs (Decidable (∀ payload ∈ _, _))

/-- A message that was passed on is one of the callers', or answers a ping. -/
private theorem passed_cases (untimed : cfg.keepaliveInterval = none)
    (requests : p.OnlyEchoes parse) (accounted : p.client.conn.Accounted) {message : Message}
    (member : message ∈ p.client.conn.passed.map Prod.snd) :
    (EchoServer.echo parse message).isSome ∨
      ∃ payload, some (.ok (.ping payload)) ∈ p.client.conn.items := by
  obtain ⟨⟨origin, _⟩, passed, rfl⟩ := List.mem_map.mp member
  cases origin with
  | outgoing responseTx =>
      have popped := List.mem_filterMap.mpr ⟨_, passed, payload?_outgoing responseTx _⟩
      rw [accounted.outgoing] at popped
      have accepted := p.client.conn.tx.ordered.subset (List.mem_append_left _ popped)
      exact .inl (requests _ accepted)
  | pong =>
      have answered : _ ∈ p.client.conn.passedBy .pong :=
        List.mem_map_of_mem (List.mem_filter.mpr ⟨passed, decide_eq_true rfl⟩)
      rw [accounted.pongs] at answered
      obtain ⟨some, _⟩ := List.mem_replicate.mp answered
      obtain ⟨item, read, ping⟩ := List.countP_pos_iff.mp (Nat.pos_of_ne_zero some)
      unfold isPing at ping
      split at ping
      · exact .inr ⟨_, read⟩
      · cases ping
  | keepalive =>
      have timed : _ ∈ p.client.conn.passedBy .keepalive :=
        List.mem_map_of_mem (List.mem_filter.mpr ⟨passed, decide_eq_true rfl⟩)
      have interval := (accounted.keepalives _ timed).2
      rw [untimed] at interval
      cases interval

/-- A server that closes its sink has read a Close frame. -/
theorem closing_read (reached : (echoPair parse cfg E up down).Reachable p)
    (closing : p.server.pc = .closing) : ∃ reason, .close reason ∈ p.toServer.taken := by
  refine reached.invariant
    (fun p => p.server.pc = .closing → ∃ reason, .close reason ∈ p.toServer.taken) nofun ?_ closing
  intro p action q _ before step closing
  have step : p.step parse action = some q := step
  cases transfer step with
  | client | clientRead | clientEnd | clientFailed =>
      rw [clientAt_server] at closing
      rw [clientAt_toServer_taken]
      exact before closing
  | clientSent _ accepted =>
      rw [clientAt_server] at closing
      rw [clientAt_toServer_taken, accepted.taken]
      exact before closing
  | clientClosed _ closed =>
      rw [clientAt_server] at closing
      rw [clientAt_toServer_taken, closed.unchanged.1]
      exact before closing
  | serverRead reading received =>
      rw [serverAt_server] at closing
      obtain ⟨reason, rfl⟩ := EchoServer.read_closing reading closing
      rw [serverAt_toServer_taken, received.taken]
      exact ⟨reason, List.mem_append_right _ List.mem_cons_self⟩
  | @serverEnd ending reading =>
      rw [serverAt_server] at closing
      cases ending with
      | none => cases closing
      | some e => cases reading.symm.trans closing
  | serverSent | serverFailed | serverClosed =>
      rw [serverAt_server] at closing
      exact absurd closing (EchoServer.resume_ne_closing _ _)

/-- Every frame on its way is a message that the server sends back. -/
structure AllEcho (parse : String → Option EchoControlMessage) (p : EchoPair cfg E up down) :
    Prop where
  toServer : ∀ message ∈ p.toServer.sent, (EchoServer.echo parse message).isSome
  toClient : ∀ message ∈ p.toClient.sent, (EchoServer.echo parse message).isSome

/-- The client has read no frame but a message. -/
theorem AllEcho.read (all : AllEcho parse p) (reached : (echoPair parse cfg E up down).Reachable p)
    {message : Message} (member : some (.ok message) ∈ p.client.conn.items) :
    (EchoServer.echo parse message).isSome := by
  apply all.toClient _ (p.toClient.ordered.subset (List.mem_append_left _ _))
  rw [← frames_taken reached]
  exact List.mem_filterMap.mpr ⟨_, member, rfl⟩

/-- A pong that the client passes on would need a ping, and the server sends none. -/
theorem AllEcho.passed (all : AllEcho parse p) (untimed : cfg.keepaliveInterval = none)
    (requests : p.OnlyEchoes parse) (reached : (echoPair parse cfg E up down).Reachable p)
    {message : Message} (member : message ∈ p.client.conn.passed.map Prod.snd) :
    (EchoServer.echo parse message).isSome := by
  have accounted := System.accounted (client_reachable reached)
  rcases passed_cases untimed requests accounted member with echoed | ⟨_, read⟩
  · exact echoed
  · cases all.read reached read

/-- A frame of the server is one that it has read. -/
theorem AllEcho.replied (all : AllEcho parse p) {message : Message}
    (member : message ∈ p.toServer.taken.filterMap (EchoServer.reply parse)) :
    (EchoServer.echo parse message).isSome := by
  obtain ⟨request, served, asked⟩ := List.mem_filterMap.mp member
  have echoed := all.toServer request (p.toServer.ordered.subset (List.mem_append_left _ served))
  rw [(EchoServer.reply_of_echo echoed).1] at asked
  exact Option.some.inj asked ▸ echoed

/-- Neither side closes its sink: it would have read a Close frame. -/
theorem AllEcho.not_closing (all : AllEcho parse p)
    (reached : (echoPair parse cfg E up down).Reachable p) :
    p.client.conn.pc ≠ .closing ∧ p.server.pc ≠ .closing := by
  constructor
  · intro closing
    obtain ⟨_, read⟩ := (System.orderly (client_reachable reached)).closing closing
    cases all.read reached (List.mem_of_getLast? read)
  · intro closing
    obtain ⟨_, read⟩ := closing_read reached closing
    cases all.toServer _ (p.toServer.ordered.subset (List.mem_append_left _ read))

/-- A task that writes is in its loop. -/
theorem running_of_passing (passing : (p.client.conn.pc.passing cfg).isSome) :
    p.client.conn.pc.running = true := by
  by_contra left
  rw [System.passing_of_not_running (Bool.eq_false_of_not_eq_true left)] at passing
  cases passing

/-- A step of the pair takes the client through a step, or leaves it alone. -/
theorem client_step (step : p.step parse action = some q) :
    q.client = p.client ∨ ∃ move, p.client.step move = some q.client := by
  cases step_rule step with
  | client _ stepped | clientRead _ stepped | clientEnd _ stepped | clientWrote stepped =>
      rw [clientAt_client]
      exact .inr ⟨_, stepped⟩
  | serverRead | serverEnd | serverWrote => exact .inl (serverAt_client ..)

/-- What was accepted stays accepted. -/
theorem sent_first (step : p.step parse action = some q) :
    p.client.conn.tx.sent <+: q.client.conn.tx.sent := by
  rcases client_step step with same | ⟨_, stepped⟩
  · rw [same]
  · exact System.sent_first stepped

/-- A step passes on a message of the callers, or what the server has read. -/
theorem AllEcho.step (all : AllEcho parse p) (untimed : cfg.keepaliveInterval = none)
    (requests : p.OnlyEchoes parse) (reached : (echoPair parse cfg E up down).Reachable p)
    (step : p.step parse action = some q) : AllEcho parse q := by
  cases transfer step with
  | client =>
      exact ⟨by simpa using all.toServer, by simpa using all.toClient⟩
  | clientRead received =>
      exact ⟨by simpa using all.toServer, by simpa [received.sent] using all.toClient⟩
  | clientEnd | clientFailed =>
      exact ⟨by simpa using all.toServer, by simpa using all.toClient⟩
  | @clientSent _ origin message _ _ passing accepted =>
      have here : message ∈ p.client.conn.passed.map Prod.snd := by
        rw [Connection.passed, passing, List.map_append]
        exact List.mem_append_right _ List.mem_cons_self
      refine ⟨?_, by simpa using all.toClient⟩
      rw [clientAt_toServer_sent, accepted.sent]
      exact List.forall_mem_append.mpr ⟨all.toServer,
        List.forall_mem_singleton.mpr (all.passed untimed requests reached here)⟩
  | clientClosed idle _ stepped =>
      have closing := (System.loopStep_of_step stepped).closing_of_idle idle
      exact absurd closing (all.not_closing reached).1
  | serverRead _ received =>
      exact ⟨by simpa [received.sent] using all.toServer, by simpa using all.toClient⟩
  | serverEnd | serverFailed =>
      exact ⟨by simpa using all.toServer, by simpa using all.toClient⟩
  | @serverSent _ message _ passing accepted =>
      have replied := ((flow reached).serving (serving_of_passing (by rw [passing]; rfl))).2
      have here : message ∈ p.toServer.taken.filterMap (EchoServer.reply parse) := by
        rw [← replied, passing]
        exact List.mem_append_right _ List.mem_cons_self
      refine ⟨by simpa using all.toServer, ?_⟩
      rw [serverAt_toClient_sent, accepted.sent]
      exact List.forall_mem_append.mpr ⟨all.toClient,
        List.forall_mem_singleton.mpr (all.replied here)⟩
  | serverClosed closing => exact absurd closing (all.not_closing reached).2

/-- When every request is for an echo, nothing else is on its way: neither side
starts to close. -/
theorem allEcho (untimed : cfg.keepaliveInterval = none) (requests : p.OnlyEchoes parse)
    (reached : (echoPair parse cfg E up down).Reachable p) : AllEcho parse p := by
  refine reached.invariant (fun p => p.OnlyEchoes parse → AllEcho parse p)
    (fun _ => ⟨nofun, nofun⟩) ?_ requests
  intro p action q reached before step requests
  have step : p.step parse action = some q := step
  have requests' : p.OnlyEchoes parse :=
    fun payload member => requests payload ((sent_first step).subset member)
  exact (before requests').step untimed requests' reached step

/-- The client passes on nothing but messages of its callers. -/
theorem passed_echoes (untimed : cfg.keepaliveInterval = none) (requests : p.OnlyEchoes parse)
    (reached : (echoPair parse cfg E up down).Reachable p) {message : Message}
    (member : message ∈ p.client.conn.passed.map Prod.snd) :
    (EchoServer.echo parse message).isSome :=
  (allEcho untimed requests reached).passed untimed requests reached member

/-- What the server writes is what it has read. -/
theorem replies_echoes (untimed : cfg.keepaliveInterval = none) (requests : p.OnlyEchoes parse)
    (reached : (echoPair parse cfg E up down).Reachable p) :
    p.toServer.taken.filterMap (EchoServer.reply parse) = p.toServer.taken := by
  have all := allEcho untimed requests reached
  have same : ∀ message ∈ p.toServer.taken, EchoServer.reply parse message = some message :=
    fun message member => (EchoServer.reply_of_echo (all.toServer message
      (p.toServer.ordered.subset (List.mem_append_left _ member)))).1
  exact (List.filterMap_congr same).trans List.filterMap_some

/-- What both sides have written: the messages whose sends have succeeded, and
the first of those that the server has read. -/
theorem written_echoes (untimed : cfg.keepaliveInterval = none) (requests : p.OnlyEchoes parse)
    (reached : (echoPair parse cfg E up down).Reachable p) :
    p.toServer.sent = p.client.conn.sinkOps.filterMap SinkOp.delivered ∧
      p.toClient.sent <+: p.toServer.taken := by
  have all := allEcho untimed requests reached
  have flow := flow reached
  constructor
  · rcases flow.written with same | ⟨reason, closed⟩
    · exact same
    · cases all.toServer (.close reason) (closed ▸ List.mem_append_right _ List.mem_cons_self)
  · obtain ⟨said, replies, same | ⟨reason, closed⟩⟩ := flow.replies
    · rwa [same, ← replies_echoes untimed requests reached]
    · cases all.toClient (.close reason) (closed ▸ List.mem_append_right _ List.mem_cons_self)

/-- What comes back for messages are the messages. -/
theorem echoes_self {messages : List Message}
    (all : ∀ message ∈ messages, (EchoServer.echo parse message).isSome) :
    echoes parse messages = messages := by
  apply (List.filterMap_congr fun message member => ?_).trans List.filterMap_some
  obtain ⟨same, data⟩ := EchoServer.reply_of_echo (all message member)
  rw [EchoServer.echo, same]
  exact data

/-- What was passed on was taken from the tx channel. -/
theorem passed_taken (untimed : cfg.keepaliveInterval = none) (requests : p.OnlyEchoes parse)
    (reached : (echoPair parse cfg E up down).Reachable p) :
    p.client.conn.passed.map Prod.snd =
      p.client.conn.tx.taken.map TxChannelPayload.message := by
  have accounted := System.accounted (client_reachable reached)
  have quiet : QuietKeepalive parse cfg := by
    intro timed
    rw [untimed] at timed
    cases timed
  have same := echoes_passed quiet accounted
  rw [echoes_self fun _ member => passed_echoes untimed requests reached member, echoes_self]
    at same
  · exact same
  · intro message member
    obtain ⟨payload, popped, rfl⟩ := List.mem_map.mp member
    exact requests _ (p.client.conn.tx.ordered.subset (List.mem_append_left _ popped))

/-- The number of messages on their way, the furthest first. -/
def inTransit (p : EchoPair cfg E up down) : Nat :=
  p.client.conn.rx.queue.length + p.client.conn.pc.held.toList.length +
    p.toClient.queue.length + p.server.pc.passing.toList.length + p.toServer.queue.length +
    (p.client.conn.pc.passing cfg).toList.length + p.client.conn.tx.queue.length

/-- While neither side has stopped, what was accepted is on its way to the consumer
or has come back to the client. -/
theorem taken_add_inTransit (untimed : cfg.keepaliveInterval = none)
    (requests : p.OnlyEchoes parse) (reached : (echoPair parse cfg E up down).Reachable p)
    (running : p.client.conn.pc.running = true) (serving : p.server.pc.stopped = false) :
    p.toClient.taken.length + p.toClient.queue.length + p.server.pc.passing.toList.length +
        p.toServer.queue.length + (p.client.conn.pc.passing cfg).toList.length +
        p.client.conn.tx.queue.length = p.client.conn.tx.sent.length := by
  have stages := stages reached running serving
  have returned := congrArg List.length stages.returned
  have replied := congrArg List.length stages.replied
  rw [replies_echoes untimed requests reached] at replied
  have arrived := congrArg List.length stages.arrived
  have passed := congrArg List.length stages.passed
  rw [passed_taken untimed requests reached] at passed
  have accepted := congrArg List.length stages.accepted
  have waiting : ((p.client.conn.pc.passing cfg).map Prod.snd).toList.length =
      (p.client.conn.pc.passing cfg).toList.length := by
    cases p.client.conn.pc.passing cfg <;> rfl
  simp only [List.length_append, List.length_map, waiting]
    at returned replied arrived passed accepted
  omega

/-- Then, as long as the consumer keeps its handle, what was accepted and not
received is on its way. -/
theorem received_add_inTransit (untimed : cfg.keepaliveInterval = none)
    (requests : p.OnlyEchoes parse) (reached : (echoPair parse cfg E up down).Reachable p)
    (running : p.client.conn.pc.running = true) (serving : p.server.pc.stopped = false)
    (alive : p.client.conn.rx.receiver.isSome) :
    p.client.received.length + p.inTransit = p.client.conn.tx.sent.length := by
  have data : ∀ {frames : List Message}, (∀ frame ∈ frames, frame ∈ p.toClient.sent) →
      frames.filterMap Message.data? = frames := by
    intro frames sent
    have same : ∀ frame ∈ frames, frame.data? = some frame :=
      fun frame member => (EchoServer.reply_of_echo
        ((allEcho untimed requests reached).toClient frame (sent frame member))).2
    exact (List.filterMap_congr same).trans List.filterMap_some
  have stages := stages reached running serving
  have returned := congrArg List.length stages.returned
  have back := congrArg List.length (stages.back alive)
  rw [data fun _ member => p.toClient.ordered.subset (List.mem_append_right _ member),
    data fun _ member => member] at back
  have within := taken_add_inTransit untimed requests reached running serving
  simp only [List.length_append] at returned back
  unfold inTransit
  omega

/-- The consumer receives the first of the messages that were accepted. -/
theorem received_first (untimed : cfg.keepaliveInterval = none) (requests : p.OnlyEchoes parse)
    (reached : (echoPair parse cfg E up down).Reachable p) :
    p.client.received <+: p.client.conn.tx.sent.map TxChannelPayload.message := by
  have back := (List.prefix_append _ _).trans (received_in_order reached)
  rw [echoes_self fun _ member => passed_echoes untimed requests reached member,
    passed_taken untimed requests reached] at back
  exact back.trans (((List.prefix_append _ _).trans p.client.conn.tx.ordered).map _)

/-- When both pipes are full and both sides wait for room, at least what they hold
is on its way. -/
theorem window_of_blocked (untimed : cfg.keepaliveInterval = none)
    (requests : p.OnlyEchoes parse) (reached : (echoPair parse cfg E up down).Reachable p)
    (loop : p.LoopBlocked) (waits : p.server.pc.passing.isSome) (full : p.toClient.Full) :
    p.client.received.length + up + down + 2 ≤ p.client.conn.tx.sent.length := by
  have length : ∀ {α : Type} {option : Option α}, option.isSome → option.toList.length = 1 := by
    intro α option present
    obtain ⟨value, rfl⟩ := Option.isSome_iff_exists.mp present
    rfl
  have within := taken_add_inTransit untimed requests reached (running_of_passing loop.1)
    (serving_of_passing waits)
  -- the consumer has received no more than the client has read
  have received := (System.feed_first (client_reachable reached)).length_le
  rw [(flow reached).read, List.length_append] at received
  have read := List.length_filterMap_le Message.data? p.toClient.taken
  have sends := length loop.1
  have replies := length waits
  have up' := loop.2.2
  have down' := full.2
  omega

/-- A server that echoes is writing. -/
theorem passing_of_echoing (echoing : p.server.pc.isEchoing) : p.server.pc.passing.isSome := by
  by_contra idle
  rw [ServerPc.isEchoing_of_passing (Option.not_isSome_iff_eq_none.mp idle)] at echoing
  cases echoing

/-- A client that never has more than `up + down + 1` messages unanswered does
not come to wait for the server while the server waits for it. -/
theorem never_deadlocked_within_window (untimed : cfg.keepaliveInterval = none)
    {trace : List (EchoPair cfg E up down × EchoAction E)} {final : EchoPair cfg E up down}
    (run : (echoPair parse cfg E up down).Run (.create cfg E up down) trace final)
    (requests : final.OnlyEchoes parse)
    (window : ∀ p, Machine.Visited trace final p →
      p.client.conn.tx.sent.length ≤ p.client.received.length + up + down + 1) :
    ∀ p, Machine.Visited trace final p → ¬ (p.LoopBlocked ∧ p.ServerBlocked) := by
  intro p seen ⟨loop, echoing, full⟩
  obtain ⟨front, back, _, before, later⟩ := run.visited seen
  have reached : (echoPair parse cfg E up down).Reachable p := ⟨front, before⟩
  have keeps : ∀ q action r, p.client.conn.tx.sent <+: q.client.conn.tx.sent →
      (echoPair parse cfg E up down).step q action = some r →
        p.client.conn.tx.sent <+: r.client.conn.tx.sent :=
    fun _ _ _ grown step => grown.trans (sent_first step)
  have grows := later.invariant (List.prefix_refl _) keeps
  have requests' : p.OnlyEchoes parse :=
    fun payload member => requests payload (grows.subset member)
  have most := window_of_blocked untimed requests' reached loop (passing_of_echoing echoing) full
  have within := window p seen
  omega

/-- Three messages on their way are within the window of two pipes of one frame. -/
theorem never_deadlocked_within_window_threeMessages :
    let M := echoPair readMessage .single Unit 1 1
    let final := M.follow (.create .single Unit 1 1) threeMessages
    final.client.conn.tx.sent.length = 3 ∧ final.client.received = [] ∧
      ∀ p, Machine.Visited (M.steps (.create .single Unit 1 1) threeMessages) final p →
        ¬ (p.LoopBlocked ∧ p.ServerBlocked) := by
  intro M final
  have run := M.run_steps (.create .single Unit 1 1) threeMessages
  have within : ∀ entry ∈ M.steps (.create .single Unit 1 1) threeMessages,
      entry.1.client.conn.tx.sent.length ≤ entry.1.client.received.length + 1 + 1 + 1 := by decide
  refine ⟨by decide, by decide, never_deadlocked_within_window rfl run (by decide) ?_⟩
  rintro p (rfl | ⟨action, member⟩)
  · decide
  · exact within (p, action) member

/-- A loop that runs after a step ran before it. -/
theorem running_before (step : p.step parse action = some q)
    (running : q.client.conn.pc.running = true) : p.client.conn.pc.running = true := by
  rcases client_step step with same | ⟨_, stepped⟩
  · rwa [same] at running
  · exact System.running_before stepped running

/-- A server that serves after a step served before it. -/
theorem serving_before (step : p.step parse action = some q)
    (serving : q.server.pc.stopped = false) : p.server.pc.stopped = false := by
  cases transfer step with
  | client | clientRead | clientEnd | clientSent | clientFailed | clientClosed =>
      rwa [clientAt_server] at serving
  | serverRead reading | serverEnd reading => rw [reading]; rfl
  | serverSent passing => exact serving_of_passing (by rw [passing]; rfl)
  | serverFailed passing => exact serving_of_passing passing
  | serverClosed closing => rw [closing]; rfl

/-- A client that has not left its loop has not closed the pipe to the server. -/
theorem connected (reached : (echoPair parse cfg E up down).Reachable p)
    (running : p.client.conn.pc.running = true) : p.toServer.senders = {()} := by
  refine reached.invariant
    (fun p => p.client.conn.pc.running = true → p.toServer.senders = {()}) (fun _ => rfl) ?_ running
  intro p action q _ before step running
  have step : p.step parse action = some q := step
  have before := before (running_before step running)
  cases transfer step with
  | client | clientRead | clientEnd | clientFailed =>
      rw [clientAt_client] at running
      rw [clientAt_of_running running]
      exact before
  | clientClosed idle _ stepped =>
      rw [clientAt_client, (System.loopStep_of_step stepped).closed_stops idle] at running
      cases running
  | clientSent _ accepted =>
      rw [clientAt_client] at running
      rw [clientAt_of_running running]
      exact accepted.senders.trans before
  | serverRead _ received =>
      rw [serverAt_toServer_senders]
      exact received.senders.trans before
  | serverEnd | serverSent | serverFailed | serverClosed =>
      rw [serverAt_toServer_senders]
      exact before

/-- How often the task and the server have taken or handed on a frame. -/
def work (p : EchoPair cfg E up down) : Nat :=
  p.client.conn.tx.taken.length + p.toServer.sent.length + p.toServer.taken.length +
    p.toClient.sent.length + p.toClient.taken.length + p.client.conn.rx.sent.length

/-- The work done, when the client moves. -/
theorem work_clientAt (client : System cfg E) : (p.clientAt client).work =
    client.conn.tx.taken.length + p.toServer.sent.length + p.toServer.taken.length +
      p.toClient.sent.length + p.toClient.taken.length + client.conn.rx.sent.length := by
  simp [work]

/-- The server's place is no part of the work done. -/
theorem work_serverAt (server : EchoServer E) : (p.serverAt server).work = p.work := by
  simp [work]

/-- A side that takes a step and goes on has done some of the work. -/
theorem work_step (untimed : cfg.keepaliveInterval = none)
    (reached : (echoPair parse cfg E up down).Reachable p) (step : p.step parse action = some q)
    (running : q.client.conn.pc.running = true) (serving : q.server.pc.stopped = false) :
    p.work + action.ofSide.toNat ≤ q.work := by
  have open' := connected reached (running_before step running)
  have grows : ∀ {move next}, p.client.step move = some next →
      p.client.conn.tx.taken.length ≤ next.conn.tx.taken.length ∧
        p.client.conn.rx.sent.length ≤ next.conn.rx.sent.length := fun stepped =>
    ⟨(System.ledgers stepped).1.length_le, (System.ledgers stepped).2.length_le⟩
  cases transfer step with
  | @client move next offSocket stepped =>
      rw [clientAt_client] at running
      rw [work_clientAt]
      obtain ⟨taken, sent⟩ := grows stepped
      cases move with
      | loop move =>
          have more := (System.loopStep_of_step stepped).advances offSocket untimed running
          change p.work + 1 ≤ _
          unfold work
          omega
      | start _ _ | advance _ | cancel _ | clone _ _ | split _ _ | reunite _ _ | drop _ =>
          change p.work + 0 ≤ _
          unfold work
          omega
  | @clientRead _ message pipe next received stepped =>
      obtain ⟨taken, sent⟩ := grows stepped
      have read := congrArg List.length received.taken
      rw [List.length_append, List.length_singleton] at read
      change p.work + 1 ≤ _
      rw [work_clientAt]
      simp only [work, received.sent]
      omega
  | clientEnd stepped =>
      rw [clientAt_client, (System.loopStep_of_step stepped).ending_stops] at running
      cases running
  | @clientSent _ origin message pipe next _ accepted stepped =>
      obtain ⟨taken, sent⟩ := grows stepped
      have wrote := congrArg List.length accepted.sent
      rw [List.length_append, List.length_singleton] at wrote
      change p.work + 1 ≤ _
      rw [work_clientAt]
      simp only [work, accepted.taken]
      omega
  | clientFailed _ stepped =>
      rw [clientAt_client, (System.loopStep_of_step stepped).failed_stops] at running
      cases running
  | clientClosed passing _ stepped =>
      rw [clientAt_client, (System.loopStep_of_step stepped).closed_stops passing] at running
      cases running
  | @serverRead _ message pipe _ received =>
      have read := congrArg List.length received.taken
      rw [List.length_append, List.length_singleton] at read
      change p.work + 1 ≤ _
      rw [work_serverAt]
      simp only [work, received.sent]
      omega
  | serverEnd _ gone =>
      exact absurd (open'.symm.trans gone) (Finset.singleton_ne_empty ())
  | @serverSent _ message pipe _ accepted =>
      have wrote := congrArg List.length accepted.sent
      rw [List.length_append, List.length_singleton] at wrote
      change p.work + 1 ≤ _
      rw [work_serverAt]
      simp only [work, accepted.taken]
      omega
  | @serverFailed failure passing =>
      have fails : Except.error failure ≠ (.ok () : Except E Unit) := by
        intro same
        cases same
      rw [serverAt_server, p.server.resume_stopped (.inl ⟨passing, fails⟩)] at serving
      cases serving
  | serverClosed closing =>
      rw [serverAt_server, p.server.resume_stopped (.inr closing)] at serving
      cases serving

/-- The steps that the two sides take while they go on are paid for by the work. -/
theorem work_run (untimed : cfg.keepaliveInterval = none)
    {trace : List (EchoPair cfg E up down × EchoAction E)}
    (run : (echoPair parse cfg E up down).Run (.create cfg E up down) trace p)
    (running : p.client.conn.pc.running = true) (serving : p.server.pc.stopped = false) :
    trace.countP (fun entry => entry.2.ofSide) ≤ p.work := by
  induction run with
  | nil => exact Nat.zero_le _
  | @snoc middle final front action earlier step ih =>
      have step : middle.step parse action = some final := step
      have before := ih (running_before step running) (serving_before step serving)
      have more := work_step untimed ⟨front, earlier⟩ step running serving
      rw [List.countP_append, List.countP_singleton]
      cases side : action.ofSide <;> simp [side] at more ⊢ <;> omega

/-- Each message that was accepted makes for six steps at most. -/
theorem work_le (untimed : cfg.keepaliveInterval = none) (requests : p.OnlyEchoes parse)
    (reached : (echoPair parse cfg E up down).Reachable p) :
    p.work ≤ 6 * p.client.conn.tx.sent.length := by
  have client := client_reachable reached
  have taken := ((List.prefix_append _ _).trans p.client.conn.tx.ordered).length_le
  have wrote := (System.orderly client).delivered_first.length_le
  obtain ⟨written, replies⟩ := written_echoes untimed requests reached
  rw [← written, passed_taken untimed requests reached, List.length_map] at wrote
  have served := ((List.prefix_append _ _).trans p.toServer.ordered).length_le
  have replied := replies.length_le
  have read := ((List.prefix_append _ _).trans p.toClient.ordered).length_le
  have delivered := (System.delivery client).delivered.length_le
  rw [(flow reached).read] at delivered
  have frames := List.length_filterMap_le Message.data? p.toClient.taken
  unfold work
  omega

/-- Neither side can take a step. -/
def AtRest (parse : String → Option EchoControlMessage) (p : EchoPair cfg E up down) : Prop :=
  ∀ action : EchoAction E, action.ofSide = true → p.step parse action = none

/-- A server at rest that goes on waits for a message, or for room. -/
theorem AtRest.server [Nonempty E] (rest : p.AtRest parse) (serving : p.server.pc.stopped = false)
    (opened : p.server.pc ≠ .closing) :
    (p.server.pc = .reading ∧ p.toServer.queue = []) ∨
      (p.server.pc.passing.isSome ∧ p.toClient.Full) := by
  obtain ⟨failure⟩ := ‹Nonempty E›
  have reads := rest (.serverReads none) rfl
  have writes := rest (.serverWrites failure) rfl
  cases pc : p.server.pc with
  | reading =>
      left
      simp only [EchoPair.step, EchoPair.serverReads, pc] at reads
      split at reads
      · cases reads
      · cases reads
      · rename_i waits
        exact ⟨rfl, (Channel.recv_pending_iff.mp waits).1⟩
  | echoing _ | sendingPing | sendingClose | ponging =>
      right
      simp only [EchoPair.step, EchoPair.serverWrites, serverWire, pc, ServerPc.passing] at writes
      split at writes
      · cases writes
      · cases writes
      · rename_i waits
        exact ⟨rfl, Channel.send_pending_iff.mp waits⟩
  | closing => exact absurd pc opened
  | returned _ | panicked =>
      rw [pc] at serving
      cases serving

/-- A task at rest that goes on, and whose consumer has room, waits for a message
of its callers and of the server, or for room. -/
theorem AtRest.client [Nonempty E] (rest : p.AtRest parse)
    (running : p.client.conn.pc.running = true) (opened : p.client.conn.pc ≠ .closing)
    (room : p.client.conn.rx.HasRoom) :
    (p.client.conn.pc = .select .outer ∧ p.client.conn.tx.queue = [] ∧ p.toClient.queue = []) ∨
      ((p.client.conn.pc.passing cfg).isSome ∧ p.toServer.Full) := by
  obtain ⟨failure⟩ := ‹Nonempty E›
  -- no step of the task is possible, on the socket and away from it
  have stuck : ∀ {move : LoopAction E} {u : EchoPair cfg E up down},
      (p.client.step (.loop move)).map u.clientAt = none → p.client.conn.loopStep move = none := by
    intro move u none
    exact Option.map_eq_none_iff.mp (Option.map_eq_none_iff.mp none)
  have off : ∀ {move : LoopAction E}, (Action.loop move).onSocket = false →
      p.client.conn.loopStep move = none := by
    intro move offSocket
    have none := rest (.client (.loop move)) rfl
    rw [EchoPair.step, offSocket] at none
    exact stuck none
  have reads := rest (.clientReads none) rfl
  have writes := rest (.clientWrites failure) rfl
  cases pc : p.client.conn.pc with
  | select site =>
      cases site with
      | outer =>
          left
          refine ⟨rfl, ?_, ?_⟩
          · have outgoing : p.client.conn.loopStep (.arm .outgoing) = none := off rfl
            simp only [loopStep, pc, socketLoopSplit, recvOutgoing] at outgoing
            split at outgoing
            · cases outgoing
            · cases outgoing
            · rename_i waits
              exact (Channel.recv_pending_iff.mp waits).1
          · simp only [EchoPair.step, EchoPair.clientReads] at reads
            split at reads
            · exact absurd (stuck reads) (Option.isSome_iff_ne_none.mp (takes_item pc _))
            · exact absurd (stuck reads) (Option.isSome_iff_ne_none.mp (takes_item pc _))
            · rename_i waits
              exact (Channel.recv_pending_iff.mp waits).1
      | backpressure frame =>
          have reserve : p.client.conn.loopStep (.arm .reserve) = none := off rfl
          simp only [loopStep, pc, deliverWithBackpressure.turn] at reserve
          split at reserve
          · cases reserve
          · cases reserve
          · rename_i waits
            have full := (Channel.send_pending_iff.mp waits).2
            exact absurd room.2 (Nat.not_lt.mpr full)
  | sending _ _ | ponging | keepalive _ =>
      right
      refine ⟨rfl, ?_⟩
      have goes := fun result => Option.isSome_iff_ne_none.mp
        (takes_result (s := p.client.conn) (.inl (by rw [pc]; rfl)) result)
      simp only [EchoPair.step, EchoPair.clientWrites, Connection.wire, pc, LoopPc.passing,
        Option.map_some] at writes
      split at writes
      · exact absurd (stuck writes) (goes _)
      · exact absurd (stuck writes) (goes _)
      · rename_i waits
        exact Channel.send_pending_iff.mp waits
  | closing => exact absurd pc opened
  | leaving _ _ =>
      rw [pc] at running
      cases running

/-- Without keepalives, a client and a server that go on take at most six steps
for each message that was accepted. When neither can take any more, no more than
`up + down + 1` messages were unanswered and the consumer has taken what there
is, every message has come back, in order. -/
theorem all_come_back [Nonempty E] (untimed : cfg.keepaliveInterval = none)
    {trace : List (EchoPair cfg E up down × EchoAction E)} {final : EchoPair cfg E up down}
    (run : (echoPair parse cfg E up down).Run (.create cfg E up down) trace final)
    (requests : final.OnlyEchoes parse) (running : final.client.conn.pc.running = true)
    (serving : final.server.pc.stopped = false) :
    trace.countP (fun entry => entry.2.ofSide) ≤ 6 * final.client.conn.tx.sent.length ∧
      (0 < up → 0 < down → final.client.conn.rx.receiver.isSome →
        final.client.conn.rx.queue = [] → final.AtRest parse →
        final.client.conn.tx.sent.length ≤ final.client.received.length + up + down + 1 →
          final.client.received = final.client.conn.tx.sent.map TxChannelPayload.message) := by
  have reached : (echoPair parse cfg E up down).Reachable final := ⟨trace, run⟩
  refine ⟨(work_run untimed run running serving).trans (work_le untimed requests reached), ?_⟩
  intro roomUp roomDown alive drained rest window
  have counted := received_add_inTransit untimed requests reached running serving alive
  have room : final.client.conn.rx.HasRoom := ⟨alive, by rw [drained]; exact cfg.channelSizePos⟩
  obtain ⟨opened, opened'⟩ := (allEcho untimed requests reached).not_closing reached
  rcases rest.client running opened room with ⟨here, idle, back⟩ | ⟨passing, full⟩
  · rcases rest.server serving opened' with ⟨reading, there⟩ | ⟨_, full⟩
    · -- nothing is on its way any more
      have none : final.inTransit = 0 := by
        simp only [inTransit, drained, here, idle, back, reading, there, LoopPc.held, Site.held,
          LoopPc.passing, ServerPc.passing]
        rfl
      apply (received_first untimed requests reached).eq_of_length
      rw [List.length_map]
      omega
    · have many := full.2
      rw [back] at many
      exact absurd roomDown (Nat.not_lt.mpr many)
  · rcases rest.server serving opened' with ⟨_, there⟩ | ⟨waits, full'⟩
    · have many := full.2
      rw [there] at many
      exact absurd roomUp (Nat.not_lt.mpr many)
    · -- the two sides wait for each other, which takes more than the window
      have most := window_of_blocked untimed requests reached ⟨passing, full⟩ waits full'
      omega

theorem all_come_back_oneEcho :
    let M := echoPair readMessage .single Unit 1 1
    let final := M.follow (.create .single Unit 1 1) oneEcho
    (M.steps (.create .single Unit 1 1) oneEcho).countP (fun entry => entry.2.ofSide) ≤
        6 * final.client.conn.tx.sent.length ∧
      final.client.received = final.client.conn.tx.sent.map TxChannelPayload.message := by
  intro M final
  have rest : final.AtRest readMessage := by
    intro action side
    cases action with
    | client action =>
        cases action with
        | loop move =>
            cases move with
            | arm arm => cases arm <;> rfl
            | sink _ | finish => rfl
        | start _ _ | advance _ | cancel _ | clone _ _ | split _ _ | reunite _ _ | drop _ =>
            cases side
    | clientReads _ | clientWrites _ | serverReads _ | serverWrites _ => rfl
  have run := M.run_steps (.create .single Unit 1 1) oneEcho
  obtain ⟨steps, back⟩ := all_come_back rfl run (by decide) (by decide) (by decide)
  exact ⟨steps, back (by decide) (by decide) (by decide) (by decide) rest (by decide)⟩

end EchoPair

end Socketeer
