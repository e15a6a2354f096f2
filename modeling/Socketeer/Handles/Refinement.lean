import Socketeer.Duplex
import Socketeer.Handles.Handshake
import Socketeer.Handles.Unconfirmed

/-! # The system as a connection

What the task, the calls and the owners of the handles do together is what a
connection does: the two channels with the frame that is held are its two
queues, the slot holds its cause, and the events of a step are read off the
ledgers (`System.refines_duplex`). Over a run the events are what was passed to
the sink, what the stream gave, and what the calls returned (`System.attested`).
-/

namespace Socketeer

open Foundation

variable {cfg : LoopConfig} {E : Type}

/-- How far the task has come with its end. -/
def LoopPc.phase : LoopPc E → DuplexPhase
  | .leaving _ .recording => .stopped
  | .leaving _ _ => .recorded
  | .select _ | .sending _ _ | .ponging | .closing | .keepalive _ => .running

/-- A loop that runs has not begun to end. -/
theorem LoopPc.phase_of_running {pc : LoopPc E} (running : pc.running = true) :
    pc.phase = .running := by
  cases pc with
  | leaving _ _ => cases running
  | select _ | sending _ _ | ponging | closing | keepalive _ => rfl

/-- Once the sender was dropped the cause is recorded. -/
theorem LoopPc.phase_of_holdsSender {pc : LoopPc E} (dropped : pc.holdsSender = false) :
    pc.phase = .recorded := by
  cases pc with
  | leaving _ stage => cases stage <;> first | rfl | cases dropped
  | select _ | sending _ _ | ponging | closing | keepalive _ => cases dropped

namespace Connection

/-- The connection that the two channels, the task and the slot stand for. -/
def asDuplex (s : Connection cfg E) : Duplex Message (Error E) where
  outbound := s.tx.queue.map TxChannelPayload.message
  accepting := s.tx.receiver.isSome
  inbound := if s.rx.receiver.isSome then s.rx.queue ++ s.pc.held.toList else []
  listening := s.rx.receiver.isSome
  phase := s.pc.phase
  cause := s.terminalError

end Connection

/-- What a list has grown by. -/
def grown {α : Type*} (before after : List α) : List α :=
  after.drop before.length

@[simp] theorem grown_self {α : Type*} (list : List α) : grown list list = [] :=
  List.drop_length

@[simp] theorem grown_append {α : Type*} (list more : List α) : grown list (list ++ more) = more :=
  List.drop_left

namespace Connection

/-- The end of the loop, with the frame that is held by then and is lost. -/
def stops (s t : Connection cfg E) : List (DuplexEvent Message (Error E)) :=
  if s.pc.phase = .running ∧ t.pc.phase = .stopped then
    [.stop (if s.rx.receiver.isSome then s.pc.held else none)]
  else []

def records (s t : Connection cfg E) : List (DuplexEvent Message (Error E)) :=
  if s.pc.phase = .stopped ∧ t.pc.phase = .recorded then [.record t.terminalError] else []

def discards (s t : Connection cfg E) : List (DuplexEvent Message (Error E)) :=
  if s.tx.receiver.isSome ∧ t.tx.receiver = none then [.discard] else []

def hangUps (s t : Connection cfg E) : List (DuplexEvent Message (Error E)) :=
  if s.rx.receiver.isSome ∧ t.rx.receiver = none then [.hangUp] else []

variable {s t : Connection cfg E}

/-- The end is not reached while the phase is the same. -/
theorem stops_of_same (same : t.pc.phase = s.pc.phase) : stops s t = [] := by
  refine if_neg fun ⟨running, stopped⟩ => ?_
  rw [same, running] at stopped
  cases stopped

/-- Nothing is recorded while the phase is the same. -/
theorem records_of_same (same : t.pc.phase = s.pc.phase) : records s t = [] := by
  refine if_neg fun ⟨stopped, recorded⟩ => ?_
  rw [same, stopped] at recorded
  cases recorded

/-- Nothing is recorded while the loop runs. -/
theorem records_of_running (running : s.pc.running = true) : records s t = [] := by
  refine if_neg fun ⟨stopped, _⟩ => ?_
  rw [LoopPc.phase_of_running running] at stopped
  cases stopped

/-- Nothing is discarded while the task has its receiver. -/
theorem discards_of_same (same : t.tx.receiver = s.tx.receiver) : discards s t = [] := by
  refine if_neg fun ⟨held, gone⟩ => ?_
  rw [← same, gone] at held
  cases held

/-- Nobody hangs up while the receive half is where it was. -/
theorem hangUps_of_same (same : t.rx.receiver = s.rx.receiver) : hangUps s t = [] := by
  refine if_neg fun ⟨held, gone⟩ => ?_
  rw [← same, gone] at held
  cases held

end Connection

namespace System

open Connection
open DuplexEvent (accepted? passed? read? received? told?)

/-- The events between two states. A message is passed on when the task takes it in
order to write it, and a cause is told when a call takes it from the slot in order
to return it (`attested`). -/
def observed (s t : System cfg E) : List (DuplexEvent Message (Error E)) :=
  (grown s.conn.tx.sent t.conn.tx.sent).map (fun payload => .accept payload.message) ++
    (grown s.conn.tx.taken t.conn.tx.taken).map (fun payload => .pass payload.message) ++
    (dataFrames (grown s.conn.items t.conn.items)).map .read ++
    (grown s.conn.rx.taken t.conn.rx.taken).map .receive ++
    stops s.conn t.conn ++ records s.conn t.conn ++ discards s.conn t.conn ++
    (grown s.slotReads t.slotReads).map (fun access => .tell access.2) ++ hangUps s.conn t.conn

/-- The events of a step. -/
def stands (s : System cfg E) (action : Action E) : List (DuplexEvent Message (Error E)) :=
  match s.step action with
  | some t => observed s t
  | none => []

variable {s t : System cfg E}

/-- The events of a step of the task. -/
private theorem observed_loop {move : LoopAction E} {conn : Connection cfg E}
    (moved : s.conn.LoopStep move conn) :
    observed s { s with conn := conn } =
      (grown s.conn.tx.taken conn.tx.taken).map (fun payload => .pass payload.message) ++
        (dataFrames (grown s.conn.items conn.items)).map .read ++ stops s.conn conn ++
        records s.conn conn ++ discards s.conn conn := by
  simp only [observed, moved.sent, moved.taken, hangUps_of_same moved.handles.1, grown_self,
    List.map_nil, List.nil_append, List.append_nil]

/-- The events of a step of the task that keeps the tx receiver. -/
private theorem observed_open {move : LoopAction E} {conn : Connection cfg E}
    (moved : s.conn.LoopStep move conn) (receiver : conn.tx.receiver = s.conn.tx.receiver) :
    observed s { s with conn := conn } =
      (grown s.conn.tx.taken conn.tx.taken).map (fun payload => .pass payload.message) ++
        (dataFrames (grown s.conn.items conn.items)).map .read ++ stops s.conn conn ++
        records s.conn conn := by
  rw [observed_loop moved, discards_of_same receiver, List.append_nil]

/-- The events of a step with which the task comes no nearer to its end. -/
private theorem observed_within {move : LoopAction E} {conn : Connection cfg E}
    (moved : s.conn.LoopStep move conn) (phase : conn.pc.phase = s.conn.pc.phase)
    (receiver : conn.tx.receiver = s.conn.tx.receiver) :
    observed s { s with conn := conn } =
      (grown s.conn.tx.taken conn.tx.taken).map (fun payload => .pass payload.message) ++
        (dataFrames (grown s.conn.items conn.items)).map .read := by
  rw [observed_open moved receiver, stops_of_same phase, records_of_same phase, List.append_nil,
    List.append_nil]

/-- The events of a step of the loop. -/
private theorem observed_running {move : LoopAction E} {conn : Connection cfg E}
    (moved : s.conn.LoopStep move conn) (running : s.conn.pc.running = true)
    (receiver : conn.tx.receiver = s.conn.tx.receiver) :
    observed s { s with conn := conn } =
      (grown s.conn.tx.taken conn.tx.taken).map (fun payload => .pass payload.message) ++
        (dataFrames (grown s.conn.items conn.items)).map .read ++ stops s.conn conn := by
  rw [observed_open moved receiver, records_of_running running, List.append_nil]

/-- A step of the task that neither takes a payload nor delivers a frame: the
task goes on with what it holds, or stops without it. -/
private theorem follows_turn {move : LoopAction E} {conn : Connection cfg E}
    (moved : s.conn.LoopStep move conn) (running : s.conn.pc.running = true)
    (tx : conn.tx = s.conn.tx) (rx : conn.rx = s.conn.rx)
    (slot : conn.terminalError = s.conn.terminalError)
    (read : dataFrames (grown s.conn.items conn.items) = [])
    (goes : (conn.pc.running = true ∧ conn.pc.held = s.conn.pc.held) ∨
      ∃ state, conn.pc = .leaving state .recording) :
    (duplex Message (Error E)).Follows s.conn.asDuplex (observed s { s with conn := conn })
      conn.asDuplex := by
  rw [observed_running moved running (congrArg Channel.receiver tx), read, tx, grown_self]
  have phase := LoopPc.phase_of_running running
  rcases goes with ⟨goesOn, held⟩ | ⟨state, left⟩
  · have same := (LoopPc.phase_of_running goesOn).trans phase.symm
    have stays : conn.asDuplex = s.conn.asDuplex := by
      simp only [asDuplex, tx, rx, slot, held, same]
    rw [stops_of_same same, stays]
    exact .nil _
  · have stopped : conn.pc.phase = .stopped := by
      rw [left]
      rfl
    rw [stops, if_pos ⟨phase, stopped⟩]
    have free : conn.pc.held = none := by
      rw [left]
      rfl
    refine .single ?_
    cases listening : s.conn.rx.receiver.isSome with
    | true => simp [duplex, Duplex.step, asDuplex, phase, stopped, free, tx, rx, slot, listening]
    | false => simp [duplex, Duplex.step, asDuplex, phase, stopped, tx, rx, slot, listening]

/-- The data frame of an item, if it is one. -/
theorem dataFrames_single (item : StreamItem E) : dataFrames [item] = (itemData item).toList :=
  dataFrames_snoc [] item

/-- A data frame is read, and put behind the frames that wait for the consumer. -/
private theorem follows_read {frame : Message} {conn : Connection cfg E}
    (moved : s.conn.LoopStep (.arm (.incoming (some (.ok frame)))) conn)
    (data : frame.data? = some frame) (items : conn.items = s.conn.items ++ [some (.ok frame)])
    (tx : conn.tx = s.conn.tx) (slot : conn.terminalError = s.conn.terminalError)
    (running : conn.pc.running = true) (held : s.conn.rx.receiver.isSome)
    (receiver : conn.rx.receiver = s.conn.rx.receiver)
    (inbound : conn.rx.queue ++ conn.pc.held.toList = s.conn.rx.queue ++ [frame]) :
    (duplex Message (Error E)).Follows s.conn.asDuplex (observed s { s with conn := conn })
      conn.asDuplex := by
  have phase : s.conn.pc.phase = .running := by
    rw [moved.reads]
    rfl
  have free : s.conn.pc.held = none := by
    rw [moved.reads]
    rfl
  have same := LoopPc.phase_of_running running
  rw [observed_within moved (same.trans phase.symm) (congrArg Channel.receiver tx), tx, items,
    grown_self, grown_append, dataFrames_single, itemData, data]
  refine .single ?_
  simp [duplex, Duplex.step, asDuplex, phase, same, free, tx, slot, receiver, held, inbound]

/-- Where a handler takes the task. -/
private theorem next_goes {pc : LoopPc E} (state : LoopState E) {site : Site}
    (held : pc.held = site.held) :
    ((state.next site).running = true ∧ (state.next site).held = pc.held) ∨
      ∃ left, state.next site = .leaving left .recording := by
  cases state with
  | running => exact .inl ⟨rfl, held.symm⟩
  | error cause => exact .inr ⟨_, rfl⟩
  | closed => exact .inr ⟨_, rfl⟩

/-- The task does what a connection does. -/
theorem loop_follows {move : LoopAction E} {conn : Connection cfg E}
    (ends : s.conn.Ends) (moved : s.conn.LoopStep move conn) :
    (duplex Message (Error E)).Follows s.conn.asDuplex (observed s { s with conn := conn })
      conn.asDuplex := by
  cases rule : moved with
  | @outgoing site payload tx here received =>
      rw [observed_within moved (by rw [here]; rfl) received.receiver, received.taken, grown_append,
        grown_self]
      refine .single ?_
      simp [duplex, Duplex.step, asDuplex, here, received.queue, received.receiver, LoopPc.phase,
        LoopPc.held]
  | sendersGone here | abandon here | sentUnheard here =>
      exact follows_turn moved (by rw [here]; rfl) rfl rfl rfl (by rw [grown_self]; rfl)
        (.inr ⟨_, rfl⟩)
  | ping here | close here =>
      exact follows_turn moved (by rw [here]; rfl) rfl rfl rfl (by rw [grown_append]; rfl)
        (.inl ⟨rfl, by rw [here]; rfl⟩)
  | skip here skipped =>
      refine follows_turn moved (by rw [here]; rfl) rfl rfl rfl ?_
        (.inl ⟨rfl, congrArg LoopPc.held here.symm⟩)
      rw [grown_append]
      rcases skipped with ⟨payload, rfl⟩ | ⟨raw, rfl⟩
      · rfl
      · rfl
  | streamError here | streamEnd here =>
      exact follows_turn moved (by rw [here]; rfl) rfl rfl rfl (by rw [grown_append]; rfl)
        (.inr ⟨_, rfl⟩)
  | sleep here =>
      exact follows_turn moved (by rw [here]; rfl) rfl rfl rfl (by rw [grown_self]; rfl)
        (.inl ⟨rfl, by rw [here]; rfl⟩)
  | sentUnconfirmed here | sentConfirmed here | ponged here | sinkClosed here | keptAlive here =>
      exact follows_turn moved (by rw [here]; rfl) rfl rfl rfl (by rw [grown_self]; rfl)
        (next_goes _ (by rw [here]; rfl))
  | deliver here data accepted =>
      exact follows_read moved data rfl rfl rfl rfl accepted.held accepted.receiver
        ((List.append_nil _).trans accepted.queue)
  | hold here data held full => exact follows_read moved data rfl rfl rfl rfl held rfl rfl
  | @refuse frame here data gone =>
      rw [observed_running moved (by rw [here]; rfl) rfl, grown_self, grown_append,
        dataFrames_single, itemData, data, stops, here, gone]
      have ignored : (duplex Message (Error E)).step s.conn.asDuplex (.read frame) =
          some s.conn.asDuplex := by
        simp [duplex, Duplex.step, asDuplex, here, gone, LoopPc.phase]
      refine (Machine.Follows.single ignored).append (.single ?_)
      simp [duplex, Duplex.step, asDuplex, here, gone, LoopPc.phase]
  | @release frame rx here accepted =>
      have stays : asDuplex { s.conn with rx := rx, pc := .select .outer } = s.conn.asDuplex := by
        simp [asDuplex, here, accepted.held, accepted.receiver, accepted.queue, LoopPc.phase,
          LoopPc.held, Site.held]
      rw [observed_within moved (by rw [here]; rfl) rfl, grown_self, grown_self, stays]
      exact .nil _
  | @record state here =>
      rw [observed_open moved rfl, grown_self, grown_self, stops, records, here]
      refine .single ?_
      simp [duplex, Duplex.step, asDuplex, here, LoopPc.phase, LoopPc.held]
  | @dropSender state here =>
      have stays : asDuplex { s.conn with
          rx := s.conn.rx.dropSender (), pc := .leaving state .droppingReceiver } =
            s.conn.asDuplex := by
        simp [asDuplex, here, LoopPc.phase, LoopPc.held]
      rw [observed_within moved (by rw [here]; rfl) rfl, grown_self, grown_self, stays]
      exact .nil _
  | @dropReceiver state here =>
      have held : s.conn.tx.receiver.isSome := by
        rw [ends.receiver, here]
        rfl
      rw [observed_loop moved, stops, records, here]
      simp only [Channel.dropReceiver_taken, Channel.dropReceiver_receiver, grown_self, discards,
        held]
      refine .single ?_
      simp [duplex, Duplex.step, asDuplex, here, LoopPc.phase, LoopPc.held]

/-- The events of a step that is none of the task. -/
private theorem observed_handles (same : SameLedger s.conn t.conn) :
    observed s t =
      (grown s.conn.tx.sent t.conn.tx.sent).map (fun payload => .accept payload.message) ++
        (grown s.conn.rx.taken t.conn.rx.taken).map .receive ++
        (grown s.slotReads t.slotReads).map (fun access => .tell access.2) ++
        hangUps s.conn t.conn := by
  have phase := congrArg LoopPc.phase same.pc
  simp only [observed, same.popped, same.items, stops_of_same phase, records_of_same phase,
    discards_of_same same.txReceiver, grown_self, dataFrames, List.filterMap_nil, List.map_nil,
    List.append_nil]

/-- Dropping a handle hangs up if it is the one that receives. -/
theorem dropHandle_follows (conn : Connection cfg E) (handle : HandleId) :
    (duplex Message (Error E)).Follows conn.asDuplex (hangUps conn (conn.dropHandle handle))
      (conn.dropHandle handle).asDuplex := by
  by_cases owner : conn.rx.receiver = some handle
  · have held : conn.rx.receiver.isSome := by
      rw [owner]
      rfl
    have gone : (conn.dropHandle handle).rx.receiver = none := by
      rw [dropHandle_rx_receiver, if_pos owner]
    rw [hangUps, if_pos ⟨held, gone⟩]
    refine .single ?_
    simp [duplex, Duplex.step, asDuplex, gone]
  · have rx : (conn.dropHandle handle).rx = conn.rx := by
      rw [dropHandle, if_neg owner]
    have stays : (conn.dropHandle handle).asDuplex = conn.asDuplex := by
      simp [asDuplex, rx]
    rw [hangUps_of_same (congrArg Channel.receiver rx), stays]
    exact .nil _

/-- A call that owns its handle hangs up at its end. -/
theorem settle_follows (conn : Connection cfg E) (record : Call E) (pc : CallPc E) :
    (duplex Message (Error E)).Follows conn.asDuplex (hangUps conn (conn.settle record pc))
      (conn.settle record pc).asDuplex := by
  rcases conn.settle_cases record pc with ⟨same, _⟩ | ⟨dropped, _⟩
  · rw [same, hangUps_of_same rfl]
    exact .nil _
  · rw [dropped]
    exact dropHandle_follows conn record.handle

/-- Whoever has seen a channel closed can be told the cause. -/
private theorem tell_follows (conn : Connection cfg E) (recorded : conn.pc.phase = .recorded) :
    (duplex Message (Error E)).Follows conn.asDuplex [.tell conn.terminalError]
      { conn with terminalError := none }.asDuplex := by
  refine .single ?_
  simp [duplex, Duplex.step, asDuplex, recorded]

/-- The consumer receives the first frame that waits. -/
private theorem receive_follows (conn : Connection cfg E) {frame : Message}
    {rx : Channel Message Unit HandleId cfg.channelSize} (held : conn.rx.receiver.isSome)
    (received : conn.rx.Received frame rx) :
    (duplex Message (Error E)).Follows conn.asDuplex [.receive frame]
      { conn with rx := rx }.asDuplex := by
  refine .single ?_
  simp [duplex, Duplex.step, asDuplex, held, received.receiver, received.queue]

/-- A payload that is accepted waits behind the others. -/
private theorem accept_follows (conn : Connection cfg E) {payload : TxChannelPayload}
    {tx : Channel TxChannelPayload HandleId Unit cfg.channelSize}
    (accepted : conn.tx.Accepted payload tx) :
    (duplex Message (Error E)).Follows conn.asDuplex [.accept payload.message]
      { conn with tx := tx }.asDuplex := by
  refine .single ?_
  simp [duplex, Duplex.step, asDuplex, accepted.held, accepted.queue, accepted.receiver]

/-- A call that has done something moves on. -/
private theorem moveTo_follows {u : System cfg E} {call : CallId} {record : Call E} {pc : CallPc E}
    {front : List (DuplexEvent Message (Error E))}
    (before : (duplex Message (Error E)).Follows s.conn.asDuplex front u.conn.asDuplex)
    (same : SameLedger s.conn (u.moveTo call record pc).conn)
    (receiver : u.conn.rx.receiver = s.conn.rx.receiver)
    (events : (grown s.conn.tx.sent u.conn.tx.sent).map (fun payload => .accept payload.message) ++
      (grown s.conn.rx.taken u.conn.rx.taken).map .receive ++
      (grown s.slotReads u.slotReads).map (fun access => .tell access.2) = front) :
    (duplex Message (Error E)).Follows s.conn.asDuplex (observed s (u.moveTo call record pc))
      (u.moveTo call record pc).conn.asDuplex := by
  have ends : hangUps s.conn (u.moveTo call record pc).conn =
      hangUps u.conn (u.conn.settle record pc) := by
    rw [hangUps, hangUps, receiver]
    rfl
  rw [observed_handles same, ends]
  change Machine.Follows _ _ ((grown _ (u.conn.settle record pc).tx.sent).map _ ++
    (grown _ (u.conn.settle record pc).rx.taken).map _ ++ (grown _ u.slotReads).map _ ++ _) _
  rw [settle_tx_sent, settle_rx_taken, events]
  exact before.append (settle_follows u.conn record pc)

/-- A call moves on. -/
private theorem moves_follows {call : CallId} {record : Call E} {pc : CallPc E}
    (same : SameLedger s.conn (s.moveTo call record pc).conn) :
    (duplex Message (Error E)).Follows s.conn.asDuplex (observed s (s.moveTo call record pc))
      (s.moveTo call record pc).conn.asDuplex :=
  moveTo_follows (.nil _) same rfl (by simp only [grown_self, List.map_nil, List.append_nil])

/-- A step that leaves the queues and the slot alone. -/
private theorem quiet_follows (same : SameLedger s.conn t.conn)
    (sent : t.conn.tx.sent = s.conn.tx.sent) (taken : t.conn.rx.taken = s.conn.rx.taken)
    (reads : t.slotReads = s.slotReads)
    (receiver : t.conn.rx.receiver.isSome = s.conn.rx.receiver.isSome)
    (stays : t.conn.asDuplex = s.conn.asDuplex) :
    (duplex Message (Error E)).Follows s.conn.asDuplex (observed s t) t.conn.asDuplex := by
  have kept : hangUps s.conn t.conn = [] := by
    refine if_neg fun ⟨held, gone⟩ => ?_
    rw [← receiver, gone] at held
    cases held
  rw [observed_handles same, sent, taken, reads, kept, stays]
  simp only [grown_self, List.map_nil, List.append_nil]
  exact .nil _

/-- The calls and the owners of the handles do what the users of a connection do. -/
theorem handles_follows (reached : (system cfg E).Reachable s) {action : Action E}
    (step : s.Step action t) (same : SameLedger s.conn t.conn) :
    (duplex Message (Error E)).Follows s.conn.asDuplex (observed s t) t.conn.asDuplex := by
  have ends := ends reached
  have closed : s.conn.rx.senders = ∅ → s.conn.pc.phase = .recorded := fun gone =>
    LoopPc.phase_of_holdsSender (ends.closed gone)
  cases step with
  | loop moved => exact loop_follows ends moved
  | startReceive | startSend | pollPending | clone => exact quiet_follows same rfl rfl rfl rfl rfl
  | split | reunite =>
      apply quiet_follows same rfl rfl rfl
      · exact Option.isSome_map
      · simp [asDuplex]
  | pollFrame permitted received =>
      have held : s.conn.rx.receiver.isSome := by
        rw [permitted.1]
        rfl
      have receives := receive_follows s.conn held received
      rw [observed_handles same]
      simpa [System.begin, received.taken, hangUps_of_same, received.receiver] using receives
  | pollEnd permitted empty gone =>
      have tells := tell_follows s.conn (closed gone)
      rw [observed_handles same]
      simpa [System.begin, takeTerminalErrorOpt, hangUps_of_same] using tells
  | @accept call record payload tx found atSend enqueues accepted =>
      apply moveTo_follows (u := { s with conn := { s.conn with tx := tx } })
        (accept_follows s.conn accepted) same rfl
      simp [accepted.sent]
  | @refuseSend call record found atSend sends gone =>
      apply moveTo_follows (u := s.takeTerminalErrorOpt call)
        (tell_follows s.conn (closed (ends.refused gone))) same rfl
      simp [takeTerminalErrorOpt]
  | refuseClose | reply | panic | connect => exact moves_follows same
  | @join call record closeSent state found joining finished =>
      have recorded : s.conn.pc.phase = .recorded := by
        rw [finished]
        rfl
      apply moveTo_follows (u := s.takeTerminalErrorOpt call) (tell_follows s.conn recorded) same
        rfl
      simp [takeTerminalErrorOpt]
  | @recvFrame call record message rx found receiving received =>
      have owned := ownership reached
      have held : s.conn.rx.receiver.isSome := by
        have receives := owned.reaches _ _ found
        rw [receiving] at receives
        have owner := (owned.exclusive _ _ found (by rw [receiving]; rfl)
          (.inr (by rw [show _ = Op.nextRawMessage from receives]; rfl))).1
        rw [owner]
        rfl
      apply moveTo_follows (u := { s with conn := { s.conn with rx := rx } })
        (receive_follows s.conn held received) same received.receiver
      simp [received.taken]
  | @recvEnd call record found receiving empty gone =>
      apply moveTo_follows (u := s.takeTerminalErrorOpt call) (tell_follows s.conn (closed gone))
        same rfl
      simp [takeTerminalErrorOpt]
  | @cancel call record found inFlight =>
      have silent : (duplex Message (Error E)).Follows s.conn.asDuplex []
          (s.conn.hangUp call).asDuplex := .nil _
      apply moveTo_follows (u := { s with conn := s.conn.hangUp call }) silent same rfl
      simp [hangUp]
  | @drop handle idle =>
      rw [observed_handles same]
      simpa using dropHandle_follows s.conn handle

/-- A step stands for the events of its ledgers. -/
private theorem follows_duplex {action : Action E} (reached : (system cfg E).Reachable s)
    (step : s.step action = some t) :
    (duplex Message (Error E)).Follows s.conn.asDuplex (stands s action) t.conn.asDuplex := by
  have events : stands s action = observed s t := by
    rw [stands, step]
  rw [events]
  have rule := step_rule step
  rcases step_ledger step with ⟨move, rfl, _⟩ | same
  · cases rule with
    | loop moved => exact loop_follows (ends reached) moved
  · exact handles_follows reached rule same

/-- The system is a connection: every step stands for the events of its ledgers,
and the two channels, the frame that is held and the slot are what the
connection keeps. -/
theorem refines_duplex (cfg : LoopConfig) (E : Type) :
    (system cfg E).Refines (duplex Message (Error E)) (fun s => s.conn.asDuplex) stands :=
  ⟨rfl, follows_duplex⟩

/-- Hence whatever happens in a run happens in order: what is passed on was
accepted before, what is received was read before, and the cause is told once. -/
theorem run_ordered {final : System cfg E} {trace : List (System cfg E × Action E)}
    (run : (system cfg E).Run (system cfg E).init trace final) :
    Duplex.Ordered (Machine.events stands trace) final.conn.asDuplex := by
  have refines : (system cfg E).Refines (duplex Message (Error E)) (fun s => s.conn.asDuplex)
      stands := ⟨rfl, follows_duplex⟩
  exact Duplex.ordered (refines.run run)

/-- The ledgers of which the events are read off only grow. -/
structure Grows (s t : System cfg E) : Prop where
  sent : s.conn.tx.sent <+: t.conn.tx.sent
  popped : s.conn.tx.taken <+: t.conn.tx.taken
  items : s.conn.items <+: t.conn.items
  taken : s.conn.rx.taken <+: t.conn.rx.taken
  slotReads : s.slotReads <+: t.slotReads

/-- No step takes anything out of a ledger. -/
theorem step_grows {action : Action E} (step : s.step action = some t) : Grows s t := by
  have rule := step_rule step
  constructor
  case sent => exact sent_first step
  case popped =>
    rcases step_ledger step with ⟨_, _, moved⟩ | same
    · rw [moved.popped]
      exact List.prefix_append _ _
    · rw [same.popped]
  case items =>
    rcases step_ledger step with ⟨_, _, moved⟩ | same
    · rw [moved.items]
      exact List.prefix_append _ _
    · rw [same.items]
  case taken =>
    cases rule with
    | loop moved => rw [moved.taken]
    | startReceive | startSend | pollEnd | pollPending | clone | split | reunite =>
        exact List.prefix_refl _
    | pollFrame _ received | recvFrame _ _ received =>
        simp [System.begin, moveTo, received.taken]
    | accept | refuseSend | refuseClose | reply | panic | join | connect | recvEnd | cancel
    | drop =>
        simp [moveTo, takeTerminalErrorOpt, hangUp]
  case slotReads =>
    cases rule with
    | pollEnd | refuseSend | join | recvEnd => exact List.prefix_append _ _
    | loop | startReceive | startSend | pollFrame | pollPending | accept | refuseClose | reply
    | panic | connect | recvFrame | cancel | clone | split | reunite | drop =>
        exact List.prefix_refl _

/-- A ledger is what it was with what it has grown by. -/
theorem append_grown {α : Type*} {before after : List α} (grows : before <+: after) :
    before ++ grown before after = after := by
  obtain ⟨more, rfl⟩ := grows
  rw [grown_append]

/-- The events of a kind that says nothing of the end, in the order in which a step
lists them. -/
private theorem observed_filterMap {α : Type} (kind : DuplexEvent Message (Error E) → Option α)
    (stop : ∀ lost, kind (.stop lost) = none) (record : ∀ cause, kind (.record cause) = none)
    (discard : kind .discard = none) (hangUp : kind .hangUp = none) (s t : System cfg E) :
    (observed s t).filterMap kind =
      (grown s.conn.tx.sent t.conn.tx.sent).filterMap
          (fun payload => kind (.accept payload.message)) ++
        (grown s.conn.tx.taken t.conn.tx.taken).filterMap
          (fun payload => kind (.pass payload.message)) ++
        (dataFrames (grown s.conn.items t.conn.items)).filterMap
          (fun frame => kind (.read frame)) ++
        (grown s.conn.rx.taken t.conn.rx.taken).filterMap (fun frame => kind (.receive frame)) ++
        (grown s.slotReads t.slotReads).filterMap (fun access => kind (.tell access.2)) := by
  have stops : (stops s.conn t.conn).filterMap kind = [] := by
    unfold Connection.stops
    split <;> simp [stop]
  have records : (records s.conn t.conn).filterMap kind = [] := by
    unfold Connection.records
    split <;> simp [record]
  have discards : (discards s.conn t.conn).filterMap kind = [] := by
    unfold Connection.discards
    split <;> simp [discard]
  have hangUps : (hangUps s.conn t.conn).filterMap kind = [] := by
    unfold Connection.hangUps
    split <;> simp [hangUp]
  simp [observed, stops, records, discards, hangUps, List.filterMap_map]

/-- The messages that a step accepts. -/
theorem observed_accepted (s t : System cfg E) : (observed s t).filterMap accepted? =
    (grown s.conn.tx.sent t.conn.tx.sent).map TxChannelPayload.message := by
  rw [observed_filterMap accepted? (fun _ => rfl) (fun _ => rfl) rfl rfl]
  simp [accepted?]

/-- The messages that a step takes in order to write them. -/
theorem observed_passed (s t : System cfg E) : (observed s t).filterMap passed? =
    (grown s.conn.tx.taken t.conn.tx.taken).map TxChannelPayload.message := by
  rw [observed_filterMap passed? (fun _ => rfl) (fun _ => rfl) rfl rfl]
  simp [passed?]

/-- The data frames that a step reads. -/
theorem observed_read (s t : System cfg E) : (observed s t).filterMap read? =
    dataFrames (grown s.conn.items t.conn.items) := by
  rw [observed_filterMap read? (fun _ => rfl) (fun _ => rfl) rfl rfl]
  simp [read?]

/-- The frames that a step gives to the consumer. -/
theorem observed_received (s t : System cfg E) : (observed s t).filterMap received? =
    grown s.conn.rx.taken t.conn.rx.taken := by
  rw [observed_filterMap received? (fun _ => rfl) (fun _ => rfl) rfl rfl]
  simp [received?]

/-- The causes that a step tells. -/
theorem observed_told (s t : System cfg E) : (observed s t).filterMap told? =
    (grown s.slotReads t.slotReads).filterMap Prod.snd := by
  rw [observed_filterMap told? (fun _ => rfl) (fun _ => rfl) rfl rfl]
  simp [told?]

/-- Over a run the events of a kind are what the ledger of that kind holds. -/
private theorem events_filterMap {α β : Type}
    {kind : DuplexEvent Message (Error E) → Option β} (ledger : System cfg E → List α)
    (image : List α → List β) (start : image (ledger (.create cfg E)) = [])
    (joins : ∀ front back, image (front ++ back) = image front ++ image back)
    (grows : ∀ {s t}, Grows s t → ledger s <+: ledger t)
    (reads : ∀ s t, (observed s t).filterMap kind = image (grown (ledger s) (ledger t)))
    {final : System cfg E} {trace : List (System cfg E × Action E)}
    (run : (system cfg E).Run (system cfg E).init trace final) :
    (Machine.events stands trace).filterMap kind = image (ledger final) := by
  refine run.ledger (fun s => image (ledger s)) kind start ?_
  intro s action t step
  have step : s.step action = some t := step
  rw [stands, step, reads, ← joins, append_grown (grows (step_grows step))]

/-- The events of a run in the words of the sink, the stream, the calls and the
slot. -/
structure Attested (events : List (DuplexEvent Message (Error E))) (s : System cfg E) : Prop where
  accepted : events.filterMap accepted? = s.conn.tx.sent.map TxChannelPayload.message
  passed : events.filterMap passed? = s.conn.passedBy .outgoing
  read : events.filterMap read? = dataFrames s.conn.items
  received : events.filterMap received? = s.received
  told : events.filterMap told? = s.slotReads.filterMap Prod.snd
  reported : ∀ cause ∈ events.filterMap told?, ∃ call record, s.calls call = some record ∧
    record.Reports (some cause)

/-- The messages that the events of a run pass on are those that `sink.send` was
called with for the tx channel, the frames they read and receive are those that
the stream gave and the receiving calls returned, and each cause they tell is
what some call has returned. -/
theorem attested {final : System cfg E} {trace : List (System cfg E × Action E)}
    (run : (system cfg E).Run (system cfg E).init trace final) :
    Attested (Machine.events stands trace) final := by
  have reached : (system cfg E).Reachable final := ⟨trace, run⟩
  have told := events_filterMap (·.slotReads) (·.filterMap Prod.snd) rfl
    (fun _ _ => List.filterMap_append) Grows.slotReads observed_told run
  constructor
  case accepted =>
    exact events_filterMap (·.conn.tx.sent) (·.map TxChannelPayload.message) rfl
      (fun _ _ => List.map_append) Grows.sent observed_accepted run
  case passed =>
    rw [passedBy_outgoing, (accounted reached).outgoing]
    exact events_filterMap (·.conn.tx.taken) (·.map TxChannelPayload.message) rfl
      (fun _ _ => List.map_append) Grows.popped observed_passed run
  case read =>
    exact events_filterMap (·.conn.items) dataFrames rfl (fun _ _ => List.filterMap_append)
      Grows.items observed_read run
  case received =>
    rw [received_eq_taken reached]
    exact events_filterMap (·.conn.rx.taken) id rfl (fun _ _ => rfl) Grows.taken
      observed_received run
  case told => exact told
  case reported =>
    intro cause member
    rw [told, List.mem_filterMap] at member
    obtain ⟨access, accessed, same⟩ := member
    obtain ⟨record, found, reports⟩ := reported reached access accessed
    exact ⟨access.1, record, found, same ▸ reports⟩

end System

end Socketeer
