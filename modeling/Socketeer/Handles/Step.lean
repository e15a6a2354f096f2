import Socketeer.SocketLoop.Step
import Socketeer.Handles.System

/-! # What a step of the system can do

Every step falls under one of the rules of `System.Step`. A rule of the task
changes the connection only; every other rule leaves the task and its history
as they are (`System.step_ledger`).
-/

namespace Socketeer

open Foundation

variable {cfg : LoopConfig} {E : Type}

namespace Connection

variable (s : Connection cfg E)

/-- A handle that is dropped is no sender any more. -/
@[simp] theorem dropHandle_tx (handle : HandleId) :
    (s.dropHandle handle).tx = s.tx.dropSender handle := rfl

/-- A handle owns no one-shot. -/
@[simp] theorem dropHandle_oneshots (handle : HandleId) :
    (s.dropHandle handle).oneshots = s.oneshots := rfl

/-- The slot outlives a handle. -/
@[simp] theorem dropHandle_terminalError (handle : HandleId) :
    (s.dropHandle handle).terminalError = s.terminalError := rfl

/-- The task goes on where it is. -/
@[simp] theorem dropHandle_pc (handle : HandleId) : (s.dropHandle handle).pc = s.pc := rfl

/-- Dropping a handle reads nothing from the stream. -/
@[simp] theorem dropHandle_items (handle : HandleId) : (s.dropHandle handle).items = s.items :=
  rfl

/-- Dropping a handle writes nothing to the sink. -/
@[simp] theorem dropHandle_sinkOps (handle : HandleId) :
    (s.dropHandle handle).sinkOps = s.sinkOps := rfl

/-- What was delivered stays delivered. -/
@[simp] theorem dropHandle_rx_sent (handle : HandleId) :
    (s.dropHandle handle).rx.sent = s.rx.sent := by
  unfold dropHandle
  split <;> rfl

/-- What was received stays received. -/
@[simp] theorem dropHandle_rx_taken (handle : HandleId) :
    (s.dropHandle handle).rx.taken = s.rx.taken := by
  unfold dropHandle
  split <;> rfl

/-- The task keeps its sender. -/
@[simp] theorem dropHandle_rx_senders (handle : HandleId) :
    (s.dropHandle handle).rx.senders = s.rx.senders := by
  unfold dropHandle
  split <;> rfl

/-- The receive half goes with the handle that has it. -/
theorem dropHandle_rx_receiver (handle : HandleId) :
    (s.dropHandle handle).rx.receiver =
      if s.rx.receiver = some handle then none else s.rx.receiver := by
  unfold dropHandle
  by_cases owner : s.rx.receiver = some handle
  · simp only [owner, ↓reduceIte, Channel.dropReceiver_receiver]
  · simp only [owner, ↓reduceIte]

variable (record : Call E) (pc : CallPc E)

/-- A call that owns its handle drops it at its end, and no other call does. -/
theorem settle_cases : (s.settle record pc = s ∧ ¬ (record.op.consumes ∧ ¬ pc.inFlight)) ∨
    (s.settle record pc = s.dropHandle record.handle ∧ record.op.consumes ∧ ¬ pc.inFlight) := by
  unfold settle
  by_cases ends : record.op.consumes ∧ ¬ pc.inFlight
  · right
    exact ⟨if_pos ends, ends⟩
  · left
    exact ⟨if_neg ends, ends⟩

/-- A call in flight keeps its handle. -/
theorem settle_of_inFlight (inFlight : pc.inFlight = true) : s.settle record pc = s := by
  simp [settle, inFlight]

/-- Nothing brings a dropped receiver back. -/
theorem dropHandle_rx_receiver_isSome {handle : HandleId}
    (alive : (s.dropHandle handle).rx.receiver.isSome) : s.rx.receiver.isSome := by
  rw [dropHandle_rx_receiver] at alive
  split at alive
  · cases alive
  · exact alive

/-- A receive half that is there at the end of a call was there before. -/
theorem settle_rx_receiver_isSome (alive : (s.settle record pc).rx.receiver.isSome) :
    s.rx.receiver.isSome := by
  rcases s.settle_cases record pc with ⟨same, _⟩ | ⟨dropped, _⟩
  · rwa [same] at alive
  · rw [dropped] at alive
    exact s.dropHandle_rx_receiver_isSome alive

/-- The end of a call leaves the one-shots alone. -/
@[simp] theorem settle_oneshots : (s.settle record pc).oneshots = s.oneshots := by
  unfold settle
  split <;> rfl

/-- The end of a call leaves the slot alone. -/
@[simp] theorem settle_terminalError :
    (s.settle record pc).terminalError = s.terminalError := by
  unfold settle
  split <;> rfl

/-- The end of a call leaves the task where it is. -/
@[simp] theorem settle_pc : (s.settle record pc).pc = s.pc := by
  unfold settle
  split <;> rfl

/-- The end of a call reads nothing from the stream. -/
@[simp] theorem settle_items : (s.settle record pc).items = s.items := by
  unfold settle
  split <;> rfl

/-- The end of a call writes nothing to the sink. -/
@[simp] theorem settle_sinkOps : (s.settle record pc).sinkOps = s.sinkOps := by
  unfold settle
  split <;> rfl

/-- The end of a call keeps what was accepted. -/
@[simp] theorem settle_tx_sent : (s.settle record pc).tx.sent = s.tx.sent := by
  unfold settle
  split <;> rfl

/-- The end of a call keeps what was taken from the tx channel. -/
@[simp] theorem settle_tx_taken : (s.settle record pc).tx.taken = s.tx.taken := by
  unfold settle
  split <;> rfl

/-- The end of a call keeps what is queued. -/
@[simp] theorem settle_tx_queue : (s.settle record pc).tx.queue = s.tx.queue := by
  unfold settle
  split <;> rfl

/-- The task keeps its receiver at the end of a call. -/
@[simp] theorem settle_tx_receiver : (s.settle record pc).tx.receiver = s.tx.receiver := by
  unfold settle
  split <;> rfl

/-- The end of a call keeps what was delivered. -/
@[simp] theorem settle_rx_sent : (s.settle record pc).rx.sent = s.rx.sent := by
  unfold settle
  split <;> simp

/-- The end of a call keeps what was received. -/
@[simp] theorem settle_rx_taken : (s.settle record pc).rx.taken = s.rx.taken := by
  unfold settle
  split <;> simp

/-- The task keeps its sender at the end of a call. -/
@[simp] theorem settle_rx_senders : (s.settle record pc).rx.senders = s.rx.senders := by
  unfold settle
  split <;> simp

end Connection

namespace System

open Connection

section Calls

variable (s : System cfg E)

/-- A call that begins is recorded under the next name. -/
theorem begin_calls_self (handle : HandleId) (op : Op) (pc : CallPc E) :
    (s.begin handle op pc).calls s.started =
      some { op := op, handle := handle, pc := pc } :=
  Function.update_self ..

/-- The calls before it are as they were. -/
theorem begin_calls_of_ne {handle : HandleId} {op : Op} {pc : CallPc E} {call : CallId}
    (old : call ≠ s.started) : (s.begin handle op pc).calls call = s.calls call :=
  Function.update_of_ne old ..

/-- A call that moves on is recorded where it has come to. -/
theorem moveTo_calls_self (call : CallId) (record : Call E) (pc : CallPc E) :
    (s.moveTo call record pc).calls call = some { record with pc := pc } :=
  Function.update_self ..

/-- The other calls are as they were. -/
theorem moveTo_calls_of_ne {call other : CallId} {record : Call E} {pc : CallPc E}
    (different : other ≠ call) : (s.moveTo call record pc).calls other = s.calls other :=
  Function.update_of_ne different ..

variable {s}

/-- The calls once one is added: the added one, and those from before. -/
theorem begin_found {handle : HandleId} {op : Op} {pc : CallPc E} {call : CallId}
    {record : Call E} (found : (s.begin handle op pc).calls call = some record) :
    (call = s.started ∧ record = { op := op, handle := handle, pc := pc }) ∨
      (call ≠ s.started ∧ s.calls call = some record) := by
  by_cases here : call = s.started
  · subst here
    rw [begin_calls_self] at found
    exact .inl ⟨rfl, (Option.some.inj found).symm⟩
  · rw [begin_calls_of_ne s here] at found
    exact .inr ⟨here, found⟩

/-- The calls once one is moved on: that one, and the others as before. -/
theorem moveTo_found {call other : CallId} {record record' : Call E} {pc : CallPc E}
    (found : (s.moveTo call record pc).calls other = some record') :
    (other = call ∧ record' = { record with pc := pc }) ∨
      (other ≠ call ∧ s.calls other = some record') := by
  by_cases here : other = call
  · subst here
    rw [moveTo_calls_self] at found
    exact .inl ⟨rfl, (Option.some.inj found).symm⟩
  · rw [moveTo_calls_of_ne s here] at found
    exact .inr ⟨here, found⟩

end Calls

/-- The rules of the system. -/
inductive Step (s : System cfg E) : Action E → System cfg E → Prop where
  | loop {action conn} (step : s.conn.LoopStep action conn) :
      Step s (.loop action) { s with conn := conn }
  | startReceive {handle} (permitted : s.Permits handle .nextRawMessage) :
      Step s (.start handle .nextRawMessage) (s.begin handle .nextRawMessage .receiving)
  | startSend {handle op} (permitted : s.Permits handle op) (sends : op.receives = false) :
      Step s (.start handle op) (s.begin handle op .sending)
  | pollFrame {handle message rx} (permitted : s.Permits handle .pollNext)
      (received : s.conn.rx.Received message rx) :
      Step s (.start handle .pollNext)
        (({ s with conn := { s.conn with rx := rx } } : System cfg E).begin handle .pollNext
          (.returned (.polled (some (.ok message)))))
  | pollEnd {handle} (permitted : s.Permits handle .pollNext) (empty : s.conn.rx.queue = [])
      (gone : s.conn.rx.senders = ∅) :
      Step s (.start handle .pollNext)
        ((s.takeTerminalErrorOpt s.started).begin handle .pollNext
          (.returned (.polled (s.conn.terminalError.map .error))))
  | pollPending {handle} (permitted : s.Permits handle .pollNext) :
      Step s (.start handle .pollNext) s
  | accept {call record payload tx} (found : s.calls call = some record)
      (atSend : record.pc = .sending) (enqueues : record.op.payload call = some payload)
      (accepted : s.conn.tx.Accepted payload tx) :
      Step s (.advance call)
        (({ s with conn := { s.conn with tx := tx } } : System cfg E).moveTo call record
          record.op.accepted)
  | refuseSend {call record} (found : s.calls call = some record)
      (atSend : record.pc = .sending) (sends : record.op.sends)
      (closed : s.conn.tx.receiver = none) :
      Step s (.advance call)
        ((s.takeTerminalErrorOpt call).moveTo call record
          (.returned (.refused (takeTerminalError s.conn.terminalError))))
  | refuseClose {call record} (found : s.calls call = some record)
      (atSend : record.pc = .sending) (closes : record.op.sends = false)
      (enqueues : record.op.receives = false) (closed : s.conn.tx.receiver = none) :
      Step s (.advance call) (s.moveTo call record record.op.refusedClose)
  | reply {call record result} (found : s.calls call = some record)
      (awaiting : record.pc = .awaitingReply)
      (answered : (s.conn.oneshots call).value = some result) :
      Step s (.advance call) (s.moveTo call record (record.op.answered result))
  | panic {call record} (found : s.calls call = some record)
      (awaiting : record.pc = .awaitingReply) (unanswered : (s.conn.oneshots call).value = none)
      (dropped : (s.conn.oneshots call).senderDropped = true) :
      Step s (.advance call) (s.moveTo call record .panicked)
  | join {call record closeSent state} (found : s.calls call = some record)
      (joining : record.pc = .joining closeSent) (finished : s.conn.pc = .leaving state .finished) :
      Step s (.advance call)
        ((s.takeTerminalErrorOpt call).moveTo call record
          (.returned (.closed (match s.conn.terminalError with
            | some error => .error error
            | none => closeSent))))
  | connect {call record} (found : s.calls call = some record)
      (connecting : record.pc = .connecting) :
      Step s (.advance call) (s.moveTo call record (.returned .reconnected))
  | recvFrame {call record message rx} (found : s.calls call = some record)
      (receiving : record.pc = .receiving) (received : s.conn.rx.Received message rx) :
      Step s (.advance call)
        (({ s with conn := { s.conn with rx := rx } } : System cfg E).moveTo call record
          (.returned (.received (.ok message))))
  | recvEnd {call record} (found : s.calls call = some record)
      (receiving : record.pc = .receiving) (empty : s.conn.rx.queue = [])
      (gone : s.conn.rx.senders = ∅) :
      Step s (.advance call)
        ((s.takeTerminalErrorOpt call).moveTo call record
          (.returned (.received (.error (takeTerminalError s.conn.terminalError)))))
  | cancel {call record} (found : s.calls call = some record)
      (inFlight : record.pc.inFlight = true) :
      Step s (.cancel call)
        (({ s with conn := s.conn.hangUp call } : System cfg E).moveTo call record .cancelled)
  | clone {handle fresh} (tx : s.conn.IsTx handle) (unused : s.conn.Unused fresh) :
      Step s (.clone handle fresh)
        { s with conn := { s.conn with tx := s.conn.tx.addSender fresh } }
  | split {handle fresh} (whole : s.conn.IsSocketeer handle) (idle : s.Idle handle)
      (unused : s.conn.Unused fresh) :
      Step s (.split handle fresh)
        { s with conn := { s.conn with rx := s.conn.rx.moveReceiver fresh } }
  | reunite {rx tx} (receives : s.conn.IsRx rx) (sends : s.conn.IsTx tx) (idleRx : s.Idle rx)
      (idleTx : s.Idle tx) :
      Step s (.reunite rx tx) { s with conn := { s.conn with rx := s.conn.rx.moveReceiver tx } }
  | drop {handle} (idle : s.Idle handle) :
      Step s (.drop handle) { s with conn := s.conn.dropHandle handle }

variable {s t : System cfg E}

/-- The start of a call, by rules. -/
private theorem start_rule {handle : HandleId} {op : Op} (step : s.start handle op = some t) :
    Step s (.start handle op) t := by
  unfold start at step
  split at step
  · rename_i permitted
    cases op with
    | pollNext =>
        cases step
        unfold pollRecvRaw
        split
        · rename_i message rx received
          exact .pollFrame permitted (Channel.recv_ready_some received)
        · rename_i received
          obtain ⟨empty, gone⟩ := Channel.recv_ready_none_iff.mp received
          exact .pollEnd permitted empty gone
        · exact .pollPending permitted
    | nextRawMessage => cases step; exact .startReceive permitted
    | sendRaw _ | sendRawUnconfirmed _ | close | closeConnection | reconnect =>
        cases step
        exact .startSend permitted rfl
  · cases step

/-- A call at the tx channel, by rules. -/
private theorem advanceSending_rule {call : CallId} {record : Call E}
    (found : s.calls call = some record) (atSend : record.pc = .sending)
    (step : s.advanceSending call record = some t) : Step s (.advance call) t := by
  unfold advanceSending at step
  split at step
  · cases step
  · rename_i payload enqueues
    split at step
    · rename_i tx sends
      cases step
      exact .accept found atSend enqueues (Channel.send_ready_some sends)
    · rename_i sends
      have closed := Channel.send_ready_none_iff.mp sends
      cases step
      obtain ⟨op, handle, pc⟩ := record
      cases op with
      | sendRaw _ | sendRawUnconfirmed _ => exact .refuseSend found atSend rfl closed
      | close | closeConnection | reconnect => exact .refuseClose found atSend rfl rfl closed
      | nextRawMessage | pollNext => cases enqueues
    · cases step

/-- The next step of a call, by rules. -/
private theorem advance_rule {call : CallId} (step : s.advance call = some t) :
    Step s (.advance call) t := by
  unfold advance at step
  split at step
  · cases step
  · rename_i record found
    split at step
    · rename_i atSend
      exact advanceSending_rule found atSend step
    · rename_i awaiting
      unfold advanceReply at step
      split at step
      · rename_i result answered
        cases step
        exact .reply found awaiting ((Oneshot.recv_ready_some_iff _ _).mp answered)
      · rename_i lost
        cases step
        obtain ⟨unanswered, dropped⟩ := (Oneshot.recv_ready_none_iff _).mp lost
        exact .panic found awaiting unanswered dropped
      · cases step
    · rename_i closeSent joining
      unfold advanceJoining at step
      split at step
      · rename_i state finished
        cases step
        exact .join found joining finished
      · cases step
    · rename_i connecting
      cases step
      exact .connect found connecting
    · rename_i receiving
      unfold recvRaw at step
      split at step
      · rename_i message rx received
        cases step
        exact .recvFrame found receiving (Channel.recv_ready_some received)
      · rename_i received
        cases step
        obtain ⟨empty, gone⟩ := Channel.recv_ready_none_iff.mp received
        exact .recvEnd found receiving empty gone
      · cases step
    · cases step
    · cases step
    · cases step

/-- Every step of the system falls under a rule. -/
theorem step_rule {action : Action E} (step : s.step action = some t) : Step s action t := by
  cases action with
  | loop action =>
      obtain ⟨conn, moved, rfl⟩ := Option.map_eq_some_iff.mp step
      exact .loop (loopStep_rule moved)
  | start handle op => exact start_rule step
  | advance call => exact advance_rule step
  | cancel call =>
      simp only [System.step, System.cancel] at step
      split at step
      · cases step
      · rename_i record found
        split at step
        · rename_i inFlight
          cases step
          exact .cancel found inFlight
        · cases step
  | clone handle fresh =>
      simp only [System.step, System.clone] at step
      split at step
      · rename_i allowed
        cases step
        exact .clone allowed.1 allowed.2
      · cases step
  | split handle fresh =>
      simp only [System.step, System.split] at step
      split at step
      · rename_i allowed
        cases step
        exact .split allowed.1 allowed.2.1 allowed.2.2
      · cases step
  | reunite rx tx =>
      simp only [System.step, System.reunite] at step
      split at step
      · rename_i allowed
        cases step
        exact .reunite allowed.1 allowed.2.1 allowed.2.2.1 allowed.2.2.2
      · cases step
  | drop handle =>
      simp only [System.step, System.drop] at step
      split at step
      · rename_i allowed
        cases step
        exact .drop allowed.2
      · cases step

/-- What the task can do, the system can do. -/
theorem step_loop {action : LoopAction E} {conn : Connection cfg E}
    (moves : s.conn.loopStep action = some conn) :
    (system cfg E).step s (.loop action) = some { s with conn := conn } := by
  change (s.conn.loopStep action).map _ = _
  rw [moves]
  rfl

/-- A step of the task is one of its connection. -/
theorem loopStep_of_step {move : LoopAction E} (step : s.step (.loop move) = some t) :
    s.conn.LoopStep move t.conn := by
  obtain ⟨conn, moved, rfl⟩ := Option.map_eq_some_iff.mp step
  exact loopStep_rule moved

/-- A step is a step of the task, or it leaves the task and its history as they
are. -/
theorem step_ledger {action : Action E} (step : s.step action = some t) :
    (∃ move, action = .loop move ∧ s.conn.LoopStep move t.conn) ∨ SameLedger s.conn t.conn := by
  cases step_rule step with
  | loop moved => exact .inl ⟨_, rfl, moved⟩
  | accept found atSend enqueues accepted =>
      right
      refine ⟨⟨?_, ?_, ?_, ?_⟩, ?_, ?_, ?_⟩ <;> simp [moveTo, accepted.taken, accepted.receiver]
  | pollFrame permitted received | recvFrame found receiving received =>
      right
      refine ⟨⟨?_, ?_, ?_, ?_⟩, ?_, ?_, ?_⟩ <;>
        simp [moveTo, System.begin, received.sent, received.senders]
  | startReceive | startSend | pollEnd | pollPending | refuseSend | refuseClose | reply | panic
  | join | connect | recvEnd | cancel | clone | split | reunite | drop =>
      right
      refine ⟨⟨?_, ?_, ?_, ?_⟩, ?_, ?_, ?_⟩ <;>
        simp [moveTo, System.begin, takeTerminalErrorOpt, hangUp]

/-- What the steps of the task keep and what depends on the task and its history
only holds of every reachable connection. -/
theorem ledger_invariant {predicate : Connection cfg E → Prop}
    (reached : (system cfg E).Reachable s) (start : predicate (.create cfg E 0))
    (loop : ∀ {conn next action}, predicate conn → conn.LoopStep action next → predicate next)
    (frame : ∀ {conn next}, predicate conn → SameLedger conn next → predicate next) :
    predicate s.conn := by
  refine reached.invariant (fun s => predicate s.conn) start ?_
  intro state action target _ holds step
  rcases step_ledger step with ⟨move, _, moved⟩ | same
  · exact loop holds moved
  · exact frame holds same

end System

end Socketeer
