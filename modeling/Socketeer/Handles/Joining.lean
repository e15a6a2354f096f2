import Socketeer.SocketLoop.Exit
import Socketeer.Handles.Ownership

/-! # Waiting for the task to end

While `close_connection` waits for the task, the receive half it owns is never
read. Without a keepalive the task can then be stuck: it holds a frame for a
full rx channel, and nothing is queued for it to send.
-/

namespace Socketeer

open Foundation

variable {cfg : LoopConfig} {E : Type}

namespace Connection

/-- Whether a step of the task is possible when this item is next on the
stream. -/
def LoopAction.Offered (item : StreamItem E) : LoopAction E → Prop
  | .arm (.incoming other) => other = item
  | .arm .outgoing | .arm .reserve | .arm .sleep | .sink _ | .finish => True

/-- Whether some step of the task is possible when this item is next on the
stream. -/
def Moves (s : Connection cfg E) (item : StreamItem E) : Prop :=
  ∃ move : LoopAction E, move.Offered item ∧ (s.loopStep move).isSome

/-- Whether the task has nothing to wait for but room on the rx channel, and
there is none. -/
structure Parked (s : Connection cfg E) : Prop where
  untimed : cfg.keepaliveInterval = none
  holding : ∃ frame, s.pc = .select (.backpressure frame)
  full : cfg.channelSize ≤ s.rx.queue.length
  quiet : s.tx.queue = []

variable {s : Connection cfg E}

/-- A payload that is queued can be taken. -/
theorem recvOutgoing_isSome {payload : TxChannelPayload} {rest : List TxChannelPayload}
    (queued : s.tx.queue = payload :: rest) (site : Site) : (s.recvOutgoing site).isSome := by
  obtain ⟨tx, received⟩ := Channel.recv_of_queue queued
  simp [recvOutgoing, received]

/-- With an interval, the timer's arm can be taken. -/
theorem sendKeepalive_isSome {interval : Nat} (timed : cfg.keepaliveInterval = some interval)
    (site : Site) : (s.sendKeepalive site).isSome := by
  simp [sendKeepalive, timed]

/-- With room in the rx channel, the frame that is held can be delivered. -/
theorem reserve_isSome (frame : Message) (room : s.rx.queue.length < cfg.channelSize) :
    (deliverWithBackpressure.turn s frame .reserve).isSome := by
  simp only [deliverWithBackpressure.turn]
  cases sends : s.rx.send frame with
  | ready accepted => cases accepted <;> rfl
  | pending =>
      have full := (Channel.send_pending_iff.mp sends).2
      exact absurd room (Nat.not_lt.mpr full)

/-- Whatever the stream gives, the outer loop can take it. -/
theorem incoming_isSome (item : StreamItem E) : (s.socketLoopSplit (.incoming item)).isSome := by
  simp only [socketLoopSplit]
  cases handleIncoming item with
  | ready incoming => cases incoming <;> rfl
  | sendPong | closeSink => rfl

/-- A task that is not parked can move until it has ended. -/
theorem moves_of_not_parked (item : StreamItem E) (free : ¬ s.Parked)
    (live : ∀ state, s.pc ≠ .leaving state .finished) : s.Moves item := by
  cases pc : s.pc with
  | select site =>
      cases site with
      | outer =>
          refine ⟨.arm (.incoming item), rfl, ?_⟩
          simpa [loopStep, pc] using incoming_isSome item
      | backpressure frame =>
          -- one of the three arms is ready
          cases timed : cfg.keepaliveInterval with
          | some interval =>
              refine ⟨.arm .sleep, trivial, ?_⟩
              simpa [loopStep, pc, deliverWithBackpressure.turn] using
                sendKeepalive_isSome timed (.backpressure frame)
          | none =>
              cases queued : s.tx.queue with
              | cons payload rest =>
                  refine ⟨.arm .outgoing, trivial, ?_⟩
                  simpa [loopStep, pc, deliverWithBackpressure.turn] using
                    recvOutgoing_isSome queued (.backpressure frame)
              | nil =>
                  by_cases full : cfg.channelSize ≤ s.rx.queue.length
                  · exact absurd ⟨timed, ⟨frame, pc⟩, full, queued⟩ free
                  · refine ⟨.arm .reserve, trivial, ?_⟩
                    simpa [loopStep, pc] using reserve_isSome frame (Nat.not_le.mp full)
  | sending _ _ | ponging | closing | keepalive _ =>
      exact ⟨.sink (.ok ()), trivial, by simp [loopStep, pc]⟩
  | leaving state stage =>
      cases stage with
      | finished => exact absurd pc (live state)
      | recording | droppingSender | droppingReceiver =>
          exact ⟨.finish, trivial, by simp [loopStep, pc, socketLoopSplit.finish]⟩

/-- A parked task cannot move as long as both channels keep their other ends. -/
theorem Parked.stuck (parked : s.Parked) (alive : s.rx.receiver.isSome) (senders : s.tx.senders ≠ ∅)
    (move : LoopAction E) : s.loopStep move = none := by
  obtain ⟨frame, pc⟩ := parked.holding
  have reserve : s.rx.send frame = .pending := Channel.send_pending_iff.mpr ⟨alive, parked.full⟩
  have recv : s.tx.recv = .pending := Channel.recv_pending_iff.mpr ⟨parked.quiet, senders⟩
  cases move with
  | sink result => simp [loopStep, pc]
  | finish => simp [loopStep, pc]
  | arm arm =>
      cases arm with
      | outgoing => simp [loopStep, pc, deliverWithBackpressure.turn, recvOutgoing, recv]
      | incoming item => simp [loopStep, pc, deliverWithBackpressure.turn]
      | reserve => simp [loopStep, pc, deliverWithBackpressure.turn, reserve]
      | sleep => simp [loopStep, pc, deliverWithBackpressure.turn, sendKeepalive, parked.untimed]

end Connection

namespace System

open Connection

variable {s t : System cfg E}

/-- A call that owns its handle keeps its sender alive while it is in flight. -/
def KeepsSender (s : System cfg E) : Prop :=
  ∀ call record, s.calls call = some record → record.op.consumes = true →
    record.pc.inFlight = true → record.handle ∈ s.conn.tx.senders

/-- A call that owns its handle is alone on it. -/
def Alone (s : System cfg E) : Prop :=
  ∀ call record, s.calls call = some record → record.op.consumes = true →
    record.pc.inFlight = true → ∀ other, s.Borrows record.handle other → other = call

/-- A call that moves on. -/
private theorem KeepsSender.moveTo (keeps : s.KeepsSender) (alone : s.Alone) {call : CallId}
    {record : Call E} {pc : CallPc E} (found : s.calls call = some record)
    (inFlight : record.pc.inFlight = true) : (s.moveTo call record pc).KeepsSender := by
  intro other record' found' consumes inFlight'
  change record'.handle ∈ (s.conn.settle record pc).tx.senders
  rcases moveTo_found found' with ⟨rfl, rfl⟩ | ⟨different, old⟩
  · rw [settle_of_inFlight s.conn record pc inFlight']
    exact keeps other record found consumes inFlight
  · have sender := keeps other record' old consumes inFlight'
    rcases s.conn.settle_cases record pc with ⟨same, _⟩ | ⟨dropped, _⟩
    · rwa [same]
    · -- a call that is in flight on the same handle would not leave it to the other one
      have apart : record'.handle ≠ record.handle := by
        intro same
        have held : s.Borrows record'.handle call := ⟨record, found, same.symm, inFlight⟩
        exact different (alone other record' old consumes inFlight' call held).symm
      rw [dropped]
      exact Finset.mem_erase.mpr ⟨apart, sender⟩

/-- A new call. -/
private theorem KeepsSender.begin (keeps : s.KeepsSender) {handle : HandleId} {op : Op}
    {pc : CallPc E} (permitted : s.Permits handle op) : (s.begin handle op pc).KeepsSender := by
  intro other record found consumes inFlight
  rcases begin_found found with ⟨_, rfl⟩ | ⟨_, old⟩
  · cases op with
    | closeConnection | reconnect => exact permitted.1.1
    | sendRaw _ | sendRawUnconfirmed _ | close | nextRawMessage | pollNext => cases consumes
  · exact keeps other record old consumes inFlight

/-- A call that owns its handle keeps its sender, in every reachable state. -/
theorem keepsSender (reached : (system cfg E).Reachable s) : s.KeepsSender := by
  refine reached.invariant KeepsSender (fun _ _ found => nomatch found) ?_
  intro s action t reached keeps step
  have alone : s.Alone := fun call record found consumes inFlight =>
    ((ownership reached).exclusive call record found inFlight (.inl consumes)).2
  -- the senders of the tx channel are the same before a call moves on
  have moves : ∀ {u : System cfg E} {call record pc}, u.calls = s.calls →
      u.conn.tx.senders = s.conn.tx.senders → s.calls call = some record →
      record.pc.inFlight = true → (u.moveTo call record pc).KeepsSender := by
    intro u call record pc calls senders found inFlight
    have keepsU : u.KeepsSender := by
      rw [KeepsSender, calls, senders]
      exact keeps
    have aloneU : u.Alone := by
      simp only [Alone, Borrows, calls]
      exact alone
    exact keepsU.moveTo aloneU ((congrFun calls call).trans found) inFlight
  cases step_rule step with
  | loop moved =>
      intro call record found consumes inFlight
      rw [moved.handles.2]
      exact keeps call record found consumes inFlight
  | startReceive permitted | startSend permitted => exact keeps.begin permitted
  | @pollFrame handle message rx permitted received =>
      have begun : (s.begin handle .pollNext
          (.returned (.polled (some (.ok message))))).KeepsSender :=
        keeps.begin permitted
      exact begun
  | @pollEnd handle permitted _ _ =>
      have begun : (s.begin handle .pollNext
          (.returned (.polled (s.conn.terminalError.map .error)))).KeepsSender :=
        keeps.begin permitted
      exact begun
  | pollPending | split | reunite => exact keeps
  | accept found atPoint _ accepted =>
      exact moves rfl accepted.senders found (by rw [atPoint]; rfl)
  | refuseSend found atPoint | refuseClose found atPoint | reply found atPoint | panic found atPoint
  | join found atPoint | connect found atPoint | recvFrame found atPoint | recvEnd found atPoint =>
      exact moves rfl rfl found (by rw [atPoint]; rfl)
  | cancel found inFlight => exact moves rfl rfl found inFlight
  | clone =>
      intro call record found consumes inFlight
      exact Finset.mem_insert_of_mem (keeps call record found consumes inFlight)
  | drop idle =>
      intro call record found consumes inFlight
      refine Finset.mem_erase.mpr ⟨?_, keeps call record found consumes inFlight⟩
      -- the handle is in use
      rintro rfl
      have held : s.Borrows record.handle call := ⟨record, found, rfl, inFlight⟩
      exact idle call ((ownership reached).borrows_started held) held

/-- While `close_connection` is in flight, the task has ended or can move if and
only if it is not parked. -/
theorem joining_moves_iff (reached : (system cfg E).Reachable s) {call : CallId} {record : Call E}
    (found : s.calls call = some record) (closes : record.op = .closeConnection)
    (inFlight : record.pc.inFlight = true) (item : StreamItem E) :
    ((∃ state, s.conn.pc = .leaving state .finished) ∨ s.conn.Moves item) ↔ ¬ s.conn.Parked := by
  have consumes : record.op.consumes = true := by
    rw [closes]
    rfl
  obtain ⟨owner, _⟩ := (ownership reached).exclusive call record found inFlight (.inl consumes)
  have sender := keepsSender reached call record found consumes inFlight
  constructor
  · rintro (⟨state, finished⟩ | ⟨move, _, enabled⟩) parked
    · obtain ⟨frame, pc⟩ := parked.holding
      rw [finished] at pc
      cases pc
    · rw [parked.stuck (by rw [owner]; rfl) (Finset.ne_empty_of_mem sender) move] at enabled
      cases enabled
  · intro free
    by_cases ended : ∃ state, s.conn.pc = .leaving state .finished
    · exact .inl ended
    · exact .inr (moves_of_not_parked item free fun state finished => ended ⟨state, finished⟩)

/-- Two data frames arrive, the second one is held, and `close_connection` sends
its close frame. -/
def closeWhileHolding : List (Action Unit) :=
  [.loop (.arm (.incoming (some (.ok (.binary [1]))))),
    .loop (.arm (.incoming (some (.ok (.binary [2]))))), .start 0 .closeConnection, .advance 0,
    .loop (.arm .outgoing), .loop (.sink (.ok ())), .advance 0]

/-- The task waits for a consumer that waits for the task. -/
theorem close_connection_stuck :
    let s := (system .single Unit).follow (.create .single Unit) closeWhileHolding
    (system .single Unit).Reachable s ∧
      s.calls 0 = some ⟨.closeConnection, 0, .joining (.ok ())⟩ ∧
      s.conn.pc = .select (.backpressure (.binary [2])) ∧
      ∀ move, s.step (.loop move) = none := by
  refine ⟨(system .single Unit).follow_reachable closeWhileHolding, rfl, by decide, ?_⟩
  intro move
  rcases move with ⟨_ | _ | _ | _⟩ | _ | _ <;> rfl

/-- `close_connection` sends its close frame while nothing is held. -/
def closeWhileReading : List (Action Unit) :=
  [.loop (.arm (.incoming (some (.ok (.binary [1]))))), .start 0 .closeConnection, .advance 0,
    .loop (.arm .outgoing), .loop (.sink (.ok ())), .advance 0]

theorem joining_moves_iff_closeWhileReading :
    let s := (system .single Unit).follow (.create .single Unit) closeWhileReading
    s.conn.pc = .select .outer ∧ ((∃ state, s.conn.pc = .leaving state .finished) ∨
      s.conn.Moves (some (.ok (.binary [2])))) := by
  intro s
  have free : ¬ s.conn.Parked := by
    rintro ⟨_, ⟨frame, holding⟩, _, _⟩
    cases holding
  have found : s.calls 0 = some ⟨.closeConnection, 0, .joining (.ok ())⟩ := rfl
  have reached : (system .single Unit).Reachable s :=
    (system .single Unit).follow_reachable closeWhileReading
  exact ⟨by decide, (joining_moves_iff reached found rfl rfl _).mpr free⟩

end System

end Socketeer
